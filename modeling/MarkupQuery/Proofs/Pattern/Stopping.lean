import Mathlib.Data.List.Infix
import MarkupQuery.Pattern.Template
import MarkupQuery.Proofs.Endings

/-!
# What stops the reading of a pattern

The reading of a pattern is stopped by an error in the pattern, or by one of three causes that stand in its text:
a bound of a repeat that is too large, one with too many digits, or flags for two kinds of characters (`Blames`).
The reader keeps what it has taken of the text together with what is left (`At`), and so every cause is found
where it was read (`read_stops`).
-/

namespace MarkupQuery.Pattern

open MarkupQuery.Text

variable {α β : Type} {text w u v : Chars} {st : ReadState}

/-! ## Causes -/

/-- Digits that stand in a pattern as a bound of a repeat: after an opening brace, or after one, other digits and
a comma. -/
def IsBound (text ds : Chars) : Prop :=
  (∀ c ∈ ds, isAsciiDigit c = true) ∧
    ('\x7b' :: ds <:+: text ∨
      ∃ low, (∀ c ∈ low, isAsciiDigit c = true) ∧ '\x7b' :: low ++ ',' :: ds <:+: text)

/-- A flag that is written in a pattern at the start of a group. -/
def AsksFor (text : Chars) (flag : FlagLetter) : Prop :=
  ∃ ls, '(' :: '?' :: ls <:+: text ∧ (∀ c ∈ ls, (flagLetter? c).isSome = true) ∧
    ∃ c ∈ ls, flagLetter? c = some flag

/-- The cause of what stops the reading of a pattern. -/
inductive Blames (text : Chars) : ReadFault → Prop
  | malformed (e : PatternError) : Blames text (.malformed e)
  | tooManyRepeats {ds : Chars} (h : IsBound text ds) (hlarge : repeatLimit ≤ decimalNumber ds) :
      Blames text .tooManyRepeats
  | tooManyDigits {ds : Chars} (h : IsBound text ds) (hlong : digitLimit < ds.length) :
      Blames text (.tooManyDigits ds.length)
  | mixedFlags (hascii : AsksFor text .ascii) (hunicode : AsksFor text .unicode) : Blames text .mixedFlags

/-- The faults that may stop a reading function; an error in the text always may. -/
structure Causes where
  holds : ReadFault → Prop
  malformed (e : PatternError) : holds (.malformed e)

/-- The causes that stand in the text of a pattern. -/
def causes (text : Chars) : Causes := ⟨Blames text, .malformed⟩

/-- Errors in the text, and nothing else. -/
def onlyErrors : Causes := ⟨fun f => ∃ e, f = .malformed e, fun e => ⟨e, rfl⟩⟩

/-! ## Places in the text -/

/-- What is left of the text, the token ahead included. -/
def Source.remaining (s : Source) : Chars := (s.ahead.elim [] Token.chars) ++ s.rest

/-- The reader has taken the start `w` of a text, and the flags it has found stand in the text. -/
structure At (text w : Chars) (st : ReadState) : Prop where
  split : text = w ++ st.source.remaining
  ends : st.source.ahead = none → st.source.rest = []
  ascii : st.kinds.1 = true → AsksFor text .ascii
  unicode : st.kinds.2 = true → AsksFor text .unicode

/-- From a place in the text, a reading function is stopped by a cause in the text, or it comes to some place. -/
def Consumes (b : Causes) (text w : Chars) (x : Read α) (q : Chars → α → Prop) : Prop :=
  ∀ st, At text w st → Ends b.holds (fun r => ∃ v, At text v r.2 ∧ q v r.1) (x st)

/-- From every place in the text. -/
abbrev Goes (b : Causes) (text : Chars) (x : Read α) : Prop := ∀ w, Consumes b text w x fun _ _ => True

variable {b : Causes} {q : Chars → α → Prop} {x : Read α} {f : α → Read β}

theorem At.prefix (h : At text w st) : w <+: text := by
  rw [h.split]
  exact List.prefix_append w _

/-! ## One step after the other -/

theorem consumes_pure {a : α} (h : q w a) : Consumes b text w (pure a) q :=
  fun _ hst => .ok ⟨w, hst, h⟩

theorem Consumes.bind {r : Chars → β → Prop} (hx : Consumes b text w x q)
    (hf : ∀ v a, q v a → v <+: text → Consumes b text v (f a) r) : Consumes b text w (x >>= f) r :=
  fun st hst => Ends.bind (hx st hst) fun (_, st') ⟨v, hst', ha⟩ => hf v _ ha hst'.prefix st' hst'

theorem Consumes.mono {r : Chars → α → Prop} (hx : Consumes b text w x q) (h : ∀ v a, q v a → r v a) :
    Consumes b text w x r :=
  fun st hst => (hx st hst).mono (fun _ h => h) fun _ ⟨v, hv, ha⟩ => ⟨v, hv, h _ _ ha⟩

theorem Consumes.any (h : Consumes b text w x q) : Consumes b text w x fun _ _ => True := h.mono fun _ _ _ => trivial

theorem goes_pure (a : α) : Goes b text (pure a) := fun _ => consumes_pure trivial

theorem Goes.bind (hx : Goes b text x) (hf : ∀ a, Goes b text (f a)) : Goes b text (x >>= f) :=
  fun w => (hx w).bind fun v a _ _ => hf a v

/-- Whatever is wrong with the pattern may be said anywhere. -/
theorem consumes_throw (e : PatternError) : Consumes b text w (throw (.malformed e) : Read α) q :=
  fun _ _ => .error (b.malformed e)

theorem consumes_failBack (reason : String) (back : Int) : Consumes b text w (failBack reason back : Read α) q :=
  fun _ _ => .error (b.malformed _)

/-- Nothing comes after an error. -/
theorem consumes_failBack_bind {r : Chars → β → Prop} (reason : String) (back : Int) (k : α → Read β) :
    Consumes b text w (failBack reason back >>= k) r :=
  fun _ _ => .error (b.malformed _)

theorem goes_failBack (reason : String) (back : Int) : Goes b text (failBack reason back : Read α) :=
  fun _ => consumes_failBack reason back

theorem consumes_get {g : ReadState → Read α} (h : ∀ st, At text w st → Consumes b text w (g st) q) :
    Consumes b text w (get >>= g) q :=
  fun st hst => h st hst st hst

theorem goes_get {g : ReadState → Read α} (h : ∀ st, Goes b text (g st)) : Goes b text (get >>= g) :=
  fun w => consumes_get fun st _ => h st w

theorem consumes_modify {g : ReadState → ReadState} (h : ∀ st, At text w st → At text w (g st)) :
    Consumes b text w (modify g) fun _ _ => True :=
  fun st hst => .ok ⟨w, h st hst, trivial⟩

/-- What is kept besides the text and the kinds of characters may change. -/
theorem goes_modify {g : ReadState → ReadState} (hsource : ∀ st, (g st).source = st.source)
    (hkinds : ∀ st, (g st).kinds = st.kinds) : Goes b text (modify g) := by
  refine fun w => consumes_modify fun st hst => ⟨?_, ?_, ?_, ?_⟩
  · rw [hsource]
    exact hst.split
  · rw [hsource]
    exact hst.ends
  · rw [hkinds]
    exact hst.ascii
  · rw [hkinds]
    exact hst.unicode

theorem consumes_ite {c : Prop} [Decidable c] {y : Read α} (hx : Consumes b text w x q) (hy : Consumes b text w y q) :
    Consumes b text w (if c then x else y) q := by
  split
  · exact hx
  · exact hy

theorem goes_ite {c : Prop} [Decidable c] {y : Read α} (hx : Goes b text x) (hy : Goes b text y) :
    Goes b text (if c then x else y) :=
  fun w => consumes_ite (hx w) (hy w)

/-! ## Tokens -/

/-- The next token is looked up in what is left. -/
theorem refill_ends (s : Source) :
    Ends (fun _ => True) (fun s' => s.rest = s'.remaining ∧ (s'.ahead = none → s'.rest = [])) s.refill := by
  unfold Source.refill
  split
  · next hrest => exact .ok ⟨by simp [Source.remaining], fun _ => hrest⟩
  · exact .error trivial
  · next c r hrest => exact .ok ⟨hrest, nofun⟩
  · next c r _ _ hrest => exact .ok ⟨hrest, nofun⟩

theorem at_start {s : Source} {flags : Flags} {kinds : Bool × Bool} (hs : Source.start text = .ok s)
    (hascii : kinds.1 = true → AsksFor text .ascii) (hunicode : kinds.2 = true → AsksFor text .unicode) :
    At text [] ⟨s, flags, [], [], none, [], kinds⟩ := by
  obtain ⟨hsplit, hends⟩ := (refill_ends _).value hs
  exact ⟨hsplit, hends, hascii, hunicode⟩

/-- The token ahead is taken. -/
theorem At.next (hst : At text w st) :
    Ends b.holds (fun r => r.1 = st.source.ahead ∧ At text (w ++ r.1.elim [] Token.chars) r.2) (next st) := by
  have hget (x : ReadState → Read (Option Token)) : (get >>= x) st = x st st := rfl
  rw [Pattern.next, hget]
  have hrefill := refill_ends st.source
  cases hs : st.source.refill with
  | error e => exact .error (b.malformed e)
  | ok s =>
    obtain ⟨hsplit, hends⟩ := hrefill.value hs
    refine .ok ⟨rfl, ⟨?_, hends, hst.ascii, hst.unicode⟩⟩
    change text = w ++ st.source.ahead.elim [] Token.chars ++ s.remaining
    rw [← hsplit, List.append_assoc]
    exact hst.split

theorem consumes_next : Consumes b text w next fun v o => v = w ++ o.elim [] Token.chars :=
  fun _ hst => hst.next.mono (fun _ h => h) fun _ ⟨_, hat⟩ => ⟨_, hat, rfl⟩

theorem goes_next : Goes b text next := fun _ => consumes_next.any

/-- As `Consumes`, with the token ahead known. -/
def ConsumesFrom (b : Causes) (text w : Chars) (o : Option Token) (x : Read α) (q : Chars → α → Prop) : Prop :=
  ∀ st, At text w st → st.source.ahead = o → Ends b.holds (fun r => ∃ v, At text v r.2 ∧ q v r.1) (x st)

theorem Consumes.from (h : Consumes b text w x q) (o : Option Token) : ConsumesFrom b text w o x q :=
  fun st hst _ => h st hst

theorem consumes_peek {g : Option Token → Read α} (h : ∀ o, ConsumesFrom b text w o (g o) q) :
    Consumes b text w (peek >>= g) q :=
  fun st hst => h st.source.ahead st hst rfl

theorem goes_peek {g : Option Token → Read α} (h : ∀ o, Goes b text (g o)) : Goes b text (peek >>= g) :=
  fun w => consumes_peek fun o => (h o w).from o

/-- What was looked up is what is taken. -/
theorem consumesFrom_next {t : Token} {k : Option Token → Read α}
    (hk : Consumes b text (w ++ t.chars) (k (some t)) q) : ConsumesFrom b text w (some t) (next >>= k) q := by
  intro st hst hahead
  refine Ends.bind hst.next fun ⟨o, st'⟩ ⟨ho, hst'⟩ => ?_
  obtain rfl : o = some t := ho.trans hahead
  exact hk st' hst'

theorem consumes_accept (c : Char) : Consumes b text w (accept c) fun v taken => v = if taken then w ++ [c] else w := by
  unfold accept
  refine consumes_peek fun o => ?_
  split
  · next h =>
    rw [beq_iff_eq.mp h]
    exact consumesFrom_next (consumes_pure rfl)
  · refine Consumes.from (consumes_pure ?_) o
    rfl

theorem goes_accept (c : Char) : Goes b text (accept c) := fun _ => (consumes_accept c).any

/-- Characters of a class are taken, and nothing else. -/
theorem consumes_takeWhileClass (p : Char → Bool) (n : Nat) :
    ∀ w, Consumes b text w (takeWhileClass p n) fun v ds => v = w ++ ds ∧ ∀ c ∈ ds, p c = true := by
  induction n with
  | zero => exact fun w => consumes_pure ⟨(List.append_nil w).symm, nofun⟩
  | succ n ih =>
    intro w
    rw [takeWhileClass]
    refine consumes_peek fun o => ?_
    have hnone : Consumes b text w (pure [] : Read Chars) fun v ds => v = w ++ ds ∧ ∀ c ∈ ds, p c = true :=
      consumes_pure ⟨(List.append_nil w).symm, nofun⟩
    split
    · next c =>
      split
      · next hc =>
        refine consumesFrom_next ((ih _).bind fun v ds ⟨hv, hds⟩ _ => consumes_pure ⟨?_, ?_⟩)
        · rw [hv, List.append_assoc]
          rfl
        · exact List.forall_mem_cons.mpr ⟨hc, hds⟩
      · exact hnone.from _
    · exact hnone.from _

theorem goes_takeWhileClass (p : Char → Bool) (n : Nat) : Goes b text (takeWhileClass p n) :=
  fun w => (consumes_takeWhileClass p n w).any

/-- A name is taken together with the character that ends it. -/
theorem consumes_takeName (close : Char) (what : String) (fuel : Nat) : ∀ w name,
    Consumes b text w (takeName close what fuel name) fun v r =>
      ∃ more, r = name ++ more ∧ v = w ++ more ++ [close] := by
  induction fuel with
  | zero =>
    intro w name
    rw [takeName]
    exact consumes_failBack _ _
  | succ fuel ih =>
    intro w name
    rw [takeName]
    refine consumes_next.bind fun v o hv _ => ?_
    subst hv
    split
    · exact consumes_ite (consumes_failBack _ _) (consumes_failBack _ _)
    · next t _ =>
      split
      · next hclose =>
        obtain rfl := eq_of_beq hclose
        exact consumes_ite (consumes_failBack _ _) (consumes_pure ⟨[], by simp, by simp [Token.chars]⟩)
      · refine (ih _ _).mono fun v r ⟨more, hr, hv⟩ => ⟨t.chars ++ more, ?_, ?_⟩
        · rw [hr, List.append_assoc]
        · rw [hv, Option.elim_some, List.append_assoc w]

theorem goes_takeName (close : Char) (what : String) (fuel : Nat) (name : Chars) :
    Goes b text (takeName close what fuel name) :=
  fun w => (consumes_takeName close what fuel w name).any

/-! ## Groups and names -/

theorem goes_groupCount : Goes b text groupCount := goes_get fun _ => goes_pure _

theorem goes_openGroup (name : Option Chars) : Goes b text (openGroup name) := by
  unfold openGroup
  refine goes_groupCount.bind fun index => ?_
  refine Goes.bind (goes_modify ?_ ?_) fun _ => ?_
  · exact fun _ => rfl
  · exact fun _ => rfl
  · split
    · exact goes_pure _
    · refine goes_get fun st => ?_
      split
      · exact goes_failBack _ _
      · refine Goes.bind (goes_modify ?_ ?_) fun _ => goes_pure _
        · exact fun _ => rfl
        · exact fun _ => rfl

theorem goes_closeGroup (index : Nat) (body : Node) : Goes b text (closeGroup index body) :=
  goes_modify (fun _ => rfl) fun _ => rfl

theorem goes_checkBehind (group : Nat) : Goes b text (checkBehind group) := by
  unfold checkBehind
  refine goes_get fun st => ?_
  split
  · exact goes_pure _
  · exact goes_ite (goes_failBack _ _) (goes_ite (goes_failBack _ _) (goes_pure _))

theorem goes_checkName (name : Chars) (back : Nat) : Goes b text (checkName name back) :=
  goes_ite (goes_pure _) (goes_failBack _ _)

theorem goes_conditionGroup (name : Chars) : Goes b text (conditionGroup name) := by
  unfold conditionGroup
  dsimp only
  have hgroup (g : Nat) : Goes b text (do checkBehind g; return g) :=
    (goes_checkBehind g).bind fun _ => goes_pure g
  have hfail (reason : String) (back : Int) :
      Goes b text (do let g ← failBack reason back; checkBehind g; return g) :=
    (goes_failBack reason back).bind hgroup
  refine goes_ite (goes_get fun st => ?_) ?_
  · split
    · exact (goes_pure _).bind hgroup
    · exact hfail _ _
  · split
    · exact hfail _ _
    · refine goes_ite (hfail _ _) (goes_get fun st => ?_)
      refine Goes.bind (goes_modify ?_ ?_) fun _ => (goes_pure _).bind hgroup
      · intro st
        split <;> rfl
      · intro st
        split <;> rfl
    · exact hfail _ _

theorem goes_closeParen (start : Nat) : Goes b text (closeParen start) := by
  unfold closeParen
  exact (goes_accept _).bind fun _ => goes_ite (goes_pure _) (goes_get fun st => goes_failBack _ _)

/-! ## Escapes and sets -/

theorem goes_hexEscape (letter : Char) (digits : Nat) : Goes b text (hexEscape letter digits) := by
  unfold hexEscape
  refine (goes_takeWhileClass _ _).bind fun ds => ?_
  exact goes_ite (goes_failBack _ _) (goes_ite (goes_failBack _ _) (goes_pure _))

theorem goes_nameEscape : Goes b text nameEscape := by
  unfold nameEscape
  refine (goes_accept _).bind fun _ => goes_ite (goes_failBack _ _) (goes_get fun st => ?_)
  exact (goes_takeName _ _ _ _).bind fun name => goes_failBack _ _

theorem goes_checkOctal (digits : Chars) : Goes b text (checkOctal digits) :=
  goes_ite (goes_failBack _ _) (goes_pure _)

theorem goes_setEscape (c : Char) : Goes b text (setEscape c) := by
  unfold setEscape
  split
  · exact goes_pure _
  · split
    · exact goes_pure _
    · refine goes_ite ((goes_hexEscape _ _).bind fun _ => goes_pure _) ?_
      refine goes_ite ((goes_hexEscape _ _).bind fun _ => goes_pure _) ?_
      refine goes_ite ((goes_hexEscape _ _).bind fun _ => goes_pure _) ?_
      refine goes_ite (goes_nameEscape.bind fun _ => goes_pure _) ?_
      refine goes_ite ((goes_takeWhileClass _ _).bind fun _ => ?_) ?_
      · exact (goes_checkOctal _).bind fun _ => goes_pure _
      · exact goes_ite (goes_failBack _ _) (goes_pure _)

theorem goes_groupReference (digits : Chars) (flags : Flags) : Goes b text (groupReference digits flags) := by
  unfold groupReference
  refine goes_groupCount.bind fun n => goes_ite (goes_get fun st => ?_) (goes_failBack _ _)
  exact goes_ite (goes_failBack _ _) ((goes_checkBehind _).bind fun _ => goes_pure _)

theorem goes_nodeEscape (c : Char) (flags : Flags) : Goes b text (nodeEscape c flags) := by
  unfold nodeEscape
  dsimp only
  have hreference (ds : Chars) : Goes b text (groupReference ds flags) := goes_groupReference ds flags
  split
  · exact goes_pure _
  · exact goes_pure _
  · exact goes_pure _
  · exact goes_pure _
  · exact (goes_hexEscape _ _).bind fun _ => goes_pure _
  · exact (goes_hexEscape _ _).bind fun _ => goes_pure _
  · exact (goes_hexEscape _ _).bind fun _ => goes_pure _
  · exact goes_nameEscape.bind fun _ => goes_pure _
  · exact (goes_takeWhileClass _ _).bind fun _ => goes_pure _
  · split
    · exact goes_pure _
    · exact goes_pure _
    · refine goes_ite (goes_peek fun o => ?_) (goes_ite (goes_failBack _ _) (goes_pure _))
      split
      · refine goes_ite (goes_next.bind fun _ => goes_peek fun o => ?_) (hreference _)
        split
        · exact goes_ite (goes_next.bind fun _ => (goes_checkOctal _).bind fun _ => goes_pure _) (hreference _)
        · exact hreference _
      · exact hreference _

theorem goes_setMember (t : Token) : Goes b text (setMember t) := by
  unfold setMember
  split
  · exact goes_pure _
  · exact goes_setEscape _

theorem goes_setMembers (start : Nat) (fuel : Nat) : ∀ items, Goes b text (setMembers start fuel items) := by
  induction fuel with
  | zero => exact fun items => goes_pure items
  | succ fuel ih =>
    intro items
    rw [setMembers]
    have hopen : Goes b text (get >>= fun st => failBack "unterminated character set" (st.source.position - start) :
      Read (List SetItem)) := goes_get fun st => goes_failBack _ _
    refine goes_next.bind fun o => ?_
    split
    · exact hopen
    · next t =>
      refine goes_ite (goes_pure _) ((goes_setMember t).bind fun low => (goes_accept _).bind fun b => ?_)
      refine goes_ite (goes_next.bind fun o => ?_) (ih _)
      split
      · exact hopen
      · exact goes_pure _
      · next u _ =>
        refine (goes_setMember u).bind fun high => ?_
        dsimp only
        split
        · exact goes_ite (goes_failBack _ _) (ih _)
        · exact goes_failBack _ _

theorem goes_readSet (flags : Flags) : Goes b text (readSet flags) := by
  unfold readSet
  refine goes_get fun st => (goes_accept _).bind fun negated => goes_get fun st' => ?_
  exact (goes_setMembers _ _ _).bind fun items => goes_pure _

/-! ## Repeats -/

theorem consumes_takeDigits :
    Consumes b text w takeDigits fun v ds => v = w ++ ds ∧ ∀ c ∈ ds, isAsciiDigit c = true :=
  consumes_get fun _ _ => consumes_takeWhileClass _ _ w

/-- A bound stops the reading if it is too large or too long. -/
theorem consumes_repeatCount {ds : Chars} (h : IsBound text ds) :
    Consumes (causes text) text w (repeatCount ds) fun _ _ => True := by
  intro st hst
  unfold repeatCount
  split
  · next hlong => exact .error (.tooManyDigits h hlong)
  · split
    · next hlarge => exact .error (.tooManyRepeats h hlarge)
    · exact .ok ⟨w, hst, trivial⟩

theorem consumes_closeBounds {before : ReadState} {low high : Chars} (hbefore : At text u before)
    (hlow : IsBound text low) (hhigh : IsBound text high) :
    Consumes (causes text) text w (closeBounds before low high) fun _ _ => True := by
  unfold closeBounds
  refine (goes_accept _ w).bind fun v b _ _ => consumes_ite ?_ ?_
  · exact fun _ _ => .ok ⟨u, hbefore, trivial⟩
  · refine (consumes_repeatCount hlow).bind fun v least _ _ => consumes_ite (consumes_pure trivial) ?_
    refine (consumes_repeatCount hhigh).bind fun v most _ _ => consumes_ite ?_ (consumes_pure trivial)
    exact consumes_get fun _ _ => consumes_failBack _ _

/-- The bounds are read after an opening brace. -/
theorem consumes_braceBounds : Consumes (causes text) text (w ++ ['\x7b']) braceBounds fun _ _ => True := by
  unfold braceBounds
  refine consumes_get fun before hbefore => consumes_peek fun o => ?_
  refine Consumes.from (consumes_ite (consumes_pure trivial) ?_) o
  refine consumes_takeDigits.bind fun v low ⟨hv, hlow⟩ hprefix => ?_
  subst hv
  have hbound : IsBound text low := ⟨hlow, .inl (List.IsInfix.trans ⟨w, [], by simp⟩ hprefix.isInfix)⟩
  refine (consumes_accept _).bind fun v b hv _ => ?_
  subst hv
  cases b with
  | false => exact consumes_closeBounds hbefore hbound hbound
  | true =>
    refine consumes_takeDigits.bind fun v high ⟨hv, hhigh⟩ hprefix => ?_
    subst hv
    refine consumes_closeBounds hbefore hbound ⟨hhigh, .inr ⟨low, hlow, ?_⟩⟩
    exact List.IsInfix.trans ⟨w, [], by simp⟩ hprefix.isInfix

theorem goes_takeGreed : Goes (causes text) text takeGreed := by
  unfold takeGreed
  refine (goes_accept _).bind fun b => goes_ite (goes_pure _) ?_
  exact (goes_accept _).bind fun b => goes_ite (goes_pure _) (goes_pure _)

theorem goes_repeatLast (here : Nat) (c : Char) (flags : Flags) (parts : List Node)
    (bounds : Option (Nat × Option Nat)) : Goes (causes text) text (repeatLast here c flags parts bounds) := by
  unfold repeatLast
  split
  · exact goes_pure _
  · refine goes_get fun st => ?_
    dsimp only
    split
    · exact goes_failBack _ _
    · split
      · exact goes_failBack _ _
      · exact goes_failBack _ _
      · exact goes_takeGreed.bind fun _ => goes_pure _

theorem consumes_readRepeat (c : Char) (flags : Flags) (parts : List Node)
    (hc : (c == '*' || c == '+' || c == '?' || c == '\x7b') = true) :
    Consumes (causes text) text (w ++ [c]) (readRepeat c flags parts) fun _ _ => True := by
  unfold readRepeat
  refine consumes_get fun st _ => ?_
  have hlast (bounds : Option (Nat × Option Nat)) :
      Goes (causes text) text (repeatLast st.source.position c flags parts bounds) :=
    goes_repeatLast _ _ _ _ _
  dsimp only
  split
  · exact hlast _ _
  · exact hlast _ _
  · exact hlast _ _
  · next hstar hplus hmark =>
    have hbrace : c = '\x7b' := by
      simp only [Bool.or_eq_true, beq_iff_eq] at hc
      rcases hc with ((hc | hc) | hc) | hc
      · exact absurd hc hstar
      · exact absurd hc hplus
      · exact absurd hc hmark
      · exact hc
    subst hbrace
    exact consumes_braceBounds.bind fun v bounds _ _ => hlast bounds v

/-! ## Flags -/

/-- The flags turned on so far stand in the pattern as letters. -/
structure Spelled (text w : Chars) (on : List FlagLetter) (ls : Chars) : Prop where
  letters : ∀ c ∈ ls, (flagLetter? c).isSome = true
  flags : ∀ f ∈ on, ∃ c ∈ ls, flagLetter? c = some f
  here : '(' :: '?' :: ls <:+ w
  before : w <+: text

theorem Spelled.asksFor {on : List FlagLetter} {ls : Chars} (h : Spelled text w on ls) : ∀ f ∈ on, AsksFor text f :=
  fun f hf => ⟨ls, h.here.isInfix.trans h.before.isInfix, h.letters, h.flags f hf⟩

/-- All flags that are turned on stand at the start of the group. -/
theorem consumes_flagsOn (fuel : Nat) : ∀ (w ls : Chars) (flag : FlagLetter) (on : List FlagLetter),
    Spelled text w (flag :: on) ls →
    Consumes (causes text) text w (flagsOn fuel flag on) fun _ r => ∀ f ∈ r.1, AsksFor text f := by
  induction fuel with
  | zero => exact fun w ls flag on h => consumes_pure fun f hf => h.asksFor f (List.mem_cons_of_mem _ hf)
  | succ fuel ih =>
    intro w ls flag on h
    rw [flagsOn]
    refine consumes_ite (consumes_failBack_bind _ _ _) ?_
    -- a flag that is on already is not put there again
    have hmore : ∀ f ∈ (if on.contains flag then on else on ++ [flag]), f ∈ flag :: on := by
      intro f hf
      split at hf
      · exact List.mem_cons_of_mem _ hf
      · rw [List.mem_append, List.mem_singleton] at hf
        exact List.mem_cons.mpr hf.symm
    dsimp only
    generalize (if on.contains flag then on else on ++ [flag]) = more at hmore
    refine consumes_ite (consumes_failBack_bind _ _ _) ?_
    have hdone (v : Chars) (close : Char) :
        Consumes (causes text) text v (pure (more, close) : Read (List FlagLetter × Char)) fun _ r =>
          ∀ f ∈ r.1, AsksFor text f :=
      consumes_pure fun f hf => h.asksFor f (hmore f hf)
    refine consumes_next.bind fun v o hv hprefix => ?_
    subst hv
    split
    · exact consumes_failBack _ _
    · next t =>
      split
      · exact hdone _ _
      · exact hdone _ _
      · exact hdone _ _
      · split
        · next f hf =>
          cases t with
          | escaped c => cases hf
          | plain c =>
            -- the next letter stands behind those that spell the flags so far
            refine ih _ (ls ++ [c]) f more ⟨?_, ?_, ?_, hprefix⟩
            · intro d hd
              rcases List.mem_append.mp hd with hd | hd
              · exact h.letters d hd
              · rw [List.mem_singleton.mp hd]
                exact Option.isSome_of_eq_some hf
            · intro g hg
              rcases List.mem_cons.mp hg with rfl | hg
              · exact ⟨c, by simp, hf⟩
              · obtain ⟨d, hd, hgd⟩ := h.flags g (hmore g hg)
                exact ⟨d, List.mem_append_left _ hd, hgd⟩
            · obtain ⟨x, rfl⟩ := h.here
              exact ⟨x, by simp [Token.chars]⟩
        · exact consumes_failBack _ _

theorem goes_flagsOff (fuel : Nat) : ∀ flag off, Goes (causes text) text (flagsOff fuel flag off) := by
  induction fuel with
  | zero => exact fun flag off => goes_pure off
  | succ fuel ih =>
    intro flag off w
    rw [flagsOff]
    refine consumes_ite (consumes_failBack_bind _ _ _) ?_
    refine (goes_next w).bind fun v o _ _ => ?_
    split
    · exact consumes_failBack _ _
    · exact consumes_pure trivial
    · split
      · exact ih _ _ v
      · exact consumes_failBack _ _

theorem goes_flagsAfterDash (fuel : Nat) : Goes (causes text) text (flagsAfterDash fuel) := by
  unfold flagsAfterDash
  refine goes_next.bind fun o => ?_
  split
  · exact goes_failBack _ _
  · split
    · exact goes_flagsOff _ _ _
    · exact goes_failBack _ _

/-- Flags for the whole pattern stand at the start of their group. -/
def WholeStands (text : Chars) (g : FlagGroup) : Prop := ∀ on, g = .whole on → ∀ f ∈ on, AsksFor text f

/-- A kind of characters was asked for before, or is now. -/
theorem asksFor_of_or {on : List FlagLetter} {f : FlagLetter} {old : Bool} (hon : ∀ f ∈ on, AsksFor text f)
    (hold : old = true → AsksFor text f) (h : (old || on.contains f) = true) : AsksFor text f := by
  rcases Bool.or_eq_true_iff.mp h with h | h
  · exact hold h
  · exact hon f (List.contains_iff_mem.mp h)

theorem consumes_flagsInside (on off : List FlagLetter) :
    Consumes (causes text) text w (flagsInside on off) fun _ g => WholeStands text g :=
  consumes_ite (consumes_failBack _ _) (consumes_ite (consumes_failBack _ _) (consumes_pure nofun))

theorem consumes_flagsBefore (close : Char) (fuel : Nat) {on : List FlagLetter} (h : ∀ f ∈ on, AsksFor text f) :
    Consumes (causes text) text w (flagsBefore close fuel on) fun _ g => WholeStands text g := by
  refine consumes_ite (consumes_pure ?_) (consumes_ite (consumes_failBack _ _)
    (consumes_ite ?_ (consumes_flagsInside _ _)))
  · intro on hon
    obtain rfl := FlagGroup.whole.inj hon
    exact h
  · exact (goes_flagsAfterDash _ w).bind fun v off _ _ => consumes_flagsInside _ _

theorem consumes_flagGroup (c : Char) :
    Consumes (causes text) text (w ++ ['(', '?', c]) (flagGroup c) fun _ g => WholeStands text g := by
  unfold flagGroup
  refine consumes_get fun st hst => ?_
  dsimp only
  split
  · next f hf =>
    have hspelled : Spelled text (w ++ ['(', '?', c]) [f] [c] :=
      ⟨List.forall_mem_singleton.mpr (Option.isSome_of_eq_some hf),
        List.forall_mem_singleton.mpr ⟨c, List.mem_singleton_self c, hf⟩, ⟨w, rfl⟩, hst.prefix⟩
    exact (consumes_flagsOn _ _ [c] f [] hspelled).bind fun v r hr _ => consumes_flagsBefore _ _ hr
  · exact consumes_flagsBefore _ _ nofun

/-! ## Groups and sequences -/

theorem goes_skipComment (start fuel : Nat) : Goes (causes text) text (skipComment start fuel) := by
  induction fuel with
  | zero => exact goes_pure ()
  | succ fuel ih =>
    rw [skipComment]
    refine goes_peek fun o => ?_
    split
    · exact goes_get fun _ => goes_failBack _ _
    · exact goes_next.bind fun o => goes_ite (goes_pure _) ih

theorem goes_skipLine (fuel : Nat) : Goes (causes text) text (skipLine fuel) := by
  induction fuel with
  | zero => exact goes_pure ()
  | succ fuel ih =>
    rw [skipLine]
    refine goes_next.bind fun o => ?_
    split
    · exact goes_pure _
    · exact goes_pure _
    · exact ih

/-- The reading functions for parts of a pattern, up to some bound on their nesting. -/
structure GoesAll (text : Chars) (fuel : Nat) : Prop where
  choice (flags : Flags) (top : Bool) : Goes (causes text) text (readChoice fuel flags top)
  branches (flags : Flags) : Goes (causes text) text (readBranches fuel flags)
  sequence (flags : Flags) (first : Bool) (parts : List Node) :
    Goes (causes text) text (readSequence fuel flags first parts)
  group (flags : Flags) (start : Nat) (atStart : Bool) (w : Chars) :
    Consumes (causes text) text (w ++ ['(']) (readGroup fuel flags start atStart) fun _ _ => True

theorem goesAll_zero : GoesAll text 0 where
  choice _ _ := by rw [readChoice]; exact goes_pure _
  branches _ := by rw [readBranches]; exact goes_pure _
  sequence _ _ _ := by rw [readSequence]; exact goes_pure _
  group _ _ _ _ := by rw [readGroup]; exact consumes_pure trivial

section Step

variable {fuel : Nat} {flags : Flags} (ih : GoesAll text fuel)

include ih

theorem GoesAll.choice_succ {top : Bool} : Goes (causes text) text (readChoice (fuel + 1) flags top) := by
  rw [readChoice]
  refine (ih.sequence _ _ _).bind fun first => goes_get fun st => (ih.branches _).bind fun rest => ?_
  split
  · exact goes_pure _
  · exact goes_pure _

theorem GoesAll.branches_succ : Goes (causes text) text (readBranches (fuel + 1) flags) := by
  rw [readBranches]
  refine (goes_accept _).bind fun b => goes_ite ?_ (goes_pure _)
  exact (ih.sequence _ _ _).bind fun branch => (ih.branches _).bind fun rest => goes_pure _

theorem GoesAll.sequence_succ {first : Bool} {parts : List Node} :
    Goes (causes text) text (readSequence (fuel + 1) flags first parts) := by
  rw [readSequence]
  intro w
  refine consumes_peek fun o => ?_
  split
  · exact (consumes_pure trivial).from _
  · exact (consumes_pure trivial).from _
  · exact (consumes_pure trivial).from _
  · next t _ _ =>
    refine consumesFrom_next ?_
    have hmore (p : Node) : Goes (causes text) text (readSequence fuel flags first (p :: parts)) := ih.sequence _ _ _
    have hsame : Goes (causes text) text (readSequence fuel flags first parts) := ih.sequence _ _ _
    dsimp only
    split
    · exact ((goes_nodeEscape _ _).bind hmore) _
    · next c _ _ =>
      refine consumes_ite (hsame _) (consumes_ite ((goes_skipLine _).bind (fun _ => hsame) _) ?_)
      split
      · exact ((goes_readSet _).bind hmore) _
      · exact hmore _ _
      · exact hmore _ _
      · exact hmore _ _
      · refine consumes_get fun st _ => (ih.group _ _ _ w).bind fun v g _ _ => ?_
        split
        · exact hmore _ v
        · exact hsame v
        · exact ih.sequence _ _ _ v
      · split
        · next hc =>
          exact (consumes_readRepeat c flags parts hc).bind fun v parts _ _ => ih.sequence _ _ _ v
        · exact hmore _ _

/-- A group without a number, up to its end. -/
theorem GoesAll.plain (start : Nat) (flags : Flags) : Goes (causes text) text (do
    let body ← readChoice fuel flags false
    closeParen start
    return body) :=
  (ih.choice _ _).bind fun body => (goes_closeParen _).bind fun _ => goes_pure body

theorem GoesAll.capture (start : Nat) (flags : Flags) (name : Option Chars) : Goes (causes text) text (do
    let index ← openGroup name
    let body ← readChoice fuel flags false
    closeParen start
    closeGroup index body
    return GroupResult.part (.group index body)) := by
  refine (goes_openGroup _).bind fun index => (ih.choice _ _).bind fun body => ?_
  exact (goes_closeParen _).bind fun _ => (goes_closeGroup _ _).bind fun _ => goes_pure _

theorem GoesAll.group_succ {start : Nat} {atStart : Bool} :
    Consumes (causes text) text (w ++ ['(']) (readGroup (fuel + 1) flags start atStart) fun _ _ => True := by
  have hplain := ih.plain start
  have hcapture := ih.capture start flags
  rw [readGroup]
  dsimp only
  refine (consumes_accept '?').bind fun v b hv _ => ?_
  cases b with
  | false => exact hcapture none v
  | true =>
    rw [if_pos rfl] at hv
    subst hv
    rw [if_neg (by simp)]
    refine consumes_next.bind fun v o hv _ => ?_
    subst hv
    split
    · exact consumes_failBack _ _
    · exact consumes_failBack _ _
    · next c _ =>
      split
      · -- a group with a name, or a reference to one
        refine Goes.bind (goes_accept _) (fun b => goes_ite ?_ ?_) _
        · refine goes_get fun st => (goes_takeName _ _ _ _).bind fun name => (goes_checkName _ _).bind fun _ => ?_
          exact hcapture _
        · refine (goes_accept _).bind fun b => goes_ite ?_ (goes_next.bind fun o => ?_)
          · refine goes_get fun st => (goes_takeName _ _ _ _).bind fun name => ?_
            refine (goes_checkName _ _).bind fun _ => goes_get fun st => ?_
            split
            · exact goes_failBack _ _
            · refine goes_get fun st => goes_ite (goes_failBack _ _) ?_
              exact (goes_checkBehind _).bind fun _ => goes_pure _
          · split
            · exact goes_failBack _ _
            · exact goes_failBack _ _
      · exact (hplain _).bind (fun _ => goes_pure _) _
      · exact goes_get (fun st => (goes_skipComment _ _).bind fun _ => goes_pure _) _
      · exact (hplain _).bind (fun _ => goes_pure _) _
      · exact (hplain _).bind (fun _ => goes_pure _) _
      · -- what stands before: only the outermost one limits the groups that may be referred to
        refine Goes.bind goes_next (fun o => ?_) _
        split
        · exact goes_failBack _ _
        · next t =>
          have hbehind (g : Option Nat) : Goes (causes text) text (modify fun st => { st with behindFrom := g }) :=
            goes_modify (fun _ => rfl) fun _ => rfl
          refine goes_ite (goes_get fun st => goes_ite ?_ ?_) (goes_failBack _ _)
          · refine goes_groupCount.bind fun n => (hbehind _).bind fun _ => (ih.choice _ _).bind fun body => ?_
            refine goes_ite ((hbehind _).bind fun _ => ?_) ?_
            · exact (goes_closeParen _).bind fun _ => goes_pure _
            · exact (goes_closeParen _).bind fun _ => goes_pure _
          · refine (ih.choice _ _).bind fun body => goes_ite ((hbehind _).bind fun _ => ?_) ?_
            · exact (goes_closeParen _).bind fun _ => goes_pure _
            · exact (goes_closeParen _).bind fun _ => goes_pure _
      · -- a choice by whether a group has matched
        refine goes_get (fun st => (goes_takeName _ _ _ _).bind fun name => ?_) _
        refine (goes_conditionGroup _).bind fun group => (ih.sequence _ _ _).bind fun present => ?_
        have hend (absent : Node) : Goes (causes text) text (do
            closeParen start
            return GroupResult.part (.conditional group present absent)) :=
          (goes_closeParen _).bind fun _ => goes_pure _
        refine (goes_accept _).bind fun b => goes_ite ?_ ((goes_pure _).bind hend)
        refine (ih.sequence _ _ _).bind fun p => goes_peek fun o => ?_
        exact goes_ite ((goes_failBack _ _).bind fun _ => (goes_pure p).bind hend) ((goes_pure p).bind hend)
      · exact (hplain _).bind (fun _ => goes_pure _) _
      · -- flags of the pattern or of a group: their letters stand in the text
        refine consumes_ite ?_ (consumes_failBack _ _)
        have hplace : w ++ ['('] ++ ['?'] ++ (some (Token.plain c)).elim [] Token.chars = w ++ ['(', '?', c] := by
          simp [Token.chars]
        rw [hplace]
        refine (consumes_flagGroup c).bind fun v g hg _ => ?_
        split
        · next on =>
          refine Consumes.bind (consumes_modify fun st hst => ⟨hst.split, hst.ends, ?_, ?_⟩) fun v' _ _ _ => ?_
          · exact asksFor_of_or (hg on rfl) hst.ascii
          · exact asksFor_of_or (hg on rfl) hst.unicode
          · exact goes_ite (goes_get fun _ => goes_failBack _ _) (goes_get fun _ => goes_pure _) _
        · exact (hplain _).bind (fun _ => goes_pure _) _

end Step

theorem goesAll (text : Chars) (fuel : Nat) : GoesAll text fuel := by
  induction fuel with
  | zero => exact goesAll_zero
  | succ fuel ih =>
    exact {
      choice := fun _ _ => ih.choice_succ
      branches := fun _ => ih.branches_succ
      sequence := fun _ _ _ => ih.sequence_succ
      group := fun _ _ _ _ => ih.group_succ }

/-! ## Whole patterns -/

theorem goes_readWhole (length : Nat) : Goes (causes text) text (readWhole length) := by
  intro w
  unfold readWhole
  refine consumes_get fun st _ => ((goesAll text _).choice _ _ w).bind fun v node _ _ => ?_
  refine consumes_get fun st hst => ?_
  split
  · next hkinds =>
    have hkinds := eq_of_beq hkinds
    exact fun _ _ => .error
      (.mixedFlags (hst.ascii (congrArg Prod.fst hkinds)) (hst.unicode (congrArg Prod.snd hkinds)))
  · refine goes_peek (fun o => goes_ite ((goes_failBack _ _).bind fun _ => ?_) ?_) v
    -- at the end of the text or not, a condition may ask for a group that there is not
    all_goals
      refine goes_get fun st => ?_
      split
      · exact fun _ => consumes_throw _
      · exact goes_pure _

/-- **A pattern is wrong, or a cause in its text stops the reading.** -/
theorem read_stops (text : Chars) : FailsOnly (Blames text) (Regex.read text {}) := by
  unfold Regex.read
  cases hstart : Source.start text with
  | error e => exact .error (.malformed e)
  | ok s =>
    have hrun : FailsOnly (Blames text)
        ((readWhole text.length).run ⟨s, {}, [], [], none, [], (({} : Flags).ascii, false)⟩) :=
      (goes_readWhole text.length [] _ (at_start hstart (fun h => by cases h) fun h => by cases h)).failsOnly
    dsimp only
    generalize (readWhole text.length).run _ = result at hrun ⊢
    cases result with
    | error f => exact .error (hrun.fault rfl)
    | ok r =>
      dsimp only
      split
      · exact .error (.malformed _)
      · exact failsOnly_ok

end MarkupQuery.Pattern
