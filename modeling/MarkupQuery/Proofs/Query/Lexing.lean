import MarkupQuery.Query.Reader
import MarkupQuery.Selector.Shorthand
import MarkupQuery.Proofs.Endings
import MarkupQuery.Proofs.Xml.Names

/-!
# Where attributes may stand in queries

The reader of queries takes texts of a certain form (`Lexed`): all quotation marks are closed, and an at sign
outside of them stands at the start, after a character that does not end a step, or right after an operator that
is written like the end of one. What every reading function takes is told once, by induction on the bound on its
nesting (`takesAll`); so a query that is read is such a text (`lexed_of_read`).
-/

namespace MarkupQuery.Query

open MarkupQuery.Text MarkupQuery.Xml MarkupQuery.Selector

variable {a b : Bool} {c : Char} {q s r t u v w : Chars}

/-! ## Quotation marks -/

/-- A quotation mark. -/
def isQuote (c : Char) : Bool := c == '"' || c == '\''

/-- The quotation mark that is open after a text, given the one that is open before it. -/
def openQuote : Option Char → Chars → Option Char
  | q, [] => q
  | none, c :: r => openQuote (if isQuote c then some c else none) r
  | some q, c :: r => openQuote (if c == q then none else some q) r

theorem openQuote_append (q : Option Char) (u v : Chars) :
    openQuote q (u ++ v) = openQuote (openQuote q u) v := by
  induction u generalizing q with
  | nil => cases q <;> rfl
  | cons c u ih => cases q <;> exact ih _

/-- A text without quotation marks opens none. -/
theorem openQuote_of_free (h : ∀ c ∈ w, isQuote c = false) : openQuote none w = none := by
  induction w with
  | nil => rfl
  | cons c w ih =>
    obtain ⟨hc, hw⟩ := List.forall_mem_cons.mp h
    rw [openQuote, hc, if_neg Bool.false_ne_true]
    exact ih hw

/-- A quotation mark stays open up to the next of its kind. -/
theorem openQuote_of_not_mem {q : Char} (h : ∀ c ∈ w, c ≠ q) : openQuote (some q) w = some q := by
  induction w with
  | nil => rfl
  | cons c w ih =>
    obtain ⟨hc, hw⟩ := List.forall_mem_cons.mp h
    rw [openQuote, beq_false_of_ne hc, if_neg Bool.false_ne_true]
    exact ih hw

/-! ## At signs -/

/-- The operators that are written like the end of a step. -/
def stepLikeOperators : List Chars := [['*'], "or".toList, "and".toList, "div".toList, "mod".toList]

/-- An attribute may stand right after a text: it does not end like a step, or it ends with an operator. -/
def AllowsAttribute (u : Chars) : Prop :=
  u.getLast?.any endsStep = false ∨ ∃ o ∈ stepLikeOperators, o <:+ u

theorem AllowsAttribute.append (h : AllowsAttribute v) (hv : v ≠ []) (u : Chars) : AllowsAttribute (u ++ v) := by
  rcases h with h | ⟨o, ho, hsuffix⟩
  · refine .inl ?_
    rw [List.getLast?_append_of_ne_nil u hv]
    exact h
  · exact .inr ⟨o, ho, hsuffix.trans (List.suffix_append u v)⟩

theorem allowsAttribute_concat (hc : endsStep c = false) (u : Chars) : AllowsAttribute (u ++ [c]) := by
  refine .inl ?_
  rw [List.getLast?_concat]
  exact hc

/-- A part of a query: all quotation marks are closed in it, and attributes stand where they may. It may only
start with an attribute if `a` is set. -/
structure Lexed (a : Bool) (w : Chars) : Prop where
  closed : openQuote none w = none
  admits : ∀ u v, w = u ++ '@' :: v → openQuote none u = none → AllowsAttribute u ∧ (u = [] → a = true)

/-- Part after part is read. The second may start with an attribute if the first allows that. -/
theorem Lexed.append (hu : Lexed a u) (hv : Lexed b v) (h : b = true → AllowsAttribute u ∧ (u = [] → a = true)) :
    Lexed a (u ++ v) where
  closed := by rw [openQuote_append, hu.closed, hv.closed]
  admits := by
    intro x y hsplit hopen
    rcases List.append_eq_append_iff.mp hsplit with ⟨z, rfl, hz⟩ | ⟨z, rfl, hz⟩
    · -- the at sign is in the second part
      rw [openQuote_append, hu.closed] at hopen
      obtain ⟨hallows, hstart⟩ := hv.admits z y hz hopen
      by_cases hnil : z = []
      · rw [hnil, List.append_nil]
        exact h (hstart hnil)
      · exact ⟨hallows.append hnil u, fun heq => absurd (List.append_eq_nil_iff.mp heq).2 hnil⟩
    · cases z with
      | nil =>
        rw [List.append_nil] at *
        obtain ⟨-, hstart⟩ := hv.admits [] y hz.symm rfl
        exact h (hstart rfl)
      | cons d z =>
        obtain ⟨rfl, rfl⟩ := List.cons.inj hz
        exact hu.admits x z rfl hopen

theorem lexed_nil : Lexed a [] where
  closed := rfl
  admits := by simp

/-- A character that is neither a quotation mark nor an at sign. -/
def isCommon (c : Char) : Bool := !isQuote c && c != '@'

theorem lexed_of_common (h : ∀ c ∈ w, isCommon c = true) : Lexed a w where
  closed := openQuote_of_free fun c hc => by
    have hcommon := h c hc
    rw [isCommon, Bool.and_eq_true, Bool.not_eq_true'] at hcommon
    exact hcommon.1
  admits := by
    rintro u v rfl -
    have hat := h '@' (by simp)
    cases hat

/-- A text between quotation marks, whatever it holds. -/
theorem lexed_quoted {q : Char} (hq : isQuote q = true) (hw : ∀ c ∈ w, c ≠ q) : Lexed a (q :: w ++ [q]) where
  closed := by
    rw [List.cons_append, openQuote, if_pos hq, openQuote_append, openQuote_of_not_mem hw]
    simp [openQuote]
  admits := by
    intro u v hsplit hopen
    cases u with
    | nil =>
      obtain ⟨rfl, -⟩ := List.cons.inj hsplit
      cases hq
    | cons d u =>
      obtain ⟨rfl, hrest⟩ := List.cons.inj hsplit
      have hu : ∀ c ∈ u, c ≠ q := by
        rcases List.append_eq_append_iff.mp hrest with ⟨z, -, hz⟩ | ⟨z, rfl, -⟩
        · have hlength := congrArg List.length hz
          simp only [List.length_append, List.length_cons, List.length_nil] at hlength
          obtain rfl := List.length_eq_zero_iff.mp (show z.length = 0 by omega)
          obtain ⟨rfl, -⟩ := List.cons.inj hz
          cases hq
        · exact fun c hc => hw c (List.mem_append_left z hc)
      rw [openQuote, if_pos hq, openQuote_of_not_mem hu] at hopen
      cases hopen

/-! ## Reading on -/

/-- What is read between two texts, the second being what is left of the first. -/
def Reads (a : Bool) (s r : Chars) : Prop := ∃ w, s = w ++ r ∧ Lexed a w

/-- What is read allows an attribute right after it. -/
def Opens (a : Bool) (s r : Chars) : Prop :=
  ∃ w, s = w ++ r ∧ Lexed a w ∧ AllowsAttribute w ∧ (w = [] → a = true)

theorem Reads.refl (s : Chars) : Reads a s s := ⟨[], rfl, lexed_nil⟩

theorem Reads.trans (h : Reads a s t) (ht : Reads false t r) : Reads a s r := by
  obtain ⟨u, rfl, hu⟩ := h
  obtain ⟨v, rfl, hv⟩ := ht
  exact ⟨u ++ v, by rw [List.append_assoc], hu.append hv nofun⟩

theorem Opens.reads (h : Opens a s t) (ht : Reads b t r) : Reads a s r := by
  obtain ⟨u, rfl, hu, hallows⟩ := h
  obtain ⟨v, rfl, hv⟩ := ht
  exact ⟨u ++ v, by rw [List.append_assoc], hu.append hv fun _ => hallows⟩

theorem Reads.weaken (h : Reads false s r) : Reads a s r :=
  Reads.trans (.refl s) h

/-- What does not start with an at sign needs no leave to start with an attribute. -/
theorem Reads.strict (h : Reads b s r) (hs : s.head? ≠ some '@') : Reads a s r := by
  obtain ⟨w, rfl, hw⟩ := h
  refine ⟨w, rfl, hw.closed, fun u v hsplit hopen => ⟨(hw.admits u v hsplit hopen).1, ?_⟩⟩
  rintro rfl
  rw [hsplit] at hs
  exact absurd rfl hs

theorem reads_common (h : ∀ c ∈ w, isCommon c = true) (r : Chars) : Reads a (w ++ r) r :=
  ⟨w, rfl, lexed_of_common h⟩

theorem reads_one (h : isCommon c = true) (r : Chars) : Reads a (c :: r) r :=
  reads_common (w := [c]) (List.forall_mem_singleton.mpr h) r

/-- After a character that does not end a step an attribute may stand. -/
theorem opens_one (h : isCommon c = true) (hc : endsStep c = false) (r : Chars) : Opens a (c :: r) r :=
  ⟨[c], rfl, lexed_of_common (List.forall_mem_singleton.mpr h), allowsAttribute_concat hc [], nofun⟩

/-- Blanks change nothing. -/
theorem skip_spec (s : Chars) : ∃ w, s = w ++ skip s ∧ ∀ c ∈ w, isMarkupBlank c = true :=
  ⟨s.takeWhile isMarkupBlank, List.takeWhile_append_dropWhile.symm, fun _ hc => List.mem_takeWhile_imp hc⟩

theorem isCommon_of_isMarkupBlank (h : isMarkupBlank c = true) : isCommon c = true ∧ endsStep c = false := by
  simp only [isMarkupBlank, Bool.or_eq_true, beq_iff_eq] at h
  rcases h with ((rfl | rfl) | rfl) | rfl <;> decide

theorem reads_skip (s : Chars) : Reads a s (skip s) := by
  obtain ⟨w, hw, hblank⟩ := skip_spec s
  exact ⟨w, hw, lexed_of_common fun c hc => (isCommon_of_isMarkupBlank (hblank c hc)).1⟩

theorem Reads.skip (h : Reads a s r) : Reads a s (skip r) := h.trans (reads_skip r)

theorem Opens.common (h : Opens a s (w ++ r)) (hw : ∀ c ∈ w, isCommon c = true ∧ endsStep c = false) :
    Opens a s r := by
  obtain ⟨u, rfl, hu, hallows⟩ := h
  refine ⟨u ++ w, by rw [List.append_assoc],
    hu.append (lexed_of_common (a := false) fun c hc => (hw c hc).1) nofun, ?_⟩
  by_cases hnil : w = []
  · rw [hnil, List.append_nil]
    exact hallows
  · refine ⟨.append (.inl ?_) hnil u, fun heq => absurd (List.append_eq_nil_iff.mp heq).2 hnil⟩
    rw [List.getLast?_eq_some_getLast hnil]
    exact (hw _ (List.getLast_mem hnil)).2

theorem Opens.skip (h : Opens a s r) : Opens a s (skip r) := by
  obtain ⟨w, hw, hblank⟩ := skip_spec r
  rw [hw] at h
  exact h.common fun c hc => isCommon_of_isMarkupBlank (hblank c hc)

theorem opens_refl (s : Chars) : Opens true s s := ⟨[], rfl, lexed_nil, .inl rfl, fun _ => rfl⟩

/-! ## Names, literals and numbers -/

theorem isCommon_of_isNameMore (h : isNameMore c = true) : isCommon c = true := by
  rw [isCommon, isQuote, Bool.and_eq_true, Bool.not_eq_true', Bool.or_eq_false_iff]
  refine ⟨⟨?_, ?_⟩, ?_⟩
  · rw [beq_eq_false_iff_ne]
    rintro rfl
    exact absurd h (by decide)
  · rw [beq_eq_false_iff_ne]
    rintro rfl
    exact absurd h (by decide)
  · rw [bne_iff_ne]
    rintro rfl
    exact absurd h (by decide)

theorem spanPlainName_common (s : Chars) : ∀ c ∈ (spanPlainName s).1, isCommon c = true := by
  intro c hc
  rcases spanPlainName_spec s with ⟨hnil, -⟩ | ⟨hname, -⟩
  · rw [hnil] at hc
    cases hc
  · exact isCommon_of_isNameMore (isNameMore_of_isNameChar (hname.isNameChar c hc))

theorem spanPlainName_split (s : Chars) : (spanPlainName s).1 ++ (spanPlainName s).2 = s := by
  rcases spanPlainName_spec s with ⟨hnil, hrest, -⟩ | ⟨-, -, hsplit⟩
  · rw [hnil, hrest, List.nil_append]
  · exact hsplit

theorem reads_spanPlainName (s : Chars) : Reads a s (spanPlainName s).2 := by
  have hreads := reads_common (a := a) (spanPlainName_common s) (spanPlainName s).2
  rwa [spanPlainName_split] at hreads

theorem reads_spanQualified (s : Chars) : Reads a s (spanQualified s).2.2 := by
  have hname := reads_spanPlainName (a := a) s
  unfold spanQualified
  dsimp only
  split
  · exact .refl s
  · next _ _ r hrest _ =>
    rw [hrest] at hname
    exact (hname.trans (reads_one (by decide) r)).trans (reads_spanPlainName r)
  · exact hname

/-- Nothing is known of a fault. -/
abbrev Gives {α : Type} (p : α → Prop) (x : Except Reason α) : Prop := Ends (fun _ => True) p x

theorem spanLiteral_gives (s : Chars) : Gives (fun x => Reads a s x.2) (spanLiteral s) := by
  unfold spanLiteral
  split
  · next q r =>
    split
    · next hq =>
      dsimp only
      split
      · next d rest hrest =>
        split
        · next hd =>
          obtain rfl := beq_iff_eq.mp hd
          have hsplit := List.takeWhile_append_dropWhile (p := fun c => c != d && isXmlChar c) (l := r)
          rw [hrest] at hsplit
          refine .ok ⟨d :: r.takeWhile (fun c => c != d && isXmlChar c) ++ [d], ?_, lexed_quoted hq fun c hc => ?_⟩
          · rw [List.cons_append, List.cons_append, List.append_assoc, List.singleton_append, hsplit]
          · have hbody := List.mem_takeWhile_imp hc
            rw [Bool.and_eq_true, bne_iff_ne] at hbody
            exact hbody.1
        · exact .error trivial
      · exact .error trivial
    · exact .error trivial
  · exact .error trivial

theorem reads_takeWhile {p : Char → Bool} (h : ∀ c, p c = true → isCommon c = true) (s : Chars) :
    Reads a s (s.dropWhile p) := by
  have hreads := reads_common (a := a) (w := s.takeWhile p) (fun c hc => h c (List.mem_takeWhile_imp hc))
    (s.dropWhile p)
  rwa [List.takeWhile_append_dropWhile] at hreads

theorem isCommon_of_isAsciiDigit (h : isAsciiDigit c = true) : isCommon c = true := by
  refine isCommon_of_isNameMore ?_
  simp [isNameMore, isNameChar, h]

theorem spanNumber_reads {x : Float} (h : spanNumber s = some (x, r)) : Reads a s r := by
  have hdigits (s : Chars) : Reads false s (s.dropWhile isAsciiDigit) :=
    reads_takeWhile (fun c => isCommon_of_isAsciiDigit) s
  unfold spanNumber at h
  dsimp only at h
  obtain ⟨⟨y, t⟩, hfraction, hexponent⟩ := Option.map_eq_some_iff.mp h
  -- digits before the point and after it, then the exponent
  have hrest : Reads a s t := by
    refine ((hdigits s).weaken).trans ?_
    generalize s.dropWhile isAsciiDigit = u at hfraction ⊢
    split at hfraction
    · next v =>
      split at hfraction
      · cases hfraction
      · obtain ⟨-, rfl⟩ := Prod.mk.inj (Option.some.inj hfraction)
        exact (reads_one (by decide) v).trans (hdigits v)
    · obtain ⟨-, rfl⟩ := Prod.mk.inj (Option.some.inj hfraction)
      exact .refl _
  refine hrest.trans ?_
  dsimp only at hexponent
  split at hexponent
  · next e v =>
    split at hexponent
    · next he =>
      have hletter : isCommon e = true := by
        rw [Bool.or_eq_true, beq_iff_eq, beq_iff_eq] at he
        rcases he with rfl | rfl <;> decide
      obtain ⟨-, rfl⟩ := Prod.mk.inj hexponent
      refine (reads_one hletter v).trans (.trans ?_ (hdigits _))
      split
      · exact reads_one (by decide) _
      · exact reads_one (by decide) _
      · exact .refl _
    · obtain ⟨-, rfl⟩ := Prod.mk.inj hexponent
      exact .refl _
  · obtain ⟨-, rfl⟩ := Prod.mk.inj hexponent
    exact .refl _

/-! ## Operators, axes and tests -/

/-- What an operator is written with, and that an attribute may follow it. -/
theorem operators_open : ∀ ops ∈ operatorLevels, ∀ o ∈ ops, o.1.toList ≠ [] ∧
    (∀ c ∈ o.1.toList, isCommon c = true) ∧
    (o.1.toList.getLast?.any endsStep = false ∨ o.1.toList ∈ stepLikeOperators) := by
  decide +kernel

theorem opens_operatorAt? {level : Nat} {op : Operator} (h : operatorAt? level s = some (op, r)) :
    Opens false s r := by
  obtain ⟨o, ho, hfound⟩ := List.exists_of_findSome?_eq_some h
  dsimp only at hfound
  split at hfound
  · next hword =>
    obtain ⟨rest, rfl⟩ := List.isPrefixOf_iff_prefix.mp hword
    obtain ⟨-, rfl⟩ := Prod.mk.inj (Option.some.inj hfound)
    cases hlevel : operatorLevels[level]? with
    | none => simp [hlevel] at ho
    | some ops =>
      rw [hlevel, Option.getD_some] at ho
      obtain ⟨hne, hcommon, hlast⟩ := operators_open ops (List.mem_of_getElem? hlevel) o ho
      refine ⟨o.1.toList, ?_, lexed_of_common hcommon, ?_, fun hnil => absurd hnil hne⟩
      · rw [← String.length_toList, List.drop_left]
      · exact hlast.imp_right fun hmem => ⟨_, hmem, List.suffix_refl _⟩
  · cases hfound

theorem lexed_at : Lexed true ['@'] where
  closed := rfl
  admits := by
    intro u v hsplit _
    cases u with
    | nil => exact ⟨.inl rfl, fun _ => rfl⟩
    | cons d u => simp at hsplit

/-- The axis of a step may be an at sign at its very start. -/
theorem reads_readAxis (s : Chars) : Reads true s (readAxis s).2.2 := by
  unfold readAxis
  split
  · exact .refl _
  · next r => exact Reads.skip ⟨['@'], rfl, lexed_at⟩
  · have hname := reads_spanPlainName (a := true) s
    dsimp only
    split
    · exact hname
    · split
      · next r hrest =>
        have haxis := hname.skip
        rw [hrest] at haxis
        exact (haxis.trans (reads_one (by decide) _)).trans (reads_one (by decide) _)
      · exact hname.skip

theorem readTest_gives (name s : Chars) : Gives (fun x => Reads false s x.2) (readTest name s) := by
  unfold readTest
  dsimp only
  have hskip := reads_skip (a := false) s
  generalize skip s = t at hskip ⊢
  split
  · exact .ok (hskip.trans (reads_one (by decide) _))
  · have hname : Reads false s (if name.isEmpty then spanPlainName t else (name, t)).2 := by
      split
      · exact hskip.trans (reads_spanPlainName t)
      · exact hskip
    generalize (if name.isEmpty then spanPlainName t else (name, t)) = x at hname ⊢
    obtain ⟨name, t⟩ := x
    have hnext := hname.skip
    refine ends_ite (.error trivial) ?_
    dsimp only at hnext ⊢
    split
    · -- a kind of nodes, with parentheses that may hold a literal
      next r hr =>
      rw [hr] at hnext
      have hinside := (hnext.trans (reads_one (by decide) r)).skip
      have hclosed {t u : Chars} (ht : Reads false s t) (hu : t = ')' :: u) : Reads false s u := by
        rw [hu] at ht
        exact ht.trans (reads_one (by decide) u)
      split
      · exact .error trivial
      · split
        · dsimp only [Bind.bind, Except.bind]
          split
          · next hu => exact .ok (hclosed hinside hu)
          · exact .error trivial
        · refine Ends.bind (q := fun x : NodeTest × Chars => Reads false s x.2) ?_ fun x hx => ?_
          · refine ends_map.mpr ((spanLiteral_gives (a := false) (skip r)).mono (fun _ h => h) fun x hx => ?_)
            exact (hinside.trans hx).skip
          · split
            · next hu => exact .ok (hclosed hx hu)
            · exact .error trivial
        · dsimp only [Bind.bind, Except.bind]
          split
          · next hu => exact .ok (hclosed hinside hu)
          · exact .error trivial
    · -- a colon belongs to the name unless it is one of two
      next r hr =>
      rw [hr] at hnext
      refine ends_ite (.ok hnext) ?_
      have hcolon := hnext.trans (reads_one (by decide) r)
      split
      · exact .ok (hcolon.trans (reads_one (by decide) _))
      · exact ends_ite (.error trivial) (.ok (hcolon.trans (reads_spanPlainName r)))
    · exact .ok hnext

/-! ## Expressions -/

/-- What the reading functions take, up to some bound on their nesting. -/
structure TakesAll (fuel : Nat) : Prop where
  level (depth level : Nat) (s : Chars) : Gives (fun x => Reads true s x.2) (readLevel depth fuel level s)
  operands (depth level : Nat) (e : Expression) (s : Chars) :
    Gives (fun x => Reads false s x.2) (readOperands depth fuel level e s)
  signed (depth : Nat) (s : Chars) : Gives (fun x => Reads true s x.2) (readSigned depth fuel s)
  union (depth : Nat) (e : Expression) (s : Chars) :
    Gives (fun x => Reads false s x.2) (readUnion depth fuel e s)
  path (depth : Nat) (s : Chars) : Gives (fun x => Reads true s x.2) (readPath depth fuel s)
  fromTop (depth : Nat) (e : Expression) (s : Chars) :
    Gives (fun x => Reads false s x.2) (readFromTop depth fuel e s)
  steps (depth : Nat) (e : Expression) (s : Chars) :
    Gives (fun x => Reads true s x.2) (readSteps depth fuel e s)
  step (depth : Nat) (e : Expression) (s : Chars) :
    Gives (fun x => Reads true s x.2) (readStep depth fuel e s)
  predicates (depth : Nat) (s : Chars) : Gives (fun x => Reads false s x.2) (readPredicates depth fuel s)
  filters (depth : Nat) (e : Expression) (s : Chars) :
    Gives (fun x => Reads false s x.2) (readFilters depth fuel e s)
  nested (depth : Nat) (s : Chars) : Gives (fun x => Reads true s x.2) (readNested depth fuel s)
  operand (depth : Nat) (s : Chars) : Gives (fun x => Reads false s x.2) (readOperand depth fuel s)
  arguments (depth : Nat) (s : Chars) :
    Gives (fun x => Reads true s x.2 ∧ (x.2 = [] ∨ ∃ r, x.2 = ')' :: r)) (readArguments depth fuel s)

theorem takesAll_zero : TakesAll 0 where
  level _ _ _ := by rw [readLevel]; exact .error trivial
  operands _ _ _ _ := by rw [readOperands]; exact .error trivial
  signed _ _ := by rw [readSigned]; exact .error trivial
  union _ _ _ := by rw [readUnion]; exact .error trivial
  path _ _ := by rw [readPath]; exact .error trivial
  fromTop _ _ _ := by rw [readFromTop]; exact .error trivial
  steps _ _ _ := by rw [readSteps]; exact .error trivial
  step _ _ _ := by rw [readStep]; exact .error trivial
  predicates _ _ := by rw [readPredicates]; exact .error trivial
  filters _ _ _ := by rw [readFilters]; exact .error trivial
  nested _ _ := by rw [readNested]; exact .error trivial
  operand _ _ := by rw [readOperand]; exact .error trivial
  arguments _ _ := by rw [readArguments]; exact .error trivial

section Step

variable {fuel depth level : Nat} {e : Expression} (ih : TakesAll fuel)

include ih

theorem TakesAll.level_succ : Gives (fun x => Reads true s x.2) (readLevel depth (fuel + 1) level s) := by
  rw [readLevel]
  refine ends_ite ?_ (ih.signed depth s)
  refine (ih.level depth (level + 1) s).bind fun x hx => ?_
  exact (ih.operands depth level x.1 (skip x.2)).mono (fun _ h => h) fun y hy => hx.skip.trans hy

theorem TakesAll.operands_succ :
    Gives (fun x => Reads false s x.2) (readOperands depth (fuel + 1) level e s) := by
  rw [readOperands]
  split
  · exact .ok (.refl s)
  · next op r hop =>
    refine (ih.level depth (level + 1) (skip r)).bind fun x hx => ?_
    have hoperand := (opens_operatorAt? hop).skip.reads hx
    exact (ih.operands depth level _ (skip x.2)).mono (fun _ h => h) fun y hy => hoperand.skip.trans hy

theorem TakesAll.signed_succ : Gives (fun x => Reads true s x.2) (readSigned depth (fuel + 1) s) := by
  rw [readSigned]
  have hsigns : Opens true s (s.dropWhile fun c => c == '-' || isMarkupBlank c) := by
    have hopen := opens_refl s
    rw [← List.takeWhile_append_dropWhile (p := fun c => c == '-' || isMarkupBlank c) (l := s)] at hopen
    have hcommon := hopen.common fun c hc => by
      have hsign := List.mem_takeWhile_imp hc
      rw [Bool.or_eq_true, beq_iff_eq] at hsign
      rcases hsign with rfl | hblank
      · decide
      · exact isCommon_of_isMarkupBlank hblank
    rwa [List.takeWhile_append_dropWhile] at hcommon
  refine (ih.path depth _).bind fun x hx => ?_
  have hpath := (hsigns.reads hx).skip
  refine (ih.union depth x.1 (skip x.2)).bind fun y hy => ?_
  have hunion := hpath.trans hy
  exact ends_ite (.ok hunion) (ends_ite (.ok hunion) (.ok hunion))

theorem TakesAll.union_succ : Gives (fun x => Reads false s x.2) (readUnion depth (fuel + 1) e s) := by
  rw [readUnion.eq_def]
  dsimp only
  split
  · next r =>
    refine (ih.path depth (skip r)).bind fun x hx => ?_
    have hpath := (opens_one (a := false) (c := '|') (by decide) (by decide) r).skip.reads hx
    exact (ih.union depth _ (skip x.2)).mono (fun _ h => h) fun y hy => hpath.skip.trans hy
  · exact .ok (.refl _)

theorem TakesAll.path_succ : Gives (fun x => Reads true s x.2) (readPath depth (fuel + 1) s) := by
  rw [readPath.eq_def]
  dsimp only
  split
  · exact .error trivial
  · split
    · exact (ih.fromTop depth _ _).mono (fun _ h => h) fun x hx => hx.weaken
    · exact ih.steps depth _ _
  · refine (ih.operand depth s).bind fun x hx => ?_
    refine (ih.filters depth x.1 (skip x.2)).bind fun y hy => ?_
    have hfiltered := (hx.skip.trans hy).weaken (a := true)
    obtain ⟨e, r⟩ := y
    dsimp only at hfiltered ⊢
    split
    · next r =>
      refine (ih.steps depth e _).mono (fun _ h => h) fun z hz => ?_
      exact hfiltered.trans (hz.strict (by simp))
    · exact .ok hfiltered

theorem TakesAll.fromTop_succ : Gives (fun x => Reads false s x.2) (readFromTop depth (fuel + 1) e s) := by
  rw [readFromTop.eq_def]
  dsimp only
  have hslash (r : Chars) : Opens false ('/' :: r) r := opens_one (by decide) (by decide) r
  split
  · next r =>
    refine (ih.steps depth _ (skip r)).bind fun x hx => ?_
    have hsteps := (reads_one (a := false) (c := '/') (by decide) _).trans ((hslash r).skip.reads hx)
    exact (ih.fromTop depth x.1 x.2).mono (fun _ h => h) fun y hy => hsteps.trans hy
  · next r _ =>
    refine ends_ite ?_ ?_
    · refine (ih.steps depth _ (skip r)).bind fun x hx => ?_
      have hsteps := (hslash r).skip.reads hx
      exact (ih.fromTop depth x.1 x.2).mono (fun _ h => h) fun y hy => hsteps.trans hy
    · exact (ih.fromTop depth e (skip r)).mono (fun _ h => h) fun y hy => (hslash r).skip.reads hy
  · exact .ok (.refl _)

/-- Slashes before a step, if there are any. -/
theorem TakesAll.steps_succ : Gives (fun x => Reads true s x.2) (readSteps depth (fuel + 1) e s) := by
  rw [readSteps.eq_def]
  dsimp only
  refine (ih.step depth _ _).bind fun y hy => ?_
  have hstep : Reads true s (skip y.2) := by
    split at hy
    · next r =>
      have hslashes : Opens true ('/' :: '/' :: r) (skip r) :=
        (Opens.common (w := ['/', '/']) (opens_refl _) (by decide)).skip
      exact (hslashes.reads hy).skip
    · next r _ => exact ((opens_one (by decide) (by decide) r).skip.reads hy).skip
    · exact ((opens_refl _).reads hy).skip
  obtain ⟨e, r⟩ := y
  dsimp only at hstep ⊢
  split
  · next r hr =>
    rw [hr] at hstep
    exact (ih.steps depth e _).mono (fun _ h => h) fun z hz => hstep.trans (hz.strict (by simp))
  · exact .ok hstep

theorem TakesAll.step_succ : Gives (fun x => Reads true s x.2) (readStep depth (fuel + 1) e s) := by
  rw [readStep.eq_def]
  dsimp only
  split
  · next r => exact .ok ((reads_one (by decide) _).trans (reads_one (by decide) r)).skip
  · next r _ => exact .ok (reads_one (by decide) r).skip
  · have haxis := reads_readAxis s
    refine (readTest_gives _ _).bind fun x hx => ?_
    have htest := (haxis.trans hx).skip
    exact (ih.predicates depth (skip x.2)).bind fun y hy => .ok (htest.trans hy)

theorem TakesAll.predicates_succ : Gives (fun x => Reads false s x.2) (readPredicates depth (fuel + 1) s) := by
  rw [readPredicates.eq_def]
  dsimp only
  split
  · next r =>
    refine (ih.nested depth (skip r)).bind fun x hx => ?_
    have hinside := (opens_one (a := false) (c := '[') (by decide) (by decide) r).skip.reads hx
    obtain ⟨p, t⟩ := x
    dsimp only at hinside ⊢
    split
    · next t =>
      have hclosed := (hinside.trans (reads_one (by decide) t)).skip
      exact (ih.predicates depth (skip t)).bind fun y hy => .ok (hclosed.trans hy)
    · exact .error trivial
  · exact .ok (.refl _)

theorem TakesAll.filters_succ : Gives (fun x => Reads false s x.2) (readFilters depth (fuel + 1) e s) := by
  rw [readFilters.eq_def]
  dsimp only
  split
  · next r =>
    refine (ih.nested depth (skip r)).bind fun x hx => ?_
    have hinside := (opens_one (a := false) (c := '[') (by decide) (by decide) r).skip.reads hx
    obtain ⟨p, t⟩ := x
    dsimp only at hinside ⊢
    split
    · next t =>
      have hclosed := (hinside.trans (reads_one (by decide) t)).skip
      exact (ih.filters depth _ (skip t)).mono (fun _ h => h) fun y hy => hclosed.trans hy
    · exact .error trivial
  · exact .ok (.refl _)

theorem TakesAll.nested_succ : Gives (fun x => Reads true s x.2) (readNested depth (fuel + 1) s) := by
  rw [readNested]
  exact ends_ite (.error trivial) (ih.level (depth + 1) 0 s)

/-- Arguments end with the text or before a closing parenthesis. -/
theorem TakesAll.arguments_succ :
    Gives (fun x => Reads true s x.2 ∧ (x.2 = [] ∨ ∃ r, x.2 = ')' :: r)) (readArguments depth (fuel + 1) s) := by
  rw [readArguments.eq_def]
  dsimp only
  split
  · exact .ok ⟨.refl _, .inl rfl⟩
  · refine (ih.nested depth s).bind fun x hx => ?_
    obtain ⟨e, t⟩ := x
    dsimp only at hx ⊢
    split
    · exact .ok ⟨hx, .inr ⟨_, rfl⟩⟩
    · next t =>
      refine (ih.arguments depth (skip t)).bind fun y hy => .ok ⟨?_, hy.2⟩
      exact hx.trans ((opens_one (by decide) (by decide) t).skip.reads hy.1)
    · exact .error trivial

theorem TakesAll.operand_succ : Gives (fun x => Reads false s x.2) (readOperand depth (fuel + 1) s) := by
  rw [readOperand.eq_def]
  dsimp only
  split
  · -- a variable
    next r =>
    have hname := (reads_one (a := false) (c := '$') (by decide) r).trans (reads_spanQualified r)
    exact ends_ite (.error trivial) (.ok hname.skip)
  · -- an expression between parentheses
    next r =>
    refine (ih.nested depth (skip r)).bind fun x hx => ?_
    have hinside := (opens_one (a := false) (c := '(') (by decide) (by decide) r).skip.reads hx
    obtain ⟨p, t⟩ := x
    dsimp only at hinside ⊢
    split
    · next t => exact .ok (hinside.trans (reads_one (by decide) t)).skip
    · exact .error trivial
  · -- a literal, a number or a call
    next c r _ _ =>
    refine ends_ite ?_ (ends_ite ?_ ?_)
    · exact (spanLiteral_gives _).bind fun x hx => .ok hx.skip
    · split
      · next x t hx => exact .ok (spanNumber_reads hx).skip
      · exact .error trivial
    · have hname := (reads_spanQualified (a := false) (c :: r)).skip
      split
      · next t _ ht =>
        rw [ht] at hname
        have hopened := (opens_one (a := false) (c := '(') (by decide) (by decide) t).skip
        split
        · next u hu =>
          rw [hu] at hopened
          exact .ok (hname.trans (hopened.reads (reads_one (a := false) (by decide) u))).skip
        · refine (ih.arguments depth (skip t)).bind fun x hx => .ok ?_
          have harguments := hname.trans (hopened.reads hx.1)
          obtain ⟨arguments, u⟩ := x
          rcases hx.2 with hend | ⟨v, hend⟩
          · rw [hend] at harguments ⊢
            exact harguments
          · rw [hend] at harguments ⊢
            exact (harguments.trans (reads_one (by decide) v)).skip
      · exact .error trivial
  · exact .error trivial

end Step

/-- Whatever the bound, the reading functions take texts of the form. -/
theorem takesAll (fuel : Nat) : TakesAll fuel := by
  induction fuel with
  | zero => exact takesAll_zero
  | succ fuel ih =>
    exact {
      level := fun _ _ _ => ih.level_succ
      operands := fun _ _ _ _ => ih.operands_succ
      signed := fun _ _ => ih.signed_succ
      union := fun _ _ _ => ih.union_succ
      path := fun _ _ => ih.path_succ
      fromTop := fun _ _ _ => ih.fromTop_succ
      steps := fun _ _ _ => ih.steps_succ
      step := fun _ _ _ => ih.step_succ
      predicates := fun _ _ => ih.predicates_succ
      filters := fun _ _ _ => ih.filters_succ
      nested := fun _ _ => ih.nested_succ
      operand := fun _ _ => ih.operand_succ
      arguments := fun _ _ => ih.arguments_succ }

/-- A text that is read as a query has the form. -/
theorem lexed_of_read (h : (read s).isOk = true) : Lexed true s := by
  have hgives : Gives (fun _ => Lexed true s) (read s) := by
    unfold read
    have hlevel := (takesAll (16 * (s.length + 2))).level 0 0 (skip s)
    refine hlevel.bind fun x hx => ?_
    obtain ⟨e, r⟩ := x
    dsimp only at hx ⊢
    split
    · next hend =>
      obtain ⟨u, hu, hlexed⟩ := (opens_refl s).skip.reads hx
      rw [List.isEmpty_iff.mp hend, List.append_nil] at hu
      rw [hu]
      exact .ok hlexed
    · exact .error trivial
  cases hread : read s with
  | ok e => exact hgives.value hread
  | error e =>
    rw [hread] at h
    cases h

end MarkupQuery.Query
