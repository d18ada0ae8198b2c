import MarkupQuery.Pattern.Segments

/-!
# What patterns take

Every part of a pattern has a language, told by its form alone. Whatever way the matcher goes, the text
that a part takes is a word of its language (`Node.takes`), and so is the text of every match that a
search finds (`Regex.search_takes`). What depends on the text around, such as what a group has taken, is
left open by the language.
-/

namespace MarkupQuery.Pattern

open MarkupQuery.Text

/-! ## Telling parts apart -/

mutual

/-- Whether two parts are written alike. -/
def Node.isSame : Node → Node → Bool
  | .chars negated items flags, n =>
      match n with
      | .chars negated' items' flags' => negated == negated' && items == items' && flags == flags'
      | _ => false
  | .anyChar dotAll, n =>
      match n with
      | .anyChar dotAll' => dotAll == dotAll'
      | _ => false
  | .sequence parts, n =>
      match n with
      | .sequence parts' => isSameAll parts parts'
      | _ => false
  | .choice branches, n =>
      match n with
      | .choice branches' => isSameAll branches branches'
      | _ => false
  | .repeated greed least most body, n =>
      match n with
      | .repeated greed' least' most' body' =>
          greed == greed' && least == least' && most == most' && body.isSame body'
      | _ => false
  | .group index body, n =>
      match n with
      | .group index' body' => index == index' && body.isSame body'
      | _ => false
  | .atomic body, n =>
      match n with
      | .atomic body' => body.isSame body'
      | _ => false
  | .look behind negated body, n =>
      match n with
      | .look behind' negated' body' => behind == behind' && negated == negated' && body.isSame body'
      | _ => false
  | .backreference index flags, n =>
      match n with
      | .backreference index' flags' => index == index' && flags == flags'
      | _ => false
  | .conditional index present absent, n =>
      match n with
      | .conditional index' present' absent' =>
          index == index' && present.isSame present' && absent.isSame absent'
      | _ => false
  | .anchor a, n =>
      match n with
      | .anchor a' => a == a'
      | _ => false

/-- Whether two lists of parts are written alike. -/
def isSameAll : List Node → List Node → Bool
  | [], ns => ns.isEmpty
  | n :: ns, ms =>
      match ms with
      | m :: ms => n.isSame m && isSameAll ns ms
      | [] => false

end

mutual

theorem Node.eq_of_isSame (n : Node) {m : Node} (h : n.isSame m = true) : n = m := by
  match n with
  | .chars negated items flags =>
    rw [Node.isSame.eq_def] at h
    dsimp only at h
    split at h
    · simp only [Bool.and_eq_true, beq_iff_eq] at h
      obtain ⟨⟨rfl, rfl⟩, rfl⟩ := h
      rfl
    · cases h
  | .anyChar dotAll =>
    rw [Node.isSame.eq_def] at h
    dsimp only at h
    split at h
    · rw [beq_iff_eq.mp h]
    · cases h
  | .sequence parts =>
    rw [Node.isSame.eq_def] at h
    dsimp only at h
    split at h
    · rw [eq_of_isSameAll h]
    · cases h
  | .choice branches =>
    rw [Node.isSame.eq_def] at h
    dsimp only at h
    split at h
    · rw [eq_of_isSameAll h]
    · cases h
  | .repeated greed least most body =>
    rw [Node.isSame.eq_def] at h
    dsimp only at h
    split at h
    · simp only [Bool.and_eq_true, beq_iff_eq] at h
      obtain ⟨⟨⟨rfl, rfl⟩, rfl⟩, h⟩ := h
      rw [body.eq_of_isSame h]
    · cases h
  | .group index body =>
    rw [Node.isSame.eq_def] at h
    dsimp only at h
    split at h
    · simp only [Bool.and_eq_true, beq_iff_eq] at h
      obtain ⟨rfl, h⟩ := h
      rw [body.eq_of_isSame h]
    · cases h
  | .atomic body =>
    rw [Node.isSame.eq_def] at h
    dsimp only at h
    split at h
    · rw [body.eq_of_isSame h]
    · cases h
  | .look behind negated body =>
    rw [Node.isSame.eq_def] at h
    dsimp only at h
    split at h
    · simp only [Bool.and_eq_true, beq_iff_eq] at h
      obtain ⟨⟨rfl, rfl⟩, h⟩ := h
      rw [body.eq_of_isSame h]
    · cases h
  | .backreference index flags =>
    rw [Node.isSame.eq_def] at h
    dsimp only at h
    split at h
    · simp only [Bool.and_eq_true, beq_iff_eq] at h
      obtain ⟨rfl, rfl⟩ := h
      rfl
    · cases h
  | .conditional index present absent =>
    rw [Node.isSame.eq_def] at h
    dsimp only at h
    split at h
    · simp only [Bool.and_eq_true, beq_iff_eq] at h
      obtain ⟨⟨rfl, hpresent⟩, habsent⟩ := h
      rw [present.eq_of_isSame hpresent, absent.eq_of_isSame habsent]
    · cases h
  | .anchor a =>
    rw [Node.isSame.eq_def] at h
    dsimp only at h
    split at h
    · rw [beq_iff_eq.mp h]
    · cases h

theorem eq_of_isSameAll {ns ms : List Node} (h : isSameAll ns ms = true) : ns = ms := by
  match ns, ms with
  | [], [] => rfl
  | n :: ns, m :: ms =>
    rw [isSameAll, Bool.and_eq_true] at h
    rw [n.eq_of_isSame h.1, eq_of_isSameAll h.2]

end

/-! ## Languages -/

mutual

/-- The texts that a part can take. -/
def Node.Language : Node → Chars → Prop
  | .chars negated items flags, w => ∃ c, w = [c] ∧ setMatches negated items flags c = true
  | .anyChar dotAll, w => ∃ c, w = [c] ∧ (dotAll || c != '\n') = true
  | .sequence parts, w => LanguageAll parts w
  | .choice branches, w => LanguageAny branches w
  | .repeated _ least most body, w =>
      ∃ ws : List Chars, w = ws.flatten ∧ (∀ v ∈ ws, body.Language v) ∧ least ≤ ws.length ∧
        ∀ n, most = some n → ws.length ≤ max least n
  | .group _ body, w => body.Language w
  | .atomic body, w => body.Language w
  | .look .., w => w = []
  | .backreference .., _ => True
  | .conditional _ present absent, w => present.Language w ∨ absent.Language w
  | .anchor _, w => w = []

/-- The texts that parts one after the other can take. -/
def LanguageAll : List Node → Chars → Prop
  | [], w => w = []
  | n :: ns, w => ∃ u v, w = u ++ v ∧ n.Language u ∧ LanguageAll ns v

/-- The texts that one of several parts can take. -/
def LanguageAny : List Node → Chars → Prop
  | [], _ => False
  | n :: ns, w => n.Language w ∨ LanguageAny ns w

end

/-- Some text leads from a place to another one. -/
structure Place.Passes (p : Place) (w : Chars) (q : Place) : Prop where
  rest : p.rest = w ++ q.rest
  position : q.position = p.position + w.length

/-- A word of a language is taken at a place, and going on from there leads to a result. -/
def Reaches (P : Chars → Prop) (k : Continue) (p r : Place) : Prop :=
  ∃ w q, p.Passes w q ∧ P w ∧ k q = some r

/-- A matcher takes words of a language and then goes on. -/
def Takes (m : Matcher) (P : Chars → Prop) : Prop := ∀ k p r, m k p = some r → Reaches P k p r

variable {m : Matcher} {P Q : Chars → Prop} {k : Continue} {p q r : Place}

theorem Place.Passes.refl (p : Place) : p.Passes [] p := ⟨rfl, rfl⟩

theorem Place.Passes.trans {u v : Chars} (hu : p.Passes u q) (hv : q.Passes v r) :
    p.Passes (u ++ v) r where
  rest := by rw [hu.rest, hv.rest, List.append_assoc]
  position := by rw [hv.position, hu.position, List.length_append, Nat.add_assoc]

theorem Reaches.mono (h : Reaches P k p r) (hPQ : ∀ w, P w → Q w) : Reaches Q k p r := by
  obtain ⟨w, q, hpasses, hw, hq⟩ := h
  exact ⟨w, q, hpasses, hPQ w hw, hq⟩

/-- Nothing is taken. -/
theorem Reaches.here (hP : P []) (h : k p = some r) : Reaches P k p r :=
  ⟨[], p, .refl p, hP, h⟩

/-- A result that was reached at once is where one goes on from. -/
theorem Reaches.next (h : Reaches P some p q) (hk : k q = some r) : Reaches P k p r := by
  obtain ⟨w, q', hpasses, hw, hq⟩ := h
  obtain rfl := Option.some.inj hq
  exact ⟨w, q', hpasses, hw, hk⟩

/-- One word is taken after the other. -/
theorem Reaches.trans {P₁ P₂ : Chars → Prop} {k₁ : Continue} (h : Reaches P₁ k₁ p r)
    (hnext : ∀ q, k₁ q = some r → Reaches P₂ k q r)
    (hP : ∀ u v, P₁ u → P₂ v → P (u ++ v)) : Reaches P k p r := by
  obtain ⟨u, q, hu, hPu, hq⟩ := h
  obtain ⟨v, q', hv, hPv, hq'⟩ := hnext q hq
  exact ⟨u ++ v, q', hu.trans hv, hP u v hPu hPv, hq'⟩

/-! ## Single characters -/

theorem Place.Passes.step {c : Char} (h : p.step? = some (c, q)) : p.Passes [c] q := by
  unfold Place.step? at h
  split at h
  · cases h
  · next d s hs =>
    obtain ⟨rfl, rfl⟩ := Prod.mk.inj (Option.some.inj h)
    exact ⟨hs, rfl⟩

/-- A character that passes a test, and then what follows. -/
theorem Reaches.step {test : Char → Bool} (hP : ∀ c, test c = true → P [c])
    (h : (match p.step? with
      | some (c, q) => if test c then k q else none
      | none => none) = some r) : Reaches P k p r := by
  split at h
  · next c q hstep =>
    split at h
    · next htest => exact ⟨[c], q, .step hstep, hP c htest, h⟩
    · cases h
  · cases h

/-- Where a repetition of single characters may end. -/
theorem mem_singlesFrom {test : Char → Bool} {rest : Chars} {least : Nat} {most : Option Nat}
    {ends : List Place} (hrest : p.rest = rest) (h : q ∈ singlesFrom test rest p least most ends) :
    q ∈ ends ∨ ∃ w, p.Passes w q ∧ (∀ c ∈ w, test c = true) ∧ least ≤ w.length ∧
      ∀ n, most = some n → w.length ≤ n := by
  -- the repetition may stop here once it is long enough
  have hhere {p : Place} {least : Nat} {most : Option Nat} {ends : List Place}
      (h : q ∈ if least == 0 then p :: ends else ends) :
      q ∈ ends ∨ ∃ w, p.Passes w q ∧ (∀ c ∈ w, test c = true) ∧ least ≤ w.length ∧
        ∀ n, most = some n → w.length ≤ n := by
    split at h
    · next hzero =>
      rcases List.mem_cons.mp h with rfl | h
      · exact .inr ⟨[], .refl q, by simp, by simpa using hzero, by simp⟩
      · exact .inl h
    · exact .inl h
  induction rest generalizing p least most ends with
  | nil => exact hhere h
  | cons c rest ih =>
    rw [singlesFrom] at h
    split at h
    · exact hhere h
    · next hmost =>
      split at h
      · next htest =>
        rcases ih rfl h with h | ⟨w, hw, hall, hleast, hbound⟩
        · exact hhere h
        · refine .inr ⟨c :: w, ?_, ?_, ?_, fun n hn => ?_⟩
          · refine Place.Passes.trans (u := [c]) ⟨?_, rfl⟩ hw
            exact hrest
          · exact List.forall_mem_cons.mpr ⟨htest, hall⟩
          · rw [List.length_cons]
            omega
          · subst hn
            have hlength := hbound (n - 1) rfl
            rw [List.length_cons]
            have hpositive : n ≠ 0 := fun hn => hmost (by simp [hn])
            omega
      · exact hhere h

theorem mem_of_firstOf {ps : List Place} (h : firstOf k ps = some r) : ∃ q ∈ ps, k q = some r := by
  induction ps with
  | nil => cases h
  | cons p ps ih =>
    rw [firstOf] at h
    split at h
    · next r' hr' => exact ⟨p, List.mem_cons_self, hr'.trans h⟩
    · obtain ⟨q, hq, hk⟩ := ih h
      exact ⟨q, List.mem_cons_of_mem _ hq, hk⟩

/-- A part that tests single characters takes those that pass. -/
theorem Node.language_of_single? {n : Node} {test : Char → Bool} (h : n.single? = some test)
    {w : Chars} : n.Language w ↔ ∃ c, w = [c] ∧ test c = true := by
  cases n with
  | chars negated items flags =>
    obtain rfl := Option.some.inj h
    rfl
  | anyChar dotAll =>
    obtain rfl := Option.some.inj h
    rfl
  | _ => cases h

/-- Repeating such a part takes any such characters. -/
theorem Node.all_of_language_repeated {n : Node} {test : Char → Bool} (h : n.single? = some test)
    {greed : Greed} {least : Nat} {most : Option Nat} {w : Chars}
    (hw : (Node.repeated greed least most n).Language w) :
    (∀ c ∈ w, test c = true) ∧ least ≤ w.length ∧ ∀ k, most = some k → w.length ≤ max least k := by
  obtain ⟨ws, rfl, hws, hleast, hmost⟩ := hw
  have hflatten : (∀ c ∈ ws.flatten, test c = true) ∧ ws.flatten.length = ws.length := by
    clear hleast hmost
    induction ws with
    | nil => simp
    | cons v ws ih =>
      obtain ⟨hv, hvs⟩ := List.forall_mem_cons.mp hws
      obtain ⟨c, rfl, hc⟩ := (n.language_of_single? h).mp hv
      obtain ⟨hall, hlength⟩ := ih hvs
      exact ⟨List.forall_mem_cons.mpr ⟨hc, hall⟩, congrArg (· + 1) hlength⟩
  obtain ⟨hall, hlength⟩ := hflatten
  exact ⟨hall, by rwa [hlength], fun k hk => by rw [hlength]; exact hmost k hk⟩

/-! ## Repetition -/

/-- The text of some repetitions, of which some were made before. -/
def Repeats (P : Chars → Prop) (least : Nat) (most : Option Nat) (count : Nat) (w : Chars) : Prop :=
  ∃ ws : List Chars, w = ws.flatten ∧ (∀ v ∈ ws, P v) ∧ least ≤ count + ws.length ∧
    ∀ n, most = some n → count + ws.length ≤ max least n

variable {least count : Nat} {most : Option Nat}

theorem Repeats.nil (hleast : least ≤ count) (hmost : ∀ n, most = some n → count ≤ max least n) :
    Repeats P least most count [] :=
  ⟨[], rfl, by simp, hleast, hmost⟩

theorem Repeats.cons {u v : Chars} (hu : P u) (hv : Repeats P least most (count + 1) v) :
    Repeats P least most count (u ++ v) := by
  obtain ⟨ws, rfl, hws, hleast, hmost⟩ := hv
  refine ⟨u :: ws, rfl, List.forall_mem_cons.mpr ⟨hu, hws⟩, ?_, fun n hn => ?_⟩
  · rw [List.length_cons]
    omega
  · have hbound := hmost n hn
    rw [List.length_cons]
    omega

theorem Repeats.singles {test : Char → Bool} (hP : ∀ c, test c = true → P [c]) {w : Chars}
    (hw : ∀ c ∈ w, test c = true) (hleast : least ≤ w.length)
    (hmost : ∀ n, most = some n → w.length ≤ n) : Repeats P least most 0 w := by
  refine ⟨w.map fun c => [c], ?_, ?_, by simpa using hleast, fun n hn => ?_⟩
  · rw [← List.flatMap_def, List.flatMap_singleton']
  · intro v hv
    obtain ⟨c, hc, rfl⟩ := List.mem_map.mp hv
    exact hP c (hw c hc)
  · have hlength := hmost n hn
    rw [List.length_map]
    omega

section

variable {body : Matcher} (hbody : Takes body P)

include hbody

/-- One repetition more. -/
theorem Reaches.again {loop : Continue} (h : body loop p = some r)
    (hloop : ∀ q, loop q = some r → Reaches (Repeats P least most (count + 1)) k q r) :
    Reaches (Repeats P least most count) k p r :=
  (hbody loop p r h).trans hloop fun _ _ => Repeats.cons

theorem repeatGreedy_reaches (fuel : Nat) (last : Option Nat) (hfuel : least ≤ count + fuel)
    (hcount : ∀ n, most = some n → count ≤ max least n)
    (h : repeatGreedy body k least most fuel count last p = some r) :
    Reaches (Repeats P least most count) k p r := by
  induction fuel generalizing count last p with
  | zero => exact .here (.nil hfuel hcount) h
  | succ fuel ih =>
    rw [repeatGreedy] at h
    split at h
    · exact .again hbody h fun q hq => ih _ (by omega) (fun n _ => by omega) hq
    · next hleast =>
      have hstop (h : k p = some r) : Reaches (Repeats P least most count) k p r :=
        .here (.nil (by omega) hcount) h
      split at h
      · next hmore =>
        split at h
        · next r' hr' =>
          obtain rfl := Option.some.inj h
          refine .again hbody hr' fun q hq => ih _ (by omega) (fun n hn => ?_) hq
          rw [hn, Option.all_some, Bool.and_eq_true, decide_eq_true_eq] at hmore
          omega
        · exact hstop h
      · exact hstop h

theorem repeatReluctant_reaches (fuel : Nat) (last : Option Nat) (hfuel : least ≤ count + fuel)
    (hcount : ∀ n, most = some n → count ≤ max least n)
    (h : repeatReluctant body k least most fuel count last p = some r) :
    Reaches (Repeats P least most count) k p r := by
  induction fuel generalizing count last p with
  | zero => exact .here (.nil hfuel hcount) h
  | succ fuel ih =>
    rw [repeatReluctant] at h
    split at h
    · exact .again hbody h fun q hq => ih _ (by omega) (fun n _ => by omega) hq
    · next hleast =>
      split at h
      · next r' hr' => exact .here (.nil (by omega) hcount) (hr'.trans h)
      · split at h
        · next hmore =>
          refine .again hbody h fun q hq => ih _ (by omega) (fun n hn => ?_) hq
          rw [hn, Option.all_some, Bool.and_eq_true, decide_eq_true_eq] at hmore
          omega
        · cases h

theorem repeatPossessive_reaches (fuel : Nat) (last : Option Nat) (hfuel : least ≤ count + fuel)
    (hcount : ∀ n, most = some n → count ≤ max least n)
    (h : repeatPossessive body least most fuel count last p = some r) :
    Reaches (Repeats P least most count) some p r := by
  induction fuel generalizing count last p with
  | zero => exact .here (.nil hfuel hcount) h
  | succ fuel ih =>
    rw [repeatPossessive] at h
    split at h
    · obtain ⟨q, hq, h⟩ := Option.bind_eq_some_iff.mp h
      exact ((hbody some p q hq).next h).trans (fun q hq => ih _ (by omega) (fun n _ => by omega) hq)
        fun _ _ => Repeats.cons
    · next hleast =>
      have hstop (h : some p = some r) : Reaches (Repeats P least most count) some p r :=
        .here (.nil (by omega) hcount) h
      split at h
      · next hmore =>
        split at h
        · next q hq =>
          refine ((hbody some p q hq).next h).trans (fun q hq => ih _ (by omega) (fun n hn => ?_) hq)
            fun _ _ => Repeats.cons
          rw [hn, Option.all_some, Bool.and_eq_true, decide_eq_true_eq] at hmore
          omega
        · exact hstop h
      · exact hstop h

end

/-! ## All parts -/

theorem Reaches.bind {x : Option Place} (hx : ∀ q, x = some q → Reaches P some p q)
    (h : x.bind k = some r) : Reaches P k p r := by
  obtain ⟨q, hq, hk⟩ := Option.bind_eq_some_iff.mp h
  exact (hx q hq).next hk

theorem matchText_reaches {same : Char → Char → Bool} {cs : Chars}
    (h : matchText same cs p = some q) : ∃ w, p.Passes w q := by
  induction cs generalizing p with
  | nil => exact ⟨[], Option.some.inj h ▸ .refl p⟩
  | cons c cs ih =>
    rw [matchText] at h
    split at h
    · next d q' hstep =>
      split at h
      · obtain ⟨w, hw⟩ := ih h
        exact ⟨d :: w, (Place.Passes.step hstep).trans hw⟩
      · cases h
    · cases h

mutual

/-- The text that a part takes is a word of its language. -/
theorem Node.takes (n : Node) : Takes n.run n.Language := by
  intro k p r h
  match n with
  | .chars negated items flags =>
    rw [Node.run] at h
    exact .step (fun c hc => ⟨c, rfl, hc⟩) h
  | .anyChar dotAll =>
    rw [Node.run] at h
    exact .step (fun c hc => ⟨c, rfl, hc⟩) h
  | .sequence parts =>
    rw [Node.run] at h
    exact takesAll parts k p r h
  | .choice branches =>
    rw [Node.run] at h
    exact takesAny branches k p r h
  | .repeated greed least most body =>
    have hbody := body.takes
    -- a part of one character is repeated without calling the matcher for it
    have hsingles {test : Char → Bool} (htest : body.single? = some test) {q : Place}
        (hq : q ∈ singlesFrom test p.rest p least most []) (hk : k q = some r) :
        Reaches (Repeats body.Language least most 0) k p r := by
      rcases mem_singlesFrom rfl hq with hq | ⟨w, hpasses, hw, hleast, hmost⟩
      · cases hq
      · exact ⟨w, q, hpasses, .singles (fun c hc => (body.language_of_single? htest).mpr ⟨c, rfl, hc⟩) hw
          hleast hmost, hk⟩
    have hbound : least ≤ 0 + (least + p.rest.length + 2) := by omega
    refine Reaches.mono (P := Repeats body.Language least most 0) ?_ fun w hw => by
      simpa [Repeats, Node.Language] using hw
    rw [Node.run.eq_def] at h
    dsimp only at h
    split at h
    · next htest =>
      obtain ⟨q, hq, hk⟩ := mem_of_firstOf h
      exact hsingles htest hq hk
    · next htest =>
      split at h
      · next q ps hq => exact hsingles htest (hq ▸ List.mem_cons_self) h
      · cases h
    · exact repeatGreedy_reaches hbody _ _ hbound (by omega) h
    · exact repeatReluctant_reaches hbody _ _ hbound (by omega) h
    · exact .bind (fun q hq => repeatPossessive_reaches hbody _ _ hbound (by omega) hq) h
  | .group index body =>
    rw [Node.run] at h
    split at h
    · exact body.takes k p r h
    · obtain ⟨w, q, hpasses, hw, hq⟩ := body.takes _ p r h
      exact ⟨w, { q with captures := (index, ⟨p.position, q.position, _⟩) :: q.captures },
        ⟨hpasses.rest, hpasses.position⟩, hw, hq⟩
  | .atomic body =>
    rw [Node.run] at h
    exact .bind (fun q hq => body.takes some p q hq) h
  | .look behind negated body =>
    rw [Node.run.eq_def] at h
    dsimp only at h
    split at h
    · exact ⟨[], { p with captures := _ }, ⟨rfl, rfl⟩, rfl, h⟩
    · exact .here rfl h
    · cases h
  | .backreference index flags =>
    rw [Node.run] at h
    split at h
    · cases h
    · refine .bind (fun q hq => ?_) h
      obtain ⟨w, hw⟩ := matchText_reaches hq
      exact ⟨w, q, hw, trivial, rfl⟩
  | .conditional index present absent =>
    rw [Node.run] at h
    split at h
    · exact (present.takes k p r h).mono fun _ => .inl
    · exact (absent.takes k p r h).mono fun _ => .inr
  | .anchor a =>
    rw [Node.run] at h
    split at h
    · exact .here rfl h
    · cases h

theorem takesAll (ns : List Node) : Takes (runAll ns) (LanguageAll ns) := by
  intro k p r h
  match ns with
  | [] => exact .here rfl h
  | n :: ns =>
    rw [runAll] at h
    exact (n.takes _ p r h).trans (fun q hq => takesAll ns k q r hq) fun u v hu hv => ⟨u, v, rfl, hu, hv⟩

theorem takesAny (ns : List Node) : Takes (runAny ns) (LanguageAny ns) := by
  intro k p r h
  match ns with
  | [] => cases h
  | n :: ns =>
    rw [runAny] at h
    split at h
    · next r' hr' => exact (n.takes k p r (hr'.trans h)).mono fun _ => .inl
    · exact (takesAny ns k p r h).mono fun _ => .inr

end

/-! ## Searching -/

variable {r : Regex} {advance : Bool} {m : Match} {text skipped gap : Chars}

/-- A match takes a word of the language of the pattern; if it has to take something, it does. -/
theorem Regex.matchAt?_takes (h : r.matchAt? p advance = some q) :
    ∃ w, p.Passes w q ∧ r.body.Language w ∧ (advance = true → w ≠ []) := by
  obtain ⟨w, q', hpasses, hw, hq⟩ := r.body.takes _ _ _ h
  dsimp only at hq
  split at hq
  · cases hq
  · next hnot =>
    obtain rfl := Option.some.inj hq
    have hpasses : p.Passes w q' := ⟨hpasses.rest, hpasses.position⟩
    refine ⟨w, hpasses, hw, fun hadvance hnil => hnot ?_⟩
    rw [hadvance, hpasses.position, hnil]
    simp

/-- A search that succeeds has skipped some text and matched right after it. A match that has to take
something may be empty once some text is skipped. -/
theorem Regex.search_finds (hrest : p.rest = text)
    (h : r.search text p advance skipped = some (gap, m, q)) :
    ∃ u p', gap = skipped.reverse ++ u ∧ p.Passes u p' ∧ p'.before = u.reverse ++ p.before ∧
      m = r.matchOf p' q ∧ r.matchAt? p' (advance && u.isEmpty) = some q := by
  induction text generalizing p advance skipped with
  | nil =>
    obtain ⟨q', hq', heq⟩ := Option.map_eq_some_iff.mp h
    cases heq
    exact ⟨[], p, by simp, .refl p, rfl, rfl, by simpa using hq'⟩
  | cons c text ih =>
    rw [Regex.search] at h
    split at h
    · next q' hq' =>
      cases h
      exact ⟨[], p, by simp, .refl p, rfl, rfl, by simpa using hq'⟩
    · obtain ⟨u, p', hgap, hpasses, hbefore, hm, hmatch⟩ := ih rfl h
      refine ⟨c :: u, p', by simp [hgap], ?_, by simp [hbefore], hm, by simpa using hmatch⟩
      refine Place.Passes.trans (u := [c]) ⟨?_, rfl⟩ hpasses
      exact hrest

/-- The text of a match is a word of the language of the pattern. -/
theorem Regex.search_takes (h : r.search text (.atStart text) false [] = some (gap, m, q)) :
    ∃ w, text = gap ++ w ++ q.rest ∧ r.body.Language w := by
  obtain ⟨u, p, rfl, hu, -, -, hmatch⟩ := r.search_finds (p := .atStart text) rfl h
  obtain ⟨w, hw, hlanguage, -⟩ := Regex.matchAt?_takes hmatch
  exact ⟨w, (hu.trans hw).rest, hlanguage⟩

/-- A pattern that starts with an anchor at the start of the text matches nowhere else. -/
theorem Regex.gap_of_lineStart {ns : List Node}
    (hbody : r.body = .sequence (.anchor (.lineStart false) :: ns))
    (h : r.search text (.atStart text) false [] = some (gap, m, q)) : gap = [] := by
  obtain ⟨u, p, rfl, -, hbefore, -, hmatch⟩ := r.search_finds (p := .atStart text) rfl h
  rw [Regex.matchAt?, hbody, Node.run, runAll, Node.run] at hmatch
  split at hmatch
  · next hstart =>
    have hempty : p.before = [] := by simpa [Anchor.holds] using hstart
    rw [hempty] at hbefore
    simpa [Place.atStart] using hbefore.symm
  · cases hmatch

end MarkupQuery.Pattern
