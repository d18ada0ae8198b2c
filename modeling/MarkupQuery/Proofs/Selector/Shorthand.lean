import MarkupQuery.Proofs.Text.Trimming
import MarkupQuery.Translator

/-!
# The shorthand for attributes

A selector in shorthand is expanded branch by branch. A branch is changed only if it ends with an attribute
that is glued onto its last step (`IsGlued`), and then in one way: the blanks at its end are dropped and one
slash is put in, before its last at sign (`unglue_spec`). What comes out has nothing glued any more and no new
branches, so expanding twice is expanding once (`expandShorthand_expandShorthand`).
-/

namespace MarkupQuery.Selector

open MarkupQuery.Text

variable {a b s p q n m w : Chars} {c : Char}

/-! ## Branches -/

attribute [local simp] branches

theorem branches_ne_nil (s : Chars) : branches s ≠ [] := by
  cases s with
  | nil => simp
  | cons c r =>
    rw [branches]
    split
    · simp
    · split <;> simp

/-- A bar ends a branch, whatever stands around it. -/
theorem branches_append_bar (a b : Chars) : branches (a ++ '|' :: b) = branches a ++ branches b := by
  induction a with
  | nil => simp
  | cons c r ih =>
    rw [List.cons_append, branches, branches, ih]
    cases h : branches r with
    | nil => exact absurd h (branches_ne_nil r)
    | cons d ds => split <;> simp

/-- A text without bars is one branch. -/
theorem branches_of_not_mem (h : '|' ∉ s) : branches s = [s] := by
  induction s with
  | nil => rfl
  | cons c r ih =>
    rw [List.mem_cons, not_or] at h
    rw [branches, if_neg (by simpa using Ne.symm h.1), ih h.2]

theorem joinBranches_cons {bs : List Chars} (b : Chars) (h : bs ≠ []) :
    joinBranches (b :: bs) = b ++ '|' :: joinBranches bs := by
  cases bs with
  | nil => exact absurd rfl h
  | cons d ds => rfl

theorem joinBranches_append {as bs : List Chars} (ha : as ≠ []) (hb : bs ≠ []) :
    joinBranches (as ++ bs) = joinBranches as ++ '|' :: joinBranches bs := by
  induction as with
  | nil => exact absurd rfl ha
  | cons d ds ih =>
    cases ds with
    | nil => exact joinBranches_cons d hb
    | cons e es =>
      rw [List.cons_append, joinBranches_cons d (by simp), ih (by simp), joinBranches_cons d (by simp),
        List.append_assoc, List.cons_append]

/-- The branches of a text make up the text. -/
theorem joinBranches_branches (s : Chars) : joinBranches (branches s) = s := by
  induction s with
  | nil => rfl
  | cons c r ih =>
    rw [branches]
    split
    · next hbar =>
      obtain rfl := beq_iff_eq.mp hbar
      rw [joinBranches_cons _ (branches_ne_nil r), ih, List.nil_append]
    · cases h : branches r with
      | nil => exact absurd h (branches_ne_nil r)
      | cons d ds =>
        rw [h] at ih
        cases ds with
        | nil =>
          obtain rfl : d = r := ih
          rfl
        | cons e es =>
          rw [joinBranches_cons _ (by simp)] at ih ⊢
          rw [List.cons_append, ih]

/-- No branch has a bar. -/
theorem not_mem_of_mem_branches (h : b ∈ branches s) : '|' ∉ b := by
  induction s generalizing b with
  | nil =>
    obtain rfl := List.mem_singleton.mp h
    exact List.not_mem_nil
  | cons c r ih =>
    rw [branches] at h
    split at h
    · rcases List.mem_cons.mp h with rfl | h
      · exact List.not_mem_nil
      · exact ih h
    · next hbar =>
      have hc : '|' ≠ c := fun heq => hbar (beq_iff_eq.mpr heq.symm)
      cases hr : branches r with
      | nil => exact absurd hr (branches_ne_nil r)
      | cons d ds =>
        rw [hr] at h ih
        rcases List.mem_cons.mp h with rfl | h
        · exact List.not_mem_cons_of_ne_of_not_mem hc (ih List.mem_cons_self)
        · exact ih (List.mem_cons_of_mem d h)

/-- Texts without bars are the branches of what they are joined to. -/
theorem branches_joinBranches {bs : List Chars} (hne : bs ≠ []) (h : ∀ b ∈ bs, '|' ∉ b) :
    branches (joinBranches bs) = bs := by
  induction bs with
  | nil => exact absurd rfl hne
  | cons d ds ih =>
    rw [List.forall_mem_cons] at h
    cases ds with
    | nil => exact branches_of_not_mem h.1
    | cons e es =>
      rw [joinBranches_cons d (by simp), branches_append_bar, branches_of_not_mem h.1, ih (by simp) h.2,
        List.singleton_append]

/-! ## Glued attributes -/

/-- A branch ends with an attribute that is glued onto its last step: before the blanks at its end there is
the name of an attribute, before that an at sign, and before this a character that ends a step. -/
structure IsGlued (b p n : Chars) : Prop where
  trimmed : trimEnd b = p ++ '@' :: n
  step : p.getLast?.any endsStep = true
  name : n ≠ []
  chars : n.all isAttributeNameChar = true

theorem isAttributeNameChar_at : isAttributeNameChar '@' = false := by decide

theorem not_mem_of_chars (h : n.all isAttributeNameChar = true) : '@' ∉ n := fun hn => by
  have hat := List.all_eq_true.mp h '@' hn
  rw [isAttributeNameChar_at] at hat
  cases hat

/-- The codes of the blanks. -/
def blankCodes : List Nat :=
  List.range' 9 5 ++ List.range' 28 5 ++ [133, 160, 5760] ++ List.range' 8192 11 ++ [8232, 8233, 8239, 8287, 12288]

theorem toNat_mem_blankCodes (h : isBlank c = true) : c.toNat ∈ blankCodes := by
  simp only [isBlank, isBlankCode, Bool.or_eq_true, Bool.and_eq_true, decide_eq_true_eq, beq_iff_eq] at h
  simp only [blankCodes, List.mem_append, List.mem_range'_1, List.mem_cons, List.not_mem_nil, or_false]
  omega

/-- No blank belongs to the name of an attribute. -/
theorem isAttributeNameChar_of_isBlank (h : isBlank c = true) : isAttributeNameChar c = false := by
  have hall : ∀ n ∈ blankCodes, isAttributeNameChar (Char.ofNat n) = false := by decide +kernel
  rw [← Char.ofNat_toNat c]
  exact hall _ (toNat_mem_blankCodes h)

theorem isAttributeName_iff : isAttributeName s = true ↔
    trimEnd s ≠ [] ∧ (trimEnd s).all isAttributeNameChar = true := by
  simp [isAttributeName]

/-- Where an attribute is glued on, the text between the last step and the end is set apart by a slash. The
character before the branch counts as a part of the last step. -/
theorem unglueFrom_of_glued {before : Option Char} (htrim : trimEnd s = p ++ '@' :: n)
    (hstep : (before.toList ++ p).getLast?.any endsStep = true) (hname : n ≠ [])
    (hchars : n.all isAttributeNameChar = true) : unglueFrom before s = p ++ '/' :: '@' :: n := by
  induction p generalizing before s with
  | nil =>
    cases s with
    | nil => cases htrim
    | cons c r =>
      rw [trimEnd_cons] at htrim
      split at htrim
      · cases htrim
      · obtain ⟨rfl, hn⟩ := List.cons.inj htrim
        have hbefore : before.any endsStep = true := by
          cases before with
          | none => cases hstep
          | some c => exact hstep
        rw [unglueFrom, hbefore, isAttributeName_iff.mpr (by rw [hn]; exact ⟨hname, hchars⟩), hn]
        rfl
  | cons d p ih =>
    cases s with
    | nil => cases htrim
    | cons c r =>
      rw [trimEnd_cons] at htrim
      split at htrim
      · cases htrim
      · obtain ⟨rfl, hr⟩ := List.cons.inj htrim
        -- the rest still has an at sign, so it is no attribute's name
        have hrest : isAttributeName r = false := by
          rw [Bool.eq_false_iff, Ne, isAttributeName_iff, hr]
          exact fun h => not_mem_of_chars h.2 (by simp)
        have hlast : ((some c).toList ++ p).getLast?.any endsStep = true := by
          rw [List.getLast?_append, List.getLast?_cons] at hstep
          rw [Option.toList_some, List.singleton_append, List.getLast?_cons]
          exact hstep
        rw [unglueFrom, hrest, Bool.and_false, if_neg Bool.false_ne_true, ih hr hlast]
        rfl

/-- A branch with nothing glued on is kept as it is. -/
theorem unglueFrom_of_not_glued {before : Option Char}
    (h : ∀ p n, trimEnd s = p ++ '@' :: n → (before.toList ++ p).getLast?.any endsStep = true → n ≠ [] →
      n.all isAttributeNameChar = false) : unglueFrom before s = s := by
  induction s generalizing before with
  | nil => rfl
  | cons c r ih =>
    have hcut : (c == '@' && before.any endsStep && isAttributeName r) = false := by
      rw [Bool.eq_false_iff]
      intro hcut
      simp only [Bool.and_eq_true, beq_iff_eq, isAttributeName_iff] at hcut
      obtain ⟨⟨rfl, hbefore⟩, hname, hchars⟩ := hcut
      have hkept := h [] (trimEnd r) (by rw [trimEnd_cons, if_neg (by simp [hname])]; rfl)
        (by cases before with
          | none => cases hbefore
          | some c => exact hbefore) hname
      rw [hchars] at hkept
      cases hkept
    rw [unglueFrom, hcut, if_neg Bool.false_ne_true, ih fun p n htrim hlast hname => ?_]
    refine h (c :: p) n ?_ ?_ hname
    · rw [trimEnd_cons, htrim, if_neg (by simp)]
      rfl
    · rw [← hlast]
      cases before <;> simp

theorem IsGlued.unglue (h : IsGlued b p n) : unglue b = p ++ '/' :: '@' :: n :=
  unglueFrom_of_glued h.trimmed h.step h.name h.chars

theorem unglue_of_not_glued (h : ∀ p n, ¬ IsGlued b p n) : unglue b = b := by
  refine unglueFrom_of_not_glued fun p n htrim hstep hname => ?_
  rw [Bool.eq_false_iff]
  exact fun hchars => h p n ⟨htrim, hstep, hname, hchars⟩

/-- A branch with something glued on, with the blanks at its end. -/
theorem isGlued_append (hstep : p.getLast?.any endsStep = true) (hname : n ≠ [])
    (hchars : n.all isAttributeNameChar = true) (hw : w.all isBlank = true) : IsGlued (p ++ '@' :: n ++ w) p n := by
  refine ⟨trimEnd_append ?_ hw, hstep, hname, hchars⟩
  have hlast := List.all_eq_true.mp hchars _ (List.getLast_mem hname)
  have hend : (p ++ '@' :: n).getLast? = some (n.getLast hname) := by
    rw [List.getLast?_append, List.getLast?_cons, List.getLast?_eq_some_getLast hname]
    rfl
  rw [hend, Option.any_some, Bool.eq_false_iff]
  intro hblank
  rw [isAttributeNameChar_of_isBlank hblank] at hlast
  cases hlast

/-- What becomes of a branch. -/
inductive Unglued : Chars → Chars → Prop
  /-- The blanks at the end are dropped, and a slash comes before the last at sign. -/
  | glued {b p n : Chars} (h : IsGlued b p n) : Unglued b (p ++ '/' :: '@' :: n)
  /-- The branch is kept. -/
  | kept {b : Chars} (h : ∀ p n, ¬ IsGlued b p n) : Unglued b b

theorem unglue_spec (b : Chars) : Unglued b (unglue b) := by
  by_cases h : ∃ p n, IsGlued b p n
  · obtain ⟨p, n, h⟩ := h
    rw [h.unglue]
    exact .glued h
  · have hnot : ∀ p n, ¬ IsGlued b p n := fun p n hglued => h ⟨p, n, hglued⟩
    rw [unglue_of_not_glued hnot]
    exact .kept hnot

/-! ## Expanding -/

/-- The last of equal characters cuts a text in one way only. -/
theorem eq_of_cut_at_last (h : p ++ c :: n = q ++ c :: m) (hn : c ∉ n) (hm : c ∉ m) : p = q ∧ n = m := by
  rcases List.append_eq_append_iff.mp h with ⟨a, rfl, ha⟩ | ⟨a, rfl, ha⟩
  · cases a with
    | nil => simpa using ha
    | cons d a =>
      obtain ⟨rfl, rfl⟩ := List.cons.inj ha
      simp at hn
  · cases a with
    | nil => simpa [eq_comm] using ha
    | cons d a =>
      obtain ⟨rfl, rfl⟩ := List.cons.inj ha
      simp at hm

/-- What is set apart is not glued on any more. -/
theorem IsGlued.not_glued (h : IsGlued b p n) : ∀ q m, ¬ IsGlued (p ++ '/' :: '@' :: n) q m := by
  intro q m hglued
  have hlast : (p ++ '/' :: '@' :: n).getLast?.any isBlank = false := by
    have htrimmed := getLast?_trimEnd b
    rw [h.trimmed] at htrimmed
    simpa [List.getLast?_append, List.getLast?_cons] using htrimmed
  have htrim : trimEnd (p ++ '/' :: '@' :: n) = (p ++ ['/']) ++ '@' :: n := by
    simpa using trimEnd_append hlast (w := []) rfl
  rw [hglued.trimmed] at htrim
  obtain ⟨rfl, -⟩ := eq_of_cut_at_last htrim (not_mem_of_chars hglued.chars) (not_mem_of_chars h.chars)
  have hslash := hglued.step
  rw [List.getLast?_concat] at hslash
  exact absurd hslash (by decide)

theorem unglue_unglue (b : Chars) : unglue (unglue b) = unglue b := by
  refine unglue_of_not_glued ?_
  have hspec := unglue_spec b
  generalize unglue b = u at hspec ⊢
  cases hspec with
  | glued h => exact h.not_glued
  | kept h => exact h

/-- No bar comes into a branch. -/
theorem not_mem_unglue (h : '|' ∉ b) : '|' ∉ unglue b := by
  have hspec := unglue_spec b
  generalize unglue b = u at hspec ⊢
  cases hspec with
  | kept => exact h
  | @glued p n hglued =>
    obtain ⟨w, hw, -⟩ := exists_blanks b
    rw [hw, hglued.trimmed] at h
    simp only [List.mem_append, List.mem_cons, not_or] at h ⊢
    exact ⟨h.1.1, by decide, h.1.2⟩

/-- The branches of an expanded selector are those of the selector, each of them unglued. -/
theorem branches_expandShorthand (s : Chars) : branches (expandShorthand s) = (branches s).map unglue := by
  refine branches_joinBranches (by simpa using branches_ne_nil s) ?_
  rw [List.forall_mem_map]
  exact fun b hb => not_mem_unglue (not_mem_of_mem_branches hb)

theorem expandShorthand_append_bar (a b : Chars) :
    expandShorthand (a ++ '|' :: b) = expandShorthand a ++ '|' :: expandShorthand b := by
  rw [expandShorthand, branches_append_bar, List.map_append]
  exact joinBranches_append (by simpa using branches_ne_nil a) (by simpa using branches_ne_nil b)

theorem expandShorthand_expandShorthand (s : Chars) :
    expandShorthand (expandShorthand s) = expandShorthand s := by
  have htwice : ((branches s).map unglue).map unglue = (branches s).map unglue := by
    rw [List.map_map]
    exact List.map_congr_left fun b _ => unglue_unglue b
  rw [expandShorthand, branches_expandShorthand, htwice]
  rfl

/-- A selector is kept as it is if and only if nothing is glued on in any of its branches. -/
theorem expandShorthand_eq_self_iff :
    expandShorthand s = s ↔ ∀ b ∈ branches s, ∀ p n, ¬ IsGlued b p n := by
  constructor
  · intro hkept b hb p n hglued
    have hbranches := branches_expandShorthand s
    rw [hkept] at hbranches
    have hb' : unglue b = b := by
      have hmap : (branches s).map unglue = (branches s).map id := by rw [← hbranches, List.map_id]
      exact List.map_inj_left.mp hmap b hb
    refine hglued.not_glued p n ?_
    rw [← hglued.unglue, hb']
    exact hglued
  · intro h
    have hmap : (branches s).map unglue = (branches s).map id :=
      List.map_congr_left fun b hb => unglue_of_not_glued (h b hb)
    rw [expandShorthand, hmap, List.map_id, joinBranches_branches]

end MarkupQuery.Selector
