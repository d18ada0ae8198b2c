import Mathlib.Data.List.TakeWhile
import MarkupQuery.Text.Blank

/-!
# What trimming keeps

A text is trimmed to the part between the blanks at its two ends, and this part neither begins nor ends with a
blank (`trim_eq_iff`). So trimming keeps a contiguous part of the text (`isInfix_trim`), trimming twice is trimming
once (`trim_trim`), and nothing is left exactly of a text that is all blank (`trim_eq_nil_iff`).
-/

namespace MarkupQuery.Text

variable {s t w : Chars}

/-! ## The end -/

theorem trimEnd_cons (c : Char) (r : Chars) :
    trimEnd (c :: r) = if trimEnd r = [] ∧ isBlank c = true then [] else c :: trimEnd r := by
  unfold trimEnd
  rw [List.reverse_cons, List.dropWhile_append]
  cases h : r.reverse.dropWhile isBlank with
  | nil => cases hc : isBlank c <;> simp [hc]
  | cons d q => simp

/-- What is trimmed off a text is blank. -/
theorem exists_blanks (s : Chars) : ∃ w, s = trimEnd s ++ w ∧ w.all isBlank = true := by
  refine ⟨(s.reverse.takeWhile isBlank).reverse, ?_, ?_⟩
  · rw [trimEnd, ← List.reverse_append, List.takeWhile_append_dropWhile, List.reverse_reverse]
  · rw [List.all_reverse]
    exact List.all_takeWhile

/-- A text that does not end with a blank is all that is left of it when blanks are added. -/
theorem trimEnd_append (hs : s.getLast?.any isBlank = false) (hw : w.all isBlank = true) :
    trimEnd (s ++ w) = s := by
  have hdrop : w.reverse.dropWhile isBlank = [] := by
    rw [List.dropWhile_eq_nil_iff]
    exact fun x hx => List.all_eq_true.mp hw x (List.mem_reverse.mp hx)
  rw [trimEnd, List.reverse_append, List.dropWhile_append, hdrop]
  rw [List.getLast?_eq_head?_reverse] at hs
  cases hr : s.reverse with
  | nil => rw [List.reverse_eq_nil_iff.mp hr]; rfl
  | cons d r =>
    rw [hr] at hs
    rw [List.isEmpty_nil, if_pos rfl, List.dropWhile_cons_of_neg (by simpa using hs), ← hr, List.reverse_reverse]

/-- A trimmed text does not end with a blank. -/
theorem getLast?_trimEnd (s : Chars) : (trimEnd s).getLast?.any isBlank = false := by
  rw [trimEnd, List.getLast?_reverse]
  cases h : s.reverse.dropWhile isBlank with
  | nil => rfl
  | cons c r =>
    have hc := List.head?_dropWhile_not isBlank s.reverse
    rw [h] at hc
    simpa using hc

/-! ## Both ends -/

theorem trimStart_blanks (hw : w.all isBlank = true) (s : Chars) : trimStart (w ++ s) = trimStart s := by
  have hdrop : w.dropWhile isBlank = [] := List.dropWhile_eq_nil_iff.mpr (List.all_eq_true.mp hw)
  rw [trimStart, List.dropWhile_append, hdrop, List.isEmpty_nil, if_pos rfl]
  rfl

/-- A trimmed text does not begin with a blank. -/
theorem head?_trim (s : Chars) : (trim s).head?.any isBlank = false := by
  rw [trim]
  cases h : trimStart s with
  | nil => rfl
  | cons c r =>
    have hc : isBlank c = false := by
      have hhead := List.head?_dropWhile_not isBlank s
      rw [← trimStart, h] at hhead
      simpa using hhead
    rw [trimEnd_cons, if_neg (by simp [hc])]
    exact hc

/-- What is left of a text stands between blanks, and neither begins nor ends with one. -/
theorem trim_eq_iff : trim s = t ↔ (∃ v w, s = v ++ t ++ w ∧ v.all isBlank = true ∧ w.all isBlank = true) ∧
    t.head?.any isBlank = false ∧ t.getLast?.any isBlank = false := by
  constructor
  · rintro rfl
    obtain ⟨w, hw, hblank⟩ := exists_blanks (trimStart s)
    refine ⟨⟨s.takeWhile isBlank, w, ?_, List.all_takeWhile, hblank⟩, head?_trim s, getLast?_trimEnd _⟩
    rw [List.append_assoc, trim, ← hw]
    exact List.takeWhile_append_dropWhile.symm
  · rintro ⟨⟨v, w, rfl, hv, hw⟩, hhead, hlast⟩
    rw [trim, List.append_assoc, trimStart_blanks hv]
    cases t with
    | nil =>
      -- no character stops the trimming at the start, so it goes on through `w`
      have hstart := trimStart_blanks hw []
      rw [List.append_nil] at hstart
      rw [List.nil_append, hstart]
      rfl
    | cons c r =>
      have hstart : trimStart (c :: r ++ w) = c :: r ++ w := List.dropWhile_cons_of_neg (by simpa using hhead)
      rw [hstart, trimEnd_append hlast hw]

theorem isInfix_trim (s : Chars) : trim s <:+: s := by
  obtain ⟨⟨v, w, h, -, -⟩, -, -⟩ := trim_eq_iff.mp (rfl : trim s = trim s)
  exact ⟨v, w, h.symm⟩

theorem trim_trim (s : Chars) : trim (trim s) = trim s := by
  obtain ⟨-, hends⟩ := trim_eq_iff.mp (rfl : trim s = trim s)
  exact trim_eq_iff.mpr ⟨⟨[], [], by simp, rfl, rfl⟩, hends⟩

/-- Nothing is left of a text exactly if it is all blank. -/
theorem trim_eq_nil_iff : trim s = [] ↔ ∀ c ∈ s, isBlank c = true := by
  rw [trim_eq_iff]
  constructor
  · rintro ⟨⟨v, w, rfl, hv, hw⟩, -⟩ c hc
    rw [List.append_nil, List.mem_append] at hc
    exact hc.elim (List.all_eq_true.mp hv c) (List.all_eq_true.mp hw c)
  · intro h
    exact ⟨⟨s, [], by simp, List.all_eq_true.mpr h, rfl⟩, rfl, rfl⟩

end MarkupQuery.Text
