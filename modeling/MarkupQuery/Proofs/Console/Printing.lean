import Mathlib.Algebra.Order.BigOperators.Group.List
import Mathlib.Algebra.Order.Group.Nat
import MarkupQuery.Console.Line
import MarkupQuery.Console.Tagged

/-!
# What printing changes

A text that is printed on lines of its own has pictures in place of their names, loses control characters,
and has its tabs filled with spaces. Nothing else happens to it: texts come out as they are, each with the
end of a line, if and only if none of the three has something to change (`flatMap_printedText_eq_iff`).
-/

namespace MarkupQuery.Console

open MarkupQuery.Text

variable {s r line name picture p : Chars} {n : NamedPicture}

/-! ## Pictures without colons -/

/-- What a text is split at is in none of the parts. -/
theorem notMem_of_mem_splitOn {x : Char} (h : s ∈ r.splitOn x) : x ∉ s := by
  induction r generalizing s with
  | nil =>
    rw [List.splitOn_nil, List.mem_singleton] at h
    simp [h]
  | cons c r ih =>
    rw [List.splitOn_cons_eq_if_modifyHead] at h
    split at h
    · rcases List.mem_cons.mp h with rfl | h
      · exact List.not_mem_nil
      · exact ih h
    · next hc =>
      cases hparts : r.splitOn x with
      | nil => exact absurd hparts (List.splitOn_ne_nil x r)
      | cons first parts =>
        rw [hparts] at h ih
        rcases List.mem_cons.mp h with rfl | h
        · have hfirst := ih List.mem_cons_self
          rw [List.mem_cons, not_or]
          exact ⟨fun hx => hc (by simp [hx]), hfirst⟩
        · exact ih (List.mem_cons_of_mem _ h)

/-- The pictures of the table hold no colons, since its entries stand between colons. -/
theorem colon_notMem_of_lookupPicture {e : PictureEntry} (h : lookupPicture name = some e) :
    ':' ∉ e.picture := by
  obtain ⟨line, -, hline⟩ := List.exists_of_findSome?_eq_some h
  obtain ⟨entry, hentry, rfl⟩ := Option.map_eq_some_iff.mp hline
  have hmem := List.mem_of_find?_eq_some hentry
  exact fun hcolon => notMem_of_mem_splitOn hmem (List.mem_of_mem_drop hcolon)

theorem colon_notMem_addTone {tone : Char} (h : ':' ∉ picture) (htone : tone ≠ ':') :
    ':' ∉ addTone picture tone := by
  rw [addTone, List.mem_append, List.mem_cons]
  rintro (hstart | hcolon | hrest)
  · exact h (List.mem_of_mem_take hstart)
  · exact htone hcolon.symm
  · exact h (List.mem_of_mem_drop ((List.dropWhile_sublist _).mem hrest))

theorem colon_notMem_of_picture? (h : picture? name = some p) : ':' ∉ p := by
  have htones : ∀ t ∈ tones, t.2 ≠ ':' := by decide
  unfold picture? at h
  split at h
  · next e hlookup =>
    cases h
    exact colon_notMem_of_lookupPicture hlookup
  · obtain ⟨⟨ending, tone⟩, htone, h⟩ := List.exists_of_findSome?_eq_some h
    obtain ⟨base, -, h⟩ := Option.bind_eq_some_iff.mp h
    obtain ⟨e, hlookup, h⟩ := Option.bind_eq_some_iff.mp h
    split at h
    · cases h
      exact colon_notMem_addTone (colon_notMem_of_lookupPicture hlookup) (htones _ htone)
    · cases h

theorem colon_notMem_of_nameAt (h : nameAt s = some n) : ':' ∉ n.form := by
  induction s generalizing n with
  | nil => cases h
  | cons c r ih =>
    rw [nameAt] at h
    split at h
    · next form size hform =>
      cases h
      unfold formAt at hform
      split_ifs at hform <;> cases hform <;> decide
    · split_ifs at h
      obtain ⟨m, hm, rfl⟩ := Option.map_eq_some_iff.mp h
      exact ih (n := m) hm

/-! ## Names of pictures -/

/-- A text that names a picture somewhere. A colon opens the shortest name after it; if that is the name of
no picture, then names are looked for behind its closing colon. -/
inductive NamesPicture : Chars → Prop
  /-- The first colon opens the name of a picture. -/
  | here {r p : Chars} {n : NamedPicture} (hname : nameAt r = some n)
      (hpicture : picture? (lower n.name) = some p) : NamesPicture (':' :: r)
  /-- Behind a name between colons that is the name of no picture. -/
  | behind {r : Chars} {n : NamedPicture} (hname : nameAt r = some n)
      (hnone : picture? (lower n.name) = none) (h : NamesPicture (r.drop n.size)) :
      NamesPicture (':' :: r)
  /-- After a colon that opens no name. -/
  | colon {r : Chars} (hname : nameAt r = none) (h : NamesPicture r) : NamesPicture (':' :: r)
  /-- After another character. -/
  | later {c : Char} {r : Chars} (hc : c ≠ ':') (h : NamesPicture r) : NamesPicture (c :: r)

theorem replaceNames_eq (skip : Nat) (s : Chars) :
    replaceNames skip s = withPictures (s.drop skip) := by
  induction skip generalizing s with
  | zero => rfl
  | succ skip ih =>
    cases s with
    | nil => rfl
    | cons c r => exact ih r

theorem withPictures_cons {c : Char} (hc : c ≠ ':') (r : Chars) :
    withPictures (c :: r) = c :: withPictures r := by
  rw [withPictures, replaceNames, if_neg (by simpa using hc)]
  rfl

theorem withPictures_colon (h : nameAt r = none) :
    withPictures (':' :: r) = ':' :: withPictures r := by
  rw [withPictures, replaceNames, if_pos (beq_self_eq_true ':'), h]
  rfl

theorem withPictures_name (h : nameAt r = some n) (hp : picture? (lower n.name) = some p) :
    withPictures (':' :: r) = p ++ n.form ++ withPictures (r.drop n.size) := by
  rw [withPictures, replaceNames, if_pos (beq_self_eq_true ':'), h]
  simp only [hp, replaceNames_eq]

theorem withPictures_unnamed (h : nameAt r = some n) (hp : picture? (lower n.name) = none) :
    withPictures (':' :: r) = ':' :: r.take n.size ++ withPictures (r.drop n.size) := by
  rw [withPictures, replaceNames, if_pos (beq_self_eq_true ':'), h]
  simp only [hp, replaceNames_eq]

/-- A text that names no picture stays as it is. -/
theorem withPictures_of_not_namesPicture (h : ¬ NamesPicture s) : withPictures s = s := by
  -- names are passed as a whole, so that the text that remains is shorter but no tail by one character
  induction hlen : s.length using Nat.strong_induction_on generalizing s with
  | _ size ih =>
    subst hlen
    cases s with
    | nil => rfl
    | cons c r =>
      by_cases hc : c = ':'
      · subst hc
        cases hname : nameAt r with
        | none =>
          have hr : ¬ NamesPicture r := fun hr => h (.colon hname hr)
          rw [withPictures_colon hname, ih r.length (by simp) hr rfl]
        | some n =>
          cases hpicture : picture? (lower n.name) with
          | some p => exact absurd (.here hname hpicture) h
          | none =>
            have hr : ¬ NamesPicture (r.drop n.size) := fun hr => h (.behind hname hpicture hr)
            have hshorter : (r.drop n.size).length < (':' :: r).length := by
              rw [List.length_drop, List.length_cons]
              omega
            rw [withPictures_unnamed hname hpicture, ih _ hshorter hr rfl, List.cons_append,
              List.take_append_drop]
      · have hr : ¬ NamesPicture r := fun hr => h (.later hc hr)
        rw [withPictures_cons hc, ih r.length (by simp) hr rfl]

/-- Every picture takes the place of colons. -/
theorem count_withPictures_lt (h : NamesPicture s) : (withPictures s).count ':' < s.count ':' := by
  -- induction on the length: behind a picture the text may name another one or none
  induction hlen : s.length using Nat.strong_induction_on generalizing s with
  | _ size ih =>
    subst hlen
    have hle {r : Chars} (hr : r.length < s.length) : (withPictures r).count ':' ≤ r.count ':' := by
      by_cases hnames : NamesPicture r
      · exact (ih r.length hr hnames rfl).le
      · rw [withPictures_of_not_namesPicture hnames]
    cases h with
    | @here r p n hname hpicture =>
      -- the colon that opens the name goes, and neither the picture nor its form brings one
      have hp : p.count ':' = 0 := List.count_eq_zero.mpr (colon_notMem_of_picture? hpicture)
      have hform : n.form.count ':' = 0 := List.count_eq_zero.mpr (colon_notMem_of_nameAt hname)
      have hrest := hle (r := r.drop n.size) (by rw [List.length_drop, List.length_cons]; omega)
      have hdrop := (List.drop_sublist n.size r).count_le ':'
      rw [withPictures_name hname hpicture, List.count_append, List.count_append, List.count_cons_self]
      omega
    | @behind r n hname hnone h =>
      -- the name stays with its colons, and the picture comes behind it
      have hrest := ih _ (by rw [List.length_drop, List.length_cons]; omega) h rfl
      have hparts : r.count ':' = (r.take n.size).count ':' + (r.drop n.size).count ':' := by
        rw [← List.count_append, List.take_append_drop]
      rw [withPictures_unnamed hname hnone, List.count_append, List.count_cons_self,
        List.count_cons_self]
      omega
    | @colon r hname h =>
      have hrest := ih r.length (by simp) h rfl
      rw [withPictures_colon hname, List.count_cons_self, List.count_cons_self]
      omega
    | @later c r hc h =>
      rw [withPictures_cons hc, List.count_cons_of_ne hc, List.count_cons_of_ne hc]
      exact ih r.length (by simp) h rfl

theorem count_withPictures_le (s : Chars) : (withPictures s).count ':' ≤ s.count ':' := by
  by_cases h : NamesPicture s
  · exact (count_withPictures_lt h).le
  · rw [withPictures_of_not_namesPicture h]

/-! ## Control characters -/

theorem withoutControls_eq_self (h : ∀ c ∈ s, isUnshown c = false) : withoutControls s = s := by
  rw [withoutControls, List.filter_eq_self]
  intro c hc
  simp [h c hc]

theorem isUnshown_of_mem_withoutControls {c : Char} (h : c ∈ withoutControls s) :
    isUnshown c = false := by
  simpa using (List.mem_filter.mp h).2

theorem count_withoutControls {c : Char} (hc : isUnshown c = false) (s : Chars) :
    (withoutControls s).count c = s.count c :=
  List.count_filter (by simp [hc])

/-! ## Lines -/

section Kept

-- `k` tells which characters are kept: none of those that lines and tabs are made of
variable {k : Char → Bool} (hspace : k ' ' = false) (htab : k '\t' = false)
  (hend : k '\n' = false)

theorem filter_intercalate {x : Char} (hx : k x = false) (parts : List Chars) :
    (List.intercalate [x] parts).filter k = parts.flatMap (List.filter k) := by
  induction parts with
  | nil => rfl
  | cons part parts ih =>
    cases parts with
    | nil => simp
    | cons next parts =>
      rw [List.intercalate_cons_cons, List.filter_append, List.filter_append, ih, List.flatMap_cons]
      simp [hx]

include hspace in
theorem filter_expandFrom (column : Nat) (parts : List Chars) :
    (expandFrom column parts).filter k = parts.flatMap (List.filter k) := by
  induction parts generalizing column with
  | nil => rfl
  | cons part parts ih =>
    cases parts with
    | nil => simp [expandFrom]
    | cons next parts =>
      have hfill (n : Nat) : (List.replicate n ' ').filter k = [] :=
        List.filter_replicate_of_neg (by simp [hspace])
      rw [expandFrom, List.filter_append, List.filter_append, hfill, List.append_nil, ih]
      · rfl
      · exact List.cons_ne_nil next parts

include hspace htab in
theorem filter_expandTabs (line : Chars) : (expandTabs line).filter k = line.filter k := by
  have hparts := filter_intercalate htab (line.splitOn '\t')
  rw [List.intercalate_splitOn] at hparts
  rw [expandTabs, filter_expandFrom hspace, hparts]

include hspace htab hend in
/-- Printing a text on lines of its own adds and drops nothing but spaces, tabs and ends of lines. -/
theorem filter_looseText (s : Chars) : (looseText s).filter k = s.filter k := by
  have hlines := filter_intercalate hend (linesOf s)
  rw [linesOf, List.intercalate_splitOn] at hlines
  rw [looseText, List.filter_append, filter_intercalate hend, List.flatMap_map, linesOf, hlines]
  simp only [filter_expandTabs hspace htab]
  simp [hend]

end Kept

theorem tab_notMem_expandTabs (line : Chars) : '\t' ∉ expandTabs line := by
  have htabs : (expandTabs line).filter (· == '\t')
      = (line.splitOn '\t').flatMap (List.filter (· == '\t')) := by
    rw [expandTabs, filter_expandFrom rfl]
  intro htab
  have hmem : '\t' ∈ (expandTabs line).filter (· == '\t') := List.mem_filter.mpr ⟨htab, rfl⟩
  rw [htabs, List.mem_flatMap] at hmem
  obtain ⟨part, hpart, hmem⟩ := hmem
  exact notMem_of_mem_splitOn hpart (List.mem_filter.mp hmem).1

theorem tab_notMem_looseText (s : Chars) : '\t' ∉ looseText s := by
  have htabs : (looseText s).filter (· == '\t')
      = (linesOf s).flatMap fun line => (expandTabs line).filter (· == '\t') := by
    rw [looseText, List.filter_append, filter_intercalate rfl, List.flatMap_map]
    exact List.append_nil _
  intro htab
  have hmem : '\t' ∈ (looseText s).filter (· == '\t') := List.mem_filter.mpr ⟨htab, rfl⟩
  rw [htabs, List.mem_flatMap] at hmem
  obtain ⟨line, -, hmem⟩ := hmem
  exact tab_notMem_expandTabs line (List.mem_filter.mp hmem).1

theorem expandTabs_eq_self (h : '\t' ∉ line) : expandTabs line = line := by
  rw [expandTabs, List.splitOn_eq_singleton h]
  rfl

/-- A text without tabs is printed as it is, with the end of its last line. -/
theorem looseText_of_tab_notMem (h : '\t' ∉ s) : looseText s = s ++ ['\n'] := by
  have htabs := filter_intercalate (k := (· == '\t')) (x := '\n') rfl (linesOf s)
  rw [linesOf, List.intercalate_splitOn] at htabs
  have hlines : ∀ line ∈ linesOf s, expandTabs line = line := by
    intro line hline
    refine expandTabs_eq_self fun htab => h ?_
    have hmem : '\t' ∈ (linesOf s).flatMap (List.filter (· == '\t')) :=
      List.mem_flatMap.mpr ⟨line, hline, List.mem_filter.mpr ⟨htab, rfl⟩⟩
    rw [linesOf, ← htabs] at hmem
    exact (List.mem_filter.mp hmem).1
  have hmap : (linesOf s).map expandTabs = linesOf s := by
    rw [List.map_congr_left hlines, List.map_id']
  rw [looseText, hmap, linesOf, List.intercalate_splitOn]

/-! ## Printed texts -/

/-- A text that is printed as it is. -/
structure IsVerbatim (s : Chars) : Prop where
  tabs : '\t' ∉ s
  controls : ∀ c ∈ s, isUnshown c = false
  pictures : ¬ NamesPicture s

/-- A text as it is printed on lines of its own. -/
def printedText (s : Chars) : Chars := looseText (showPlain s)

theorem printedText_of_isVerbatim (h : IsVerbatim s) : printedText s = s ++ ['\n'] := by
  have hshown : showPlain s = s := by
    rw [showPlain, withPictures_of_not_namesPicture h.pictures, withoutControls_eq_self h.controls]
  rw [printedText, hshown, looseText_of_tab_notMem h.tabs]

/-- No control character is printed. -/
theorem isUnshown_of_mem_printedText {c : Char} (h : c ∈ printedText s) : isUnshown c = false := by
  by_contra hc
  have hmem : c ∈ (looseText (showPlain s)).filter isUnshown :=
    List.mem_filter.mpr ⟨h, by simpa using hc⟩
  rw [filter_looseText rfl rfl rfl] at hmem
  exact hc (isUnshown_of_mem_withoutControls (List.mem_filter.mp hmem).1)

theorem count_printedText (s : Chars) : (printedText s).count ':' = (withPictures s).count ':' := by
  have hlines := filter_looseText (k := (· == ':')) rfl rfl rfl (showPlain s)
  rw [printedText, List.count_eq_countP, List.countP_eq_length_filter, hlines,
    ← List.countP_eq_length_filter, ← List.count_eq_countP, showPlain, count_withoutControls rfl]

/-- Texts are printed as they are, each with the end of a line, if and only if each of them is verbatim:
what one of them loses is not made up for by another. -/
theorem flatMap_printedText_eq_iff (texts : List Chars) :
    texts.flatMap printedText = texts.flatMap (· ++ ['\n']) ↔ ∀ s ∈ texts, IsVerbatim s := by
  constructor
  · intro h s hs
    have hprinted {c : Char} (hc : c ∈ s) : ∃ t, c ∈ printedText t := by
      have hmem : c ∈ texts.flatMap (· ++ ['\n']) :=
        List.mem_flatMap.mpr ⟨s, hs, List.mem_append_left _ hc⟩
      rw [← h, List.mem_flatMap] at hmem
      obtain ⟨t, -, ht⟩ := hmem
      exact ⟨t, ht⟩
    -- no tab and no control character is printed, so that the texts had none
    refine ⟨fun htab => ?_, fun c hc => ?_, fun hnames => ?_⟩
    · obtain ⟨t, ht⟩ := hprinted htab
      exact tab_notMem_looseText _ ht
    · obtain ⟨t, ht⟩ := hprinted hc
      exact isUnshown_of_mem_printedText ht
    · -- a picture takes colons away, and no other text brings them back
      have hcount : (texts.flatMap printedText).count ':' < (texts.flatMap (· ++ ['\n'])).count ':' := by
        rw [List.count_flatMap, List.count_flatMap]
        refine List.sum_lt_sum _ _ (fun t _ => ?_) ⟨s, hs, ?_⟩
        · simpa [count_printedText] using count_withPictures_le t
        · simpa [count_printedText] using count_withPictures_lt hnames
      rw [h] at hcount
      exact absurd hcount (lt_irrefl _)
  · intro h
    induction texts with
    | nil => rfl
    | cons s texts ih =>
      rw [List.forall_mem_cons] at h
      rw [List.flatMap_cons, List.flatMap_cons, printedText_of_isVerbatim h.1, ih h.2]

example : ["a\tb".toList, "c\rd".toList].flatMap printedText = "a       b\ncd\n".toList := by decide

end MarkupQuery.Console
