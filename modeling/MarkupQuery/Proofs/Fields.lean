import MarkupQuery.Proofs.Endings
import MarkupQuery.Proofs.Pairs
import MarkupQuery.Proofs.Text.Trimming

/-!
# Reading fields

A field is cut at its first equals sign (`splitAtEquals_eq`) and read if something that is not blank stands on both
sides of it (`readField_eq`). A list of fields is read if and only if every one of them is, and otherwise the first
that is not is told (`readFields_eq_error_iff`); what is read has every name once, where it comes first, with the
selector that comes last (`readFields_exact`). Tidy fields with different names are read back from what is written for them
(`readFields_writeField`), and whatever is read is such a list (`readFields_settled`).
-/

namespace MarkupQuery

open MarkupQuery.Text

variable {raw name : Chars} {raws : List Chars} {p : Chars × Chars} {ps fields : List (Chars × Chars)}

/-! ## The first equals sign -/

/-- What stands before the first equals sign of a text. -/
def beforeEquals (raw : Chars) : Chars := raw.takeWhile (· != '=')

/-- What stands after the first equals sign of a text. -/
def afterEquals (raw : Chars) : Chars := (raw.dropWhile (· != '=')).tail

theorem equals_notMem_beforeEquals (raw : Chars) : '=' ∉ beforeEquals raw := by
  intro h
  have hne := List.all_eq_true.mp List.all_takeWhile _ h
  simp at hne

section

variable (hname : '=' ∉ name) (selector : Chars)

include hname

theorem ne_equals_of_mem : ∀ c ∈ name, (c != '=') = true := by
  intro c hc
  rw [bne_iff_ne]
  rintro rfl
  exact hname hc

theorem beforeEquals_append : beforeEquals (name ++ '=' :: selector) = name := by
  rw [beforeEquals, List.takeWhile_append_of_pos (ne_equals_of_mem hname), List.takeWhile_cons_of_neg (by simp),
    List.append_nil]

theorem afterEquals_append : afterEquals (name ++ '=' :: selector) = selector := by
  rw [afterEquals, List.dropWhile_append_of_pos (ne_equals_of_mem hname), List.dropWhile_cons_of_neg (by simp),
    List.tail_cons]

end

theorem splitAtEquals_eq (raw : Chars) :
    splitAtEquals raw = if '=' ∈ raw then some (beforeEquals raw, afterEquals raw) else none := by
  induction raw with
  | nil => rfl
  | cons c r ih =>
    rw [splitAtEquals]
    by_cases hc : c = '='
    · subst hc
      simp [beforeEquals, afterEquals]
    · have hbefore : beforeEquals (c :: r) = c :: beforeEquals r := List.takeWhile_cons_of_pos (by simpa using hc)
      have hafter : afterEquals (c :: r) = afterEquals r := by
        rw [afterEquals, List.dropWhile_cons_of_pos (by simpa using hc), afterEquals]
      have hmem : '=' ∈ c :: r ↔ '=' ∈ r := by simp [Ne.symm hc]
      rw [if_neg (by simpa using hc), ih, hbefore, hafter]
      simp only [hmem]
      split <;> rfl

/-! ## One field -/

/-- A text with an equals sign, and something on both sides of the first one that is not blank. -/
structure IsField (raw : Chars) : Prop where
  equals : '=' ∈ raw
  name : ∃ c ∈ beforeEquals raw, isBlank c = false
  selector : ∃ c ∈ afterEquals raw, isBlank c = false

/-- The name and the selector that stand in a text. -/
def fieldOf (raw : Chars) : Chars × Chars := (trim (beforeEquals raw), trim (afterEquals raw))

theorem trim_ne_nil_iff {s : Chars} : trim s ≠ [] ↔ ∃ c ∈ s, isBlank c = false := by
  rw [ne_eq, trim_eq_nil_iff]
  simp

theorem isField_iff : IsField raw ↔ '=' ∈ raw ∧ (fieldOf raw).1 ≠ [] ∧ (fieldOf raw).2 ≠ [] := by
  rw [fieldOf, trim_ne_nil_iff, trim_ne_nil_iff]
  exact ⟨fun h => ⟨h.equals, h.name, h.selector⟩, fun h => ⟨h.1, h.2.1, h.2.2⟩⟩

instance : DecidablePred IsField := fun _ => decidable_of_iff _ isField_iff.symm

theorem readField_eq (raw : Chars) : readField raw = if IsField raw then some (fieldOf raw) else none := by
  simp only [readField, splitAtEquals_eq, isField_iff]
  by_cases hequals : '=' ∈ raw
  · simp only [hequals, if_true, true_and]
    by_cases hparts : (fieldOf raw).1 ≠ [] ∧ (fieldOf raw).2 ≠ []
    · rw [if_pos hparts, if_neg (by simpa [fieldOf] using hparts)]
      rfl
    · rw [if_neg hparts, if_pos (by simpa [fieldOf, or_iff_not_imp_left] using hparts)]
  · simp only [hequals, if_false, false_and]

/-! ## A list of fields -/

/-- Fields are read one after the other, and the first text that is no field is told. -/
theorem readFields_eq (raws : List Chars) :
    readFields raws = match raws.find? fun raw => !decide (IsField raw) with
      | none => .ok (ofPairs (raws.map fieldOf))
      | some raw => .error (.badField (String.ofList raw)) := by
  have hone : readFields raws = (do
      let pairs ← raws.mapM fun raw =>
        if IsField raw then Except.ok (fieldOf raw) else .error (.badField (String.ofList raw))
      return ofPairs pairs) := by
    rw [readFields]
    -- the two differ in the step for one text
    congr 2
    funext raw
    rw [readField_eq]
    by_cases hraw : IsField raw
    · rw [if_pos hraw, if_pos hraw]
    · rw [if_neg hraw, if_neg hraw]
  rw [hone, mapM_tested]
  cases raws.find? fun raw => !decide (IsField raw) <;> rfl

theorem readFields_of_isField (h : ∀ raw ∈ raws, IsField raw) : readFields raws = .ok (ofPairs (raws.map fieldOf)) := by
  have hnone : (raws.find? fun raw => !decide (IsField raw)) = none :=
    List.find?_eq_none.mpr fun raw hraw => by simpa using h raw hraw
  rw [readFields_eq, hnone]

/-- What is not read holds a text that is no field, and the first of these is told. -/
theorem readFields_eq_error_iff {f : Fault} : readFields raws = .error f ↔
    ∃ before raw after, raws = before ++ raw :: after ∧ (∀ r ∈ before, IsField r) ∧ ¬ IsField raw ∧
      f = .badField (String.ofList raw) := by
  rw [readFields_eq]
  constructor
  · intro h
    cases hfind : raws.find? fun raw => !decide (IsField raw) with
    | none =>
      rw [hfind] at h
      cases h
    | some raw =>
      rw [hfind] at h
      obtain ⟨hraw, before, after, rfl, hbefore⟩ := List.find?_eq_some_iff_append.mp hfind
      exact ⟨before, raw, after, rfl, by simpa using hbefore, by simpa using hraw, (Except.error.inj h).symm⟩
  · rintro ⟨before, raw, after, rfl, hbefore, hraw, rfl⟩
    have hfind : ((before ++ raw :: after).find? fun raw => !decide (IsField raw)) = some raw :=
      List.find?_eq_some_iff_append.mpr ⟨by simpa using hraw, before, after, rfl, by simpa using hbefore⟩
    rw [hfind]

theorem readFields_eq_ok_iff : readFields raws = .ok fields ↔
    (∀ raw ∈ raws, IsField raw) ∧ fields = ofPairs (raws.map fieldOf) := by
  constructor
  · intro h
    rw [readFields_eq] at h
    cases hfind : raws.find? fun raw => !decide (IsField raw) with
    | none =>
      rw [hfind] at h
      exact ⟨by simpa using List.find?_eq_none.mp hfind, (Except.ok.inj h).symm⟩
    | some raw =>
      rw [hfind] at h
      cases h
  · rintro ⟨hall, rfl⟩
    exact readFields_of_isField hall

/-! ## Writing fields -/

/-- A name and a selector as they stand in a list of fields that was read. -/
structure IsTidy (p : Chars × Chars) : Prop where
  name : p.1 ≠ [] ∧ trim p.1 = p.1
  plain : '=' ∉ p.1
  selector : p.2 ≠ [] ∧ trim p.2 = p.2

theorem isTidy_iff : IsTidy p ↔ (p.1 ≠ [] ∧ trim p.1 = p.1) ∧ '=' ∉ p.1 ∧ p.2 ≠ [] ∧ trim p.2 = p.2 :=
  ⟨fun h => ⟨h.name, h.plain, h.selector⟩, fun h => ⟨h.1, h.2.1, h.2.2⟩⟩

instance : DecidablePred IsTidy := fun _ => decidable_of_iff _ isTidy_iff.symm

/-- The text of a field. -/
def writeField (p : Chars × Chars) : Chars := p.1 ++ '=' :: p.2

theorem IsTidy.fieldOf_writeField (h : IsTidy p) : fieldOf (writeField p) = p := by
  rw [fieldOf, writeField, beforeEquals_append h.plain, afterEquals_append h.plain, h.name.2, h.selector.2]

theorem IsTidy.isField_writeField (h : IsTidy p) : IsField (writeField p) := by
  rw [isField_iff, h.fieldOf_writeField]
  exact ⟨by simp [writeField], h.name.1, h.selector.1⟩

theorem IsField.isTidy (h : IsField raw) : IsTidy (fieldOf raw) := by
  obtain ⟨-, hname, hselector⟩ := isField_iff.mp h
  refine ⟨⟨hname, trim_trim _⟩, fun hmem => ?_, ⟨hselector, trim_trim _⟩⟩
  exact equals_notMem_beforeEquals raw ((isInfix_trim _).subset hmem)

theorem readFields_writeField (hnames : (ps.map Prod.fst).Nodup) (htidy : ∀ p ∈ ps, IsTidy p) :
    readFields (ps.map writeField) = .ok ps := by
  have hfields : ∀ raw ∈ ps.map writeField, IsField raw := by
    intro raw hraw
    obtain ⟨p, hp, rfl⟩ := List.mem_map.mp hraw
    exact (htidy p hp).isField_writeField
  have hback : (ps.map writeField).map fieldOf = ps := by
    rw [List.map_map]
    exact (List.map_congr_left fun p hp => (htidy p hp).fieldOf_writeField).trans (List.map_id' ps)
  rw [readFields_of_isField hfields, hback, ofPairs_eq_self hnames]

/-- Fields that were read are read again from what is written for them. -/
theorem readFields_settled (h : readFields raws = .ok fields) : readFields (fields.map writeField) = .ok fields := by
  obtain ⟨hall, rfl⟩ := readFields_eq_ok_iff.mp h
  refine readFields_writeField (nodup_ofPairs _) fun p hp => ?_
  obtain ⟨raw, hraw, rfl⟩ := List.mem_map.mp (mem_of_mem_ofPairs hp)
  exact (hall raw hraw).isTidy

/-- **What reading fields gives.** A list of texts is read if and only if every text has an equals sign and
something on both sides of the first one that is not blank. What is read has the trimmed names, each once and where
it comes first, with the trimmed selector that stands where the name comes last. So trimmed names that differ and
hold no equals sign, with trimmed selectors, are read back in their order. -/
theorem readFields_exact (raws : List Chars) (ps : List (Chars × Chars)) :
    ((∃ fields, readFields raws = .ok fields) ↔ ∀ raw ∈ raws, IsField raw) ∧
    (∀ fields, readFields raws = .ok fields →
      fields.map Prod.fst = (raws.map fun raw => trim (beforeEquals raw)).eraseDups ∧
      ∀ before raw after, raws = before ++ raw :: after →
        (∀ later ∈ after, trim (beforeEquals later) ≠ trim (beforeEquals raw)) →
        fields.lookup (trim (beforeEquals raw)) = some (trim (afterEquals raw))) ∧
    ((ps.map Prod.fst).Nodup → (∀ p ∈ ps, IsTidy p) → readFields (ps.map writeField) = .ok ps) := by
  refine ⟨⟨?_, fun hall => ⟨_, readFields_of_isField hall⟩⟩, fun fields hread => ?_, readFields_writeField⟩
  · rintro ⟨fields, hread⟩
    exact (readFields_eq_ok_iff.mp hread).1
  · obtain ⟨-, rfl⟩ := readFields_eq_ok_iff.mp hread
    refine ⟨?_, fun before raw after hraws hlast => ?_⟩
    · rw [map_fst_ofPairs, List.map_map]
      rfl
    · rw [hraws, List.map_append, List.map_cons]
      refine lookup_ofPairs_of_last (p := fieldOf raw) fun q hq => ?_
      obtain ⟨later, hlater, rfl⟩ := List.mem_map.mp hq
      exact hlast later hlater

/-- A name that comes again, between other blanks, keeps its first place and takes its last selector; an equals sign
in a selector belongs to it. -/
theorem readFields_exact_repeated : ∃ fields,
    readFields ["a=//p".toList, "b = //a[@k='1'] ".toList, "\t a\u3000=//q".toList] = .ok fields ∧
      fields.map Prod.fst = [['a'], ['b']] ∧ fields.lookup ['a'] = some "//q".toList ∧
      fields.lookup ['b'] = some "//a[@k='1']".toList ∧
      readFields ["b=//a[@k='1']".toList, "a=//q".toList] =
        .ok [(['b'], "//a[@k='1']".toList), (['a'], "//q".toList)] := by
  obtain ⟨hread, hfields, hwritten⟩ := readFields_exact
    ["a=//p".toList, "b = //a[@k='1'] ".toList, "\t a\u3000=//q".toList]
    [(['b'], "//a[@k='1']".toList), (['a'], "//q".toList)]
  obtain ⟨fields, hok⟩ := hread.mpr (by decide +kernel)
  obtain ⟨hnames, hlast⟩ := hfields fields hok
  exact ⟨fields, hok, hnames, hlast ["a=//p".toList, "b = //a[@k='1'] ".toList] _ [] rfl (by decide),
    hlast ["a=//p".toList] _ ["\t a\u3000=//q".toList] rfl (by decide +kernel),
    hwritten (by decide) (by decide +kernel)⟩

end MarkupQuery
