import MarkupQuery.Proofs.Xml.References

/-!
# Attribute values read back

The value of an attribute is read back from between its quotes. Every character of its text is read
back, however it is written; references to entities that are not known are lost, and then the markup is
not well formed (`Reader.attributeValue_written`).
-/

namespace MarkupQuery.Xml

open MarkupQuery.Text MarkupQuery.Tree

variable {r : Reader} {s rest : Chars} {c : Char} (acc : Chars) (fuel : Nat)

/-! ## Parts of values -/

/-- A part of a value that can be read back: text that XML allows, or a reference to an entity that is
not one of those always known. -/
def ReadsBack : ValuePart → Prop
  | .text s => ∀ c ∈ s, isXmlChar c = true
  | .reference n _ => IsAnyName n ∧ predefined? n = none

/-- The text that a part of a value holds itself. -/
def partText : ValuePart → Chars
  | .text s => s
  | .reference _ _ => []

/-- Whether a part of a value is text. -/
def isTextPart : ValuePart → Bool
  | .text _ => true
  | .reference _ _ => false

/-! ## Single characters -/

/-- A character of a value that needs no reference. -/
def isFreeInValue (c : Char) : Bool :=
  !(isNamed c || c == '"' || c == '\n' || c == '\t' || c == '\r')

theorem escapeInValue_free (h : isFreeInValue c = true) : escapeInValue c = [c] := by
  simp only [isFreeInValue, isNamed, Bool.not_eq_true', Bool.or_eq_false_iff] at h
  simp [escapeInValue, escapeInText, h]

/-- How a character is written in a value: as it is, by name, or by number. -/
theorem escapeInValue_cases (c : Char) :
    isFreeInValue c = true ∨ (isNamed c = true ∨ c = '"') ∨
      (c = '\n' ∨ c = '\t' ∨ c = '\r') := by
  by_cases hfree : isFreeInValue c = true
  · exact .inl hfree
  · simp only [isFreeInValue, Bool.not_eq_true', Bool.not_eq_false, Bool.or_eq_true,
      beq_iff_eq] at hfree
    tauto

/-- A reference in a value whose name is known. -/
theorem Reader.valueFrom_predefined {name : Chars} (hname : IsAnyName name)
    (hknown : predefined? name = some c) (h : r.input = '&' :: name ++ ';' :: rest) :
    Reader.valueFrom '"' (fuel + 1) r acc [] = Reader.valueFrom '"' fuel (r.at_ rest) (c :: acc) [] := by
  have hentity := Reader.entityName_written hname h
  have hmeaning := Reader.meaning_predefined (r := r.at_ rest) hknown
  obtain ⟨d, t, rfl, hd, -⟩ := hname
  have hnumber : d ≠ '#' := by
    rintro rfl
    exact absurd hd (by decide)
  rw [Reader.valueFrom, h]
  simp [hnumber, hentity, hmeaning]

/-- A reference in a value whose name is not known is left out. -/
theorem Reader.valueFrom_unknown (hr : r.Undeclared) {name : Chars} (hname : IsAnyName name)
    (hunknown : predefined? name = none) (h : r.input = '&' :: name ++ ';' :: rest) :
    ∃ r', r.Moves rest false r' ∧
      Reader.valueFrom '"' (fuel + 1) r acc [] = Reader.valueFrom '"' fuel r' acc [] := by
  have hentity := Reader.entityName_written hname h
  obtain ⟨message, hmeaning⟩ := Reader.meaning_unknown ((r.moves_at rest).undeclared hr) hunknown
  refine ⟨(r.at_ rest).fatal message, (r.moves_at rest).trans ((r.at_ rest).moves_fatal message), ?_⟩
  obtain ⟨d, t, rfl, hd, -⟩ := hname
  have hnumber : d ≠ '#' := by
    rintro rfl
    exact absurd hd (by decide)
  rw [Reader.valueFrom, h]
  simp [hnumber, hentity, hmeaning]

/-- A reference by number in a value. -/
theorem Reader.valueFrom_number {s : Chars} (hnumber : r.characterReference = (r.at_ rest, some c))
    (h : r.input = '&' :: '#' :: s) :
    Reader.valueFrom '"' (fuel + 1) r acc [] = Reader.valueFrom '"' fuel (r.at_ rest) (c :: acc) [] := by
  rw [Reader.valueFrom, h]
  simp [hnumber]

/-- A character of a value is read back. -/
theorem Reader.valueFrom_escape (hc : isXmlChar c = true) (h : r.input = escapeInValue c ++ rest) :
    Reader.valueFrom '"' (fuel + 1) r acc [] = Reader.valueFrom '"' fuel (r.at_ rest) (c :: acc) [] := by
  rcases escapeInValue_cases c with hfree | hnamed | hnumber
  · rw [escapeInValue_free hfree] at h
    simp only [isFreeInValue, isNamed, Bool.not_eq_true', Bool.or_eq_false_iff,
      beq_eq_false_iff_ne] at hfree
    rw [Reader.valueFrom, h]
    simp [hfree, hc]
  · rw [(escapeInValue_named hnamed).1, List.append_assoc, List.singleton_append] at h
    exact Reader.valueFrom_predefined acc fuel (isAnyName_entityOf c) (escapeInValue_named hnamed).2 h
  · rcases hnumber with rfl | rfl | rfl
    · exact Reader.valueFrom_number acc fuel (Reader.characterReference_lineFeed h) (s := "10;".toList ++ rest) h
    · exact Reader.valueFrom_number acc fuel (Reader.characterReference_tab h) (s := "9;".toList ++ rest) h
    · exact Reader.valueFrom_number acc fuel (Reader.characterReference_return h) (s := "13;".toList ++ rest) h

/-- The text of a value is read back. -/
theorem Reader.valueFrom_text (hs : ∀ c ∈ s, isXmlChar c = true)
    (h : r.input = writeValue s ++ rest) :
    Reader.valueFrom '"' (fuel + s.length) r acc []
      = Reader.valueFrom '"' fuel (r.at_ rest) (s.reverse ++ acc) [] := by
  induction s generalizing r acc with
  | nil =>
    have hr : r.at_ rest = r := by
      rw [← List.nil_append rest, ← show writeValue [] = [] from rfl, ← h]
      rfl
    rw [hr]
    rfl
  | cons c s ih =>
    rw [List.forall_mem_cons] at hs
    rw [writeValue_cons, List.append_assoc] at h
    rw [List.length_cons, ← Nat.add_assoc, Reader.valueFrom_escape acc _ hs.1 h, ih _ hs.2 rfl]
    simp [Reader.at_]

theorem length_le_writeValue (s : Chars) : s.length ≤ (writeValue s).length := by
  induction s with
  | nil => exact Nat.le_refl 0
  | cons c s ih =>
    have hc : 1 ≤ (escapeInValue c).length := by
      rcases escapeInValue_cases c with hfree | hnamed | hnumber
      · rw [escapeInValue_free hfree]
        exact Nat.le_refl 1
      · rw [(escapeInValue_named hnamed).1]
        simp
      · rcases hnumber with rfl | rfl | rfl <;> decide
    rw [writeValue_cons, List.length_append, List.length_cons]
    omega

/-! ## Whole values -/

/-- All parts of a value are read up to its quote: its text, without its references. -/
theorem Reader.valueFrom_parts {parts : List ValuePart} (hr : r.Undeclared)
    (hparts : ∀ p ∈ parts, ReadsBack p) (h : r.input = parts.flatMap writePart ++ '"' :: rest)
    (hfuel : (parts.flatMap writePart).length < fuel) :
    ∃ r', r.Moves rest (parts.all isTextPart) r' ∧
      Reader.valueFrom '"' fuel r acc [] = (r', some [.text (acc.reverse ++ parts.flatMap partText)]) := by
  induction parts generalizing r acc fuel with
  | nil =>
    obtain ⟨fuel, rfl⟩ : ∃ k, fuel = k + 1 := ⟨fuel - 1, by simp at hfuel; omega⟩
    refine ⟨r.at_ rest, r.moves_at rest, ?_⟩
    rw [Reader.valueFrom, h]
    cases acc with
    | nil => simp [appendText]
    | cons c acc => simp [appendText]
  | cons p parts ih =>
    rw [List.forall_mem_cons] at hparts
    rw [List.flatMap_cons, List.append_assoc] at h
    rw [List.flatMap_cons, List.length_append] at hfuel
    cases p with
    | text s =>
      have hlen := length_le_writeValue s
      obtain ⟨k, rfl⟩ : ∃ k, fuel = k + s.length := ⟨fuel - s.length, by
        rw [writePart] at hfuel
        omega⟩
      have hmoves := r.moves_at (parts.flatMap writePart ++ '"' :: rest)
      obtain ⟨r', hmoves', heq⟩ := ih (s.reverse ++ acc) k (hmoves.undeclared hr) hparts.2 rfl
        (by rw [writePart] at hfuel; omega)
      refine ⟨r', hmoves.trans hmoves', ?_⟩
      rw [Reader.valueFrom_text acc k hparts.1 h, heq]
      simp [partText]
    | reference n content =>
      -- what the reference stands for is not known, so it is skipped
      obtain ⟨k, rfl⟩ : ∃ k, fuel = k + 1 := ⟨fuel - 1, by omega⟩
      have hinput : r.input = '&' :: n ++ ';' :: (parts.flatMap writePart ++ '"' :: rest) := by
        rw [h, writePart]
        simp
      obtain ⟨r₁, hmoves, hskip⟩ := Reader.valueFrom_unknown acc k hr hparts.1.1
        hparts.1.2 hinput
      obtain ⟨r', hmoves', heq⟩ := ih acc k (hmoves.undeclared hr) hparts.2 hmoves.input
        (by rw [writePart] at hfuel; simp at hfuel ⊢; omega)
      refine ⟨r', hmoves.trans hmoves', ?_⟩
      rw [hskip, heq]
      rfl

/-- A value is read back from between its quotes as one text, without its references. -/
theorem Reader.attributeValue_written {parts : List ValuePart} (hr : r.Undeclared)
    (hparts : ∀ p ∈ parts, ReadsBack p)
    (h : r.input = '"' :: (parts.flatMap writePart ++ '"' :: rest)) :
    ∃ r', r.Moves rest (parts.all isTextPart) r' ∧
      r.attributeValue = (r', some [.text (parts.flatMap partText)]) := by
  have hmoves := r.moves_at (parts.flatMap writePart ++ '"' :: rest)
  obtain ⟨r', hmoves', heq⟩ := Reader.valueFrom_parts []
    ((parts.flatMap writePart ++ '"' :: rest).length + 1) (hmoves.undeclared hr) hparts rfl (by simp)
  refine ⟨r', hmoves.trans hmoves', ?_⟩
  rw [Reader.attributeValue, h]
  exact heq

end MarkupQuery.Xml
