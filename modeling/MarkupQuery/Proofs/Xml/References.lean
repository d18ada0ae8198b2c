import MarkupQuery.Xml.Writer
import MarkupQuery.Proofs.Xml.Names
import MarkupQuery.Proofs.Xml.Progress

/-!
# References read back

A character that cannot stand for itself is written as a reference, which is read back as that
character. References by number always are. References by name are in attributes; in content they are
dropped once the markup is not well formed. A reference to any other entity is not known where nothing
is declared: it is kept without content, and the markup is not well formed.
-/

namespace MarkupQuery.Xml

open MarkupQuery.Text MarkupQuery.Tree

variable {r : Reader} {name rest : Chars} {c : Char}

/-! ## Single characters -/

/-- The characters that are written as references by name, in text and in attributes. -/
def isNamed (c : Char) : Bool := c == '&' || c == '<' || c == '>'

/-- What is read of a text in content: references by name are dropped once the markup is not well
formed. -/
def keptText (sound : Bool) (s : Chars) : Chars := if sound then s else s.filter fun c => !isNamed c

@[simp] theorem keptText_true (s : Chars) : keptText true s = s := rfl

@[simp] theorem keptText_nil (sound : Bool) : keptText sound [] = [] := by
  cases sound <;> rfl

theorem keptText_append (sound : Bool) (s t : Chars) :
    keptText sound (s ++ t) = keptText sound s ++ keptText sound t := by
  cases sound with
  | true => rfl
  | false => exact List.filter_append ..

theorem keptText_of_not_named (sound : Bool) {s : Chars} (h : ∀ c ∈ s, isNamed c = false) :
    keptText sound s = s := by
  cases sound with
  | true => rfl
  | false => exact List.filter_eq_self.mpr fun c hc => by simp [h c hc]

/-- A decimal reference to a blank that does not stand for itself is read as that blank. -/
theorem Reader.characterReference_tab (h : r.input = "&#9;".toList ++ rest) :
    r.characterReference = (r.at_ rest, some '\t') := by
  rw [Reader.characterReference, h]
  rfl

theorem Reader.characterReference_lineFeed (h : r.input = "&#10;".toList ++ rest) :
    r.characterReference = (r.at_ rest, some '\n') := by
  rw [Reader.characterReference, h]
  rfl

theorem Reader.characterReference_return (h : r.input = "&#13;".toList ++ rest) :
    r.characterReference = (r.at_ rest, some '\r') := by
  rw [Reader.characterReference, h]
  rfl

/-! ## Entities -/

theorem Reader.entityName_written (hname : IsAnyName name)
    (h : r.input = '&' :: name ++ ';' :: rest) : r.entityName = (r.at_ rest, some name) := by
  have hspan : spanName (r.input.drop 1) = (name, ';' :: rest) := by
    rw [h]
    exact spanName_append hname (.cons (by decide) rest)
  rw [Reader.entityName, hspan]
  dsimp only
  rw [if_neg (by simpa using hname.ne_nil)]
  rfl

theorem Reader.meaning_predefined (h : predefined? name = some c) :
    r.meaning name = (r, .char c) := by
  rw [Reader.meaning, h]

/-- An entity that is not known is noted, and the markup is not well formed. -/
theorem Reader.meaning_unknown (hr : r.Undeclared) (h : predefined? name = none) :
    ∃ message, r.meaning name = (r.fatal message, .unknown) := by
  refine ⟨"Entity '" ++ String.ofList name ++ "' not defined", ?_⟩
  rw [Reader.meaning, h, hr.entities, hr.incomplete]
  rfl

/-- The name that a character is written with. -/
def entityOf (c : Char) : Chars :=
  if c == '&' then "amp".toList
  else if c == '<' then "lt".toList
  else if c == '>' then "gt".toList
  else "quot".toList

theorem isAnyName_entityOf (c : Char) : IsAnyName (entityOf c) := by
  have hname (d : Char) (s : Chars) (hd : isNameStart d = true)
      (hs : s.all isNameMore = true) : IsAnyName (d :: s) :=
    ⟨d, s, rfl, by rw [hd, Bool.true_or], List.all_eq_true.mp hs⟩
  rw [entityOf]
  split
  · exact hname 'a' _ (by decide) (by decide)
  split
  · exact hname 'l' _ (by decide) (by decide)
  split
  · exact hname 'g' _ (by decide) (by decide)
  · exact hname 'q' _ (by decide) (by decide)

/-- A character that is written as a reference by name is what that name stands for. -/
theorem escapeInValue_named (hc : isNamed c = true ∨ c = '"') :
    escapeInValue c = '&' :: entityOf c ++ [';'] ∧ predefined? (entityOf c) = some c := by
  simp only [isNamed, Bool.or_eq_true, beq_iff_eq] at hc
  obtain ((rfl | rfl) | rfl) | rfl := hc <;> exact ⟨by decide, by decide⟩

/-! ## References in content -/

theorem Reader.contentStep_ampersand {s : Chars} (h : r.input = '&' :: s) :
    r.contentStep = r.contentReference := by
  rw [Reader.contentStep, h]
  rfl

/-- The step that content takes at a reference by name. -/
theorem Reader.contentStep_reference (hname : IsAnyName name)
    (h : r.input = '&' :: name ++ ';' :: rest) :
    r.contentStep = match (r.at_ rest).meaning name with
      | (r, .unknown) => r.addReference name []
      | (r, .char c) => if r.sound then r.addText [c] else r
      | (r, .declared e) => if r.sound then r.addReference name e.content else r := by
  have hentity := Reader.entityName_written hname h
  obtain ⟨d, s, rfl, hd, hs⟩ := hname
  have hnumber : d ≠ '#' := by
    rintro rfl
    exact absurd hd (by decide)
  rw [Reader.contentStep_ampersand h, Reader.contentReference]
  split
  · next heq =>
    rw [h] at heq
    exact absurd (List.cons.inj (List.cons.inj heq).2).1 hnumber
  · exact hentity ▸ rfl

theorem Reader.length_reference (h : r.input = '&' :: name ++ ';' :: rest) :
    rest.length < r.input.length := by
  rw [h]
  simp
  omega

/-- A character that is written as a reference is read back, unless its reference is by name and the
markup is not well formed. -/
theorem Reader.reads_escape (hr : r.Plain) (hframes : r.frames ≠ [])
    (hc : isNamed c = true ∨ c = '\r') (h : r.input = escapeInText c ++ rest) :
    r.Reads rest true (.last (keptText r.wellFormed [c])) r.contentStep := by
  rcases hc with hc | rfl
  · -- a reference by name has no meaning once the markup is not well formed
    have hescape : escapeInText c = '&' :: entityOf c ++ [';'] := by
      rw [← (escapeInValue_named (.inl hc)).1]
      simp only [isNamed, Bool.or_eq_true, beq_iff_eq] at hc
      obtain (rfl | rfl) | rfl := hc <;> decide
    rw [hescape, List.append_assoc, List.singleton_append] at h
    have hstep := Reader.contentStep_reference (isAnyName_entityOf c) h
    rw [Reader.meaning_predefined (escapeInValue_named (.inl hc)).2] at hstep
    dsimp only at hstep
    refine Reader.reads_contentStep hr hframes ?_ (Reader.length_reference h)
    have hsound : (r.at_ rest).sound = r.wellFormed := by
      rw [Reader.sound]
      simp [Reader.at_, hr.malformedFrom]
    rw [hstep, hsound]
    cases hwf : r.wellFormed with
    | true => exact (r.moves_at rest).trans_makes (Reader.makes_addText (r.at_ rest) hframes [c])
    | false =>
      have hnone : keptText false [c] = [] := by simp [keptText, hc]
      rw [hnone]
      exact (r.moves_at rest).makes
  · -- a reference by number always has one
    have hinput : r.input = '&' :: '#' :: "13;".toList ++ rest := h
    have hstep : r.contentStep = (r.at_ rest).addText ['\r'] := by
      rw [Reader.contentStep_ampersand hinput, Reader.contentReference]
      split
      · rw [Reader.characterReference_return h]
      · next hne => exact absurd hinput (hne _)
    have hkept : keptText r.wellFormed ['\r'] = ['\r'] :=
      keptText_of_not_named _ fun c hc => by rw [List.mem_singleton.mp hc]; rfl
    refine Reader.reads_contentStep hr hframes ?_ ?_
    · rw [hstep, hkept]
      exact (r.moves_at rest).trans_makes (Reader.makes_addText (r.at_ rest) hframes ['\r'])
    · rw [h, List.length_append]
      exact Nat.lt_add_of_pos_left (by decide)

/-- A reference to an entity that is not known is kept, without content. -/
theorem Reader.reads_reference (hr : r.Plain) (hframes : r.frames ≠ []) (hname : IsAnyName name)
    (hunknown : predefined? name = none) (h : r.input = '&' :: name ++ ';' :: rest) :
    r.Reads rest false (outlineAll [.reference unnumbered name []]) r.contentStep := by
  have hstep := Reader.contentStep_reference hname h
  obtain ⟨message, hmeaning⟩ := Reader.meaning_unknown ((r.moves_at rest).plain hr).toUndeclared hunknown
  rw [hmeaning] at hstep
  refine Reader.reads_contentStep hr hframes ?_ (Reader.length_reference h)
  rw [hstep]
  have hmoves := (r.moves_at rest).trans ((r.at_ rest).moves_fatal message)
  have hadd := Reader.makes_add ((r.at_ rest).fatal message) (.reference unnumbered name [])
  exact hmoves.trans_makes hadd

end MarkupQuery.Xml
