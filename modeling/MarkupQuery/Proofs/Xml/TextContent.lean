import MarkupQuery.Proofs.Xml.Inner

/-!
# The text of trees read back

Reading a tree back makes no text that was not there (`textIn_rereadContentIn_sublist`), and loses text in two
ways only: characters of markup in text that comes after something malformed, and what references stand for.
So the text is the same exactly if nothing of this kind is in the tree (`textIn_rereadContentIn_eq_iff`).
-/

namespace MarkupQuery.Xml

open MarkupQuery.Text MarkupQuery.Tree

/-! ## The text of an outline -/

mutual

/-- The text content of an outline. -/
def textOf : Outline → Chars
  | .leaf n => n.textContent
  | .element _ _ c => textIn c

/-- The text content of mixed content. -/
def textIn : Mixed Outline → Chars
  | .last s => s
  | .next s o rest => s ++ (textOf o ++ textIn rest)

end

theorem textIn_prepend (s : Chars) (m : Mixed Outline) : textIn (m.prepend s) = s ++ textIn m := by
  cases m with
  | last t => rfl
  | next t o rest => rw [Mixed.prepend_next, textIn, textIn, List.append_assoc]

theorem textContent_of_isText {n : Node} (h : n.isText = true) : n.textContent = n.ownText := by
  cases n with
  | text s => rfl
  | section_ s => rfl
  | _ => cases h

mutual

/-- The outline of a tree has its text content. -/
theorem textOf_outline (n : Node) (h : n.isText = false) : textOf n.outline = n.textContent := by
  cases n with
  | element i t cs => rw [Node.outline, textOf, Node.textContent, textIn_outlineAll cs]
  | text s => cases h
  | section_ s => cases h
  | _ => rfl

/-- The outline of trees has their text content. -/
theorem textIn_outlineAll (ns : List Node) : textIn (outlineAll ns) = textContents ns := by
  cases ns with
  | nil => rfl
  | cons n ns =>
    rw [textContents_cons, ← textIn_outlineAll ns]
    cases hn : n.isText with
    | true => rw [outlineAll_cons_text hn, textIn_prepend, textContent_of_isText hn]
    | false =>
      rw [outlineAll_cons_node hn, textIn, textOf_outline n hn]
      rfl

end

@[simp] theorem textContent_bare (n : Node) : n.bare.textContent = n.textContent := by
  cases n <;> rfl

mutual

/-- Ids are no part of the text content. -/
theorem textOf_bare (o : Outline) : textOf o.bare = textOf o := by
  cases o with
  | leaf n => rw [Outline.bare, textOf, textOf, textContent_bare]
  | element i t c => rw [Outline.bare, textOf, textOf, textIn_bareContent c]

/-- Ids are no part of the text content. -/
theorem textIn_bareContent (m : Mixed Outline) : textIn (bareContent m) = textIn m := by
  cases m with
  | last s => rfl
  | next s o rest => rw [bareContent, textIn, textIn, textOf_bare o, textIn_bareContent rest]

end

/-- Numbering keeps the text content. -/
theorem textContents_numberAll (next : NodeId) (ns : List Node) :
    textContents (numberAll next ns).1 = textContents ns := by
  rw [← textIn_outlineAll, ← textIn_bareContent, bare_outlineAll_number, textIn_bareContent,
    textIn_outlineAll]

/-! ## What is read of a text -/

mutual

/-- Whether the text content of a tree is read back, where everything before it was well formed if
`sound`. -/
def keepsTextIn : List Declaration → Bool → Outline → Bool
  | _, _, .leaf n => isSteadyLeaf n
  | scope, sound, .element _ t c => keepTextIn (innerScope scope t) (sound && isSoundTagIn scope t) c

/-- Whether the text content of mixed content is read back. -/
def keepTextIn : List Declaration → Bool → Mixed Outline → Bool
  | _, sound, .last t => isSteadyText sound t
  | scope, sound, .next t o rest =>
      isSteadyText sound t &&
        (keepsTextIn scope sound o && keepTextIn scope (sound && isSoundIn scope o) rest)

end

theorem keptText_sublist (sound : Bool) (s : Chars) : (keptText sound s).Sublist s := by
  cases sound with
  | true => exact List.Sublist.refl s
  | false => exact List.filter_sublist

theorem textContent_rereadLeaf_sublist (n : Node) :
    (rereadLeaf n).textContent.Sublist n.textContent := by
  cases n with
  | reference i n s => exact List.nil_sublist s
  | _ => exact List.Sublist.refl _

theorem textContent_rereadLeaf_eq_iff (n : Node) :
    (rereadLeaf n).textContent = n.textContent ↔ isSteadyLeaf n = true := by
  cases n with
  | reference i n s =>
    rw [isSteadyLeaf, List.isEmpty_iff]
    exact eq_comm
  | _ => exact iff_of_true rfl rfl

mutual

/-- What is read of a tree has no more text content than the tree. -/
theorem textOf_rereadIn_sublist (scope : List Declaration) (sound : Bool) (o : Outline) :
    (textOf (rereadIn scope sound o)).Sublist (textOf o) := by
  cases o with
  | leaf n => exact textContent_rereadLeaf_sublist n
  | element i t c => exact textIn_rereadContentIn_sublist _ _ c

/-- What is read of mixed content has no more text content. -/
theorem textIn_rereadContentIn_sublist (scope : List Declaration) (sound : Bool) (m : Mixed Outline) :
    (textIn (rereadContentIn scope sound m)).Sublist (textIn m) := by
  cases m with
  | last t => exact keptText_sublist sound t
  | next t o rest =>
    exact (keptText_sublist sound t).append
      ((textOf_rereadIn_sublist scope sound o).append (textIn_rereadContentIn_sublist _ _ rest))

end

/-- Two parts of a list that make up the whole list are not shortened. -/
theorem append_eq_append_iff_of_sublist {α : Type} {a a' b b' : List α} (ha : a'.Sublist a)
    (hb : b'.Sublist b) : a' ++ b' = a ++ b ↔ a' = a ∧ b' = b := by
  constructor
  · intro h
    have hlength := congrArg List.length h
    rw [List.length_append, List.length_append] at hlength
    have hale := ha.length_le
    have hble := hb.length_le
    exact ⟨ha.eq_of_length (by omega), hb.eq_of_length (by omega)⟩
  · rintro ⟨rfl, rfl⟩
    rfl

mutual

/-- The text content of a tree is read back exactly if all parts of it are. -/
theorem textOf_rereadIn_eq_iff (scope : List Declaration) (sound : Bool) (o : Outline) :
    textOf (rereadIn scope sound o) = textOf o ↔ keepsTextIn scope sound o = true := by
  cases o with
  | leaf n => exact textContent_rereadLeaf_eq_iff n
  | element i t c => exact textIn_rereadContentIn_eq_iff _ _ c

/-- The text content of mixed content is read back exactly if all parts of it are. -/
theorem textIn_rereadContentIn_eq_iff (scope : List Declaration) (sound : Bool) (m : Mixed Outline) :
    textIn (rereadContentIn scope sound m) = textIn m ↔ keepTextIn scope sound m = true := by
  cases m with
  | last t => exact keptText_eq_self_iff sound t
  | next t o rest =>
    have hnode := textOf_rereadIn_sublist scope sound o
    have hrest := textIn_rereadContentIn_sublist scope (sound && isSoundIn scope o) rest
    rw [rereadContentIn, textIn, textIn, keepTextIn, Bool.and_eq_true, Bool.and_eq_true,
      append_eq_append_iff_of_sublist (keptText_sublist sound t) (hnode.append hrest),
      append_eq_append_iff_of_sublist hnode hrest, keptText_eq_self_iff,
      textOf_rereadIn_eq_iff scope sound o, textIn_rereadContentIn_eq_iff scope _ rest]

end

end MarkupQuery.Xml
