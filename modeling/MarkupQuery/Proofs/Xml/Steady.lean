import MarkupQuery.Proofs.Xml.Lawful

/-!
# Trees that reading does not change

A tree is read back as it was exactly if it is steady (`reread_eq_bare_iff`): all attribute values are
plain texts, no reference stands for anything, and no text that comes after something malformed holds a
character of markup. Whether something before it was malformed is told by its place in the document:
everything that was opened or closed before counts.
-/

namespace MarkupQuery.Xml

open MarkupQuery.Text MarkupQuery.Tree

/-! ## Steady trees -/

/-- Whether a value is one text. -/
def isOneText : List ValuePart → Bool
  | [.text _] => true
  | _ => false

/-- Whether a node that holds nothing is read back as it was: what a reference stands for is lost. -/
def isSteadyLeaf : Node → Bool
  | .reference _ _ s => s.isEmpty
  | _ => true

/-- Whether a text is read back as it was: from the first fault on, characters of markup are lost. -/
def isSteadyText (sound : Bool) (s : Chars) : Bool := sound || s.all fun c => !isNamed c

mutual

/-- Whether a tree is read back as it was, where everything before it was well formed if `sound`. -/
def isSteady : Bool → Outline → Bool
  | _, .leaf n => isSteadyLeaf n
  | sound, .element _ t c =>
      (t.attributes.all fun a => isOneText a.parts) && isSteadyContent (sound && isSoundTag t) c

/-- Whether mixed content is read back as it was. -/
def isSteadyContent : Bool → Mixed Outline → Bool
  | sound, .last t => isSteadyText sound t
  | sound, .next t o rest =>
      isSteadyText sound t && isSteady sound o && isSteadyContent (sound && isSound o) rest

end

/-! ## What stays -/

theorem keptText_eq_self_iff (sound : Bool) (s : Chars) :
    keptText sound s = s ↔ isSteadyText sound s = true := by
  cases sound with
  | true => simp [isSteadyText]
  | false => simp [keptText, isSteadyText, List.filter_eq_self]

theorem rereadLeaf_eq_bare_iff (n : Node) : rereadLeaf n = n.bare ↔ isSteadyLeaf n = true := by
  cases n with
  | reference i n s =>
    simp only [rereadLeaf, Node.bare, isSteadyLeaf, Node.reference.injEq, true_and, List.isEmpty_iff]
    exact eq_comm
  | _ => simp [rereadLeaf, isSteadyLeaf]

theorem rereadAttribute_eq_self_iff (a : Attribute) :
    rereadAttribute a = a ↔ isOneText a.parts = true := by
  obtain ⟨name, parts⟩ := a
  rw [rereadAttribute, Attribute.mk.injEq, and_iff_right rfl]
  dsimp only
  constructor
  · intro h
    rw [← h]
    rfl
  · intro h
    rw [isOneText.eq_def] at h
    split at h
    · simp [partText]
    · cases h

theorem rereadTag_eq_self_iff (t : Tag) :
    rereadTag t = t ↔ (t.attributes.all fun a => isOneText a.parts) = true := by
  obtain ⟨name, declarations, attributes⟩ := t
  rw [rereadTag, Tag.mk.injEq, and_iff_right rfl, and_iff_right rfl, List.all_eq_true]
  dsimp only
  refine Iff.trans ?_ (forall₂_congr fun a _ => rereadAttribute_eq_self_iff a)
  conv_lhs => rw [← List.map_id attributes, List.map_map]
  exact List.map_inj_left

mutual

/-- A tree is read back as it was exactly if it is steady. -/
theorem reread_eq_bare_iff (sound : Bool) (o : Outline) :
    reread sound o = o.bare ↔ isSteady sound o = true := by
  cases o with
  | leaf n => rw [reread, Outline.bare, Outline.leaf.injEq, isSteady, rereadLeaf_eq_bare_iff]
  | element i t c =>
    rw [reread, Outline.bare, Outline.element.injEq, isSteady, Bool.and_eq_true,
      rereadTag_eq_self_iff, rereadContent_eq_bare_iff (sound && isSoundTag t) c]
    simp

/-- Mixed content is read back as it was exactly if it is steady. -/
theorem rereadContent_eq_bare_iff (sound : Bool) (m : Mixed Outline) :
    rereadContent sound m = bareContent m ↔ isSteadyContent sound m = true := by
  cases m with
  | last t => rw [rereadContent, bareContent, Mixed.last.injEq, isSteadyContent, keptText_eq_self_iff]
  | next t o rest =>
    rw [rereadContent, bareContent, Mixed.next.injEq, isSteadyContent, Bool.and_eq_true,
      Bool.and_eq_true, keptText_eq_self_iff, reread_eq_bare_iff sound o,
      rereadContent_eq_bare_iff (sound && isSound o) rest, and_assoc]

end

/-! ## Written forms -/

theorem isVoid_bareContent (m : Mixed Outline) : isVoid (bareContent m) = isVoid m := by
  cases m <;> rfl

theorem writeNode_bare (n : Node) : writeNode n.bare = writeNode n := by
  cases n with
  | element i t cs =>
    cases cs with
    | nil => rw [Node.bare, writeNode_element_nil, writeNode_element_nil]
    | cons c cs =>
      rw [Node.bare, writeNode_element_cons _ _ (List.cons_ne_nil c cs),
        writeNode_element_cons _ _ (List.cons_ne_nil c cs)]
  | instruction i t d =>
    cases d with
    | none => rw [Node.bare, writeNode_instruction_none, writeNode_instruction_none]
    | some d => rw [Node.bare, writeNode_instruction_some, writeNode_instruction_some]
  | comment i s => rw [Node.bare, writeNode_comment, writeNode_comment]
  | reference i n s => rw [Node.bare, writeNode_reference, writeNode_reference]
  | _ => rfl

mutual

/-- Ids are not written. -/
theorem writeOutline_bare (o : Outline) : writeOutline o.bare = writeOutline o := by
  cases o with
  | leaf n => rw [Outline.bare, writeOutline, writeOutline, writeNode_bare]
  | element i t c => rw [Outline.bare, writeOutline, writeOutline, isVoid_bareContent,
      writeContent_bare c]

/-- Ids are not written. -/
theorem writeContent_bare (m : Mixed Outline) : writeContent (bareContent m) = writeContent m := by
  cases m with
  | last t => rfl
  | next t o rest => rw [bareContent, writeContent, writeContent, writeOutline_bare o,
      writeContent_bare rest]

end

/-! ## Ids and namespaces -/

theorem bare_rereadLeaf (n : Node) : (rereadLeaf n).bare = rereadLeaf n := by
  cases n <;> rfl

mutual

/-- What is read has no ids. -/
theorem bare_reread (sound : Bool) (o : Outline) : (reread sound o).bare = reread sound o := by
  cases o with
  | leaf n => rw [reread, Outline.bare, bare_rereadLeaf]
  | element i t c => rw [reread, Outline.bare, bareContent_reread (sound && isSoundTag t) c]

/-- What is read has no ids. -/
theorem bareContent_reread (sound : Bool) (m : Mixed Outline) :
    bareContent (rereadContent sound m) = rereadContent sound m := by
  cases m with
  | last t => rfl
  | next t o rest =>
    rw [rereadContent, bareContent, bare_reread sound o, bareContent_reread (sound && isSound o) rest]

end

mutual

/-- Whether the tree of an outline has no namespaces. -/
def lacksSpaces : Outline → Bool
  | .leaf _ => true
  | .element _ t c => isBareTag t && contentLacksSpaces c

/-- Whether the trees of mixed content have no namespaces. -/
def contentLacksSpaces : Mixed Outline → Bool
  | .last _ => true
  | .next _ o rest => lacksSpaces o && contentLacksSpaces rest

end

theorem contentLacksSpaces_prepend (s : Chars) (m : Mixed Outline) :
    contentLacksSpaces (m.prepend s) = contentLacksSpaces m := by
  cases m <;> rfl

mutual

/-- The outline of a tree tells whether it has namespaces. -/
theorem lacksSpaces_outline (n : Node) : lacksSpaces n.outline = hasNoSpaces n := by
  cases n with
  | element i t cs => rw [Node.outline, lacksSpaces, hasNoSpaces, contentLacksSpaces_outlineAll cs]
  | _ => rfl

/-- The outline of trees tells whether they have namespaces. -/
theorem contentLacksSpaces_outlineAll (ns : List Node) :
    contentLacksSpaces (outlineAll ns) = haveNoSpaces ns := by
  cases ns with
  | nil => rfl
  | cons n ns =>
    rw [haveNoSpaces]
    cases hn : n.isText with
    | true =>
      rw [outlineAll_cons_text hn, contentLacksSpaces_prepend, contentLacksSpaces_outlineAll ns]
      cases n with
      | text s => rfl
      | section_ s => rfl
      | _ => cases hn
    | false =>
      rw [outlineAll_cons_node hn, contentLacksSpaces, lacksSpaces_outline n,
        contentLacksSpaces_outlineAll ns]

end

mutual

theorem lacksSpaces_bare (o : Outline) : lacksSpaces o.bare = lacksSpaces o := by
  cases o with
  | leaf n => rfl
  | element i t c => rw [Outline.bare, lacksSpaces, lacksSpaces, contentLacksSpaces_bare c]

theorem contentLacksSpaces_bare (m : Mixed Outline) :
    contentLacksSpaces (bareContent m) = contentLacksSpaces m := by
  cases m with
  | last t => rfl
  | next t o rest => rw [bareContent, contentLacksSpaces, contentLacksSpaces, lacksSpaces_bare o,
      contentLacksSpaces_bare rest]

end

theorem isBareTag_rereadTag (t : Tag) : isBareTag (rereadTag t) = isBareTag t := by
  rw [isBareTag, isBareTag, rereadTag, List.all_map]
  rfl

mutual

/-- Reading back brings no namespaces. -/
theorem lacksSpaces_reread (sound : Bool) (o : Outline) :
    lacksSpaces (reread sound o) = lacksSpaces o := by
  cases o with
  | leaf n => rfl
  | element i t c => rw [reread, lacksSpaces, lacksSpaces, isBareTag_rereadTag,
      contentLacksSpaces_reread (sound && isSoundTag t) c]

/-- Reading back brings no namespaces. -/
theorem contentLacksSpaces_reread (sound : Bool) (m : Mixed Outline) :
    contentLacksSpaces (rereadContent sound m) = contentLacksSpaces m := by
  cases m with
  | last t => rfl
  | next t o rest => rw [rereadContent, contentLacksSpaces, contentLacksSpaces,
      lacksSpaces_reread sound o, contentLacksSpaces_reread (sound && isSound o) rest]

end

end MarkupQuery.Xml
