import MarkupQuery.Proofs.Xml.Rereading

/-!
# Trees that can be read back

What a reader with default settings makes of any text at all can be written and read back: its texts hold
only characters that XML allows, its names are names, its comments and instructions do not hold their own
ends, and it is not too deep (`LawfulNode`). The written form of a lawful tree is that of its outline
(`LawfulNode.writeNode_eq`). The outline is read back if the declarations in the tree can be read
(`LawfulNode.isReadableTree`), and as it is if there are no namespaces at all (`LawfulNode.isReadable`).
-/

namespace MarkupQuery.Xml

open MarkupQuery.Text MarkupQuery.Tree

variable {room : Nat}

/-! ## Lawful nodes -/

/-- Whether a name is written without a prefix and belongs to no namespace. -/
def isBareName (n : Name) : Bool := n.label.isNone && n.space.isNone

/-- An attribute whose parts can be read back, and whose name can if it is in no namespace. -/
structure LawfulAttribute (a : Attribute) : Prop where
  name : isBareName a.name = true → IsLocalAttribute a.name
  whole : IsWhole a.name.written
  parts : ∀ p ∈ a.parts, ReadsBack p
  /-- A value without references is one text. -/
  single : isTextValue a = true → ∃ s, a.parts = [.text s]

/-- A tag whose name and attributes can be read back as far as they are in no namespace. -/
structure LawfulTag (t : Tag) : Prop where
  name : isBareName t.name = true → IsLocal t.name
  whole : IsWhole t.name.written
  attributes : ∀ a ∈ t.attributes, LawfulAttribute a

mutual

/-- A node that can be read back where `room` more elements may be open, but for declarations. -/
def LawfulNode : Nat → Node → Prop
  | room, .element _ t cs => 0 < room ∧ LawfulTag t ∧ LawfulNodes (room - 1) cs
  | _, .text s => s ≠ [] ∧ ∀ c ∈ s, isXmlChar c = true
  | _, .section_ _ => False
  | _, .comment i s => IsReadableLeaf (.comment i s)
  | _, .instruction i t d => IsReadableLeaf (.instruction i t d)
  | _, .reference i n s => IsReadableLeaf (.reference i n s)

/-- Nodes that can be read back one after the other, but for declarations. -/
def LawfulNodes : Nat → List Node → Prop
  | _, [] => True
  | room, n :: ns => LawfulNode room n ∧ LawfulNodes room ns

end

theorem lawfulNodes_iff {ns : List Node} : LawfulNodes room ns ↔ ∀ n ∈ ns, LawfulNode room n := by
  induction ns with
  | nil => simp [LawfulNodes]
  | cons n ns ih => rw [LawfulNodes, ih, List.forall_mem_cons]

/-! ## Nodes with their declarations -/

/-- Whether a declaration can be read back: its prefix is a name, and the characters of the namespace are
allowed. -/
def isReadableDeclaration (d : Declaration) : Bool :=
  ((writtenName? (declarationItem d).name).any fun w => w.written == (declarationItem d).name) &&
    d.2.all isXmlChar

mutual

/-- Whether all declarations in a tree can be read back. -/
def declaresReadably : Node → Bool
  | .element _ t cs => t.declarations.all isReadableDeclaration && declareReadably cs
  | _ => true

/-- Whether all declarations in trees can be read back. -/
def declareReadably : List Node → Bool
  | [] => true
  | n :: ns => declaresReadably n && declareReadably ns

end

theorem isReadable_declarationItem {d : Declaration} (h : isReadableDeclaration d = true) :
    (declarationItem d).IsReadable := by
  rw [isReadableDeclaration, Bool.and_eq_true, Option.any_eq_true, List.all_eq_true] at h
  obtain ⟨⟨w, hw, hwritten⟩, hchars⟩ := h
  exact ⟨⟨w, shape_of_writtenName? hw, beq_iff_eq.mp hwritten⟩, List.forall_mem_singleton.mpr hchars⟩

theorem LawfulTag.isReadableTag {t : Tag} (h : LawfulTag t)
    (hdeclarations : t.declarations.all isReadableDeclaration = true) : IsReadableTag t where
  name := h.whole
  items := by
    rw [itemsOf, List.forall_mem_append, List.forall_mem_map, List.forall_mem_map]
    exact ⟨fun d hd => isReadable_declarationItem (List.all_eq_true.mp hdeclarations d hd),
      fun a ha => ⟨(h.attributes a ha).whole, (h.attributes a ha).parts⟩⟩

theorem isReadableTrees_prepend {s : Chars} (hs : ∀ c ∈ s, isXmlChar c = true) {m : Mixed Outline}
    (hm : IsReadableTrees room m) : IsReadableTrees room (m.prepend s) := by
  have happ {t : Chars} (ht : ∀ c ∈ t, isXmlChar c = true) : ∀ c ∈ s ++ t, isXmlChar c = true :=
    List.forall_mem_append.mpr ⟨hs, ht⟩
  cases m with
  | last t => exact happ hm
  | next t o rest => exact ⟨happ hm.1, hm.2⟩

mutual

/-- The outline of a lawful node is read back. -/
theorem LawfulNode.isReadableTree {room : Nat} (n : Node) (h : LawfulNode room n)
    (hdeclares : declaresReadably n = true) (hn : n.isText = false) : IsReadableTree room n.outline := by
  cases n with
  | element i t cs =>
    rw [declaresReadably, Bool.and_eq_true] at hdeclares
    obtain ⟨hpos, htag, hcs⟩ := h
    exact ⟨hpos, htag.isReadableTag hdeclares.1, LawfulNodes.isReadableTrees cs hcs hdeclares.2⟩
  | text s => cases hn
  | section_ s => cases hn
  | _ => exact h

/-- The outline of lawful nodes is read back. -/
theorem LawfulNodes.isReadableTrees {room : Nat} (ns : List Node) (h : LawfulNodes room ns)
    (hdeclare : declareReadably ns = true) : IsReadableTrees room (outlineAll ns) := by
  cases ns with
  | nil => simp [outlineAll, IsReadableTrees]
  | cons n ns =>
    rw [declareReadably, Bool.and_eq_true] at hdeclare
    have hrest := LawfulNodes.isReadableTrees ns h.2 hdeclare.2
    cases hn : n.isText with
    | false =>
      rw [outlineAll_cons_node hn]
      exact ⟨by simp, LawfulNode.isReadableTree n h.1 hdeclare.1 hn, hrest⟩
    | true =>
      rw [outlineAll_cons_text hn]
      cases n with
      | text s => exact isReadableTrees_prepend h.1.2 hrest
      | section_ s => exact h.1.elim
      | _ => cases hn

end

/-! ## Nodes without namespaces -/

/-- Whether a tag has no namespaces. -/
def isBareTag (t : Tag) : Bool :=
  isBareName t.name && t.declarations.isEmpty && t.attributes.all fun a => isBareName a.name

mutual

/-- Whether a tree has no namespaces. -/
def hasNoSpaces : Node → Bool
  | .element _ t cs => isBareTag t && haveNoSpaces cs
  | _ => true

/-- Whether trees have no namespaces. -/
def haveNoSpaces : List Node → Bool
  | [] => true
  | n :: ns => hasNoSpaces n && haveNoSpaces ns

end

theorem LawfulTag.isLocalTag {t : Tag} (h : LawfulTag t) (hbare : isBareTag t = true) :
    IsLocalTag t := by
  simp only [isBareTag, Bool.and_eq_true, List.isEmpty_iff, List.all_eq_true] at hbare
  exact ⟨h.name hbare.1.1, hbare.1.2, fun a ha =>
    ⟨(h.attributes a ha).name (hbare.2 a ha), (h.attributes a ha).parts⟩⟩

mutual

/-- Without namespaces there are no declarations. -/
theorem declaresReadably_of_hasNoSpaces (n : Node) (h : hasNoSpaces n = true) :
    declaresReadably n = true := by
  cases n with
  | element i t cs =>
    rw [hasNoSpaces, isBareTag, Bool.and_eq_true, Bool.and_eq_true, Bool.and_eq_true,
      List.isEmpty_iff] at h
    rw [declaresReadably, h.1.1.2, declareReadably_of_haveNoSpaces cs h.2]
    rfl
  | _ => rfl

/-- Without namespaces there are no declarations. -/
theorem declareReadably_of_haveNoSpaces (ns : List Node) (h : haveNoSpaces ns = true) :
    declareReadably ns = true := by
  cases ns with
  | nil => rfl
  | cons n ns =>
    rw [haveNoSpaces, Bool.and_eq_true] at h
    rw [declareReadably, declaresReadably_of_hasNoSpaces n h.1, declareReadably_of_haveNoSpaces ns h.2]
    rfl

end

theorem isReadableContent_prepend {s : Chars} (hs : ∀ c ∈ s, isXmlChar c = true)
    {m : Mixed Outline} (hm : IsReadableContent room m) : IsReadableContent room (m.prepend s) := by
  have happ {t : Chars} (ht : ∀ c ∈ t, isXmlChar c = true) : ∀ c ∈ s ++ t, isXmlChar c = true :=
    List.forall_mem_append.mpr ⟨hs, ht⟩
  cases m with
  | last t => exact happ hm
  | next t o rest => exact ⟨happ hm.1, hm.2⟩

mutual

/-- The outline of a lawful node without namespaces is read back. -/
theorem LawfulNode.isReadable {room : Nat} (n : Node) (h : LawfulNode room n)
    (hspaces : hasNoSpaces n = true) (hn : n.isText = false) : IsReadable room n.outline := by
  cases n with
  | element i t cs =>
    rw [hasNoSpaces, Bool.and_eq_true] at hspaces
    obtain ⟨hpos, htag, hcs⟩ := h
    exact ⟨hpos, htag.isLocalTag hspaces.1, LawfulNodes.isReadable cs hcs hspaces.2⟩
  | text s => cases hn
  | section_ s => cases hn
  | _ => exact h

/-- The outline of lawful nodes without namespaces is read back. -/
theorem LawfulNodes.isReadable {room : Nat} (ns : List Node) (h : LawfulNodes room ns)
    (hspaces : haveNoSpaces ns = true) : IsReadableContent room (outlineAll ns) := by
  cases ns with
  | nil => simp [outlineAll, IsReadableContent]
  | cons n ns =>
    rw [haveNoSpaces, Bool.and_eq_true] at hspaces
    have hrest := LawfulNodes.isReadable ns h.2 hspaces.2
    cases hn : n.isText with
    | false =>
      rw [outlineAll_cons_node hn]
      exact ⟨by simp, LawfulNode.isReadable n h.1 hspaces.1 hn, hrest⟩
    | true =>
      rw [outlineAll_cons_text hn]
      cases n with
      | text s => exact isReadableContent_prepend h.1.2 hrest
      | section_ s => exact h.1.elim
      | _ => cases hn

end

/-! ## Written forms -/

theorem writeTrees_prepend (s : Chars) (m : Mixed Outline) :
    writeTrees (m.prepend s) = writeText s ++ writeTrees m := by
  have happ (t : Chars) : writeText (s ++ t) = writeText s ++ writeText t := List.flatMap_append ..
  cases m with
  | last t => exact happ t
  | next t o rest => rw [Mixed.prepend_next, writeTrees, writeTrees, happ, List.append_assoc]

theorem writeNode_element_nil (i : NodeId) (t : Tag) :
    writeNode (.element i t []) = writeTag t ++ "/>".toList := by rw [writeNode.eq_def]

theorem writeNode_element_cons (i : NodeId) (t : Tag) {cs : List Node} (h : cs ≠ []) :
    writeNode (.element i t cs)
      = writeTag t ++ '>' :: (writeNodes cs ++ ("</".toList ++ t.name.written ++ ['>'])) := by
  cases cs with
  | nil => exact absurd rfl h
  | cons c cs =>
    rw [writeNode.eq_def]
    simp [writeNodes]

theorem writeNode_text (s : Chars) : writeNode (.text s) = writeText s := by rw [writeNode.eq_def]

/-- Lawful nodes have an outline without text and items only if there are none. -/
theorem LawfulNodes.isVoid_outlineAll {ns : List Node} (h : LawfulNodes room ns) :
    isVoid (outlineAll ns) = ns.isEmpty := by
  cases ns with
  | nil => rfl
  | cons n ns =>
    cases hn : n.isText with
    | false =>
      rw [outlineAll_cons_node hn]
      rfl
    | true =>
      rw [outlineAll_cons_text hn]
      cases n with
      | text s =>
        rw [Node.ownText]
        cases outlineAll ns with
        | last t => simpa [Mixed.prepend, isVoid] using fun hs => absurd hs h.1.1
        | next t o rest => rfl
      | section_ s => exact h.1.elim
      | _ => cases hn

mutual

/-- A lawful node is written like its outline. -/
theorem LawfulNode.writeNode_eq {room : Nat} (n : Node) (h : LawfulNode room n) (hn : n.isText = false) :
    writeNode n = writeTree n.outline := by
  cases n with
  | element i t cs =>
    obtain ⟨-, -, hcs⟩ := h
    rw [Node.outline, writeTree, hcs.isVoid_outlineAll]
    cases hnil : cs.isEmpty with
    | true =>
      obtain rfl := List.isEmpty_iff.mp hnil
      exact writeNode_element_nil i t
    | false =>
      rw [writeNode_element_cons i t (by simpa using hnil), LawfulNodes.writeNodes_eq cs hcs]
      rfl
  | text s => cases hn
  | section_ s => cases hn
  | _ => rfl

/-- Lawful nodes are written like their outline. -/
theorem LawfulNodes.writeNodes_eq {room : Nat} (ns : List Node) (h : LawfulNodes room ns) :
    writeNodes ns = writeTrees (outlineAll ns) := by
  cases ns with
  | nil => rfl
  | cons n ns =>
    rw [writeNodes, LawfulNodes.writeNodes_eq ns h.2]
    cases hn : n.isText with
    | false =>
      rw [outlineAll_cons_node hn, writeTrees, LawfulNode.writeNode_eq n h.1 hn]
      rfl
    | true =>
      rw [outlineAll_cons_text hn, writeTrees_prepend]
      cases n with
      | text s => rw [writeNode_text]; rfl
      | section_ s => exact h.1.elim
      | _ => cases hn

end

end MarkupQuery.Xml
