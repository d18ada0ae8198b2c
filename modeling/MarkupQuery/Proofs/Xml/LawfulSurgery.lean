import MarkupQuery.Proofs.Tree.Hole
import MarkupQuery.Proofs.Xml.Lawful

/-!
# Changing lawful trees

Lawful trees stay lawful whatever is done to them: numbering them, taking nodes out, and clearing texts
and attributes.
-/

namespace MarkupQuery.Xml

open MarkupQuery.Text MarkupQuery.Tree

variable {room : Nat} {n : Node} {ns : List Node}

/-! ## Parts of lawful trees -/

mutual

/-- With more room a node is still lawful. -/
theorem LawfulNode.mono {room more : Nat} (hmore : room ≤ more) (n : Node) (h : LawfulNode room n) :
    LawfulNode more n := by
  cases n with
  | element i t cs =>
    exact ⟨Nat.lt_of_lt_of_le h.1 hmore, h.2.1,
      LawfulNodes.mono (Nat.sub_le_sub_right hmore 1) cs h.2.2⟩
  | _ => exact h

/-- With more room nodes are still lawful. -/
theorem LawfulNodes.mono {room more : Nat} (hmore : room ≤ more) (ns : List Node)
    (h : LawfulNodes room ns) : LawfulNodes more ns := by
  cases ns with
  | nil => trivial
  | cons n ns => exact ⟨LawfulNode.mono hmore n h.1, LawfulNodes.mono hmore ns h.2⟩

end

theorem LawfulNodes.subset {ms : List Node} (h : LawfulNodes room ns) (hsub : ms ⊆ ns) :
    LawfulNodes room ms :=
  lawfulNodes_iff.mpr fun m hm => lawfulNodes_iff.mp h m (hsub hm)

theorem lawfulNodes_append {ms : List Node} :
    LawfulNodes room (ns ++ ms) ↔ LawfulNodes room ns ∧ LawfulNodes room ms := by
  simp only [lawfulNodes_iff, List.forall_mem_append]

/-- What fills a hole in lawful trees is lawful. -/
theorem LawfulNodes.of_fill (h : Hole) {cs : List Node} (hns : LawfulNodes room (h.fill cs)) :
    LawfulNodes room cs := by
  induction h generalizing room with
  | here left i t right =>
    obtain ⟨-, hright⟩ := lawfulNodes_append.mp hns
    exact hright.1.2.2.mono (Nat.sub_le room 1)
  | deeper left i t h right ih =>
    obtain ⟨-, hright⟩ := lawfulNodes_append.mp hns
    exact (ih hright.1.2.2).mono (Nat.sub_le room 1)

/-! ## Numbering -/

mutual

/-- Numbering keeps a node lawful. -/
theorem LawfulNode.number {room : Nat} (next : NodeId) (n : Node) (h : LawfulNode room n) :
    LawfulNode room (n.number next).1 := by
  cases n with
  | element i t cs => exact ⟨h.1, h.2.1, LawfulNodes.number (next + 1) cs h.2.2⟩
  | instruction i t d => cases d <;> exact h
  | _ => exact h

/-- Numbering keeps nodes lawful. -/
theorem LawfulNodes.number {room : Nat} (next : NodeId) (ns : List Node) (h : LawfulNodes room ns) :
    LawfulNodes room (numberAll next ns).1 := by
  cases ns with
  | nil => trivial
  | cons n ns => exact ⟨LawfulNode.number next n h.1, LawfulNodes.number _ ns h.2⟩

end

/-! ## Changing one node -/

mutual

/-- Changing one node keeps a tree lawful, if it keeps the node lawful. -/
theorem LawfulNode.change (i : NodeId) {f : Node → Node}
    (hf : ∀ room n, LawfulNode room n → LawfulNode room (f n)) {room : Nat} (n : Node)
    (h : LawfulNode room n) : LawfulNode room (n.change i f) := by
  cases n with
  | element j t cs =>
    have hn : LawfulNode room (.element j t (changeAll i f cs)) :=
      ⟨h.1, h.2.1, LawfulNodes.change i hf cs h.2.2⟩
    rw [Node.change]
    split
    · exact hf room _ hn
    · exact hn
  | _ =>
    simp only [Node.change]
    split
    · exact hf room _ h
    · exact h

/-- Changing one node keeps trees lawful, if it keeps the node lawful. -/
theorem LawfulNodes.change (i : NodeId) {f : Node → Node}
    (hf : ∀ room n, LawfulNode room n → LawfulNode room (f n)) {room : Nat} (ns : List Node)
    (h : LawfulNodes room ns) : LawfulNodes room (changeAll i f ns) := by
  cases ns with
  | nil => trivial
  | cons n ns => exact ⟨LawfulNode.change i hf n h.1, LawfulNodes.change i hf ns h.2⟩

end

theorem LawfulNode.clearText (h : LawfulNode room n) : LawfulNode room n.clearText := by
  cases n with
  | element i t cs =>
    exact ⟨h.1, h.2.1, h.2.2.subset (List.dropWhile_suffix _).subset⟩
  | _ => exact h

theorem dropAttribute_subset (name : Chars) (as : List Attribute) : dropAttribute name as ⊆ as := by
  induction as with
  | nil => exact List.Subset.refl _
  | cons a as ih =>
    rw [dropAttribute]
    split
    · exact List.subset_cons_self a as
    · exact List.cons_subset_cons a ih

theorem LawfulNode.clearAttribute (name : Chars) (h : LawfulNode room n) :
    LawfulNode room (n.clearAttribute name) := by
  cases n with
  | element i t cs =>
    exact ⟨h.1, ⟨h.2.1.name, h.2.1.whole, fun a ha =>
      h.2.1.attributes a (dropAttribute_subset name _ ha)⟩, h.2.2⟩
  | _ => exact h

theorem LawfulNode.independent (h : LawfulNode room n) : LawfulNode room n.independent := by
  cases n with
  | element i t cs => exact ⟨h.1, ⟨h.2.1.name, h.2.1.whole, h.2.1.attributes⟩, h.2.2⟩
  | _ => exact h

/-! ## Changing siblings -/

mutual

/-- Changing the siblings of a node keeps a tree lawful, if it keeps them lawful. -/
theorem LawfulNode.changeAround (i : NodeId) {f : List Node → List Node}
    (hf : ∀ room ns, LawfulNodes room ns → LawfulNodes room (f ns)) {room : Nat} (n : Node)
    (h : LawfulNode room n) : LawfulNode room (n.changeAround i f) := by
  cases n with
  | element j t cs =>
    have hcs := LawfulNodes.changeAround i hf cs h.2.2
    refine ⟨h.1, h.2.1, ?_⟩
    split
    · exact hf _ _ hcs
    · exact hcs
  | _ => exact h

/-- Changing the siblings of a node keeps trees lawful, if it keeps them lawful. -/
theorem LawfulNodes.changeAround (i : NodeId) {f : List Node → List Node}
    (hf : ∀ room ns, LawfulNodes room ns → LawfulNodes room (f ns)) {room : Nat} (ns : List Node)
    (h : LawfulNodes room ns) : LawfulNodes room (changeAroundAll i f ns) := by
  cases ns with
  | nil => trivial
  | cons n ns => exact ⟨LawfulNode.changeAround i hf n h.1, LawfulNodes.changeAround i hf ns h.2⟩

end

theorem before_subset (i : NodeId) (ns : List Node) : before i ns ⊆ ns :=
  (List.takeWhile_prefix _).subset

theorem after_subset (i : NodeId) (ns : List Node) : after i ns ⊆ ns :=
  List.Subset.trans (List.drop_subset 1 _) (List.dropWhile_suffix _).subset

theorem afterText_subset (ns : List Node) : afterText ns ⊆ ns := (List.dropWhile_suffix _).subset

theorem afterText_after_subset (i : NodeId) (ns : List Node) : afterText (after i ns) ⊆ ns :=
  List.Subset.trans (afterText_subset _) (after_subset i ns)

theorem splitEnd_subset (ns : List Node) : (splitEnd ns).1 ⊆ ns ∧ (splitEnd ns).2 ⊆ ns := by
  refine ⟨fun n hn => ?_, fun n hn => ?_⟩
  · exact List.mem_reverse.mp ((List.dropWhile_suffix _).subset (List.mem_reverse.mp hn))
  · exact List.mem_reverse.mp ((List.takeWhile_prefix _).subset (List.mem_reverse.mp hn))

theorem find?_toList_subset (i : NodeId) (ns : List Node) :
    (ns.find? (Node.hasId i)).toList ⊆ ns := fun _ hn =>
  List.mem_of_find?_eq_some (Option.mem_toList.mp hn)

theorem clearAfter_subset (i : NodeId) (ns : List Node) : clearAfter i ns ⊆ ns := by
  rw [clearAfter]
  exact List.append_subset.mpr ⟨List.append_subset.mpr ⟨before_subset i ns, find?_toList_subset i ns⟩,
    afterText_after_subset i ns⟩

theorem clearBefore_subset (i : NodeId) (ns : List Node) : clearBefore i ns ⊆ ns := by
  rw [clearBefore]
  exact List.append_subset.mpr ⟨List.append_subset.mpr
    ⟨List.Subset.trans (splitEnd_subset _).1 (before_subset i ns), find?_toList_subset i ns⟩, after_subset i ns⟩

theorem LawfulNodes.clearAfter (i : NodeId) (h : LawfulNodes room ns) :
    LawfulNodes room (clearAfter i ns) := h.subset (clearAfter_subset i ns)

theorem LawfulNodes.clearBefore (i : NodeId) (h : LawfulNodes room ns) :
    LawfulNodes room (clearBefore i ns) := h.subset (clearBefore_subset i ns)

/-- The text of lawful nodes holds only characters that XML allows. -/
theorem LawfulNode.ownText (h : LawfulNode room n) : ∀ c ∈ n.ownText, isXmlChar c = true := by
  cases n with
  | text s => exact h.2
  | section_ s => exact h.elim
  | _ => simp [Node.ownText]

theorem LawfulNodes.leadingText (h : LawfulNodes room ns) :
    ∀ s, leadingText ns = some s → ∀ c ∈ s, isXmlChar c = true := by
  induction ns with
  | nil => nofun
  | cons n ns ih =>
    intro s hs
    rw [Tree.leadingText] at hs
    split at hs
    · obtain rfl := Option.some.inj hs
      refine List.forall_mem_append.mpr ⟨h.1.ownText, ?_⟩
      cases hrest : Tree.leadingText ns with
      | none => simp
      | some t => exact ih h.2 t hrest
    · cases hs

/-- Taking a node out keeps its siblings lawful. -/
theorem LawfulNodes.takeOut (i : NodeId) (h : LawfulNodes room ns) :
    LawfulNodes room (takeOut i ns) := by
  rw [Tree.takeOut]
  split
  · exact h.subset (List.append_subset.mpr ⟨before_subset i ns, after_subset i ns⟩)
  · exact h.subset (List.append_subset.mpr ⟨before_subset i ns, afterText_after_subset i ns⟩)
  · next s hnil htext =>
    have hbefore := h.subset (before_subset i ns)
    refine lawfulNodes_append.mpr ⟨hbefore.subset (splitEnd_subset _).1, ⟨?_, ?_⟩,
      h.subset (afterText_after_subset i ns)⟩
    · intro hempty
      exact hnil (List.append_eq_nil_iff.mp hempty).2
    · refine List.forall_mem_append.mpr ⟨fun c hc => ?_,
        (h.subset (after_subset i ns)).leadingText s htext⟩
      obtain ⟨m, hm, hc⟩ := List.mem_flatMap.mp hc
      exact (lawfulNodes_iff.mp (hbefore.subset (splitEnd_subset _).2) m hm).ownText c hc

end MarkupQuery.Xml
