import Mathlib
import MarkupQuery.Tree.Numbering
import MarkupQuery.Tree.Surgery

/-!
# Ids of trees

The ids of a tree in document order, and what numbering and changing trees does to them. Numbering a
tree uses every number from the first free one up to the next free one exactly once; changes that
only touch texts and attributes keep all ids.
-/

namespace MarkupQuery.Tree

/-! ## Ids in document order -/

mutual

/-- The ids of a subtree in document order. -/
def Node.ids : Node → List NodeId
  | .element i _ cs => i :: idsAll cs
  | n => n.id?.toList

/-- The ids of several subtrees in document order. -/
def idsAll : List Node → List NodeId
  | [] => []
  | n :: ns => n.ids ++ idsAll ns

end

@[simp] theorem idsAll_nil : idsAll [] = [] := rfl

@[simp] theorem idsAll_cons (n : Node) (ns : List Node) :
    idsAll (n :: ns) = n.ids ++ idsAll ns := rfl

@[simp] theorem idsAll_append (a b : List Node) : idsAll (a ++ b) = idsAll a ++ idsAll b := by
  induction a with
  | nil => rfl
  | cons n a ih => simp [ih]

/-- A node's own id is the first of its ids. -/
theorem Node.ids_eq (n : Node) : n.ids = n.id?.toList ++ idsAll n.children := by
  cases n <;> simp [Node.ids, Node.id?, Node.children]

theorem Node.mem_ids_of_id? {n : Node} {i : NodeId} (h : n.id? = some i) : i ∈ n.ids := by
  rw [n.ids_eq, h]
  simp

theorem mem_idsAll {ns : List Node} {i : NodeId} : i ∈ idsAll ns ↔ ∃ n ∈ ns, i ∈ n.ids := by
  induction ns with
  | nil => simp
  | cons n ns ih => simp [ih]

theorem idsAll_map {f : Node → Node} (hf : ∀ n, (f n).ids = n.ids) (ns : List Node) :
    idsAll (ns.map f) = idsAll ns := by
  induction ns with
  | nil => rfl
  | cons n ns ih => rw [List.map_cons, idsAll_cons, idsAll_cons, hf, ih]

/-- Character data has no ids. -/
theorem idsAll_eq_nil_of_isText {ns : List Node} (h : ∀ n ∈ ns, n.isText = true) :
    idsAll ns = [] := by
  induction ns with
  | nil => rfl
  | cons n ns ih =>
    have hn : n.isText = true := h n (by simp)
    rw [idsAll_cons, ih fun m hm => h m (by simp [hm]), List.append_nil]
    cases n <;> simp_all [Node.isText, Node.ids, Node.id?]

/-- If the ids are distinct, only one of several subtrees has a given id. -/
theorem eq_of_mem_ids {ns : List Node} (hnodup : (idsAll ns).Nodup) {n m : Node} {i : NodeId}
    (hn : n ∈ ns) (hm : m ∈ ns) (hni : i ∈ n.ids) (hmi : i ∈ m.ids) : n = m := by
  induction ns with
  | nil => simp at hn
  | cons k ns ih =>
    rw [idsAll_cons, List.nodup_append] at hnodup
    obtain ⟨-, hrest, hdisjoint⟩ := hnodup
    rcases List.mem_cons.mp hn with hnk | hn' <;> rcases List.mem_cons.mp hm with hmk | hm'
    · rw [hnk, hmk]
    · exact absurd rfl (hdisjoint i (hnk ▸ hni) i (mem_idsAll.mpr ⟨m, hm', hmi⟩))
    · exact absurd rfl (hdisjoint i (hmk ▸ hmi) i (mem_idsAll.mpr ⟨n, hn', hni⟩))
    · exact ih hrest hn' hm'

theorem nodup_ids_of_mem {ns : List Node} (hnodup : (idsAll ns).Nodup) {n : Node} (hn : n ∈ ns) :
    n.ids.Nodup := by
  induction ns with
  | nil => simp at hn
  | cons k ns ih =>
    rw [idsAll_cons, List.nodup_append] at hnodup
    rcases List.mem_cons.mp hn with rfl | hn
    · exact hnodup.1
    · exact ih hnodup.2.1 hn

/-- If the ids are distinct, the id of a node at the top is not found below the top. -/
theorem not_mem_children_of_top {ns : List Node} (hnodup : (idsAll ns).Nodup) {n m : Node}
    {i : NodeId} (hn : n ∈ ns) (hi : n.id? = some i) (hm : m ∈ ns) : i ∉ idsAll m.children := by
  intro hmem
  have hmi : i ∈ m.ids := by
    rw [m.ids_eq]
    exact List.mem_append_right _ hmem
  obtain rfl := eq_of_mem_ids hnodup hn hm (Node.mem_ids_of_id? hi) hmi
  have hids := nodup_ids_of_mem hnodup hn
  rw [n.ids_eq, hi, List.nodup_append] at hids
  exact hids.2.2 i (by simp) i hmem rfl

/-- The ids below the top of several subtrees. -/
def idsBelow (ns : List Node) : List NodeId := ns.flatMap fun n => idsAll n.children

@[simp] theorem idsBelow_nil : idsBelow [] = [] := rfl

@[simp] theorem idsBelow_cons (n : Node) (ns : List Node) :
    idsBelow (n :: ns) = idsAll n.children ++ idsBelow ns := rfl

@[simp] theorem idsBelow_append (a b : List Node) :
    idsBelow (a ++ b) = idsBelow a ++ idsBelow b := List.flatMap_append

theorem mem_idsBelow {ns : List Node} {i : NodeId} :
    i ∈ idsBelow ns ↔ ∃ n ∈ ns, i ∈ idsAll n.children := List.mem_flatMap

/-- Every id is at the top or below it. -/
theorem idsAll_perm (ns : List Node) : (idsAll ns).Perm (ns.filterMap Node.id? ++ idsBelow ns) := by
  induction ns with
  | nil => rfl
  | cons n ns ih =>
    rw [idsAll_cons, n.ids_eq, idsBelow_cons, List.append_assoc]
    have hcons : (n :: ns).filterMap Node.id? = n.id?.toList ++ ns.filterMap Node.id? := by
      cases hn : n.id? <;> simp [hn]
    rw [hcons, List.append_assoc]
    refine List.Perm.append_left _ ?_
    calc idsAll n.children ++ idsAll ns
        |>.Perm (idsAll n.children ++ (ns.filterMap Node.id? ++ idsBelow ns)) := ih.append_left _
      _ |>.Perm (ns.filterMap Node.id? ++ idsBelow ns ++ idsAll n.children) := List.perm_append_comm
      _ = ns.filterMap Node.id? ++ (idsBelow ns ++ idsAll n.children) := List.append_assoc ..
      _ |>.Perm (ns.filterMap Node.id? ++ (idsAll n.children ++ idsBelow ns)) :=
          List.perm_append_comm.append_left _

/-! ## Numbered trees -/

mutual

/-- Numbering a subtree uses the numbers up to the next free one. -/
theorem Node.ids_number (next : NodeId) (n : Node) :
    ∃ k, (n.number next).2 = next + k ∧ (n.number next).1.ids = List.range' next k := by
  cases n with
  | element i t cs =>
    obtain ⟨k, hnext, hids⟩ := ids_numberAll (next + 1) cs
    refine ⟨k + 1, ?_, ?_⟩
    · simp only [Node.number, hnext, Nat.add_right_comm, Nat.add_assoc]
    · simp only [Node.number, Node.ids, hids, List.range'_succ]
  | text s => exact ⟨0, rfl, rfl⟩
  | section_ s => exact ⟨0, rfl, rfl⟩
  | comment i s => exact ⟨1, rfl, rfl⟩
  | instruction i t d => exact ⟨1, rfl, rfl⟩
  | reference i m s => exact ⟨1, rfl, rfl⟩

/-- Numbering several subtrees uses the numbers up to the next free one. -/
theorem ids_numberAll (next : NodeId) (ns : List Node) :
    ∃ k, (numberAll next ns).2 = next + k ∧ idsAll (numberAll next ns).1 = List.range' next k := by
  cases ns with
  | nil => exact ⟨0, rfl, rfl⟩
  | cons n ns =>
    obtain ⟨k, hnext, hids⟩ := Node.ids_number next n
    obtain ⟨m, hnext', hids'⟩ := ids_numberAll (next + k) ns
    refine ⟨k + m, ?_, ?_⟩
    · simp only [numberAll, hnext, hnext', Nat.add_assoc]
    · simp only [numberAll, idsAll_cons, hids, hnext, hids']
      rw [List.range'_append_1]

end

/-- The ids of a numbered tree are distinct. -/
theorem nodup_idsAll_numberAll (next : NodeId) (ns : List Node) :
    (idsAll (numberAll next ns).1).Nodup := by
  obtain ⟨k, -, hids⟩ := ids_numberAll next ns
  rw [hids]
  exact List.nodup_range'

/-- The ids of a numbered tree start at the first free id and end before the next free one. -/
theorem mem_idsAll_numberAll {next : NodeId} {ns : List Node} {i : NodeId}
    (h : i ∈ idsAll (numberAll next ns).1) : next ≤ i ∧ i < (numberAll next ns).2 := by
  obtain ⟨k, hnext, hids⟩ := ids_numberAll next ns
  rw [hids, List.mem_range'_1] at h
  rwa [hnext]

/-! ## Changes that keep all ids -/

/-- Changing one node of a forest is changing it in every tree. -/
theorem changeAll_eq_map (i : NodeId) (f : Node → Node) :
    changeAll i f = List.map (Node.change i f) := by
  funext ns
  induction ns with
  | nil => rfl
  | cons n ns ih => simp [changeAll, ih]

/-- Changing one list of children of a forest is changing it in every tree. -/
theorem changeAroundAll_eq_map (i : NodeId) (f : List Node → List Node) :
    changeAroundAll i f = List.map (Node.changeAround i f) := by
  funext ns
  induction ns with
  | nil => rfl
  | cons n ns ih => simp [changeAroundAll, ih]

/-- Changing one node keeps the ids at the top if the change does. -/
theorem Node.id?_change {i : NodeId} {f : Node → Node} (hf : ∀ n, (f n).id? = n.id?) (n : Node) :
    (n.change i f).id? = n.id? := by
  cases n with
  | element j t cs =>
    rw [Node.change]
    split
    · exact hf _
    · rfl
  | _ =>
    simp only [Node.change]
    split
    · exact hf _
    · rfl

/-- Changing a list of children keeps the ids at the top. -/
@[simp] theorem Node.id?_changeAround (i : NodeId) (f : List Node → List Node) (n : Node) :
    (n.changeAround i f).id? = n.id? := by
  cases n <;> rfl

@[simp] theorem Node.isText_changeAround (i : NodeId) (f : List Node → List Node) (n : Node) :
    (n.changeAround i f).isText = n.isText := by
  cases n <;> rfl

@[simp] theorem Node.ownText_changeAround (i : NodeId) (f : List Node → List Node) (n : Node) :
    (n.changeAround i f).ownText = n.ownText := by
  cases n <;> rfl

mutual

theorem Node.ids_change {i : NodeId} {f : Node → Node} (hf : ∀ n, (f n).ids = n.ids) (n : Node) :
    (n.change i f).ids = n.ids := by
  cases n with
  | element j t cs =>
    have hcs : (Node.element j t (changeAll i f cs)).ids = (Node.element j t cs).ids := by
      rw [Node.ids, Node.ids, ids_changeAll hf cs]
    rw [Node.change]
    split
    · rw [hf, hcs]
    · exact hcs
  | _ =>
    simp only [Node.change]
    split
    · exact hf _
    · rfl

/-- Changing one node keeps all ids if the change does. -/
theorem ids_changeAll {i : NodeId} {f : Node → Node} (hf : ∀ n, (f n).ids = n.ids)
    (ns : List Node) : idsAll (changeAll i f ns) = idsAll ns := by
  cases ns with
  | nil => rfl
  | cons n ns => rw [changeAll, idsAll_cons, idsAll_cons, Node.ids_change hf n, ids_changeAll hf ns]

end

mutual

theorem Node.ids_changeAround {i : NodeId} {f : List Node → List Node}
    (hf : ∀ ns, idsAll (f ns) = idsAll ns) (n : Node) : (n.changeAround i f).ids = n.ids := by
  cases n with
  | element j t cs =>
    rw [Node.changeAround, Node.ids, Node.ids]
    split
    · rw [hf, ids_changeAroundAll hf cs]
    · rw [ids_changeAroundAll hf cs]
  | _ => rfl

/-- Changing one list of children keeps all ids if the change does. -/
theorem ids_changeAroundAll {i : NodeId} {f : List Node → List Node}
    (hf : ∀ ns, idsAll (f ns) = idsAll ns) (ns : List Node) :
    idsAll (changeAroundAll i f ns) = idsAll ns := by
  cases ns with
  | nil => rfl
  | cons n ns =>
    rw [changeAroundAll, idsAll_cons, idsAll_cons, Node.ids_changeAround hf n,
      ids_changeAroundAll hf ns]

end

end MarkupQuery.Tree
