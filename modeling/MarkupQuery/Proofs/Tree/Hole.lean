import MarkupQuery.Proofs.Tree.Outline

/-!
# Trees around a list of siblings

A hole is a forest in which the children of one element are left open. The children of any element
of a forest fill a hole, so what a change of one list of children does to the whole forest is stated
as a fact about filling: the ids are those of the children and those around them (`idsAll_fill`), a
change around a node only changes what the hole is filled with (`changeAroundAll_fill`), and all
texts that meet can be joined if those of the children and those around them can (`mendsAll_fill`).
-/

namespace MarkupQuery.Tree

open MarkupQuery.Text MarkupQuery.Query

/-! ## Holes -/

/-- A forest without the children of one of its elements. -/
inductive Hole where
  /-- The element stands among these siblings. -/
  | here (left : List Node) (id : NodeId) (tag : Tag) (right : List Node)
  /-- The element stands below another one. -/
  | deeper (left : List Node) (id : NodeId) (tag : Tag) (inner : Hole) (right : List Node)

/-- The forest with these children. -/
def Hole.fill : Hole → List Node → List Node
  | .here left i t right, cs => left ++ .element i t cs :: right
  | .deeper left i t h right, cs => left ++ .element i t (h.fill cs) :: right

/-- A hole among more siblings. -/
def Hole.among (h : Hole) (left right : List Node) : Hole :=
  match h with
  | .here l i t r => .here (left ++ l) i t (r ++ right)
  | .deeper l i t h r => .deeper (left ++ l) i t h (r ++ right)

@[simp] theorem Hole.fill_among (h : Hole) (left right cs : List Node) :
    (h.among left right).fill cs = left ++ h.fill cs ++ right := by
  cases h <;> simp [among, fill]

/-! ## Ids -/

/-- The ids of a forest are those of the children of one element and those around them. -/
theorem idsAll_fill (h : Hole) (cs : List Node) :
    (idsAll (h.fill cs)).Perm (idsAll cs ++ idsAll (h.fill [])) := by
  induction h with
  | here left i t right =>
    simp only [Hole.fill, idsAll_append, idsAll_cons, Node.ids, idsAll_nil, List.cons_append,
      List.nil_append]
    calc idsAll left ++ i :: (idsAll cs ++ idsAll right)
        = (idsAll left ++ [i]) ++ idsAll cs ++ idsAll right := by simp
      _ |>.Perm (idsAll cs ++ (idsAll left ++ [i]) ++ idsAll right) :=
          List.perm_append_comm.append_right _
      _ = idsAll cs ++ (idsAll left ++ i :: idsAll right) := by simp
  | deeper left i t h right ih =>
    simp only [Hole.fill, idsAll_append, idsAll_cons, Node.ids, List.cons_append]
    calc idsAll left ++ i :: (idsAll (h.fill cs) ++ idsAll right)
        = (idsAll left ++ [i]) ++ idsAll (h.fill cs) ++ idsAll right := by simp
      _ |>.Perm ((idsAll left ++ [i]) ++ (idsAll cs ++ idsAll (h.fill [])) ++ idsAll right) :=
          (ih.append_left _).append_right _
      _ = ((idsAll left ++ [i]) ++ idsAll cs) ++ (idsAll (h.fill []) ++ idsAll right) := by simp
      _ |>.Perm ((idsAll cs ++ (idsAll left ++ [i])) ++ (idsAll (h.fill []) ++ idsAll right)) :=
          List.perm_append_comm.append_right _
      _ = idsAll cs ++ (idsAll left ++ i :: (idsAll (h.fill []) ++ idsAll right)) := by simp

/-- The ids below the top of a forest are those of the children of one element and those around
them. -/
theorem idsBelow_fill (h : Hole) (cs : List Node) :
    (idsBelow (h.fill cs)).Perm (idsAll cs ++ idsBelow (h.fill [])) := by
  cases h with
  | here left i t right =>
    simp only [Hole.fill, idsBelow_append, idsBelow_cons, Node.children, idsAll_nil,
      List.nil_append]
    rw [← List.append_assoc, ← List.append_assoc]
    exact List.perm_append_comm.append_right _
  | deeper left i t h right =>
    simp only [Hole.fill, idsBelow_append, idsBelow_cons, Node.children]
    calc idsBelow left ++ (idsAll (h.fill cs) ++ idsBelow right)
        |>.Perm (idsBelow left ++ (idsAll cs ++ idsAll (h.fill []) ++ idsBelow right)) :=
          ((idsAll_fill h cs).append_right _).append_left _
      _ = idsBelow left ++ idsAll cs ++ (idsAll (h.fill []) ++ idsBelow right) := by simp
      _ |>.Perm (idsAll cs ++ idsBelow left ++ (idsAll (h.fill []) ++ idsBelow right)) :=
          List.perm_append_comm.append_right _
      _ = idsAll cs ++ (idsBelow left ++ (idsAll (h.fill []) ++ idsBelow right)) := by simp

/-- If the ids of a forest are distinct, none of the children's is found around them. -/
theorem not_mem_of_nodup_fill {h : Hole} {cs : List Node} (hnodup : (idsAll (h.fill cs)).Nodup)
    {i : NodeId} (hi : i ∈ idsAll cs) : i ∉ idsAll (h.fill []) := by
  rw [(idsAll_fill h cs).nodup_iff, List.nodup_append] at hnodup
  exact fun hmem => hnodup.2.2 i hi i hmem rfl

/-! ## Changes -/

/-- An id that is not there is not that of a node at the top. -/
theorem any_id?_eq_false {i : NodeId} {ns : List Node} (h : i ∉ idsAll ns) :
    (ns.any fun n => n.id? == some i) = false := by
  rw [List.any_eq_false]
  intro n hn hid
  exact h (mem_idsAll.mpr ⟨n, hn, Node.mem_ids_of_id? (by simpa using hid)⟩)

mutual

/-- A change around a node that is not there changes nothing. -/
theorem Node.changeAround_of_not_mem {i : NodeId} {f : List Node → List Node} (n : Node)
    (h : i ∉ idsAll n.children) : n.changeAround i f = n := by
  cases n with
  | element j t cs =>
    have hcs : i ∉ idsAll cs := h
    rw [Node.changeAround, changeAroundAll_of_not_mem cs hcs, any_id?_eq_false hcs,
      if_neg (by simp)]
  | _ => rfl

theorem changeAroundAll_of_not_mem {i : NodeId} {f : List Node → List Node} (ns : List Node)
    (h : i ∉ idsAll ns) : changeAroundAll i f ns = ns := by
  cases ns with
  | nil => rfl
  | cons n ns =>
    rw [idsAll_cons, List.mem_append, not_or] at h
    have hn : i ∉ idsAll n.children := by
      rw [n.ids_eq, List.mem_append, not_or] at h
      exact h.1.2
    rw [changeAroundAll, Node.changeAround_of_not_mem n hn, changeAroundAll_of_not_mem ns h.2]

end

/-- A change around a node at the top changes nothing. -/
theorem changeAroundAll_of_mem_top {i : NodeId} {f : List Node → List Node} {ns : List Node}
    (hnodup : (idsAll ns).Nodup) {n : Node} (hn : n ∈ ns) (hi : n.id? = some i) :
    changeAroundAll i f ns = ns := by
  rw [changeAroundAll_eq_map]
  conv_rhs => rw [← List.map_id ns]
  exact List.map_congr_left fun m hm =>
    Node.changeAround_of_not_mem m (not_mem_children_of_top hnodup hn hi hm)

theorem changeAroundAll_append (i : NodeId) (f : List Node → List Node) (a b : List Node) :
    changeAroundAll i f (a ++ b) = changeAroundAll i f a ++ changeAroundAll i f b := by
  rw [changeAroundAll_eq_map, List.map_append]

/-- What fills a hole is below the top. -/
theorem any_id?_fill (i : NodeId) (h : Hole) (cs : List Node) :
    ((h.fill cs).any fun n => n.id? == some i) = ((h.fill []).any fun n => n.id? == some i) := by
  cases h <;> simp [Hole.fill, Node.id?]

/-- A change around one of the children that fill a hole fills it with the changed children. -/
theorem changeAroundAll_fill {i : NodeId} {f : List Node → List Node} {h : Hole} {cs : List Node}
    (hnodup : (idsAll (h.fill cs)).Nodup) {n : Node} (hn : n ∈ cs) (hi : n.id? = some i) :
    changeAroundAll i f (h.fill cs) = h.fill (f cs) := by
  have hmem : i ∈ idsAll cs := mem_idsAll.mpr ⟨n, hn, Node.mem_ids_of_id? hi⟩
  have haround := not_mem_of_nodup_fill hnodup hmem
  have hcs : (idsAll cs).Nodup := by
    rw [(idsAll_fill h cs).nodup_iff, List.nodup_append] at hnodup
    exact hnodup.1
  -- the siblings on the way down do not have the id, so the change passes them by
  induction h with
  | here left j t right =>
    have hany : (cs.any fun c => c.id? == some i) = true := by
      rw [List.any_eq_true]
      exact ⟨n, hn, by simp [hi]⟩
    simp only [Hole.fill, idsAll_append, idsAll_cons, List.mem_append, not_or] at haround
    rw [Hole.fill, Hole.fill, changeAroundAll_append, changeAroundAll,
      changeAroundAll_of_not_mem left haround.1, changeAroundAll_of_not_mem right haround.2.2,
      Node.changeAround, changeAroundAll_of_mem_top hcs hn hi, if_pos hany]
  | deeper left j t h right ih =>
    simp only [Hole.fill, idsAll_append, idsAll_cons, Node.ids, List.mem_append, List.mem_cons,
      not_or] at haround
    obtain ⟨hleft, ⟨-, hinner⟩, hright⟩ := haround
    have hnodup' : (idsAll (h.fill cs)).Nodup :=
      (nodup_ids_of_mem hnodup (List.mem_append_right left List.mem_cons_self)).of_cons
    have hany : ((h.fill cs).any fun n => n.id? == some i) = false := by
      rw [any_id?_fill, any_id?_eq_false hinner]
    rw [Hole.fill, Hole.fill, changeAroundAll_append, changeAroundAll,
      changeAroundAll_of_not_mem left hleft, changeAroundAll_of_not_mem right hright,
      Node.changeAround, ih hnodup' hinner, hany, if_neg (by simp)]

/-! ## Joining texts -/

variable {gone : List NodeId}

/-- Whether the texts that meet among siblings can be joined depends on their own texts and ids, not
on what is inside them. -/
theorem mends_outlineAll_congr (left : List Node) {n m : Node} (hn : n.isText = false)
    (hm : m.isText = false) (hid : n.id? = m.id?) (right : List Node) :
    (outlineAll (left ++ n :: right)).mends (Outline.goes gone)
      = (outlineAll (left ++ m :: right)).mends (Outline.goes gone) := by
  have hseam : (outlineAll (left ++ n :: right)).seam (Outline.goes gone)
      = (outlineAll (left ++ m :: right)).seam (Outline.goes gone) := by
    induction left with
    | nil =>
      have hgoes : n.outline.goes gone = m.outline.goes gone := by
        rw [Outline.goes, Outline.goes, Node.id?_outline, Node.id?_outline, hid]
      rw [List.nil_append, List.nil_append, outlineAll_cons_node hn, outlineAll_cons_node hm,
        Mixed.seam, Mixed.seam, hgoes]
    | cons k left ih =>
      cases hk : k.isText with
      | true => rw [List.cons_append, List.cons_append, outlineAll_cons_text hk,
          outlineAll_cons_text hk, Mixed.seam_prepend, Mixed.seam_prepend, ih]
      | false => rw [List.cons_append, List.cons_append, outlineAll_cons_node hk,
          outlineAll_cons_node hk, Mixed.seam, Mixed.seam, ih]
  rw [Mixed.mends, Mixed.mends, hseam]

/-- Whether the texts that meet at the top can be joined does not depend on what fills a hole. -/
theorem mends_outlineAll_fill (h : Hole) (cs : List Node) :
    (outlineAll (h.fill cs)).mends (Outline.goes gone)
      = (outlineAll (h.fill [])).mends (Outline.goes gone) := by
  cases h <;> exact mends_outlineAll_congr _ (by rfl) (by rfl) (by rfl) _

/-- All texts that meet in a forest can be joined if those among the children of one element, those
below these children and those elsewhere can. -/
theorem mendsAll_fill (h : Hole) (cs : List Node) :
    mendsAll gone (h.fill cs) = (mendsAll gone (h.fill []) &&
      ((outlineAll cs).mends (Outline.goes gone) && mendsAll gone cs)) := by
  induction h with
  | here left i t right =>
    have hnil : (outlineAll []).mends (Outline.goes gone) = true := rfl
    simp only [Hole.fill, mendsAll_append, mendsAll_cons, mends_outline_element, hnil, mendsAll_nil,
      Bool.true_and]
    ac_rfl
  | deeper left i t h right ih =>
    simp only [Hole.fill, mendsAll_append, mendsAll_cons, mends_outline_element,
      mends_outlineAll_fill h cs, ih]
    ac_rfl

end MarkupQuery.Tree
