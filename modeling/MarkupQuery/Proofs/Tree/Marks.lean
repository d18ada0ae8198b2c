import MarkupQuery.Proofs.Tree.Removal

/-!
# Marks of trees

What can be detached of a tree is named by marks: nodes, and the character data at the start of an element
or right after a node. Like the nodes they stand in document order. Detaching brings no marks in and leaves
those that stay in order (`Node.marks_detach_sublist`), and the same is true of text
(`Node.textContent_detach_sublist`).
-/

namespace MarkupQuery.Tree

open MarkupQuery.Text MarkupQuery.Query

/-! ## Marks -/

/-- What can be detached of a tree. -/
inductive Mark where
  | node (id : NodeId)
  /-- The character data at the start of an element. -/
  | lead (id : NodeId)
  /-- The character data right after a node. -/
  | tail (id : NodeId)
  deriving DecidableEq, Repr

/-- The node that a mark is about. -/
def Mark.id : Mark → NodeId
  | .node i => i
  | .lead i => i
  | .tail i => i

mutual

/-- The marks of a subtree in document order. -/
def Node.marks : Node → List Mark
  | .element i _ cs => .node i :: .lead i :: marksAll cs
  | n => n.id?.toList.map .node

/-- The marks of some subtrees in document order. -/
def marksAll : List Node → List Mark
  | [] => []
  | n :: ns => n.marks ++ n.id?.toList.map .tail ++ marksAll ns

end

@[simp] theorem marksAll_nil : marksAll [] = [] := rfl

@[simp] theorem marksAll_cons (n : Node) (ns : List Node) :
    marksAll (n :: ns) = n.marks ++ n.id?.toList.map .tail ++ marksAll ns := rfl

@[simp] theorem marksAll_append (a b : List Node) : marksAll (a ++ b) = marksAll a ++ marksAll b := by
  induction a with
  | nil => rfl
  | cons n a ih => rw [List.cons_append, marksAll_cons, marksAll_cons, ih, List.append_assoc _ _ (marksAll b)]

/-- Detaches what a mark names. -/
def Node.detach (n : Node) : Mark → Node
  | .node i => n.changeAround i (takeOut i)
  | .lead i => n.change i Node.clearText
  | .tail i => n.changeAround i (clearAfter i)

variable {n : Node} {ns : List Node} {i : NodeId}

mutual

theorem Node.id_mem_ids_of_mem_marks {n : Node} {m : Mark} (h : m ∈ n.marks) : m.id ∈ n.ids := by
  cases n with
  | element i t cs =>
    rw [Node.marks, List.mem_cons, List.mem_cons] at h
    rw [Node.ids, List.mem_cons]
    rcases h with rfl | rfl | h
    · exact .inl rfl
    · exact .inl rfl
    · exact .inr (id_mem_idsAll_of_mem_marksAll h)
  | text s | section_ s => cases h
  | comment i s | instruction i s d | reference i s t =>
    obtain rfl := List.mem_singleton.mp h
    exact List.mem_singleton_self i

/-- Marks are about nodes that are there. -/
theorem id_mem_idsAll_of_mem_marksAll {ns : List Node} {m : Mark} (h : m ∈ marksAll ns) :
    m.id ∈ idsAll ns := by
  cases ns with
  | nil => cases h
  | cons n ns =>
    rw [marksAll_cons, List.mem_append, List.mem_append] at h
    rw [idsAll_cons, List.mem_append]
    rcases h with (h | h) | h
    · exact .inl (Node.id_mem_ids_of_mem_marks h)
    · obtain ⟨i, hi, rfl⟩ := List.mem_map.mp h
      exact .inl (Node.mem_ids_of_id? (Option.mem_toList.mp hi))
    · exact .inr (id_mem_idsAll_of_mem_marksAll h)

end

theorem node_mem_marks (hi : n.id? = some i) : Mark.node i ∈ n.marks := by
  cases n with
  | element j t cs =>
    obtain rfl := Option.some.inj hi
    exact List.mem_cons_self
  | text s | section_ s => cases hi
  | comment j s | instruction j s d | reference j s t =>
    obtain rfl := Option.some.inj hi
    exact List.mem_singleton_self _

/-- The marks before a node among its siblings, and of the siblings before it, come before it in document
order. -/
theorem before_node_sublist (hnodup : (idsAll ns).Nodup) (hn : n ∈ ns) (hi : n.id? = some i) {m : Mark}
    {j : NodeId} (hm : m = .lead j ∨ m ∈ marksAll (before i ns)) :
    [m, .node i].Sublist (.lead j :: marksAll ns) := by
  have hnode : [Mark.node i].Sublist (marksAll (n :: after i ns)) :=
    List.singleton_sublist.mpr (List.mem_append_left _ (List.mem_append_left _ (node_mem_marks hi)))
  conv_rhs => rw [eq_before_cons_after hnodup hn hi, marksAll_append]
  rcases hm with rfl | hm
  · exact (hnode.trans (List.sublist_append_right _ _)).cons_cons _
  · exact ((List.singleton_sublist.mpr hm).append hnode).cons _

/-- A node comes before the character data right after it. -/
theorem node_tail_sublist (hn : n ∈ ns) (hi : n.id? = some i) :
    [Mark.node i, .tail i].Sublist (marksAll ns) := by
  obtain ⟨a, b, rfl⟩ := List.append_of_mem hn
  have htail : [Mark.tail i].Sublist (n.id?.toList.map .tail ++ marksAll b) :=
    List.singleton_sublist.mpr (List.mem_append_left _ (by simp [hi]))
  rw [marksAll_append, marksAll_cons, List.append_assoc]
  exact ((List.singleton_sublist.mpr (node_mem_marks hi)).append htail).trans
    (List.sublist_append_right _ _)

theorem tail_not_mem_marks (hi : n.id? = some i) (hbelow : i ∉ idsAll n.children) :
    Mark.tail i ∉ n.marks := by
  intro h
  cases n with
  | element j t cs =>
    rw [Node.marks, List.mem_cons, List.mem_cons] at h
    rcases h with h | h | h
    · cases h
    · cases h
    · exact hbelow (id_mem_idsAll_of_mem_marksAll h)
  | text s | section_ s => cases hi
  | comment j s | instruction j s d | reference j s t => cases List.mem_singleton.mp h

/-! ## Distinct marks -/

/-- In a list without repetition two elements stand in one order only. -/
theorem not_sublist_swap {α : Type} {l : List α} (hl : l.Nodup) {a b : α}
    (h : a = b ∨ [a, b].Sublist l) : ¬[b, a].Sublist l := by
  rcases h with rfl | hab
  · exact List.nodup_iff_sublist.mp hl a
  · intro hba
    induction hl with
    | nil => cases hab
    | @cons x l hx hl ih =>
      rw [List.sublist_cons_iff] at hab hba
      have hne {c : α} (hc : [c].Sublist l) : c ≠ x := fun hcx =>
        hx c (List.singleton_sublist.mp hc) hcx.symm
      rcases hab with hab | ⟨r, hr, hb⟩ <;> rcases hba with hba | ⟨r', hr', ha⟩
      · exact ih hab hba
      · obtain ⟨rfl, rfl⟩ := List.cons.inj hr'
        exact hne ((List.sublist_cons_self a [b]).trans hab) rfl
      · obtain ⟨rfl, rfl⟩ := List.cons.inj hr
        exact hne ((List.sublist_cons_self b [a]).trans hba) rfl
      · obtain ⟨rfl, rfl⟩ := List.cons.inj hr
        obtain ⟨rfl, rfl⟩ := List.cons.inj hr'
        exact hne hb rfl

mutual

theorem Node.nodup_marks {n : Node} (h : n.ids.Nodup) : n.marks.Nodup := by
  cases n with
  | element i t cs =>
    rw [Node.ids, List.nodup_cons] at h
    have hbelow {m : Mark} (hm : m.id = i) : m ∉ marksAll cs := fun hmem =>
      h.1 (hm ▸ id_mem_idsAll_of_mem_marksAll hmem)
    rw [Node.marks, List.nodup_cons, List.nodup_cons, List.mem_cons, not_or]
    exact ⟨⟨nofun, hbelow rfl⟩, hbelow rfl, nodup_marksAll h.2⟩
  | text s | section_ s => exact .nil
  | comment i s | instruction i s d | reference i s t => exact List.nodup_singleton _

/-- If ids are distinct, so are marks. -/
theorem nodup_marksAll {ns : List Node} (h : (idsAll ns).Nodup) : (marksAll ns).Nodup := by
  cases ns with
  | nil => exact .nil
  | cons n ns =>
    have hns := h
    rw [idsAll_cons, List.nodup_append] at hns
    obtain ⟨hn, hns, hapart⟩ := hns
    have hrest := nodup_marksAll hns
    have hothers {m : Mark} (hm : m.id ∈ n.ids) : m ∉ marksAll ns := fun hmem =>
      hapart m.id hm m.id (id_mem_idsAll_of_mem_marksAll hmem) rfl
    rw [marksAll_cons, List.append_assoc, List.nodup_append]
    cases hi : n.id? with
    | none =>
      refine ⟨Node.nodup_marks hn, hrest, fun m hm k hk hmk => ?_⟩
      exact hothers (Node.id_mem_ids_of_mem_marks hm) (hmk ▸ hk)
    | some i =>
      have hself := Node.mem_ids_of_id? hi
      have htail : Mark.tail i ∉ n.marks :=
        tail_not_mem_marks hi (not_mem_children_of_top h List.mem_cons_self hi List.mem_cons_self)
      refine ⟨Node.nodup_marks hn, List.nodup_cons.mpr ⟨hothers hself, hrest⟩, fun m hm k hk hmk => ?_⟩
      obtain rfl | hk := List.mem_cons.mp hk
      · exact htail (hmk ▸ hm)
      · exact hothers (Node.id_mem_ids_of_mem_marks hm) (hmk ▸ hk)

end

/-! ## Marks after a change -/

theorem marksAll_apartFromText (ns : List Node) : marksAll (apartFromText ns) = marksAll ns := by
  induction ns with
  | nil => rfl
  | cons n ns ih =>
    cases hn : n.isText with
    | true =>
      have hnil : n.marks = [] ∧ n.id? = none := by
        cases n <;> first | exact ⟨rfl, rfl⟩ | cases hn
      rw [apartFromText_cons_text hn, ih, marksAll_cons, hnil.1, hnil.2]
      rfl
    | false => rw [apartFromText_cons_node hn, marksAll_cons, marksAll_cons, ih]

theorem marksAll_sublist {a b : List Node} (h : a.Sublist b) : (marksAll a).Sublist (marksAll b) := by
  induction h with
  | slnil => exact .slnil
  | cons n _ ih => exact ih.trans (List.sublist_append_right _ _)
  | cons_cons n _ ih => exact (List.Sublist.refl _).append ih

theorem marksAll_takeOut_sublist (i : NodeId) (ns : List Node) :
    (marksAll (takeOut i ns)).Sublist (marksAll ns) := by
  conv_rhs => rw [← before_append_after i ns]
  rw [← marksAll_apartFromText, apartFromText_takeOut, marksAll_apartFromText]
  exact marksAll_sublist ((List.sublist_append_left _ _).append (.refl _))

theorem marksAll_clearAfter (i : NodeId) (ns : List Node) :
    marksAll (clearAfter i ns) = marksAll ns := by
  conv_rhs => rw [← before_append_after i ns]
  rw [← marksAll_apartFromText, clearAfter, apartFromText_append, apartFromText_afterText,
    ← apartFromText_append, marksAll_apartFromText]

theorem marksAll_clearBefore (i : NodeId) (ns : List Node) :
    marksAll (clearBefore i ns) = marksAll ns := by
  conv_rhs => rw [← before_append_after i ns]
  rw [← marksAll_apartFromText, clearBefore, apartFromText_append, apartFromText_append,
    apartFromText_splitEnd, ← apartFromText_append, ← apartFromText_append, marksAll_apartFromText]

mutual

theorem Node.marks_changeAround_sublist {f : List Node → List Node}
    (hf : ∀ ns, (marksAll (f ns)).Sublist (marksAll ns)) (n : Node) :
    (n.changeAround i f).marks.Sublist n.marks := by
  cases n with
  | element j t cs =>
    have hcs := marksAll_changeAroundAll_sublist hf cs
    rw [Node.changeAround, Node.marks, Node.marks]
    refine ((?_ : List.Sublist _ _).cons_cons _).cons_cons _
    split
    · exact (hf _).trans hcs
    · exact hcs
  | _ => exact .refl _

/-- Changing one list of children brings no marks in if the change does not. -/
theorem marksAll_changeAroundAll_sublist {f : List Node → List Node}
    (hf : ∀ ns, (marksAll (f ns)).Sublist (marksAll ns)) (ns : List Node) :
    (marksAll (changeAroundAll i f ns)).Sublist (marksAll ns) := by
  cases ns with
  | nil => exact .slnil
  | cons n ns =>
    rw [changeAroundAll, marksAll_cons, marksAll_cons, Node.id?_changeAround]
    exact ((Node.marks_changeAround_sublist hf n).append (.refl _)).append
      (marksAll_changeAroundAll_sublist hf ns)

end

mutual

theorem Node.marks_change_clearText {i : NodeId} (n : Node) : (n.change i Node.clearText).marks = n.marks := by
  cases n with
  | element j t cs =>
    have hcs := marksAll_changeAll_clearText (i := i) cs
    rw [Node.change]
    split
    · rw [Node.clearText, Node.marks, Node.marks, ← hcs, ← marksAll_apartFromText,
        apartFromText_afterText, marksAll_apartFromText]
    · rw [Node.marks, Node.marks, hcs]
  | _ => simp only [Node.change, Node.clearText, ite_self]

theorem marksAll_changeAll_clearText {i : NodeId} (ns : List Node) :
    marksAll (changeAll i Node.clearText ns) = marksAll ns := by
  cases ns with
  | nil => rfl
  | cons n ns =>
    have hid : (n.change i Node.clearText).id? = n.id? := Node.id?_change (fun k => by cases k <;> rfl) n
    rw [changeAll, marksAll_cons, marksAll_cons, hid, Node.marks_change_clearText n,
      marksAll_changeAll_clearText ns]

end

/-! ## Marks after detaching -/

theorem Node.marks_detach_sublist (n : Node) (m : Mark) : (n.detach m).marks.Sublist n.marks := by
  cases m with
  | node i => exact Node.marks_changeAround_sublist (marksAll_takeOut_sublist i) n
  | lead i =>
    rw [Node.detach, Node.marks_change_clearText]
  | tail i =>
    exact Node.marks_changeAround_sublist (fun ns => by rw [marksAll_clearAfter]) n

mutual

/-- The ids of a subtree are those of the nodes among its marks. -/
theorem Node.ids_eq_filterMap_marks (n : Node) :
    n.ids = n.marks.filterMap fun m => match m with | .node i => some i | _ => none := by
  cases n with
  | element i t cs =>
    rw [Node.ids, Node.marks, idsAll_eq_filterMap_marksAll cs]
    rfl
  | _ => rfl

theorem idsAll_eq_filterMap_marksAll (ns : List Node) :
    idsAll ns = (marksAll ns).filterMap fun m => match m with | .node i => some i | _ => none := by
  cases ns with
  | nil => rfl
  | cons n ns =>
    have htail : (n.id?.toList.map Mark.tail).filterMap
        (fun m => match m with | .node i => some i | _ => none) = [] := by
      cases n.id? <;> rfl
    rw [idsAll_cons, marksAll_cons, List.filterMap_append, List.filterMap_append, htail, List.append_nil,
      ← Node.ids_eq_filterMap_marks n, ← idsAll_eq_filterMap_marksAll ns]

end

theorem Node.ids_sublist {n n' : Node} (h : n.marks.Sublist n'.marks) : n.ids.Sublist n'.ids := by
  rw [Node.ids_eq_filterMap_marks, Node.ids_eq_filterMap_marks]
  exact h.filterMap _

theorem idsAll_sublist {a b : List Node} (h : (marksAll a).Sublist (marksAll b)) :
    (idsAll a).Sublist (idsAll b) := by
  rw [idsAll_eq_filterMap_marksAll, idsAll_eq_filterMap_marksAll]
  exact h.filterMap _

theorem Node.id?_detach (n : Node) (m : Mark) : (n.detach m).id? = n.id? := by
  cases m with
  | lead i => exact Node.id?_change (fun k => by cases k <;> rfl) n
  | _ => exact Node.id?_changeAround ..

/-! ## Text after detaching -/

theorem textContents_sublist {a b : List Node} (h : a.Sublist b) :
    (textContents a).Sublist (textContents b) := by
  induction h with
  | slnil => exact .slnil
  | cons n _ ih => exact ih.trans (List.sublist_append_right _ _)
  | cons_cons n _ ih => exact (List.Sublist.refl _).append ih

theorem textContents_of_isText (h : ∀ n ∈ ns, n.isText = true) :
    textContents ns = ns.flatMap Node.ownText := by
  induction ns with
  | nil => rfl
  | cons n ns ih =>
    rw [List.forall_mem_cons] at h
    have hn : n.textContent = n.ownText := by cases n <;> first | rfl | cases h.1
    rw [textContents_cons, List.flatMap_cons, hn, ih h.2]

/-- The text of siblings is that at their start and the rest. -/
theorem textContents_eq_leadingText (ns : List Node) :
    textContents ns = (leadingText ns).getD [] ++ textContents (afterText ns) := by
  induction ns with
  | nil => rfl
  | cons n ns ih =>
    cases hn : n.isText with
    | true =>
      have hown : n.textContent = n.ownText := by cases n <;> first | rfl | cases hn
      have hafter : afterText (n :: ns) = afterText ns := List.dropWhile_cons_of_pos hn
      rw [textContents_cons, hown, ih, leadingText, if_pos hn, hafter, Option.getD_some,
        List.append_assoc]
    | false =>
      have hne : ¬n.isText = true := by simp [hn]
      rw [leadingText, if_neg hne, afterText, List.dropWhile_cons_of_neg hne]
      rfl

/-- The text of siblings before a node ends with that right before the node. -/
theorem textContents_before (i : NodeId) (ns : List Node) :
    textContents (before i ns) = textContents (splitEnd (before i ns)).1 ++ textBefore i ns := by
  conv_lhs => rw [← splitEnd_append (before i ns), textContents_append,
    textContents_of_isText fun n hn => isText_of_mem_splitEnd hn]
  rfl

theorem textContent_sublist_of_mem {n : Node} {ns : List Node} (hn : n ∈ ns) :
    n.textContent.Sublist (textContents ns) := by
  obtain ⟨a, b, rfl⟩ := List.append_of_mem hn
  rw [textContents_append, textContents_cons]
  exact (List.sublist_append_left _ _).trans (List.sublist_append_right _ _)

theorem before_after_sublist (i : NodeId) (ns : List Node) :
    (before i ns ++ after i ns).Sublist ns := by
  conv_rhs => rw [← before_append_after i ns]
  exact (List.sublist_append_left _ _).append (.refl _)

/-- The text right before a node and right after it is among that of the siblings. -/
theorem joined_sublist (i : NodeId) (ns : List Node) :
    (textBefore i ns ++ (textAfter i ns).getD []).Sublist (textContents ns) := by
  refine List.Sublist.trans ?_ (textContents_sublist (before_after_sublist i ns))
  rw [textContents_append, textContents_before, textContents_eq_leadingText (after i ns)]
  exact (List.sublist_append_right _ _).append (List.sublist_append_left _ _)

theorem textContents_takeOut (i : NodeId) (ns : List Node) :
    textContents (takeOut i ns) = textContents (before i ns ++ after i ns) := by
  have hafter := textContents_eq_leadingText (after i ns)
  unfold takeOut
  split
  · rfl
  · next hempty =>
    rw [textAfter] at hempty
    rw [hempty] at hafter
    rw [textContents_append, textContents_append, hafter]
    rfl
  · next s hsome =>
    rw [textAfter] at hsome
    rw [hsome, Option.getD_some] at hafter
    rw [textContents_append, textContents_append, textContents_before, textContents_cons, hafter]
    simp [Node.textContent]

theorem clearAfter_sublist (i : NodeId) (ns : List Node) : (clearAfter i ns).Sublist ns := by
  conv_rhs => rw [← before_append_after i ns]
  exact (List.Sublist.refl _).append (List.dropWhile_sublist _)

mutual

theorem Node.textContent_changeAround_sublist {f : List Node → List Node}
    (hf : ∀ ns, (textContents (f ns)).Sublist (textContents ns)) (n : Node) :
    (n.changeAround i f).textContent.Sublist n.textContent := by
  cases n with
  | element j t cs =>
    have hcs := textContents_changeAroundAll_sublist hf cs
    rw [Node.changeAround, Node.textContent, Node.textContent]
    split
    · exact (hf _).trans hcs
    · exact hcs
  | _ => exact .refl _

theorem textContents_changeAroundAll_sublist {f : List Node → List Node}
    (hf : ∀ ns, (textContents (f ns)).Sublist (textContents ns)) (ns : List Node) :
    (textContents (changeAroundAll i f ns)).Sublist (textContents ns) := by
  cases ns with
  | nil => exact .slnil
  | cons n ns =>
    rw [changeAroundAll, textContents_cons, textContents_cons]
    exact (Node.textContent_changeAround_sublist hf n).append (textContents_changeAroundAll_sublist hf ns)

end

mutual

theorem Node.textContent_change_clearText_sublist {i : NodeId} (n : Node) :
    (n.change i Node.clearText).textContent.Sublist n.textContent := by
  cases n with
  | element j t cs =>
    have hcs := textContents_changeAll_clearText_sublist (i := i) cs
    rw [Node.change]
    split
    · exact (textContents_sublist (List.dropWhile_sublist _)).trans hcs
    · exact hcs
  | _ =>
    simp only [Node.change, Node.clearText, ite_self]
    exact .refl _

theorem textContents_changeAll_clearText_sublist {i : NodeId} (ns : List Node) :
    (textContents (changeAll i Node.clearText ns)).Sublist (textContents ns) := by
  cases ns with
  | nil => exact .slnil
  | cons n ns =>
    exact (Node.textContent_change_clearText_sublist n).append (textContents_changeAll_clearText_sublist ns)

end

/-- Detaching brings no text in. -/
theorem Node.textContent_detach_sublist (n : Node) (m : Mark) :
    (n.detach m).textContent.Sublist n.textContent := by
  cases m with
  | node i =>
    refine Node.textContent_changeAround_sublist (fun ns => ?_) n
    rw [textContents_takeOut]
    exact textContents_sublist (before_after_sublist i ns)
  | lead i => exact Node.textContent_change_clearText_sublist n
  | tail i => exact Node.textContent_changeAround_sublist (fun ns => textContents_sublist (clearAfter_sublist i ns)) n

end MarkupQuery.Tree
