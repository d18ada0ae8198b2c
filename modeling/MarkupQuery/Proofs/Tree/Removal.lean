import MarkupQuery.Proofs.Tree.Hole

/-!
# Taking nodes out of trees

What the changes of `Tree.Surgery` do to ids and outlines. Clearing texts keeps all ids. Taking a
node out keeps the ids and the inner texts of all other siblings, and a tree comes to the same once
all nodes that go are deleted, whichever of them was taken out first (`Node.prune_changeAround`).
-/

namespace MarkupQuery.Tree

open MarkupQuery.Text MarkupQuery.Query

/-! ## Siblings that are no character data -/

/-- The siblings that are no character data. -/
def apartFromText (ns : List Node) : List Node := ns.filter fun n => !n.isText

@[simp] theorem apartFromText_append (a b : List Node) :
    apartFromText (a ++ b) = apartFromText a ++ apartFromText b := List.filter_append ..

theorem apartFromText_cons_text {n : Node} (h : n.isText = true) (ns : List Node) :
    apartFromText (n :: ns) = apartFromText ns := by
  rw [apartFromText, List.filter_cons_of_neg (by simp [h]), apartFromText]

theorem apartFromText_cons_node {n : Node} (h : n.isText = false) (ns : List Node) :
    apartFromText (n :: ns) = n :: apartFromText ns := by
  rw [apartFromText, List.filter_cons_of_pos (by simp [h]), apartFromText]

/-- Character data has no ids, so that siblings without it have the same. -/
theorem idsAll_apartFromText (ns : List Node) : idsAll (apartFromText ns) = idsAll ns := by
  induction ns with
  | nil => rfl
  | cons n ns ih =>
    cases hn : n.isText with
    | true =>
      have hnil : idsAll [n] = [] := idsAll_eq_nil_of_isText (by simp [hn])
      rw [idsAll_cons, idsAll_nil, List.append_nil] at hnil
      rw [apartFromText_cons_text hn, ih, idsAll_cons, hnil, List.nil_append]
    | false => rw [apartFromText_cons_node hn, idsAll_cons, idsAll_cons, ih]

theorem mendsAll_apartFromText (gone : List NodeId) (ns : List Node) :
    mendsAll gone (apartFromText ns) = mendsAll gone ns := by
  induction ns with
  | nil => rfl
  | cons n ns ih =>
    cases hn : n.isText with
    | true => rw [apartFromText_cons_text hn, ih, mendsAll_cons, Node.mends_outline_of_isText hn,
        Bool.true_and]
    | false => rw [apartFromText_cons_node hn, mendsAll_cons, mendsAll_cons, ih]

@[simp] theorem apartFromText_afterText (ns : List Node) :
    apartFromText (afterText ns) = apartFromText ns := by
  induction ns with
  | nil => rfl
  | cons n ns ih =>
    cases hn : n.isText with
    | true => rw [apartFromText_cons_text hn, ← ih, afterText, List.dropWhile_cons_of_pos hn,
        ← afterText]
    | false => rw [afterText, List.dropWhile_cons_of_neg (by simp [hn])]

@[simp] theorem apartFromText_splitEnd (ns : List Node) :
    apartFromText (splitEnd ns).1 = apartFromText ns := by
  have htext : apartFromText (splitEnd ns).2 = [] := by
    rw [apartFromText, List.filter_eq_nil_iff]
    intro n hn
    simp [isText_of_mem_splitEnd hn]
  conv_rhs => rw [← splitEnd_append ns, apartFromText_append, htext, List.append_nil]

/-! ## Clearing texts -/

/-- The siblings before a node, the node, and those after it. -/
theorem before_append_after (i : NodeId) (ns : List Node) :
    before i ns ++ (ns.find? (Node.hasId i)).toList ++ after i ns = ns := by
  by_cases h : ∃ n ∈ ns, n.hasId i = true
  · obtain ⟨n, -, hfind, heq⟩ := exists_between h
    rw [hfind, Option.toList_some, List.append_assoc, List.singleton_append, ← heq]
  · simp only [not_exists, not_and, Bool.not_eq_true] at h
    have hfind : ns.find? (Node.hasId i) = none := by simpa using h
    have hbefore : before i ns = ns := by
      rw [before, List.takeWhile_eq_self_iff]
      intro n hn
      simp [h n hn]
    have hafter : after i ns = [] := by
      rw [after, List.dropWhile_eq_nil_iff.mpr fun n hn => by simp [h n hn], List.drop_nil]
    rw [hfind, hbefore, hafter]
    simp

theorem idsAll_clearAfter (i : NodeId) (ns : List Node) : idsAll (clearAfter i ns) = idsAll ns := by
  conv_rhs => rw [← before_append_after i ns]
  rw [← idsAll_apartFromText, clearAfter, apartFromText_append, apartFromText_afterText,
    ← apartFromText_append, idsAll_apartFromText]

theorem idsAll_clearBefore (i : NodeId) (ns : List Node) :
    idsAll (clearBefore i ns) = idsAll ns := by
  conv_rhs => rw [← before_append_after i ns]
  rw [← idsAll_apartFromText, clearBefore, apartFromText_append, apartFromText_append,
    apartFromText_splitEnd, ← apartFromText_append, ← apartFromText_append, idsAll_apartFromText]

@[simp] theorem Node.ids_clearText (n : Node) : n.clearText.ids = n.ids := by
  cases n with
  | element i t cs =>
    rw [Node.clearText, Node.ids, Node.ids, ← idsAll_apartFromText, apartFromText_afterText,
      idsAll_apartFromText]
  | _ => rfl

@[simp] theorem Node.ids_clearAttribute (name : Chars) (n : Node) :
    (n.clearAttribute name).ids = n.ids := by
  cases n <;> rfl

/-! ## Taking a node out -/

/-- The other siblings stay when a node is taken out. -/
theorem apartFromText_takeOut (i : NodeId) (ns : List Node) :
    apartFromText (takeOut i ns) = apartFromText (before i ns ++ after i ns) := by
  unfold takeOut
  split
  · rfl
  · rw [apartFromText_append, apartFromText_afterText, ← apartFromText_append]
  · rw [apartFromText_append, apartFromText_cons_text rfl, apartFromText_afterText,
      apartFromText_splitEnd, ← apartFromText_append]

variable {ns : List Node} {n : Node} {i : NodeId}

/-- If the ids are distinct, the siblings before a node, the node itself and those after it are
all. -/
theorem eq_before_cons_after (hnodup : (idsAll ns).Nodup) (hn : n ∈ ns) (hi : n.id? = some i) :
    ns = before i ns ++ n :: after i ns := by
  have hid : n.hasId i = true := by simp [Node.hasId, hi]
  obtain ⟨m, hm, hfind, heq⟩ := exists_between ⟨n, hn, hid⟩
  have hmi : m.id? = some i := by simpa [Node.hasId] using hm
  obtain rfl := eq_of_mem_ids hnodup hn (List.mem_of_find?_eq_some hfind) (Node.mem_ids_of_id? hi)
    (Node.mem_ids_of_id? hmi)
  exact heq

/-- The ids of siblings are those of a node that is taken out and those of the others. -/
theorem idsAll_takeOut (hnodup : (idsAll ns).Nodup) (hn : n ∈ ns) (hi : n.id? = some i) :
    (idsAll ns).Perm (n.ids ++ idsAll (takeOut i ns)) := by
  rw [← idsAll_apartFromText (takeOut i ns), apartFromText_takeOut, idsAll_apartFromText,
    idsAll_append]
  conv_lhs => rw [eq_before_cons_after hnodup hn hi, idsAll_append, idsAll_cons]
  rw [← List.append_assoc, ← List.append_assoc]
  exact List.perm_append_comm.append_right _

/-- All texts that meet inside siblings can be joined if those inside a node that is taken out and
those inside the others can. -/
theorem mendsAll_takeOut {gone : List NodeId} (hnodup : (idsAll ns).Nodup) (hn : n ∈ ns)
    (hi : n.id? = some i) :
    mendsAll gone ns = (n.outline.mends gone && mendsAll gone (takeOut i ns)) := by
  rw [← mendsAll_apartFromText gone (takeOut i ns), apartFromText_takeOut, mendsAll_apartFromText,
    mendsAll_append]
  conv_lhs => rw [eq_before_cons_after hnodup hn hi, mendsAll_append, mendsAll_cons]
  ac_rfl

/-! ## A node of its own -/

@[simp] theorem Node.ids_independent (n : Node) : n.independent.ids = n.ids := by
  cases n <;> rfl

@[simp] theorem Node.mends_outline_independent (gone : List NodeId) (n : Node) :
    n.independent.outline.mends gone = n.outline.mends gone := by
  cases n <;> rfl

/-! ## A node out of a forest -/

theorem nodup_of_nodup_fill {h : Hole} {cs : List Node} (hnodup : (idsAll (h.fill cs)).Nodup) :
    (idsAll cs).Nodup := by
  rw [(idsAll_fill h cs).nodup_iff, List.nodup_append] at hnodup
  exact hnodup.1

variable {h : Hole} {cs : List Node}

/-- A forest with a node of its own keeps all ids. -/
theorem idsAll_fill_takeOut (hnodup : (idsAll (h.fill cs)).Nodup) (hn : n ∈ cs)
    (hi : n.id? = some i) :
    (idsAll (h.fill (takeOut i cs) ++ [n.independent])).Perm (idsAll (h.fill cs)) := by
  have hcs := idsAll_takeOut (nodup_of_nodup_fill hnodup) hn hi
  rw [idsAll_append, idsAll_cons, idsAll_nil, List.append_nil, Node.ids_independent]
  calc idsAll (h.fill (takeOut i cs)) ++ n.ids
      |>.Perm (n.ids ++ idsAll (h.fill (takeOut i cs))) := List.perm_append_comm
    _ |>.Perm (n.ids ++ (idsAll (takeOut i cs) ++ idsAll (h.fill []))) :=
        (idsAll_fill h (takeOut i cs)).append_left _
    _ = n.ids ++ idsAll (takeOut i cs) ++ idsAll (h.fill []) := (List.append_assoc ..).symm
    _ |>.Perm (idsAll cs ++ idsAll (h.fill [])) := hcs.symm.append_right _
    _ |>.Perm (idsAll (h.fill cs)) := (idsAll_fill h cs).symm

/-- A node of its own is no longer below the top; all others stay below or above it. -/
theorem idsBelow_fill_takeOut (hnodup : (idsAll (h.fill cs)).Nodup) (hn : n ∈ cs)
    (hi : n.id? = some i) :
    (idsBelow (h.fill cs)).Perm (i :: idsBelow (h.fill (takeOut i cs) ++ [n.independent])) := by
  have hcs := idsAll_takeOut (nodup_of_nodup_fill hnodup) hn hi
  have hids : n.ids = i :: idsAll n.independent.children := by
    rw [n.ids_eq, hi]
    cases n <;> rfl
  rw [idsBelow_append, idsBelow_cons, idsBelow_nil, List.append_nil]
  calc idsBelow (h.fill cs)
      |>.Perm (idsAll cs ++ idsBelow (h.fill [])) := idsBelow_fill h cs
    _ |>.Perm (n.ids ++ idsAll (takeOut i cs) ++ idsBelow (h.fill [])) := hcs.append_right _
    _ = n.ids ++ (idsAll (takeOut i cs) ++ idsBelow (h.fill [])) := List.append_assoc ..
    _ |>.Perm (n.ids ++ idsBelow (h.fill (takeOut i cs))) :=
        (idsBelow_fill h (takeOut i cs)).symm.append_left _
    _ = i :: (idsAll n.independent.children ++ idsBelow (h.fill (takeOut i cs))) := by
        rw [hids, List.cons_append]
    _ |>.Perm (i :: (idsBelow (h.fill (takeOut i cs)) ++ idsAll n.independent.children)) :=
        List.perm_append_comm.cons i

/-- Whether all texts that meet can be joined, by what taking out a node that goes needs and
leaves. -/
theorem mendsAll_fill_takeOut {gone : List NodeId} (hnodup : (idsAll (h.fill cs)).Nodup)
    (hn : n ∈ cs) (hi : n.id? = some i) (hgone : i ∈ gone) :
    mendsAll gone (h.fill cs) = ((outlineAll cs).joins (Outline.hasId i) &&
      mendsAll gone (h.fill (takeOut i cs) ++ [n.independent])) := by
  have hgoes : ∀ o : Outline, o.hasId i = true → o.goes gone = true :=
    fun _ => Outline.goes_of_hasId hgone
  have hjoins := Mixed.mends_eq_joins_and hgoes (outlineAll cs)
  have htop : ∃ m ∈ cs, m.hasId i = true := ⟨n, hn, by simp [Node.hasId, hi]⟩
  rw [mendsAll_append, mendsAll_cons, mendsAll_nil, Bool.and_true, Node.mends_outline_independent,
    mendsAll_fill h cs, mendsAll_fill h (takeOut i cs), hjoins, outlineAll_takeOut htop,
    mendsAll_takeOut (nodup_of_nodup_fill hnodup) hn hi]
  simp only [Bool.and_assoc, Bool.and_left_comm, Bool.and_comm]

/-! ## Deleting subtrees -/

mutual

/-- Deleting nodes from a tree comes to the same if one of them has been taken out before. -/
theorem Node.prune_changeAround {gone : List NodeId} (hi : i ∈ gone) (n : Node) :
    (n.changeAround i (takeOut i)).outline.prune gone = n.outline.prune gone := by
  cases n with
  | element j t cs =>
    have hcs := pruneContent_changeAroundAll hi cs
    rw [Node.changeAround, Node.outline, Node.outline, Outline.prune, Outline.prune]
    split
    · next hany =>
      -- the node is still among the children after whatever the change did inside them
      have htop : ∃ m ∈ changeAroundAll i (takeOut i) cs, m.hasId i = true := by
        obtain ⟨c, hc, hci⟩ := List.any_eq_true.mp hany
        refine ⟨c.changeAround i (takeOut i), ?_, by rwa [Node.hasId, Node.id?_changeAround]⟩
        rw [changeAroundAll_eq_map]
        exact List.mem_map_of_mem hc
      rw [outlineAll_takeOut htop, pruneContent_takeOut hi, hcs]
    · rw [hcs]
  | _ => rfl

/-- Deleting nodes from siblings comes to the same if one of them has been taken out before. -/
theorem pruneContent_changeAroundAll {gone : List NodeId} (hi : i ∈ gone) (ns : List Node) :
    pruneContent gone (outlineAll (changeAroundAll i (takeOut i) ns))
      = pruneContent gone (outlineAll ns) := by
  cases ns with
  | nil => rfl
  | cons n ns =>
    have hrest := pruneContent_changeAroundAll hi ns
    cases hn : n.isText with
    | true =>
      rw [changeAroundAll, outlineAll_cons_text hn,
        outlineAll_cons_text (by rwa [Node.isText_changeAround]), Node.ownText_changeAround,
        pruneContent_prepend, pruneContent_prepend, hrest]
    | false =>
      have hgoes : (n.changeAround i (takeOut i)).outline.goes gone = n.outline.goes gone := by
        rw [Outline.goes, Outline.goes, Node.id?_outline, Node.id?_outline, Node.id?_changeAround]
      rw [changeAroundAll, outlineAll_cons_node hn,
        outlineAll_cons_node (by rwa [Node.isText_changeAround]), pruneContent, pruneContent, hgoes,
        hrest, Node.prune_changeAround hi n]

end

end MarkupQuery.Tree
