import MarkupQuery.Proofs.Tree.Marks

/-!
# Text that is left

If marks are detached one after the other in document order, what is left of the text can be told at once
(`Node.textContent_foldl_detach`): it is all character data that does not stand in a node that goes and is
not cleared. Character data right after a node that goes is not cleared, though: when its turn comes it has
already joined the text before that node.
-/

namespace MarkupQuery.Tree

open MarkupQuery.Text MarkupQuery.Query

/-- Whether the character data at a mark is cleared when all marks of some kind are detached in document
order. -/
def Mark.isCleared (p : Mark → Bool) : Mark → Bool
  | .node _ => false
  | .lead i => p (.lead i)
  | .tail i => p (.tail i) && !p (.node i)

mutual

/-- What is left of the text content of a node, character data apart. -/
def Node.textLeft (p : Mark → Bool) : Node → Chars
  | .element i _ cs => if p (.node i) then [] else textsLeft p (Mark.isCleared p (.lead i)) cs
  | .reference i _ s => if p (.node i) then [] else s
  | _ => []

/-- What is left of the text content of siblings; the character data at their start may be cleared. -/
def textsLeft (p : Mark → Bool) (cleared : Bool) : List Node → Chars
  | [] => []
  | n :: ns =>
      match n.id? with
      | none => (if cleared then [] else n.ownText) ++ textsLeft p cleared ns
      | some i => n.textLeft p ++ textsLeft p (Mark.isCleared p (.tail i)) ns

end

variable {p q : Mark → Bool} {c : Bool} {n : Node} {ns : List Node} {i : NodeId}

@[simp] theorem textsLeft_nil : textsLeft p c [] = [] := rfl

theorem textsLeft_cons_text (h : n.id? = none) (ns : List Node) :
    textsLeft p c (n :: ns) = (if c then [] else n.ownText) ++ textsLeft p c ns := by
  rw [textsLeft, h]

theorem textsLeft_cons_node (h : n.id? = some i) (ns : List Node) :
    textsLeft p c (n :: ns) = n.textLeft p ++ textsLeft p (Mark.isCleared p (.tail i)) ns := by
  rw [textsLeft, h]

theorem Node.textLeft_of_gone (h : n.id? = some i) (hi : p (.node i) = true) : n.textLeft p = [] := by
  cases n with
  | element j t cs | reference j m s =>
    obtain rfl := Option.some.inj h
    rw [Node.textLeft, if_pos hi]
  | _ => rfl

/-- Whether the character data after some siblings is cleared. -/
def clearedAfter (p : Mark → Bool) (c : Bool) (ns : List Node) : Bool :=
  ns.foldl (fun c n => n.id?.elim c fun i => Mark.isCleared p (.tail i)) c

theorem textsLeft_append (a b : List Node) :
    textsLeft p c (a ++ b) = textsLeft p c a ++ textsLeft p (clearedAfter p c a) b := by
  induction a generalizing c with
  | nil => rfl
  | cons n a ih =>
    cases hn : n.id? with
    | none =>
      rw [List.cons_append, textsLeft_cons_text hn, textsLeft_cons_text hn, ih, List.append_assoc,
        clearedAfter, clearedAfter, List.foldl_cons, hn]
      rfl
    | some i =>
      rw [List.cons_append, textsLeft_cons_node hn, textsLeft_cons_node hn, ih, List.append_assoc,
        clearedAfter, clearedAfter, List.foldl_cons, hn]
      rfl

/-- Character data alone is cleared or stays. -/
theorem textsLeft_of_isText (h : ∀ n ∈ ns, n.isText = true) :
    textsLeft p c ns = (if c then [] else ns.flatMap Node.ownText) ∧ clearedAfter p c ns = c := by
  induction ns with
  | nil => cases c <;> exact ⟨rfl, rfl⟩
  | cons n ns ih =>
    rw [List.forall_mem_cons] at h
    have hn : n.id? = none := n.id?_eq_none_iff.mpr h.1
    obtain ⟨htext, hafter⟩ := ih h.2
    refine ⟨?_, ?_⟩
    · rw [textsLeft_cons_text hn, htext]
      cases c <;> rfl
    · rw [clearedAfter, List.foldl_cons, hn]
      exact hafter

/-- The character data at the start is cleared or stays; for what comes after it this makes no
difference. -/
theorem textsLeft_eq (p : Mark → Bool) (c c' : Bool) (ns : List Node) :
    textsLeft p c ns =
      (if c then [] else (leadingText ns).getD []) ++ textsLeft p c' (afterText ns) := by
  induction ns with
  | nil => cases c <;> rfl
  | cons n ns ih =>
    cases hn : n.isText with
    | true =>
      have hlead : (leadingText (n :: ns)).getD [] = n.ownText ++ (leadingText ns).getD [] := by
        rw [leadingText, if_pos hn, Option.getD_some]
      have hafter : afterText (n :: ns) = afterText ns := List.dropWhile_cons_of_pos hn
      rw [textsLeft_cons_text (n.id?_eq_none_iff.mpr hn), ih, hlead, hafter]
      cases c <;> simp
    | false =>
      have hne : ¬n.isText = true := by simp [hn]
      have hlead : (leadingText (n :: ns)).getD [] = [] := by rw [leadingText, if_neg hne, Option.getD_none]
      have hafter : afterText (n :: ns) = n :: ns := List.dropWhile_cons_of_neg hne
      obtain ⟨i, hi⟩ : ∃ i, n.id? = some i := by
        rwa [← Option.isSome_iff_exists, Option.isSome_iff_ne_none, ne_eq, n.id?_eq_none_iff]
      rw [hlead, hafter, ite_self, List.nil_append, textsLeft_cons_node hi, textsLeft_cons_node hi]

mutual

theorem Node.textLeft_congr {n : Node} (h : ∀ m ∈ n.marks, p m = q m) :
    n.textLeft p = n.textLeft q := by
  cases n with
  | element i t cs =>
    rw [Node.marks, List.forall_mem_cons, List.forall_mem_cons] at h
    rw [Node.textLeft, Node.textLeft, h.1, Mark.isCleared, Mark.isCleared, h.2.1,
      textsLeft_congr h.2.2]
  | reference i s t => rw [Node.textLeft, Node.textLeft, h _ (List.mem_singleton_self _)]
  | _ => rfl

/-- What is left depends on the marks that are there only. -/
theorem textsLeft_congr {ns : List Node} {c : Bool} (h : ∀ m ∈ marksAll ns, p m = q m) :
    textsLeft p c ns = textsLeft q c ns := by
  cases ns with
  | nil => rfl
  | cons n ns =>
    rw [marksAll_cons, List.forall_mem_append, List.forall_mem_append] at h
    obtain ⟨⟨hn, htail⟩, hns⟩ := h
    cases hid : n.id? with
    | none => rw [textsLeft_cons_text hid, textsLeft_cons_text hid, textsLeft_congr hns]
    | some i =>
      have hnode : p (.node i) = q (.node i) := hn _ (by cases n <;> simp_all [Node.marks, Node.id?])
      have htail : p (.tail i) = q (.tail i) := htail _ (by simp [hid])
      rw [textsLeft_cons_node hid, textsLeft_cons_node hid, Node.textLeft_congr hn, textsLeft_congr hns,
        Mark.isCleared, Mark.isCleared, hnode, htail]

end

theorem textsLeft_congr_of_not_mem (hpq : ∀ m : Mark, m.id ≠ i → p m = q m) (hi : i ∉ idsAll ns) :
    textsLeft p c ns = textsLeft q c ns :=
  textsLeft_congr fun m hm => hpq m fun hmi => hi (hmi ▸ id_mem_idsAll_of_mem_marksAll hm)

/-! ## One mark -/

/-- One more mark. -/
def addMark (m : Mark) (p : Mark → Bool) : Mark → Bool := fun k => k == m || p k

theorem addMark_of_id_ne {m k : Mark} (h : k.id ≠ m.id) : addMark m p k = p k := by
  have hne : k ≠ m := fun hkm => h (congrArg Mark.id hkm)
  rw [addMark, beq_eq_false_iff_ne.mpr hne, Bool.false_or]

theorem addMark_self (m : Mark) (p : Mark → Bool) : addMark m p m = true := by simp [addMark]

/-- If nothing that comes before a node is marked, the character data before it stays. -/
theorem clearedAfter_eq_false {a : List Node} (h : ∀ m ∈ marksAll a, p m = false) :
    clearedAfter p false a = false := by
  induction a using List.reverseRecOn with
  | nil => rfl
  | append_singleton a n ih =>
    rw [marksAll_append, List.forall_mem_append] at h
    rw [clearedAfter, List.foldl_append, List.foldl_cons, List.foldl_nil]
    cases hn : n.id? with
    | none => exact ih h.1
    | some i =>
      have htail : p (.tail i) = false := h.2 _ (by simp [hn])
      rw [Option.elim_some, Mark.isCleared, htail, Bool.false_and]

/-- If ids are distinct, that of a node is neither around it nor below it. -/
theorem not_mem_around (hnodup : (idsAll ns).Nodup) (hn : n ∈ ns) (hi : n.id? = some i) :
    i ∉ idsAll (before i ns) ∧ i ∉ idsAll n.children ∧ i ∉ idsAll (afterText (after i ns)) := by
  have hin : i ∈ n.ids := Node.mem_ids_of_id? hi
  have hbelow := not_mem_children_of_top hnodup hn hi hn
  rw [eq_before_cons_after hnodup hn hi, idsAll_append, idsAll_cons, List.nodup_append,
    List.nodup_append] at hnodup
  refine ⟨fun h => hnodup.2.2 i h i (List.mem_append_left _ hin) rfl, hbelow, ?_⟩
  rw [← idsAll_apartFromText, apartFromText_afterText, idsAll_apartFromText]
  exact fun h => hnodup.2.1.2.2 i hin i h rfl

/-- When a node is taken out, the text after it joins the text before it, and both stay if nothing that
comes before the node is marked. -/
theorem textsLeft_takeOut (hnodup : (idsAll ns).Nodup) (hn : n ∈ ns) (hi : n.id? = some i)
    (hbefore : ∀ m ∈ marksAll (before i ns), p m = false) :
    textsLeft p false (takeOut i ns) = textsLeft (addMark (.node i) p) false ns := by
  have heq := eq_before_cons_after hnodup hn hi
  obtain ⟨hleft, -, hrest⟩ := not_mem_around hnodup hn hi
  have hpq : ∀ m : Mark, m.id ≠ i → addMark (.node i) p m = p m := fun m hm => addMark_of_id_ne hm
  -- the character data after a node that goes is not cleared
  have htail : Mark.isCleared (addMark (.node i) p) (.tail i) = false := by
    rw [Mark.isCleared, addMark_self, Bool.not_true, Bool.and_false]
  have hright : textsLeft (addMark (.node i) p) false ns = textsLeft p false (before i ns) ++
      ((textAfter i ns).getD [] ++ textsLeft p false (afterText (after i ns))) := by
    conv_lhs => rw [heq]
    rw [textsLeft_append, textsLeft_cons_node hi, Node.textLeft_of_gone hi (addMark_self _ _), htail,
      List.nil_append, textsLeft_eq _ false false (after i ns),
      textsLeft_congr_of_not_mem hpq hleft, textsLeft_congr_of_not_mem hpq hrest]
    rfl
  have hstays : clearedAfter p false (before i ns) = false := clearedAfter_eq_false hbefore
  rw [hright]
  unfold takeOut
  split
  · next hnone =>
    have hsame := textsLeft_eq p false false (after i ns)
    rw [textAfter] at hnone
    rw [hnone] at hsame
    rw [textsLeft_append, hstays, hsame, textAfter, hnone]
    rfl
  · next hempty => rw [textsLeft_append, hstays, hempty, Option.getD_some, List.nil_append]
  · next s hsome =>
    -- only the run of texts right before the node is put together anew
    have hrun := textsLeft_of_isText (p := p) (c := false)
      fun m (hm : m ∈ (splitEnd (before i ns)).2) => isText_of_mem_splitEnd hm
    have hfirst : clearedAfter p false (splitEnd (before i ns)).1 = false := by
      refine clearedAfter_eq_false fun m hm => hbefore m ?_
      rw [← splitEnd_append (before i ns), marksAll_append]
      exact List.mem_append_left _ hm
    have hwhole : textsLeft p false (before i ns) =
        textsLeft p false (splitEnd (before i ns)).1 ++ textBefore i ns := by
      conv_lhs => rw [← splitEnd_append (before i ns), textsLeft_append, hfirst, hrun.1]
      rfl
    rw [textsLeft_append, hfirst, textsLeft_cons_text rfl, hwhole, hsome, Option.getD_some]
    simp [Node.ownText]

theorem find?_hasId (hnodup : (idsAll ns).Nodup) (hn : n ∈ ns) (hi : n.id? = some i) :
    ns.find? (Node.hasId i) = some n := by
  have hbefore : (before i ns).find? (Node.hasId i) = none :=
    List.find?_eq_none.mpr fun m hm => by rw [hasId_of_mem_before hm]; exact Bool.false_ne_true
  have hid : n.hasId i = true := by simp [Node.hasId, hi]
  conv_lhs => rw [eq_before_cons_after hnodup hn hi]
  rw [List.find?_append, hbefore, List.find?_cons_of_pos hid]
  rfl

/-- When the character data right after a node is cleared, it is gone, unless the node has gone. -/
theorem textsLeft_clearAfter (hnodup : (idsAll ns).Nodup) (hn : n ∈ ns) (hi : n.id? = some i)
    (hstays : p (.node i) = false) :
    textsLeft p c (clearAfter i ns) = textsLeft (addMark (.tail i) p) c ns := by
  obtain ⟨hleft, hbelow, hrest⟩ := not_mem_around hnodup hn hi
  have hpq : ∀ m : Mark, m.id ≠ i → addMark (.tail i) p m = p m := fun m hm => addMark_of_id_ne hm
  have hnode : addMark (.tail i) p (.node i) = p (.node i) := Bool.false_or _
  have htail : Mark.isCleared (addMark (.tail i) p) (.tail i) = true := by
    rw [Mark.isCleared, addMark_self, hnode, hstays]
    rfl
  have hself : n.textLeft (addMark (.tail i) p) = n.textLeft p := by
    refine Node.textLeft_congr fun m hm => ?_
    have hne : m ≠ .tail i := fun h => tail_not_mem_marks hi hbelow (h ▸ hm)
    rw [addMark, beq_eq_false_iff_ne.mpr hne, Bool.false_or]
  conv_rhs => rw [eq_before_cons_after hnodup hn hi]
  rw [clearAfter, find?_hasId hnodup hn hi, Option.toList_some, List.append_assoc, List.singleton_append,
    textsLeft_append, textsLeft_append, textsLeft_cons_node hi, textsLeft_cons_node hi, hself, htail,
    textsLeft_eq (addMark _ p) true (Mark.isCleared p (.tail i)) (after i ns), if_pos rfl, List.nil_append,
    textsLeft_congr_of_not_mem hpq hleft, textsLeft_congr_of_not_mem hpq hrest]

/-! ## A mark somewhere in a tree -/

mutual

/-- What is left of a node depends on a change among the children that a node stands in only through what is
left of these children. -/
theorem Node.textLeft_changeAround {n : Node} {f : List Node → List Node} (hnodup : n.ids.Nodup)
    (hself : n.id? ≠ some i) (hpq : ∀ m : Mark, m.id ≠ i → p m = q m)
    (hf : ∀ j cs, (Mark.lead j :: marksAll cs).Sublist n.marks → (idsAll cs).Nodup →
      (∃ k ∈ cs, k.id? = some i) →
      textsLeft p (Mark.isCleared p (.lead j)) (f cs) = textsLeft q (Mark.isCleared p (.lead j)) cs) :
    (n.changeAround i f).textLeft p = n.textLeft q := by
  cases n with
  | element j t cs =>
    have hj : j ≠ i := fun hji => hself (congrArg some hji)
    rw [Node.ids, List.nodup_cons] at hnodup
    have hcs : (Mark.lead j :: marksAll cs).Sublist (Node.element j t cs).marks :=
      List.sublist_cons_self _ _
    have hlead : Mark.isCleared q (.lead j) = Mark.isCleared p (.lead j) := (hpq (.lead j) hj).symm
    rw [Node.changeAround, Node.textLeft, Node.textLeft, hpq (.node j) hj, hlead]
    split
    · rfl
    · split
      · next hany =>
        obtain ⟨k, hk, hki⟩ := List.any_eq_true.mp hany
        rw [beq_iff_eq] at hki
        rw [changeAroundAll_of_mem_top hnodup.2 hk hki]
        exact hf j cs hcs hnodup.2 ⟨k, hk, hki⟩
      · next hany =>
        refine textsLeft_changeAroundAll hnodup.2 ?_ hpq fun j' cs' hsub => hf j' cs' ?_
        · intro k hk hki
          exact hany (List.any_eq_true.mpr ⟨k, hk, by rw [hki, beq_self_eq_true]⟩)
        · exact (hsub.cons _).cons _
  | reference j s t =>
    have hj : j ≠ i := fun hji => hself (congrArg some hji)
    show (Node.reference j s t).textLeft p = _
    rw [Node.textLeft, Node.textLeft, hpq (.node j) hj]
  | _ => rfl

theorem textsLeft_changeAroundAll {ns : List Node} {c : Bool} {f : List Node → List Node}
    (hnodup : (idsAll ns).Nodup) (htop : ∀ k ∈ ns, k.id? ≠ some i)
    (hpq : ∀ m : Mark, m.id ≠ i → p m = q m)
    (hf : ∀ j cs, (Mark.lead j :: marksAll cs).Sublist (marksAll ns) → (idsAll cs).Nodup →
      (∃ k ∈ cs, k.id? = some i) →
      textsLeft p (Mark.isCleared p (.lead j)) (f cs) = textsLeft q (Mark.isCleared p (.lead j)) cs) :
    textsLeft p c (changeAroundAll i f ns) = textsLeft q c ns := by
  cases ns with
  | nil => rfl
  | cons n ns =>
    rw [idsAll_cons, List.nodup_append] at hnodup
    rw [List.forall_mem_cons] at htop
    have hns (c' : Bool) := textsLeft_changeAroundAll (c := c') hnodup.2.1 htop.2 hpq fun j cs hsub =>
      hf j cs (hsub.trans (List.sublist_append_right _ _))
    rw [changeAroundAll]
    cases hid : n.id? with
    | none =>
      have htext : (n.changeAround i f).id? = none := (Node.id?_changeAround ..).trans hid
      rw [textsLeft_cons_text htext, textsLeft_cons_text hid, Node.ownText_changeAround, hns]
    | some j =>
      have hnode : (n.changeAround i f).id? = some j := (Node.id?_changeAround ..).trans hid
      have hj : j ≠ i := fun hji => htop.1 (hid.trans (congrArg some hji))
      rw [textsLeft_cons_node hnode, textsLeft_cons_node hid, hns, Mark.isCleared, Mark.isCleared,
        hpq (.tail j) hj, hpq (.node j) hj, Node.textLeft_changeAround hnodup.1 htop.1 hpq fun j' cs hsub =>
          hf j' cs ((hsub.trans (List.sublist_append_left _ _)).trans (List.sublist_append_left _ _))]

end

mutual

theorem Node.textLeft_change_clearText {i : NodeId} (n : Node) :
    (n.change i Node.clearText).textLeft p = n.textLeft (addMark (.lead i) p) := by
  have hnode (j : NodeId) : addMark (.lead i) p (.node j) = p (.node j) := Bool.false_or _
  cases n with
  | element j t cs =>
    rw [Node.change]
    split
    · next hji =>
      obtain rfl := beq_iff_eq.mp hji
      have hcs := textsLeft_changeAll_clearText (i := j) (c := true) cs
      rw [textsLeft_eq p true (Mark.isCleared p (.lead j)), if_pos rfl, List.nil_append] at hcs
      rw [Node.clearText, Node.textLeft, Node.textLeft, hcs, hnode, Mark.isCleared, addMark_self]
    · next hji =>
      have hlead : addMark (.lead i) p (.lead j) = p (.lead j) :=
        addMark_of_id_ne fun h => hji (beq_iff_eq.mpr h)
      rw [Node.textLeft, Node.textLeft, textsLeft_changeAll_clearText cs, hnode, Mark.isCleared,
        Mark.isCleared, hlead]
  | reference j s t =>
    have hsame : (Node.reference j s t).change i Node.clearText = .reference j s t := by
      simp only [Node.change, Node.clearText, ite_self]
    rw [hsame, Node.textLeft, Node.textLeft, hnode]
  | _ => simp only [Node.change, Node.clearText, ite_self, Node.textLeft]

/-- When the character data at the start of an element is cleared, it is gone. -/
theorem textsLeft_changeAll_clearText {i : NodeId} {c : Bool} (ns : List Node) :
    textsLeft p c (changeAll i Node.clearText ns) = textsLeft (addMark (.lead i) p) c ns := by
  cases ns with
  | nil => rfl
  | cons n ns =>
    have hid : (n.change i Node.clearText).id? = n.id? := Node.id?_change (fun k => by cases k <;> rfl) n
    rw [changeAll]
    cases hn : n.id? with
    | none =>
      have hsame : n.change i Node.clearText = n := by
        cases n <;> first | rfl | cases hn
      rw [hsame, textsLeft_cons_text hn, textsLeft_cons_text hn, textsLeft_changeAll_clearText ns]
    | some j =>
      have htail : Mark.isCleared (addMark (.lead i) p) (.tail j) = Mark.isCleared p (.tail j) := rfl
      rw [textsLeft_cons_node (hid.trans hn), textsLeft_cons_node hn, Node.textLeft_change_clearText n,
        textsLeft_changeAll_clearText ns, htail]

end

/-! ## Detaching in document order -/

/-- If nothing that comes before a mark in document order is marked, what is left after it has been detached
is what was to be left with it. -/
theorem Node.textLeft_detach {m : Mark} (hnodup : n.ids.Nodup)
    (hself : ∀ i, n.id? = some i → m ≠ .node i ∧ m ≠ .tail i)
    (horder : ∀ k, [k, m].Sublist n.marks → p k = false) :
    (n.detach m).textLeft p = n.textLeft (addMark m p) := by
  have hothers : ∀ k : Mark, k.id ≠ m.id → p k = addMark m p k := fun k hk => (addMark_of_id_ne hk).symm
  cases m with
  | node i =>
    refine Node.textLeft_changeAround hnodup (fun h => (hself i h).1 rfl) hothers
      fun j cs hsub hcs ⟨k, hk, hki⟩ => ?_
    have hbefore {m : Mark} (hm : m = .lead j ∨ m ∈ marksAll (before i cs)) : p m = false :=
      horder m ((before_node_sublist hcs hk hki hm).trans hsub)
    rw [Mark.isCleared, hbefore (.inl rfl)]
    exact textsLeft_takeOut hcs hk hki fun m hm => hbefore (.inr hm)
  | lead i => exact Node.textLeft_change_clearText n
  | tail i =>
    refine Node.textLeft_changeAround hnodup (fun h => (hself i h).2 rfl) hothers
      fun j cs hsub hcs ⟨k, hk, hki⟩ => ?_
    exact textsLeft_clearAfter hcs hk hki
      (horder _ ((node_tail_sublist hk hki).trans ((List.sublist_cons_self _ _).trans hsub)))

mutual

theorem Node.textLeft_none (n : Node) (hn : n.isText = false) :
    n.textLeft (fun _ => false) = n.textContent := by
  cases n with
  | element i t cs => exact textsLeft_none cs
  | text s | section_ s => cases hn
  | _ => rfl

/-- Without marks all text is left. -/
theorem textsLeft_none (ns : List Node) : textsLeft (fun _ => false) false ns = textContents ns := by
  cases ns with
  | nil => rfl
  | cons n ns =>
    rw [textContents_cons]
    cases hn : n.id? with
    | none =>
      have hown : n.textContent = n.ownText := by cases n <;> first | rfl | cases hn
      rw [textsLeft_cons_text hn, textsLeft_none ns, hown]
      rfl
    | some i =>
      have htext : n.isText = false := by
        rw [← Bool.not_eq_true, ← n.id?_eq_none_iff, hn]
        exact Option.some_ne_none i
      rw [textsLeft_cons_node hn, Node.textLeft_none n htext]
      exact congrArg _ (textsLeft_none ns)

end

/-- What is left of the text when marks are detached in document order. -/
theorem Node.textContent_foldl_detach {order : List Mark} (all : List Mark) (hn : n.isText = false)
    (hnodup : n.ids.Nodup) (hself : ∀ i, n.id? = some i → .node i ∉ order ∧ .tail i ∉ order)
    (hall : n.marks.Sublist all) (horder : order.Pairwise fun a b => ¬[b, a].Sublist all) :
    (order.foldl Node.detach n).textContent = n.textLeft fun m => order.contains m := by
  -- marks only go away, so that those to come stay in order
  induction order generalizing n with
  | nil => exact (Node.textLeft_none n hn).symm
  | cons m order ih =>
    rw [List.pairwise_cons] at horder
    have htext : (n.detach m).isText = false := by
      rw [← Bool.not_eq_true, ← Node.id?_eq_none_iff, Node.id?_detach, Node.id?_eq_none_iff, hn]
      exact Bool.false_ne_true
    have hrest := ih htext (hnodup.sublist (Node.ids_sublist (n.marks_detach_sublist m)))
      (fun i hi => by
        rw [Node.id?_detach] at hi
        exact ⟨fun h => (hself i hi).1 (List.mem_cons_of_mem m h),
          fun h => (hself i hi).2 (List.mem_cons_of_mem m h)⟩)
      ((n.marks_detach_sublist m).trans hall) horder.2
    rw [List.foldl_cons, hrest, Node.textLeft_detach hnodup]
    · exact congrArg (Node.textLeft · n) (funext fun k => (List.contains_cons ..).symm)
    · intro i hi
      exact ⟨fun h => (hself i hi).1 (h ▸ List.mem_cons_self), fun h => (hself i hi).2 (h ▸ List.mem_cons_self)⟩
    · intro k hk
      rw [List.contains_eq_mem, decide_eq_false_iff_not]
      exact fun hmem => horder.1 k hmem (hk.trans hall)

end MarkupQuery.Tree
