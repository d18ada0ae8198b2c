import MarkupQuery.Proofs.Tree.Identity
import MarkupQuery.Proofs.Tree.Mixed

/-!
# Outlines of trees

The outline of a tree keeps the text between its nodes as one text each: adjacent character data is
one text, and no text is the empty one. Deleting subtrees is defined on outlines, all at once
(`Outline.prune`). Taking a node out of a list of siblings is, on outlines, taking an item out of
mixed content (`outlineAll_takeOut`), so that pruning comes to the same afterwards
(`pruneContent_takeOut`).
-/

namespace MarkupQuery.Tree

open MarkupQuery.Text MarkupQuery.Query

/-! ## Outlines -/

/-- A tree in which adjacent character data is one text. -/
inductive Outline where
  /-- A comment, an instruction or a reference. -/
  | leaf (n : Node)
  | element (id : NodeId) (tag : Tag) (content : Mixed Outline)

/-- The id of what an outline is of. -/
def Outline.id? : Outline → Option NodeId
  | .leaf n => n.id?
  | .element i _ _ => some i

/-- Whether an outline is of the node with an id. -/
def Outline.hasId (i : NodeId) (o : Outline) : Bool := o.id? == some i

mutual

/-- The outline of a node. -/
def Node.outline : Node → Outline
  | .element i t cs => .element i t (outlineAll cs)
  | n => .leaf n

/-- The outline of siblings: the text at their start, then every node with the text after it. -/
def outlineAll : List Node → Mixed Outline
  | [] => .last []
  | n :: ns =>
      if n.isText then (outlineAll ns).prepend n.ownText else .next [] n.outline (outlineAll ns)

end

@[simp] theorem Node.id?_outline (n : Node) : n.outline.id? = n.id? := by
  cases n <;> rfl

@[simp] theorem Node.hasId_outline (i : NodeId) (n : Node) : n.outline.hasId i = n.hasId i := by
  rw [Outline.hasId, Node.hasId, Node.id?_outline]

theorem outlineAll_cons_text {n : Node} (h : n.isText = true) (ns : List Node) :
    outlineAll (n :: ns) = (outlineAll ns).prepend n.ownText := by
  rw [outlineAll, if_pos h]

theorem outlineAll_cons_node {n : Node} (h : n.isText = false) (ns : List Node) :
    outlineAll (n :: ns) = .next [] n.outline (outlineAll ns) := by
  rw [outlineAll, if_neg (by simp [h])]

/-- Character data at the start is one text. -/
theorem outlineAll_textRun {run : List Node} (h : ∀ n ∈ run, n.isText = true) (ns : List Node) :
    outlineAll (run ++ ns) = (outlineAll ns).prepend (run.flatMap Node.ownText) := by
  induction run with
  | nil => simp
  | cons n run ih =>
    rw [List.cons_append, outlineAll_cons_text (h n (by simp)), ih fun m hm => h m (by simp [hm])]
    simp

/-- Siblings may be exchanged for others of the same outline. -/
theorem outlineAll_append_congr (a : List Node) {b c : List Node}
    (h : outlineAll b = outlineAll c) :
    outlineAll (a ++ b) = outlineAll (a ++ c) := by
  induction a with
  | nil => exact h
  | cons n a ih =>
    cases hn : n.isText with
    | true => rw [List.cons_append, List.cons_append, outlineAll_cons_text hn,
        outlineAll_cons_text hn, ih]
    | false => rw [List.cons_append, List.cons_append, outlineAll_cons_node hn,
        outlineAll_cons_node hn, ih]

/-! ## Texts of siblings -/

/-- The character data at the start of siblings is the text at the start of their outline. -/
theorem text_outlineAll (ns : List Node) : (outlineAll ns).text = (leadingText ns).getD [] := by
  induction ns with
  | nil => rfl
  | cons n ns ih =>
    cases hn : n.isText with
    | true => rw [outlineAll_cons_text hn, Mixed.text_prepend, ih, leadingText, if_pos hn,
        Option.getD_some]
    | false =>
      rw [outlineAll_cons_node hn, leadingText, if_neg (by simp [hn])]
      rfl

/-- The character data at the start of siblings, put back before the rest. -/
theorem prepend_outlineAll_afterText (ns : List Node) :
    (outlineAll (afterText ns)).prepend ((leadingText ns).getD []) = outlineAll ns := by
  induction ns with
  | nil => rfl
  | cons n ns ih =>
    cases hn : n.isText with
    | true =>
      rw [outlineAll_cons_text hn, ← ih, leadingText, if_pos hn, Option.getD_some, afterText,
        List.dropWhile_cons_of_pos hn, ← afterText, Mixed.prepend_prepend]
    | false =>
      rw [leadingText, if_neg (by simp [hn]), afterText, List.dropWhile_cons_of_neg (by simp [hn]),
        Option.getD_none, Mixed.prepend_nil]

/-- The two parts of siblings, put together again. -/
theorem splitEnd_append (ns : List Node) : (splitEnd ns).1 ++ (splitEnd ns).2 = ns := by
  rw [splitEnd, ← List.reverse_append, List.takeWhile_append_dropWhile, List.reverse_reverse]

theorem isText_of_mem_splitEnd {ns : List Node} {n : Node} (h : n ∈ (splitEnd ns).2) :
    n.isText = true :=
  List.mem_takeWhile_imp (by simpa [splitEnd] using h)

/-- Unless the first part is empty it ends with a node that is no character data. -/
theorem splitEnd_fst (ns : List Node) :
    (splitEnd ns).1 = [] ∨ ∃ a n, (splitEnd ns).1 = a ++ [n] ∧ n.isText = false := by
  rcases h : ns.reverse.dropWhile Node.isText with _ | ⟨n, r⟩
  · left
    simp [splitEnd, h]
  · right
    refine ⟨r.reverse, n, by simp [splitEnd, h], ?_⟩
    have hhead := List.head?_dropWhile_not Node.isText ns.reverse
    rw [h] at hhead
    simpa using hhead

/-! ## A node among its siblings -/

/-- The node with an id stands between the siblings before and after it. -/
theorem exists_between {i : NodeId} {ns : List Node} (h : ∃ n ∈ ns, n.hasId i = true) :
    ∃ n, n.hasId i = true ∧ ns.find? (Node.hasId i) = some n ∧
      ns = before i ns ++ n :: after i ns := by
  induction ns with
  | nil => simp at h
  | cons m ns ih =>
    cases hm : m.hasId i with
    | true => exact ⟨m, hm, by simp [hm], by simp [before, after, hm]⟩
    | false =>
      obtain ⟨n, hn, hfind, heq⟩ := ih (by simpa [hm] using h)
      refine ⟨n, hn, by simp [hm, hfind], ?_⟩
      have hbefore : before i (m :: ns) = m :: before i ns := by simp [before, hm]
      have hafter : after i (m :: ns) = after i ns := by simp [after, hm]
      rw [hbefore, hafter, List.cons_append, ← heq]

theorem hasId_of_mem_before {i : NodeId} {ns : List Node} {n : Node} (h : n ∈ before i ns) :
    n.hasId i = false := by
  simpa using List.mem_takeWhile_imp h

/-- A node with an id is no character data. -/
theorem Node.isText_of_hasId {i : NodeId} {n : Node} (h : n.hasId i = true) : n.isText = false := by
  cases n <;> simp_all [Node.hasId, Node.id?, Node.isText]

/-- Taking a node out of the outline of its siblings leaves the outline of the others. -/
theorem takeOut_outlineAll {i : NodeId} {a : List Node} (ha : ∀ n ∈ a, n.hasId i = false) {m : Node}
    (hm : m.hasId i = true) (b : List Node) :
    (outlineAll (a ++ m :: b)).takeOut (Outline.hasId i) = outlineAll (a ++ b) := by
  induction a with
  | nil =>
    rw [List.nil_append, outlineAll_cons_node (Node.isText_of_hasId hm), Mixed.takeOut,
      Node.hasId_outline, if_pos hm, Mixed.prepend_nil, List.nil_append]
  | cons n a ih =>
    have hn : n.hasId i = false := ha n (by simp)
    have ih := ih fun k hk => ha k (by simp [hk])
    cases htext : n.isText with
    | true =>
      rw [List.cons_append, List.cons_append, outlineAll_cons_text htext,
        outlineAll_cons_text htext, Mixed.takeOut_prepend, ih]
    | false =>
      rw [List.cons_append, List.cons_append, outlineAll_cons_node htext,
        outlineAll_cons_node htext, Mixed.takeOut, Node.hasId_outline, hn, if_neg (by simp), ih]

/-- Taking a node out of a list of siblings takes it out of their outline. -/
theorem outlineAll_takeOut {i : NodeId} {ns : List Node} (h : ∃ n ∈ ns, n.hasId i = true) :
    outlineAll (takeOut i ns) = (outlineAll ns).takeOut (Outline.hasId i) := by
  obtain ⟨m, hm, -, heq⟩ := exists_between h
  have hout :
      (outlineAll ns).takeOut (Outline.hasId i) = outlineAll (before i ns ++ after i ns) := by
    conv_lhs => rw [heq]
    exact takeOut_outlineAll (fun n hn => hasId_of_mem_before hn) hm _
  rw [hout]
  have hafter := prepend_outlineAll_afterText (after i ns)
  unfold takeOut
  split
  · rfl
  · next hnone =>
    rw [textAfter] at hnone
    apply outlineAll_append_congr
    rw [← hafter, hnone, Option.getD_some, Mixed.prepend_nil]
  · next s hsome =>
    rw [textAfter] at hsome
    rw [hsome, Option.getD_some] at hafter
    -- only the run of texts right before the node is put together anew
    conv_rhs => rw [← splitEnd_append (before i ns), List.append_assoc]
    apply outlineAll_append_congr
    rw [outlineAll_cons_text rfl, outlineAll_textRun (fun n hn => isText_of_mem_splitEnd hn),
      ← hafter, Mixed.prepend_prepend]
    rfl

/-- After a node that is no character data, and that does not go, the outline goes on as if it began
there. -/
theorem outlineAll_append_node {i : NodeId} {a : List Node} (ha : ∀ n ∈ a, n.hasId i = false)
    {k : Node} (hk : k.isText = false) (hki : k.hasId i = false) (b : List Node) :
    ∃ t o rest, outlineAll (a ++ k :: b) = .next t o rest ∧ o.hasId i = false ∧
      rest.joins (Outline.hasId i) = (outlineAll b).joins (Outline.hasId i) := by
  induction a with
  | nil =>
    refine ⟨[], k.outline, outlineAll b, ?_, by rw [Node.hasId_outline, hki], rfl⟩
    rw [List.nil_append, outlineAll_cons_node hk]
  | cons n a ih =>
    obtain ⟨t, o, rest, heq, ho, hrest⟩ := ih fun m hm => ha m (by simp [hm])
    cases hn : n.isText with
    | true =>
      refine ⟨n.ownText ++ t, o, rest, ?_, ho, hrest⟩
      rw [List.cons_append, outlineAll_cons_text hn, heq, Mixed.prepend_next]
    | false =>
      have hni : n.outline.hasId i = false := by rw [Node.hasId_outline, ha n (by simp)]
      refine ⟨[], n.outline, .next t o rest, ?_, hni, ?_⟩
      · rw [List.cons_append, outlineAll_cons_node hn, heq]
      · rw [Mixed.joins, if_neg (by simp [ho]), hrest]

/-- Whether a node can be taken out of its siblings: the text right after it is empty, or joined
with the text right before it may stand in a tree. -/
theorem joins_outlineAll {i : NodeId} {ns : List Node} (h : ∃ n ∈ ns, n.hasId i = true) :
    (outlineAll ns).joins (Outline.hasId i)
      = (((textAfter i ns).getD []).isEmpty ||
          isMarkupText (textBefore i ns ++ (textAfter i ns).getD [])) := by
  obtain ⟨m, hm, -, heq⟩ := exists_between h
  have hsplit := splitEnd_append (before i ns)
  have hbefore : ∀ n ∈ (splitEnd (before i ns)).1, n.hasId i = false := fun n hn =>
    hasId_of_mem_before (hsplit ▸ List.mem_append_left _ hn)
  have htail : outlineAll ((splitEnd (before i ns)).2 ++ m :: after i ns)
      = .next (textBefore i ns) m.outline (outlineAll (after i ns)) := by
    rw [outlineAll_textRun (fun n hn => isText_of_mem_splitEnd hn),
      outlineAll_cons_node (Node.isText_of_hasId hm), Mixed.prepend_next, List.append_nil]
    rfl
  have hjoins : (outlineAll ((splitEnd (before i ns)).2 ++ m :: after i ns)).joins (Outline.hasId i)
      = (((textAfter i ns).getD []).isEmpty ||
          isMarkupText (textBefore i ns ++ (textAfter i ns).getD [])) := by
    rw [htail, Mixed.joins, Node.hasId_outline, if_pos hm, text_outlineAll]
    rfl
  -- what stands before that run makes no difference, since it ends with a node that stays
  rw [← hjoins]
  conv_lhs => rw [heq, ← hsplit, List.append_assoc]
  rcases splitEnd_fst (before i ns) with hnil | ⟨a, k, hak, hk⟩
  · rw [hnil, List.nil_append]
  · rw [hak] at hbefore ⊢
    have ha : ∀ n ∈ a, n.hasId i = false := fun n hn => hbefore n (List.mem_append_left _ hn)
    rw [List.append_assoc, List.singleton_append]
    obtain ⟨t, o, rest, hout, ho, hrest⟩ := outlineAll_append_node ha hk (hbefore k (by simp))
      ((splitEnd (before i ns)).2 ++ m :: after i ns)
    rw [hout, Mixed.joins, if_neg (by simp [ho]), hrest]

/-! ## Deleting subtrees -/

/-- Whether an outline is of one of the nodes that go. -/
def Outline.goes (gone : List NodeId) (o : Outline) : Bool := o.id?.any fun i => gone.contains i

mutual

/-- A tree without the subtrees of the nodes that go; texts that become adjacent are joined. The
node at the top stays. -/
def Outline.prune (gone : List NodeId) : Outline → Outline
  | .leaf n => .leaf n
  | .element i t c => .element i t (pruneContent gone c)

/-- Mixed content without the subtrees of the nodes that go. -/
def pruneContent (gone : List NodeId) : Mixed Outline → Mixed Outline
  | .last t => .last t
  | .next t o rest =>
      if o.goes gone then (pruneContent gone rest).prepend t
      else .next t (o.prune gone) (pruneContent gone rest)

end

mutual

/-- Whether all texts that meet when nodes go can be joined, in the subtrees that go too. -/
def Outline.mends (gone : List NodeId) : Outline → Bool
  | .leaf _ => true
  | .element _ _ c => c.mends (Outline.goes gone) && mendsWithin gone c

/-- Whether all texts that meet inside the items of mixed content can be joined. -/
def mendsWithin (gone : List NodeId) : Mixed Outline → Bool
  | .last _ => true
  | .next _ o rest => o.mends gone && mendsWithin gone rest

end

/-- Whether all texts that meet inside each of some subtrees can be joined. -/
def mendsAll (gone : List NodeId) (ns : List Node) : Bool := ns.all fun n => n.outline.mends gone

variable {gone : List NodeId}

@[simp] theorem mendsAll_nil : mendsAll gone [] = true := rfl

@[simp] theorem mendsAll_cons (n : Node) (ns : List Node) :
    mendsAll gone (n :: ns) = (n.outline.mends gone && mendsAll gone ns) := rfl

@[simp] theorem mendsAll_append (a b : List Node) :
    mendsAll gone (a ++ b) = (mendsAll gone a && mendsAll gone b) := List.all_append

theorem Node.mends_outline_of_isText {n : Node} (h : n.isText = true) :
    n.outline.mends gone = true := by
  cases n <;> simp_all [Node.isText, Node.outline, Outline.mends]

theorem Outline.goes_of_hasId {i : NodeId} (hi : i ∈ gone) {o : Outline} (h : o.hasId i = true) :
    o.goes gone = true := by
  rw [Outline.hasId, beq_iff_eq] at h
  simp [Outline.goes, h, hi]

theorem Outline.goes_eq_false {n : Node} (h : ∀ i ∈ n.ids, i ∉ gone) :
    n.outline.goes gone = false := by
  rw [Outline.goes, Node.id?_outline]
  cases hid : n.id? with
  | none => rfl
  | some i => simpa using h i (Node.mem_ids_of_id? hid)

@[simp] theorem pruneContent_prepend (s : Chars) (c : Mixed Outline) :
    pruneContent gone (c.prepend s) = (pruneContent gone c).prepend s := by
  cases c with
  | last t => rfl
  | next t o rest =>
    rw [Mixed.prepend_next, pruneContent, pruneContent]
    split
    · rw [Mixed.prepend_prepend]
    · rfl

/-- A node that goes anyway may go first. -/
theorem pruneContent_takeOut {i : NodeId} (hi : i ∈ gone) (c : Mixed Outline) :
    pruneContent gone (c.takeOut (Outline.hasId i)) = pruneContent gone c := by
  induction c with
  | last t => rfl
  | next t o rest ih =>
    cases ho : o.hasId i with
    | true =>
      rw [Mixed.takeOut, if_pos ho, pruneContent_prepend, pruneContent,
        if_pos (Outline.goes_of_hasId hi ho)]
    | false => rw [Mixed.takeOut, if_neg (by simp [ho]), pruneContent, pruneContent, ih]

/-- The texts inside siblings can be joined if those inside each can. -/
theorem mendsWithin_outlineAll (ns : List Node) :
    mendsWithin gone (outlineAll ns) = mendsAll gone ns := by
  induction ns with
  | nil => rfl
  | cons n ns ih =>
    cases hn : n.isText with
    | true =>
      rw [outlineAll_cons_text hn, mendsAll_cons, Node.mends_outline_of_isText hn, Bool.true_and,
        ← ih]
      cases outlineAll ns <;> rfl
    | false => rw [outlineAll_cons_node hn, mendsWithin, ih, mendsAll_cons]

theorem mends_outline_element (i : NodeId) (t : Tag) (cs : List Node) :
    (Node.element i t cs).outline.mends gone
      = ((outlineAll cs).mends (Outline.goes gone) && mendsAll gone cs) := by
  rw [Node.outline, Outline.mends, mendsWithin_outlineAll]

/-- The items of an outline of siblings are the outlines of those that are no character data. -/
theorem items_outlineAll (ns : List Node) :
    (outlineAll ns).items = (ns.filter fun n => !n.isText).map Node.outline := by
  induction ns with
  | nil => rfl
  | cons n ns ih =>
    cases hn : n.isText with
    | true => rw [outlineAll_cons_text hn, Mixed.items_prepend, ih]; simp [hn]
    | false => rw [outlineAll_cons_node hn, Mixed.items, ih]; simp [hn]

mutual

/-- Where no node goes nothing is deleted. -/
theorem Node.prune_outline_self (n : Node) (h : ∀ i ∈ idsAll n.children, i ∉ gone) :
    n.outline.prune gone = n.outline := by
  cases n with
  | element i t cs => rw [Node.outline, Outline.prune, pruneContent_outlineAll_self cs h]
  | _ => rfl

/-- Where no node goes nothing is deleted. -/
theorem pruneContent_outlineAll_self (ns : List Node) (h : ∀ i ∈ idsAll ns, i ∉ gone) :
    pruneContent gone (outlineAll ns) = outlineAll ns := by
  cases ns with
  | nil => rfl
  | cons n ns =>
    rw [idsAll_cons, List.forall_mem_append] at h
    have hrest := pruneContent_outlineAll_self ns h.2
    cases hn : n.isText with
    | true => rw [outlineAll_cons_text hn, pruneContent_prepend, hrest]
    | false =>
      have hchildren : ∀ i ∈ idsAll n.children, i ∉ gone := fun i hi =>
        h.1 i (by rw [n.ids_eq]; exact List.mem_append_right _ hi)
      rw [outlineAll_cons_node hn, pruneContent, Outline.goes_eq_false h.1, if_neg (by simp), hrest,
        Node.prune_outline_self n hchildren]

end

mutual

/-- Where no node goes no texts meet. -/
theorem Node.mends_outline_self (n : Node) (h : ∀ i ∈ idsAll n.children, i ∉ gone) :
    n.outline.mends gone = true := by
  cases n with
  | element i t cs =>
    have hitems : ∀ o ∈ (outlineAll cs).items, o.goes gone = false := by
      intro o ho
      rw [items_outlineAll, List.mem_map] at ho
      obtain ⟨n, hn, rfl⟩ := ho
      have hmem : n ∈ cs := (List.mem_filter.mp hn).1
      exact Outline.goes_eq_false fun j hj => h j (mem_idsAll.mpr ⟨n, hmem, hj⟩)
    rw [mends_outline_element, Mixed.mends_of_items hitems, Bool.true_and]
    exact mendsAll_self cs h
  | _ => rfl

/-- Where no node goes no texts meet. -/
theorem mendsAll_self (ns : List Node) (h : ∀ i ∈ idsAll ns, i ∉ gone) :
    mendsAll gone ns = true := by
  cases ns with
  | nil => rfl
  | cons n ns =>
    rw [idsAll_cons, List.forall_mem_append] at h
    have hchildren : ∀ i ∈ idsAll n.children, i ∉ gone := fun i hi =>
      h.1 i (by rw [n.ids_eq]; exact List.mem_append_right _ hi)
    rw [mendsAll_cons, Node.mends_outline_self n hchildren, mendsAll_self ns h.2]
    rfl

end

/-- Where no node goes below the top no texts meet. -/
theorem mendsAll_of_idsBelow {ns : List Node} (h : ∀ i ∈ idsBelow ns, i ∉ gone) :
    mendsAll gone ns = true := by
  rw [mendsAll, List.all_eq_true]
  exact fun n hn => n.mends_outline_self fun i hi => h i (mem_idsBelow.mpr ⟨n, hn, hi⟩)

end MarkupQuery.Tree
