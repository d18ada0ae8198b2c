import MarkupQuery.Proofs.Document.Lookup

/-!
# Detaching nodes one after the other

One node is taken out of its siblings, or nothing happens because it stands at the top, or its texts
cannot be joined (`Document.TakesOut`). While a list of nodes goes, one at a time, three things stay
as they are: what each tree comes to once all of them are deleted, whether all texts that meet can
be joined, and that only nodes that are still to come lie below the top of a tree. So the order does
not matter: the trees end up with all the nodes deleted at once, unless some texts cannot be joined
(`Document.detachAll_nodes`).
-/

namespace MarkupQuery

open MarkupQuery.Text MarkupQuery.Tree MarkupQuery.Query

/-! ## One node -/

/-- What taking a node out of its tree comes to. -/
inductive Document.TakesOut (d : Document) (i : NodeId) : Outcome Unit → Prop
  | top (hi : i ∉ idsBelow d.forest) : d.TakesOut i ⟨.ok (), d, []⟩
  | out (h : Hole) (cs : List Node) (n : Node) (trees : List Forest) (hfill : d.forest = h.fill cs)
      (hn : n ∈ cs) (hi : n.id? = some i) (hjoins : (outlineAll cs).joins (Outline.hasId i) = true)
      (htrees : trees.flatten = changeAroundAll i (takeOut i) d.forest ++ [n.independent]) :
      d.TakesOut i ⟨.ok (), { d with trees }, []⟩
  | stuck (h : Hole) (cs : List Node) (n : Node) (trees : List Forest)
      (hfill : d.forest = h.fill cs) (hn : n ∈ cs) (hi : n.id? = some i)
      (hjoins : (outlineAll cs).joins (Outline.hasId i) = false)
      (htrees : trees.flatten = changeAroundAll i (clearBefore i) d.forest) :
      d.TakesOut i ⟨.error .notMarkupText, { d with trees }, []⟩

theorem Document.forest_changeTrees (d : Document) (f : Node → Node) :
    (d.changeTrees (List.map f)).forest = d.forest.map f := by
  rw [Document.forest, Document.changeTrees, Document.forest, List.map_flatten]

theorem Document.forest_changeAround (d : Document) (i : NodeId) (f : List Node → List Node) :
    (d.changeTrees (changeAroundAll i f)).forest = changeAroundAll i f d.forest := by
  rw [changeAroundAll_eq_map, Document.forest_changeTrees]

theorem Document.takesOut {d : Document} (hnodup : d.ids.Nodup) (i : NodeId) :
    d.TakesOut i (d.takeOutNode i) := by
  have hlookup := d.lookup i
  rw [Document.takeOutNode]
  generalize d.spot? i = spot at hlookup
  generalize d.siblingsOf? i = siblings at hlookup
  have hperm := idsAll_perm d.forest
  cases hlookup with
  | absent hi => exact .top fun hmem => hi (hperm.mem_iff.mpr (List.mem_append_right _ hmem))
  | top s n hs hi hn =>
    refine .top fun hmem => ?_
    have hdistinct := (List.nodup_append.mp (hperm.nodup_iff.mp hnodup)).2.2
    exact hdistinct i (List.mem_filterMap.mpr ⟨n, hn, hi⟩) i hmem rfl
  | inner s n hs hi h cs hn hfill =>
    have htop : ∃ m ∈ cs, m.hasId i = true := ⟨n, hn, by simp [Node.hasId, hi]⟩
    have hjoins := joins_outlineAll htop
    -- what is left depends on whether the texts before and after the node can be joined
    cases hj : (outlineAll cs).joins (Outline.hasId i) with
    | true =>
      have hcond : (!((textAfter i cs).getD []).isEmpty &&
          !isMarkupText (textBefore i cs ++ (textAfter i cs).getD [])) = false := by
        rw [← Bool.not_or, ← hjoins, hj, Bool.not_true]
      simp only [hcond, hs]
      refine .out h cs n _ hfill hn hi hj ?_
      rw [List.flatten_append, ← d.forest_changeAround]
      simp [Document.forest]
    | false =>
      have hcond : (!((textAfter i cs).getD []).isEmpty &&
          !isMarkupText (textBefore i cs ++ (textAfter i cs).getD [])) = true := by
        rw [← Bool.not_or, ← hjoins, hj, Bool.not_false]
      simp only [hcond]
      exact .stuck h cs n _ hfill hn hi hj (d.forest_changeAround i (clearBefore i))

/-- Detaching changes trees. Besides it may empty the document, if it comes to the root, or fail,
for one reason only. -/
theorem Document.detach_cases (d : Document) (s : Selected) :
    ∃ trees, d.detach s = ⟨.ok (), { d with trees }, []⟩ ∨
      d.detach s = ⟨.ok (), { d with trees, root := none, context := none }, []⟩ ∨
      d.detach s = ⟨.error .notMarkupText, { d with trees }, []⟩ := by
  cases s with
  | node i =>
    rw [Document.detach]
    split
    · exact ⟨d.trees, .inr (.inl rfl)⟩
    · rw [Document.takeOutNode]
      split
      · dsimp only
        split
        · exact ⟨_, .inr (.inr rfl)⟩
        · split <;> exact ⟨_, .inl rfl⟩
      · exact ⟨_, .inl rfl⟩
  | text owner isTail content => cases isTail <;> exact ⟨_, .inl rfl⟩
  | _ => exact ⟨_, .inl rfl⟩

theorem Document.detach_document (d : Document) (s : Selected) :
    ∃ trees, (d.detach s).document = { d with trees } ∨
      (d.detach s).document = { d with trees, root := none, context := none } := by
  obtain ⟨trees, h | h | h⟩ := d.detach_cases s <;> rw [h]
  · exact ⟨trees, .inl rfl⟩
  · exact ⟨trees, .inr rfl⟩
  · exact ⟨trees, .inl rfl⟩

/-- Detaching any number of things changes trees, and empties the document if it comes to the
root. -/
theorem Document.detachAll_document (d : Document) (ss : List Selected) :
    ∃ trees, (d.detachAll ss).document = { d with trees } ∨
      (d.detachAll ss).document = { d with trees, root := none, context := none } := by
  induction ss generalizing d with
  | nil => exact ⟨d.trees, .inl rfl⟩
  | cons s ss ih =>
    rw [Document.detachAll]
    obtain ⟨trees, hdetach⟩ := d.detach_document s
    obtain ⟨trees', hrest⟩ := ih (d.detach s).document
    split
    · -- an emptied document stays empty
      rcases hdetach with hdetach | hdetach <;> rw [hdetach] at hrest ⊢
      · exact ⟨trees', hrest⟩
      · exact ⟨trees', .inr (hrest.elim id id)⟩
    · exact ⟨trees, hdetach⟩

/-! ## A node that goes -/

/-- What taking out one of the nodes that go keeps. -/
structure Document.TakenOut (gone : List NodeId) (i : NodeId) (d d' : Document) : Prop where
  rest : d' = { d with trees := d'.trees }
  ids : d'.ids.Perm d.ids
  below : ∀ j ∈ idsBelow d'.forest, j ∈ idsBelow d.forest ∧ j ≠ i
  mends : mendsAll gone d'.forest = mendsAll gone d.forest
  prune : ∀ n ∈ d.forest, ∃ n' ∈ d'.forest,
    n'.id? = n.id? ∧ n'.outline.prune gone = n.outline.prune gone

variable {gone : List NodeId} {d : Document} {i : NodeId}

/-- A node that goes is taken out, or the texts that meet when all are gone cannot all be joined. -/
theorem Document.takeOutNode_goes (hnodup : d.ids.Nodup) (hi : i ∈ gone) :
    (∃ d', d.takeOutNode i = ⟨.ok (), d', []⟩ ∧ Document.TakenOut gone i d d') ∨
    ∃ trees, d.takeOutNode i = ⟨.error .notMarkupText, { d with trees }, []⟩ ∧
      mendsAll gone d.forest = false := by
  have htakes := d.takesOut hnodup i
  generalize d.takeOutNode i = out at htakes
  cases htakes with
  | top hbelow =>
    refine .inl ⟨d, rfl, ⟨rfl, .refl _, ?_, rfl, fun n hn => ⟨n, hn, rfl, rfl⟩⟩⟩
    exact fun j hj => ⟨hj, fun hji => hbelow (hji ▸ hj)⟩
  | out h cs n trees hfill hn hid hjoins htrees =>
    have hdistinct : (idsAll (h.fill cs)).Nodup := hfill ▸ hnodup
    have hforest : trees.flatten = h.fill (takeOut i cs) ++ [n.independent] := by
      rw [htrees, hfill, changeAroundAll_fill hdistinct hn hid]
    refine .inl ⟨{ d with trees }, rfl, ⟨rfl, ?_, ?_, ?_, ?_⟩⟩
    · rw [Document.ids, Document.forest, hforest, Document.ids, hfill]
      exact idsAll_fill_takeOut hdistinct hn hid
    · -- the node itself moves to the top, and no other has its id
      intro j hj
      have hperm := idsBelow_fill_takeOut hdistinct hn hid
      have hbelow : (idsBelow (h.fill cs)).Nodup :=
        (List.nodup_append.mp ((idsAll_perm _).nodup_iff.mp hdistinct)).2.1
      rw [Document.forest, hforest] at hj
      rw [hperm.nodup_iff, List.nodup_cons] at hbelow
      rw [hfill, hperm.mem_iff]
      exact ⟨List.mem_cons_of_mem _ hj, fun hji => hbelow.1 (hji ▸ hj)⟩
    · rw [Document.forest, hforest, hfill, mendsAll_fill_takeOut hdistinct hn hid hi, hjoins,
        Bool.true_and]
    · intro m hm
      refine ⟨m.changeAround i (takeOut i), ?_, Node.id?_changeAround ..,
        Node.prune_changeAround hi m⟩
      rw [Document.forest, htrees, changeAroundAll_eq_map]
      exact List.mem_append_left _ (List.mem_map_of_mem hm)
  | stuck h cs n trees hfill hn hid hjoins htrees =>
    refine .inr ⟨trees, rfl, ?_⟩
    rw [hfill, mendsAll_fill_takeOut (hfill ▸ hnodup) hn hid hi, hjoins, Bool.false_and]

/-! ## Nodes that go -/

theorem Document.detach_node (hroot : d.root ≠ some i) :
    d.detach (.node i) = d.takeOutNode i := by
  rw [Document.detach, if_neg (by simpa using hroot)]

theorem Document.detachAll_cons_ok {d' : Document} {s : Selected}
    (h : d.detach s = ⟨.ok (), d', []⟩) (ss : List Selected) :
    d.detachAll (s :: ss) = d'.detachAll ss := by
  rw [Document.detachAll, h]

theorem Document.detachAll_cons_error {d' : Document} {s : Selected} {f : Fault}
    (h : d.detach s = ⟨.error f, d', []⟩) (ss : List Selected) :
    d.detachAll (s :: ss) = ⟨.error f, d', []⟩ := by
  rw [Document.detachAll, h]

/-- What comes of a document when all nodes that go are gone. -/
structure Document.Pruned (gone : List NodeId) (d d' : Document) : Prop where
  rest : d' = { d with trees := d'.trees }
  ids : d'.ids.Perm d.ids
  below : ∀ i ∈ gone, i ∉ idsBelow d'.forest
  outline : ∀ n ∈ d.forest, ∃ n' ∈ d'.forest, n'.id? = n.id? ∧ n'.outline = n.outline.prune gone

/-- If no node that goes is left below the top, all are gone. -/
theorem Document.Pruned.of_below (h : ∀ i ∈ gone, i ∉ idsBelow d.forest) :
    Document.Pruned gone d d where
  rest := rfl
  ids := .refl _
  below := h
  outline n hn := by
    have hself : ∀ i ∈ idsAll n.children, i ∉ gone := fun i hi hg =>
      h i hg (mem_idsBelow.mpr ⟨n, hn, hi⟩)
    exact ⟨n, hn, rfl, (n.prune_outline_self hself).symm⟩

/-- One of the nodes that go may go first. -/
theorem Document.TakenOut.pruned {d₁ d' : Document} (htaken : Document.TakenOut gone i d d₁)
    (hpruned : Document.Pruned gone d₁ d') : Document.Pruned gone d d' where
  rest := by rw [hpruned.rest, htaken.rest]
  ids := hpruned.ids.trans htaken.ids
  below := hpruned.below
  outline n hn := by
    obtain ⟨n₁, hn₁, hid₁, hprune⟩ := htaken.prune n hn
    obtain ⟨n', hn', hid', houtline⟩ := hpruned.outline n₁ hn₁
    exact ⟨n', hn', hid'.trans hid₁, houtline.trans hprune⟩

/-- All nodes that go can be detached exactly if all texts that meet can be joined, whatever the
order, and then every tree is what deleting all of them at once makes of it. -/
theorem Document.detachAll_goes (order : List NodeId) (hnodup : d.ids.Nodup)
    (horder : ∀ i ∈ order, i ∈ gone ∧ d.root ≠ some i)
    (hbelow : ∀ i ∈ gone, i ∈ idsBelow d.forest → i ∈ order) :
    (mendsAll gone d.forest = true ∧ ∃ d',
      d.detachAll (order.map .node) = ⟨.ok (), d', []⟩ ∧ Document.Pruned gone d d') ∨
    (mendsAll gone d.forest = false ∧ ∃ trees,
      d.detachAll (order.map .node) = ⟨.error .notMarkupText, { d with trees }, []⟩) := by
  -- what is still to come is all that is left below the top
  induction order generalizing d with
  | nil =>
    have hnone : ∀ i ∈ gone, i ∉ idsBelow d.forest := fun i hi hb => by simpa using hbelow i hi hb
    have hmends : mendsAll gone d.forest = true :=
      mendsAll_of_idsBelow fun i hb hi => hnone i hi hb
    exact .inl ⟨hmends, d, rfl, .of_below hnone⟩
  | cons i order ih =>
    obtain ⟨hi, hroot⟩ := horder i (by simp)
    rw [List.map_cons]
    rcases Document.takeOutNode_goes hnodup hi with ⟨d₁, hout, htaken⟩ | ⟨trees, hout, hmends⟩
    · have hroot₁ : d₁.root = d.root := by rw [htaken.rest]
      have hbelow₁ : ∀ j ∈ gone, j ∈ idsBelow d₁.forest → j ∈ order := by
        intro j hj hb
        have hmem := hbelow j hj (htaken.below j hb).1
        exact (List.mem_cons.mp hmem).resolve_left (htaken.below j hb).2
      rw [Document.detachAll_cons_ok ((Document.detach_node hroot).trans hout), ← htaken.mends]
      rcases ih (htaken.ids.nodup_iff.mpr hnodup) (fun j hj => hroot₁ ▸ horder j (by simp [hj]))
        hbelow₁ with ⟨hmends, d', hd', hpruned⟩ | ⟨hmends, trees, hd'⟩
      · exact .inl ⟨hmends, d', hd', htaken.pruned hpruned⟩
      · refine .inr ⟨hmends, trees, ?_⟩
        rw [hd', htaken.rest]
    · rw [Document.detachAll_cons_error ((Document.detach_node hroot).trans hout)]
      exact .inr ⟨hmends, trees, rfl⟩

end MarkupQuery
