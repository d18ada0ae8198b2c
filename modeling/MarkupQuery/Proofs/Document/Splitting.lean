import MarkupQuery.Proofs.Document.Finding
import MarkupQuery.Proofs.Tree.Marks

/-!
# Trees that are taken apart

Detaching takes the trees of a document apart (`Document.Splits`): every tree that comes out has ids of one
that was there, and what stands at the top of a tree stays at its top. So queries keep starting from the top
of a tree, whatever is done with a document (`Document.Reachable.anchored`).
-/

namespace MarkupQuery

open MarkupQuery.Text MarkupQuery.Tree MarkupQuery.Query

/-- The nodes that queries start from: the root, and the one that the query context remembers. -/
def Document.starts (d : Document) : List NodeId :=
  d.root.toList ++ (d.context.map QueryContext.root).toList

/-- A document whose queries start from the top of a tree. -/
def Document.Anchored (d : Document) : Prop :=
  ∀ r ∈ d.starts, ∃ n ∈ d.forest, n.id? = some r

/-- A document whose trees are parts of the trees of another one. What stands at the top of a tree stays
there, changed inside at most. -/
structure Document.Splits (d d' : Document) : Prop where
  trees : ∀ f' ∈ d'.trees, ∃ f ∈ d.trees, idsAll f' ⊆ idsAll f
  top : ∀ f ∈ d.trees, ∃ g : Node → Node, f.map g ∈ d'.trees ∧ (∀ n, (g n).id? = n.id?) ∧
    ∀ n, n.isElement = false → g n = n
  starts : d'.starts ⊆ d.starts
  nextId : d'.nextId = d.nextId

variable {d d' : Document} {i : NodeId}

/-! ## Detaching -/

theorem Document.Splits.of_trees (htrees : d'.trees = d.trees) (hstarts : d'.starts ⊆ d.starts)
    (hnext : d'.nextId = d.nextId) : d.Splits d' :=
  ⟨fun f hf => ⟨f, htrees ▸ hf, List.Subset.refl _⟩,
    fun f hf => ⟨id, by rwa [List.map_id, htrees], fun _ => rfl, fun _ _ => rfl⟩, hstarts, hnext⟩

theorem Document.Splits.refl (d : Document) : d.Splits d := .of_trees rfl (List.Subset.refl _) rfl

theorem Document.Splits.trans {d'' : Document} (h : d.Splits d') (h' : d'.Splits d'') :
    d.Splits d'' where
  trees f'' hf'' := by
    obtain ⟨f', hf', hids'⟩ := h'.trees f'' hf''
    obtain ⟨f, hf, hids⟩ := h.trees f' hf'
    exact ⟨f, hf, List.Subset.trans hids' hids⟩
  top f hf := by
    obtain ⟨g, hg, hid, hsame⟩ := h.top f hf
    obtain ⟨g', hg', hid', hsame'⟩ := h'.top _ hg
    rw [List.map_map] at hg'
    exact ⟨g' ∘ g, hg', fun n => (hid' _).trans (hid n),
      fun n hn => (congrArg g' (hsame n hn)).trans (hsame' n hn)⟩
  starts := List.Subset.trans h'.starts h.starts
  nextId := h'.nextId.trans h.nextId

/-- A node at the top of a tree stays at the top. -/
theorem Document.Splits.exists_top (h : d.Splits d') {n : Node} (hn : n ∈ d.forest) :
    ∃ n' ∈ d'.forest, n'.id? = n.id? := by
  obtain ⟨f, hf, hnf⟩ := List.mem_flatten.mp hn
  obtain ⟨g, hg, hid, -⟩ := h.top f hf
  exact ⟨g n, List.mem_flatten.mpr ⟨_, hg, List.mem_map_of_mem hnf⟩, hid n⟩

theorem Document.splits_changeTrees (d : Document) {g : Node → Node}
    (hids : ∀ f : Forest, idsAll (f.map g) ⊆ idsAll f) (hid : ∀ n, (g n).id? = n.id?)
    (hsame : ∀ n, n.isElement = false → g n = n) : d.Splits (d.changeTrees (List.map g)) where
  trees f' hf' := by
    obtain ⟨f, hf, rfl⟩ := List.mem_map.mp hf'
    exact ⟨f, hf, hids f⟩
  top f hf := ⟨g, List.mem_map_of_mem hf, hid, hsame⟩
  starts := List.Subset.refl _
  nextId := rfl

theorem Document.splits_changeAround (d : Document) (i : NodeId) {f : List Node → List Node}
    (hf : ∀ ns, (marksAll (f ns)).Sublist (marksAll ns)) :
    d.Splits (d.changeTrees (changeAroundAll i f)) := by
  rw [changeAroundAll_eq_map]
  refine d.splits_changeTrees (fun ns => ?_) (Node.id?_changeAround i f) fun n hn => ?_
  · rw [← changeAroundAll_eq_map]
    exact (idsAll_sublist (marksAll_changeAroundAll_sublist hf ns)).subset
  · cases n <;> first | rfl | cases hn

theorem Document.splits_change (d : Document) (i : NodeId) {f : Node → Node}
    (hids : ∀ n, (f n).ids = n.ids) (hid : ∀ n, (f n).id? = n.id?)
    (hsame : ∀ n, n.isElement = false → f n = n) : d.Splits (d.changeTrees (changeAll i f)) := by
  rw [changeAll_eq_map]
  refine d.splits_changeTrees (fun ns => ?_) (Node.id?_change hid) fun n hn => ?_
  · rw [idsAll_map (Node.ids_change hids)]
    exact List.Subset.refl _
  · have hf := hsame n hn
    cases n with
    | element => cases hn
    | _ => simp only [Node.change, hf, ite_self]

/-- What stands at a spot of a tree has the ids of the tree. -/
theorem Query.Spot.In.ids_subset {f : Forest} {s : Spot} (hs : s.In f) :
    idsAll s.target.children ⊆ idsAll f ∧ ∀ n, s.target = .node n → n.ids ⊆ idsAll f := by
  induction hs with
  | top => exact ⟨List.Subset.refl _, nofun⟩
  | @child s k n hs hn ih =>
    have hn : n.ids ⊆ idsAll f := fun i hi =>
      ih.1 (mem_idsAll.mpr ⟨n, List.mem_of_getElem? hn, hi⟩)
    refine ⟨fun i hi => hn ?_, fun m hm => Target.node.inj hm ▸ hn⟩
    rw [n.ids_eq]
    exact List.mem_append_right _ hi
  | label => exact ⟨List.nil_subset _, nofun⟩
  | space => exact ⟨List.nil_subset _, nofun⟩

theorem Document.splits_takeOutNode (d : Document) (i : NodeId) :
    d.Splits (d.takeOutNode i).document := by
  rw [Document.takeOutNode]
  split
  · next siblings s hsiblings hs =>
    have hrest := d.splits_changeAround i (marksAll_takeOut_sublist i)
    dsimp only
    split
    · exact d.splits_changeAround i fun ns => by rw [marksAll_clearBefore]
    · split
      · next n hn =>
        -- the node was part of a tree before it became one of its own
        obtain ⟨f, hf, -, hin⟩ := spot?_eq_some hs
        refine ⟨fun f' hf' => ?_, fun f hf => ?_, hrest.starts, hrest.nextId⟩
        · rcases List.mem_append.mp hf' with hf' | hf'
          · exact hrest.trees f' hf'
          · obtain rfl := List.mem_singleton.mp hf'
            refine ⟨f, hf, ?_⟩
            rw [idsAll_cons, idsAll_nil, List.append_nil, Node.ids_independent]
            exact hin.ids_subset.2 n hn
        · obtain ⟨g, hg, hid⟩ := hrest.top f hf
          exact ⟨g, List.mem_append_left _ hg, hid⟩
      · exact hrest
  · exact .refl d

/-- Detaching takes trees apart. -/
theorem Document.splits_detach (d : Document) (s : Selected) : d.Splits (d.detach s).document := by
  match s with
  | .node i =>
    rw [Document.detach]
    split
    · exact .of_trees rfl (List.nil_subset _) rfl
    · exact d.splits_takeOutNode i
  | .text owner true _ =>
    exact d.splits_changeAround owner fun ns => by rw [marksAll_clearAfter]
  | .text owner false _ =>
    exact d.splits_change owner Node.ids_clearText (fun n => by cases n <;> rfl) fun n hn => by
      cases n <;> first | rfl | cases hn
  | .attribute owner name _ =>
    exact d.splits_change owner (Node.ids_clearAttribute name) (fun n => by cases n <;> rfl) fun n hn => by
      cases n <;> first | rfl | cases hn
  | .space .. | .scalar _ | .loose _ => exact .refl d

theorem Document.splits_detachAll (d : Document) (ss : List Selected) :
    d.Splits (d.detachAll ss).document := by
  induction ss generalizing d with
  | nil => exact .refl d
  | cons s ss ih =>
    rw [Document.detachAll]
    split
    · exact (d.splits_detach s).trans (ih _)
    · exact d.splits_detach s

/-! ## Where queries start -/

theorem Document.Anchored.splits (hd : d.Anchored) (h : d.Splits d') : d'.Anchored := by
  intro r hr
  obtain ⟨n, hn, hid⟩ := hd r (h.starts hr)
  obtain ⟨n', hn', hid'⟩ := h.exists_top hn
  exact ⟨n', hn', hid'.trans hid⟩

/-- What is taken in may be started from. -/
theorem Document.Anchored.take (hd : d.Anchored) {m : CodePoints} {f : Forest} {r : NodeId}
    (h : (d.parse m).tree = some (f, r)) (htrees : d'.trees = (d.take (d.parse m)).trees)
    (hstarts : d'.starts ⊆ r :: d.starts) : d'.Anchored := by
  intro i hi
  rw [Document.forest, htrees]
  rcases List.mem_cons.mp (hstarts hi) with rfl | hi
  · exact (Document.root_parse h).2
  · obtain ⟨n, hn, hid⟩ := hd i hi
    refine ⟨n, ?_, hid⟩
    rw [Document.take, h, List.flatten_append]
    exact List.mem_append_left _ hn

theorem Document.Anchored.perform (hd : d.Anchored) (op : Operation) :
    (d.perform op).document.Anchored := by
  have hchanges := d.perform_changes op
  generalize (d.perform op).document = d' at hchanges
  cases hchanges with
  | same => exact hd
  | translated => exact hd
  | registered label name out h =>
    cases h with
    | noKey => exact hd
    | empty => exact hd
    | refused => exact hd
    | done c s h hcontext => exact fun r hr => hd r (by rw [Document.starts, hcontext]; exact hr)
  | removed s ss => exact hd.splits (d.splits_detachAll ss)
  | detached h => exact hd.splits (d.splits_detach h.selected)
  | replaced p r out hout h =>
    cases h with
    | failed => exact hd
    | done parsed r spaces log h =>
      obtain ⟨m, f, rfl, htree⟩ := Document.reparsed_some h
      exact hd.take htree rfl (by simp [Document.starts])
    | refused parsed r f log h =>
      obtain ⟨m, f, rfl, htree⟩ := Document.reparsed_some h
      refine hd.take htree rfl ?_
      simp only [Document.starts, Document.take, htree, Option.toList_some, List.singleton_append]
      exact List.cons_subset_cons r (List.subset_append_right _ _)
  | closed =>
    intro r hr
    cases hr

/-- Queries in a reachable document start from the top of a tree. -/
theorem Document.Reachable.anchored (h : d.Reachable) : d.Anchored := by
  induction h with
  | opened h =>
    obtain ⟨d₀, m, hsettle, hinstalls⟩ := Opening.run_ok h
    cases htree : (d₀.parse m).tree with
    | none =>
      rw [htree, Option.map_none] at hinstalls
      cases hinstalls
      exact nofun
    | some tree =>
      rw [htree, Option.map_some] at hinstalls
      cases hinstalls
      have hstart : d₀.Anchored := by
        rw [(Opening.settles_of_settle hsettle).eq]
        exact nofun
      exact hstart.take (f := tree.1) htree rfl (by simp [Document.starts])
  | step h op ih => exact ih.perform op

end MarkupQuery
