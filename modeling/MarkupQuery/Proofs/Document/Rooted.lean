import MarkupQuery.Proofs.Document.Removal

/-!
# Roots of documents

The root of a reachable document is an element that stands at the top of a tree, below nothing but the
document itself (`Document.Reachable.rootSpot`).
-/

namespace MarkupQuery

open MarkupQuery.Text MarkupQuery.Tree MarkupQuery.Query

/-- A document whose root is an element at the top of a tree. -/
def Document.Rooted (d : Document) : Prop :=
  ∀ r, d.root = some r → ∃ n ∈ d.forest, n.id? = some r ∧ n.isElement = true

variable {d d' : Document}

/-- A change that keeps ids and elements at the top keeps the root. -/
theorem Document.Rooted.of_top (hd : d.Rooted) (hroot : d'.root = d.root ∨ d'.root = none)
    (htop : ∀ n ∈ d.forest, ∃ n' ∈ d'.forest, n'.id? = n.id? ∧ n'.isElement = n.isElement) :
    d'.Rooted := by
  intro r hr
  rcases hroot with hsame | hnone
  · obtain ⟨n, hn, hid, helement⟩ := hd r (hsame ▸ hr)
    obtain ⟨n', hn', hid', helement'⟩ := htop n hn
    exact ⟨n', hn', hid'.trans hid, helement'.trans helement⟩
  · rw [hnone] at hr
    cases hr

theorem Document.Rooted.of_trees (hd : d.Rooted) (htrees : d'.trees = d.trees)
    (hroot : d'.root = d.root ∨ d'.root = none) : d'.Rooted :=
  hd.of_top hroot fun n hn => ⟨n, by rwa [Document.forest, htrees], rfl, rfl⟩

/-! ## Parsing -/

/-- The root that a parse finds is an element at the top. -/
theorem withRoot_eq_some {f g : Forest} {r : NodeId} (h : withRoot g = some (f, r)) :
    g = f ∧ ∃ n ∈ f, n.id? = some r ∧ n.isElement = true := by
  rw [withRoot, Option.map_eq_some_iff] at h
  obtain ⟨i, hi, hgf⟩ := h
  obtain ⟨rfl, rfl⟩ := Prod.mk.inj hgf
  obtain ⟨n, hn, hid⟩ := Option.bind_eq_some_iff.mp hi
  exact ⟨rfl, n, List.mem_of_find?_eq_some hn, hid, List.find?_some hn⟩

theorem Document.element_parse {m : CodePoints} {f : Forest} {r : NodeId}
    (h : (d.parse m).tree = some (f, r)) : ∃ n ∈ f, n.id? = some r ∧ n.isElement = true := by
  unfold Document.parse parseMarkup at h
  split at h
  · rw [parseHtml] at h
    dsimp only at h
    exact (withRoot_eq_some h).2
  · rw [parseXml] at h
    dsimp only at h
    split at h
    · cases h
    · exact (withRoot_eq_some h).2

/-- What is taken in may be installed. -/
theorem Document.rooted_take {m : CodePoints} {f : Forest} {r : NodeId}
    (h : (d.parse m).tree = some (f, r)) (hroot : d'.root = some r)
    (htrees : d'.trees = (d.take (d.parse m)).trees) : d'.Rooted := by
  intro i hi
  obtain rfl := Option.some.inj (hroot.symm.trans hi)
  obtain ⟨n, hn, hn'⟩ := Document.element_parse h
  refine ⟨n, ?_, hn'⟩
  rw [Document.forest, htrees, Document.take, h]
  exact List.mem_flatten.mpr ⟨f, by simp, hn⟩

/-! ## Detaching -/

theorem Node.isElement_change {i : NodeId} {f : Node → Node}
    (hf : ∀ n, (f n).isElement = n.isElement) (n : Node) :
    (n.change i f).isElement = n.isElement := by
  cases n with
  | element j t cs =>
    rw [Node.change]
    split
    · exact hf _
    · rfl
  | _ =>
    simp only [Node.change]
    split
    · exact hf _
    · rfl

theorem Node.isElement_changeAround (i : NodeId) (f : List Node → List Node) (n : Node) :
    (n.changeAround i f).isElement = n.isElement := by
  cases n <;> rfl

theorem Document.Rooted.map (hd : d.Rooted) {f : Node → Node} (hid : ∀ n, (f n).id? = n.id?)
    (helement : ∀ n, (f n).isElement = n.isElement) (more : List Node) {trees : List Forest}
    (htrees : trees.flatten = d.forest.map f ++ more) : ({ d with trees } : Document).Rooted := by
  refine hd.of_top (.inl rfl) fun n hn => ⟨f n, ?_, hid n, helement n⟩
  rw [Document.forest, htrees]
  exact List.mem_append_left more (List.mem_map_of_mem hn)

theorem Document.Rooted.changeAround (hd : d.Rooted) (i : NodeId) {f : List Node → List Node}
    (more : List Node) {trees : List Forest}
    (htrees : trees.flatten = changeAroundAll i f d.forest ++ more) :
    ({ d with trees } : Document).Rooted := by
  rw [changeAroundAll_eq_map] at htrees
  exact hd.map (Node.id?_changeAround i f) (Node.isElement_changeAround i f) more htrees

theorem Document.Rooted.change (hd : d.Rooted) (i : NodeId) {f : Node → Node}
    (hid : ∀ n, (f n).id? = n.id?) (helement : ∀ n, (f n).isElement = n.isElement) :
    (d.changeTrees (changeAll i f)).Rooted := by
  rw [changeAll_eq_map]
  refine hd.map (f := Node.change i f) (Node.id?_change hid) (Node.isElement_change helement) [] ?_
  rw [List.append_nil, ← Document.forest_changeTrees]
  rfl

theorem Document.Rooted.detach (hd : d.Rooted) (hsound : d.Sound) (s : Selected) :
    (d.detach s).document.Rooted := by
  match s with
  | .node i =>
    rw [Document.detach]
    split
    · exact hd.of_trees rfl (.inr rfl)
    · have htakes := d.takesOut hsound.distinct i
      generalize d.takeOutNode i = out at htakes
      cases htakes with
      | top hi => exact hd
      | out h cs n trees hfill hn hi hjoins htrees => exact hd.changeAround i _ htrees
      | stuck h cs n trees hfill hn hi hjoins htrees =>
        exact hd.changeAround i [] (htrees.trans (List.append_nil _).symm)
  | .text owner true _ =>
    refine hd.changeAround owner (f := clearAfter owner) [] ?_
    rw [List.append_nil, ← d.forest_changeAround]
    rfl
  | .text owner false _ =>
    exact hd.change owner (fun n => by cases n <;> rfl) fun n => by cases n <;> rfl
  | .attribute owner name _ =>
    exact hd.change owner (fun n => by cases n <;> rfl) fun n => by cases n <;> rfl
  | .space .. | .scalar _ | .loose _ => exact hd

theorem Document.Rooted.detachAll (hd : d.Rooted) (hsound : d.Sound) (ss : List Selected) :
    (d.detachAll ss).document.Rooted := by
  induction ss generalizing d with
  | nil => exact hd
  | cons s ss ih =>
    rw [Document.detachAll]
    split
    · exact ih (hd.detach hsound s) (hsound.detach s)
    · exact hd.detach hsound s

/-! ## Histories -/

/-- Every operation keeps the root an element at the top. -/
theorem Document.Rooted.perform (hd : d.Rooted) (hsound : d.Sound) (op : Operation) :
    (d.perform op).document.Rooted := by
  have hchanges := d.perform_changes op
  generalize (d.perform op).document = d' at hchanges
  cases hchanges with
  | same => exact hd
  | translated => exact hd
  | registered label name out h => cases h <;> exact hd.of_trees rfl (.inl rfl)
  | removed s ss => exact hd.detachAll hsound ss
  | detached h => exact hd.detach hsound h.selected
  | replaced p r out hout h =>
    cases h with
    | failed f log h => exact hd
    | done parsed root spaces log h hspaces =>
      obtain ⟨m, f, rfl, htree⟩ := Document.reparsed_some h
      exact Document.rooted_take htree rfl rfl
    | refused parsed root f log h hspaces =>
      obtain ⟨m, f, rfl, htree⟩ := Document.reparsed_some h
      exact Document.rooted_take htree rfl rfl
  | closed => exact hd.of_trees rfl (.inr rfl)

/-- The root of a reachable document is an element at the top of a tree. -/
theorem Document.Reachable.rooted (h : d.Reachable) : d.Rooted := by
  induction h with
  | opened h =>
    obtain ⟨d₀, m, hsettle, hinstalls⟩ := Opening.run_ok h
    cases htree : (d₀.parse m).tree with
    | none =>
      rw [htree, Option.map_none] at hinstalls
      cases hinstalls
      exact nofun
    | some tree =>
      rw [htree, Option.map_some] at hinstalls
      cases hinstalls
      exact Document.rooted_take (f := tree.1) htree rfl rfl
  | step h op ih => exact ih.perform h.sound op

/-! ## The spot of the root -/

/-- The root stands below nothing but the document. -/
theorem Document.Reachable.rootSpot (h : d.Reachable) {n : Node} (hroot : d.rootNode? = some n) :
    n.isElement = true ∧ ∃ s f, d.rootSpot? = some s ∧ s.target = .node n ∧
      s.above = [.document f] := by
  obtain ⟨r, hr⟩ := Document.root_of_rootNode? hroot
  obtain ⟨hn, hid⟩ := (h.sound.rootNode?_eq_some hr).mp hroot
  constructor
  · obtain ⟨m, hm, hmi, helement⟩ := h.rooted r hr
    rw [eq_of_mem_ids h.sound.distinct hn hm (Node.mem_ids_of_id? hid) (Node.mem_ids_of_id? hmi)]
    exact helement
  · rw [Document.rootNode?] at hroot
    obtain ⟨s, hs, htarget⟩ := Option.bind_eq_some_iff.mp hroot
    refine ⟨s, ?_⟩
    have hspot := hs
    rw [Document.rootSpot?, hr, Option.bind_some, Document.spot?] at hspot
    obtain ⟨left, f, right, htrees, hf, -⟩ := List.findSome?_eq_some_iff.mp hspot
    obtain ⟨m, hm, hmi, hplaced⟩ := spotIn_eq_some hf
    rw [hm] at htarget
    obtain rfl := Option.some.inj htarget
    refine ⟨f, hs, hm, ?_⟩
    generalize s.above = ts at hplaced
    cases hplaced with
    | top => rfl
    | inner h' j t cs rest hmem hfill =>
      -- ids are distinct, so what stands at the top does not stand in an element as well
      refine absurd ?_ (h.sound.nodup_top hn hid)
      have hbelow : r ∈ idsBelow f := by
        rw [hfill, (idsBelow_fill h' cs).mem_iff]
        exact List.mem_append_left _ (mem_idsAll.mpr ⟨m, hmem, Node.mem_ids_of_id? hid⟩)
      obtain ⟨k, hk, hrk⟩ := mem_idsBelow.mp hbelow
      exact mem_idsBelow.mpr ⟨k, List.mem_flatten.mpr ⟨f, by rw [htrees]; simp, hk⟩, hrk⟩

end MarkupQuery
