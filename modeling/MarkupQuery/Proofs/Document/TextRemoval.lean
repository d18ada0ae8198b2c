import MarkupQuery.Proofs.Document.Finding
import MarkupQuery.Proofs.Document.Rooted
import MarkupQuery.Proofs.Query.Marked
import MarkupQuery.Proofs.Query.Sorted

/-!
# Removing texts together with nodes

Texts are cleared through the node that they were found to follow, or the element that they were found at
the start of. What else goes in the same call changes this: text after a node that goes has joined the text
before that node when its own turn comes, and stays. And all character data between two nodes goes together.
So what is left of a document's text is that of all spots below the root which are not lost
(`Document.Reachable.remove_texts`); these are the spots that were not found, and do not stand in one that
was, if what was found can be told apart (`Separable`).
-/

namespace MarkupQuery

open MarkupQuery.Text MarkupQuery.Tree MarkupQuery.Query

variable {d : Document} {i : NodeId} {m : Mark}

/-! ## Marks of things found -/

/-- The mark that something found is detached by. -/
def Selected.mark? : Selected → Option Mark
  | .node i => some (.node i)
  | .text i isTail _ => some (if isTail then .tail i else .lead i)
  | _ => none

theorem Query.Spot.In.isMade_eq_false {f : Forest} {s : Spot} (hs : s.In f) : s.isMade = false := by
  have hrank : ∀ o ∈ s.offsets, o.rank < 3 := by
    induction hs with
    | top => exact nofun
    | child hs hn ih | label k hs ht ha ih | space k l u hs ih =>
      exact List.forall_mem_cons.mpr ⟨by simp [Offset.child], ih⟩
  rw [Spot.isMade]
  cases hlast : s.offsets.getLast? with
  | none => rfl
  | some o =>
    rw [Option.any_some, beq_eq_false_iff_ne]
    exact (hrank o (List.mem_of_getLast? hlast)).ne

/-- Nodes of the document are detached by the marks of their spots. -/
theorem Found.mark?_name {s : Spot} (hs : s.isMade = false) {n : Node} (hn : s.target = .node n) :
    (Found.spot s).name.mark? = s.mark? := by
  simp only [Found.name, Spot.mark?, hn, hs]
  cases n.id? with
  | some i => rfl
  | none => cases s.textOwner <;> rfl

/-! ## Detaching one mark -/

theorem Tree.Hole.exists_around (h : Hole) (cs : List Node) :
    ∃ n ∈ h.fill cs, idsAll cs ⊆ n.ids ∧ (textContents cs).Sublist n.textContent := by
  induction h with
  | here left i t right =>
    exact ⟨_, List.mem_append_right _ List.mem_cons_self, List.subset_cons_self _ _, .refl _⟩
  | deeper left i t h right ih =>
    obtain ⟨n, hn, hids, htext⟩ := ih
    refine ⟨_, List.mem_append_right _ List.mem_cons_self, fun j hj => ?_, ?_⟩
    · exact List.mem_cons_of_mem _ (mem_idsAll.mpr ⟨n, hn, hids hj⟩)
    · exact htext.trans (textContent_sublist_of_mem hn)

theorem isMarkupText_of_sublist {a b : Chars} (hab : a.Sublist b) (hb : isMarkupText b = true) :
    isMarkupText a = true := by
  rw [isMarkupText, List.all_eq_true] at hb ⊢
  exact fun c hc => hb c (hab.subset hc)

/-- Nodes of new trees come with their ids and texts from one node of the old trees. -/
def Document.Holds (d : Document) (ns : List Node) : Prop :=
  ∀ k ∈ ns, ∃ n ∈ d.forest, k.ids ⊆ n.ids ∧ k.textContent.Sublist n.textContent

/-- What detaching by a mark leads to: the mark is detached in every tree, or some text there may not stand in
a tree. -/
inductive Document.Detached (d : Document) (m : Mark) : Outcome Unit → Prop
  | done {trees : List Forest} {more : List Node} (h : trees.flatten = d.forest.map (·.detach m) ++ more)
      (hmore : d.Holds more) : Detached d m ⟨.ok (), { d with trees }, []⟩
  | stuck {trees : List Forest} {n : Node} (hn : n ∈ d.forest) (hid : m.id ∈ n.ids)
      (htext : isMarkupText n.textContent = false) :
      Detached d m ⟨.error .notMarkupText, { d with trees }, []⟩

theorem Document.Sound.detached_node (hd : d.Sound) (hroot : d.root ≠ some i) :
    d.Detached (.node i) (d.detach (.node i)) := by
  rw [Document.detach_node hroot]
  have htakes := d.takesOut hd.distinct i
  generalize d.takeOutNode i = out at htakes
  cases htakes with
  | top hi =>
    -- a node at the top is left where it is
    have hsame : d.forest.map (·.detach (.node i)) = d.forest := by
      conv_rhs => rw [← List.map_id d.forest]
      refine List.map_congr_left fun n hn => ?_
      exact Node.changeAround_of_not_mem n fun hmem => hi (mem_idsBelow.mpr ⟨n, hn, hmem⟩)
    have hforest : d.trees.flatten = d.forest.map (·.detach (.node i)) ++ [] := by
      rw [hsame, List.append_nil, Document.forest]
    exact .done hforest fun _ hk => absurd hk List.not_mem_nil
  | out h cs n trees hfill hn hid hjoins htrees =>
    obtain ⟨k, hk, hids, htext⟩ := h.exists_around cs
    have hforest : trees.flatten = d.forest.map (·.detach (.node i)) ++ [n.independent] := by
      rw [htrees, changeAroundAll_eq_map]
      rfl
    have hsame : n.independent.textContent = n.textContent := by cases n <;> rfl
    refine .done hforest ?_
    rw [Document.Holds, List.forall_mem_singleton, hfill, Node.ids_independent, hsame]
    exact ⟨k, hk, fun j hj => hids (mem_idsAll.mpr ⟨n, hn, hj⟩), (textContent_sublist_of_mem hn).trans htext⟩
  | stuck h cs n trees hfill hn hid hjoins htrees =>
    obtain ⟨k, hk, hids, htext⟩ := h.exists_around cs
    refine .stuck (hfill ▸ hk) (hids (mem_idsAll.mpr ⟨n, hn, Node.mem_ids_of_id? hid⟩)) ?_
    rw [joins_outlineAll ⟨n, hn, by simp [Node.hasId, hid]⟩, Bool.or_eq_false_iff] at hjoins
    rw [← Bool.not_eq_true]
    intro hall
    have hjoined := isMarkupText_of_sublist ((joined_sublist i cs).trans htext) hall
    rw [hjoins.2] at hjoined
    cases hjoined

theorem Document.detached_text (d : Document) (i : NodeId) (isTail : Bool) (content : Chars) :
    d.Detached (if isTail then .tail i else .lead i) (d.detach (.text i isTail content)) := by
  cases isTail with
  | true =>
    have hforest : (d.changeTrees (changeAroundAll i (clearAfter i))).forest
        = d.forest.map (·.detach (.tail i)) ++ [] := by
      rw [List.append_nil, d.forest_changeAround, changeAroundAll_eq_map]
      rfl
    exact .done hforest fun _ hk => absurd hk List.not_mem_nil
  | false =>
    have hforest : (d.changeTrees (changeAll i Node.clearText)).forest
        = d.forest.map (·.detach (.lead i)) ++ [] := by
      rw [List.append_nil, changeAll_eq_map]
      exact d.forest_changeTrees _
    exact .done hforest fun _ hk => absurd hk List.not_mem_nil

/-- Something found is detached by its mark, if it is not the root. -/
theorem Document.Sound.detached (hd : d.Sound) {x : Selected} (hx : x.mark? = some m)
    (hroot : ∀ i, m = .node i → d.root ≠ some i) : d.Detached m (d.detach x) := by
  cases x with
  | node i =>
    obtain rfl := Option.some.inj hx
    exact hd.detached_node (hroot i rfl)
  | text i isTail content =>
    obtain rfl := Option.some.inj hx
    exact d.detached_text i isTail content
  | _ => cases hx

/-! ## Detaching all marks -/

/-- Some text accounts for that of all trees which hold one of some ids. -/
def Document.TextWithin (d : Document) (ids : List NodeId) (text : Chars) : Prop :=
  ∀ n ∈ d.forest, ∀ i ∈ n.ids, i ∈ ids → n.textContent.Sublist text

theorem Document.TextWithin.of_forest {ids : List NodeId} {text : Chars} (h : d.TextWithin ids text)
    {d' : Document} {more : List Node} (hforest : d'.forest = d.forest.map (·.detach m) ++ more)
    (hmore : d.Holds more) : d'.TextWithin ids text := by
  intro k hk j hj hjids
  rw [hforest, List.mem_append, List.mem_map] at hk
  rcases hk with ⟨n, hn, rfl⟩ | hk
  · have hjn : j ∈ n.ids := (Node.ids_sublist (n.marks_detach_sublist m)).subset hj
    exact (n.textContent_detach_sublist m).trans (h n hn j hjn hjids)
  · obtain ⟨n, hn, hids, htext⟩ := hmore k hk
    exact htext.trans (h n hn j (hids hj) hjids)

/-- Detaching things below the root one after the other detaches their marks in the root's tree, unless its
text may not stand in a tree. -/
theorem Document.Sound.detachAll_marked (hd : d.Sound) {xs : List Selected} {order : List Mark}
    (hmarks : xs.map Selected.mark? = order.map some) {root : Node} (hroot : d.rootNode? = some root)
    (hself : ∀ i, root.id? = some i → .node i ∉ order) {ids : List NodeId} {text : Chars}
    (htext : d.TextWithin ids text) (hids : ∀ m ∈ order, m.id ∈ ids) :
    (∃ d', d.detachAll xs = ⟨.ok (), d', []⟩ ∧ d'.rootNode? = some (order.foldl Node.detach root)) ∨
    (∃ trees, d.detachAll xs = ⟨.error .notMarkupText, { d with trees }, []⟩) ∧
      isMarkupText text = false := by
  induction xs generalizing d root order with
  | nil =>
    obtain rfl : order = [] := List.map_eq_nil_iff.mp hmarks.symm
    exact .inl ⟨d, rfl, hroot⟩
  | cons x xs ih =>
    cases order with
    | nil => cases hmarks
    | cons m order =>
      obtain ⟨hx, hxs⟩ := List.cons.inj hmarks
      obtain ⟨r, hr⟩ := Document.root_of_rootNode? hroot
      obtain ⟨hmem, hid⟩ := (hd.rootNode?_eq_some hr).mp hroot
      rw [List.forall_mem_cons] at hids
      have hnotroot : ∀ i, m = .node i → d.root ≠ some i := by
        rintro i rfl hi
        obtain rfl := Option.some.inj (hr.symm.trans hi)
        exact hself r hid List.mem_cons_self
      have hstep := hd.detached hx hnotroot
      have hsound := hd.detach x
      generalize hout : d.detach x = out at hstep hsound
      cases hstep with
      | @done trees more hforest hmore =>
        -- the root keeps its id, and the next step starts from its tree without the mark
        have hroot' : ({ d with trees } : Document).rootNode? = some (root.detach m) := by
          refine (hsound.rootNode?_eq_some hr).mpr ⟨?_, (root.id?_detach m).trans hid⟩
          rw [Document.forest, hforest]
          exact List.mem_append_left _ (List.mem_map_of_mem hmem)
        rw [Document.detachAll_cons_ok hout]
        refine (ih hsound hxs hroot' (fun i hi => ?_) (htext.of_forest hforest hmore) hids.2)
        exact fun hmem => hself i (by rwa [Node.id?_detach] at hi) (List.mem_cons_of_mem m hmem)
      | @stuck trees n hn hmn hbad =>
        -- the text that could not be joined is part of the text of the root
        refine .inr ⟨⟨trees, Document.detachAll_cons_error hout xs⟩, ?_⟩
        rw [← Bool.not_eq_true]
        intro hall
        rw [isMarkupText_of_sublist (htext n hn m.id hmn hids.1) hall] at hbad
        cases hbad

/-! ## Things found in order -/

theorem foundIn_spots {v : Value} {ss : List Spot} (h : foundIn v = ss.map .spot) (hv : v.Sorted) :
    ss.Pairwise Spot.Before := by
  have hinj : Function.Injective Found.spot := fun _ _ => Found.spot.inj
  cases v with
  | spots ts =>
    rw [← hinj.list_map h]
    exact (Value.Sorted.spots.mp hv).filter _
  | _ =>
    cases ss with
    | nil => cases h
    | cons s ss => cases (List.cons.inj h).1

/-- The spots that a selector finds stand in document order. -/
theorem Document.sorted_of_find {selector : String} {ss : List Spot}
    (hfind : d.find selector = .ok (ss.map .spot)) : ss.Pairwise Spot.Before := by
  have hfinds := Document.finds_of_find hfind
  generalize hfound : ss.map Found.spot = found at hfinds
  cases hfinds with
  | nothing => exact List.map_eq_nil_iff.mp hfound ▸ .nil
  | root =>
    obtain ⟨t, rfl, -⟩ := List.map_eq_singleton_iff.mp hfound
    exact List.pairwise_singleton _ t
  | given _ _ hv =>
    refine foundIn_spots hfound.symm ?_
    rw [Query.run] at hv
    split at hv
    · cases hv
    · exact Value.Sorted.evaluate _ hv

theorem childSpots_sublist (offsets : List Offset) (above : List Target) (i : Nat) (ns : List Node) :
    (childSpots offsets above i ns).Sublist (subtreesSpots offsets above i ns) := by
  induction ns generalizing i with
  | nil => exact .slnil
  | cons n ns ih =>
    have hhead : [⟨.node n, .child i :: offsets, above⟩].Sublist (subtreeSpots (.child i :: offsets) above n) := by
      rw [List.singleton_sublist]
      cases n <;> exact List.mem_cons_self
    exact hhead.append (ih (i + 1))

/-- The children of a spot are some of those below it. -/
theorem Query.Spot.children_sublist (s : Spot) : s.children.Sublist s.descendants := childSpots_sublist ..

/-- All children of the root are found by asking for nodes, if they are no references. -/
theorem Document.find_children (htranslator : d.translator = .path) {c : QueryContext}
    (hcontext : d.context = some c) {s : Spot} (hs : d.spot? c.root = some s)
    (hnodes : ∀ t ∈ s.children, NodeKind.node.holds t.target = true) :
    d.find "node()" = .ok (s.children.map .spot) := by
  have hhere : evaluate .here { spot := s, spaces := c.spaces, kind := d.kind : Context } = .ok (.spots [s]) := by
    rw [evaluate]
  have hstep := evaluate_step hhere .child (.kind .node) rfl
  have hread : Query.read "node()".toList = .ok (.step .here .child (.kind .node) []) := by
    with_unfolding_all rfl
  have hspots : ((Axis.child.spots s).filter fun t => (NodeTest.kind .node).holds .child none t.target)
      = s.children := List.filter_eq_self.mpr hnodes
  have horder : inOrder s.children = s.children := inOrder_of_perm (.refl _) (sorted_childSpots ..)
  rw [List.flatMap_singleton, hspots, horder] at hstep
  have hrun : Query.run d.kind c.spaces s "node()".toList = .ok (.spots s.children) := by
    rw [Query.run, hread]
    exact hstep
  have hconvert : d.translator.convert "node()" = .ok "node()" := by rw [htranslator]; rfl
  rw [Document.find_of_run hconvert hcontext (by decide) hs (by decide) hrun, foundIn_of_no_document]
  intro t ht ns hns
  obtain ⟨k, n, -, rfl⟩ := mem_childSpots ht
  cases hns

/-! ## Removing -/

/-- The marks that some spots are detached by. -/
def isMarkOf (ss : List Spot) (m : Mark) : Bool := (ss.filterMap Spot.mark?).contains m

variable {ss : List Spot}

theorem isMarkOf_eq_true : isMarkOf ss m = true ↔ ∃ u ∈ ss, u.mark? = some m := by
  rw [isMarkOf, List.contains_iff_mem, List.mem_filterMap]

/-- Spots below an element are detached in the order of its marks, and it is not among them. -/
theorem order_of_sublist {s : Spot} {j : NodeId} {t : Tag} {cs : List Node}
    (hs : s.target = .node (.element j t cs)) (hnodup : (Node.element j t cs).ids.Nodup)
    (hss : ss.Sublist s.descendants) :
    (ss.filterMap Spot.mark?).Pairwise (fun a b => ¬[b, a].Sublist (Node.element j t cs).marks) ∧
    ∀ m ∈ ss.filterMap Spot.mark?, m = .lead j ∨ m ∈ marksAll cs := by
  have hmarked := marked_descendants hs
  constructor
  · refine List.pairwise_filterMap.mpr ((hmarked.sorted.sublist hss).imp fun hab a ha b hb => ?_)
    refine not_sublist_swap (Node.nodup_marks hnodup) ((hab a b ha hb).imp_right fun h => ?_)
    exact h.trans (List.sublist_cons_self _ _)
  · intro m hm
    obtain ⟨u, hu, hum⟩ := List.mem_filterMap.mp hm
    obtain ⟨m', hm', hum'⟩ := hmarked.marked u (hss.subset hu)
    obtain rfl := Option.some.inj (hum'.symm.trans hum)
    exact List.mem_cons.mp hm'

/-- An element is not below itself. -/
theorem ne_of_below {r : NodeId} {tag : Tag} {cs : List Node} (hnodup : (Node.element r tag cs).ids.Nodup)
    (hm : m = .lead r ∨ m ∈ marksAll cs) : m ≠ .node r ∧ m ≠ .tail r := by
  rw [Node.ids, List.nodup_cons] at hnodup
  have hother (k : Mark) (hk : k.id = r) (hlead : k ≠ .lead r) : m ≠ k := by
    rintro rfl
    exact hnodup.1 (hk ▸ id_mem_idsAll_of_mem_marksAll (hm.resolve_left hlead))
  exact ⟨hother _ rfl (by simp), hother _ rfl (by simp)⟩

/-- The root and its spot. -/
theorem Document.Reachable.root_cases (hd : d.Reachable) {root : Node} (hroot : d.rootNode? = some root)
    {s : Spot} (hspot : d.rootSpot? = some s) :
    ∃ r tag cs f g, root = .element r tag cs ∧ root ∈ d.forest ∧ s.target = .node root ∧
      s.above = [.document f] ∧ s.In g := by
  obtain ⟨helement, s', f, hspot', htarget, habove⟩ := hd.rootSpot hroot
  obtain rfl := Option.some.inj (hspot.symm.trans hspot')
  obtain ⟨r, hr⟩ := Document.root_of_rootNode? hroot
  obtain ⟨hmem, hid⟩ := (hd.sound.rootNode?_eq_some hr).mp hroot
  rw [Document.rootSpot?, hr] at hspot
  obtain ⟨g, -, -, hin⟩ := spot?_eq_some hspot
  cases root with
  | element j tag cs => exact ⟨j, tag, cs, f, g, rfl, hmem, htarget, habove, hin⟩
  | _ => cases helement

/-- Spots of a document are detached by their marks. -/
theorem marks_of_found {f : Forest} {all : List Spot} {marks : List Mark} (hin : ∀ u ∈ all, u.In f)
    (hmarked : ∀ u ∈ all, ∃ m ∈ marks, u.mark? = some m) (hss : ss ⊆ all) :
    ((ss.map Found.spot).map Found.name).map Selected.mark? = (ss.filterMap Spot.mark?).map some := by
  have hsome : ∀ u ∈ ss, u.mark?.isSome = true := by
    intro u hu
    obtain ⟨m, -, hm⟩ := hmarked u (hss hu)
    rw [hm]
    rfl
  have hname : ∀ u ∈ ss, (Found.spot u).name.mark? = u.mark? := by
    intro u hu
    cases hn : u.target with
    | node n => exact Found.mark?_name (hin u (hss hu)).isMade_eq_false hn
    | _ => exact absurd (hsome u hu) (by simp [Spot.mark?, hn])
  have hall : ss.filter ((fun b => b.isSome) ∘ Spot.mark?) = ss := List.filter_eq_self.mpr hsome
  rw [List.map_filterMap_some_eq_filter_map_isSome, List.map_map, List.map_map, List.filter_map, hall]
  exact List.map_congr_left hname

/-- Spots that are detached without regard to what else is found: no text right after a node that is found
as well, and all character data between two nodes or none. -/
structure Separable (ss all : List Spot) : Prop where
  apart : ∀ u ∈ ss, ∀ i, u.mark? = some (.tail i) → ∀ v ∈ ss, v.target.id? ≠ some i
  whole : ∀ u ∈ ss, u.target.id? = none → ∀ t ∈ all, t.mark? = u.mark? → t ∈ ss

/-- What is lost was found, or stands in something that was. -/
theorem Separable.found_of_isLost {s t : Spot} (hseparable : Separable ss s.descendants)
    (hnodup : (idsAll s.target.children).Nodup) (hbelow : ss ⊆ s.descendants)
    (hstays : ((s.target :: s.above).any fun a => a.id?.any fun i => isMarkOf ss (.node i)) = false)
    (ht : t ∈ s.descendants) (hlost : t.isLost (isMarkOf ss) = true) :
    t ∈ ss ∨ ∃ u ∈ ss, t ∈ u.descendants := by
  rw [Spot.isLost, Bool.or_eq_true] at hlost
  rcases hlost with hgone | hcleared
  · -- a node above that goes is the root, which stays, or stands at a spot that is detached
    obtain ⟨a, ha, hgone⟩ := List.any_eq_true.mp hgone
    obtain ⟨i, hi, hmark⟩ := (Option.any_eq_true ..).mp hgone
    obtain ⟨u, hu, hui⟩ := isMarkOf_eq_true.mp hmark
    rw [Spot.mark?_eq_node] at hui
    rcases List.mem_cons.mp ha with rfl | ha
    · exact .inl (eq_of_id?_descendants hnodup ht (hbelow hu) hi hui ▸ hu)
    · rcases inside_of_mem_subtreesSpots ht ha with ha | ⟨v, hv, rfl, htv⟩
      · rw [List.any_eq_false] at hstays
        exact absurd hgone (hstays a ha)
      · obtain rfl := eq_of_id?_descendants hnodup hv (hbelow hu) hi hui
        exact .inr ⟨v, hu, htv⟩
  · obtain ⟨m, hm, hcleared⟩ := (Option.any_eq_true ..).mp hcleared
    have hmark : isMarkOf ss m = true ∧ ∀ i, m ≠ .node i := by
      cases m with
      | node i => cases hcleared
      | lead i => exact ⟨hcleared, nofun⟩
      | tail i => exact ⟨((Bool.and_eq_true _ _).mp hcleared).1, nofun⟩
    obtain ⟨u, hu, hum⟩ := isMarkOf_eq_true.mp hmark.1
    refine .inl (hseparable.whole u hu ?_ t ht (hm.trans hum.symm))
    rw [← Option.not_isSome_iff_eq_none, Option.isSome_iff_exists]
    rintro ⟨i, hi⟩
    exact hmark.2 i (Option.some.inj (hum.symm.trans (Spot.mark?_eq_node.mpr hi)))

/-- What was found is lost, be it a node or text. -/
theorem Separable.isLost_of_found {all : List Spot} {t : Spot} (hseparable : Separable ss all) (ht : t ∈ ss)
    (hm : t.mark? = some m) : t.isLost (isMarkOf ss) = true := by
  have hmark : isMarkOf ss m = true := isMarkOf_eq_true.mpr ⟨t, ht, hm⟩
  rw [Spot.isLost, Bool.or_eq_true]
  cases m with
  | node i =>
    have hi := Spot.mark?_eq_node.mp hm
    exact .inl (List.any_eq_true.mpr ⟨t.target, List.mem_cons_self, by rw [hi]; exact hmark⟩)
  | lead i => exact .inr (by rw [hm]; exact hmark)
  | tail i =>
    -- the node that the text follows stays, so that the text is still its own
    have hnode : isMarkOf ss (.node i) = false := by
      rw [← Bool.not_eq_true, isMarkOf_eq_true]
      rintro ⟨v, hv, hvi⟩
      exact hseparable.apart t ht i hm v hv (Spot.mark?_eq_node.mp hvi)
    refine .inr ?_
    rw [hm, Option.any_some, Mark.isCleared, hmark, hnode]
    rfl

/-- What stands in something that was found is lost with it. -/
theorem isLost_of_inside {s t u : Spot} (hu : u ∈ ss) (hus : u ∈ s.descendants) (htu : t ∈ u.descendants) :
    t.isLost (isMarkOf ss) = true := by
  obtain ⟨n, hn, -⟩ := placed_of_mem_subtreesSpots hus
  have hmem := above_of_mem_subtreesSpots htu u.target List.mem_cons_self
  obtain ⟨i, hi⟩ : ∃ i, u.target.id? = some i := by
    rw [hn]
    cases n with
    | element i t cs => exact ⟨i, rfl⟩
    | _ =>
      rw [Spot.descendants, hn] at htu
      cases htu
  have hmark : isMarkOf ss (.node i) = true := isMarkOf_eq_true.mpr ⟨u, hu, Spot.mark?_eq_node.mpr hi⟩
  rw [Spot.isLost, Bool.or_eq_true]
  refine .inl (List.any_eq_true.mpr ⟨u.target, List.mem_cons_of_mem _ hmem, ?_⟩)
  rw [hi]
  exact hmark

/-- If what is detached can be told apart, what is lost is that and what stands in it. -/
theorem Separable.isLost_iff {s : Spot} {j : NodeId} {tag : Tag} {cs : List Node}
    (hseparable : Separable ss s.descendants) (hs : s.target = .node (.element j tag cs))
    (hnodup : (Node.element j tag cs).ids.Nodup) (hbelow : ss ⊆ s.descendants)
    (hstays : ((s.target :: s.above).any fun a => a.id?.any fun i => isMarkOf ss (.node i)) = false)
    {t : Spot} (ht : t ∈ s.descendants) :
    t.isLost (isMarkOf ss) = true ↔ t ∈ ss ∨ ∃ u ∈ ss, t ∈ u.descendants := by
  have hnodup : (idsAll s.target.children).Nodup := by
    rw [Node.ids, List.nodup_cons] at hnodup
    rw [hs]
    exact hnodup.2
  refine ⟨hseparable.found_of_isLost hnodup hbelow hstays ht, ?_⟩
  rintro (htss | ⟨u, hu, htu⟩)
  · obtain ⟨m, -, hm⟩ := (marked_descendants hs).marked t ht
    exact hseparable.isLost_of_found htss hm
  · exact isLost_of_inside hu (hbelow hu) htu

/-- Removing what a selector finds below the root leaves of the root's text that of all spots below it which
are not lost: those that stand in no node that was found, and whose character data was not found or directly
follows a node that was. Removing fails only if there is text that may not stand in a tree. If what was found
can be told apart, exactly the spots that were found and those in them are lost. -/
theorem Document.Reachable.remove_texts (hd : d.Reachable) {root : Node} (hroot : d.rootNode? = some root)
    {s : Spot} (hspot : d.rootSpot? = some s) {selector : String}
    (hfind : d.find selector = .ok (ss.map .spot)) (hbelow : ss ⊆ s.descendants) :
    (((d.remove selector).result = .ok () ∧ ∃ root', (d.remove selector).document.rootNode? = some root' ∧
        root'.textContent = textOfKept (isMarkOf ss) s.descendants) ∨
      ((d.remove selector).result = .error .notMarkupText ∧ isMarkupText root.textContent = false)) ∧
    (Separable ss s.descendants → ∀ t ∈ s.descendants,
      (t.isLost (isMarkOf ss) = true ↔ t ∈ ss ∨ ∃ u ∈ ss, t ∈ u.descendants)) := by
  obtain ⟨r, tag, cs, f, g, rfl, hmem, htarget, habove, hin⟩ := hd.root_cases hroot hspot
  have hnodup : (Node.element r tag cs).ids.Nodup := nodup_ids_of_mem hd.sound.distinct hmem
  obtain ⟨hinorder, hmarks⟩ := order_of_sublist htarget hnodup
    (sublist_of_sorted (Document.sorted_of_find hfind) s.sorted_descendants hbelow)
  have hnotroot := fun m hm => ne_of_below hnodup (hmarks m hm)
  have hstays : ((s.target :: s.above).any fun a => a.id?.any fun i => isMarkOf ss (.node i)) = false := by
    have hr : isMarkOf ss (.node r) = false := by
      rw [isMarkOf, List.contains_eq_mem, decide_eq_false_iff_not]
      exact fun hmem => (hnotroot _ hmem).1 rfl
    rw [htarget, habove]
    simpa [Target.id?, Node.id?] using hr
  refine ⟨?_, fun hseparable t ht => hseparable.isLost_iff htarget hnodup hbelow hstays ht⟩
  -- what was found is detached by its marks, and they come in order
  have hnames := marks_of_found hin.descendants (marked_descendants htarget).marked hbelow
  have hself : ∀ i, (Node.element r tag cs).id? = some i →
      Mark.node i ∉ ss.filterMap Spot.mark? ∧ .tail i ∉ ss.filterMap Spot.mark? := by
    rintro i hi
    obtain rfl := Option.some.inj hi
    exact ⟨fun h => (hnotroot _ h).1 rfl, fun h => (hnotroot _ h).2 rfl⟩
  have htext : d.TextWithin (Node.element r tag cs).ids (textContents cs) := by
    intro n hn i hi hir
    rw [eq_of_mem_ids hd.sound.distinct hn hmem hi hir]
    exact .refl _
  have hids : ∀ m ∈ ss.filterMap Spot.mark?, m.id ∈ (Node.element r tag cs).ids := by
    intro m hm
    rcases hmarks m hm with rfl | hm
    · exact List.mem_cons_self
    · exact List.mem_cons_of_mem _ (id_mem_idsAll_of_mem_marksAll hm)
  obtain ⟨hresult, hdocument⟩ := Document.remove_of_find hfind
  rw [hresult, hdocument]
  rcases hd.sound.detachAll_marked hnames hroot (fun i hi => (hself i hi).1) htext hids
    with ⟨d', hd', hroot'⟩ | ⟨⟨trees, hd'⟩, hbad⟩ <;> rw [hd']
  · refine .inl ⟨rfl, _, hroot', ?_⟩
    rw [Node.textContent_foldl_detach (Node.element r tag cs).marks rfl hnodup hself (.refl _) hinorder]
    exact textLeft_eq_textOfKept_descendants htarget hstays
  · exact .inr ⟨rfl, hbad⟩

/-- All children of the root go, but the text right after the first element stays. -/
theorem remove_texts_children :
    ∃ d root s root', (Opening.run
        { markup := .text (codePoints "<r>a<b>x</b>c<d/></r>".toList), kind := .int 1 }).1 = .ok d ∧
      d.rootNode? = some root ∧ d.rootSpot? = some s ∧ d.find "node()" = .ok (s.children.map .spot) ∧
      s.children ⊆ s.descendants ∧ (d.remove "node()").document.rootNode? = some root' ∧
      root'.textContent = textOfKept (isMarkOf s.children) s.descendants ∧ root'.textContent = ['c'] := by
  obtain ⟨d, hopen, htest⟩ : ∃ d, (Opening.run
      { markup := .text (codePoints "<r>a<b>x</b>c<d/></r>".toList), kind := .int 1 }).1 = .ok d ∧
      (d.translator == .path && d.context.any fun c => (d.rootNode?.any fun n => isMarkupText n.textContent) &&
        (d.root == some c.root) && d.rootSpot?.any fun s =>
          (s.children.all fun t => NodeKind.node.holds t.target) &&
            textOfKept (isMarkOf s.children) s.descendants == ['c']) = true :=
    Opening.exists_of_gives (by decide +kernel)
  simp only [Bool.and_eq_true, beq_iff_eq, Option.any_eq_true, List.all_eq_true] at htest
  obtain ⟨htranslator, c, hcontext, ⟨⟨root, hroot, htext⟩, hc⟩, s, hspot, hnodes, hkept⟩ := htest
  have hs : d.spot? c.root = some s := by rwa [Document.rootSpot?, hc] at hspot
  have hfind := Document.find_children htranslator hcontext hs hnodes
  have hbelow := s.children_sublist.subset
  rcases ((Document.Reachable.opened hopen).remove_texts hroot hspot hfind hbelow).1
    with ⟨-, root', hroot', htext'⟩ | ⟨-, hbad⟩
  · exact ⟨d, root, s, root', hopen, hroot, hspot, hfind, hbelow, hroot', htext', htext'.trans hkept⟩
  · rw [htext] at hbad
    cases hbad

/-- The text right after an element is found with it, but stays when both are removed. -/
theorem remove_keeps_found_text :
    ∃ d s root', (Opening.run
        { markup := .text (codePoints "<r><b/>c</r>".toList), kind := .int 1 }).1 = .ok d ∧
      d.rootSpot? = some s ∧ d.find "node()" = .ok (s.children.map .spot) ∧
      (∀ t ∈ s.descendants, t ∈ s.children) ∧ (d.remove "node()").result = .ok () ∧
      (d.remove "node()").document.rootNode? = some root' ∧ root'.textContent = ['c'] := by
  obtain ⟨d, hopen, htest⟩ : ∃ d, (Opening.run
      { markup := .text (codePoints "<r><b/>c</r>".toList), kind := .int 1 }).1 = .ok d ∧
      (d.translator == .path && d.context.any fun c => (d.root == some c.root) && d.rootSpot?.any fun s =>
        (s.children.all fun t => NodeKind.node.holds t.target) &&
        s.children.length == s.descendants.length &&
        let out := d.detachAll ((s.children.map Found.spot).map Found.name)
        out.result.isOk && out.document.rootNode?.any fun n => n.textContent == ['c']) = true :=
    Opening.exists_of_gives (by decide +kernel)
  simp only [Bool.and_eq_true, beq_iff_eq, Option.any_eq_true, List.all_eq_true] at htest
  obtain ⟨htranslator, c, hcontext, hc, s, hspot, ⟨hnodes, hall⟩, hok, root', hroot', htext⟩ := htest
  have hs : d.spot? c.root = some s := by rwa [Document.rootSpot?, hc] at hspot
  have hfind := Document.find_children htranslator hcontext hs hnodes
  obtain ⟨hresult, hdocument⟩ := Document.remove_of_find hfind
  rw [← hdocument] at hroot'
  have hresult' : (d.remove "node()").result = .ok () := by
    rw [hresult]
    generalize (d.detachAll _).result = r at hok
    cases r with
    | ok u => rfl
    | error e => cases hok
  have hsame := s.children_sublist.eq_of_length hall
  exact ⟨d, s, root', hopen, hspot, hfind, fun t ht => hsame ▸ ht, hresult', hroot', htext⟩

end MarkupQuery
