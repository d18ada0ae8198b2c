import MarkupQuery.Document.Removal
import MarkupQuery.Proofs.Tree.Removal

/-!
# Looking up nodes

A node is looked up by walking all spots of all trees. What a lookup finds is described by three
cases (`Document.Lookup`): nothing, a node at the top of a tree, or a node among the children of an
element, which fill a hole in the trees of the document.
-/

namespace MarkupQuery

open MarkupQuery.Text MarkupQuery.Tree MarkupQuery.Query

/-! ## Spots of subtrees -/

/-- Where a node at a spot of some subtrees stands, by what is above the spot. -/
inductive Placed (ns : List Node) (above : List Target) (n : Node) : List Target → Prop
  | top (h : n ∈ ns) : Placed ns above n above
  | inner (h : Hole) (j : NodeId) (t : Tag) (cs : List Node) (rest : List Target) (hn : n ∈ cs)
      (hfill : ns = h.fill cs) : Placed ns above n (.node (.element j t cs) :: rest)

theorem Placed.among {ns : List Node} {above ts : List Target} {n : Node}
    (h : Placed ns above n ts) (left right : List Node) :
    Placed (left ++ ns ++ right) above n ts := by
  cases h with
  | top hn => exact .top (by simp [hn])
  | inner h j t cs rest hn hfill =>
    exact .inner (h.among left right) j t cs rest hn (by rw [Hole.fill_among, hfill])

mutual

/-- What is above a spot of a subtree. -/
theorem placed_of_mem_subtreeSpots {offsets : List Offset} {above : List Target} {m : Node}
    {s : Spot} (hs : s ∈ subtreeSpots offsets above m) :
    ∃ n, s.target = .node n ∧ Placed [m] above n s.above := by
  cases m with
  | element i t cs =>
    rw [subtreeSpots, List.mem_cons] at hs
    rcases hs with rfl | hs
    · exact ⟨_, rfl, .top (by simp)⟩
    · obtain ⟨n, hn, hplaced⟩ := placed_of_mem_subtreesSpots hs
      refine ⟨n, hn, ?_⟩
      generalize s.above = ts at hplaced
      cases hplaced with
      | top hmem => exact .inner (.here [] i t []) i t cs above hmem rfl
      | inner h j u ds rest hmem hfill =>
        exact .inner (.deeper [] i t h []) j u ds rest hmem (by rw [Hole.fill, ← hfill]; rfl)
  | _ =>
    rw [subtreeSpots, List.mem_singleton] at hs
    · subst hs
      exact ⟨_, rfl, .top (by simp)⟩
    · simp

/-- What is above a spot of several subtrees. -/
theorem placed_of_mem_subtreesSpots {offsets : List Offset} {above : List Target} {k : Nat}
    {ns : List Node} {s : Spot} (hs : s ∈ subtreesSpots offsets above k ns) :
    ∃ n, s.target = .node n ∧ Placed ns above n s.above := by
  cases ns with
  | nil => simp [subtreesSpots] at hs
  | cons m ms =>
    rw [subtreesSpots, List.mem_append] at hs
    rcases hs with hs | hs
    · obtain ⟨n, hn, hplaced⟩ := placed_of_mem_subtreeSpots hs
      exact ⟨n, hn, hplaced.among [] ms⟩
    · obtain ⟨n, hn, hplaced⟩ := placed_of_mem_subtreesSpots hs
      exact ⟨n, hn, by simpa using hplaced.among [m] []⟩

end

mutual

/-- Every id of a subtree is that of a node at one of its spots. -/
theorem exists_mem_subtreeSpots (offsets : List Offset) (above : List Target) {n : Node}
    {i : NodeId} (hi : i ∈ n.ids) :
    ∃ s ∈ subtreeSpots offsets above n, ∃ m, s.target = .node m ∧ m.id? = some i := by
  cases n with
  | element j t cs =>
    rw [subtreeSpots]
    rw [Node.ids, List.mem_cons] at hi
    rcases hi with rfl | hi
    · exact ⟨_, List.mem_cons_self, _, rfl, rfl⟩
    · obtain ⟨s, hs, hm⟩ := exists_mem_subtreesSpots offsets (.node (.element j t cs) :: above) 0 hi
      exact ⟨s, List.mem_cons_of_mem _ hs, hm⟩
  | _ =>
    rw [Node.ids, Option.mem_toList] at hi
    · rw [subtreeSpots]
      · exact ⟨_, List.mem_singleton_self _, _, rfl, hi⟩
      · simp
    · simp

/-- Every id of several subtrees is that of a node at one of their spots. -/
theorem exists_mem_subtreesSpots (offsets : List Offset) (above : List Target) (k : Nat)
    {ns : List Node} {i : NodeId} (hi : i ∈ idsAll ns) :
    ∃ s ∈ subtreesSpots offsets above k ns, ∃ m, s.target = .node m ∧ m.id? = some i := by
  cases ns with
  | nil => simp at hi
  | cons n ns =>
    rw [subtreesSpots]
    rw [idsAll_cons, List.mem_append] at hi
    rcases hi with hi | hi
    · obtain ⟨s, hs, hm⟩ := exists_mem_subtreeSpots (.child k :: offsets) above hi
      exact ⟨s, List.mem_append_left _ hs, hm⟩
    · obtain ⟨s, hs, hm⟩ := exists_mem_subtreesSpots offsets above (k + 1) hi
      exact ⟨s, List.mem_append_right _ hs, hm⟩

end

/-! ## Spots of documents -/

/-- The trees of a document, one after the other. -/
def Document.forest (d : Document) : Forest := d.trees.flatten

/-- The ids of all nodes of a document. -/
def Document.ids (d : Document) : List NodeId := idsAll d.forest

/-- What looking up an id finds, and the siblings that go with it. -/
inductive Document.Lookup (d : Document) (i : NodeId) : Option Spot → Option (List Node) → Prop
  | absent (hi : i ∉ d.ids) : d.Lookup i none none
  | top (s : Spot) (n : Node) (hs : s.target = .node n) (hi : n.id? = some i) (hn : n ∈ d.forest) :
      d.Lookup i (some s) none
  | inner (s : Spot) (n : Node) (hs : s.target = .node n) (hi : n.id? = some i) (h : Hole)
      (cs : List Node) (hn : n ∈ cs) (hfill : d.forest = h.fill cs) : d.Lookup i (some s) (some cs)

theorem spotIn_eq_some {f : Forest} {i : NodeId} {s : Spot} (h : spotIn f i = some s) :
    ∃ n, s.target = .node n ∧ n.id? = some i ∧ Placed f [.document f] n s.above := by
  have hmem := List.mem_of_find?_eq_some h
  have hid := List.find?_some h
  obtain ⟨n, hn, hplaced⟩ := placed_of_mem_subtreesSpots hmem
  refine ⟨n, hn, ?_, hplaced⟩
  rw [hn] at hid
  simpa using hid

theorem spotIn_eq_none {f : Forest} {i : NodeId} (h : spotIn f i = none) : i ∉ idsAll f := by
  intro hi
  obtain ⟨s, hs, n, hn, hid⟩ := exists_mem_subtreesSpots [] [.document f] 0 hi
  have hnone := List.find?_eq_none.mp h s hs
  rw [hn] at hnone
  exact hnone (by simp [hid])

/-- Looking up an id finds what there is. -/
theorem Document.lookup (d : Document) (i : NodeId) : d.Lookup i (d.spot? i) (d.siblingsOf? i) := by
  rw [Document.siblingsOf?]
  cases hspot : d.spot? i with
  | none =>
    rw [Document.spot?, List.findSome?_eq_none_iff] at hspot
    refine .absent fun hi => ?_
    obtain ⟨n, hn, hni⟩ := mem_idsAll.mp hi
    obtain ⟨f, hf, hnf⟩ := List.mem_flatten.mp hn
    exact spotIn_eq_none (hspot f hf) (mem_idsAll.mpr ⟨n, hnf, hni⟩)
  | some s =>
    obtain ⟨left, f, right, htrees, hf, -⟩ := List.findSome?_eq_some_iff.mp hspot
    obtain ⟨n, hn, hni, hplaced⟩ := spotIn_eq_some hf
    have hforest : d.forest = left.flatten ++ f ++ right.flatten := by
      rw [Document.forest, htrees]
      simp
    have hplaced := hplaced.among left.flatten right.flatten
    rw [← hforest] at hplaced
    rw [Option.bind_some]
    generalize s.above = ts at hplaced
    cases hplaced with
    | top hmem => exact .top s n hn hni hmem
    | inner h j t cs rest hmem hfill => exact .inner s n hn hni h cs hmem hfill

end MarkupQuery
