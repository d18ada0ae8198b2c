import MarkupQuery.Tree.Basic

/-!
# Spots of a document

A spot is a node together with the way to it from the top: the nodes above it and the positions on
the way. Besides the nodes of the tree there are the document itself, attributes and namespaces. From a
spot every axis is a list of spots, nearest first. Spots are ordered like the document: what stands
above before what stands below it, and of one element its namespaces before its attributes before its
children.
-/

namespace MarkupQuery.Query

open MarkupQuery.Text MarkupQuery.Tree

/-! ## Positions -/

/-- Where a spot is relative to what is directly above it: among the namespaces (rank zero), the
attributes (rank one) or the children (rank two), and at which index. -/
structure Offset where
  rank : Nat
  index : Nat
  deriving DecidableEq, Repr

/-- The offset of a child. -/
def Offset.child (i : Nat) : Offset := ⟨2, i⟩

/-- The order of two positions, both given from the top: what is above comes first. -/
def comparePositions : List Offset → List Offset → Ordering
  | [], [] => .eq
  | [], _ :: _ => .lt
  | _ :: _, [] => .gt
  | a :: as, b :: bs =>
      match compare a.rank b.rank, compare a.index b.index with
      | .eq, .eq => comparePositions as bs
      | .eq, o => o
      | o, _ => o

/-! ## Spots -/

/-- What is at a spot. -/
inductive Target where
  | document (nodes : List Node)
  | node (n : Node)
  | attribute (owner : NodeId) (a : Attribute)
  | space (label : Option Chars) (name : Chars)
  deriving Repr, Inhabited

/-- A spot. -/
structure Spot where
  target : Target
  /-- The offsets on the way to it, the last first. -/
  offsets : List Offset
  /-- What is above it, the nearest first. -/
  above : List Target
  deriving Repr, Inhabited

/-- The offsets from the top. -/
def Spot.position (s : Spot) : List Offset := s.offsets.reverse

/-- Whether two spots of one document are the same. -/
def Spot.same (a b : Spot) : Bool := a.offsets == b.offsets

/-- The spot of a whole document. -/
def Spot.top (d : List Node) : Spot := ⟨.document d, [], []⟩

/-- The children of what is at a spot. -/
def Target.children : Target → List Node
  | .document d => d
  | .node n => n.children
  | _ => []

/-- The start tag of an element. -/
def Target.tag? : Target → Option Tag
  | .node (.element _ t _) => some t
  | _ => none

/-- Whether a target is a node of the tree. -/
def Target.isNode : Target → Bool
  | .node _ => true
  | _ => false

/-! ## Subtrees -/

mutual

/-- The spots of a subtree in document order. -/
def subtreeSpots (offsets : List Offset) (above : List Target) : Node → List Spot
  | .element i t cs =>
      ⟨.node (.element i t cs), offsets, above⟩ ::
        subtreesSpots offsets (.node (.element i t cs) :: above) 0 cs
  | n => [⟨.node n, offsets, above⟩]

/-- The spots of the subtrees of some children, the first at a given index. -/
def subtreesSpots (offsets : List Offset) (above : List Target) (i : Nat) : List Node → List Spot
  | [] => []
  | n :: ns =>
      subtreeSpots (.child i :: offsets) above n ++ subtreesSpots offsets above (i + 1) ns

end

/-- The spots of some children, the first at a given index. -/
def childSpots (offsets : List Offset) (above : List Target) (i : Nat) : List Node → List Spot
  | [] => []
  | n :: ns => ⟨.node n, .child i :: offsets, above⟩ :: childSpots offsets above (i + 1) ns

/-- The spots below a spot in document order. -/
def Spot.descendants (s : Spot) : List Spot :=
  subtreesSpots s.offsets (s.target :: s.above) 0 s.target.children

/-- The spots of a subtree, its top included. -/
def Spot.subtree (s : Spot) : List Spot := s :: s.descendants

/-- The children of a spot. -/
def Spot.children (s : Spot) : List Spot :=
  childSpots s.offsets (s.target :: s.above) 0 s.target.children

/-! ## Upwards -/

/-- The spots on the way up. -/
def spotsAbove : List Target → List Offset → List Spot
  | [], _ => []
  | t :: ts, offsets => ⟨t, offsets, ts⟩ :: spotsAbove ts offsets.tail

/-- The spots above a spot, the nearest first; the last is the document. -/
def Spot.ancestors (s : Spot) : List Spot := spotsAbove s.above s.offsets.tail

/-- The spot directly above. -/
def Spot.parent? (s : Spot) : Option Spot := s.ancestors.head?

/-- The document that a spot belongs to. -/
def Spot.root (s : Spot) : Spot := (s.ancestors.getLast?).getD s

/-! ## Sideways -/

/-- The siblings of a spot: those before it, the nearest first, and those after it. Attributes and
namespaces have none. -/
def Spot.siblings (s : Spot) : List Spot × List Spot :=
  match s.parent?, s.offsets with
  | some p, o :: _ =>
      if o.rank == 2 then ((p.children.take o.index).reverse, p.children.drop (o.index + 1))
      else ([], [])
  | _, _ => ([], [])

/-- The spot from which the document goes on: of an attribute or a namespace that is its element. -/
def Spot.base (s : Spot) : Spot := if s.target.isNode then s else (s.parent?).getD s

/-- The spots after a spot in the document, those below it left out. -/
def Spot.following (s : Spot) : List Spot :=
  (s.base :: s.base.ancestors).flatMap fun a => a.siblings.2.flatMap Spot.subtree

/-- The spots before a spot in the document, the nearest first, those above it left out. -/
def Spot.preceding (s : Spot) : List Spot :=
  (s.base :: s.base.ancestors).flatMap fun a => a.siblings.1.flatMap fun b => b.subtree.reverse

/-! ## Attributes and namespaces -/

/-- The attributes of the element at a spot. -/
def Spot.attributes (s : Spot) : List Spot :=
  match s.target with
  | .node (.element i t _) =>
      t.attributes.zipIdx.map fun p => ⟨.attribute i p.1, ⟨1, p.2⟩ :: s.offsets, s.target :: s.above⟩
  | _ => []

/-- The declarations in scope at a spot, the nearest first; of one prefix only the nearest counts. -/
def Spot.scope (s : Spot) : List Declaration :=
  let all := (s.target :: s.above).flatMap fun t => (t.tag?.map (·.declarations)).getD []
  all.foldl (fun seen d => if seen.any (·.1 == d.1) then seen else seen ++ [d]) []

/-- Where the prefix `xml` belongs to. -/
def xmlSpace : Chars := "http://www.w3.org/XML/1998/namespace".toList

/-- The namespaces of the element at a spot: that of the prefix `xml`, and then those in scope, the
farthest first. -/
def Spot.spaces (s : Spot) : List Spot :=
  match s.target with
  | .node (.element ..) =>
      let all := (some "xml".toList, xmlSpace) :: s.scope.reverse
      all.zipIdx.map fun p => ⟨.space p.1.1 p.1.2, ⟨0, p.2⟩ :: s.offsets, s.target :: s.above⟩
  | _ => []

/-! ## Text -/

/-- The text of what is at a spot. -/
def Target.text : Target → Chars
  | .document d => textContents d
  | .node (.comment _ s) => s
  | .node (.instruction _ _ d) => d.getD []
  | .node n => n.textContent
  | .attribute _ a => a.value
  | .space _ u => u

/-- The text of a spot. -/
def Spot.text (s : Spot) : Chars := s.target.text

/-! ## Order -/

/-- Spots in document order without repetition. -/
def inOrder (ss : List Spot) : List Spot :=
  let keyed := ss.map fun s => (s.position, s)
  let sorted := keyed.mergeSort fun a b => comparePositions a.1 b.1 != .gt
  (dropRepeated sorted).map (·.2)
where
  /-- A sorted list without repetition. -/
  dropRepeated : List (List Offset × Spot) → List (List Offset × Spot)
    | [] => []
    | a :: r =>
        match dropRepeated r with
        | [] => [a]
        | b :: q => if a.1 == b.1 then a :: q else a :: b :: q

end MarkupQuery.Query
