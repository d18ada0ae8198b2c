import MarkupQuery.Markup
import MarkupQuery.Query.Evaluate

/-!
# Results of queries

A query finds spots of a tree, or one scalar. Everything found has a text, an inner and an outer markup.
Found spots are named by ids, so that they can be found again after the tree has changed: text is named
by the node that it follows, or else by the element that it stands in.
-/

namespace MarkupQuery

open MarkupQuery.Text MarkupQuery.Tree MarkupQuery.Query

/-! ## Things found -/

/-- One thing that a query found. -/
inductive Found where
  | spot (s : Spot)
  | scalar (s : Chars)
  deriving Inhabited

/-- The text of a scalar result: integers have no point. -/
def scalarText : Value → Chars
  | .spots _ => []
  | .text s => s
  | .truth b => (if b then "true" else "false").toList
  | .number x =>
      match Number.exactInt? x with
      | some i => (toString i).toList
      | none => (Number.floatText x).toList

/-- What a query found, given its value. Documents themselves are left out. -/
def foundIn (v : Value) : List Found :=
  match v with
  | .spots ss => (ss.filter fun s => !s.target matches .document _).map .spot
  | v => [.scalar (scalarText v)]

/-! ## Texts and markup -/

/-- The content of a comment, an instruction or a reference; others have none of this kind. -/
def Tree.Node.content? : Node → Option Chars
  | .comment _ s => some s
  | .instruction _ _ d => some (d.getD [])
  | .reference _ n _ => some ('&' :: n ++ [';'])
  | _ => none

/-- The text of something found. -/
def Found.text : Found → Chars
  | .scalar s => s
  | .spot s =>
      match s.target with
      | .space l u => (shownSpace l u).toList
      | .node n => (n.content?).getD n.textContent
      | t => t.text

/-- The tags of the elements above a spot, the nearest first. -/
def Query.Spot.tagsAbove (s : Spot) : List Tag := s.above.filterMap Target.tag?

/-- The inner markup of something found. -/
def Found.inner (kind : Kind) : Found → Chars
  | .scalar s => s
  | .spot s =>
      match s.target with
      | .node (.element _ t cs) => writeInner kind s.tagsAbove t cs
      | _ => (Found.spot s).text

/-- The outer markup of something found. -/
def Found.outer (kind : Kind) : Found → Chars
  | .scalar s => s
  | .spot s =>
      match s.target with
      | .node n => if n.isText then n.ownText else writeAlone kind s.tagsAbove n
      | _ => (Found.spot s).text

/-- The character data right after a spot. -/
def Query.Spot.tail? (s : Spot) : Option Chars :=
  leadingText (s.siblings.2.filterMap fun t =>
    match t.target with
    | .node n => some n
    | _ => none)

/-! ## Names of things found -/

/-- The name of something found. -/
inductive Selected where
  /-- A node that is no character data. -/
  | node (id : NodeId)
  /-- Character data right after a node, or at the start of an element. -/
  | text (owner : NodeId) (isTail : Bool) (content : Chars)
  | attribute (owner : NodeId) (name : Chars) (content : Chars)
  | space (label : Option Chars) (name : Chars)
  | scalar (content : Chars)
  /-- A node outside the document. -/
  | loose (n : Node)
  deriving Inhabited

/-- The node that names character data at a spot, and whether the text follows it. -/
def Query.Spot.textOwner (s : Spot) : Option (NodeId × Bool) :=
  match s.siblings.1.findSome? fun t =>
      (match t.target with
        | .node n => n.id?
        | _ => none) with
  | some i => some (i, true)
  | none =>
      match s.above with
      | .node n :: _ => n.id?.map fun i => (i, false)
      | _ => none

/-- Whether a spot lies in a tree that a function made. -/
def Query.Spot.isMade (s : Spot) : Bool := s.offsets.getLast?.any fun o => o.rank == 3

/-- The name of something found. -/
def Found.name : Found → Selected
  | .scalar s => .scalar s
  | .spot s =>
      match s.target with
      | .space l u => .space l u
      | .document _ => .scalar []
      | .attribute i a => .attribute (if s.isMade then 0 else i) a.name.expanded a.value
      | .node n =>
          match n.id? with
          | some i => if s.isMade then .loose n else .node i
          | none =>
              match s.textOwner with
              | some (i, isTail) => .text (if s.isMade then 0 else i) isTail n.ownText
              | none => .scalar n.ownText

end MarkupQuery
