import MarkupQuery.Tree.Basic

/-!
# Changing trees

Nodes are taken out of trees, texts and attributes cleared. What follows a node that is taken out stays:
the text after it joins the text before it. Nodes at the top of a tree cannot be taken out.
-/

namespace MarkupQuery.Tree

open MarkupQuery.Text

/-! ## Changes at one place -/

mutual

/-- Changes the node with an id. -/
def Node.change (i : NodeId) (f : Node → Node) : Node → Node
  | .element j t cs =>
      let n := Node.element j t (changeAll i f cs)
      if j == i then f n else n
  | n => if n.id? == some i then f n else n

/-- Changes the node with an id among some subtrees. -/
def changeAll (i : NodeId) (f : Node → Node) : List Node → List Node
  | [] => []
  | n :: ns => n.change i f :: changeAll i f ns

end

mutual

/-- Changes the list of children that the node with an id stands in. -/
def Node.changeAround (i : NodeId) (f : List Node → List Node) : Node → Node
  | .element j t cs =>
      let cs' := changeAroundAll i f cs
      .element j t (if cs.any fun c => c.id? == some i then f cs' else cs')
  | n => n

/-- Changes the list of children that the node with an id stands in, below some subtrees. -/
def changeAroundAll (i : NodeId) (f : List Node → List Node) : List Node → List Node
  | [] => []
  | n :: ns => n.changeAround i f :: changeAroundAll i f ns

end

mutual

/-- Whether the node with an id stands in an element of a subtree. -/
def Node.hasWithin (i : NodeId) : Node → Bool
  | .element _ _ cs => (cs.any fun c => c.id? == some i) || anyHasWithin i cs
  | _ => false

/-- Whether the node with an id stands in an element of some subtrees. -/
def anyHasWithin (i : NodeId) : List Node → Bool
  | [] => false
  | n :: ns => n.hasWithin i || anyHasWithin i ns

end

/-! ## Lists of siblings -/

/-- Whether a node has an id. -/
def Node.hasId (i : NodeId) (n : Node) : Bool := n.id? == some i

/-- The siblings before the node with an id. -/
def before (i : NodeId) (ns : List Node) : List Node := ns.takeWhile fun n => !n.hasId i

/-- The siblings after the node with an id. -/
def after (i : NodeId) (ns : List Node) : List Node := (ns.dropWhile fun n => !n.hasId i).drop 1

/-- The siblings without the character data right after the node with an id. -/
def clearAfter (i : NodeId) (ns : List Node) : List Node :=
  let kept := (ns.find? (Node.hasId i)).toList
  before i ns ++ kept ++ afterText (after i ns)

/-- The siblings up to the last one that is no character data, and the character data after it. -/
def splitEnd (ns : List Node) : List Node × List Node :=
  let text := ns.reverse.takeWhile Node.isText
  ((ns.reverse.dropWhile Node.isText).reverse, text.reverse)

/-- The text of the character data right after the node with an id. -/
def textAfter (i : NodeId) (ns : List Node) : Option Chars := leadingText (after i ns)

/-- The text of the character data right before the node with an id. -/
def textBefore (i : NodeId) (ns : List Node) : Chars :=
  ((splitEnd (before i ns)).2).flatMap Node.ownText

/-- The siblings without the node with an id. The text after it joins the text before it; without text
after it the other siblings stay as they are. -/
def takeOut (i : NodeId) (ns : List Node) : List Node :=
  match textAfter i ns with
  | none => before i ns ++ after i ns
  | some [] => before i ns ++ afterText (after i ns)
  | some s =>
      (splitEnd (before i ns)).1 ++ .text (textBefore i ns ++ s) :: afterText (after i ns)

/-- The siblings without the character data right before the node with an id. -/
def clearBefore (i : NodeId) (ns : List Node) : List Node :=
  (splitEnd (before i ns)).1 ++ (ns.find? (Node.hasId i)).toList ++ after i ns

/-! ## Elements -/

/-- An element without the character data at its start. -/
def Node.clearText : Node → Node
  | .element i t cs => .element i t (afterText cs)
  | n => n

/-- Attributes without the first one of a name. -/
def dropAttribute (name : Chars) : List Attribute → List Attribute
  | [] => []
  | a :: as => if a.name.expanded == name then as else a :: dropAttribute name as

/-- An element without the first attribute of a name. -/
def Node.clearAttribute (name : Chars) : Node → Node
  | .element i t cs => .element i { t with attributes := dropAttribute name t.attributes } cs
  | n => n

/-- The value of an attribute of an element. -/
def Node.attribute? (name : Chars) : Node → Option Chars
  | .element _ t _ => (t.attributes.find? fun a => a.name.expanded == name).map Attribute.value
  | _ => none

/-! ## Elements that were taken out -/

mutual

/-- The declarations that names in a subtree rely on and that are not made in it. -/
def Node.missing (known : List Declaration) : Node → List Declaration
  | .element _ t cs =>
      let known := t.declarations ++ known
      let own := (t.name :: t.attributes.map (·.name)).filterMap Name.declaration?
      let lacks (d : Declaration) : Bool := !(known.any fun k => k.1 == d.1)
      own.filter lacks ++ missingAll known cs
  | _ => []

/-- The declarations that names in some subtrees rely on and that are not made in them. -/
def missingAll (known : List Declaration) : List Node → List Declaration
  | [] => []
  | n :: ns => n.missing known ++ missingAll known ns

end

/-- Declarations with one more, unless its prefix is declared already or never needs to be. -/
def addDeclaration (ds : List Declaration) (d : Declaration) : List Declaration :=
  if ds.any (·.1 == d.1) || d.1 == some "xml".toList then ds else ds ++ [d]

/-- A subtree that declares all namespaces that it relies on. -/
def Node.independent : Node → Node
  | .element i t cs =>
      let more := (Node.element i t cs).missing []
      .element i { t with declarations := more.foldl addDeclaration t.declarations } cs
  | n => n

end MarkupQuery.Tree
