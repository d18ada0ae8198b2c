import MarkupQuery.Text.Blank

/-!
# Document trees

A document is a list of top-level nodes: comments and instructions, and one root element among them.
Character data stands between the other nodes as text nodes of its own. Elements, comments,
instructions and references carry an id that is unique in their document, so that results of queries
can name them; text is named through the node that it follows or that holds it. Readers leave their
nodes unnumbered; ids are handed out when a whole tree has been read.
-/

namespace MarkupQuery.Tree

open MarkupQuery.Text

/-! ## Names and attributes -/

/-- A name with the prefix it is written with and the namespace it belongs to. -/
structure Name where
  /-- The prefix, if the name is written with one. -/
  label : Option Chars := none
  /-- The name without its prefix. -/
  base : Chars
  /-- The namespace. -/
  space : Option Chars := none
  deriving DecidableEq, Repr, Inhabited

/-- A name as it is written. -/
def Name.written (n : Name) : Chars :=
  match n.label with
  | some p => p ++ ':' :: n.base
  | none => n.base

/-- A name with its namespace in braces. -/
def Name.expanded (n : Name) : Chars :=
  match n.space with
  | some u => '\x7b' :: u ++ '\x7d' :: n.base
  | none => n.base

/-- A part of an attribute's value: text, or a reference that is kept as it was written. -/
inductive ValuePart where
  | text (s : Chars)
  /-- A reference to a declared entity, with the text that it stands for. -/
  | reference (name : Chars) (content : Chars)
  deriving DecidableEq, Repr

/-- An attribute. An attribute without a value has no parts at all. -/
structure Attribute where
  name : Name
  parts : List ValuePart
  deriving DecidableEq, Repr, Inhabited

/-- The text of a part of a value. -/
def ValuePart.content : ValuePart → Chars
  | .text s => s
  | .reference _ c => c

/-- The value of an attribute as text. -/
def Attribute.value (a : Attribute) : Chars := a.parts.flatMap ValuePart.content

/-- A declaration of a namespace: the prefix, if any, and the namespace. -/
abbrev Declaration := Option Chars × Chars

/-- The declaration that a name relies on. -/
def Name.declaration? (n : Name) : Option Declaration := n.space.map fun u => (n.label, u)

/-- What an element's start tag says. -/
structure Tag where
  name : Name
  declarations : List Declaration := []
  attributes : List Attribute := []
  deriving DecidableEq, Repr, Inhabited

/-! ## Nodes -/

/-- The number that names a node. -/
abbrev NodeId := Nat

/-- The id of every node of a tree that has not been numbered. -/
def unnumbered : NodeId := 0

/-- A node. -/
inductive Node where
  | element (id : NodeId) (tag : Tag) (children : List Node)
  | text (content : Chars)
  /-- A character data section. -/
  | section_ (content : Chars)
  | comment (id : NodeId) (content : Chars)
  /-- A processing instruction. -/
  | instruction (id : NodeId) (target : Chars) (data : Option Chars)
  /-- A reference to an entity, with the text that it stands for. -/
  | reference (id : NodeId) (name : Chars) (content : Chars)
  deriving Repr, Inhabited

/-- The top-level nodes of a document. -/
abbrev Forest := List Node

/-- The id of a node, if it has one. -/
def Node.id? : Node → Option NodeId
  | .element i _ _ => some i
  | .comment i _ => some i
  | .instruction i _ _ => some i
  | .reference i _ _ => some i
  | .text _ => none
  | .section_ _ => none

/-- Whether a node is character data. -/
def Node.isText : Node → Bool
  | .text _ => true
  | .section_ _ => true
  | _ => false

/-- Whether a node is an element. -/
def Node.isElement : Node → Bool
  | .element .. => true
  | _ => false

/-- The children of a node. -/
def Node.children : Node → List Node
  | .element _ _ cs => cs
  | _ => []

/-- The text of a node that is character data. -/
def Node.ownText : Node → Chars
  | .text s => s
  | .section_ s => s
  | _ => []

/-- A node has an id exactly if it is no character data. -/
theorem Node.id?_eq_none_iff (n : Node) : n.id? = none ↔ n.isText = true := by
  cases n <;> simp [Node.id?, Node.isText]

/-! ## Text around nodes -/

/-- The character data at the start of a list of nodes, as one text; none if there is none. -/
def leadingText : List Node → Option Chars
  | [] => none
  | n :: r => if n.isText then some (n.ownText ++ (leadingText r).getD []) else none

/-- The nodes after the character data at the start of a list. -/
def afterText (ns : List Node) : List Node := ns.dropWhile Node.isText

/-- The character data at the start of a list of nodes. -/
def textRun (ns : List Node) : List Node := ns.takeWhile Node.isText

mutual

/-- The text content of a node: character data and references below it. Comments and instructions do
not count. -/
def Node.textContent : Node → Chars
  | .element _ _ cs => textContents cs
  | .text s => s
  | .section_ s => s
  | .reference _ _ c => c
  | .comment _ _ => []
  | .instruction _ _ _ => []

/-- The text content of nodes one after the other. -/
def textContents : List Node → Chars
  | [] => []
  | n :: r => n.textContent ++ textContents r

end

@[simp] theorem textContents_nil : textContents [] = [] := rfl

@[simp] theorem textContents_cons (n : Node) (r : List Node) :
    textContents (n :: r) = n.textContent ++ textContents r := rfl

/-- Text contents of two lists one after the other. -/
theorem textContents_append (a b : List Node) :
    textContents (a ++ b) = textContents a ++ textContents b := by
  induction a with
  | nil => rfl
  | cons n r ih => simp [ih]

/-! ## Elements of a document -/

/-- The root: the first element at the top. -/
def rootOf (d : Forest) : Option Node := d.find? Node.isElement

mutual

/-- The nodes of a subtree in document order. -/
def Node.preorder : Node → List Node
  | .element i t cs => .element i t cs :: preorderAll cs
  | n => [n]

/-- The nodes of several subtrees in document order. -/
def preorderAll : List Node → List Node
  | [] => []
  | n :: r => n.preorder ++ preorderAll r

end

/-- The node with an id among some subtrees. -/
def findNode (d : List Node) (i : NodeId) : Option Node :=
  (preorderAll d).find? fun n => n.id? == some i

end MarkupQuery.Tree
