import MarkupQuery.Xml.Letters

/-!
# Path expressions

The syntax of queries: paths of steps along axes, with tests and predicates, and expressions over
numbers, texts, truth values and sets of nodes.
-/

namespace MarkupQuery.Query

open MarkupQuery.Text

/-- The axes. -/
inductive Axis where
  | ancestor
  | ancestorOrSelf
  | label
  | child
  | descendant
  | descendantOrSelf
  | following
  | followingSibling
  | space
  | parent
  | preceding
  | precedingSibling
  | self
  deriving DecidableEq, Repr

/-- The axis with a given name. -/
def Axis.ofName? (name : Chars) : Option Axis :=
  match String.ofList name with
  | "ancestor" => some .ancestor
  | "ancestor-or-self" => some .ancestorOrSelf
  | "attribute" => some .label
  | "child" => some .child
  | "descendant" => some .descendant
  | "descendant-or-self" => some .descendantOrSelf
  | "following" => some .following
  | "following-sibling" => some .followingSibling
  | "namespace" => some .space
  | "parent" => some .parent
  | "preceding" => some .preceding
  | "preceding-sibling" => some .precedingSibling
  | "self" => some .self
  | _ => none

/-- The kinds of nodes that a test can ask for. -/
inductive NodeKind where
  | node
  | text
  | comment
  | instruction
  deriving DecidableEq, Repr

/-- The kind of nodes with a given name. -/
def NodeKind.ofName? (name : Chars) : Option NodeKind :=
  match String.ofList name with
  | "node" => some .node
  | "text" => some .text
  | "comment" => some .comment
  | "processing-instruction" => some .instruction
  | _ => none

/-- The tests of a step. -/
inductive NodeTest where
  /-- Any name, or any name with a prefix. -/
  | any (label : Option Chars)
  | name (label : Option Chars) (base : Chars)
  | kind (k : NodeKind)
  /-- An instruction with a given target. -/
  | target (t : Chars)
  deriving DecidableEq, Repr

/-- The operators with two operands. -/
inductive Operator where
  | or
  | and
  | equal
  | unequal
  | less
  | lessOrEqual
  | greater
  | greaterOrEqual
  | plus
  | minus
  | times
  | divide
  | remainder
  deriving DecidableEq, Repr

/-- An expression. -/
inductive Expression where
  | number (x : Float)
  | literal (s : Chars)
  | variable_ (label : Option Chars) (name : Chars)
  | call (label : Option Chars) (name : Chars) (arguments : List Expression)
  | binary (op : Operator) (a b : Expression)
  | negate (a : Expression)
  /-- An operand negated twice, which makes it a number. -/
  | toNumber (a : Expression)
  | union (a b : Expression)
  /-- The node that the query starts from. -/
  | here
  /-- The document. -/
  | root
  | filter (a : Expression) (predicate : Expression)
  | step (from_ : Expression) (axis : Axis) (test : NodeTest) (predicates : List Expression)
  deriving Repr, Inhabited

/-- Why a query cannot be read or carried out. -/
inductive Reason where
  | number
  | unfinishedLiteral
  | missingLiteral
  | variableName
  | undefinedVariable
  | predicate
  | expression
  | unclosed
  | unknownFunction
  | operand
  | type
  | argumentCount
  | contextSize
  | contextPosition
  | undefinedLabel
  | nesting
  deriving DecidableEq, Repr

/-- The wording of a reason. -/
def Reason.message : Reason → String
  | .number => "Number encoding"
  | .unfinishedLiteral => "Unfinished literal"
  | .missingLiteral => "Start of literal"
  | .variableName => "Expected $ for variable reference"
  | .undefinedVariable => "Undefined variable"
  | .predicate => "Invalid predicate"
  | .expression => "Invalid expression"
  | .unclosed => "Missing closing curly brace"
  | .unknownFunction => "Unregistered function"
  | .operand => "Invalid operand"
  | .type => "Invalid type"
  | .argumentCount => "Invalid number of arguments"
  | .contextSize => "Invalid context size"
  | .contextPosition => "Invalid context position"
  | .undefinedLabel => "Undefined namespace prefix"
  | .nesting => "Recursion limit exceeded"

end MarkupQuery.Query
