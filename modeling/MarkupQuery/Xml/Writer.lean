import MarkupQuery.Tree.Surgery

/-!
# Writing XML

Every node has one written form. An element without children is written as one tag; namespace
declarations come before attributes; values stand between double quotes. A node that is written by
itself also declares the namespaces that its ancestors declare.
-/

namespace MarkupQuery.Xml

open MarkupQuery.Text MarkupQuery.Tree

/-! ## Characters -/

/-- A character of text. -/
def escapeInText (c : Char) : Chars :=
  if c == '&' then "&amp;".toList
  else if c == '<' then "&lt;".toList
  else if c == '>' then "&gt;".toList
  else if c == '\r' then "&#13;".toList
  else [c]

/-- A character of an attribute's value. -/
def escapeInValue (c : Char) : Chars :=
  if c == '"' then "&quot;".toList
  else if c == '\n' then "&#10;".toList
  else if c == '\t' then "&#9;".toList
  else escapeInText c

/-- A text. -/
def writeText (s : Chars) : Chars := s.flatMap escapeInText

/-- A value without its quotes. -/
def writeValue (s : Chars) : Chars := s.flatMap escapeInValue

@[simp] theorem writeText_nil : writeText [] = [] := rfl

@[simp] theorem writeText_cons (c : Char) (s : Chars) :
    writeText (c :: s) = escapeInText c ++ writeText s := rfl

@[simp] theorem writeValue_cons (c : Char) (s : Chars) :
    writeValue (c :: s) = escapeInValue c ++ writeValue s := rfl

/-! ## Tags -/

/-- A part of a value. -/
def writePart : ValuePart → Chars
  | .text s => writeValue s
  | .reference n _ => '&' :: n ++ [';']

/-- An attribute with the blank before it. -/
def writeAttribute (a : Attribute) : Chars :=
  ' ' :: a.name.written ++ "=\"".toList ++ a.parts.flatMap writePart ++ ['"']

/-- A namespace declaration with the blank before it. -/
def writeDeclaration (d : Declaration) : Chars :=
  let name := match d.1 with
    | some l => " xmlns:".toList ++ l
    | none => " xmlns".toList
  name ++ "=\"".toList ++ writeValue d.2 ++ ['"']

/-- A start tag without its end. -/
def writeTag (t : Tag) : Chars :=
  '<' :: t.name.written ++ t.declarations.flatMap writeDeclaration ++
    t.attributes.flatMap writeAttribute

/-! ## Nodes -/

mutual

/-- The written form of a node. -/
def writeNode : Node → Chars
  | .element _ t [] => writeTag t ++ "/>".toList
  | .element _ t (c :: cs) =>
      writeTag t ++ '>' :: writeNode c ++ writeNodes cs ++ "</".toList ++ t.name.written ++ ['>']
  | .text s => writeText s
  | .section_ s => "<![CDATA[".toList ++ s ++ "]]>".toList
  | .comment _ s => "<!--".toList ++ s ++ "-->".toList
  | .instruction _ t none => "<?".toList ++ t ++ "?>".toList
  | .instruction _ t (some d) => "<?".toList ++ t ++ ' ' :: d ++ "?>".toList
  | .reference _ n _ => '&' :: n ++ [';']

/-- The written form of nodes one after the other. -/
def writeNodes : List Node → Chars
  | [] => []
  | n :: ns => writeNode n ++ writeNodes ns

end

/-! ## Nodes by themselves -/

/-- The declarations that a tag's own names rely on. -/
def neededDeclarations (t : Tag) : List Declaration :=
  (t.name :: t.attributes.map (·.name)).filterMap Name.declaration?

/-- A node that stands by itself: an element declares all namespaces that its names rely on or that
its ancestors, the nearest first, declare. -/
def selfContained (ancestors : List Tag) : Node → Node
  | .element i t cs =>
      let more := neededDeclarations t ++ ancestors.flatMap (·.declarations)
      .element i { t with declarations := more.foldl addDeclaration t.declarations } cs
  | n => n

/-- The written form of a node that stands by itself. -/
def writeAlone (ancestors : List Tag) (n : Node) : Chars := writeNode (selfContained ancestors n)

end MarkupQuery.Xml
