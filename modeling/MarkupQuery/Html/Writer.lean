import MarkupQuery.Html.Element
import MarkupQuery.Tree.Basic
import MarkupQuery.Transcoding
import MarkupQuery.Text.Quoted

/-!
# Writing HTML

Every node has one written form. Void elements have no end tag, flags no value, and the text of scripts
and styles is written as it is. Addresses are written with all but the usual characters percent-encoded.
-/

namespace MarkupQuery.Html

open MarkupQuery.Text MarkupQuery.Tree

/-! ## Characters -/

/-- A character of text. -/
def escapeInText (c : Char) : Chars :=
  if c == '&' then "&amp;".toList
  else if c == '<' then "&lt;".toList
  else if c == '>' then "&gt;".toList
  else [c]

/-- A text. -/
def writeText (s : Chars) : Chars := s.flatMap escapeInText

/-- The characters of an attribute's value: markup characters are escaped, except where an ampersand
stands before a brace and in comments. -/
def escapeValue : Chars → Chars
  | [] => []
  | '&' :: r =>
      if r.head? == some '\x7b' then '&' :: escapeValue r else "&amp;".toList ++ escapeValue r
  | '<' :: r => if "!--".toList.isPrefixOf r then '<' :: escapeValue r else "&lt;".toList ++ escapeValue r
  | '>' :: r => "&gt;".toList ++ escapeValue r
  | c :: r => c :: escapeValue r

/-- A value in quotes: double ones, unless only these stand in it. -/
def quoteValue (s : Chars) : Chars :=
  if !s.contains '"' then '"' :: s ++ ['"']
  else if !s.contains '\'' then '\'' :: s ++ ['\'']
  else '"' :: s.flatMap (fun c => if c == '"' then "&quot;".toList else [c]) ++ ['"']

/-! ## Addresses -/

/-- A character that stands for itself in an address. -/
def staysInAddress (c : Char) : Bool :=
  isAsciiLetter c || isAsciiDigit c || "-_.!~*'()\"#$%&+,/:;<=>?@[\\]^`\x7b|\x7d".toList.contains c

/-- One byte, percent-encoded. -/
def percentByte (b : UInt8) : Chars := '%' :: (hexDigits 2 b.toNat).map upperAsciiChar

/-- An address. -/
def writeAddress (s : Chars) : Chars :=
  (s.dropWhile fun c => c == ' ' || c == '\t' || c == '\n' || c == '\r').flatMap fun c =>
    if staysInAddress c then [c] else (utf8Unit c.toNat).flatMap percentByte

/-- Whether an attribute of an element holds an address. -/
def holdsAddress (element name : Chars) : Bool :=
  isAmong ["href", "action", "src"] name || (name == "name".toList && element == "a".toList)

/-! ## Tags -/

/-- An attribute with the blank before it. -/
def writeAttribute (element : Chars) (a : Attribute) : Chars :=
  let name := ' ' :: a.name.written
  if a.parts.isEmpty || isFlagAttribute a.name.base then name
  else
    let value := a.value
    if a.name.label.isNone && holdsAddress element a.name.base then
      name ++ '=' :: quoteValue (escapeValue (writeAddress value))
    else name ++ '=' :: quoteValue (escapeValue value)

/-- A start tag. -/
def writeTag (t : Tag) : Chars :=
  '<' :: t.name.written ++ t.attributes.flatMap (writeAttribute t.name.base) ++ ['>']

/-- An end tag. -/
def writeEnd (t : Tag) : Chars := "</".toList ++ t.name.written ++ ['>']

/-- Whether text in elements of a name is written as it is. -/
def holdsPlainText (name : Chars) : Bool := isAmong ["script", "style"] name

/-! ## Nodes -/

mutual

/-- The written form of a node; `plain` tells that it stands where text is written as it is. -/
def writeNode (plain : Bool) : Node → Chars
  | .element _ t cs =>
      if isVoid t.name.base then writeTag t
      else if cs.isEmpty && t.name.base == "li".toList then writeTag t
      else writeTag t ++ writeNodes (holdsPlainText t.name.base) cs ++ writeEnd t
  | .text s => if plain then s else writeText s
  | .section_ s => s
  | .comment _ s => "<!--".toList ++ s ++ "-->".toList
  | .instruction _ t none => "<?".toList ++ t ++ ['>']
  | .instruction _ t (some d) => "<?".toList ++ t ++ ' ' :: d ++ ['>']
  | .reference _ n _ => '&' :: n ++ [';']

/-- The written form of nodes one after the other. -/
def writeNodes (plain : Bool) : List Node → Chars
  | [] => []
  | n :: ns => writeNode plain n ++ writeNodes plain ns

end

/-- The written form of a node that stands by itself. -/
def writeAlone (n : Node) : Chars := writeNode false n

end MarkupQuery.Html
