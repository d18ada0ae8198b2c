import MarkupQuery.Text.LetterCase

/-!
# Elements of HTML

What is known about the elements of HTML by their names: which are always empty, which hold raw text,
which start tags end open elements, and which end tags reach across open elements.
-/

namespace MarkupQuery.Html

open MarkupQuery.Text

/-- Whether a name is one of some words. -/
def isAmong (words : List String) (name : Chars) : Bool := words.contains (String.ofList name)

/-! ## Content -/

/-- Elements without content and end tag. -/
def voidElements : List String := [
  "area", "base", "basefont", "br", "col", "frame", "hr", "img", "input", "isindex", "link", "meta",
  "param"]

/-- Whether elements of a name have neither content nor end tag. -/
def isVoid (name : Chars) : Bool := isAmong voidElements name

/-- How the content of an element is read. -/
inductive ContentMode where
  /-- Markup and text. -/
  | markup
  /-- Text and references up to the end tag. -/
  | escapable
  /-- Text up to the end tag. -/
  | raw
  /-- Text up to the end tag of a script. -/
  | script
  /-- Text up to the end of the document. -/
  | rest
  deriving DecidableEq, Repr, Inhabited

/-- How the content of elements of a name is read. -/
def contentMode (name : Chars) : ContentMode :=
  match String.ofList name with
  | "title" | "textarea" => .escapable
  | "style" | "xmp" | "iframe" | "noembed" | "noframes" => .raw
  | "script" => .script
  | "plaintext" => .rest
  | _ => .markup

/-- Elements whose blank text is kept even where blanks are dropped. -/
def textElements : List String := [
  "em", "strong", "cite", "dfn", "code", "samp", "kbd", "var", "abbr", "acronym", "address",
  "blockquote", "q", "caption", "h1", "h2", "h3", "h4", "h5", "h6", "p", "pre", "sub", "sup", "tt",
  "i", "b", "big", "small", "bdo", "span", "a", "button", "del", "dd", "dt", "font", "ins", "label",
  "legend", "li", "option", "td", "textarea", "th", "title", "u", "s", "strike", "object", "div",
  "center", "form"]

/-! ## Attributes -/

/-- Attributes whose presence alone counts. -/
def isFlagAttribute (name : Chars) : Bool :=
  isAmong ["checked", "compact", "declare", "defer", "disabled", "ismap", "multiple", "nohref",
    "noresize", "noshade", "nowrap", "readonly", "selected"] name

/-! ## What start tags end -/

/-- The headings. -/
def headings : List String := ["h1", "h2", "h3", "h4", "h5", "h6"]

/-- Elements that end the head of the document. -/
def headEnders : List String := [
  "a", "abbr", "acronym", "address", "b", "bdo", "big", "blockquote", "body", "br", "center",
  "cite", "code", "dd", "dfn", "dir", "div", "dl", "dt", "em", "fieldset", "font", "form",
  "frameset", "h1", "h2", "h3", "h4", "h5", "h6", "hr", "i", "iframe", "img", "kbd", "li",
  "listing", "map", "menu", "ol", "p", "pre", "q", "s", "samp", "small", "span", "strike", "strong",
  "sub", "sup", "table", "tt", "u", "ul", "var", "xmp"]

/-- The elements whose start tags end an open paragraph. -/
def paragraphEnders : List String := [
  "address", "blockquote", "body", "caption", "center", "col", "colgroup", "dd", "dir", "div", "dl",
  "dt", "fieldset", "form", "frameset", "h1", "h2", "h3", "h4", "h5", "h6", "head", "hr", "li",
  "listing", "menu", "ol", "p", "pre", "table", "tbody", "td", "tfoot", "th", "title", "tr", "ul",
  "xmp"]

/-- The elements whose start tags end an open element of a name. -/
def endersOf (name : Chars) : List String :=
  match String.ofList name with
  | "a" => ["a", "fieldset", "table", "td", "th"]
  | "address" => ["dd", "dl", "dt", "form", "li", "ul"]
  | "b" => ["center", "p", "td", "th"]
  | "big" | "s" | "small" | "strike" | "tt" => ["p"]
  | "i" => ["center", "p"]
  | "caption" | "col" => ["col", "colgroup", "tbody", "tfoot", "thead", "tr"]
  | "colgroup" => ["colgroup", "tbody", "tfoot", "thead", "tr"]
  | "dd" => ["dt"]
  | "dir" => ["dd", "dl", "dt", "form", "ul"]
  | "dl" => ["form", "li"]
  | "dt" => ["dd", "dl"]
  | "font" => ["center", "td", "th"]
  | "form" => ["form"]
  | "h1" | "h2" | "h3" | "h4" | "h5" | "h6" => ["fieldset", "form", "li", "p", "table"]
  | "head" => headEnders
  | "hr" => ["form"]
  | "li" => ["li"]
  | "legend" => ["fieldset"]
  | "link" | "style" | "title" => ["body", "frameset"]
  | "listing" | "pre" | "xmp" => ["dd", "dl", "dt", "fieldset", "form", "li", "table", "ul"]
  | "menu" => ["dd", "dl", "dt", "form", "ul"]
  | "ol" => ["form", "ul"]
  | "option" => ["optgroup", "option"]
  | "p" => paragraphEnders
  | "script" => ["noscript"]
  | "span" => ["td", "th"]
  | "tbody" => ["tbody", "tfoot"]
  | "td" => ["tbody", "td", "tfoot", "th", "tr"]
  | "tfoot" => ["tbody"]
  | "th" => ["tbody", "td", "tfoot", "th", "tr"]
  | "thead" => ["tbody", "tfoot"]
  | "tr" => ["tbody", "tfoot", "tr"]
  | "u" => ["p", "td", "th"]
  | "ul" => ["address", "form", "menu", "ol", "pre"]
  | _ => []

/-- Whether a start tag ends an open element. -/
def endsOpen (opened new : Chars) : Bool := isAmong (endersOf opened) new

/-! ## What end tags reach across -/

/-- How strongly an open element resists end tags of other elements. -/
def resistance (name : Chars) : Nat :=
  match String.ofList name with
  | "div" => 150
  | "td" | "th" => 160
  | "tr" => 170
  | "thead" | "tbody" | "tfoot" => 180
  | "table" => 190
  | "head" | "body" => 200
  | "html" => 220
  | _ => 100

/-- Elements whose missing end tag is an error. -/
def needsEndTag (name : Chars) : Bool :=
  isAmong ["b", "big", "center", "div", "em", "font", "i", "s", "small", "strike", "strong", "sub",
    "sup", "tt", "u"] name

end MarkupQuery.Html
