import MarkupQuery.Fault
import MarkupQuery.Selector.Shorthand
import MarkupQuery.Selector.Style.Query

/-!
# Translators

A translator turns the selectors of one language into path queries. Path queries are already what
the engine understands; the shorthand is rewritten; style selectors are compiled.
-/

namespace MarkupQuery

open MarkupQuery.Text

/-- The selector languages. -/
inductive Translator where
  /-- Path queries as they are. -/
  | path
  /-- Style selectors; `html` tells whether names are matched as in HTML, `leading` is put before the
  query. -/
  | style (html : Bool) (leading : String)
  /-- Path queries with glued attributes. -/
  | shorthand
  deriving DecidableEq, Repr, Inhabited

/-- What is put before the query of a style selector unless told otherwise, so that the node it
starts from can match too. -/
def Translator.defaultLeading : String := "descendant-or-self::"

/-- The text of a translator in messages. -/
def Translator.shown : Translator → String
  | .path => "XPathExpression()"
  | .style html _ => if html then "CssExpression(html=True)" else "CssExpression(html=False)"
  | .shorthand => "ShorthandExpression()"

/-- The translator with a given name, in any case and with blanks around it. -/
def Translator.ofName (name : String) (kind : Kind) : Except Fault Translator :=
  match lowerString (trimString name) with
  | "xpath" => .ok .path
  | "css" => .ok (.style (kind == .html) Translator.defaultLeading)
  | "shorthand" => .ok .shorthand
  | _ => .error (.unknownTranslator name)

/-- The translator that a value names; only texts are names. -/
def Translator.ofDatum (name : Datum) (kind : Kind) : Except Fault Translator :=
  match name with
  | .text s => Translator.ofName s kind
  | _ => .error .missingOperation

/-- The query that a selector means. -/
def Translator.convert (t : Translator) (selector : String) : Except Fault String :=
  match t with
  | .path => .ok selector
  | .shorthand => .ok (String.ofList (Selector.expandShorthand selector.toList))
  | .style html leading =>
      match Selector.Style.pathQuery html leading selector.toList with
      | .ok q => .ok q
      | .error reason => .error (.badSelector selector reason)

end MarkupQuery
