import MarkupQuery.Document.Basic

/-!
# Extracting from documents

A selector is translated and asked from the root. An empty document finds nothing, but a selector that
cannot be translated is refused all the same. Keys and values pair up in order; of equal keys the last
value counts.
-/

namespace MarkupQuery

open MarkupQuery.Text MarkupQuery.Tree MarkupQuery.Query

/-! ## Finding -/

/-- What a query finds from a context. -/
def Document.ask (d : Document) (c : QueryContext) (query : String) : Except Fault (List Found) :=
  match d.spot? c.root with
  | none => .ok []
  | some s =>
      if !isMarkupText query.toList then .error .notMarkupText
      else match Query.run d.kind c.spaces s query.toList with
        | .ok v => .ok (foundIn v)
        | .error (.fault f) => .error f
        | .error (.reason r) => .error (.badQuery query r.message)

/-- What a selector finds. A single slash stands for the root. -/
def Document.find (d : Document) (selector : String) : Except Fault (List Found) := do
  let query ← d.translator.convert selector
  match d.context with
  | none => return []
  | some c =>
      if trimString query == "/" then return (d.rootSpot?.map Found.spot).toList
      else d.ask c query

/-! ## Lists of texts -/

/-- The inner or outer markup of everything that a selector finds. -/
def Document.html (d : Document) (selector : String) (outer : Bool) : Except Fault (List Chars) := do
  let found ← d.find selector
  return found.map fun f => if outer then f.outer d.kind else f.inner d.kind

/-- The texts of everything that a selector finds. -/
def Document.value (d : Document) (selector : String) : Except Fault (List Chars) := do
  return (← d.find selector).map Found.text

/-- The values of the attributes that a selector finds, and the texts of everything else. -/
def Document.attribute (d : Document) (selector : String) : Except Fault (List Chars) := d.value selector

/-! ## Pairs -/

/-- Keys with their values; of equal keys the last value counts. -/
def pairUp (keys values : List Chars) : List (Chars × Chars) :=
  (keys.zip values).foldl (fun es e => putPair e.1 e.2 es) []

/-- Pairs the texts of two selections below a common one, which must be equally many. -/
def Document.keyValue (d : Document) (base key value : String) :
    Except Fault (List (Chars × Chars)) := do
  let keys ← d.find (base ++ key)
  let values ← d.find (base ++ value)
  if keys.length != values.length then throw (.unpaired keys.length values.length)
  return pairUp (keys.map Found.text) (values.map Found.text)

/-! ## Nested documents -/

/-- The markup of a document that stands for blank markup. -/
def emptyMarkup : Chars := "<html data-document-is-empty=\"\"></html>".toList

/-- XML markup in an element of its own. -/
def nestedMarkup (s : Chars) : Chars :=
  "<root data-document-is-nested=\"\">".toList ++ s ++ "</root>".toList

/-- The markup of the nested document for some markup. -/
def Document.nestedSource (d : Document) (outer : Bool) (markup : Chars) : Chars :=
  if isAllBlank markup then emptyMarkup
  else if d.kind == .xml && !outer then nestedMarkup markup
  else markup

/-- Opens a document with the settings of another one. -/
def Document.spawn (d : Document) (markup : Chars) : Except Fault Document × List LogLine :=
  Opening.run
    { markup := .text (codePoints markup)
      kind := .text d.kind.name
      options := .int d.options
      translator := some (.translator d.translator)
      namespaces := .dict d.namespaces }

/-- Opens documents one after the other, up to the first that cannot be opened. -/
def Document.spawnAll (d : Document) : List Chars → Except Fault (List Document) × List LogLine
  | [] => (.ok [], [])
  | m :: ms =>
      match d.spawn m with
      | (.error f, log) => (.error f, log)
      | (.ok n, log) =>
          let (rest, more) := d.spawnAll ms
          (rest.map (n :: ·), log ++ more)

/-- A document of its own for everything that a selector finds. -/
def Document.nested (d : Document) (selector : String) (outer : Bool) :
    Except Fault (List Document) × List LogLine :=
  match d.html selector outer with
  | .error f => (.error f, [])
  | .ok ms => d.spawnAll (ms.map (d.nestedSource outer))

/-- The first inner markup that each field finds in a document. -/
def Document.record (d : Document) (fields : List (String × String)) :
    Except Fault (List (String × Option Chars)) :=
  fields.mapM fun (name, selector) => do return (name, (← d.html selector false).head?)

/-- A record for everything that a selector finds. -/
def Document.records (d : Document) (base : String) (fields : List (String × String)) :
    Except Fault (List (List (String × Option Chars))) × List LogLine :=
  match d.nested base false with
  | (.error f, log) => (.error f, log)
  | (.ok ds, log) => (ds.mapM fun n => n.record fields, log)

/-! ## Matches -/

/-- What a choice keeps of the matches of a pattern in the markup of a document. -/
def Document.match_ (d : Document) (p : PatternSource) (selector : SelectorArgument) :
    Except Fault (List Chars) := do
  let s ← selector.resolve
  selectMatches p s [d.markup]

end MarkupQuery
