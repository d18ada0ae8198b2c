import MarkupQuery.Document.Removal

/-!
# Handles

A handle names something found in a document together with the epoch it was found in. It goes stale once
the document enters another epoch, and from then on every access is refused.
-/

namespace MarkupQuery

open MarkupQuery.Text MarkupQuery.Tree MarkupQuery.Query

/-- A handle. -/
structure Handle where
  selected : Selected
  epoch : Nat
  /-- The text of what it names in messages. -/
  shown : Chars
  deriving Inhabited

/-! ## Looking at what is named -/

/-- The text in messages of something found. -/
def Found.shown : Found → Chars
  | .scalar s => quoted s
  | .spot s =>
      match s.target with
      | .node (.element _ t _) => "<Element ".toList ++ t.name.expanded ++ ['>']
      | .node (.comment _ c) => "<!--".toList ++ c ++ "-->".toList
      | .node (.instruction _ t d) =>
          match d with
          | some d => "<?".toList ++ t ++ ' ' :: d ++ "?>".toList
          | none => "<?".toList ++ t ++ "?>".toList
      | .node (.reference _ n _) => '&' :: n ++ [';']
      | .space .. => (Found.spot s).text
      | _ => quoted (Found.spot s).text

/-- What a name stands for in the present trees. -/
def Document.locate (d : Document) : Selected → Option Found
  | .node i => (d.spot? i).map .spot
  | .text _ _ s => some (.scalar s)
  | .attribute _ _ s => some (.scalar s)
  | .space l u => some (.scalar (shownSpace l u).toList)
  | .scalar s => some (.scalar s)
  | .loose n => some (.spot ⟨.node n, [], []⟩)

/-- The handles of everything that a selector finds. -/
def Document.elements (d : Document) (selector : String) : Except Fault (List Handle) := do
  return (← d.find selector).map fun f => ⟨f.name, d.epoch, f.shown⟩

/-- Whether a handle is stale. -/
def Handle.isStale (h : Handle) (d : Document) : Bool := d.epoch != h.epoch

/-- What a handle names, unless it is stale. -/
def Handle.found (h : Handle) (d : Document) : Except Fault Found :=
  if h.isStale d then .error (.stale h.epoch d.epoch)
  else .ok ((d.locate h.selected).getD (.scalar []))

/-- The text of a handle in messages. -/
def Handle.describe (h : Handle) (d : Document) : String :=
  let state := if h.isStale d then "stale" else "live"
  s!"<NodeHandle {String.ofList h.shown} epoch={h.epoch} {state}>"

/-! ## Access -/

/-- The tag of something found, if it is an element. -/
def Found.tag? : Found → Option Tag
  | .spot s => s.target.tag?
  | .scalar _ => none

/-- The name of the element that a handle names. -/
def Handle.tag (h : Handle) (d : Document) : Except Fault (Option Chars) := do
  return (← h.found d).tag?.map fun t => t.name.expanded

/-- The value of an attribute of the element that a handle names. -/
def Handle.get (h : Handle) (d : Document) (name : Chars) : Except Fault (Option Chars) := do
  match ← h.found d with
  | .spot ⟨.node n, _, _⟩ => return n.attribute? name
  | _ => return none

/-- The text of what a handle names. -/
def Handle.text (h : Handle) (d : Document) : Except Fault Chars := do return (← h.found d).text

/-- The inner markup of what a handle names. -/
def Handle.inner (h : Handle) (d : Document) : Except Fault Chars := do
  return (← h.found d).inner d.kind

/-- The outer markup of what a handle names. -/
def Handle.outer (h : Handle) (d : Document) : Except Fault Chars := do
  return (← h.found d).outer d.kind

/-- Takes what a handle names out of the document. -/
def Handle.remove (h : Handle) (d : Document) : Outcome Unit :=
  if h.isStale d then ⟨.error (.stale h.epoch d.epoch), d, []⟩ else d.detach h.selected

end MarkupQuery
