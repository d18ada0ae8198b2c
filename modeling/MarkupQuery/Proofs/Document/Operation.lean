import MarkupQuery.Document.Handle
import MarkupQuery.Proofs.Document.Namespaces

/-!
# Operations on documents

Everything that can be done with an open document, as one type, so that histories of a document are
lists of operations. Operations that fail are part of a history like all others. A document is
reachable if it was opened and then any operations were carried out on it, in any order.

What an operation can do to its document is said once (`Document.perform_changes`); invariants of
histories are proved from that.
-/

namespace MarkupQuery

open MarkupQuery.Text MarkupQuery.Tree MarkupQuery.Query

/-! ## Operations -/

/-- What a handle can be asked. -/
inductive HandleCall where
  | node
  | tag
  | get (name : Chars)
  | text
  | inner
  | outer
  | remove

/-- What can be done with an open document. -/
inductive Operation where
  | find (selector : String)
  | html (selector : String) (outer : Bool)
  | value (selector : String)
  | attribute (selector : String)
  | elements (selector : String)
  | keyValue (base key value : String)
  | nested (selector : String) (outer : Bool)
  | records (base : String) (fields : List (String × String))
  | select (p : PatternSource) (selector : SelectorArgument)
  | markup
  | handle (h : Handle) (call : HandleCall)
  | setTranslator (t : TranslatorSource)
  | registerNamespace (label name : Datum)
  | remove (selector : String)
  | replace (p : PatternSource) (replacement : Replacement)
  | close

/-- What an operation gives. -/
inductive Answer where
  | done
  | found (fs : List Found)
  | handles (hs : List Handle)
  | documents (ds : List Document)
  | node (f : Found)
  | text (s : Chars)
  | name (s : Option Chars)
  | texts (ss : List Chars)
  | pairs (es : List (Chars × Chars))
  | records (rs : List (List (String × Option Chars)))

/-- An outcome with another way to say what it gives. -/
def Outcome.map {α β : Type} (f : α → β) (o : Outcome α) : Outcome β :=
  ⟨o.result.map f, o.document, o.log⟩

/-- Asks a handle. -/
def Handle.perform (h : Handle) (d : Document) : HandleCall → Outcome Answer
  | .node => d.giving ((h.found d).map .node)
  | .tag => d.giving ((h.tag d).map .name)
  | .get name => d.giving ((h.get d name).map .name)
  | .text => d.giving ((h.text d).map .text)
  | .inner => d.giving ((h.inner d).map .text)
  | .outer => d.giving ((h.outer d).map .text)
  | .remove => (h.remove d).map fun _ => .done

/-- Carries out an operation. -/
def Document.perform (d : Document) : Operation → Outcome Answer
  | .find s => d.giving ((d.find s).map .found)
  | .html s outer => d.giving ((d.html s outer).map .texts)
  | .value s => d.giving ((d.value s).map .texts)
  | .attribute s => d.giving ((d.attribute s).map .texts)
  | .elements s => d.giving ((d.elements s).map .handles)
  | .keyValue base key value => d.giving ((d.keyValue base key value).map .pairs)
  | .nested s outer => ⟨(d.nested s outer).1.map .documents, d, (d.nested s outer).2⟩
  | .records base fields => ⟨(d.records base fields).1.map .records, d, (d.records base fields).2⟩
  | .select p s => d.giving ((d.match_ p s).map .texts)
  | .markup => d.giving (.ok (.text d.markup))
  | .handle h call => h.perform d call
  | .setTranslator t => (d.setTranslator t).map fun _ => .done
  | .registerNamespace label name => (d.registerNamespace label name).map fun _ => .done
  | .remove s => (d.remove s).map fun _ => .done
  | .replace p replacement => (d.replace p replacement).map fun _ => .done
  | .close => ⟨.ok .done, d.close, []⟩

/-- The document after some operations, whether they failed or not. -/
def Document.run (d : Document) (ops : List Operation) : Document :=
  ops.foldl (fun d op => (d.perform op).document) d

/-- The documents that can come about. -/
inductive Document.Reachable : Document → Prop
  | opened {o : Opening} {d : Document} (h : o.run.1 = .ok d) : d.Reachable
  | step {d : Document} (h : d.Reachable) (op : Operation) : (d.perform op).document.Reachable

theorem Document.Reachable.run {d : Document} (h : d.Reachable) (ops : List Operation) :
    (d.run ops).Reachable := by
  induction ops generalizing d with
  | nil => exact h
  | cons op ops ih => exact ih (h.step op)

/-! ## What operations change -/

/-- What an operation can make of its document. -/
inductive Document.Changes (d : Document) : Operation → Document → Prop
  | same (op : Operation) (hclose : op ≠ .close) (hreplace : ∀ p r, op ≠ .replace p r)
      (hregister : ∀ label name, op ≠ .registerNamespace label name) : d.Changes op d
  | translated (t : TranslatorSource) (u : Translator) :
      d.Changes (.setTranslator t) { d with translator := u }
  | registered (label name : Datum) (out : Outcome Unit) (h : d.Registers label name out) :
      d.Changes (.registerNamespace label name) out.document
  | removed (s : String) (ss : List Selected) : d.Changes (.remove s) (d.detachAll ss).document
  | detached (h : Handle) : d.Changes (.handle h .remove) (d.detach h.selected).document
  | replaced (p : PatternSource) (r : Replacement) (out : Outcome Unit) (hout : d.replace p r = out)
      (h : d.Replaces p r out) : d.Changes (.replace p r) out.document
  | closed : d.Changes .close d.close

/-- Removing what a selector finds is detaching it. -/
theorem Document.remove_of_find {d : Document} {s : String} {found : List Found}
    (h : d.find s = .ok found) :
    (d.remove s).result = (d.detachAll (found.map Found.name)).result ∧
      (d.remove s).document = (d.detachAll (found.map Found.name)).document := by
  rw [Document.remove, h]
  dsimp only
  split <;> exact ⟨rfl, rfl⟩

/-- An operation leaves its document as it is or changes it in one of a few ways. -/
theorem Document.perform_changes (d : Document) (op : Operation) :
    d.Changes op (d.perform op).document := by
  cases op with
  | handle h call =>
    cases call with
    | remove =>
      show d.Changes _ (h.remove d).document
      rw [Handle.remove]
      split
      · exact .same _ nofun nofun nofun
      · exact .detached h
    | _ => exact .same _ nofun nofun nofun
  | setTranslator t =>
    show d.Changes _ (d.setTranslator t).document
    rw [Document.setTranslator]
    split
    · exact .translated t _
    · exact .same _ nofun nofun nofun
  | registerNamespace label name => exact .registered label name _ (d.registers label name)
  | remove s =>
    show d.Changes _ (d.remove s).document
    cases hfind : d.find s with
    | error f =>
      rw [Document.remove, hfind]
      exact .same _ nofun nofun nofun
    | ok found =>
      rw [(Document.remove_of_find hfind).2]
      exact .removed s _
  | replace p r => exact .replaced p r _ rfl (d.replaces p r)
  | close => exact .closed
  | _ => exact .same _ nofun nofun nofun

end MarkupQuery
