import MarkupQuery.Document.Extraction
import MarkupQuery.Tree.Surgery

/-!
# Removing from documents

Everything that a selector finds is taken out of the tree, one after the other. The text after a node
stays. Attributes are deleted, texts are cleared, scalars and nodes at the top are left alone; removing
the root empties the document.
-/

namespace MarkupQuery

open MarkupQuery.Text MarkupQuery.Tree MarkupQuery.Query

/-! ## Changing trees -/

/-- Changes every tree. -/
def Document.changeTrees (d : Document) (f : Forest → Forest) : Document :=
  { d with trees := d.trees.map f }

/-- The siblings of a node that stands in an element, itself included. -/
def Document.siblingsOf? (d : Document) (i : NodeId) : Option (List Node) :=
  (d.spot? i).bind fun s =>
    match s.above with
    | .node (.element _ _ cs) :: _ => some cs
    | _ => none

/-- Takes a node that stands in an element out of its tree. It stays as a tree of its own, which declares
the namespaces that it relies on. Text that may not stand in a tree cannot be joined: then only the
text before the node is lost. -/
def Document.takeOutNode (d : Document) (i : NodeId) : Outcome Unit :=
  match d.siblingsOf? i, d.spot? i with
  | some siblings, some s =>
      let joined := textBefore i siblings ++ (textAfter i siblings).getD []
      let tail := (textAfter i siblings).getD []
      if !tail.isEmpty && !isMarkupText joined then
        let d := d.changeTrees (changeAroundAll i (clearBefore i))
        ⟨.error .notMarkupText, d, []⟩
      else
        let rest := d.changeTrees (changeAroundAll i (takeOut i))
        match s.target with
        | .node n => ⟨.ok (), { rest with trees := rest.trees ++ [[n.independent]] }, []⟩
        | _ => ⟨.ok (), rest, []⟩
  | _, _ => ⟨.ok (), d, []⟩

/-- Takes something found out of the tree. -/
def Document.detach (d : Document) (s : Selected) : Outcome Unit :=
  match s with
  | .node i => if d.root == some i then d.install none else d.takeOutNode i
  | .text owner true _ =>
      ⟨.ok (), d.changeTrees (changeAroundAll owner (clearAfter owner)), []⟩
  | .text owner false _ => ⟨.ok (), d.changeTrees (changeAll owner Node.clearText), []⟩
  | .attribute owner name _ =>
      ⟨.ok (), d.changeTrees (changeAll owner (Node.clearAttribute name)), []⟩
  | .space .. | .scalar _ | .loose _ => ⟨.ok (), d, []⟩

/-- Takes things out of the tree one after the other, up to the first failure. -/
def Document.detachAll (d : Document) : List Selected → Outcome Unit
  | [] => ⟨.ok (), d, []⟩
  | s :: ss =>
      let out := d.detach s
      match out.result with
      | .ok _ => out.document.detachAll ss
      | .error f => ⟨.error f, out.document, []⟩

/-- Takes everything that a selector finds out of the tree. -/
def Document.remove (d : Document) (selector : String) : Outcome Unit :=
  match d.find selector with
  | .error f => ⟨.error f, d, []⟩
  | .ok found =>
      let out := d.detachAll (found.map Found.name)
      match out.result with
      | .ok _ =>
          let message := s!"Removed {found.length} nodes matching {quotedString selector}"
          { out with log := [⟨"DEBUG", message⟩] }
      | .error _ => out

end MarkupQuery
