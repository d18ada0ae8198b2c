import MarkupQuery.Tree.Basic

/-!
# Numbering trees

A tree is numbered in document order: every node that carries an id gets the next free one, an
element before what it holds.
-/

namespace MarkupQuery.Tree

mutual

/-- A subtree numbered from an id on, and the next free id. -/
def Node.number (next : NodeId) : Node → Node × NodeId
  | .element _ t cs =>
      let children := numberAll (next + 1) cs
      (.element next t children.1, children.2)
  | .text s => (.text s, next)
  | .section_ s => (.section_ s, next)
  | .comment _ s => (.comment next s, next + 1)
  | .instruction _ t d => (.instruction next t d, next + 1)
  | .reference _ n s => (.reference next n s, next + 1)

/-- Several subtrees numbered from an id on, and the next free id. -/
def numberAll (next : NodeId) : List Node → List Node × NodeId
  | [] => ([], next)
  | n :: ns =>
      let first := n.number next
      let rest := numberAll first.2 ns
      (first.1 :: rest.1, rest.2)

end

end MarkupQuery.Tree
