import MarkupQuery.Proofs.Tree.Outline

/-!
# Bare outlines

Outlines of siblings can be put one after the other, where the texts that meet become one text
(`Mixed.concat`). A bare outline tells everything about a tree but its ids: two trees of the same bare
outline have the same names, attributes, texts and other nodes in the same order. Numbering a tree does
not change its bare outline.
-/

namespace MarkupQuery.Tree

open MarkupQuery.Text

/-! ## Content one after the other -/

namespace Mixed

variable {α : Type}

/-- Two contents one after the other. -/
def concat : Mixed α → Mixed α → Mixed α
  | .last t, m => m.prepend t
  | .next t a rest, m => .next t a (rest.concat m)

@[simp] theorem concat_last_nil (m : Mixed α) : m.concat (.last []) = m := by
  induction m with
  | last t => simp [concat, prepend]
  | next t a rest ih => rw [concat, ih]

@[simp] theorem concat_nil (m : Mixed α) : (Mixed.last []).concat m = m := prepend_nil m

theorem concat_prepend (s : Chars) (a b : Mixed α) :
    (a.prepend s).concat b = (a.concat b).prepend s := by
  cases a with
  | last t => exact (prepend_prepend s t b).symm
  | next t x rest => rfl

theorem concat_assoc (a b c : Mixed α) : (a.concat b).concat c = a.concat (b.concat c) := by
  induction a with
  | last t => exact concat_prepend t b c
  | next t x rest ih => rw [concat, concat, concat, ih]

end Mixed

/-- The outline of siblings one after the other. -/
theorem outlineAll_append (a b : List Node) :
    outlineAll (a ++ b) = (outlineAll a).concat (outlineAll b) := by
  induction a with
  | nil => exact (Mixed.prepend_nil _).symm
  | cons n a ih =>
    cases hn : n.isText with
    | true => rw [List.cons_append, outlineAll_cons_text hn, outlineAll_cons_text hn, ih,
        Mixed.concat_prepend]
    | false => rw [List.cons_append, outlineAll_cons_node hn, outlineAll_cons_node hn, ih,
        Mixed.concat]

/-! ## Outlines without ids -/

/-- A node that holds nothing, without its id. -/
def Node.bare : Node → Node
  | .element _ t cs => .element unnumbered t cs
  | .comment _ s => .comment unnumbered s
  | .instruction _ t d => .instruction unnumbered t d
  | .reference _ n s => .reference unnumbered n s
  | n => n

mutual

/-- An outline without ids. -/
def Outline.bare : Outline → Outline
  | .leaf n => .leaf n.bare
  | .element _ t c => .element unnumbered t (bareContent c)

/-- Mixed content without ids. -/
def bareContent : Mixed Outline → Mixed Outline
  | .last t => .last t
  | .next t o rest => .next t o.bare (bareContent rest)

end

theorem bareContent_prepend (s : Chars) (c : Mixed Outline) :
    bareContent (c.prepend s) = (bareContent c).prepend s := by
  cases c <;> rfl

/-! ## Numbering -/

theorem Node.isText_number (next : NodeId) (n : Node) : (n.number next).1.isText = n.isText := by
  cases n <;> rfl

theorem Node.ownText_number (next : NodeId) (n : Node) : (n.number next).1.ownText = n.ownText := by
  cases n <;> rfl

mutual

/-- Numbering a tree does not change its bare outline. -/
theorem Node.bare_outline_number (next : NodeId) (n : Node) :
    (n.number next).1.outline.bare = n.outline.bare := by
  cases n with
  | element i t cs =>
    rw [Node.number, Node.outline, Node.outline, Outline.bare, Outline.bare,
      bare_outlineAll_number (next + 1) cs]
  | _ => rfl

/-- Numbering trees does not change their bare outline. -/
theorem bare_outlineAll_number (next : NodeId) (ns : List Node) :
    bareContent (outlineAll (numberAll next ns).1) = bareContent (outlineAll ns) := by
  cases ns with
  | nil => rfl
  | cons n ns =>
    have hrest := bare_outlineAll_number (n.number next).2 ns
    rw [numberAll]
    dsimp only
    cases hn : n.isText with
    | true =>
      rw [outlineAll_cons_text hn, outlineAll_cons_text (by rw [Node.isText_number, hn]),
        bareContent_prepend, bareContent_prepend, hrest, Node.ownText_number]
    | false =>
      rw [outlineAll_cons_node hn, outlineAll_cons_node (by rw [Node.isText_number, hn]),
        bareContent, bareContent, hrest, Node.bare_outline_number next n]

end

end MarkupQuery.Tree
