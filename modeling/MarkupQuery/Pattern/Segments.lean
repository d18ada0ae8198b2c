import MarkupQuery.Pattern.Matching

/-!
# Cutting texts at matches

The matches of a pattern in a text do not overlap, and an empty match may not stand where the one
before it was empty too. Everything done with all matches of a text starts from its *segments*: the
matches in order, each with the text before it, and the text after the last one. Splitting keeps the
texts between, matching keeps the matches, substituting replaces them.
-/

namespace MarkupQuery.Pattern

open MarkupQuery.Text

/-! ## Matches -/

/-- One match of a pattern. -/
structure Match where
  /-- Where it starts. -/
  start : Nat
  /-- Where it ends. -/
  stop : Nat
  /-- The text it takes. -/
  text : Chars
  /-- The texts of the groups from the first on, where they took part. -/
  groups : List (Option Chars)
  /-- The names of the groups. -/
  names : List (String × Nat)
  deriving DecidableEq, Repr, Inhabited

/-- The text of a group; the whole match is group zero. -/
def Match.group (m : Match) (i : Nat) : Option Chars :=
  if i == 0 then some m.text else (m.groups[i - 1]?).join

/-- The match of a pattern at a place. If `advance` is set it has to take something. -/
def Regex.matchAt? (r : Regex) (p : Place) (advance : Bool) : Option Place :=
  r.body.run (fun q => if advance && q.position == p.position then none else some q)
    { p with captures := [] }

/-- The match that leads from one place to another. -/
def Regex.matchOf (r : Regex) (p q : Place) : Match :=
  { start := p.position
    stop := q.position
    text := p.rest.take (q.position - p.position)
    groups := (List.range r.groups).map fun i => (q.capture? (i + 1)).map (·.text)
    names := r.names }

/-- The first match at a place or after it, with the text skipped before it, the last first. -/
def Regex.search (r : Regex) : Chars → Place → Bool → Chars → Option (Chars × Match × Place)
  | [], p, advance, skipped =>
      (r.matchAt? p advance).map fun q => (skipped.reverse, r.matchOf p q, q)
  | c :: rest, p, advance, skipped =>
      match r.matchAt? p advance with
      | some q => some (skipped.reverse, r.matchOf p q, q)
      | none =>
          r.search rest { p with before := c :: p.before, rest, position := p.position + 1 } false
            (c :: skipped)

/-! ## Segments -/

/-- A text cut at the matches of a pattern. -/
structure Segments where
  /-- The matches, each with the text between it and the one before. -/
  pieces : List (Chars × Match)
  /-- The text after the last match. -/
  last : Chars
  deriving Repr, Inhabited

/-- The segments from a place on. Every match raises the position or is empty where the one before
was not, so twice the length of the rest is bound enough. -/
def Regex.segmentsFrom (r : Regex) : Nat → Place → Bool → Segments
  | 0, p, _ => ⟨[], p.rest⟩
  | fuel + 1, p, advance =>
      match r.search p.rest p advance [] with
      | none => ⟨[], p.rest⟩
      | some (gap, m, q) =>
          let s := r.segmentsFrom fuel q (m.start == m.stop)
          ⟨(gap, m) :: s.pieces, s.last⟩

/-- The segments of a text. -/
def Regex.segments (r : Regex) (text : Chars) : Segments :=
  r.segmentsFrom (2 * text.length + 2) (Place.atStart text) false

/-- The matches of a text. -/
def Regex.matches (r : Regex) (text : Chars) : List Match :=
  (r.segments text).pieces.map (·.2)

/-- The texts between the matches, and after each the groups of the match. -/
def Regex.split (r : Regex) (text : Chars) : List (Option Chars) :=
  let s := r.segments text
  s.pieces.flatMap (fun p => some p.1 :: p.2.groups) ++ [some s.last]

/-- The text with every match replaced. -/
def Segments.substitute (s : Segments) (f : Match → Chars) : Chars :=
  s.pieces.flatMap (fun p => p.1 ++ f p.2) ++ s.last

/-- The text with every match replaced, where replacing may fail; the first failure wins. -/
def Segments.substituteM {ε : Type} (s : Segments) (f : Match → Except ε Chars) :
    Except ε Chars := do
  let parts ← s.pieces.mapM fun p => do return p.1 ++ (← f p.2)
  return parts.flatten ++ s.last

end MarkupQuery.Pattern
