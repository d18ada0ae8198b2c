import MarkupQuery.Text.Word
import MarkupQuery.Text.LetterCase

/-!
# Patterns

The syntax trees of regular patterns, with every flag already resolved: what a node matches does not
depend on where it stands. A pattern remembers its source text, the number of its groups and their
names. The width of a node bounds the length of the texts it matches; looking behind needs a fixed
width.
-/

namespace MarkupQuery.Pattern

open MarkupQuery.Text

/-! ## Flags -/

/-- The settings under which a part of a pattern is read. -/
structure Flags where
  /-- Letters match in either case. -/
  ignoreCase : Bool := false
  /-- The line anchors also match at inner line ends. -/
  multiline : Bool := false
  /-- The dot matches line ends too. -/
  dotAll : Bool := false
  /-- Blanks and comments in the pattern are skipped. -/
  verbose : Bool := false
  /-- Character classes and case are those of ASCII. -/
  ascii : Bool := false
  deriving DecidableEq, Repr, Inhabited

/-! ## Syntax -/

/-- A named class of characters. -/
inductive CharClass where
  | digit
  | space
  | word
  deriving DecidableEq, Repr

/-- A member of a character set. Characters are given by code point. -/
inductive SetItem where
  | one (code : Nat)
  | range (low high : Nat)
  | category (kind : CharClass) (negated : Bool)
  deriving DecidableEq, Repr

/-- A condition on a position. -/
inductive Anchor where
  /-- The start of the text. -/
  | textStart
  /-- The start of the text or, in multiline patterns, of a line. -/
  | lineStart (multiline : Bool)
  /-- The end of the text. -/
  | textEnd
  /-- The end of the text, also before a last line end, or in multiline patterns of a line. -/
  | lineEnd (multiline : Bool)
  /-- A place between a word character and another one or an end of the text. -/
  | wordBoundary (negated ascii : Bool)
  deriving DecidableEq, Repr

/-- How many repetitions a repeat tries first. -/
inductive Greed where
  /-- As many as possible, fewer if what follows does not match. -/
  | greedy
  /-- As few as possible, more if what follows does not match. -/
  | reluctant
  /-- As many as possible, and never fewer. -/
  | possessive
  deriving DecidableEq, Repr

/-- The syntax trees. -/
inductive Node where
  /-- One character out of a set. -/
  | chars (negated : Bool) (items : List SetItem) (flags : Flags)
  /-- Any character, line ends included if `dotAll`. -/
  | anyChar (dotAll : Bool)
  /-- One part after the other. -/
  | sequence (parts : List Node)
  /-- The first of several parts that lets the rest match. -/
  | choice (branches : List Node)
  /-- A part repeated between `least` and `most` times. -/
  | repeated (greed : Greed) (least : Nat) (most : Option Nat) (body : Node)
  /-- A part whose text is kept under a number. -/
  | group (index : Nat) (body : Node)
  /-- A part whose first match is final. -/
  | atomic (body : Node)
  /-- A part that has to match, or must not, without taking characters. `behind` is the number of
  characters that it starts before the position, if it looks behind. -/
  | look (behind : Option Nat) (negated : Bool) (body : Node)
  /-- The text that a group has taken. -/
  | backreference (index : Nat) (flags : Flags)
  /-- One of two parts, by whether a group has taken part. -/
  | conditional (index : Nat) (present absent : Node)
  /-- A condition on the position. -/
  | anchor (at_ : Anchor)
  deriving Repr, Inhabited

/-- A pattern ready for matching. -/
structure Regex where
  /-- The text it was read from. -/
  source : Chars
  /-- The number of its groups. -/
  groups : Nat
  /-- The names of its groups. -/
  names : List (String × Nat)
  /-- What it matches. -/
  body : Node
  deriving Repr, Inhabited

/-! ## Width -/

/-- The least and the greatest number of characters that a part can take. -/
structure Width where
  least : Nat
  most : Nat
  deriving DecidableEq, Repr, Inhabited

/-- All widths from here on count as unbounded. -/
def Width.limit : Nat := Nat.pow 2 64

/-- A width with both ends cut at the limit. -/
def Width.capped (w : Width) : Width := ⟨min w.least Width.limit, min w.most Width.limit⟩

/-- Whether the two ends agree. -/
def Width.isFixed (w : Width) : Bool := w.least == w.most

mutual

/-- The width of a part, given the widths of the groups closed before it. -/
def Node.width (closed : Nat → Width) : Node → Width
  | .chars .. | .anyChar _ => ⟨1, 1⟩
  | .sequence parts => (widthOfAll closed parts).capped
  | .choice branches => (widthOfAny closed branches).capped
  | .repeated _ least most body =>
      let w := body.width closed
      let high := match most with
        | none => if w.most == 0 then 0 else Width.limit
        | some n => w.most * n
      (Width.mk (w.least * least) high).capped
  | .group _ body => body.width closed
  | .atomic body => body.width closed
  | .look .. | .anchor _ => ⟨0, 0⟩
  | .backreference i _ => closed i
  | .conditional _ present absent =>
      let p := present.width closed
      let a := absent.width closed
      ⟨min p.least a.least, max p.most a.most⟩

/-- The width of parts one after the other. -/
def widthOfAll (closed : Nat → Width) : List Node → Width
  | [] => ⟨0, 0⟩
  | p :: ps =>
      let w := p.width closed
      let r := widthOfAll closed ps
      ⟨w.least + r.least, w.most + r.most⟩

/-- The width of one of several parts. -/
def widthOfAny (closed : Nat → Width) : List Node → Width
  | [] => ⟨Width.limit, 0⟩
  | p :: ps =>
      let w := p.width closed
      let r := widthOfAny closed ps
      ⟨min w.least r.least, max w.most r.most⟩

end

end MarkupQuery.Pattern
