import MarkupQuery.Pattern.Basic

/-!
# Matching

A matcher takes what should happen after it as an argument and tries its ways in order until one of
them lets the rest succeed. It is recursive on the pattern; only the loops of repeats carry a bound,
which every useful repetition lowers, because a repetition that takes nothing is not tried twice.
-/

namespace MarkupQuery.Pattern

open MarkupQuery.Text

/-! ## Characters -/

/-- Whether a character belongs to a class. -/
def CharClass.holds (k : CharClass) (ascii : Bool) (c : Char) : Bool :=
  match k with
  | .digit => if ascii then isAsciiDigit c else isDecimal c
  | .space =>
      if ascii then c == ' ' || (9 ≤ c.toNat && c.toNat ≤ 13) else isBlank c
  | .word => if ascii then isAsciiWord c else isWord c

/-- Whether a set item holds a character. -/
def SetItem.holds (ascii : Bool) (c : Char) : SetItem → Bool
  | .one n => c.toNat == n
  | .range low high => low ≤ c.toNat && c.toNat ≤ high
  | .category k negated => k.holds ascii c != negated

/-- The characters that a character may stand for: itself, or all that differ from it in case. -/
def caseForms (flags : Flags) (c : Char) : List Char :=
  if !flags.ignoreCase then [c]
  else if flags.ascii then [lowerAsciiChar c, upperAsciiChar c]
  else
    let low := lowerChar c
    (low :: (twinsOf low.toNat).map Char.ofNat).flatMap raisedForms

/-- Whether a set matches a character. -/
def setMatches (negated : Bool) (items : List SetItem) (flags : Flags) (c : Char) : Bool :=
  (items.any fun i =>
    match i with
    | .category .. => i.holds flags.ascii c
    | _ => (caseForms flags c).any (i.holds flags.ascii)) != negated

/-- A node that matches exactly one character, as a test on it. -/
def Node.single? : Node → Option (Char → Bool)
  | .chars negated items flags => some (setMatches negated items flags)
  | .anyChar dotAll => some fun c => dotAll || c != '\n'
  | _ => none

/-! ## States -/

/-- The text that a group has taken. -/
structure Capture where
  start : Nat
  stop : Nat
  text : Chars
  deriving DecidableEq, Repr, Inhabited

/-- A place in a text, with what groups have taken so far. -/
structure Place where
  /-- The characters before the place, the nearest first. -/
  before : Chars
  /-- The characters after the place. -/
  rest : Chars
  /-- The number of characters before the place. -/
  position : Nat
  /-- What groups have taken, the latest first. -/
  captures : List (Nat × Capture)
  deriving Repr, Inhabited

/-- What has to happen next. -/
abbrev Continue := Place → Option Place

/-- A way to go on from a place. -/
abbrev Matcher := Continue → Continue

/-- The start of a text. -/
def Place.atStart (text : Chars) : Place := ⟨[], text, 0, []⟩

/-- One character further. -/
def Place.step? (p : Place) : Option (Char × Place) :=
  match p.rest with
  | [] => none
  | c :: r => some (c, { p with before := c :: p.before, rest := r, position := p.position + 1 })

/-- A number of characters back. -/
def Place.back? : Nat → Place → Option Place
  | 0, p => some p
  | n + 1, p =>
      match p.before with
      | [] => none
      | c :: b => Place.back? n { p with before := b, rest := c :: p.rest, position := p.position - 1 }

/-- What a group has taken last. -/
def Place.capture? (p : Place) (i : Nat) : Option Capture :=
  (p.captures.find? (·.1 == i)).map (·.2)

/-! ## Anchors -/

/-- Whether an anchor holds at a place. -/
def Anchor.holds (a : Anchor) (p : Place) : Bool :=
  match a with
  | .textStart => p.before.isEmpty
  | .lineStart multiline => p.before.isEmpty || (multiline && p.before.head? == some '\n')
  | .textEnd => p.rest.isEmpty
  | .lineEnd multiline =>
      p.rest.isEmpty || p.rest == ['\n'] || (multiline && p.rest.head? == some '\n')
  | .wordBoundary negated ascii =>
      let word (c : Char) : Bool := CharClass.word.holds ascii c
      if p.before.isEmpty && p.rest.isEmpty then false
      else ((p.before.head?.any word) != (p.rest.head?.any word)) != negated

/-! ## Repeats -/

/-- As many single characters as possible, then fewer. The list holds the places where the
repetition may end, the longest first. -/
def singlesFrom (test : Char → Bool) : Chars → Place → Nat → Option Nat → List Place → List Place
  | [], p, least, _, ends => if least == 0 then p :: ends else ends
  | c :: r, p, least, most, ends =>
      let ends := if least == 0 then p :: ends else ends
      if most == some 0 then ends
      else if test c then
        singlesFrom test r { p with before := c :: p.before, rest := r, position := p.position + 1 }
          (least - 1) (most.map (· - 1)) ends
      else ends

/-- Goes on from the first place that lets the rest succeed. -/
def firstOf (k : Continue) : List Place → Option Place
  | [] => none
  | p :: ps =>
      match k p with
      | some r => some r
      | none => firstOf k ps

/-- Repeats as often as possible before going on. -/
def repeatGreedy (body : Matcher) (k : Continue) (least : Nat) (most : Option Nat) :
    Nat → Nat → Option Nat → Continue
  | 0, _, _, p => k p
  | fuel + 1, count, last, p =>
      if count < least then body (repeatGreedy body k least most fuel (count + 1) last) p
      else if most.all (count < ·) && last != some p.position then
        match body (repeatGreedy body k least most fuel (count + 1) (some p.position)) p with
        | some r => some r
        | none => k p
      else k p

/-- Repeats as rarely as possible before going on. -/
def repeatReluctant (body : Matcher) (k : Continue) (least : Nat) (most : Option Nat) :
    Nat → Nat → Option Nat → Continue
  | 0, _, _, p => k p
  | fuel + 1, count, last, p =>
      if count < least then body (repeatReluctant body k least most fuel (count + 1) last) p
      else
        match k p with
        | some r => some r
        | none =>
            if most.all (count < ·) && last != some p.position then
              body (repeatReluctant body k least most fuel (count + 1) (some p.position)) p
            else none

/-- Repeats as often as possible and for good. -/
def repeatPossessive (body : Matcher) (least : Nat) (most : Option Nat) :
    Nat → Nat → Option Nat → Continue
  | 0, _, _, p => some p
  | fuel + 1, count, last, p =>
      if count < least then (body some p).bind (repeatPossessive body least most fuel (count + 1) last)
      else if most.all (count < ·) && last != some p.position then
        match body some p with
        | some q => repeatPossessive body least most fuel (count + 1) (some p.position) q
        | none => some p
      else some p

/-- The text that a group has taken, character by character. -/
def matchText (same : Char → Char → Bool) : Chars → Place → Option Place
  | [], p => some p
  | c :: cs, p =>
      match p.step? with
      | some (d, q) => if same c d then matchText same cs q else none
      | none => none

/-- Whether two characters count as equal. -/
def sameChar (flags : Flags) (c d : Char) : Bool :=
  if !flags.ignoreCase then c == d
  else if flags.ascii then lowerAsciiChar c == lowerAsciiChar d
  else lowerChar c == lowerChar d

/-! ## The matcher -/

mutual

/-- Matches a part and then what follows. -/
def Node.run : Node → Matcher
  | .chars negated items flags, k, p =>
      match p.step? with
      | some (c, q) => if setMatches negated items flags c then k q else none
      | none => none
  | .anyChar dotAll, k, p =>
      match p.step? with
      | some (c, q) => if dotAll || c != '\n' then k q else none
      | none => none
  | .sequence parts, k, p => runAll parts k p
  | .choice branches, k, p => runAny branches k p
  | .repeated greed least most body, k, p =>
      let bound := least + p.rest.length + 2
      match greed, body.single? with
      | .greedy, some test => firstOf k (singlesFrom test p.rest p least most [])
      | .possessive, some test =>
          match singlesFrom test p.rest p least most [] with
          | q :: _ => k q
          | [] => none
      | .greedy, none => repeatGreedy body.run k least most bound 0 none p
      | .reluctant, _ => repeatReluctant body.run k least most bound 0 none p
      | .possessive, none => (repeatPossessive body.run least most bound 0 none p).bind k
  | .group index body, k, p =>
      if index == 0 then body.run k p
      else
        body.run (fun q =>
          let taken := p.rest.take (q.position - p.position)
          k { q with captures := (index, ⟨p.position, q.position, taken⟩) :: q.captures }) p
  | .atomic body, k, p => (body.run some p).bind k
  | .look behind negated body, k, p =>
      let found : Option Place :=
        match behind with
        | none => body.run some p
        | some n => (p.back? n).bind (body.run some)
      match found, negated with
      | some q, false => k { p with captures := q.captures }
      | none, true => k p
      | _, _ => none
  | .backreference index flags, k, p =>
      match p.capture? index with
      | none => none
      | some c => (matchText (sameChar flags) c.text p).bind k
  | .conditional index present absent, k, p =>
      if (p.capture? index).isSome then present.run k p else absent.run k p
  | .anchor a, k, p => if a.holds p then k p else none

/-- Matches parts one after the other. -/
def runAll : List Node → Matcher
  | [], k, p => k p
  | n :: ns, k, p => n.run (runAll ns k) p

/-- Matches the first part that lets the rest succeed. -/
def runAny : List Node → Matcher
  | [], _, _ => none
  | n :: ns, k, p =>
      match n.run k p with
      | some r => some r
      | none => runAny ns k p

end

end MarkupQuery.Pattern
