import MarkupQuery.Pattern.Reader
import MarkupQuery.Pattern.Segments

/-!
# Replacement templates

A template is text with references to groups: `\1`, `\g<1>` or `\g<name>`. Escapes for control
characters and octal numbers stand for their characters. References are resolved against a pattern
when the template is read.
-/

namespace MarkupQuery.Pattern

open MarkupQuery.Text

/-- A part of a template. -/
inductive TemplatePart where
  | text (s : Chars)
  | group (index : Nat)
  deriving DecidableEq, Repr

/-- What can stop the reading of a template. -/
inductive TemplateFault where
  /-- The template is wrong. -/
  | malformed (error : PatternError)
  /-- It refers to a group by a name that the pattern does not have. -/
  | unknownName (name : String)
  deriving Repr

/-- A reference by name or number in angle brackets. -/
def bracketReference (names : List (String × Nat)) : Read (Nat ⊕ String) := do
  if !(← accept '<') then failBack "missing <" 0
  else
    let name ← takeName '>' "group name" ((← get).source.rest.length + 2) []
    if isIdentifier name then
      let key := String.ofList name
      match names.find? (·.1 == key) with
      | some (_, i) => return .inl i
      | none => return .inr key
    else
      match groupNumber? name with
      | some (.ofNat i) =>
          if groupLimit ≤ i then failBack s!"invalid group reference {i}" (name.length + 1)
          else return .inl i
      | _ =>
          failBack s!"bad character in group name {quotedString (String.ofList name)}"
            (name.length + 1)

/-- A reference is refused when the pattern has no such group. -/
def checkGroup (groups index : Nat) (back : Nat) : Read TemplatePart := do
  if groups < index then failBack s!"invalid group reference {index}" back
  else return .group index

/-- A backslash followed by digits: an octal number or a reference. -/
def digitReference (groups : Nat) (c : Char) : Read TemplatePart := do
  if c == '0' then
    let ds ← takeWhileClass isOctal 2
    return .text [Char.ofNat (octalNumber ds % 256)]
  else
    match ← takeWhileClass isAsciiDigit 1 with
    | [d] =>
        if isOctal c && isOctal d then
          match ← takeWhileClass isOctal 1 with
          | [e] => return .text [Char.ofNat (← checkOctal [c, d, e])]
          | _ => checkGroup groups (decimalNumber [c, d]) 2
        else checkGroup groups (decimalNumber [c, d]) 2
    | _ => checkGroup groups (decimalNumber [c]) 1

/-- The parts of a template, or the name of a group that does not exist. -/
def templateParts (groups : Nat) (names : List (String × Nat)) :
    Nat → Read (List TemplatePart ⊕ String)
  | 0 => return .inl []
  | fuel + 1 => do
      let cons (p : TemplatePart) : Read (List TemplatePart ⊕ String) := do
        match ← templateParts groups names fuel with
        | .inl ps => return .inl (p :: ps)
        | .inr name => return .inr name
      match ← next with
      | none => return .inl []
      | some (.plain c) => cons (.text [c])
      | some (.escaped 'g') =>
          let start := (← get).source.position
          match ← bracketReference names with
          | .inr name => return .inr name
          | .inl i => cons (← checkGroup groups i ((← get).source.position - start - 1))
      | some (.escaped c) =>
          if isAsciiDigit c then cons (← digitReference groups c)
          else
            match controlEscape? c with
            | some n => cons (.text [Char.ofNat n])
            | none =>
                if isAsciiLetter c then failBack s!"bad escape {escapeText c}" 2
                else cons (.text ['\\', c])

/-- Reads a template for a pattern with the given groups. -/
def readTemplate (groups : Nat) (names : List (String × Nat)) (text : Chars) :
    Except TemplateFault (List TemplatePart) :=
  if !text.contains '\\' then .ok [.text text]
  else match Source.start text with
  | .error e => .error (.malformed e)
  | .ok s =>
      match (templateParts groups names (text.length + 1)).run ⟨s, {}, [], [], none, [], (false, false)⟩ with
      | .error (.malformed e) => .error (.malformed e)
      | .error _ => .ok []
      | .ok (.inl parts, _) => .ok parts
      | .ok (.inr name, _) => .error (.unknownName name)

/-- The text that a template gives for a match; groups that took no part give nothing. -/
def expand (parts : List TemplatePart) (m : Match) : Chars :=
  parts.flatMap fun
    | .text s => s
    | .group i => (m.group i).getD []

end MarkupQuery.Pattern
