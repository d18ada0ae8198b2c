import MarkupQuery.Xml.Reader

/-!
# References

Character references and entity references. Five entities are always known; others have to be
declared. The text that an entity stands for is its replacement with all references in it resolved
and all markup left out.
-/

namespace MarkupQuery.Xml

open MarkupQuery.Text MarkupQuery.Tree

/-! ## Character references -/

/-- The number that digits write, stopping beyond all characters. -/
def cappedNumber (base : Nat) (digits : List Nat) : Nat :=
  digits.foldl (fun n d => min (n * base + d) 0x110000) 0

/-- A decimal digit's value. -/
def decimalValue? (c : Char) : Option Nat := if isAsciiDigit c then some (c.toNat - 48) else none

/-- A numeric reference after its mark: the digits, and what follows them. -/
def spanDigits (value? : Char → Option Nat) : Chars → List Nat × Chars
  | [] => ([], [])
  | c :: r =>
      match value? c with
      | some d => let (ds, rest) := spanDigits value? r; (d :: ds, rest)
      | none => ([], c :: r)

/-- Reads a character reference, the unread text being at its ampersand. -/
def Reader.characterReference (r : Reader) : Reader × Option Char :=
  let (base, value?, body, kind) :=
    match r.input with
    | '&' :: '#' :: 'x' :: s => (16, hexValue?, s, "hexadecimal")
    | '&' :: '#' :: s => (10, decimalValue?, s, "decimal")
    | s => (10, decimalValue?, s, "decimal")
  let (digits, rest) := spanDigits value? body
  let (r, n) :=
    match rest with
    | ';' :: rest => (r.at_ rest, cappedNumber base digits)
    | _ => ((r.at_ rest).fatal s!"CharRef: invalid {kind} value", 0)
  if 0x110000 ≤ n then
    (r.fatal "xmlParseCharRef: character reference out of bounds", none)
  else if isXmlCode n then (r, some (Char.ofNat n))
  else (r.fatal s!"xmlParseCharRef: invalid xmlChar value {n}", none)

/-! ## Entities -/

/-- The entities that are always known. -/
def predefined? (name : Chars) : Option Char :=
  match String.ofList name with
  | "lt" => some '<'
  | "gt" => some '>'
  | "amp" => some '&'
  | "quot" => some '"'
  | "apos" => some '\''
  | _ => none

/-- What an entity name stands for. -/
inductive Meaning where
  /-- One character. -/
  | char (c : Char)
  /-- A declared entity. -/
  | declared (e : Entity)
  /-- Nothing known. -/
  | unknown

/-- Reads the name of an entity reference, the unread text being at its ampersand. -/
def Reader.entityName (r : Reader) : Reader × Option Chars :=
  let (name, rest) := spanName (r.input.drop 1)
  if name.isEmpty then ((r.at_ rest).fatal "xmlParseEntityRef: no name", none)
  else match rest with
    | ';' :: rest => (r.at_ rest, some name)
    | _ => ((r.at_ rest).fatal "EntityRef: expecting ';'", none)

/-- What a name stands for; an unknown one is noted. -/
def Reader.meaning (r : Reader) (name : Chars) : Reader × Meaning :=
  match predefined? name with
  | some c => (r, .char c)
  | none =>
      match r.entities.find? (·.1 == name) with
      | some (_, e) => (r, .declared e)
      | none =>
          let message := "Entity '" ++ String.ofList name ++ "' not defined"
          (if r.incomplete && !r.standsAlone then r.warn message else r.fatal message, .unknown)

/-- What follows the end of a piece of markup. -/
def skipPast (mark : String) (s : Chars) : Chars :=
  match cutAt mark.toList s with
  | some (_, rest) => rest
  | none => []

/-- The text of a replacement when the texts of all entities are known: references resolved, markup
left out. -/
def resolveText (texts : List (Chars × Chars)) : Nat → Chars → Chars
  | 0, _ => []
  | _, [] => []
  | fuel + 1, c :: r =>
      if c == '&' then
        match r with
        | '#' :: 'x' :: s =>
            let (ds, rest) := spanDigits hexValue? s
            Char.ofNat (cappedNumber 16 ds) :: resolveText texts fuel (rest.drop 1)
        | '#' :: s =>
            let (ds, rest) := spanDigits decimalValue? s
            Char.ofNat (cappedNumber 10 ds) :: resolveText texts fuel (rest.drop 1)
        | s =>
            let (name, rest) := spanName s
            let known := match predefined? name with
              | some d => [d]
              | none => ((texts.find? (·.1 == name)).map (·.2)).getD []
            known ++ resolveText texts fuel (rest.drop 1)
      else if c == '<' then
        match after? "![CDATA[".toList r with
        | some s =>
            match cutAt "]]>".toList s with
            | some (body, rest) => body ++ resolveText texts fuel rest
            | none => s
        | none =>
            if (after? "!--".toList r).isSome then resolveText texts fuel (skipPast "-->" r)
            else if r.head? == some '?' then resolveText texts fuel (skipPast "?>" r)
            else resolveText texts fuel (skipPast ">" r)
      else c :: resolveText texts fuel r

/-- The greatest length of an entity's text. -/
def longestEntity : Nat := 100000

/-- The entities with their contents worked out once more from the present ones. -/
def refineEntities (entities : List (Chars × Entity)) : List (Chars × Entity) :=
  let texts := entities.map fun e => (e.1, e.2.content)
  entities.map fun e =>
    let found := resolveText texts (e.2.replacement.length + 1) e.2.replacement
    (e.1, { e.2 with content := if e.2.isOutside then [] else found.take longestEntity })

/-- The entities with their contents. As many rounds as there are entities reach every chain of
references; what refers to itself stays short. -/
def resolveEntities (entities : List (Chars × Entity)) : List (Chars × Entity) :=
  Nat.repeat refineEntities entities.length entities

/-- Reads a reference in content. -/
def Reader.contentReference (r : Reader) : Reader :=
  match r.input with
  | '&' :: '#' :: _ =>
      match r.characterReference with
      | (r, some c) => r.addText [c]
      | (r, none) => r
  | _ =>
      match r.entityName with
      | (r, none) => r
      | (r, some name) =>
          match r.meaning name with
          | (r, .unknown) => r.addReference name []
          | (r, .char c) => if r.sound then r.addText [c] else r
          | (r, .declared e) =>
              if r.sound then r.addReference name e.content else r

end MarkupQuery.Xml
