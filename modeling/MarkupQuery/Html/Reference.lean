import Std.Data.HashMap.Basic
import MarkupQuery.Html.NamedCharacters
import MarkupQuery.Text.Word

/-!
# References to characters

Numeric references and names. Codes that stand for no character, or for a control character that old
documents use for something else, are replaced. Of several names that fit, the longest counts; in
attributes a name without semicolon does not count if the text goes on like a word or a parameter.
-/

namespace MarkupQuery.Html

open MarkupQuery.Text

/-! ## Numbers -/

/-- What the codes from 128 to 159 stand for. -/
def oldCodes : List Nat := [
  0x20ac, 0x81, 0x201a, 0x0192, 0x201e, 0x2026, 0x2020, 0x2021, 0x02c6, 0x2030, 0x0160, 0x2039,
  0x0152, 0x8d, 0x017d, 0x8f, 0x90, 0x2018, 0x2019, 0x201c, 0x201d, 0x2022, 0x2013, 0x2014, 0x02dc,
  0x2122, 0x0161, 0x203a, 0x0153, 0x9d, 0x017e, 0x0178]

/-- The character that a numeric reference stands for. -/
def numbered (n : Nat) : Char :=
  if n == 0 || 0x10ffff < n || (0xd800 ≤ n && n < 0xe000) then '\ufffd'
  else if 128 ≤ n && n < 160 then Char.ofNat ((oldCodes[n - 128]?).getD 0xfffd)
  else Char.ofNat n

/-- The number that digits write, stopping beyond all characters. -/
def cappedValue (base : Nat) (digits : Chars) : Nat :=
  digits.foldl (fun n c => min (n * base + (hexValue? c).getD 0) 0x110000) 0

/-- The character of a numeric reference after its number sign, and what follows the reference. -/
def numericReference? (s : Chars) : Option (Char × Chars) :=
  let (base, isDigit, body) : Nat × (Char → Bool) × Chars :=
    match s with
    | 'x' :: r => (16, fun c => (hexValue? c).isSome, r)
    | 'X' :: r => (16, fun c => (hexValue? c).isSome, r)
    | r => (10, isAsciiDigit, r)
  let digits := body.takeWhile isDigit
  if digits.isEmpty then none
  else
    let rest := match body.dropWhile isDigit with
      | ';' :: r => r
      | r => r
    some (numbered (cappedValue base digits), rest)

/-! ## Names -/

/-- A named character: whether its name may stand without a semicolon, and what it stands for. -/
abbrev NamedCharacter := Bool × Chars

/-- An entry of the table. -/
def readEntry (entry : String) : String × NamedCharacter :=
  let name := entry.toList.takeWhile (· != '=')
  let codes := (entry.toList.dropWhile (· != '=')).drop 1
  let chars := (codes.splitOn '+').map fun ds =>
    Char.ofNat (ds.foldl (fun n c => 16 * n + (hexValue? c).getD 0) 0)
  if name.getLast? == some '*' then (String.ofList name.dropLast, true, chars)
  else (String.ofList name, false, chars)

/-- The named characters. -/
def namedCharacters : Std.HashMap String NamedCharacter :=
  let entries := namedCharacterLines.flatMap fun line => line.splitOn " "
  entries.foldl (fun m e => let p := readEntry e; m.insert p.1 p.2) ∅

/-- The longest name. -/
def longestName : Nat := 32

/-- The longest name of at most `n` characters that a text starts with: what it stands for, whether a
semicolon follows, and what follows then. -/
def nameOf? (s : Chars) : Nat → Option (Chars × Bool × Chars)
  | 0 => none
  | n + 1 =>
      let found := namedCharacters[String.ofList (s.take (n + 1))]?
      match found, s.drop (n + 1) with
      | some (_, cs), ';' :: r => some (cs, true, r)
      | some (true, cs), r => some (cs, false, r)
      | _, _ => nameOf? s n

/-- A named reference after its ampersand. -/
def namedReference? (inAttribute : Bool) (s : Chars) : Option (Chars × Chars) :=
  let word := s.takeWhile fun c => isAsciiLetter c || isAsciiDigit c
  match nameOf? s (min word.length longestName) with
  | none => none
  | some (cs, closed, r) =>
      let goesOn := r.head?.any fun c => c == '=' || isAsciiLetter c || isAsciiDigit c
      if inAttribute && !closed && goesOn then none else some (cs, r)

/-- What a reference after its ampersand stands for, and what follows it. -/
def reference? (inAttribute : Bool) (s : Chars) : Option (Chars × Chars) :=
  match s with
  | '#' :: r => (numericReference? r).map fun p => ([p.1], p.2)
  | _ => namedReference? inAttribute s

/-- A text with its references resolved and its line ends unified; the character zero is replaced. -/
def resolve (inAttribute : Bool) : Nat → Chars → Chars
  | 0, s => s
  | _, [] => []
  | fuel + 1, '&' :: r =>
      match reference? inAttribute r with
      | some (cs, rest) => cs ++ resolve inAttribute fuel rest
      | none => '&' :: resolve inAttribute fuel r
  | fuel + 1, '\r' :: '\n' :: r => '\n' :: resolve inAttribute fuel r
  | fuel + 1, '\r' :: r => '\n' :: resolve inAttribute fuel r
  | fuel + 1, '\x00' :: r => '\ufffd' :: resolve inAttribute fuel r
  | fuel + 1, c :: r => c :: resolve inAttribute fuel r

/-- A text in which nothing is resolved, with its line ends unified; the character zero is replaced. -/
def unify : Chars → Chars
  | [] => []
  | '\r' :: '\n' :: r => '\n' :: unify r
  | '\r' :: r => '\n' :: unify r
  | '\x00' :: r => '\ufffd' :: unify r
  | c :: r => c :: unify r

end MarkupQuery.Html
