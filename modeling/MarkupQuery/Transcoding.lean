import MarkupQuery.Text.Blank

/-!
# Markup as code points

Markup reaches a parser as a list of code points, lone surrogates included. HTML is reduced to ASCII,
every other code point becoming a numeric reference; XML is handed over in UTF-8, surrogates encoded
like other code points of their size, which a parser reads as malformed bytes.
-/

namespace MarkupQuery

open MarkupQuery.Text

/-- A text as code points; it may hold lone surrogates. -/
abbrev CodePoints := List Nat

/-- The code points of a text. -/
def codePoints (s : Chars) : CodePoints := s.map Char.toNat

/-! ## HTML -/

/-- A decimal reference to a code point. -/
def numericReference (n : Nat) : Chars := '&' :: '#' :: Nat.toDigits 10 n ++ [';']

/-- One code point in ASCII. -/
def asciiUnit (n : Nat) : Chars := if n < 128 then [Char.ofNat n] else numericReference n

/-- Markup in ASCII. -/
def toAscii (m : CodePoints) : Chars := m.flatMap asciiUnit

/-! ## XML -/

/-- One code point in UTF-8. -/
def utf8Unit (n : Nat) : List UInt8 :=
  if n < 0x80 then [UInt8.ofNat n]
  else if n < 0x800 then [UInt8.ofNat (0xc0 + n / 64), UInt8.ofNat (0x80 + n % 64)]
  else if n < 0x10000 then
    [UInt8.ofNat (0xe0 + n / 4096), UInt8.ofNat (0x80 + n / 64 % 64), UInt8.ofNat (0x80 + n % 64)]
  else
    [UInt8.ofNat (0xf0 + n / 262144), UInt8.ofNat (0x80 + n / 4096 % 64),
      UInt8.ofNat (0x80 + n / 64 % 64), UInt8.ofNat (0x80 + n % 64)]

/-- Markup in UTF-8. -/
def toUtf8 (m : CodePoints) : List UInt8 := m.flatMap utf8Unit

/-- Whether a code point is a surrogate. -/
def isSurrogate (n : Nat) : Bool := 0xd800 ≤ n && n < 0xe000

/-- The characters that a parser sees of markup in UTF-8: each byte of a surrogate is malformed and
becomes the replacement character. -/
def seenInUtf8 (m : CodePoints) : Chars :=
  m.flatMap fun n => if isSurrogate n then ['\ufffd', '\ufffd', '\ufffd'] else [Char.ofNat n]

end MarkupQuery
