import MarkupQuery.Text.Word

/-!
# Characters of XML

Which characters may stand in XML at all, and which may start or continue a name.
-/

namespace MarkupQuery.Xml

open MarkupQuery.Text

/-- A character that XML allows. -/
def isXmlCode (n : Nat) : Bool :=
  n == 9 || n == 10 || n == 13 || (32 ≤ n && n ≤ 0xd7ff) || (0xe000 ≤ n && n ≤ 0xfffd) ||
    (0x10000 ≤ n && n ≤ 0x10ffff)

/-- A character that XML allows. -/
def isXmlChar (c : Char) : Bool := isXmlCode c.toNat

/-- The characters beyond ASCII that may start a name. -/
def nameStartRanges : List (Nat × Nat) :=
  [(0xc0, 0xd6), (0xd8, 0xf6), (0xf8, 0x2ff), (0x370, 0x37d), (0x37f, 0x1fff), (0x200c, 0x200d),
    (0x2070, 0x218f), (0x2c00, 0x2fef), (0x3001, 0xd7ff), (0xf900, 0xfdcf), (0xfdf0, 0xfffd),
    (0x10000, 0xeffff)]

/-- The characters beyond ASCII that may continue a name but not start one. -/
def nameMoreRanges : List (Nat × Nat) := [(0xb7, 0xb7), (0x300, 0x36f), (0x203f, 0x2040)]

/-- A character that may start a name without a prefix. -/
def isNameStart (c : Char) : Bool :=
  isAsciiLetter c || c == '_' || (128 ≤ c.toNat && inRanges nameStartRanges c.toNat)

/-- A character that may continue a name without a prefix. -/
def isNameChar (c : Char) : Bool :=
  isNameStart c || isAsciiDigit c || c == '-' || c == '.' ||
    (128 ≤ c.toNat && inRanges nameMoreRanges c.toNat)

/-- A name without a colon at the start of a text, empty if there is none. -/
def spanPlainName (s : Chars) : Chars × Chars :=
  match s with
  | c :: r =>
      if isNameStart c then (c :: r.takeWhile isNameChar, r.dropWhile isNameChar) else ([], s)
  | [] => ([], [])

/-- A name that may hold colons at the start of a text, empty if there is none. -/
def spanName (s : Chars) : Chars × Chars :=
  match s with
  | c :: r =>
      if isNameStart c || c == ':' then
        let more (d : Char) : Bool := isNameChar d || d == ':'
        (c :: r.takeWhile more, r.dropWhile more)
      else ([], s)
  | [] => ([], [])

end MarkupQuery.Xml
