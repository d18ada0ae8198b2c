import MarkupQuery.Text.Blank

/-!
# Places in a configuration text

Reading goes through the text once. A cursor is the rest of the text together with where it begins:
how many characters, lines and columns lie before it. Lines end with a line feed, a next-line
character or one of the two separators; the first two mean the same. Main statements: moving on
shortens the rest and counts what was passed.
-/

namespace MarkupQuery.Yaml

open MarkupQuery.Text

/-! ## Characters -/

/-- The characters that end lines. -/
def isBreak (c : Char) : Bool :=
  c == '\n' || c == '\x85' || c == '\u2028' || c == '\u2029'

/-- The characters that a configuration may hold. -/
def isAllowed (c : Char) : Bool :=
  let n := c.toNat
  n == 9 || n == 10 || n == 13 || (0x20 ≤ n && n ≤ 0x7e) || n == 0x85 ||
    (0xa0 ≤ n && n ≤ 0xd7ff) || (0xe000 ≤ n && n ≤ 0xfffd) || 0x10000 ≤ n

/-- The characters of the names of anchors and directives. -/
def isNameChar (c : Char) : Bool := c.isAlphanum || c == '-' || c == '_'

/-- Whether a line ends before a character: it is a line end, or the text is over. -/
def endsLine (c : Option Char) : Bool := c.all isBreak

/-- Whether a line or a run of spaces begins here. -/
def endsPart (c : Option Char) : Bool := c.all fun c => c == ' ' || isBreak c

/-- Whether a word ends before a character: a space, a tab, a line end, or the end of the text. -/
def endsWord (c : Option Char) : Bool := c.all fun c => c == ' ' || c == '\t' || isBreak c

/-! ## Cursors -/

/-- The rest of a text, and what lies before it. -/
structure Cursor where
  rest : Chars
  index : Nat
  line : Nat
  column : Nat

/-- The start of a text. -/
def Cursor.start (text : Chars) : Cursor := ⟨text, 0, 0, 0⟩

/-- The next character. -/
def Cursor.peek (c : Cursor) : Option Char := c.rest.head?

/-- The character after the next one. -/
def Cursor.second (c : Cursor) : Option Char := c.rest[1]?

/-- Whether a certain character is next. -/
def Cursor.at? (c : Cursor) (x : Char) : Bool := c.peek == some x

/-- The place after the next character. Byte order marks take no column. -/
def Cursor.next (c : Cursor) : Cursor :=
  match c.rest with
  | [] => c
  | x :: r =>
      if isBreak x then ⟨r, c.index + 1, c.line + 1, 0⟩
      else ⟨r, c.index + 1, c.line, if x == '\ufeff' then c.column else c.column + 1⟩

/-- The place after some characters. -/
def Cursor.skip : Nat → Cursor → Cursor
  | 0, c => c
  | n + 1, c => Cursor.skip n c.next

/-- The characters up to the first that does not fit, and the place after them. -/
def Cursor.span (c : Cursor) (fits : Char → Bool) : Chars × Cursor :=
  let part := c.rest.takeWhile fits
  (part, Cursor.skip part.length c)

/-- The place of the first character that does not fit. -/
def Cursor.skipWhile (c : Cursor) (fits : Char → Bool) : Cursor := (c.span fits).2

/-- Moving on drops one character. -/
@[simp] theorem Cursor.rest_next (c : Cursor) : c.next.rest = c.rest.tail := by
  unfold Cursor.next
  cases h : c.rest with
  | nil => simp [h]
  | cons x r => by_cases hb : isBreak x <;> simp [hb]

/-- Skipping drops as many characters as are skipped. -/
@[simp] theorem Cursor.rest_skip (n : Nat) (c : Cursor) : (Cursor.skip n c).rest = c.rest.drop n := by
  induction n generalizing c with
  | zero => rfl
  | succ n ih => simp [Cursor.skip, ih]

/-- What fits and what is left make up the text. -/
theorem Cursor.span_append (c : Cursor) (fits : Char → Bool) :
    (c.span fits).1 ++ (c.span fits).2.rest = c.rest := by
  simp only [Cursor.span, Cursor.rest_skip]
  exact List.prefix_iff_eq_append.mp (List.takeWhile_prefix fits)

/-! ## Lines -/

/-- What a line end stands for, and the place after it; nothing if there is none. -/
def Cursor.lineBreak (c : Cursor) : Chars × Cursor :=
  match c.peek with
  | some '\n' | some '\x85' => (['\n'], c.next)
  | some '\u2028' => (['\u2028'], c.next)
  | some '\u2029' => (['\u2029'], c.next)
  | _ => ([], c)

/-- The place after spaces and a comment. -/
def Cursor.skipComment (c : Cursor) : Cursor :=
  let c := c.skipWhile (· == ' ')
  if c.at? '#' then c.skipWhile (fun x => !isBreak x) else c

/-- Whether a text begins with a mark between documents. -/
def startsSeparator (s : Chars) : Bool :=
  (s.take 3 == ['-', '-', '-'] || s.take 3 == ['.', '.', '.']) && endsWord s[3]?

/-- Lines may end with a carriage return, alone or before a line feed; both are line feeds. -/
def unifyLineEnds : Chars → Chars
  | '\r' :: '\n' :: r => '\n' :: unifyLineEnds r
  | '\r' :: r => '\n' :: unifyLineEnds r
  | c :: r => c :: unifyLineEnds r
  | [] => []

end MarkupQuery.Yaml
