import MarkupQuery.Text.Printable

/-!
# Quoted texts

A text between quotes, as messages show it. The apostrophe is the usual quote; a text that holds
apostrophes and no double quotes is put between double quotes. The quote, the backslash and what is
not printable are escaped. Main statement: every quoted text begins and ends with its quote.
-/

namespace MarkupQuery.Text

/-! ## Hexadecimal -/

/-- A hexadecimal digit, in lower case. -/
def hexDigit (n : Nat) : Char := Char.ofNat (if n < 10 then 48 + n else 87 + n)

/-- The last `width` hexadecimal digits of a number. -/
def hexDigits : Nat → Nat → Chars
  | 0, _ => []
  | width + 1, n => hexDigits width (n / 16) ++ [hexDigit (n % 16)]

@[simp] theorem length_hexDigits (width n : Nat) : (hexDigits width n).length = width := by
  induction width generalizing n with
  | zero => rfl
  | succ w ih => simp [hexDigits, ih]

/-! ## Escapes -/

/-- The numeric escape of a code point: two, four or eight hexadecimal digits. -/
def escapeCode (n : Nat) : Chars :=
  if n < 256 then '\\' :: 'x' :: hexDigits 2 n
  else if n < 65536 then '\\' :: 'u' :: hexDigits 4 n
  else '\\' :: 'U' :: hexDigits 8 n

/-- One character of a quoted text. -/
def quoteChar (quote c : Char) : Chars :=
  if c == quote || c == '\\' then ['\\', c]
  else if c == '\n' then ['\\', 'n']
  else if c == '\r' then ['\\', 'r']
  else if c == '\t' then ['\\', 't']
  else if isPrintable c then [c]
  else escapeCode c.toNat

/-- The quote put around a text. -/
def quoteFor (s : Chars) : Char :=
  if s.contains '\'' && !s.contains '"' then '"' else '\''

/-- A text between quotes. -/
def quoted (s : Chars) : Chars :=
  let q := quoteFor s
  q :: s.flatMap (quoteChar q) ++ [q]

/-- A quoted text begins with its quote. -/
theorem head?_quoted (s : Chars) : (quoted s).head? = some (quoteFor s) := rfl

/-- A quoted text ends with its quote. -/
theorem getLast?_quoted (s : Chars) : (quoted s).getLast? = some (quoteFor s) :=
  List.getLast?_concat

/-- A string between quotes. -/
def quotedString (s : String) : String := String.ofList (quoted s.toList)

end MarkupQuery.Text
