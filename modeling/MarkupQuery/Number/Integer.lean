import MarkupQuery.Text.Word

/-!
# Reading integers

The integers as people write them: blanks around, an optional sign, decimal digits of any script,
single underscores between digits.
-/

namespace MarkupQuery.Number

open MarkupQuery.Text

/-- Digits with single underscores between them, added to the value read so far. -/
def readDigits : Chars → Nat → Bool → Option Nat
  | [], n, afterDigit => if afterDigit then some n else none
  | '_' :: r, n, afterDigit => if afterDigit then readDigits r n false else none
  | c :: r, n, _ => (digitValue? c).bind fun d => readDigits r (10 * n + d) true

/-- The integer that a text writes. -/
def readInt? (s : Chars) : Option Int :=
  match trim s with
  | '-' :: r => (readDigits r 0 false).map fun n => -(n : Int)
  | '+' :: r => (readDigits r 0 false).map Int.ofNat
  | r => (readDigits r 0 false).map Int.ofNat

end MarkupQuery.Number
