import MarkupQuery.Query.Spot
import MarkupQuery.Query.Numeral
import MarkupQuery.Query.Expression

/-!
# Values of queries

A query gives a set of spots, a number, a text or a truth value. Every value can stand for a number, a
text or a truth value. Comparisons of sets ask whether some of their members compare.
-/

namespace MarkupQuery.Query

open MarkupQuery.Text

/-- A value. Spots are in document order, without repetition. -/
inductive Value where
  | spots (ss : List Spot)
  | number (x : Float)
  | text (s : Chars)
  | truth (b : Bool)
  deriving Repr, Inhabited

/-! ## Conversions -/

/-- The text of the first of some spots. -/
def firstText (ss : List Spot) : Chars := ((ss.head?).map Spot.text).getD []

/-- The text that a value stands for. -/
def Value.toText : Value → Chars
  | .spots ss => firstText ss
  | .number x => textOfNumber x
  | .text s => s
  | .truth b => (if b then "true" else "false").toList

/-- The number that a value stands for. -/
def Value.toNumber : Value → Float
  | .spots ss => numberOfText (firstText ss)
  | .number x => x
  | .text s => numberOfText s
  | .truth b => if b then 1.0 else 0.0

/-- The truth value that a value stands for. -/
def Value.toTruth : Value → Bool
  | .spots ss => !ss.isEmpty
  | .number x => x < 0.0 || 0.0 < x
  | .text s => !s.isEmpty
  | .truth b => b

/-- The number that the text of a spot means. -/
def Spot.number (s : Spot) : Float := numberOfText s.text

/-! ## Equality -/

/-- Whether two single values are equal: as truth values if one is a truth value, as numbers if one
is a number, otherwise as texts. -/
def singleEqual (a b : Value) : Bool :=
  match a, b with
  | .truth x, _ => x == b.toTruth
  | _, .truth y => a.toTruth == y
  | .number x, _ => x == b.toNumber
  | _, .number y => a.toNumber == y
  | _, _ => a.toText == b.toText

/-- Whether two values are equal, or unequal if `negated`. A set is both if it has members of both
kinds. -/
def compareEqual (negated : Bool) (a b : Value) : Bool :=
  match a, b with
  | .spots xs, .spots ys => xs.any fun x => ys.any fun y => (x.text == y.text) != negated
  | .spots xs, .truth t => (!xs.isEmpty == t) != negated
  | .truth t, .spots ys => (t == !ys.isEmpty) != negated
  | .spots xs, .number y => xs.any fun x => (x.number == y) != negated
  | .number x, .spots ys => ys.any fun y => (x == y.number) != negated
  | .spots xs, .text y => xs.any fun x => (x.text == y) != negated
  | .text x, .spots ys => ys.any fun y => (x == y.text) != negated
  | a, b => singleEqual a b != negated

/-! ## Order -/

/-- Whether numbers that stand for two values compare. -/
def compareOrder (test : Float → Float → Bool) (a b : Value) : Bool :=
  match a, b with
  | .spots xs, .spots ys => xs.any fun x => ys.any fun y => test x.number y.number
  | .spots xs, .truth t => test (Value.truth !xs.isEmpty).toNumber (Value.truth t).toNumber
  | .truth t, .spots ys => test (Value.truth t).toNumber (Value.truth !ys.isEmpty).toNumber
  | .spots xs, b => xs.any fun x => test x.number b.toNumber
  | a, .spots ys => ys.any fun y => test a.toNumber y.number
  | a, b => test a.toNumber b.toNumber

/-! ## Operators -/

/-- The value of an operator on two values. -/
def applyOperator (op : Operator) (a b : Value) : Value :=
  match op with
  | .or => .truth (a.toTruth || b.toTruth)
  | .and => .truth (a.toTruth && b.toTruth)
  | .equal => .truth (compareEqual false a b)
  | .unequal => .truth (compareEqual true a b)
  | .less => .truth (compareOrder (fun x y => x < y) a b)
  | .lessOrEqual => .truth (compareOrder (fun x y => x ≤ y) a b)
  | .greater => .truth (compareOrder (fun x y => y < x) a b)
  | .greaterOrEqual => .truth (compareOrder (fun x y => y ≤ x) a b)
  | .plus => .number (a.toNumber + b.toNumber)
  | .minus => .number (a.toNumber - b.toNumber)
  | .times => .number (a.toNumber * b.toNumber)
  | .divide => .number (a.toNumber / b.toNumber)
  | .remainder => .number (remainder a.toNumber b.toNumber)

end MarkupQuery.Query
