import MarkupQuery.Text.Word

/-!
# Decimal texts of binary fractions

A finite floating point number is `m · 2 ^ q` for natural `m`. Its shortest text is the decimal
number with the fewest digits that lies in the interval of reals that round to it; of two such
numbers the nearer one is taken. All arithmetic is exact, on natural numbers. The module also
rounds to a given number of significant digits.
-/

namespace MarkupQuery.Number

/-! ## Taking a number apart -/

/-- What a floating point number is. -/
inductive Parts where
  /-- Not a number. -/
  | nan
  /-- An infinity. -/
  | infinite (negative : Bool)
  /-- The number `± m · 2 ^ q`. -/
  | finite (negative : Bool) (m : Nat) (q : Int)
  deriving DecidableEq, Repr

/-- The sign, significand and exponent of a floating point number. -/
def parts (x : Float) : Parts :=
  let bits := x.toBits.toNat
  let negative := bits / Nat.pow 2 63 == 1
  let exponent : Nat := bits / Nat.pow 2 52 % 2048
  let fraction : Nat := bits % Nat.pow 2 52
  if exponent == 2047 then (if fraction == 0 then .infinite negative else .nan)
  else if exponent == 0 then .finite negative fraction (-1074)
  else .finite negative (fraction + Nat.pow 2 52) ((exponent : Int) - 1075)

/-! ## Digits -/

/-- A decimal number `digits · 10 ^ exponent`. -/
structure Decimal where
  /-- The digits as one natural number. -/
  digits : Nat
  /-- The power of ten they are multiplied by. -/
  exponent : Int
  deriving DecidableEq, Repr

/-- `a / b` compared with `c · 10 ^ k`, as two natural numbers on one scale. -/
def onScale (a b c : Nat) (k : Int) : Nat × Nat :=
  if k < 0 then (a * Nat.pow 10 k.natAbs, c * b) else (a, c * b * Nat.pow 10 k.natAbs)

/-- The largest `e`, at most the given start, with `10 ^ e ≤ a / b`. -/
def leadingExponent (a b : Nat) : Nat → Int → Int
  | 0, e => e
  | fuel + 1, e =>
      let (x, y) := onScale a b 1 e
      if y ≤ x then e else leadingExponent a b fuel (e - 1)

/-- The exponent of the leading decimal digit of `a / b`, for a positive ratio. -/
def magnitude (a b : Nat) : Int :=
  let guess : Int := ((a.log2 : Int) - (b.log2 : Int) + 1) * 30103 / 100000 + 1
  leadingExponent a b 700 guess

/-- The quotient of `a / b` by `10 ^ k`, rounded down. -/
def scaledDown (a b : Nat) (k : Int) : Nat :=
  if k < 0 then a * Nat.pow 10 k.natAbs / b else a / (b * Nat.pow 10 k.natAbs)

/-- The interval of reals that round to `m · 2 ^ q`: its ends and the number itself over one
denominator, and whether the ends belong to it. -/
structure Interval where
  low : Nat
  value : Nat
  high : Nat
  denominator : Nat
  closed : Bool

/-- The interval of reals that round to `m · 2 ^ q`. -/
def roundingInterval (m : Nat) (q : Int) : Interval :=
  let unit := if q < 0 then 1 else Nat.pow 2 q.natAbs
  let below := if m == Nat.pow 2 52 && q != -1074 then 1 else 2
  { low := 4 * m * unit - below * unit
    value := 4 * m * unit
    high := 4 * m * unit + 2 * unit
    denominator := if q < 0 then 4 * Nat.pow 2 q.natAbs else 4
    closed := m % 2 == 0 }

/-- Whether `c · 10 ^ k` lies in the interval. -/
def Interval.holds (i : Interval) (c : Nat) (k : Int) : Bool :=
  let (low, x) := onScale i.low i.denominator c k
  let (high, y) := onScale i.high i.denominator c k
  if i.closed then low ≤ x && y ≤ high else low < x && y < high

/-- The neighbour of the number on the grid of multiples of `10 ^ k` that reads back, the nearer one
if both do. -/
def Interval.onGrid (i : Interval) (k : Int) : Option Nat :=
  let down := scaledDown i.value i.denominator k
  match i.holds down k, i.holds (down + 1) k with
  | true, true =>
      let (v2, mid) := onScale (2 * i.value) i.denominator (2 * down + 1) k
      if v2 < mid || (v2 == mid && down % 2 == 0) then some down else some (down + 1)
  | true, false => some down
  | false, true => some (down + 1)
  | false, false => none

/-- The first grid that has a neighbour that reads back, from `n` digits on. -/
def Interval.search (i : Interval) (top : Int) : Nat → Nat → Decimal
  | 0, n => ⟨scaledDown i.value i.denominator (top - n + 1), top - n + 1⟩
  | fuel + 1, n =>
      let k := top - n + 1
      match i.onGrid k with
      | some c => ⟨c, k⟩
      | none => i.search top fuel (n + 1)

/-- The shortest decimal that reads back as `m · 2 ^ q`. -/
def shortest (m : Nat) (q : Int) : Decimal :=
  if m == 0 then ⟨0, 0⟩
  else
    let i := roundingInterval m q
    i.search (magnitude i.value i.denominator) 17 1

/-- The ratio `m · 2 ^ q` rounded to `n` significant digits, a half going to the even digit. -/
def significant (n : Nat) (m : Nat) (q : Int) : Decimal :=
  if m == 0 then ⟨0, 0⟩
  else
    let a := if q < 0 then m else m * Nat.pow 2 q.natAbs
    let b := if q < 0 then Nat.pow 2 q.natAbs else 1
    let k := magnitude a b - n + 1
    let down := scaledDown a b k
    let (v2, mid) := onScale (2 * a) b (2 * down + 1) k
    ⟨if v2 < mid || (v2 == mid && down % 2 == 0) then down else down + 1, k⟩

/-! ## Texts -/

/-- Drops trailing zeros of the digits, moving them into the exponent. -/
def Decimal.trimmed (d : Decimal) : Decimal :=
  let digits := (Nat.toDigits 10 d.digits).reverse
  let zeros := (digits.takeWhile (· == '0')).length
  if d.digits == 0 then ⟨0, 0⟩ else ⟨d.digits / Nat.pow 10 zeros, d.exponent + zeros⟩

/-- The decimal written out with a point: no exponent, no trailing zeros, and `.0` only if asked. -/
def Decimal.positional (d : Decimal) (pointZero : Bool) : String :=
  let d := d.trimmed
  let digits := Nat.toDigits 10 d.digits
  if 0 ≤ d.exponent then
    String.ofList (digits ++ List.replicate d.exponent.natAbs '0') ++ (if pointZero then ".0" else "")
  else
    let places := d.exponent.natAbs
    let padded := List.replicate (places + 1 - digits.length) '0' ++ digits
    let (whole, part) := padded.splitAt (padded.length - places)
    String.ofList (whole ++ '.' :: part)

/-- The decimal in scientific form: one digit before the point, a signed exponent of at least two
digits. -/
def Decimal.scientific (d : Decimal) : String :=
  let d := d.trimmed
  let digits := Nat.toDigits 10 d.digits
  let e : Int := d.exponent + digits.length - 1
  let expDigits := Nat.toDigits 10 e.natAbs
  let expText := String.ofList (List.replicate (2 - expDigits.length) '0' ++ expDigits)
  let mantissa := match digits with
    | [x] => [x]
    | x :: r => x :: '.' :: r
    | [] => ['0']
  String.ofList mantissa ++ (if e < 0 then "e-" else "e+") ++ expText

/-- The number of digits before the decimal point, for zero and numbers below one not positive. -/
def Decimal.pointPosition (d : Decimal) : Int :=
  let d := d.trimmed
  d.exponent + (Nat.toDigits 10 d.digits).length

/-- The shortest text of a floating point number: positional from `0.0001` up to below `10 ^ 16`,
scientific outside. -/
def floatText (x : Float) : String :=
  match parts x with
  | .nan => "nan"
  | .infinite negative => if negative then "-inf" else "inf"
  | .finite negative m q =>
      let d := shortest m q
      let body :=
        if m == 0 then "0.0"
        else if -4 < d.pointPosition && d.pointPosition ≤ 16 then d.positional true
        else d.scientific
      (if negative then "-" else "") ++ body

/-- The integer equal to a floating point number, if there is one. -/
def exactInt? (x : Float) : Option Int :=
  match parts x with
  | .finite negative m q =>
      let magnitude? : Option Nat :=
        if 0 ≤ q then some (m * Nat.pow 2 q.natAbs)
        else if m % Nat.pow 2 q.natAbs == 0 then some (m / Nat.pow 2 q.natAbs) else none
      magnitude?.map fun n => if negative then -(n : Int) else n
  | _ => none

end MarkupQuery.Number
