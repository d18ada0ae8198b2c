import MarkupQuery.Number.Shortest

/-!
# Numbers in queries

How queries read and write numbers. Digits are added up in floating point, with at most twenty
digits after the leading zeros of a fraction. Numbers are written without exponent if they are
integers of ordinary size or lie between `0.00001` and `10 ^ 9`.
-/

namespace MarkupQuery.Query

open MarkupQuery.Text MarkupQuery.Number

/-! ## Reading -/

/-- The value of some digits, added up one after the other. -/
def addDigits (x : Float) (digits : Chars) : Float :=
  digits.foldl (fun x c => x * 10.0 + Float.ofNat (c.toNat - 48)) x

/-- A power of ten. -/
def tenTo (n : Int) : Float := Float.ofScientific 1 (n < 0) n.natAbs

/-- The greatest exponent that is told apart. -/
def cappedExponent (digits : Chars) : Nat :=
  digits.foldl (fun n c => if n < 1000000 then n * 10 + (c.toNat - 48) else n) 0

/-- A number that starts with a digit or with a point, and what follows it; none if a point stands
without digits. -/
def spanNumber (s : Chars) : Option (Float × Chars) :=
  let whole := s.takeWhile isAsciiDigit
  let rest := s.dropWhile isAsciiDigit
  let x := addDigits 0.0 whole
  let fraction : Option (Float × Chars) :=
    match rest with
    | '.' :: r =>
        let digits := r.takeWhile isAsciiDigit
        if digits.isEmpty && whole.isEmpty then none
        else
          let zeros := (digits.takeWhile (· == '0')).length
          let used := digits.take (zeros + 20)
          some (x + addDigits 0.0 used / tenTo used.length, r.dropWhile isAsciiDigit)
    | r => some (x, r)
  fraction.map fun (x, rest) =>
    match rest with
    | e :: r =>
        if e == 'e' || e == 'E' then
          let (negative, r) := match r with
            | '-' :: q => (true, q)
            | '+' :: q => (false, q)
            | q => (false, q)
          let n : Int := cappedExponent (r.takeWhile isAsciiDigit)
          (x * tenTo (if negative then -n else n), r.dropWhile isAsciiDigit)
        else (x, rest)
    | [] => (x, [])

/-- Not a number. -/
def notANumber : Float := 0.0 / 0.0

/-- The number that a text means; blanks around it and one minus sign are allowed. -/
def numberOfText (s : Chars) : Float :=
  let s := s.dropWhile isMarkupBlank
  let (negative, s) := match s with
    | '-' :: r => (true, r)
    | r => (false, r)
  if s.head?.any fun c => isAsciiDigit c || c == '.' then
    match spanNumber s with
    | some (x, rest) =>
        if rest.all isMarkupBlank then (if negative then -x else x) else notANumber
    | none => notANumber
  else notANumber

/-! ## Writing -/

/-- A number rounded to a number of decimal places, a half going to the even digit. -/
def roundedTo (places : Nat) (m : Nat) (q : Int) : Decimal :=
  let a := if q < 0 then m else m * Nat.pow 2 q.natAbs
  let b := if q < 0 then Nat.pow 2 q.natAbs else 1
  let k : Int := -(places : Int)
  let down := scaledDown a b k
  let (v2, mid) := onScale (2 * a) b (2 * down + 1) k
  ⟨if v2 < mid || (v2 == mid && down % 2 == 0) then down else down + 1, k⟩

/-- The text of a number. -/
def textOfNumber (x : Float) : Chars :=
  match parts x with
  | .nan => "NaN".toList
  | .infinite negative => (if negative then "-Infinity" else "Infinity").toList
  | .finite negative m q =>
      if m == 0 then ['0']
      else
        let sign := if negative then ['-'] else []
        let small : Bool := match exactInt? x with
          | some i => i.natAbs < 2147483647
          | none => false
        let a := if q < 0 then m else m * Nat.pow 2 q.natAbs
        let b := if q < 0 then Nat.pow 2 q.natAbs else 1
        let e := magnitude a b
        if small then sign ++ Nat.toDigits 10 (a / b)
        else if 1000000000 * b < a || a * 100000 < b then
          sign ++ ((significant 15 m q).scientific).toList
        else
          let places : Int := if 0 < e then 14 - e else if e + 1 < 0 then 15 - (e + 1) else 15
          sign ++ ((roundedTo places.toNat m q).positional false).toList

/-! ## Arithmetic -/

/-- The remainder of a division that rounds toward zero; it has the sign of the dividend. -/
def remainder (x y : Float) : Float :=
  match parts x, parts y with
  | .finite negative a p, .finite _ b q =>
      if b == 0 then notANumber
      else
        let k := min p q
        let r := a * Nat.pow 2 (p - k).natAbs % (b * Nat.pow 2 (q - k).natAbs)
        let z := (Float.ofNat r).scaleB k
        if negative then -z else z
  | .finite .., .infinite _ => x
  | _, _ => notANumber

/-- A number rounded to an integer, a half going up. -/
def roundHalfUp (x : Float) : Float :=
  if -0.5 ≤ x && x < 0.5 then x * 0.0
  else
    let down := x.floor
    if x - down < 0.5 then down else if x - down ≥ 0.5 then down + 1.0 else x

end MarkupQuery.Query
