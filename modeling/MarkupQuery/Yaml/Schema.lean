import MarkupQuery.Fault
import MarkupQuery.Text.LetterCase
import MarkupQuery.Number.Integer
import MarkupQuery.Encoding.Unicode

/-!
# The kinds of values in a configuration

What a plain scalar means is read off its text: truth values, numbers in several notations, dates, the
empty value, and two marks for mappings. Everything else is text. The tag of a node tells its kind where
it is given, and then the scalar has to fit. Main statements: a text is plain as long as it has none of
these forms.
-/

namespace MarkupQuery.Yaml

open MarkupQuery.Text

/-! ## Tags -/

/-- The kinds of values. -/
inductive Tag where
  | null
  | bool
  | int
  | float
  | binary
  | timestamp
  /-- Pairs in order, without repetition. -/
  | omap
  /-- Pairs in order. -/
  | pairs
  | set
  | str
  | seq
  | map
  /-- The key whose value is merged into a mapping. -/
  | merge
  /-- The key of the value that stands for a whole mapping. -/
  | value
  /-- A kind that is not known. -/
  | unknown
  deriving DecidableEq, Repr, Inhabited

/-- What the tags of known kinds begin with. -/
def tagRoot : Chars := "tag:yaml.org,2002:".toList

/-- The kind that a full tag names. -/
def Tag.ofText (t : Chars) : Tag :=
  if t.take tagRoot.length != tagRoot then .unknown
  else match String.ofList (t.drop tagRoot.length) with
    | "null" => .null
    | "bool" => .bool
    | "int" => .int
    | "float" => .float
    | "binary" => .binary
    | "timestamp" => .timestamp
    | "omap" => .omap
    | "pairs" => .pairs
    | "set" => .set
    | "str" => .str
    | "seq" => .seq
    | "map" => .map
    | _ => .unknown

/-! ## Shapes of numbers -/

/-- A digit or an underscore. -/
def isDigitOrBar (c : Char) : Bool := c.isDigit || c == '_'

/-- A text without its sign. -/
def withoutSign : Chars → Chars
  | '+' :: r => r
  | '-' :: r => r
  | r => r

/-- Parts of one or two digits after colons, the first of two at most five; nothing if there is none or
something else follows that the given test refuses. -/
def isSexagesimalTail (ends : Chars → Bool) : Nat → Chars → Bool
  | fuel + 1, ':' :: r =>
      let digits := r.takeWhile Char.isDigit
      let rest := r.drop digits.length
      let fits : Bool := match digits with
        | [_] => true
        | [a, _] => a ≤ '5'
        | _ => false
      fits && (ends rest || isSexagesimalTail ends fuel rest)
  | _, _ => false

/-- Whether a text writes an integer. -/
def isInteger (s : Chars) : Bool :=
  let r := withoutSign s
  match r with
  | ['0'] => true
  | '0' :: 'b' :: d :: ds => (d :: ds).all fun c => c == '0' || c == '1' || c == '_'
  | '0' :: 'x' :: d :: ds => (d :: ds).all fun c => (hexValue? c).isSome || c == '_'
  | '0' :: d :: ds => (d :: ds).all fun c => ('0' ≤ c && c ≤ '7') || c == '_'
  | d :: ds =>
      d.isDigit && d != '0' &&
        (ds.all isDigitOrBar ||
          isSexagesimalTail List.isEmpty s.length (ds.dropWhile isDigitOrBar))
  | [] => false

/-- Whether a text is the power of ten of a number, with its sign, or nothing. -/
def isExponent : Chars → Bool
  | [] => true
  | e :: sign :: d :: ds =>
      (e == 'e' || e == 'E') && (sign == '+' || sign == '-') && (d :: ds).all Char.isDigit
  | _ => false

/-- Whether a text writes a number with a fraction, or one of the special numbers. -/
def isFraction (s : Chars) : Bool :=
  let r := withoutSign s
  let special := ["inf", "Inf", "INF"].map fun w => '.' :: w.toList
  let missing := ["nan", "NaN", "NAN"].map fun w => '.' :: w.toList
  if special.contains r || missing.contains s then true
  else match r with
    | '.' :: d :: ds =>
        r.length == s.length && d.isDigit && isExponent (ds.dropWhile isDigitOrBar)
    | d :: ds =>
        d.isDigit &&
          (match ds.dropWhile isDigitOrBar with
            | '.' :: q => isExponent (q.dropWhile isDigitOrBar)
            | ':' :: q =>
                let ends (t : Chars) : Bool := match t with
                  | '.' :: u => u.all isDigitOrBar
                  | _ => false
                isSexagesimalTail ends s.length (':' :: q)
            | _ => false)
    | [] => false

/-! ## Shapes of dates -/

/-- The parts of a date that is written out, digits as they stand. -/
structure DateParts where
  year : Chars
  month : Chars
  day : Chars
  /-- Hour, minute, second and fraction. -/
  time : Option (Chars × Chars × Chars × Chars)
  /-- Universal time, or a sign with hours and minutes. -/
  zone : Option (Option (Bool × Chars × Chars))

/-- One or two digits at the start of a text, and the rest. -/
def oneOrTwoDigits? : Chars → Option (Chars × Chars)
  | a :: b :: r =>
      if a.isDigit && b.isDigit then some ([a, b], r)
      else if a.isDigit then some ([a], b :: r) else none
  | [a] => if a.isDigit then some ([a], []) else none
  | [] => none

/-- Two digits at the start of a text, and the rest. -/
def twoDigits? : Chars → Option (Chars × Chars)
  | a :: b :: r => if a.isDigit && b.isDigit then some ([a, b], r) else none
  | _ => none

/-- The text after an expected character. -/
def after? (x : Char) : Chars → Option Chars
  | c :: r => if c == x then some r else none
  | [] => none

/-- A space or a tab. -/
def isSpaceOrTab (c : Char) : Bool := c == ' ' || c == '\t'

/-- The zone at the end of a date. -/
def zoneParts? (s : Chars) : Option (Option (Option (Bool × Chars × Chars))) :=
  if s.isEmpty then some none
  else match s.dropWhile isSpaceOrTab with
    | ['Z'] => some (some none)
    | sign :: r =>
        if sign == '+' || sign == '-' then
          (oneOrTwoDigits? r).bind fun (hours, r) =>
            if r.isEmpty then some (some (some (sign == '-', hours, [])))
            else (after? ':' r).bind twoDigits? |>.bind fun (minutes, r) =>
              if r.isEmpty then some (some (some (sign == '-', hours, minutes))) else none
        else none
    | [] => none

/-- The time of day in a date, with its zone. -/
def timeParts? (s : Chars) : Option ((Chars × Chars × Chars × Chars) × Option (Option (Bool × Chars × Chars))) := do
  let (hour, r) ← oneOrTwoDigits? s
  let (minute, r) ← (after? ':' r).bind twoDigits?
  let (second, r) ← (after? ':' r).bind twoDigits?
  let (fraction, r) := match r with
    | '.' :: q => (q.takeWhile Char.isDigit, q.dropWhile Char.isDigit)
    | q => ([], q)
  let zone ← zoneParts? r
  return ((hour, minute, second, fraction), zone)

/-- The parts of a date with or without a time. -/
def dateParts? (s : Chars) : Option DateParts := do
  let year := s.take 4
  if year.length != 4 || !year.all Char.isDigit then none
  let (month, r) ← (after? '-' (s.drop 4)).bind oneOrTwoDigits?
  let (day, r) ← (after? '-' r).bind oneOrTwoDigits?
  match r with
  | [] => return ⟨year, month, day, none, none⟩
  | c :: q =>
      let rest ← if c == 'T' || c == 't' then some q
        else if isSpaceOrTab c then some (q.dropWhile isSpaceOrTab) else none
      let (time, zone) ← timeParts? rest
      return ⟨year, month, day, some time, zone⟩

/-- Whether a text is taken for a date: without a time all its parts have their full width. -/
def isDate (s : Chars) : Bool :=
  match dateParts? s with
  | some p => p.time.isSome || s.length == 10
  | none => false

/-! ## What plain scalars mean -/

/-- The words for truth values, in lower case. -/
def truthValue? : String → Option Bool
  | "yes" | "true" | "on" => some true
  | "no" | "false" | "off" => some false
  | _ => none

/-- Whether a text is a word in lower case, in upper case or capitalised. -/
def isWordInAnyCase (s : Chars) : Bool :=
  let lowered := s.map Char.toLower
  s == lowered || s == s.map Char.toUpper ||
    (match lowered with
      | [] => false
      | c :: r => s == c.toUpper :: r)

/-- Whether a text is a truth value. -/
def isTruthWord (s : Chars) : Bool :=
  isWordInAnyCase s && (truthValue? (String.ofList (s.map Char.toLower))).isSome

/-- Whether a text means that there is no value. -/
def isNullWord (s : Chars) : Bool :=
  s.isEmpty || s == ['~'] || (isWordInAnyCase s && s.map Char.toLower == "null".toList)

/-- What a plain scalar means. -/
def plainTag (s : Chars) : Tag :=
  if isTruthWord s then .bool
  else if isFraction s then .float
  else if isInteger s then .int
  else if s == ['<', '<'] then .merge
  else if isNullWord s then .null
  else if isDate s then .timestamp
  else if s == ['='] then .value
  else .str

/-! ## Values of scalars -/

/-- The integer that digits of a base write; underscores and a sign are taken off before. -/
def digitsIn (base : Nat) (s : Chars) : Except Fault Nat :=
  let value? (c : Char) : Option Nat := (hexValue? c).filter (· < base)
  if s.isEmpty || !s.all fun c => (value? c).isSome then .error (.badDigits base (String.ofList s))
  else .ok (s.foldl (fun n c => base * n + (value? c).getD 0) 0)

/-- A decimal integer, written freely. -/
def decimalInteger (s : Chars) : Except Fault Int :=
  match Number.readInt? s with
  | some n => .ok n
  | none => .error (.badInteger (String.ofList s))

/-- The number that parts between colons write, sixty of one making one of the next. -/
def sexagesimal (parts : List Int) : Int := parts.foldl (fun n d => 60 * n + d) 0

/-- The integer of a scalar. -/
def integerOf (text : Chars) : Except Fault Int := do
  let s := text.filter (· != '_')
  match s with
  | [] => throw .noFirstCharacter
  | c :: r =>
      let negative := c == '-'
      let s := if c == '-' || c == '+' then r else s
      let signed (n : Int) : Int := if negative then -n else n
      match s with
      | ['0'] => return 0
      | '0' :: 'b' :: ds => return signed (← digitsIn 2 ds)
      | '0' :: 'x' :: ds => return signed (← digitsIn 16 ds)
      | '0' :: _ => return signed (← digitsIn 8 s)
      | [] => throw .noFirstCharacter
      | _ =>
          if s.contains ':' then
            let parts := (s.splitOn ':')
            return signed (sexagesimal (← parts.mapM decimalInteger))
          else return signed (← decimalInteger s)

/-- The number that a text writes with digits, a point and a power of ten. -/
def decimalNumber? (s : Chars) : Option Float :=
  let s := trim s
  let (negative, s) : Bool × Chars := match s with
    | '-' :: r => (true, r)
    | '+' :: r => (false, r)
    | r => (false, r)
  let signed (x : Float) : Float := if negative then -x else x
  let word := String.ofList (s.map Char.toLower)
  if word == "inf" || word == "infinity" then some (signed (1.0 / 0.0))
  else if word == "nan" then some (0.0 / 0.0)
  else
    let whole := s.takeWhile Char.isDigit
    let r := s.drop whole.length
    let (places, r) : Chars × Chars := match r with
      | '.' :: q => (q.takeWhile Char.isDigit, q.dropWhile Char.isDigit)
      | q => ([], q)
    let toNat (ds : Chars) : Nat := ds.foldl (fun n c => 10 * n + (c.toNat - 48)) 0
    let scaled (e : Int) : Float :=
      let e := e - places.length
      signed (Float.ofScientific (toNat (whole ++ places)) (e < 0) e.natAbs)
    if whole.isEmpty && places.isEmpty then none
    else match r with
      | [] => some (scaled 0)
      | e :: r =>
          if e != 'e' && e != 'E' then none
          else
            let (down, ds) : Bool × Chars := match r with
              | '-' :: q => (true, q)
              | '+' :: q => (false, q)
              | q => (false, q)
            if ds.isEmpty || !ds.all Char.isDigit then none
            else some (scaled (if down then -(toNat ds : Int) else toNat ds))

/-- The number that a text writes. -/
def decimalNumber (s : Chars) : Except Fault Float :=
  match decimalNumber? s with
  | some x => .ok x
  | none => .error (.badDecimal (String.ofList s))

/-- The number with a fraction of a scalar. -/
def fractionOf (text : Chars) : Except Fault Float := do
  let s := lower (text.filter (· != '_'))
  match s with
  | [] => throw .noFirstCharacter
  | c :: r =>
      let s := if c == '-' || c == '+' then r else s
      let signed (x : Float) : Float := if c == '-' then -1.0 * x else x
      if s == ".inf".toList then return signed (1.0 / 0.0)
      else if s == ".nan".toList then return 0.0 / 0.0
      else if s.contains ':' then
        let parts ← (s.splitOn ':').mapM decimalNumber
        let (total, _) := parts.reverse.foldl
          (fun (n : Float × Float) d => (n.1 + d * n.2, n.2 * 60.0)) (0.0, 1.0)
        return signed total
      else return signed (← decimalNumber s)

/-- The truth value of a scalar. -/
def truthOf (text : Chars) : Except Fault Bool :=
  let word := String.ofList (lower text)
  match truthValue? word with
  | some b => .ok b
  | none => .error (.unknownWord word)

/-! ## Dates -/

/-- Whether a year has a leap day. -/
def isLeapYear (y : Nat) : Bool := y % 4 == 0 && (y % 100 != 0 || y % 400 == 0)

/-- How many days a month has. -/
def daysIn (year month : Nat) : Nat :=
  if month == 2 then (if isLeapYear year then 29 else 28)
  else if [4, 6, 9, 11].contains month then 30 else 31

/-- A day, if it is on the calendar. -/
def dayOf (year month day : Nat) : Except Fault Day :=
  if year == 0 then .error (.badDate "year 0 is out of range")
  else if month == 0 || 12 < month then .error (.badDate "month must be in 1..12")
  else if day == 0 || daysIn year month < day then .error (.badDate "day is out of range for month")
  else .ok ⟨year, month, day⟩

/-- The date of a scalar, with the time of day if it has one. -/
def dateOf (text : Chars) : Except Fault Datum := do
  let toNat (ds : Chars) : Nat := ds.foldl (fun n c => 10 * n + (c.toNat - 48)) 0
  match dateParts? text with
  | none => throw .missingOperation
  | some p =>
      let day := dayOf (toNat p.year) (toNat p.month) (toNat p.day)
      match p.time with
      | none => return .day (← day)
      | some (h, m, s, f) =>
          let micro := toNat ((f ++ List.replicate 6 '0').take 6)
          let offset ← match p.zone with
            | none => pure none
            | some none => pure (some (0 : Int))
            | some (some (negative, hours, minutes)) =>
                let n : Int := 60 * toNat hours + toNat minutes
                let n := if negative then -n else n
                if 1440 ≤ n.natAbs then
                  let days := n / 1440
                  let seconds := n % 1440 * 60
                  let rest := if seconds == 0 then "" else s!", seconds={seconds}"
                  throw (.badDate ("offset must be a timedelta strictly between " ++
                    "-timedelta(hours=24) and timedelta(hours=24), not " ++
                    s!"datetime.timedelta(days={days}{rest})."))
                else pure (some n)
          let day ← day
          if 23 < toNat h then throw (.badDate "hour must be in 0..23")
          if 59 < toNat m then throw (.badDate "minute must be in 0..59")
          if 59 < toNat s then throw (.badDate "second must be in 0..59")
          return .moment day ⟨toNat h, toNat m, toNat s, micro, offset⟩

/-! ## Binary values -/

/-- The value of a character of the alphabet of sixty-four. -/
def base64Value? (c : Char) : Option Nat :=
  if 'A' ≤ c && c ≤ 'Z' then some (c.toNat - 65)
  else if 'a' ≤ c && c ≤ 'z' then some (c.toNat - 71)
  else if c.isDigit then some (c.toNat + 4)
  else if c == '+' then some 62
  else if c == '/' then some 63
  else none

/-- The bytes of groups of four characters; other characters are passed, and padding ends a group. -/
def base64Bytes : Chars → List Nat → Nat → Option Encoding.Bytes
  | [], [], _ => some []
  | [], _, _ => none
  | c :: r, group, pads =>
      let bytes (ns : List Nat) : Encoding.Bytes :=
        let n := ns.foldl (fun n d => 64 * n + d) 0
        [UInt8.ofNat (n / 65536), UInt8.ofNat (n / 256), UInt8.ofNat n]
      if c == '=' then
        if group.length == 2 && pads == 1 then some ((bytes (group ++ [0, 0])).take 1)
        else if group.length == 3 then some ((bytes (group ++ [0])).take 2)
        else base64Bytes r group (if group.length < 2 then 0 else pads + 1)
      else match base64Value? c with
        | none => base64Bytes r group pads
        | some d =>
            let group := group ++ [d]
            if group.length == 4 then (base64Bytes r [] 0).map (bytes group ++ ·)
            else base64Bytes r group 0

end MarkupQuery.Yaml
