import MarkupQuery.Text.Quoted
import MarkupQuery.Number.Shortest

/-!
# Data values

The values of configurations and of loosely typed arguments: scalars, lists and mappings, together
with the dates, binary strings and sets that configuration files can write. `Datum.shown` is the text
of a value in messages; texts in it are quoted.
-/

namespace MarkupQuery

open MarkupQuery.Text

/-- A day of the calendar. -/
structure Day where
  year : Nat
  month : Nat
  day : Nat
  deriving DecidableEq, Repr, Inhabited

/-- A time of day, with the offset of its clock in minutes if it has one. -/
structure Clock where
  hour : Nat
  minute : Nat
  second : Nat
  microsecond : Nat
  offset : Option Int
  deriving DecidableEq, Repr, Inhabited

/-- A data value. -/
inductive Datum where
  | null
  | bool (value : Bool)
  | int (value : Int)
  | float (value : Float)
  | text (value : String)
  | list (items : List Datum)
  /-- A sequence of fixed length. -/
  | tuple (items : List Datum)
  /-- A mapping in the order of its entries. -/
  | dict (entries : List (Datum × Datum))
  /-- A collection without order or repetition, in the order of insertion. -/
  | set (items : List Datum)
  | day (value : Day)
  | moment (date : Day) (clock : Clock)
  | bytes (value : List UInt8)
  deriving Inhabited

/-! ## Truth -/

/-- Whether a value counts as present: neither null, false, zero nor empty. -/
def Datum.isTruthy : Datum → Bool
  | .null => false
  | .bool b => b
  | .int i => i != 0
  | .float x => x != 0.0
  | .text s => !s.isEmpty
  | .list xs | .tuple xs | .set xs => !xs.isEmpty
  | .dict es => !es.isEmpty
  | .day _ | .moment .. => true
  | .bytes bs => !bs.isEmpty

/-! ## Equality -/

mutual

/-- Whether two values are equal. Numbers are compared by value, truth values as zero and one, and
mappings without regard to order. -/
def Datum.same : Datum → Datum → Bool
  | .null, .null => true
  | .text a, .text b => a == b
  | .list xs, .list ys => sameLists xs ys
  | .tuple xs, .tuple ys => sameLists xs ys
  | .set xs, .set ys => xs.length == ys.length && subset xs ys
  | .dict es, .dict fs => es.length == fs.length && subdict es fs
  | .day a, .day b => a == b
  | .moment a b, .moment c d => a == c && b == d
  | .bytes a, .bytes b => a == b
  | a, b =>
      match a.number?, b.number? with
      | some x, some y => x == y
      | _, _ => false

/-- Whether two lists are equal item by item. -/
def sameLists : List Datum → List Datum → Bool
  | [], [] => true
  | x :: xs, y :: ys => x.same y && sameLists xs ys
  | _, _ => false

/-- Whether every item of a list equals one of another list. -/
def subset : List Datum → List Datum → Bool
  | [], _ => true
  | x :: xs, ys => ys.any (fun y => x.same y) && subset xs ys

/-- Whether every entry of a mapping equals one of another mapping. -/
def subdict : List (Datum × Datum) → List (Datum × Datum) → Bool
  | [], _ => true
  | (k, v) :: es, fs => fs.any (fun f => k.same f.1 && v.same f.2) && subdict es fs

/-- The value of a number. -/
def Datum.number? : Datum → Option (Int ⊕ Float)
  | .bool b => some (.inl (if b then 1 else 0))
  | .int i => some (.inl i)
  | .float x =>
      match Number.exactInt? x with
      | some i => some (.inl i)
      | none => some (.inr x)
  | _ => none

end

/-! ## Text -/

/-- A number with leading zeros. -/
def padded (width n : Nat) : String :=
  let digits := toString n
  String.ofList (List.replicate (width - digits.length) '0') ++ digits

/-- The arguments that build a day. -/
def Day.arguments (d : Day) : String := s!"{d.year}, {d.month}, {d.day}"

/-- The arguments that build a clock; seconds are left out if nothing follows them. -/
def Clock.arguments (c : Clock) : String :=
  let tail :=
    if c.microsecond != 0 then s!", {c.second}, {c.microsecond}"
    else if c.second != 0 then s!", {c.second}" else ""
  let zone := match c.offset with
    | none => ""
    | some 0 => ", tzinfo=datetime.timezone.utc"
    | some m =>
        let seconds := m * 60
        let days := Int.fdiv seconds 86400
        let rest := Int.fmod seconds 86400
        let parts := (if days != 0 then [s!"days={days}"] else []) ++
          (if rest != 0 then [s!"seconds={rest}"] else [])
        let delta := String.intercalate ", " parts
        s!", tzinfo=datetime.timezone(datetime.timedelta({delta}))"
  s!"{c.hour}, {c.minute}{tail}{zone}"

/-- A binary string between quotes. -/
def quotedBytes (bs : List UInt8) : String :=
  let codes := bs.map fun b => Char.ofNat b.toNat
  let quote := quoteFor codes
  let one (c : Char) : Chars :=
    if c == quote || c == '\\' then ['\\', c]
    else if c == '\n' then ['\\', 'n']
    else if c == '\r' then ['\\', 'r']
    else if c == '\t' then ['\\', 't']
    else if 32 ≤ c.toNat && c.toNat < 127 then [c]
    else escapeCode c.toNat
  String.ofList ('b' :: quote :: codes.flatMap one ++ [quote])

mutual

/-- The text of a value in messages. -/
def Datum.shown : Datum → String
  | .null => "None"
  | .bool b => if b then "True" else "False"
  | .int i => toString i
  | .float x => Number.floatText x
  | .text s => quotedString s
  | .list xs => "[" ++ String.intercalate ", " (shownAll xs) ++ "]"
  | .tuple [x] => "(" ++ x.shown ++ ",)"
  | .tuple xs => "(" ++ String.intercalate ", " (shownAll xs) ++ ")"
  | .set [] => "set()"
  | .set xs => "\x7b" ++ String.intercalate ", " (shownAll xs) ++ "\x7d"
  | .dict es => "\x7b" ++ String.intercalate ", " (shownEntries es) ++ "\x7d"
  | .day d => "datetime.date(" ++ d.arguments ++ ")"
  | .moment d c => "datetime.datetime(" ++ d.arguments ++ ", " ++ c.arguments ++ ")"
  | .bytes bs => quotedBytes bs

/-- The texts of several values. -/
def shownAll : List Datum → List String
  | [] => []
  | x :: xs => x.shown :: shownAll xs

/-- The texts of the entries of a mapping. -/
def shownEntries : List (Datum × Datum) → List String
  | [] => []
  | (k, v) :: es => (k.shown ++ ": " ++ v.shown) :: shownEntries es

end

/-- The plain text of a value: as in messages, but a text stands for itself and dates are written in
the usual order. -/
def Datum.plain : Datum → String
  | .text s => s
  | .day d => s!"{padded 4 d.year}-{padded 2 d.month}-{padded 2 d.day}"
  | .moment d c =>
      let zone := match c.offset with
        | none => ""
        | some m =>
            let sign := if m < 0 then "-" else "+"
            s!"{sign}{padded 2 (m.natAbs / 60)}:{padded 2 (m.natAbs % 60)}"
      let fraction := if c.microsecond != 0 then "." ++ padded 6 c.microsecond else ""
      s!"{padded 4 d.year}-{padded 2 d.month}-{padded 2 d.day} " ++
        s!"{padded 2 c.hour}:{padded 2 c.minute}:{padded 2 c.second}{fraction}{zone}"
  | v => v.shown

/-- The name of the kind of a value in messages. -/
def Datum.typeName : Datum → String
  | .null => "NoneType"
  | .bool _ => "bool"
  | .int _ => "int"
  | .float _ => "float"
  | .text _ => "str"
  | .list _ => "list"
  | .tuple _ => "tuple"
  | .dict _ => "dict"
  | .set _ => "set"
  | .day _ => "datetime.date"
  | .moment .. => "datetime.datetime"
  | .bytes _ => "bytes"

/-! ## Mappings -/

/-- Whether a value can be the key of a mapping. -/
def Datum.isKey : Datum → Bool
  | .list _ | .dict _ | .set _ => false
  | _ => true

/-- The value under a text key. -/
def Datum.get? (key : String) : List (Datum × Datum) → Option Datum
  | [] => none
  | (.text k, v) :: es => if k == key then some v else Datum.get? key es
  | _ :: es => Datum.get? key es

/-- Sets the value under a key: a new key goes last, an old one keeps its place. -/
def Datum.put (key value : Datum) : List (Datum × Datum) → List (Datum × Datum)
  | [] => [(key, value)]
  | (k, v) :: es => if k.same key then (k, value) :: es else (k, v) :: Datum.put key value es

end MarkupQuery
