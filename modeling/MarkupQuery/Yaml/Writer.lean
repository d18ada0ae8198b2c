import MarkupQuery.Yaml.Schema

/-!
# Writing configurations

A mapping is written with one entry on a line, in order. Texts stand plain where they read back as the
same text, between single quotes where that is enough, and between double quotes otherwise; long texts
are folded at spaces once a line is full. Only ASCII characters are written.
-/

namespace MarkupQuery.Yaml

open MarkupQuery.Text

/-! ## Layout -/

/-- How many columns a nested structure is indented by. -/
def indentStep : Nat := 2

/-- The column after which texts are folded. -/
def fullWidth : Nat := 80

/-- The greatest length of a key that is written without a mark of its own, with its kind. -/
def keyLimit : Nat := 128

/-- Spaces. -/
def spaces (n : Nat) : Chars := List.replicate n ' '

/-- The start of a line. -/
def lineAt (indent : Nat) : Chars := '\n' :: spaces indent

/-- The column after a text that begins in a column. -/
def columnAfter (column : Nat) (s : Chars) : Nat :=
  s.foldl (fun n c => if c == '\n' then 0 else n + 1) column

/-! ## What a text holds -/

/-- Whether a word ends before a character that may be missing. -/
def beforeGap (c : Option Char) : Bool :=
  c.all fun c => [' ', '\t', '\r', '\n', '\x00', '\x85', '\u2028', '\u2029'].contains c

/-- Whether a character cannot begin a plain text. -/
def marksStart (c : Char) (next : Option Char) : Bool :=
  "#,[]&*!|>'\"%@".toList.contains c || c == '\x7b' || c == '\x7d' || c == '\x60' ||
    (beforeGap next && (c == '?' || c == ':' || c == '-'))

/-- Whether a mark stands inside a text after its first character: a colon before a gap or a number sign
after one. -/
def marksInside : Char → Chars → Bool
  | _, [] => false
  | before, c :: r =>
      (c == ':' && beforeGap r.head?) || (c == '#' && beforeGap (some before)) || marksInside c r

/-- Whether a text would be taken for something else than plain text. -/
def hasMarks (s : Chars) : Bool :=
  s.take 3 == ['-', '-', '-'] || s.take 3 == ['.', '.', '.'] ||
    (match s with
      | [] => false
      | c :: r => marksStart c r.head? || marksInside c r)

/-- Whether a text holds a character that has to be escaped. -/
def hasSpecial (s : Chars) : Bool :=
  s.any fun c => !(c == '\n' || (' ' ≤ c && c ≤ '~'))

/-- Whether a character comes right before another one somewhere in a text. -/
def hasPair (a b : Char) : Chars → Bool
  | x :: y :: r => (x == a && y == b) || hasPair a b (y :: r)
  | _ => false

/-- Whether a text begins or ends with a space or a line end. -/
def hasOuterBlank (s : Chars) : Bool :=
  let blank (c : Option Char) : Bool := c == some ' ' || c == some '\n'
  blank s.head? || blank s.getLast?

/-- The forms of a scalar. -/
inductive Form where
  | plain
  | single
  | double
  deriving DecidableEq, Repr

/-- The form of a text; a key is on one line. -/
def formOf (isKey : Bool) (tag : Tag) (s : Chars) : Form :=
  let multiline := s.contains '\n'
  let plain := plainTag s == tag && !(isKey && (s.isEmpty || multiline)) && !hasOuterBlank s &&
    !hasSpecial s && !multiline && !hasMarks s
  if plain then .plain
  else if hasSpecial s || hasPair '\n' ' ' s || hasPair ' ' '\n' s || (isKey && multiline) then
    .double
  else .single

/-! ## Folding -/

/-- A part of a text for folding. -/
inductive Run where
  /-- Neither spaces nor line ends. -/
  | word (s : Chars)
  /-- Spaces. -/
  | gap (n : Nat)
  /-- Line ends. -/
  | breaks (n : Nat)
  deriving DecidableEq, Repr

/-- A character in front of the runs of a text. -/
def addToRuns (c : Char) (runs : List Run) : List Run :=
  if c == ' ' then
    match runs with
    | .gap n :: rs => .gap (n + 1) :: rs
    | rs => .gap 1 :: rs
  else if c == '\n' then
    match runs with
    | .breaks n :: rs => .breaks (n + 1) :: rs
    | rs => .breaks 1 :: rs
  else
    match runs with
    | .word s :: rs => .word (c :: s) :: rs
    | rs => .word [c] :: rs

/-- The runs of a text. -/
def runsOf (s : Chars) : List Run := s.foldr addToRuns []

/-- The text of a run. -/
def Run.text : Run → Chars
  | .word s => s
  | .gap n => List.replicate n ' '
  | .breaks n => List.replicate n '\n'

/-- Adding a character to runs adds it to their text. -/
theorem text_addToRuns (c : Char) (runs : List Run) :
    (addToRuns c runs).flatMap Run.text = c :: runs.flatMap Run.text := by
  unfold addToRuns
  by_cases h1 : c = ' '
  · subst h1
    cases runs with
    | nil => rfl
    | cons x xs => cases x <;> simp [Run.text, List.replicate_succ]
  · by_cases h2 : c = '\n'
    · subst h2
      cases runs with
      | nil => rfl
      | cons x xs => cases x <;> simp [Run.text, List.replicate_succ]
    · cases runs with
      | nil => simp [h1, h2, Run.text]
      | cons x xs => cases x <;> simp [h1, h2, Run.text]

/-- Runs keep the text. -/
theorem text_runsOf (s : Chars) : (runsOf s).flatMap Run.text = s := by
  induction s with
  | nil => rfl
  | cons c r ih => rw [runsOf, List.foldr_cons, text_addToRuns, ← runsOf, ih]

/-- Writes runs from a column on. A single space after a full line becomes the start of a new line, and
line ends are written once more than they count. -/
def writeRuns (fold : Bool) (indent : Nat) (word : Chars → Chars) : Bool → Nat → List Run → Chars
  | _, _, [] => []
  | _, column, .word s :: rs =>
      word s ++ writeRuns fold indent word false (column + (word s).length) rs
  | first, column, .gap n :: rs =>
      if fold && n == 1 && fullWidth < column && !first && !rs.isEmpty then
        lineAt indent ++ writeRuns fold indent word false indent rs
      else spaces n ++ writeRuns fold indent word false (column + n) rs
  | _, _, .breaks n :: rs =>
      List.replicate n '\n' ++ lineAt indent ++ writeRuns fold indent word false indent rs

/-! ## Quoting -/

/-- Doubles the single quotes of a text. -/
def doubleQuotes (s : Chars) : Chars := s.flatMap fun c => if c == '\'' then ['\'', '\''] else [c]

/-- Hexadecimal digits in upper case. -/
def upperHex (width n : Nat) : Chars := (hexDigits width n).map Char.toUpper

/-- What is written for a character between double quotes, if it cannot stand for itself. -/
def escapeOf? (c : Char) : Option Chars :=
  let letter? : Option Char := match c with
    | '\x00' => some '0'
    | '\x07' => some 'a'
    | '\x08' => some 'b'
    | '\t' => some 't'
    | '\n' => some 'n'
    | '\x0b' => some 'v'
    | '\x0c' => some 'f'
    | '\r' => some 'r'
    | '\x1b' => some 'e'
    | '"' => some '"'
    | '\\' => some '\\'
    | '\x85' => some 'N'
    | '\xa0' => some '_'
    | '\u2028' => some 'L'
    | '\u2029' => some 'P'
    | _ => none
  match letter? with
  | some x => some ['\\', x]
  | none =>
      let n := c.toNat
      if 0x20 ≤ n && n ≤ 0x7e then none
      else if n < 0x100 then some ('\\' :: 'x' :: upperHex 2 n)
      else if n < 0x10000 then some ('\\' :: 'u' :: upperHex 4 n)
      else some ('\\' :: 'U' :: upperHex 8 n)

/-- What stands between double quotes. `held` is what is known to stand on the line but not written yet;
`column` is the column before it. -/
def writeEscaped (fold : Bool) (indent : Nat) : Bool → Nat → Chars → Chars → Chars
  | _, _, held, [] => held
  | first, column, held, c :: r =>
      match escapeOf? c with
      | some e =>
          let out := held ++ e
          let column := column + out.length
          if fold && !first && !r.isEmpty && fullWidth < column - 1 then
            let mark := if r.head? == some ' ' then ['\\'] else []
            out ++ '\\' :: lineAt indent ++ mark ++
              writeEscaped fold indent false (indent + mark.length) [] r
          else out ++ writeEscaped fold indent false column [] r
      | none =>
          if fold && !first && !r.isEmpty && (c == ' ' || held.isEmpty) &&
              fullWidth < column + held.length then
            let mark := if c == ' ' then ['\\'] else []
            held ++ '\\' :: lineAt indent ++ mark ++
              writeEscaped fold indent false (indent + mark.length) [c] r
          else writeEscaped fold indent false column (held ++ [c]) r

/-! ## Scalars -/

/-- The text of a number with a fraction; it always holds a point. -/
def fractionText (x : Float) : String :=
  if x.isNaN then ".nan"
  else if x.isInf then (if x < 0.0 then "-.inf" else ".inf")
  else
    let s := (Number.floatText x).toList
    if s.contains '.' || !s.contains 'e' then String.ofList s
    else String.ofList (s.takeWhile (· != 'e') ++ ['.', '0'] ++ s.dropWhile (· != 'e'))

/-- The kind and the text of a scalar. -/
def scalarOf : Datum → Tag × Chars
  | .null => (.null, "null".toList)
  | .bool b => (.bool, (if b then "true" else "false").toList)
  | .int i => (.int, (toString i).toList)
  | .float x => (.float, (fractionText x).toList)
  | .text s => (.str, s.toList)
  | .day d => (.timestamp, (Datum.day d).plain.toList)
  | .moment d c => (.timestamp, (Datum.moment d c).plain.toList)
  | v => (.str, v.plain.toList)

/-- The length of the name of a kind with its mark. -/
def tagLength : Tag → Nat
  | .null | .bool => 6
  | .float => 7
  | .timestamp => 11
  | _ => 5

/-- Writes a scalar that begins in a column. -/
def writeScalar (isKey : Bool) (indent column : Nat) (v : Datum) : Chars :=
  let (tag, s) := scalarOf v
  match formOf isKey tag s with
  | .plain => writeRuns (!isKey) indent id true column (runsOf s)
  | .single =>
      '\'' :: writeRuns (!isKey) indent doubleQuotes true (column + 1) (runsOf s) ++ ['\'']
  | .double => '"' :: writeEscaped (!isKey) indent true (column + 1) [] s ++ ['"']

/-! ## Structures -/

/-- Whether a key can stand before its colon without a mark of its own. -/
def isShortKey (k : Datum) : Bool :=
  let (tag, s) := scalarOf k
  tagLength tag + s.length < keyLimit && !s.isEmpty && !s.contains '\n'

/-- Where a value stands. -/
inductive Position where
  /-- After the colon of a key on the same line. -/
  | afterKey
  /-- After a mark at the start of a line. -/
  | afterMark

/-- What separates a structure from the mark before it. -/
def Position.lead (p : Position) (inner column : Nat) : Chars :=
  match p with
  | .afterKey => lineAt inner
  | .afterMark => spaces (inner - column)

/-- The column of the items of a list; after a key they are not indented. -/
def Position.itemIndent (p : Position) (indent : Nat) : Nat :=
  match p with
  | .afterKey => indent
  | .afterMark => indent + indentStep

mutual

/-- What follows a colon or a dash: the value, with what separates them. `indent` is the column of the
structure that holds the value, `column` the column after the mark. -/
def writeValue (position : Position) (indent column : Nat) : Datum → Chars
  | .dict es =>
      if es.isEmpty then " \x7b\x7d".toList
      else position.lead (indent + indentStep) column ++ writeEntries true (indent + indentStep) es
  | .list xs =>
      if xs.isEmpty then " []".toList
      else position.lead (position.itemIndent indent) column ++
        writeItems true (position.itemIndent indent) xs
  | .tuple xs =>
      if xs.isEmpty then " []".toList
      else position.lead (position.itemIndent indent) column ++
        writeItems true (position.itemIndent indent) xs
  | .set xs =>
      if xs.isEmpty then " []".toList
      else position.lead (position.itemIndent indent) column ++
        writeItems true (position.itemIndent indent) xs
  | v => ' ' :: writeScalar false (indent + indentStep) (column + 1) v

/-- The entries of a mapping; the first is written where the line stands. -/
def writeEntries (first : Bool) (indent : Nat) : List (Datum × Datum) → Chars
  | [] => []
  | (k, v) :: es =>
      let key := writeScalar true indent indent k
      let entry :=
        if isShortKey k then
          key ++ ':' :: writeValue .afterKey indent (indent + key.length + 1) v
        else
          '?' :: ' ' :: writeScalar false (indent + indentStep) (indent + 2) k ++ lineAt indent ++
            ':' :: writeValue .afterMark indent (indent + 1) v
      (if first then [] else lineAt indent) ++ entry ++ writeEntries false indent es

/-- The items of a list; the first is written where the line stands. -/
def writeItems (first : Bool) (indent : Nat) : List Datum → Chars
  | [] => []
  | x :: xs =>
      (if first then [] else lineAt indent) ++
        '-' :: writeValue .afterMark indent (indent + 1) x ++ writeItems false indent xs

end

/-- The text of a configuration. -/
def write (entries : List (Datum × Datum)) : Chars :=
  if entries.isEmpty then "\x7b\x7d\n".toList else writeEntries true 0 entries ++ ['\n']

end MarkupQuery.Yaml
