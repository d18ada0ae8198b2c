import MarkupQuery.Fault
import MarkupQuery.Yaml.Cursor
import MarkupQuery.Encoding.Unicode

/-!
# Scalars of a configuration text

A scalar is written plain, between quotes, or as an indented block. In all of them a single line end
within the text is folded to a space unless the form keeps it. The readers below take the cursor at the
first character of a scalar and give its text and the place after it.
-/

namespace MarkupQuery.Yaml

open MarkupQuery.Text

/-- A text that forms no token. -/
def unscannable : Fault := .yaml .scanner

/-- What is left of a text bounds the number of steps that reading it takes. -/
def Cursor.steps (c : Cursor) : Nat := c.rest.length + 1

/-- What the line end and the empty lines after it stand for inside a scalar: a lone line feed folds to
a space, and before empty lines it is dropped. -/
def foldedBreak (first : Chars) (empty : Chars) : Chars :=
  if first != ['\n'] then first ++ empty else if empty.isEmpty then [' '] else empty

/-! ## Plain scalars -/

/-- The length of the word of a plain scalar at the start of a text. Inside brackets fewer characters
may stand in it. -/
def plainLength (flow : Bool) : Chars → Nat
  | [] => 0
  | c :: r =>
      if endsWord (some c) then 0
      else if c == ':' && (endsWord r.head? || (flow && r.head?.any [',', '[', ']', '{', '}'].contains)) then 0
      else if flow && [',', '?', '[', ']', '{', '}'].contains c then 0
      else plainLength flow r + 1

/-- The empty lines inside a plain scalar and the place after them; nothing if a mark between documents
follows. -/
def plainEmptyLines : Nat → Cursor → Chars → Option Chars × Cursor
  | 0, c, empty => (some empty, c)
  | fuel + 1, c, empty =>
      if c.at? ' ' then plainEmptyLines fuel c.next empty
      else if c.peek.any isBreak then
        let (b, c) := c.lineBreak
        if startsSeparator c.rest then (none, c) else plainEmptyLines fuel c (empty ++ b)
      else (some empty, c)

/-- What stands between two words of a plain scalar. -/
structure PlainGap where
  /-- The text of the gap; without one the scalar ends. -/
  text : Chars
  after : Cursor
  /-- Whether a line ended in the gap. -/
  newLine : Bool

/-- The gap after a word of a plain scalar. -/
def plainGap (c : Cursor) : PlainGap :=
  let (spaces, c) := c.span (· == ' ')
  if c.peek.any isBreak then
    let (first, c) := c.lineBreak
    if startsSeparator c.rest then ⟨[], c, true⟩
    else
      match plainEmptyLines c.steps c [] with
      | (none, c) => ⟨[], c, true⟩
      | (some empty, c) => ⟨foldedBreak first empty, c, true⟩
  else ⟨spaces, c, false⟩

/-- A scalar that was read. -/
structure ScalarText where
  text : Chars
  after : Cursor
  /-- Whether the scalar ended at the start of a line, where a key may follow. -/
  newLine : Bool

/-- The words of a plain scalar, after the given text and gap. -/
def plainWords (flow : Bool) (indent : Int) : Nat → Chars → PlainGap → ScalarText
  | 0, text, gap => ⟨text, gap.after, gap.newLine⟩
  | fuel + 1, text, gap =>
      let n := plainLength flow gap.after.rest
      if gap.after.at? '#' || n == 0 then ⟨text, gap.after, gap.newLine⟩
      else
        let text := text ++ gap.text ++ gap.after.rest.take n
        let next := plainGap (gap.after.skip n)
        if next.text.isEmpty || (!flow && (next.after.column : Int) < indent) then
          ⟨text, next.after, next.newLine⟩
        else plainWords flow indent fuel text next

/-- A plain scalar. Its further lines are indented at least as told. -/
def plainScalar (flow : Bool) (indent : Int) (c : Cursor) : ScalarText :=
  plainWords flow indent c.steps [] ⟨[], c, false⟩

/-! ## Quoted scalars -/

/-- What a letter after a backslash stands for. -/
def escapeLetter? : Char → Option Char
  | '0' => some '\x00'
  | 'a' => some '\x07'
  | 'b' => some '\x08'
  | 't' => some '\t'
  | '\t' => some '\t'
  | 'n' => some '\n'
  | 'v' => some '\x0b'
  | 'f' => some '\x0c'
  | 'r' => some '\r'
  | 'e' => some '\x1b'
  | ' ' => some ' '
  | '"' => some '"'
  | '\\' => some '\\'
  | '/' => some '/'
  | 'N' => some '\x85'
  | '_' => some '\xa0'
  | 'L' => some '\u2028'
  | 'P' => some '\u2029'
  | _ => none

/-- How many hexadecimal digits follow a letter after a backslash. -/
def escapeDigits? : Char → Option Nat
  | 'x' => some 2
  | 'u' => some 4
  | 'U' => some 8
  | _ => none

/-- The character of a code, if there is one. -/
def characterOf (n : Nat) : Except Fault Char :=
  if n < 0x110000 then .ok (Char.ofNat (if 0xd800 ≤ n && n < 0xe000 then 0xfffd else n))
  else if n < 0x80000000 then .error .noSuchCharacter
  else .error .overflow

/-- The line ends after the first one inside quotes. -/
def quotedBreaks : Nat → Cursor → Chars → Except Fault (Chars × Cursor)
  | 0, c, breaks => .ok (breaks, c)
  | fuel + 1, c, breaks =>
      if startsSeparator c.rest then .error unscannable
      else
        let c := c.skipWhile fun x => x == ' ' || x == '\t'
        if c.peek.any isBreak then
          let (b, c) := c.lineBreak
          quotedBreaks fuel c (breaks ++ b)
        else .ok (breaks, c)

/-- What an escape stands for; the cursor is after the backslash. -/
def quotedEscape (c : Cursor) : Except Fault (Chars × Cursor) :=
  match c.peek with
  | none => .error unscannable
  | some x =>
      match escapeLetter? x, escapeDigits? x with
      | some y, _ => .ok ([y], c.next)
      | none, some n =>
          let digits := c.next.rest.take n
          if digits.length == n && digits.all fun d => (hexValue? d).isSome then do
            let code := digits.foldl (fun k d => 16 * k + (hexValue? d).getD 0) 0
            return ([← characterOf code], c.next.skip n)
          else .error unscannable
      | none, none =>
          if isBreak x then quotedBreaks c.steps c.lineBreak.2 []
          else .error unscannable

/-- The characters of a quoted scalar up to blanks or the end. -/
def quotedWord (double : Bool) : Nat → Cursor → Chars → Except Fault (Chars × Cursor)
  | 0, c, text => .ok (text, c)
  | fuel + 1, c, text =>
      match c.peek with
      | none => .ok (text, c)
      | some '\'' =>
          if double then quotedWord double fuel c.next (text ++ ['\''])
          else if c.second == some '\'' then quotedWord double fuel c.next.next (text ++ ['\''])
          else .ok (text, c)
      | some '"' =>
          if double then .ok (text, c) else quotedWord double fuel c.next (text ++ ['"'])
      | some '\\' =>
          if double then do
            let (part, c) ← quotedEscape c.next
            quotedWord double fuel c (text ++ part)
          else quotedWord double fuel c.next (text ++ ['\\'])
      | some x =>
          if endsWord (some x) then .ok (text, c)
          else
            let plain (y : Char) : Bool := !(y == '\'' || y == '"' || y == '\\' || endsWord (some y))
            let (part, c) := c.span plain
            quotedWord double fuel c (text ++ part)

/-- What blanks inside quotes stand for. -/
def quotedBlanks (c : Cursor) : Except Fault (Chars × Cursor) := do
  let (blanks, c) := c.span fun x => x == ' ' || x == '\t'
  match c.peek with
  | none => throw unscannable
  | some x =>
      if isBreak x then
        let (first, c) := c.lineBreak
        let (breaks, c) ← quotedBreaks c.steps c []
        return (foldedBreak first breaks, c)
      else return (blanks, c)

/-- The rest of a quoted scalar up to its closing quote. -/
def quotedRest (double : Bool) : Nat → Cursor → Chars → Except Fault (Chars × Cursor)
  | 0, _, _ => .error unscannable
  | fuel + 1, c, text =>
      if c.at? (if double then '"' else '\'') then .ok (text, c.next)
      else do
        let (blanks, c) ← quotedBlanks c
        let (word, c) ← quotedWord double c.steps c []
        quotedRest double fuel c (text ++ blanks ++ word)

/-- A quoted scalar; the cursor is at the opening quote. -/
def quotedScalar (double : Bool) (c : Cursor) : Except Fault (Chars × Cursor) := do
  let c := c.next
  let (word, c) ← quotedWord double c.steps c []
  quotedRest double c.steps c word

/-! ## Block scalars -/

/-- What becomes of the line ends at the end of a block scalar. -/
inductive Chomping where
  /-- The first is kept. -/
  | clip
  /-- All are dropped. -/
  | strip
  /-- All are kept. -/
  | keep
  deriving DecidableEq, Repr

/-- The chomping that a sign asks for. -/
def chompingOf? : Option Char → Option Chomping
  | some '+' => some .keep
  | some '-' => some .strip
  | _ => none

/-- The indentation that a digit asks for; zero is refused. -/
def indentOf? (c : Option Char) : Except Fault (Option Nat) :=
  match c with
  | some d =>
      if d == '0' then .error unscannable
      else if d.isDigit then .ok (some (d.toNat - 48))
      else .ok none
  | none => .ok none

/-- The sign and the digit after the mark of a block scalar, in any order. -/
def blockIndicators (c : Cursor) : Except Fault (Chomping × Option Nat × Cursor) := do
  let (chomping, indent, c) ←
    match chompingOf? c.peek with
    | some k => do
        let c := c.next
        match ← indentOf? c.peek with
        | some n => pure (k, some n, c.next)
        | none => pure (k, none, c)
    | none => do
        match ← indentOf? c.peek with
        | none => pure (Chomping.clip, none, c)
        | some n =>
            let c := c.next
            match chompingOf? c.peek with
            | some k => pure (k, some n, c.next)
            | none => pure (Chomping.clip, some n, c)
  if endsPart c.peek then return (chomping, indent, c) else throw unscannable

/-- The place after the rest of a line that may hold a comment only. -/
def restOfLine (c : Cursor) : Except Fault Cursor :=
  let c := c.skipComment
  if endsLine c.peek then .ok c.lineBreak.2 else .error unscannable

/-- The line ends before the first line of a block that holds text, the widest indentation met on the
way, and the place of the text. -/
def blockStart : Nat → Cursor → Chars → Nat → Chars × Nat × Cursor
  | 0, c, breaks, widest => (breaks, widest, c)
  | fuel + 1, c, breaks, widest =>
      if c.at? ' ' then
        let c := c.next
        blockStart fuel c breaks (max widest c.column)
      else if c.peek.any isBreak then
        let (b, c) := c.lineBreak
        blockStart fuel c (breaks ++ b) widest
      else (breaks, widest, c)

/-- The place after at most so many columns of spaces. -/
def skipIndent (indent : Nat) : Nat → Cursor → Cursor
  | 0, c => c
  | fuel + 1, c => if c.column < indent && c.at? ' ' then skipIndent indent fuel c.next else c

/-- The line ends before the next line of a block that holds text, and the place of that text. -/
def blockBreaks (indent : Nat) : Nat → Cursor → Chars → Chars × Cursor
  | 0, c, breaks => (breaks, c)
  | fuel + 1, c, breaks =>
      let c := skipIndent indent c.steps c
      if c.peek.any isBreak then
        let (b, c) := c.lineBreak
        blockBreaks indent fuel c (breaks ++ b)
      else (breaks, c)

/-- Whether a line of a block begins with a blank; such lines are not folded. -/
def Cursor.atBlank (c : Cursor) : Bool := c.at? ' ' || c.at? '\t'

/-- The lines of a block scalar: their text, the last line end, the line ends after it, and the place
after them. -/
def blockLines (folded : Bool) (indent : Nat) :
    Nat → Cursor → Chars → Chars → Chars → Chars × Chars × Chars × Cursor
  | 0, c, text, last, breaks => (text, last, breaks, c)
  | fuel + 1, c, text, last, breaks =>
      if c.column == indent && c.peek.isSome then
        let (line, after) := c.span fun x => !isBreak x
        let (ending, after) := after.lineBreak
        let (empty, after) := blockBreaks indent after.steps after []
        let text := text ++ breaks ++ line
        if after.column == indent && after.peek.isSome then
          let joint :=
            if folded && ending == ['\n'] && !c.atBlank && !after.atBlank then
              (if empty.isEmpty then [' '] else [])
            else ending
          blockLines folded indent fuel after (text ++ joint) ending empty
        else (text, ending, empty, after)
      else (text, last, breaks, c)

/-- A block scalar inside a structure of the given indentation; the cursor is at its mark. -/
def blockScalar (folded : Bool) (outer : Int) (c : Cursor) : Except Fault (Chars × Cursor) := do
  let (chomping, asked, c) ← blockIndicators c.next
  let c ← restOfLine c
  let least := max 1 (outer + 1).toNat
  let (breaks, indent, c) :=
    match asked with
    | none =>
        let (breaks, widest, c) := blockStart c.steps c [] 0
        (breaks, max least widest, c)
    | some n =>
        let indent := least + n - 1
        let (breaks, c) := blockBreaks indent c.steps c []
        (breaks, indent, c)
  let (text, last, breaks, c) := blockLines folded indent c.steps c [] [] breaks
  let ending := match chomping with
    | .strip => []
    | .clip => last
    | .keep => last ++ breaks
  return (text ++ ending, c)

/-! ## Tags -/

/-- The characters that stand for themselves in tags. -/
def isTagChar (c : Char) : Bool :=
  c.isAlphanum || "-;/?:@&=+$,_.!~*'()[]%".toList.contains c

/-- The bytes that percent escapes stand for, and the place after them. -/
def tagEscapes : Nat → Cursor → Encoding.Bytes → Except Fault (Encoding.Bytes × Cursor)
  | 0, c, bytes => .ok (bytes, c)
  | fuel + 1, c, bytes =>
      if c.at? '%' then
        match c.next.peek.bind hexValue?, c.next.second.bind hexValue? with
        | some a, some b => tagEscapes fuel (c.skip 3) (bytes ++ [UInt8.ofNat (16 * a + b)])
        | _, _ => .error unscannable
      else .ok (bytes, c)

/-- The longest tag text here, escapes replaced. -/
def tagText : Nat → Cursor → Chars → Except Fault (Chars × Cursor)
  | 0, c, text => .ok (text, c)
  | fuel + 1, c, text =>
      if c.at? '%' then do
        let (bytes, c) ← tagEscapes c.steps c []
        match Encoding.utf8? bytes with
        | some s => tagText fuel c (text ++ s.toList)
        | none => throw unscannable
      else
        match c.peek with
        | some x => if isTagChar x then tagText fuel c.next (text ++ [x]) else .ok (text, c)
        | none => .ok (text, c)

/-- The text of a tag or of what a tag begins with; it is not empty. -/
def tagUri (c : Cursor) : Except Fault (Chars × Cursor) := do
  let (text, after) ← tagText c.steps c []
  if after.index == c.index then throw unscannable
  return (text, after)

/-- The handle that a tag begins with: exclamation marks around a name, or a single one. -/
def tagHandle (c : Cursor) : Except Fault (Chars × Cursor) :=
  if !c.at? '!' then .error unscannable
  else if c.second == some ' ' then .ok (['!'], c.next)
  else
    let (name, after) := c.next.span isNameChar
    if after.at? '!' then .ok ('!' :: name ++ ['!'], after.next) else .error unscannable

/-- A tag: its handle, unless it is written in full, and the rest of it. -/
def tagOf (c : Cursor) : Except Fault ((Option Chars × Chars) × Cursor) := do
  let (tag, c) ←
    match c.second with
    | some '<' => do
        let (text, c) ← tagUri (c.skip 2)
        if c.at? '>' then pure ((none, text), c.next) else throw unscannable
    | next =>
        if endsWord next then pure ((none, ['!']), c.next)
        else
          let word := c.next.rest.takeWhile fun x => !endsPart (some x)
          if word.contains '!' then do
            let (handle, c) ← tagHandle c
            let (text, c) ← tagUri c
            pure ((some handle, text), c)
          else do
            let (text, c) ← tagUri c.next
            pure ((some ['!'], text), c)
  if endsPart c.peek then return (tag, c) else throw unscannable

/-- The name of an anchor or of a reference to one; the cursor is at its mark. -/
def anchorName (c : Cursor) : Except Fault (Chars × Cursor) :=
  let (name, c) := c.next.span isNameChar
  let ends := endsWord c.peek || c.peek.any "?:,]%@".toList.contains || c.at? '\x7d' || c.at? '\x60'
  if name.isEmpty || !ends then .error unscannable else .ok (name, c)

/-! ## Directives -/

/-- An instruction before a document. -/
inductive Directive where
  /-- The version of the format. -/
  | version (major : Nat)
  /-- A handle for tags and what it stands for. -/
  | handle (name : Chars) (text : Chars)
  /-- Anything else; it has no meaning. -/
  | other
  deriving DecidableEq, Repr

/-- A number of a version. -/
def versionNumber (c : Cursor) : Except Fault (Nat × Cursor) :=
  let (digits, c) := c.span Char.isDigit
  if digits.isEmpty then .error unscannable
  else .ok (digits.foldl (fun n d => 10 * n + (d.toNat - 48)) 0, c)

/-- A directive; the cursor is at its mark. -/
def directive (c : Cursor) : Except Fault (Directive × Cursor) := do
  let (name, c) := c.next.span isNameChar
  if name.isEmpty || !endsPart c.peek then throw unscannable
  let (d, c) ←
    if name == "YAML".toList then do
      let (major, c) ← versionNumber (c.skipWhile (· == ' '))
      if !c.at? '.' then throw unscannable
      let (_, c) ← versionNumber c.next
      if !endsPart c.peek then throw unscannable
      pure (Directive.version major, c)
    else if name == "TAG".toList then do
      let (handle, c) ← tagHandle (c.skipWhile (· == ' '))
      if !c.at? ' ' then throw unscannable
      let (text, c) ← tagUri (c.skipWhile (· == ' '))
      if !endsPart c.peek then throw unscannable
      pure (Directive.handle handle text, c)
    else pure (Directive.other, c.skipWhile (fun x => !isBreak x))
  return (d, ← restOfLine c)

end MarkupQuery.Yaml
