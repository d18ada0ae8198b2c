import MarkupQuery.Pattern.Basic
import MarkupQuery.Text.Quoted
import MarkupQuery.Text.Identifier
import MarkupQuery.Number.Integer

/-!
# Reading patterns

A pattern is read token by token, a backslash and the character after it being one token. The next
token is always looked up ahead, so that a backslash at the very end is found before anything else is
wrong. An error names what is wrong and where, and in patterns of several lines also line and column.
-/

namespace MarkupQuery.Pattern

open MarkupQuery.Text

/-! ## Errors -/

/-- What is wrong with a pattern or a template. -/
structure PatternError where
  /-- What is wrong. -/
  reason : String
  /-- The text that is wrong, and the place in it. -/
  place : Option (Chars × Int) := none
  deriving DecidableEq, Repr

/-- The line and column of a position, the columns counted from one. -/
def lineAndColumn (text : Chars) (position : Nat) : Nat × Nat :=
  let before := text.take position
  (before.count '\n' + 1, (before.reverse.takeWhile (· != '\n')).length + 1)

/-- The error in words. -/
def PatternError.message (e : PatternError) : String :=
  match e.place with
  | none => e.reason
  | some (text, position) =>
      let base := s!"{e.reason} at position {position}"
      if text.contains '\n' then
        let (line, column) := lineAndColumn text position.toNat
        base ++ s!" (line {line}, column {column})"
      else base

/-- What can stop the reading of a pattern. -/
inductive ReadFault where
  /-- The pattern is wrong. -/
  | malformed (error : PatternError)
  /-- A number of repetitions is beyond all bounds. -/
  | tooManyRepeats
  /-- A number of repetitions has too many digits to be read at all. -/
  | tooManyDigits (count : Nat)
  /-- Flags for the whole pattern ask for two kinds of characters. -/
  | mixedFlags
  deriving Repr

/-! ## Tokens -/

/-- A character, or a backslash with the character after it. -/
inductive Token where
  | plain (c : Char)
  | escaped (c : Char)
  deriving DecidableEq, Repr

/-- The token as it stands in the pattern. -/
def Token.chars : Token → Chars
  | .plain c => [c]
  | .escaped c => ['\\', c]

/-- An escape as it stands in the pattern. -/
def escapeText (c : Char) : String := String.ofList ['\\', c]

/-- A range as it stands in a character set. -/
def rangeText (low high : Token) : String := String.ofList (low.chars ++ '-' :: high.chars)

/-- The text under the reader, the token ahead and what comes after it. -/
structure Source where
  /-- The whole text. -/
  text : Chars
  /-- What follows the token ahead. -/
  rest : Chars
  /-- The position after the token ahead. -/
  index : Nat
  /-- The token ahead. -/
  ahead : Option Token
  deriving Repr

/-- The position of the token ahead. -/
def Source.position (s : Source) : Nat :=
  match s.ahead with
  | none => s.index
  | some t => s.index - t.chars.length

/-- Looks up the token at the start of the rest. -/
def Source.refill (s : Source) : Except PatternError Source :=
  match s.rest with
  | [] => .ok { s with ahead := none }
  | ['\\'] => .error ⟨"bad escape (end of pattern)", some (s.text, (s.text.length : Int) - 1)⟩
  | '\\' :: c :: r => .ok { s with rest := r, index := s.index + 2, ahead := some (.escaped c) }
  | c :: r => .ok { s with rest := r, index := s.index + 1, ahead := some (.plain c) }

/-- The source before the first token. -/
def Source.start (text : Chars) : Except PatternError Source :=
  Source.refill ⟨text, text, 0, none⟩

/-! ## The reader's state -/

/-- What the reader keeps while it goes along. -/
structure ReadState where
  source : Source
  /-- The flags of the whole pattern. -/
  flags : Flags
  /-- The groups opened so far, with their width once they are closed, the last first. -/
  widths : List (Option Width)
  /-- The names of the groups. -/
  names : List (String × Nat)
  /-- Inside a look behind: the number of groups, the whole match included, when it began. -/
  behindFrom : Option Nat
  /-- Where conditions first refer to a group by number. -/
  conditions : List (Nat × Nat)
  /-- The kinds of characters that flags for the whole pattern ask for: ASCII, and all. -/
  kinds : Bool × Bool
  deriving Repr

/-- Reading with a state and errors. -/
abbrev Read := StateT ReadState (Except ReadFault)

/-- Stops with an error at a position, counted back from the token ahead. -/
def failBack {α : Type} (reason : String) (back : Int) : Read α := do
  let s := (← get).source
  throw (.malformed ⟨reason, some (s.text, (s.position : Int) - back)⟩)

/-- The token ahead. -/
def peek : Read (Option Token) := do return (← get).source.ahead

/-- Takes the token ahead. -/
def next : Read (Option Token) := do
  let st ← get
  match st.source.refill with
  | .ok s => set { st with source := s }; return st.source.ahead
  | .error e => throw (.malformed e)

/-- Takes the token ahead if it is the given character. -/
def accept (c : Char) : Read Bool := do
  if (← peek) == some (.plain c) then
    let _ ← next
    return true
  else return false

/-- Takes up to `n` plain characters of a class. -/
def takeWhileClass (p : Char → Bool) : Nat → Read Chars
  | 0 => return []
  | n + 1 => do
      match ← peek with
      | some (.plain c) =>
          if p c then
            let _ ← next
            return c :: (← takeWhileClass p n)
          else return []
      | _ => return []

/-- Takes everything up to a closing character, which ends a name. -/
def takeName (close : Char) (what : String) : Nat → Chars → Read Chars
  | 0, name => failBack s!"missing {close}, unterminated name" name.length
  | fuel + 1, name => do
      match ← next with
      | none =>
          if name.isEmpty then failBack s!"missing {what}" 0
          else failBack s!"missing {close}, unterminated name" name.length
      | some t =>
          if t == .plain close then
            if name.isEmpty then failBack s!"missing {what}" 1 else return name
          else takeName close what fuel (name ++ t.chars)

/-- The number of groups so far, the whole match included. -/
def groupCount : Read Nat := do return (← get).widths.length + 1

/-- The width of a closed group. -/
def closedWidth? (widths : List (Option Width)) (i : Nat) : Option Width :=
  if i == 0 then none else (widths.reverse[i - 1]?).join

/-- The width of a group, for groups that are known to be closed. -/
def widthsOf (widths : List (Option Width)) (i : Nat) : Width := (closedWidth? widths i).getD ⟨0, 0⟩

/-- Opens a group. -/
def openGroup (name : Option Chars) : Read Nat := do
  let index ← groupCount
  modify fun st => { st with widths := none :: st.widths }
  match name with
  | none => return index
  | some name =>
      let key := String.ofList name
      match (← get).names.find? (·.1 == key) with
      | some (_, old) =>
          failBack s!"redefinition of group name {quotedString key} as group {index}; was group {old}"
            (name.length + 1)
      | none =>
          modify fun st => { st with names := st.names ++ [(key, index)] }
          return index

/-- Closes a group with what it holds. -/
def closeGroup (index : Nat) (body : Node) : Read Unit :=
  modify fun st =>
    let w := body.width (widthsOf st.widths)
    let i := st.widths.length - index
    { st with widths := st.widths.set i (some w) }

/-- Refuses references that a look behind must not contain. -/
def checkBehind (group : Nat) : Read Unit := do
  let st ← get
  match st.behindFrom with
  | none => return ()
  | some from_ =>
      if (closedWidth? st.widths group).isNone then failBack "cannot refer to an open group" 0
      else if from_ ≤ group then
        failBack "cannot refer to group defined in the same lookbehind subpattern" 0
      else return ()

/-! ## Names -/

/-- The most digits that a number may have. -/
def digitLimit : Nat := 4300

/-- The number of groups that no pattern can have. -/
def groupLimit : Nat := 1073741823

/-- The number that the name of a group writes; digits beyond the limit write none. -/
def groupNumber? (name : Chars) : Option Int :=
  if digitLimit < name.countP isDecimal then none else Number.readInt? name

/-- Refuses names that are no identifiers. -/
def checkName (name : Chars) (back : Nat) : Read Unit := do
  if isIdentifier name then return ()
  else
    failBack s!"bad character in group name {quotedString (String.ofList name)}" (name.length + back)

/-! ## Escapes -/

/-- The escapes for control characters, by the letter after the backslash. -/
def controlEscape? (c : Char) : Option Nat :=
  match c with
  | 'a' => some 7
  | 'b' => some 8
  | 'f' => some 12
  | 'n' => some 10
  | 'r' => some 13
  | 't' => some 9
  | 'v' => some 11
  | '\\' => some 92
  | _ => none

/-- The escapes for character classes. -/
def classEscape? (c : Char) : Option SetItem :=
  match c with
  | 'd' => some (.category .digit false)
  | 'D' => some (.category .digit true)
  | 's' => some (.category .space false)
  | 'S' => some (.category .space true)
  | 'w' => some (.category .word false)
  | 'W' => some (.category .word true)
  | _ => none

/-- An octal digit. -/
def isOctal (c : Char) : Bool := '0' ≤ c && c ≤ '7'

/-- A hexadecimal digit. -/
def isHex (c : Char) : Bool := (hexValue? c).isSome

/-- The number that hexadecimal digits write. -/
def hexNumber (s : Chars) : Nat := s.foldl (fun n c => 16 * n + (hexValue? c).getD 0) 0

/-- The number that decimal digits write. -/
def decimalNumber (s : Chars) : Nat := s.foldl (fun n c => 10 * n + (c.toNat - 48)) 0

/-- The number that octal digits write. -/
def octalNumber (s : Chars) : Nat := s.foldl (fun n c => 8 * n + (c.toNat - 48)) 0

/-- An escape with a fixed number of hexadecimal digits. -/
def hexEscape (letter : Char) (digits : Nat) : Read Nat := do
  let ds ← takeWhileClass isHex digits
  let shown := '\\' :: letter :: ds
  if ds.length != digits then
    failBack s!"incomplete escape {String.ofList shown}" shown.length
  else if 0x10ffff < hexNumber ds then
    failBack s!"bad escape {String.ofList shown}" shown.length
  else return hexNumber ds

/-- An escape that names a character. No names are known. -/
def nameEscape : Read Nat := do
  if !(← accept '\x7b') then failBack "missing \x7b" 0
  else
    let st ← get
    let name ← takeName '\x7d' "character name" (st.source.rest.length + 2) []
    failBack s!"undefined character name {quotedString (String.ofList name)}" (name.length + 4)

/-- Octal digits beyond one byte are refused. -/
def checkOctal (digits : Chars) : Read Nat := do
  let shown := '\\' :: digits
  if 0o377 < octalNumber digits then
    failBack s!"octal escape value {String.ofList shown} outside of range 0-0o377" shown.length
  else return octalNumber digits

/-- An escape inside a character set. -/
def setEscape (c : Char) : Read SetItem := do
  match controlEscape? c with
  | some n => return .one n
  | none =>
  match classEscape? c with
  | some k => return k
  | none =>
    if c == 'x' then return .one (← hexEscape c 2)
    else if c == 'u' then return .one (← hexEscape c 4)
    else if c == 'U' then return .one (← hexEscape c 8)
    else if c == 'N' then return .one (← nameEscape)
    else if isOctal c then
      let more ← takeWhileClass isOctal 2
      return .one (← checkOctal (c :: more))
    else if isAsciiDigit c || isAsciiLetter c then
      failBack s!"bad escape {escapeText c}" 2
    else return .one c.toNat

/-- A reference to a group, by number. -/
def groupReference (digits : Chars) (flags : Flags) : Read Node := do
  let group := decimalNumber digits
  if group < (← groupCount) then
    if (closedWidth? (← get).widths group).isNone then
      failBack "cannot refer to an open group" (digits.length + 1)
    else
      checkBehind group
      return .backreference group flags
  else failBack s!"invalid group reference {group}" digits.length

/-- An escape outside of character sets. -/
def nodeEscape (c : Char) (flags : Flags) : Read Node := do
  let one (n : Nat) : Node := .chars false [.one n] flags
  match c with
  | 'A' => return .anchor .textStart
  | 'Z' => return .anchor .textEnd
  | 'b' => return .anchor (.wordBoundary false flags.ascii)
  | 'B' => return .anchor (.wordBoundary true flags.ascii)
  | 'x' => return one (← hexEscape c 2)
  | 'u' => return one (← hexEscape c 4)
  | 'U' => return one (← hexEscape c 8)
  | 'N' => return one (← nameEscape)
  | '0' => return one (octalNumber (← takeWhileClass isOctal 2))
  | _ =>
    match classEscape? c, controlEscape? c with
    | some k, _ => return .chars false [k] flags
    | none, some n => return one n
    | none, none =>
      if isAsciiDigit c then
        match ← peek with
        | some (.plain d) =>
            if isAsciiDigit d then
              let _ ← next
              match ← peek with
              | some (.plain e) =>
                  if isOctal c && isOctal d && isOctal e then
                    let _ ← next
                    return one (← checkOctal [c, d, e])
                  else groupReference [c, d] flags
              | _ => groupReference [c, d] flags
            else groupReference [c] flags
        | _ => groupReference [c] flags
      else if isAsciiLetter c then failBack s!"bad escape {escapeText c}" 2
      else return one c.toNat

/-! ## Character sets -/

/-- Keeps the first of equal items. -/
def distinctItems (items : List SetItem) : List SetItem :=
  items.foldl (fun seen i => if seen.contains i then seen else seen ++ [i]) []

/-- One end of a range or a single member of a set. -/
def setMember (t : Token) : Read SetItem :=
  match t with
  | .plain c => return .one c.toNat
  | .escaped c => setEscape c

/-- The members of a character set, up to its closing bracket. `start` is where the set began. -/
def setMembers (start : Nat) : Nat → List SetItem → Read (List SetItem)
  | 0, items => return items
  | fuel + 1, items => do
      let unterminated {α : Type} : Read α := do
        failBack "unterminated character set" ((← get).source.position - start)
      match ← next with
      | none => unterminated
      | some t =>
          if t == .plain ']' && !items.isEmpty then return items
          else
            let low ← setMember t
            if ← accept '-' then
              match ← next with
              | none => unterminated
              | some (.plain ']') => return items ++ [low, .one 45]
              | some u =>
                  let high ← setMember u
                  let bad {α : Type} : Read α :=
                    failBack s!"bad character range {rangeText t u}"
                      (t.chars.length + 1 + u.chars.length)
                  match low, high with
                  | .one a, .one b =>
                      if b < a then bad else setMembers start fuel (items ++ [.range a b])
                  | _, _ => bad
            else setMembers start fuel (items ++ [low])

/-- A character set after its opening bracket. -/
def readSet (flags : Flags) : Read Node := do
  let start := (← get).source.position - 1
  let negated ← accept '^'
  let items ← setMembers start ((← get).source.rest.length + 2) []
  return .chars negated (distinctItems items) flags

/-! ## Repeats -/

/-- What makes a part unfit for being repeated. -/
inductive Repeatable where
  | yes
  | nothing
  | alreadyRepeated

/-- Whether a part can be repeated. -/
def Node.repeatable : Node → Repeatable
  | .anchor _ => .nothing
  | .repeated .. => .alreadyRepeated
  | _ => .yes

/-- The largest number of repetitions that can be written. -/
def repeatLimit : Nat := 4294967295

/-- Decimal digits ahead. -/
def takeDigits : Read Chars := do
  takeWhileClass isAsciiDigit ((← get).source.rest.length + 1)

/-- The number of repetitions that digits write. -/
def repeatCount (digits : Chars) : Read Nat := do
  if digitLimit < digits.length then throw (.tooManyDigits digits.length)
  else if repeatLimit ≤ decimalNumber digits then throw .tooManyRepeats
  else return decimalNumber digits

/-- The closing brace after the digits of two bounds. Without it the opening brace stands for itself, and
the reader goes back to where it was `before` the digits. -/
def closeBounds (before : ReadState) (low high : Chars) : Read (Option (Nat × Option Nat)) := do
  if !(← accept '\x7d') then
    set before
    return none
  else
    let least ← repeatCount low
    if high.isEmpty then return some (least, none)
    else
      let most ← repeatCount high
      if most < least then
        failBack "min repeat greater than max repeat"
          ((← get).source.position - before.source.position)
      else return some (least, some most)

/-- The bounds in braces after the opening one, nothing if the brace stands for itself. -/
def braceBounds : Read (Option (Nat × Option Nat)) := do
  let before ← get
  if (← peek) == some (.plain '\x7d') then return none
  else
    let low ← takeDigits
    let high ← if ← accept ',' then takeDigits else pure low
    closeBounds before low high

/-- How a repeat chooses, by the character after it. -/
def takeGreed : Read Greed := do
  if ← accept '?' then return .reluctant
  else if ← accept '+' then return .possessive
  else return .greedy

/-- Repeats the last part; `here` is where its bounds began. Without bounds the character stands for
itself. -/
def repeatLast (here : Nat) (c : Char) (flags : Flags) (parts : List Node)
    (bounds : Option (Nat × Option Nat)) : Read (List Node) := do
  match bounds with
  | none => return .chars false [.one c.toNat] flags :: parts
  | some (least, most) =>
      let back := (← get).source.position - here + 1
      match parts with
      | [] => failBack "nothing to repeat" back
      | item :: before =>
          match item.repeatable with
          | .nothing => failBack "nothing to repeat" back
          | .alreadyRepeated => failBack "multiple repeat" back
          | .yes => return .repeated (← takeGreed) least most item :: before

/-- The parts, the last first, after a character that repeats the last one. -/
def readRepeat (c : Char) (flags : Flags) (parts : List Node) : Read (List Node) := do
  let here := (← get).source.position
  match c with
  | '*' => repeatLast here c flags parts (some (0, none))
  | '+' => repeatLast here c flags parts (some (1, none))
  | '?' => repeatLast here c flags parts (some (0, some 1))
  | _ => do repeatLast here c flags parts (← braceBounds)

/-! ## Inline flags -/

/-- The letters for flags. -/
inductive FlagLetter where
  | ignoreCase | locale | multiline | dotAll | verbose | ascii | template | unicode
  deriving DecidableEq, Repr

/-- The flag that a letter stands for. -/
def flagLetter? (c : Char) : Option FlagLetter :=
  match c with
  | 'i' => some .ignoreCase
  | 'L' => some .locale
  | 'm' => some .multiline
  | 's' => some .dotAll
  | 'x' => some .verbose
  | 'a' => some .ascii
  | 't' => some .template
  | 'u' => some .unicode
  | _ => none

/-- Whether a flag chooses the kind of characters. -/
def FlagLetter.isType : FlagLetter → Bool
  | .ascii | .unicode | .locale => true
  | _ => false

/-- Turns flags on, then others off. -/
def Flags.change (f : Flags) (on off : List FlagLetter) : Flags :=
  let set (l : FlagLetter) (old : Bool) : Bool := (old || on.contains l) && !off.contains l
  { ignoreCase := set .ignoreCase f.ignoreCase
    multiline := set .multiline f.multiline
    dotAll := set .dotAll f.dotAll
    verbose := set .verbose f.verbose
    ascii := if on.any FlagLetter.isType then on.contains .ascii else f.ascii }

/-- A letter, for the choice between two messages. -/
def isLetterLike (t : Token) : Bool :=
  match t with
  | .plain c => isAlphanumeric c && !isDecimal c
  | .escaped _ => false

/-- The flags turned on, up to the character that ends them. -/
def flagsOn : Nat → FlagLetter → List FlagLetter → Read (List FlagLetter × Char)
  | 0, _, on => return (on, ')')
  | fuel + 1, flag, on => do
      if flag == .locale then failBack "bad inline flags: cannot use 'L' flag with a str pattern" 0
      let on := if on.contains flag then on else on ++ [flag]
      if flag.isType && on.any (fun f => f.isType && f != flag) then
        failBack "bad inline flags: flags 'a', 'u' and 'L' are incompatible" 0
      match ← next with
      | none => failBack "missing -, : or )" 0
      | some t =>
          match t with
          | .plain ')' => return (on, ')')
          | .plain '-' => return (on, '-')
          | .plain ':' => return (on, ':')
          | _ =>
              match (match t with | .plain c => flagLetter? c | .escaped _ => none) with
              | some f => flagsOn fuel f on
              | none =>
                  failBack (if isLetterLike t then "unknown flag" else "missing -, : or )")
                    t.chars.length

/-- The flags turned off, up to the colon. -/
def flagsOff : Nat → FlagLetter → List FlagLetter → Read (List FlagLetter)
  | 0, _, off => return off
  | fuel + 1, flag, off => do
      if flag.isType then
        failBack "bad inline flags: cannot turn off flags 'a', 'u' and 'L'" 0
      let off := if off.contains flag then off else off ++ [flag]
      match ← next with
      | none => failBack "missing :" 0
      | some (.plain ':') => return off
      | some t =>
          match (match t with | .plain c => flagLetter? c | .escaped _ => none) with
          | some f => flagsOff fuel f off
          | none => failBack (if isLetterLike t then "unknown flag" else "missing :") t.chars.length

/-- Flags in a group: for the whole pattern, or for the group that they open. -/
inductive FlagGroup where
  | whole (on : List FlagLetter)
  | inside (on off : List FlagLetter)

/-- The flags turned off, after the dash. -/
def flagsAfterDash (fuel : Nat) : Read (List FlagLetter) := do
  match ← next with
  | none => failBack "missing flag" 0
  | some t =>
      match (match t with | .plain c => flagLetter? c | .escaped _ => none) with
      | some f => flagsOff fuel f []
      | none => failBack (if isLetterLike t then "unknown flag" else "missing flag") t.chars.length

/-- The flags of a group that they open, unless they contradict each other. -/
def flagsInside (on off : List FlagLetter) : Read FlagGroup := do
  if off.contains .template then failBack "bad inline flags: cannot turn off global flag" 1
  else if on.any off.contains then failBack "bad inline flags: flag turned on and off" 1
  else return .inside on off

/-- What flags are for, by the character after those turned on. -/
def flagsBefore (close : Char) (fuel : Nat) (on : List FlagLetter) : Read FlagGroup := do
  if close == ')' then return .whole on
  else if on.contains .template then failBack "bad inline flags: cannot turn on global flag" 1
  else if close == '-' then flagsInside on (← flagsAfterDash fuel)
  else flagsInside on []

/-- The flags of a group, from their first character on. -/
def flagGroup (first : Char) : Read FlagGroup := do
  let fuel := (← get).source.rest.length + 2
  match flagLetter? first with
  | some f => do
      let (on, close) ← flagsOn fuel f []
      flagsBefore close fuel on
  | none => flagsBefore '-' fuel []

/-! ## Groups and sequences -/

/-- Skips a comment group to its closing parenthesis. -/
def skipComment (start : Nat) : Nat → Read Unit
  | 0 => return ()
  | fuel + 1 => do
      match ← peek with
      | none =>
          failBack "missing ), unterminated comment" ((← get).source.position - start)
      | some _ =>
          if (← next) == some (.plain ')') then return () else skipComment start fuel

/-- Skips to the end of the line. -/
def skipLine : Nat → Read Unit
  | 0 => return ()
  | fuel + 1 => do
      match ← next with
      | none => return ()
      | some (.plain '\n') => return ()
      | some _ => skipLine fuel

/-- A blank of verbose patterns. -/
def isVerboseBlank (c : Char) : Bool :=
  c == ' ' || c == '\t' || c == '\n' || c == '\r' || c == '\x0b' || c == '\x0c'

/-- The group that a condition asks about. -/
def conditionGroup (name : Chars) : Read Nat := do
  let shown := quotedString (String.ofList name)
  let back := name.length + 1
  let group ← if isIdentifier name then
      match (← get).names.find? (·.1 == String.ofList name) with
      | some (_, g) => pure g
      | none => failBack s!"unknown group name {shown}" back
    else
      match groupNumber? name with
      | some (.ofNat 0) => failBack "bad group number" back
      | some (.ofNat g) =>
          if groupLimit ≤ g then failBack s!"invalid group reference {g}" back
          else
            let place := (← get).source.position - name.length - 1
            modify fun st =>
              if st.conditions.any (·.1 == g) then st
              else { st with conditions := st.conditions ++ [(g, place)] }
            pure g
      | _ => failBack s!"bad character in group name {shown}" back
  checkBehind group
  return group

/-- The end of a group. -/
def closeParen (start : Nat) : Read Unit := do
  if ← accept ')' then return ()
  else failBack "missing ), unterminated subpattern" ((← get).source.position - start)

/-- What a parenthesis opened. -/
inductive GroupResult where
  /-- A part of the pattern. -/
  | part (node : Node)
  /-- A comment. -/
  | skipped
  /-- Flags for the whole pattern. -/
  | flagged (flags : Flags)

mutual

/-- A choice between sequences. `top` tells whether it is the whole pattern. -/
def readChoice : Nat → Flags → Bool → Read Node
  | 0, _, _ => return .sequence []
  | fuel + 1, flags, top => do
      let first ← readSequence fuel flags top []
      let st ← get
      let rest ← readBranches fuel (if top then st.flags else flags)
      return match rest with
        | [] => first
        | _ => .choice (first :: rest)

/-- The further sequences of a choice. -/
def readBranches : Nat → Flags → Read (List Node)
  | 0, _ => return []
  | fuel + 1, flags => do
      if ← accept '|' then
        let branch ← readSequence fuel flags false []
        return branch :: (← readBranches fuel flags)
      else return []

/-- Parts one after the other; `parts` are those read so far, the last first. `first` tells whether
flags for the whole pattern may still come. -/
def readSequence : Nat → Flags → Bool → List Node → Read Node
  | 0, _, _, parts => return .sequence parts.reverse
  | fuel + 1, flags, first, parts => do
      match ← peek with
      | none => return .sequence parts.reverse
      | some (.plain '|') => return .sequence parts.reverse
      | some (.plain ')') => return .sequence parts.reverse
      | some t =>
          let _ ← next
          let more (p : Node) : Read Node := readSequence fuel flags first (p :: parts)
          match t with
          | .escaped c => more (← nodeEscape c flags)
          | .plain c =>
            if flags.verbose && isVerboseBlank c then readSequence fuel flags first parts
            else if flags.verbose && c == '#' then
              skipLine fuel
              readSequence fuel flags first parts
            else match c with
            | '[' => do more (← readSet flags)
            | '.' => more (.anyChar flags.dotAll)
            | '^' => more (.anchor (.lineStart flags.multiline))
            | '$' => more (.anchor (.lineEnd flags.multiline))
            | '(' => do
                let start := (← get).source.position - 1
                match ← readGroup fuel flags start (first && parts.isEmpty) with
                | .part p => more p
                | .skipped => readSequence fuel flags first parts
                | .flagged f => readSequence fuel f first parts
            | _ =>
              if c == '*' || c == '+' || c == '?' || c == '\x7b' then do
                readSequence fuel flags first (← readRepeat c flags parts)
              else more (.chars false [.one c.toNat] flags)

/-- What stands after an opening parenthesis. -/
def readGroup : Nat → Flags → Nat → Bool → Read GroupResult
  | 0, _, _, _ => return .skipped
  | fuel + 1, flags, start, atStart => do
      let capture (name : Option Chars) : Read GroupResult := do
        let index ← openGroup name
        let body ← readChoice fuel flags false
        closeParen start
        closeGroup index body
        return .part (.group index body)
      let plain (flags : Flags) : Read Node := do
        let body ← readChoice fuel flags false
        closeParen start
        return body
      let look (negated : Bool) : Read GroupResult := do
        return .part (.look none negated (← plain flags))
      if !(← accept '?') then capture none
      else match ← next with
      | none => failBack "unexpected end of pattern" 0
      | some (.escaped c) =>
          failBack s!"unknown extension ?{escapeText c}" 3
      | some (.plain c) =>
        match c with
        | 'P' =>
            if ← accept '<' then
              let name ← takeName '>' "group name" ((← get).source.rest.length + 2) []
              checkName name 1
              capture (some name)
            else if ← accept '=' then
              let name ← takeName ')' "group name" ((← get).source.rest.length + 2) []
              checkName name 1
              match (← get).names.find? (·.1 == String.ofList name) with
              | none =>
                  failBack s!"unknown group name {quotedString (String.ofList name)}"
                    (name.length + 1)
              | some (_, g) =>
                  if (closedWidth? (← get).widths g).isNone then
                    failBack "cannot refer to an open group" (name.length + 1)
                  else
                    checkBehind g
                    return .part (.backreference g flags)
            else match ← next with
              | none => failBack "unexpected end of pattern" 0
              | some t =>
                  failBack s!"unknown extension ?P{String.ofList t.chars}" (t.chars.length + 2)
        | ':' => return .part (.group 0 (← plain flags))
        | '#' =>
            skipComment start ((← get).source.rest.length + 2)
            return .skipped
        | '=' => look false
        | '!' => look true
        | '<' => do
            match ← next with
            | none => failBack "unexpected end of pattern" 0
            | some t =>
                if t == .plain '=' || t == .plain '!' then
                  let outer := (← get).behindFrom
                  if outer.isNone then
                    let n ← groupCount
                    modify fun st => { st with behindFrom := some n }
                  let body ← readChoice fuel flags false
                  if outer.isNone then modify fun st => { st with behindFrom := none }
                  closeParen start
                  return .part (.look (some 0) (t == .plain '!') body)
                else
                  failBack s!"unknown extension ?<{String.ofList t.chars}" (t.chars.length + 2)
        | '(' => do
            let name ← takeName ')' "group name" ((← get).source.rest.length + 2) []
            let group ← conditionGroup name
            let present ← readSequence fuel flags false []
            let absent ← if ← accept '|' then do
                let p ← readSequence fuel flags false []
                if (← peek) == some (.plain '|') then
                  failBack "conditional backref with more than two branches" 0
                pure p
              else pure (.sequence [])
            closeParen start
            return .part (.conditional group present absent)
        | '>' => return .part (.atomic (← plain flags))
        | _ =>
          if (flagLetter? c).isSome || c == '-' then
            match ← flagGroup c with
            | .whole on =>
                modify fun st =>
                  { st with
                    flags := st.flags.change on []
                    kinds := (st.kinds.1 || on.contains .ascii, st.kinds.2 || on.contains .unicode) }
                if !atStart then
                  failBack "global flags not at the start of the expression"
                    ((← get).source.position - start)
                else return .flagged (← get).flags
            | .inside on off => return .part (.group 0 (← plain (flags.change on off)))
          else failBack s!"unknown extension ?{c}" 2

end

/-! ## Looking behind -/

/-- The farthest that a look behind can start back. -/
def widthLimit : Nat := 4294967295

mutual

/-- Gives every look behind the width that it has to start back. -/
def Node.settle (closed : Nat → Width) : Node → Except PatternError Node
  | .sequence parts => do return .sequence (← settleAll closed parts)
  | .choice branches => do return .choice (← settleAll closed branches)
  | .repeated g least most body => do return .repeated g least most (← body.settle closed)
  | .group i body => do return .group i (← body.settle closed)
  | .atomic body => do return .atomic (← body.settle closed)
  | .look none negated body => do return .look none negated (← body.settle closed)
  | .look (some _) negated body => do
      let w := body.width closed
      if widthLimit < w.least then throw ⟨"looks too much behind", none⟩
      else if !w.isFixed then throw ⟨"look-behind requires fixed-width pattern", none⟩
      else return .look (some w.least) negated (← body.settle closed)
  | .conditional i present absent => do
      return .conditional i (← present.settle closed) (← absent.settle closed)
  | node => return node

/-- Settles every one of several parts. -/
def settleAll (closed : Nat → Width) : List Node → Except PatternError (List Node)
  | [] => return []
  | p :: ps => do return (← p.settle closed) :: (← settleAll closed ps)

end

/-! ## Whole patterns -/

/-- Everything up to the end of the pattern. -/
def readWhole (length : Nat) : Read Node := do
  let node ← readChoice (6 * length + 10) (← get).flags true
  if (← get).kinds == (true, true) then throw .mixedFlags
  if (← peek).isSome then failBack "unbalanced parenthesis" 0
  let st ← get
  match st.conditions.find? (st.widths.length < ·.1) with
  | some (g, place) =>
      throw (.malformed ⟨s!"invalid group reference {g}", some (st.source.text, place)⟩)
  | none => return node

/-- Reads a pattern. -/
def Regex.read (source : Chars) (flags : Flags) : Except ReadFault Regex :=
  match Source.start source with
  | .error e => .error (.malformed e)
  | .ok s =>
      match (readWhole source.length).run ⟨s, flags, [], [], none, [], (flags.ascii, false)⟩ with
      | .error e => .error e
      | .ok (node, st) =>
          match node.settle (widthsOf st.widths) with
          | .error e => .error (.malformed e)
          | .ok node => .ok ⟨source, st.widths.length, st.names, node⟩

end MarkupQuery.Pattern
