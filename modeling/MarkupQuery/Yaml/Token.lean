import MarkupQuery.Yaml.Scalar

/-!
# Tokens of a configuration text

A text is a sequence of tokens. Indentation becomes tokens that open and close structures, and since a
key is known as such only by the colon after it, the token that announces a key is put before tokens
that were read already. Where reading fails the sequence ends in a token that holds the reason. It stands
in the place of the first token that could not be handed out without reading past the failure.
-/

namespace MarkupQuery.Yaml

open MarkupQuery.Text

/-! ## Tokens -/

/-- A part of a configuration text. -/
inductive Token where
  | directive (d : Directive)
  | documentStart
  | documentEnd
  | blockSequence
  | blockMapping
  | blockEnd
  | openList
  | closeList
  | openMap
  | closeMap
  | blockEntry
  | flowEntry
  | key
  | value
  | reference (name : Chars)
  | anchor (name : Chars)
  | tag (handle : Option Chars) (text : Chars)
  | scalar (text : Chars) (plain : Bool)
  | streamEnd
  /-- Reading cannot go on. -/
  | broken (reason : Fault)
  deriving Inhabited

/-! ## The state of reading -/

/-- A token that turns out to begin a key if a colon follows. -/
structure KeyCandidate where
  /-- Brackets open around it. -/
  flow : Nat
  /-- How many tokens are before it. -/
  number : Nat
  /-- Whether nothing but a key may stand there. -/
  required : Bool
  index : Nat
  line : Nat
  column : Nat

/-- What has been read and what it was read in. -/
structure Reading where
  cursor : Cursor
  tokens : Array Token
  /-- How many brackets are open. -/
  flow : Nat
  /-- The column of the innermost block, or less than zero outside all blocks. -/
  indent : Int
  /-- The columns of the blocks around it. -/
  outer : List Int
  /-- Whether a key may begin here. -/
  keyAllowed : Bool
  /-- At most one candidate for each number of open brackets. -/
  candidates : List KeyCandidate
  /-- Whether the end of the text was read. -/
  done : Bool

/-- Nothing read yet. -/
def Reading.start (text : Chars) : Reading :=
  ⟨Cursor.start text, #[], 0, -1, [], true, [], false⟩

/-- Adds a token. -/
def Reading.push (s : Reading) (t : Token) : Reading := { s with tokens := s.tokens.push t }

/-- Moves to another place. -/
def Reading.goto (s : Reading) (c : Cursor) : Reading := { s with cursor := c }

/-! ## Key candidates -/

/-- Forgets the candidate between the brackets that are open now. -/
def Reading.dropCandidate (s : Reading) : Except Fault Reading :=
  if s.candidates.any fun k => k.flow == s.flow && k.required then .error unscannable
  else .ok { s with candidates := s.candidates.filter fun k => k.flow != s.flow }

/-- Makes the next token a candidate, where a key is allowed. -/
def Reading.saveCandidate (s : Reading) : Except Fault Reading :=
  if s.keyAllowed then do
    let s ← s.dropCandidate
    let c := s.cursor
    let required := s.flow == 0 && s.indent == c.column
    let k : KeyCandidate := ⟨s.flow, s.tokens.size, required, c.index, c.line, c.column⟩
    return { s with candidates := s.candidates ++ [k] }
  else .ok s

/-- Forgets the candidates that cannot become keys any more, because a key is on one line and not longer
than 1024 characters. -/
def Reading.dropStale (s : Reading) : Except Fault Reading :=
  let stale (k : KeyCandidate) : Bool :=
    k.line != s.cursor.line || 1024 < s.cursor.index - k.index
  if s.candidates.any fun k => stale k && k.required then .error unscannable
  else .ok { s with candidates := s.candidates.filter fun k => !stale k }

/-- The number of tokens that can be handed out before more has to be read. -/
def Reading.settled (s : Reading) : Nat :=
  s.candidates.foldl (fun n k => min n k.number) s.tokens.size

/-! ## Indentation -/

/-- Closes the blocks that are indented more than a column. -/
def closeBlocks (column : Int) : Int → List Int → Array Token → Int × List Int × Array Token
  | indent, [], tokens => (indent, [], tokens)
  | indent, o :: os, tokens =>
      if column < indent then closeBlocks column o os (tokens.push .blockEnd)
      else (indent, o :: os, tokens)

/-- Goes back to the block that holds a column. Brackets suspend indentation. -/
def Reading.unwind (s : Reading) (column : Int) : Reading :=
  if s.flow != 0 then s
  else
    let (indent, outer, tokens) := closeBlocks column s.indent s.outer s.tokens
    { s with indent, outer, tokens }

/-- Whether a column is deeper than the innermost block. -/
def Reading.deeper (s : Reading) (column : Nat) : Bool := s.indent < (column : Int)

/-- Opens a block at a column. -/
def Reading.indentTo (s : Reading) (column : Nat) : Reading :=
  { s with indent := column, outer := s.indent :: s.outer }

/-- Opens a block at the place of reading, announced by a token, if that is deeper. -/
def Reading.openBlock (s : Reading) (t : Token) : Reading :=
  if s.deeper s.cursor.column then (s.indentTo s.cursor.column).push t else s

/-! ## Reading one token -/

/-- The place of the next token; where lines end a key may follow. -/
def skipToToken : Nat → Cursor → Bool → Cursor × Bool
  | 0, c, newLine => (c, newLine)
  | fuel + 1, c, newLine =>
      let c := c.skipComment
      if c.peek.any isBreak then skipToToken fuel c.next true else (c, newLine)

/-- Goes to the next token. A byte order mark at the very start is passed. -/
def Reading.toToken (s : Reading) : Reading :=
  let c := if s.cursor.index == 0 && s.cursor.at? '\ufeff' then s.cursor.next else s.cursor
  let (c, newLine) := skipToToken c.steps c false
  { s with cursor := c, keyAllowed := s.keyAllowed || (newLine && s.flow == 0) }

/-- The end of the text. -/
def Reading.readEnd (s : Reading) : Except Fault Reading := do
  let s ← (s.unwind (-1)).dropCandidate
  return { s.push .streamEnd with keyAllowed := false, candidates := [], done := true }

/-- A directive. -/
def Reading.readDirective (s : Reading) : Except Fault Reading := do
  let s ← (s.unwind (-1)).dropCandidate
  let (d, c) ← directive s.cursor
  return { (s.goto c).push (.directive d) with keyAllowed := false }

/-- A mark between documents. -/
def Reading.readSeparator (s : Reading) (t : Token) : Except Fault Reading := do
  let s ← (s.unwind (-1)).dropCandidate
  return { (s.goto (s.cursor.skip 3)).push t with keyAllowed := false }

/-- An opening bracket. -/
def Reading.readOpening (s : Reading) (t : Token) : Except Fault Reading := do
  let s ← s.saveCandidate
  return { (s.goto s.cursor.next).push t with flow := s.flow + 1, keyAllowed := true }

/-- A closing bracket. -/
def Reading.readClosing (s : Reading) (t : Token) : Except Fault Reading := do
  let s ← s.dropCandidate
  return { (s.goto s.cursor.next).push t with flow := s.flow - 1, keyAllowed := false }

/-- A comma between brackets. -/
def Reading.readComma (s : Reading) : Except Fault Reading := do
  let s ← s.dropCandidate
  return { (s.goto s.cursor.next).push .flowEntry with keyAllowed := true }

/-- The dash of an item. -/
def Reading.readDash (s : Reading) : Except Fault Reading := do
  if s.flow == 0 && !s.keyAllowed then throw unscannable
  let s := if s.flow == 0 then s.openBlock .blockSequence else s
  let s ← s.dropCandidate
  return { (s.goto s.cursor.next).push .blockEntry with keyAllowed := true }

/-- The mark of an explicit key. -/
def Reading.readKey (s : Reading) : Except Fault Reading := do
  if s.flow == 0 && !s.keyAllowed then throw unscannable
  let s := if s.flow == 0 then s.openBlock .blockMapping else s
  let s ← s.dropCandidate
  return { (s.goto s.cursor.next).push .key with keyAllowed := s.flow == 0 }

/-- The colon before a value. If a candidate stands before it, it becomes a key. -/
def Reading.readColon (s : Reading) : Except Fault Reading := do
  match s.candidates.find? fun k => k.flow == s.flow with
  | some k =>
      let s := { s with
        candidates := s.candidates.filter (fun k => k.flow != s.flow)
        tokens := s.tokens.insertIdxIfInBounds k.number .key }
      let s := if s.flow == 0 && s.deeper k.column then
          { s.indentTo k.column with
            tokens := s.tokens.insertIdxIfInBounds k.number .blockMapping }
        else s
      return { (s.goto s.cursor.next).push .value with keyAllowed := false }
  | none =>
      if s.flow == 0 && !s.keyAllowed then throw unscannable
      let s := if s.flow == 0 then s.openBlock .blockMapping else s
      let s := { s with keyAllowed := s.flow == 0 }
      let s ← s.dropCandidate
      return (s.goto s.cursor.next).push .value

/-- A reference or an anchor. -/
def Reading.readAnchor (s : Reading) (t : Chars → Token) : Except Fault Reading := do
  let s ← s.saveCandidate
  let (name, c) ← anchorName s.cursor
  return { (s.goto c).push (t name) with keyAllowed := false }

/-- A tag. -/
def Reading.readTag (s : Reading) : Except Fault Reading := do
  let s ← s.saveCandidate
  let ((handle, text), c) ← tagOf s.cursor
  return { (s.goto c).push (.tag handle text) with keyAllowed := false }

/-- A block scalar. -/
def Reading.readBlock (s : Reading) (folded : Bool) : Except Fault Reading := do
  let s ← s.dropCandidate
  let (text, c) ← blockScalar folded s.indent s.cursor
  return { (s.goto c).push (.scalar text false) with keyAllowed := true }

/-- A quoted scalar. -/
def Reading.readQuoted (s : Reading) (double : Bool) : Except Fault Reading := do
  let s ← s.saveCandidate
  let (text, c) ← quotedScalar double s.cursor
  return { (s.goto c).push (.scalar text false) with keyAllowed := false }

/-- A plain scalar. -/
def Reading.readPlain (s : Reading) : Except Fault Reading := do
  let s ← s.saveCandidate
  let t := plainScalar (s.flow != 0) (s.indent + 1) s.cursor
  return { (s.goto t.after).push (.scalar t.text true) with keyAllowed := t.newLine }

/-- The characters that begin no plain scalar. -/
def isIndicator (c : Char) : Bool :=
  "-?:,[]#&*!|>'\"%@".toList.contains c || c == '\x7b' || c == '\x7d' || c == '\x60'

/-- Whether a plain scalar begins here. -/
def beginsPlain (flow : Bool) (c : Cursor) : Bool :=
  match c.peek with
  | none => false
  | some x =>
      (!endsWord (some x) && !isIndicator x) ||
        (!endsWord c.second && (x == '-' || (!flow && (x == '?' || x == ':'))))

/-- Reads the next token. -/
def Reading.readToken (s : Reading) : Except Fault Reading := do
  let s ← s.toToken.dropStale
  let s := s.unwind s.cursor.column
  let c := s.cursor
  let flow := s.flow != 0
  let atStart := c.column == 0
  match c.peek with
  | none => s.readEnd
  | some x =>
      if x == '%' && atStart then s.readDirective
      else if x == '-' && atStart && startsSeparator c.rest then s.readSeparator .documentStart
      else if x == '.' && atStart && startsSeparator c.rest then s.readSeparator .documentEnd
      else if x == '[' then s.readOpening .openList
      else if x == '\x7b' then s.readOpening .openMap
      else if x == ']' then s.readClosing .closeList
      else if x == '\x7d' then s.readClosing .closeMap
      else if x == ',' then s.readComma
      else if x == '-' && endsWord c.second then s.readDash
      else if x == '?' && (flow || endsWord c.second) then s.readKey
      else if x == ':' && (flow || endsWord c.second) then s.readColon
      else if x == '*' then s.readAnchor .reference
      else if x == '&' then s.readAnchor .anchor
      else if x == '!' then s.readTag
      else if x == '|' && !flow then s.readBlock false
      else if x == '>' && !flow then s.readBlock true
      else if x == '\'' then s.readQuoted false
      else if x == '"' then s.readQuoted true
      else if beginsPlain flow c then s.readPlain
      else throw unscannable

/-! ## All tokens -/

/-- The tokens that were read up to a failure. -/
def Reading.upTo (s : Reading) (n : Nat) (f : Fault) : List Token :=
  (s.tokens.toList.take n) ++ [.broken f]

/-- Reads on to the end or to a failure. -/
def readTokens : Nat → Reading → List Token
  | 0, s => s.tokens.toList
  | fuel + 1, s =>
      match s.readToken with
      | .error f => s.upTo s.settled f
      | .ok t =>
          if t.done then t.tokens.toList
          else match t.dropStale with
            | .error f => t.upTo s.settled f
            | .ok u => readTokens fuel u

/-- The tokens of a text. Each step passes a character, so that there are no more steps than
characters, one for the end apart. -/
def tokensOf (text : Chars) : List Token := readTokens (text.length + 2) (Reading.start text)

end MarkupQuery.Yaml
