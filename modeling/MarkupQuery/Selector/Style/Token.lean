import MarkupQuery.Text.Word
import MarkupQuery.Text.LetterCase

/-!
# Tokens of style selectors

A style selector is cut into names, hashes, strings, numbers, blanks and single marks, each with the
position where it starts. Comments vanish. Escapes are resolved inside names, hashes and strings.
-/

namespace MarkupQuery.Selector.Style

open MarkupQuery.Text

/-! ## Tokens -/

/-- The kinds of tokens. -/
inductive TokenKind where
  | blank
  | ident
  | hash
  | string
  | number
  | mark
  | endOfText
  deriving DecidableEq, Repr, Inhabited

/-- A token with the text it stands for and its position. -/
structure Token where
  kind : TokenKind
  value : Chars
  position : Nat
  deriving DecidableEq, Repr, Inhabited

/-- The word for a kind of token in messages. -/
def TokenKind.word : TokenKind → String
  | .blank => "S"
  | .ident => "IDENT"
  | .hash => "HASH"
  | .string => "STRING"
  | .number => "NUMBER"
  | .mark => "DELIM"
  | .endOfText => "EOF"

/-- A token in messages. -/
def Token.shown (t : Token) : String :=
  match t.kind with
  | .endOfText => s!"<EOF at {t.position}>"
  | k => s!"<{k.word} '" ++ String.ofList t.value ++ s!"' at {t.position}>"

/-- Whether a token is a given mark. -/
def Token.isMark (t : Token) (c : Char) : Bool := t.kind == .mark && t.value == [c]

/-- Whether a token is one of some marks. -/
def Token.isOneOf (t : Token) (cs : List Char) : Bool := cs.any t.isMark

/-! ## Characters -/

/-- The blanks of style selectors. -/
def isStyleBlank (c : Char) : Bool :=
  c == ' ' || c == '\t' || c == '\r' || c == '\n' || c == '\x0c'

/-- A line end. -/
def isLineEnd (c : Char) : Bool := c == '\n' || c == '\r' || c == '\x0c'

/-- A hexadecimal digit. -/
def isHexDigit (c : Char) : Bool := (hexValue? c).isSome

/-- A character that may start a name, escapes apart. Two characters beyond ASCII count as letters of
the other case. -/
def isNameStart (c : Char) : Bool := c == '_' || isAsciiLetter c || 128 ≤ c.toNat

/-- A character that may continue a name, escapes apart. -/
def isNameChar (c : Char) : Bool := isNameStart c || isAsciiDigit c || c == '-'

/-! ## Escapes -/

/-- The blank that ends a numeric escape: one blank, or both characters of a line end. -/
def escapeEnd : Chars → Chars
  | '\r' :: '\n' :: _ => ['\r', '\n']
  | c :: _ => if isStyleBlank c then [c] else []
  | [] => []

/-- The characters of an escape after its backslash, nothing if it is none. -/
def escapeBody : Chars → Option Chars
  | [] => none
  | c :: r =>
      if isHexDigit c then
        let digits := (c :: r).take 6 |>.takeWhile isHexDigit
        some (digits ++ escapeEnd ((c :: r).drop digits.length))
      else if isLineEnd c then none
      else some [c]

/-- The character that an escape stands for, by its characters after the backslash. -/
def escapedChar (body : Chars) : Chars :=
  match body with
  | [] => []
  | c :: _ =>
      if isHexDigit c then
        let n := (body.takeWhile isHexDigit).foldl (fun n d => 16 * n + (hexValue? d).getD 0) 0
        [if 0x10ffff < n then '\ufffd' else Char.ofNat n]
      else [c]

/-! ## Names and strings -/

/-- The part of a name at the start of a text: how many characters it takes, and its value. -/
def takeName (start : Char → Bool) : Nat → Chars → Nat × Chars
  | 0, _ => (0, [])
  | _, [] => (0, [])
  | fuel + 1, c :: r =>
      if c == '\\' then
        match escapeBody r with
        | none => (0, [])
        | some body =>
            let (n, v) := takeName isNameChar fuel (r.drop body.length)
            (n + 1 + body.length, escapedChar body ++ v)
      else if start c then
        let (n, v) := takeName isNameChar fuel r
        (n + 1, c :: v)
      else (0, [])

/-- A name at the start of a text, which may begin with one hyphen. -/
def takeIdent (s : Chars) : Nat × Chars :=
  match s with
  | '-' :: r =>
      let (n, v) := takeName isNameStart (r.length + 1) r
      if n == 0 then (0, []) else (n + 1, '-' :: v)
  | _ => takeName isNameStart (s.length + 1) s

/-- The inside of a string up to its quote or to what cannot stand in it. -/
def takeString (quote : Char) : Nat → Chars → Nat × Chars
  | 0, _ => (0, [])
  | _, [] => (0, [])
  | fuel + 1, c :: r =>
      if c == quote || isLineEnd c then (0, [])
      else if c == '\\' then
        match r with
        | '\r' :: '\n' :: q => let (n, v) := takeString quote fuel q; (n + 3, v)
        | d :: q =>
            if isLineEnd d then let (n, v) := takeString quote fuel q; (n + 2, v)
            else
              match escapeBody r with
              | none => (0, [])
              | some body =>
                  let (n, v) := takeString quote fuel (r.drop body.length)
                  (n + 1 + body.length, escapedChar body ++ v)
        | [] => (0, [])
      else
        let (n, v) := takeString quote fuel r
        (n + 1, c :: v)

/-- The length of a number at the start of a text. -/
def numberLength (s : Chars) : Nat :=
  let sign := match s with
    | '+' :: _ => 1
    | '-' :: _ => 1
    | _ => 0
  let r := s.drop sign
  let whole := (r.takeWhile isAsciiDigit).length
  let part := match r.drop whole with
    | '.' :: q => (q.takeWhile isAsciiDigit).length
    | _ => 0
  if part != 0 then sign + whole + 1 + part
  else if whole != 0 then sign + whole else 0

/-- The length of a comment after its opening, its end included. -/
def commentLength : Chars → Nat
  | '*' :: '/' :: _ => 2
  | _ :: r => 1 + commentLength r
  | [] => 0

/-! ## Cutting a selector -/

/-- The tokens of a selector from a position on, the end included. -/
def tokensFrom : Nat → Nat → Chars → Except String (List Token)
  | 0, p, _ => .ok [⟨.endOfText, [], p⟩]
  | _, p, [] => .ok [⟨.endOfText, [], p⟩]
  | fuel + 1, p, c :: r =>
      let s := c :: r
      let token (kind : TokenKind) (length : Nat) (value : Chars) : Except String (List Token) := do
        return ⟨kind, value, p⟩ :: (← tokensFrom fuel (p + length) (s.drop length))
      if isStyleBlank c then token .blank (s.takeWhile isStyleBlank).length [' ']
      else
        let (n, v) := takeIdent s
        if n != 0 then token .ident n v
        else
          let (h, hv) := if c == '#' then takeName isNameChar (r.length + 1) r else (0, [])
          if h != 0 then token .hash (h + 1) hv
          else if c == '\'' || c == '"' then
            let (n, v) := takeString c (r.length + 1) r
            match r.drop n with
            | [] => .error s!"Unclosed string at {p}"
            | d :: _ =>
                if d != c then .error s!"Invalid string at {p}"
                else token .string (n + 2) v
          else if numberLength s != 0 then
            token .number (numberLength s) (s.take (numberLength s))
          else match s with
            | '/' :: '*' :: q =>
                let n := 2 + commentLength q
                tokensFrom fuel (p + n) (s.drop n)
            | _ => token .mark 1 [c]

/-- The tokens of a selector. -/
def tokens (s : Chars) : Except String (List Token) := tokensFrom (s.length + 1) 0 s

end MarkupQuery.Selector.Style
