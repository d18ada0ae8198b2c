import MarkupQuery.Html.Builder
import MarkupQuery.Html.Reference

/-!
# Reading HTML

The text is cut into tags, comments and texts, which a builder puts into a tree. Every text is HTML:
what is no tag is text, and what starts like a declaration or an instruction is a comment.
-/

namespace MarkupQuery.Html

open MarkupQuery.Text MarkupQuery.Tree

/-! ## Tags -/

/-- The end of a name in a tag. -/
def endsName (c : Char) : Bool := isHtmlBlank c || c == '/' || c == '>'

/-- The name at the start of a text, in lower case. -/
def spanTagName (s : Chars) : Chars × Chars :=
  (unify (lowerAscii (s.takeWhile fun c => !endsName c)), s.dropWhile fun c => !endsName c)

/-- The name of an attribute at the start of a text, in lower case; it may start with an equals
sign. -/
def spanAttributeName (s : Chars) : Chars × Chars :=
  let ends (c : Char) : Bool := endsName c || c == '='
  match s with
  | c :: r =>
      if endsName c then ([], s)
      else (unify (lowerAscii (c :: r.takeWhile fun c => !ends c)), r.dropWhile fun c => !ends c)
  | [] => ([], [])

/-- A text without the blanks at its start. -/
def skip (s : Chars) : Chars := s.dropWhile isHtmlBlank

/-- The value of an attribute at the start of a text. -/
def spanValue (s : Chars) : Chars × Chars :=
  let quoted (q : Char) (r : Chars) : Chars × Chars :=
    (r.takeWhile (· != q), (r.dropWhile (· != q)).drop 1)
  match s with
  | '"' :: r => quoted '"' r
  | '\'' :: r => quoted '\'' r
  | r =>
      let ends (c : Char) : Bool := isHtmlBlank c || c == '>'
      (r.takeWhile fun c => !ends c, r.dropWhile fun c => !ends c)

/-- An attribute of a tag: a flag without a value has its own name as value. -/
def attributeOf (name : Chars) (value : Option Chars) : Attribute :=
  let parts := match value with
    | some v => [ValuePart.text (resolve true (v.length + 1) v)]
    | none => if isFlagAttribute name then [.text name] else []
  { name := { base := name }, parts }

/-- What was read of a tag. -/
structure TagRest where
  attributes : List Attribute
  /-- The names that were given more than once. -/
  repeated : List Chars
  /-- What follows the attributes. -/
  rest : Chars

/-- The attributes of a tag up to its end. Of attributes with one name the first counts. -/
def spanAttributes : Nat → Chars → List Attribute → List Chars → TagRest
  | 0, s, seen, again => ⟨seen.reverse, again.reverse, s⟩
  | fuel + 1, s, seen, again =>
      match skip s with
      | [] => ⟨seen.reverse, again.reverse, []⟩
      | '>' :: r => ⟨seen.reverse, again.reverse, '>' :: r⟩
      | '/' :: '>' :: r => ⟨seen.reverse, again.reverse, '/' :: '>' :: r⟩
      | '/' :: r => spanAttributes fuel r seen again
      | s =>
          let (name, r) := spanAttributeName s
          let (value, r) := match skip r with
            | '=' :: q =>
                let (v, q) := spanValue (skip q)
                (some v, q)
            | _ => (none, r)
          if seen.any fun a => a.name.base == name then spanAttributes fuel r seen (name :: again)
          else spanAttributes fuel r (attributeOf name value :: seen) again

/-! ## Comments -/

/-- The text of a comment and what follows it. -/
def spanComment : Chars → Chars × Chars
  | [] => ([], [])
  | '-' :: '-' :: '>' :: r => ([], r)
  | '-' :: '-' :: '!' :: '>' :: r => ([], r)
  | c :: r => let (t, rest) := spanComment r; (c :: t, rest)

/-- The text of a comment after its opening, and what follows it; a comment may end at once. -/
def commentBody (s : Chars) : Chars × Chars :=
  match s with
  | '>' :: r => ([], r)
  | '-' :: '>' :: r => ([], r)
  | _ => spanComment s

/-- The text of something that is taken for a comment, and what follows it. -/
def spanToBracket (s : Chars) : Chars × Chars :=
  (s.takeWhile (· != '>'), (s.dropWhile (· != '>')).drop 1)

/-! ## Text -/

/-- Whether an end tag of a name starts here. -/
def isEndTagOf (name : Chars) (s : Chars) : Bool :=
  match s with
  | '<' :: '/' :: r =>
      lowerAscii (r.take name.length) == name &&
        ((r.drop name.length).head?.any endsName)
  | _ => false

/-- Whether a start tag of a name starts here. -/
def isStartTagOf (name : Chars) (s : Chars) : Bool :=
  match s with
  | '<' :: r =>
      lowerAscii (r.take name.length) == name && ((r.drop name.length).head?.any endsName)
  | _ => false

/-- The text of an element that holds text alone, and what follows it. -/
def spanRaw (name : Chars) : Chars → Chars × Chars
  | [] => ([], [])
  | c :: r =>
      if isEndTagOf name (c :: r) then ([], c :: r)
      else let (t, rest) := spanRaw name r; (c :: t, rest)

/-- How deep a place in a script is in comments: outside, in a comment, or in a script in a
comment. -/
inductive ScriptLevel where
  | outside
  | comment
  | nested
  deriving DecidableEq, Repr

/-- The text of a script, and what follows it. -/
def spanScript (level : ScriptLevel) : Chars → Chars × Chars
  | [] => ([], [])
  | c :: r =>
      let name := "script".toList
      let ends := isEndTagOf name (c :: r)
      if ends && level != .nested then ([], c :: r)
      else
        let level :=
          if ends then .comment
          else if level == .outside && "<!--".toList.isPrefixOf (c :: r) then .comment
          else if level == .comment && isStartTagOf name (c :: r) then .nested
          else if level != .outside && "-->".toList.isPrefixOf (c :: r) then .outside
          else level
        let (t, rest) := spanScript level r
        (c :: t, rest)

/-! ## Steps -/

/-- The state of a reader. -/
structure Reader where
  builder : Builder
  input : Chars
  mode : ContentMode := .markup

/-- Reads a start tag, the unread text being at its name. -/
def Reader.startTag (r : Reader) : Reader :=
  let (name, s) := spanTagName r.input
  let t := spanAttributes (s.length + 1) s [] []
  let b := t.repeated.foldl (fun b n => b.error t.rest s!"Attribute {String.ofList n} redefined")
    r.builder
  let (b, opened) := b.startTag { name := { base := name }, attributes := t.attributes } t.rest
  match t.rest with
  | '/' :: '>' :: rest => ⟨b.close, rest, .markup⟩
  | '>' :: rest =>
      if !opened then ⟨b, rest, .markup⟩
      else if isVoid name then ⟨b.close, rest, .markup⟩
      else ⟨b, rest, contentMode name⟩
  | rest => ⟨b, rest, .markup⟩

/-- Reads an end tag, the unread text being at its bracket. -/
def Reader.endTag (r : Reader) : Reader :=
  match r.input.drop 2 with
  | [] => ⟨r.builder.deliver .markup "</".toList [], [], .markup⟩
  | '>' :: s => ⟨r.builder, s, .markup⟩
  | c :: s =>
      if isAsciiLetter c then
        let (name, rest) := spanTagName (c :: s)
        let t := spanAttributes (rest.length + 1) rest [] []
        let rest := match t.rest with
          | '/' :: '>' :: q => q
          | '>' :: q => q
          | q => q
        ⟨r.builder.endTag name rest, rest, .markup⟩
      else
        let (text, rest) := spanToBracket (c :: s)
        ⟨r.builder.addComment (unify text), rest, .markup⟩

/-- Whether a document type starts here. -/
def startsType (s : Chars) : Bool := lowerAscii (s.take 9) == "<!doctype".toList

/-- Reads what starts with a bracket and an exclamation mark. -/
def Reader.declaration (r : Reader) : Reader :=
  if startsType r.input then
    { r with
      builder := r.builder.error r.input "Misplaced DOCTYPE declaration"
      input := (spanToBracket r.input).2 }
  else
    let (text, rest) := match r.input with
      | _ :: _ :: '-' :: '-' :: s => commentBody s
      | s => spanToBracket (s.drop 2)
    { r with builder := r.builder.addComment (unify text), input := rest }

/-- Reads text of an element that holds no markup. -/
def Reader.heldText (r : Reader) : Reader :=
  let name := (r.builder.current?).getD []
  let (text, rest) := match r.mode with
    | .script => spanScript .outside r.input
    | .rest => (r.input, [])
    | _ => spanRaw name r.input
  let text := if r.mode == .escapable then resolve false (text.length + 1) text else unify text
  ⟨if text.isEmpty then r.builder else r.builder.deliver r.mode text rest, rest, .markup⟩

/-- Reads text and the references in it. -/
def Reader.plainText (r : Reader) : Reader :=
  let text := r.input.takeWhile (· != '<')
  let rest := r.input.dropWhile (· != '<')
  { r with builder := r.builder.deliver .markup (resolve false (text.length + 1) text) rest,
           input := rest }

/-- Reads one thing. -/
def Reader.step (r : Reader) : Reader :=
  if r.mode != .markup then r.heldText
  else match r.input with
    | '<' :: '/' :: _ => r.endTag
    | '<' :: '!' :: _ => r.declaration
    | '<' :: '?' :: s =>
        let (text, rest) := spanToBracket ('?' :: s)
        { r with builder := r.builder.addComment (unify text), input := rest }
    | '<' :: c :: s =>
        if isAsciiLetter c then Reader.startTag { r with input := c :: s }
        else { r with builder := (r.builder.supplyForText (c :: s)).addText ['<'], input := c :: s }
    | ['<'] => { r with builder := (r.builder.supplyForText []).addText ['<'], input := [] }
    | _ => r.plainText

/-- Reads all that is left. -/
def Reader.content : Nat → Reader → Reader
  | 0, r => r
  | fuel + 1, r =>
      if r.builder.halted || (r.input.isEmpty && r.mode == .markup) then r
      else if r.input.isEmpty then r
      else Reader.content fuel r.step

/-! ## Documents -/

/-- Reads comments before the first element. -/
def Reader.before : Nat → Reader → Reader
  | 0, r => r
  | fuel + 1, r =>
      let input := skip r.input
      match input with
      | '<' :: '!' :: '-' :: '-' :: s =>
          let (text, rest) := commentBody s
          Reader.before fuel { r with builder := r.builder.addComment (unify text), input := rest }
      | '<' :: '?' :: s =>
          let (text, rest) := spanToBracket ('?' :: s)
          Reader.before fuel { r with builder := r.builder.addComment (unify text), input := rest }
      | _ => { r with input }

/-- Whether a document type is one of those whose body drops blank text. -/
def isStrictType (s : Chars) : Bool :=
  let words := String.ofList (lowerAscii s)
  let parts := words.splitOn "public"
  match parts with
  | [_, rest] =>
      let quoted := (rest.toList.dropWhile isHtmlBlank).drop 1
      let name := String.ofList (quoted.takeWhile fun c => c != '"' && c != '\'')
      name == "-//w3c//dtd html 4.01//en" || name == "-//w3c//dtd html 4//en"
  | _ => false

/-- Reads a document type, if there is one. -/
def Reader.documentType (r : Reader) : Reader :=
  if startsType r.input then
    let (text, rest) := spanToBracket r.input
    let b := { r.builder with
      startsWithType := r.builder.top.isEmpty
      strictType := isStrictType text }
    { r with builder := b, input := rest }
  else r

/-- What came out of reading a text: the top-level nodes, not yet numbered, and what was noted. -/
structure Reading where
  forest : Forest
  notices : List Notice

/-- Reads HTML. -/
def read (settings : Settings) (text : Chars) : Reading :=
  let bound := text.length + 1
  let start : Reader := { builder := { settings }, input := text }
  let r := Reader.before bound start
  let r := Reader.before bound r.documentType
  let r := Reader.content (2 * bound) r
  ⟨r.builder.forest, r.builder.notices.reverse⟩

end MarkupQuery.Html
