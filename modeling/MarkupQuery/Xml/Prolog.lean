import MarkupQuery.Xml.Content

/-!
# Prologs and whole documents

What may stand around the root: the declaration of the version, comments and instructions, and the
type declaration with its entities. A document without a single character has no tree at all.
-/

namespace MarkupQuery.Xml

open MarkupQuery.Text MarkupQuery.Tree

/-! ## The declaration of the version -/

/-- Reads what follows a keyword of a declaration: an equals sign and a quoted value, of which `span`
takes as much as it can. -/
def Reader.setting (r : Reader) (span : Chars → Chars × Chars) : Reader × Option Chars :=
  let r := r.skipBlanks
  match r.input with
  | '=' :: s =>
      let r := (r.at_ s).skipBlanks
      match r.input with
      | q :: s =>
          if q == '"' || q == '\'' then
            let (value, rest) := span s
            match rest with
            | p :: rest =>
                if p == q then (r.at_ rest, some value)
                else ((r.at_ (p :: rest)).fatal "String not closed expecting \" or '", some value)
            | [] => ((r.at_ []).fatal "String not closed expecting \" or '", some value)
          else (r.fatal "String not started expecting ' or \"", none)
      | [] => (r.fatal "String not started expecting ' or \"", none)
  | _ => (r.fatal "expected '='", none)

/-- A version number at the start of a text, empty if there is none. -/
def spanVersion (s : Chars) : Chars × Chars :=
  match s with
  | d :: '.' :: r =>
      if isAsciiDigit d then (d :: '.' :: r.takeWhile isAsciiDigit, r.dropWhile isAsciiDigit)
      else ([], s)
  | _ => ([], s)

/-- The name of an encoding at the start of a text, empty if there is none. -/
def spanEncoding (s : Chars) : Chars × Chars :=
  match s with
  | c :: r =>
      let more (d : Char) : Bool :=
        isAsciiLetter d || isAsciiDigit d || d == '.' || d == '_' || d == '-'
      if isAsciiLetter c then (c :: r.takeWhile more, r.dropWhile more) else ([], s)
  | [] => ([], [])

/-- A lower case word at the start of a text. -/
def spanWord (s : Chars) : Chars × Chars :=
  let more (c : Char) : Bool := 'a' ≤ c && c ≤ 'z'
  (s.takeWhile more, s.dropWhile more)

/-- Reads the version. -/
def Reader.version (r : Reader) : Reader :=
  let missing (r : Reader) : Reader := r.fatal "Malformed declaration expecting version"
  match after? "version".toList r.input with
  | none => missing r
  | some s =>
      match (r.at_ s).setting spanVersion with
      | (r, some v) =>
          let message := s!"Unsupported version '{String.ofList v}'"
          if v.isEmpty then missing r
          else if v == "1.0".toList then r
          else if v.head? == some '1' then r.warn message
          else r.fatal message
      | (r, none) => missing r

/-- Reads the name of an encoding, if one is given; the encoding itself is settled already. -/
def Reader.encoding (r : Reader) : Reader × Bool :=
  let r := r.skipBlanks
  match after? "encoding".toList r.input with
  | none => (r, false)
  | some s =>
      match (r.at_ s).setting spanEncoding with
      | (r, some name) =>
          (if name.isEmpty then r.fatal "Invalid XML encoding name" else r, !name.isEmpty)
      | (r, none) => (r, false)

/-- Reads whether the document says that it stands alone. -/
def Reader.alone (r : Reader) : Reader :=
  let r := r.skipBlanks
  match after? "standalone".toList r.input with
  | none => r
  | some s =>
      match (r.at_ s).setting spanWord with
      | (r, some w) =>
          if w == "yes".toList then { r with standsAlone := true }
          else if w == "no".toList then r
          else r.fatal "standalone accepts only 'yes' or 'no'"
      | (r, none) => r

/-- Reads the end of a declaration, skipping what does not belong to it. -/
def Reader.declarationEnd (r : Reader) : Reader :=
  let r := r.skipBlanks
  match r.input with
  | '?' :: '>' :: s => r.at_ s
  | s =>
      let r := r.fatal "parsing XML declaration: '?>' expected"
      r.at_ ((s.dropWhile (· != '>')).drop 1)

/-- Reads the declaration of the version, the unread text being at its bracket. -/
def Reader.versionDeclaration (r : Reader) : Reader :=
  let r := (r.at_ (r.input.drop 5)).skipBlanks.version
  let needsBlank (r : Reader) : Reader := if r.atBlank then r else r.fatal "Blank needed here"
  match r.input with
  | '?' :: '>' :: s => r.at_ s
  | _ =>
      let (r, named) := (needsBlank r).encoding
      match named, r.input with
      | true, '?' :: '>' :: s => r.at_ s
      | true, _ => (needsBlank r).alone.declarationEnd
      | false, _ => r.alone.declarationEnd

/-! ## Declarations of the document type -/

/-- Reads a quoted text. -/
def Reader.literal (r : Reader) (missing : String) : Reader × Option Chars :=
  match r.input with
  | q :: s =>
      if q == '"' || q == '\'' then
        let body := s.takeWhile (· != q)
        match s.dropWhile (· != q) with
        | _ :: rest => (r.at_ rest, some body)
        | [] => ((r.at_ []).fatal "Unfinished System or Public ID \" or ' expected", none)
      else (r.fatal missing, none)
  | [] => (r.fatal missing, none)

/-- Reads where something outside the document is found, if that is told here. -/
def Reader.outside (r : Reader) (needsAddress : Bool) : Reader × Bool :=
  let address (r : Reader) : Reader × Bool :=
    let (r, found) := r.skipBlanks.literal "SystemLiteral \" or ' expected"
    (if found.isNone then r.fatal "SYSTEM or PUBLIC, the URI is missing" else r, true)
  let spaced (r : Reader) (word : String) : Reader :=
    if r.atBlank then r.skipBlanks else r.fatal s!"Space required after '{word}'"
  match after? "SYSTEM".toList r.input with
  | some s => address (spaced (r.at_ s) "SYSTEM")
  | none =>
      match after? "PUBLIC".toList r.input with
      | none => (r, false)
      | some s =>
          let (r, found) := (spaced (r.at_ s) "PUBLIC").literal "PubidLiteral \" or ' expected"
          let r := if found.isNone then r.fatal "PUBLIC, the Public Identifier is missing" else r
          let quoted := r.skipBlanks.input.head?.any fun c => c == '"' || c == '\''
          if needsAddress || quoted then address r else (r, true)

/-- The replacement that an entity's value means: character references are resolved, others kept. -/
def resolveCharacters : Nat → Chars → Chars
  | 0, _ => []
  | _, [] => []
  | fuel + 1, c :: r =>
      if c == '&' then
        match r with
        | '#' :: 'x' :: s =>
            let (ds, rest) := spanDigits hexValue? s
            Char.ofNat (cappedNumber 16 ds) :: resolveCharacters fuel (rest.drop 1)
        | '#' :: s =>
            let (ds, rest) := spanDigits decimalValue? s
            Char.ofNat (cappedNumber 10 ds) :: resolveCharacters fuel (rest.drop 1)
        | s => '&' :: resolveCharacters fuel s
      else c :: resolveCharacters fuel r

/-- Declares an entity; the first declaration of a name counts. -/
def Reader.declareEntity (r : Reader) (name : Chars) (e : Entity) : Reader :=
  if r.entities.any (·.1 == name) then r else { r with entities := r.entities ++ [(name, e)] }

/-- Reads the rest of a declaration up to its end; values between quotes do not end it. -/
def skipDeclaration : Option Char → Chars → Option Chars
  | _, [] => none
  | some q, c :: r => skipDeclaration (if c == q then none else some q) r
  | none, c :: r =>
      if c == '>' then some r
      else skipDeclaration (if c == '"' || c == '\'' then some c else none) r

/-- Reads a declaration of an entity after its keyword. -/
def Reader.entityDeclaration (r : Reader) : Reader :=
  let r := if r.atBlank then r.skipBlanks else r.fatal "Space required after '<!ENTITY'"
  let (isParameter, r) := match r.input with
    | '%' :: s => (true, (r.at_ s).skipBlanks)
    | _ => (false, r)
  let (name, rest) := spanName r.input
  let r := r.at_ rest
  let finish (r : Reader) : Reader :=
    let r := r.skipBlanks
    match r.input with
    | '>' :: s => r.at_ s
    | _ => r.fatal s!"xmlParseEntityDecl: entity {String.ofList name} not terminated"
  if name.isEmpty then r.fatal "xmlParseEntityDecl: no name"
  else
    let r := if name.contains ':' then
        r.error ("colons are forbidden from entities names '" ++ String.ofList name ++ "'")
      else r
    let r := if r.atBlank then r.skipBlanks else r.fatal "Space required after the entity name"
    if r.input.head?.any fun c => c == '"' || c == '\'' then
      match r.literal "EntityValue: \" or ' expected" with
      | (r, none) => r
      | (r, some value) =>
          let replacement := resolveCharacters (value.length + 1) value
          finish (if isParameter then r else r.declareEntity name ⟨replacement, false, []⟩)
    else
      let (r, told) := r.outside true
      let r := if told then r else r.fatal "Entity value required"
      let r := r.skipBlanks
      let r := match after? "NDATA".toList r.input with
        | some s => (r.at_ s).skipBlanks.at_ (spanName ((r.at_ s).skipBlanks.input)).2
        | none => r
      finish (if isParameter then r else r.declareEntity name ⟨[], true, []⟩)

/-- Reads a declaration of an element after its keyword: whether it may hold text. -/
def Reader.elementDeclaration (r : Reader) : Reader :=
  let r := r.skipBlanks
  let (name, rest) := spanName r.input
  let body := rest.takeWhile (· != '>')
  match rest.dropWhile (· != '>') with
  | _ :: after =>
      let r := r.at_ after
      let shown := (body.filter fun c => !isMarkupBlank c)
      let mixed := (cutAt "#PCDATA".toList shown).isSome || shown == "ANY".toList
      if r.elementKinds.any (·.1 == name) then r
      else { r with elementKinds := r.elementKinds ++ [(name, mixed)] }
  | [] => r.fatal "expected '>'"

/-- Reads the declarations of attributes of one element. -/
def Reader.attributeDeclarations (element : Chars) : Nat → Reader → Reader
  | 0, r => r
  | fuel + 1, r =>
      let r := r.skipBlanks
      match r.input with
      | '>' :: s => r.at_ s
      | [] => r.fatal "xmlParseAttributeListDecl: no name for Attribute"
      | _ =>
          let (name, rest) := spanName r.input
          if name.isEmpty then r.fatal "xmlParseAttributeListDecl: no name for Attribute"
          else
            let r := (r.at_ rest).skipBlanks
            let (tokens, r) := match r.input with
              | '(' :: s => (true, r.at_ ((s.dropWhile (· != ')')).drop 1))
              | s =>
                  let (word, rest) := spanName s
                  if word == "NOTATION".toList then
                    (true, r.at_ ((rest.dropWhile (· != ')')).drop 1))
                  else (word != "CDATA".toList, r.at_ rest)
            let r := r.skipBlanks
            let quoted (r : Reader) : Reader × Option Chars :=
              match r.attributeValue with
              | (r, some parts) => (r, some (parts.flatMap ValuePart.content))
              | (r, none) => (r, none)
            let (r, value) := match r.input with
              | '#' :: s =>
                  let (word, rest) := spanName s
                  let r := (r.at_ rest).skipBlanks
                  if word == "FIXED".toList then quoted r else (r, none)
              | _ => quoted r
            let known := r.attributeKinds.any (·.1 == (element, name))
            let r := match value, known with
              | some v, false =>
                  if name == "xmlns".toList then
                    { r with defaultSpaces := r.defaultSpaces ++ [(element, none, v)] }
                  else match after? "xmlns:".toList name with
                    | some l => { r with defaultSpaces := r.defaultSpaces ++ [(element, some l, v)] }
                    | none => r
              | _, _ => r
            let r := if known then r
              else { r with attributeKinds := r.attributeKinds ++ [((element, name), tokens)] }
            Reader.attributeDeclarations element fuel r

/-- Reads one declaration; comments and instructions among declarations are left out. The unread text being at its bracket. -/
def Reader.declaration (r : Reader) : Reader :=
  let keyword (s : String) : Option Chars := after? s.toList r.input
  match keyword "<!--", keyword "<?" with
  | some _, _ => { r.comment with top := r.top }
  | none, some _ => { r.instruction with top := r.top }
  | none, none =>
      match keyword "<!ENTITY", keyword "<!ELEMENT", keyword "<!ATTLIST", keyword "<!NOTATION" with
      | some s, _, _, _ => (r.at_ s).entityDeclaration
      | _, some s, _, _ => (r.at_ s).elementDeclaration
      | _, _, some s, _ =>
          let (name, rest) := spanName ((r.at_ s).skipBlanks.input)
          Reader.attributeDeclarations name (rest.length + 1) (r.at_ rest)
      | _, _, _, some s =>
          match skipDeclaration none s with
          | some rest => r.at_ rest
          | none => (r.at_ []).fatal "'>' required to close NOTATION declaration"
      | none, none, none, none =>
          (r.fatal "Content error in the internal subset").at_ (r.input.drop 2)

/-- Reads the declarations of a document type up to their closing bracket. -/
def Reader.declarations : Nat → Reader → Reader
  | 0, r => r
  | fuel + 1, r =>
      let r := r.skipBlanks
      match r.input with
      | [] => r
      | ']' :: s => (r.at_ s).skipBlanks
      | '%' :: s =>
          let (name, rest) := spanName s
          let r := { r.at_ (rest.drop 1) with incomplete := true }
          if name.isEmpty then r.fatal "xmlParsePEReference: no name"
          else if rest.head? != some ';' then r.fatal "PEReference: expecting ';'"
          else Reader.declarations fuel r
      | '<' :: c :: _ =>
          if c == '!' || c == '?' then Reader.declarations fuel r.declaration
          else { r.fatal "Content error in the internal subset" with halted := true }
      | _ => { r.fatal "Content error in the internal subset" with halted := true }

/-- Reads a document type declaration, the unread text being at its bracket. -/
def Reader.documentType (r : Reader) : Reader :=
  let r := r.at_ (r.input.drop 9)
  let r := if r.atBlank then r.skipBlanks else r.fatal "Space required after 'DOCTYPE'"
  let (name, rest) := spanName r.input
  let r := r.at_ rest
  let r := if name.isEmpty then r.fatal "xmlParseDocTypeDecl : no DOCTYPE name !" else r
  let (r, told) := r.skipBlanks.outside true
  let r := if told then { r with incomplete := true } else r
  let r := r.skipBlanks
  match r.input with
  | '[' :: s =>
      let r := Reader.declarations (s.length + 1) (r.at_ s)
      let r := { r with entities := resolveEntities r.entities }
      if r.halted then r
      else match r.input with
        | '>' :: s => r.at_ s
        | _ => if r.wellFormed then r.fatal "DOCTYPE improperly terminated" else
            r.at_ (r.input.drop 1)
  | '>' :: s => r.at_ s
  | _ => r.fatal "DOCTYPE improperly terminated"

/-! ## Documents -/

/-- Reads comments and instructions outside the root. -/
def Reader.around : Nat → Reader → Reader
  | 0, r => r
  | fuel + 1, r =>
      let r := r.skipBlanks
      if (after? "<?".toList r.input).isSome then Reader.around fuel r.instruction
      else if (after? "<!--".toList r.input).isSome then Reader.around fuel r.comment
      else r

/-- Reads comments and instructions outside the root. -/
def Reader.surroundings (r : Reader) : Reader := Reader.around (r.input.length + 1) r

/-- Reads the root element and what follows it. -/
def Reader.body (r : Reader) : Reader :=
  match r.input with
  | '<' :: _ =>
      let r := Reader.content (r.input.length + 1) r.startTag
      if r.halted then r
      else match r.frames with
        | f :: _ =>
            if r.wellFormed then
              r.fatal (s!"Premature end of data in tag {String.ofList f.base} line " ++
                s!"{lineAt r.text f.start}")
            else r
        | [] =>
            let r := r.surroundings
            if r.input.isEmpty || r.halted then r
            else r.fatal "Extra content at the end of the document"
  | _ => r.fatal "Start tag expected, '<' not found"

/-- Reads a document. -/
def Reader.whole (r : Reader) : Reader :=
  let r :=
    if (after? "<?xml".toList r.input).isSome && (r.input[5]?).any isMarkupBlank then
      r.versionDeclaration
    else r
  let r := r.surroundings
  let r :=
    if (after? "<!DOCTYPE".toList r.input).isSome then r.documentType.surroundings else r
  if r.halted then r else r.body

/-- What came out of reading a text: the top-level nodes, not yet numbered, and what was noted. A text
without characters gives no tree at all. -/
structure Reading where
  forest : Option Forest
  notices : List Notice

/-- Reads XML. `malformedFrom` tells how much of the text was left where malformed bytes began, zero if
there were none. -/
def read (settings : Settings) (text : Chars) (malformedFrom : Nat) : Reading :=
  let input := match text with
    | '\ufeff' :: r => r
    | s => s
  let start : Reader := { text, input, settings, malformedFrom }
  if input.isEmpty || input.head? == some '\x00' then
    ⟨none, (start.fatal "Document is empty").notices⟩
  else
    let r := start.whole
    ⟨some r.forest, r.notices.reverse⟩

end MarkupQuery.Xml
