import MarkupQuery.Xml.Reference

/-!
# Start tags

A start tag names an element, declares namespaces and gives attributes. Whatever cannot be read ends
the tag: the element is kept with what was read so far, and what is left counts as content.
-/

namespace MarkupQuery.Xml

open MarkupQuery.Text MarkupQuery.Tree

/-! ## Qualified names -/

/-- A name with a prefix as it was written, and what is wrong with it. -/
structure WrittenName where
  label : Option Chars
  base : Chars
  rest : Chars
  complaint : Option Chars := none

/-- A name with its prefix. -/
def joinName (label : Option Chars) (base : Chars) : Chars :=
  match label with
  | some l => l ++ ':' :: base
  | none => base

/-- A name as it was written. -/
def WrittenName.written (n : WrittenName) : Chars := joinName n.label n.base

/-- A name with a prefix at the start of a text. -/
def writtenName? (s : Chars) : Option WrittenName :=
  let (first, r1) := spanPlainName s
  if first.isEmpty then
    let (name, rest) := spanName s
    if name.isEmpty then none else some ⟨none, name, rest, some name⟩
  else match r1 with
    | ':' :: r2 =>
        let (second, r3) := spanPlainName r2
        if second.isEmpty then
          let more (c : Char) : Bool := isNameChar c || c == ':'
          some ⟨none, first ++ ':' :: r2.takeWhile more, r2.dropWhile more, some (first ++ [':'])⟩
        else match r3 with
          | ':' :: r4 =>
              let (third, r5) := spanName r4
              some ⟨some first, second ++ ':' :: third, r5, some (first ++ ':' :: second ++ [':'])⟩
          | _ => some ⟨some first, second, r3, none⟩
    | _ => some ⟨none, first, r1, none⟩

/-- Notes what is wrong with a name. -/
def Reader.complain (r : Reader) (n : WrittenName) : Reader :=
  match n.complaint with
  | some c => r.error ("Failed to parse QName '" ++ String.ofList c ++ "'")
  | none => r

/-! ## Attribute values -/

/-- The parts of a value with more text at the end. -/
def appendText (s : Chars) (parts : List ValuePart) : List ValuePart :=
  if s.isEmpty then parts else parts ++ [.text s]

/-- Reads an attribute's value after its opening quote. `acc` is the text since the last reference,
reversed. -/
def Reader.valueFrom (quote : Char) : Nat → Reader → Chars → List ValuePart →
    Reader × Option (List ValuePart)
  | 0, r, _, _ => (r, none)
  | fuel + 1, r, acc, parts =>
      match r.input with
      | [] => (r.fatal s!"AttValue: {quote} expected", none)
      | c :: s =>
          if c == quote then
            let all := appendText acc.reverse parts
            (r.at_ s, some (if all.isEmpty then [.text []] else all))
          else if c == '<' then
            (r.fatal "Unescaped '<' not allowed in attributes values", none)
          else if c == '&' then
            if s.head? == some '#' then
              match r.characterReference with
              | (r, some d) => Reader.valueFrom quote fuel r (d :: acc) parts
              | (r, none) => (r, none)
            else
              match r.entityName with
              | (r, none) => Reader.valueFrom quote fuel r acc parts
              | (r, some name) =>
                  match r.meaning name with
                  | (r, .unknown) => Reader.valueFrom quote fuel r acc parts
                  | (r, .char d) => Reader.valueFrom quote fuel r (d :: acc) parts
                  | (r, .declared e) =>
                      if e.isOutside then
                        Reader.valueFrom quote fuel
                          (r.fatal ("Attribute references external entity '" ++
                            String.ofList name ++ "'")) acc parts
                      else
                        Reader.valueFrom quote fuel r []
                          (appendText acc.reverse parts ++ [.reference name e.content])
          else if c == '\r' && s.head? == some '\n' then Reader.valueFrom quote fuel (r.at_ s) acc parts
          else if c == '\n' || c == '\t' || c == '\r' then
            Reader.valueFrom quote fuel (r.at_ s) (' ' :: acc) parts
          else if isXmlChar c then Reader.valueFrom quote fuel (r.at_ s) (c :: acc) parts
          else (r.fatal "invalid character in attribute value", none)

/-- Reads an attribute's value with its quotes. -/
def Reader.attributeValue (r : Reader) : Reader × Option (List ValuePart) :=
  match r.input with
  | '"' :: s => Reader.valueFrom '"' (s.length + 1) (r.at_ s) [] []
  | '\'' :: s => Reader.valueFrom '\'' (s.length + 1) (r.at_ s) [] []
  | _ => (r.fatal "AttValue: \" or ' expected", none)

/-- Single blanks between the tokens of a value, none around it. -/
def normalizeTokens (s : Chars) : Chars :=
  let words := (s.splitBy fun a b => (a == ' ') == (b == ' ')).filter fun w => w.head? != some ' '
  (words.intersperse [' ']).flatten

/-- A value as a list of tokens. -/
def tokenValue (parts : List ValuePart) : List ValuePart :=
  match parts with
  | [.text s] => [.text (normalizeTokens s)]
  | ps => ps

/-! ## Attributes and declarations -/

/-- What one attribute of a start tag turned out to be. -/
inductive TagItem where
  | attribute (label : Option Chars) (base : Chars) (parts : List ValuePart)
  | declaration (label : Option Chars) (space : Chars)

/-- Where the attributes `xml:…` belong to. -/
def xmlSpace : Chars := "http://www.w3.org/XML/1998/namespace".toList

/-- Where namespace declarations belong to; nothing else may. -/
def xmlnsSpace : Chars := "http://www.w3.org/2000/xmlns/".toList

/-- Whether an address starts with a scheme. -/
def hasScheme (s : Chars) : Bool :=
  match s with
  | c :: r =>
      let rest := r.dropWhile fun d =>
        isAsciiLetter d || isAsciiDigit d || d == '+' || d == '-' || d == '.'
      isAsciiLetter c && rest.head? == some ':'
  | [] => false

/-- Whether a text cannot be an address at all. -/
def isBadAddress (s : Chars) : Bool :=
  s.any fun c => c.toNat ≤ 32 || c == '<' || c == '>' || c == '"' || c == '\x7b' || c == '\x7d' ||
    c == '|' || c == '\\' || c == '^' || c == '`' || 127 ≤ c.toNat

/-- Checks a declaration of the default namespace. -/
def Reader.checkDefault (r : Reader) (space : Chars) : Reader × Bool :=
  let shown := String.ofList space
  if space.isEmpty then (r, true)
  else
    let r :=
      if isBadAddress space then r.error ("xmlns: '" ++ shown ++ "' is not a valid URI")
      else if !hasScheme space then r.warn s!"xmlns: URI {shown} is not absolute"
      else r
    if space == xmlSpace then
      (r.error "xml namespace URI cannot be the default namespace", false)
    else if space == xmlnsSpace then
      (r.error "reuse of the xmlns namespace name is forbidden", false)
    else (r, true)

/-- Checks a declaration of a prefix. -/
def Reader.checkPrefixed (r : Reader) (label space : Chars) : Reader × Bool :=
  let shown := String.ofList space
  let name := String.ofList label
  if label == "xml".toList then
    (if space != xmlSpace then r.error "xml namespace prefix mapped to wrong URI" else r, false)
  else if space == xmlSpace then (r.error "xml namespace URI mapped to wrong prefix", false)
  else if label == "xmlns".toList then
    (r.error "redefinition of the xmlns prefix is forbidden", false)
  else if space == xmlnsSpace then
    (r.error "reuse of the xmlns namespace name is forbidden", false)
  else if space.isEmpty then
    (r.error s!"xmlns:{name}: Empty XML namespace is not allowed", false)
  else if isBadAddress space then
    (r.error (s!"xmlns:{name}: '" ++ shown ++ "' is not a valid URI"), true)
  else (r, true)

/-- Takes what an attribute says about blanks. -/
def blankModeOf (label : Option Chars) (base value : Chars) (old : BlankMode) : BlankMode :=
  if label == some "xml".toList && base == "space".toList then
    if value == "default".toList then .default
    else if value == "preserve".toList then .preserve
    else old
  else old

/-- The attributes and declarations of a start tag, in order, and what they say about blanks. -/
structure TagItems where
  attributes : List (Option Chars × Chars × List ValuePart) := []
  declarations : List Declaration := []
  blanks : BlankMode

/-- One more attribute or declaration of a start tag. -/
def Reader.tagItem (r : Reader) (items : TagItems) (name : WrittenName)
    (parts : List ValuePart) : Reader × TagItems :=
  let value := parts.flatMap ValuePart.content
  let declare (r : Reader) (label : Option Chars) : Reader × TagItems :=
    if items.declarations.any (·.1 == label) then
      let shown := String.ofList (match label with
        | some l => "xmlns:".toList ++ l
        | none => "xmlns".toList)
      (r.fatal s!"Attribute {shown} redefined", items)
    else (r, { items with declarations := items.declarations ++ [(label, value)] })
  if name.label.isNone && name.base == "xmlns".toList then
    match r.checkDefault value with
    | (r, true) => declare r none
    | (r, false) => (r, items)
  else if name.label == some "xmlns".toList then
    match r.checkPrefixed name.base value with
    | (r, true) => declare r (some name.base)
    | (r, false) => (r, items)
  else
    (r, { items with
      attributes := items.attributes ++ [(name.label, name.base, parts)]
      blanks := blankModeOf name.label name.base value items.blanks })

/-- Whether a start tag ends here. -/
def atTagEnd (s : Chars) : Bool :=
  match s with
  | '>' :: _ => true
  | '/' :: '>' :: _ => true
  | _ => false

/-- Reads the attributes of a start tag. -/
def Reader.attributesFrom (element : Chars) : Nat → Reader → TagItems → Reader × TagItems
  | 0, r, items => (r, items)
  | fuel + 1, r, items =>
      if atTagEnd r.input || r.input.isEmpty then (r, items)
      else
        let goOn (r : Reader) (items : TagItems) : Reader × TagItems :=
          if atTagEnd r.input then (r, items)
          else if r.atBlank then Reader.attributesFrom element fuel r.skipBlanks items
          else (r.fatal "attributes construct error", items)
        match writtenName? r.input with
        | none =>
            ((r.fatal "error parsing attribute name").fatal
              "xmlParseStartTag: problem parsing attributes", items)
        | some name =>
            let r := ((r.at_ name.rest).complain name).skipBlanks
            match r.input with
            | '=' :: s =>
                match (r.at_ s).skipBlanks.attributeValue with
                | (r, none) => goOn r items
                | (r, some parts) =>
                    let parts :=
                      if r.attributeKinds.lookup (element, name.written) == some true then
                        tokenValue parts
                      else parts
                    let (r, items) := r.tagItem items name parts
                    goOn r items
            | _ =>
                goOn (r.fatal ("Specification mandates value for attribute " ++
                  String.ofList name.base)) items

/-! ## Namespaces -/

/-- The namespace of a prefix in a scope. -/
def lookupSpace (scope : List Declaration) (label : Option Chars) : Option Chars :=
  if label == some "xml".toList then some xmlSpace
  else (scope.find? (·.1 == label)).map (·.2)

/-- The name of an attribute in a scope. -/
def Reader.attributeName (r : Reader) (scope : List Declaration) (element : Chars)
    (label : Option Chars) (base : Chars) : Reader × Name :=
  match label with
  | none => (r, { base })
  | some l =>
      match lookupSpace scope label with
      | some u => (r, { label := some l, base, space := some u })
      | none =>
          let message := s!"Namespace prefix {String.ofList l} for {String.ofList base} on " ++
            s!"{String.ofList element} is not defined"
          (r.error message, { base := l ++ ':' :: base })

/-- The attributes with their names in a scope. -/
def Reader.nameAttributes (scope : List Declaration) (element : Chars) :
    List (Option Chars × Chars × List ValuePart) → Reader → Reader × List Attribute
  | [], r => (r, [])
  | (label, base, parts) :: rest, r =>
      let (r, name) := r.attributeName scope element label base
      let (r, more) := Reader.nameAttributes scope element rest r
      (r, ⟨name, parts⟩ :: more)

/-- Notes attributes that occur twice. -/
def Reader.checkDistinct : List Attribute → List Name → Reader → Reader
  | [], _, r => r
  | a :: rest, seen, r =>
      let same := seen.find? fun n => n.base == a.name.base && n.space == a.name.space
      let r := match same with
        | none => r
        | some n =>
            if n.label == a.name.label then
              r.fatal s!"Attribute {String.ofList a.name.written} redefined"
            else
              r.error (s!"Namespaced Attribute {String.ofList a.name.base} in '" ++
                String.ofList (a.name.space.getD []) ++ "' redefined")
      Reader.checkDistinct rest (a.name :: seen) r

/-- The name of an element in a scope. -/
def Reader.elementName (r : Reader) (scope : List Declaration) (label : Option Chars)
    (base : Chars) : Reader × Name :=
  match lookupSpace scope label with
  | some u => (r, { label, base, space := if u.isEmpty then none else some u })
  | none =>
      match label with
      | none => (r, { base })
      | some l =>
          (r.error s!"Namespace prefix {String.ofList l} on {String.ofList base} is not defined",
            { base := l ++ ':' :: base })

/-! ## Whole tags -/

/-- The greatest number of open elements. -/
def Settings.maxDepth (s : Settings) : Nat := if s.deep then 2048 else 256

/-- How blanks are treated in a new element inside the innermost open one. -/
def Reader.inheritedBlanks (r : Reader) : BlankMode :=
  match r.frames with
  | [] => .unseen
  | f :: _ => if f.blanks == .mixed then .unseen else f.blanks

/-- The items of a start tag with the namespaces that its element has by default. -/
def Reader.withDefaultSpaces (r : Reader) (element : Chars) (items : TagItems) : TagItems :=
  let more := (r.defaultSpaces.filter (·.1 == element)).map (·.2)
  let missing := more.filter fun d => !items.declarations.any (·.1 == d.1)
  { items with declarations := items.declarations ++ missing }

/-- Reads a start tag, the unread text being at its bracket, and opens the element; an empty or broken
one is closed at once. Without a name only the bracket is taken. -/
def Reader.startTag (r : Reader) : Reader :=
  if r.settings.maxDepth < r.frames.length then
    { r.fatal (s!"Excessive depth in document: {r.frames.length} use XML_PARSE_HUGE option") with
      halted := true }
  else
    let start := r.input
    let line := r.line
    match writtenName? (r.input.drop 1) with
    | none => (r.at_ (r.input.drop 1)).fatal "StartTag: invalid element name"
    | some name =>
        let r := ((r.at_ name.rest).complain name).skipBlanks
        let (r, items) := Reader.attributesFrom name.written (r.input.length + 1) r
          { blanks := r.inheritedBlanks }
        let items := r.withDefaultSpaces name.written items
        let outer := match r.frames with
          | f :: _ => f.scope
          | [] => []
        let scope := items.declarations.reverse ++ outer
        let (r, attributes) := Reader.nameAttributes scope name.base items.attributes r
        let r := Reader.checkDistinct attributes [] r
        let (r, elementName) := r.elementName scope name.label name.base
        let frame : Frame :=
          { tag := { name := elementName, declarations := items.declarations, attributes }
            label := name.label
            base := name.base
            start
            scope
            blanks := items.blanks
            content := [] }
        let r := { r with frames := frame :: r.frames }
        match r.input with
        | '/' :: '>' :: s => (r.at_ s).close
        | '>' :: s => r.at_ s
        | _ =>
            (r.fatal
              s!"Couldn't find end of Start Tag {String.ofList name.base} line {line}").close

/-- Whether the name of an end tag is that of an open element. -/
def Frame.endsWith (f : Frame) (name : Chars) : Bool :=
  name == joinName f.label f.base

/-- Reads an end tag, the unread text being at its bracket. It closes the innermost open element,
whatever its name. -/
def Reader.endTag (r : Reader) : Reader :=
  match r.frames with
  | [] => r.at_ (r.input.drop 2)
  | f :: _ =>
      let (name, rest) := spanName (r.input.drop 2)
      let r := (r.at_ rest).skipBlanks
      let r := match r.input with
        | '>' :: s => r.at_ s
        | _ => r.fatal "expected '>'"
      let r :=
        if f.endsWith name then r
        else
          let shown := if name.isEmpty then "unparsable" else String.ofList name
          r.fatal (s!"Opening and ending tag mismatch: {String.ofList f.base} line " ++
            s!"{lineAt r.text f.start} and {shown}")
      r.close

end MarkupQuery.Xml
