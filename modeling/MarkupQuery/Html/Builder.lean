import MarkupQuery.Html.Element
import MarkupQuery.Tree.Basic
import MarkupQuery.Diagnostic

/-!
# Building HTML trees

Tags, texts and comments arrive in order and are put into a tree. Start tags end open elements that
they cannot stand in, and the elements `html`, `head` and `body` are supplied where they are missing.
An end tag closes its element and all open elements in it, unless one of them resists.
-/

namespace MarkupQuery.Html

open MarkupQuery.Text MarkupQuery.Tree

/-! ## State -/

/-- What the parse options say about building the tree. -/
structure Settings where
  dropBlanks : Bool := false
  dropComments : Bool := false
  /-- Documents may be very deep. -/
  deep : Bool := false
  deriving DecidableEq, Repr, Inhabited

/-- The settings that some options mean. -/
def Settings.ofOptions (o : Options) : Settings :=
  { dropBlanks := Options.has o .noBlanks
    dropComments := Options.has o .noComments
    deep := Options.has o .huge }

/-- The greatest number of open elements. -/
def Settings.maxDepth (s : Settings) : Nat := if s.deep then 2048 else 256

/-- An element that is open. -/
structure Frame where
  tag : Tag
  /-- Its children so far, the last first. -/
  content : List Node := []
  deriving Repr, Inhabited

/-- The node that an open element becomes. -/
def Frame.node (f : Frame) : Node := .element unnumbered f.tag f.content.reverse

/-- The name of an open element. -/
def Frame.name (f : Frame) : Chars := f.tag.name.base

/-- The state of a builder. -/
structure Builder where
  settings : Settings
  /-- The open elements, the innermost first. -/
  frames : List Frame := []
  /-- The finished top-level nodes, the last first. -/
  top : List Node := []
  /-- Whether the first thing in the document is its type. -/
  startsWithType : Bool := false
  /-- Whether the type is one whose body drops blank text. -/
  strictType : Bool := false
  /-- Whether a head was opened. -/
  sawHead : Bool := false
  /-- Whether a body was opened. -/
  sawBody : Bool := false
  /-- How many tags were left out whose end tags have to be left out too. -/
  skipped : Nat := 0
  /-- Whether building stops here. -/
  halted : Bool := false
  notices : List Notice := []
  deriving Repr, Inhabited

/-- Notes an error where some text is unread. -/
def Builder.error (b : Builder) (unread : Chars) (message : String) : Builder :=
  { b with notices := ⟨.error, unread, message⟩ :: b.notices }

/-- The name of the innermost open element. -/
def Builder.current? (b : Builder) : Option Chars := b.frames.head?.map Frame.name

/-- Whether the innermost open element has a name. -/
def Builder.isIn (b : Builder) (name : String) : Bool := b.current? == some name.toList

/-- Whether an element of a name is open. -/
def Builder.hasOpen (b : Builder) (name : Chars) : Bool := b.frames.any fun f => f.name == name

/-! ## Nodes -/

/-- Adds a node after the last child of the first top-level node, given the last one first. -/
def addToFirst (n : Node) : List Node → List Node
  | [] => [n]
  | [.element i t cs] => [.element i t (cs ++ [n])]
  | m :: ms => m :: addToFirst n ms

/-- Adds an element at the top. If the document starts with an element, further ones go into it. -/
def Builder.addTop (b : Builder) (n : Node) : Builder :=
  let inFirst := !b.startsWithType && (b.top.getLast?.any Node.isElement)
  { b with top := if inFirst then addToFirst n b.top else n :: b.top }

/-- Closes the innermost open element. -/
def Builder.close (b : Builder) : Builder :=
  match b.frames with
  | [] => b
  | [f] => ({ b with frames := [] }).addTop f.node
  | f :: g :: fs => { b with frames := { g with content := f.node :: g.content } :: fs }

/-- Closes a number of open elements. -/
def Builder.closeMany : Nat → Builder → Builder
  | 0, b => b
  | n + 1, b => Builder.closeMany n b.close

/-- Opens an element. -/
def Builder.push (b : Builder) (tag : Tag) (unread : Chars) : Builder :=
  if b.settings.maxDepth < b.frames.length then
    { b.error unread
        (s!"Excessive depth in document: {b.frames.length} use XML_PARSE_HUGE option") with
      halted := true }
  else
    { b with
      frames := ⟨tag, []⟩ :: b.frames
      sawHead := b.sawHead || tag.name.base == "head".toList || tag.name.base == "body".toList
      sawBody := b.sawBody || tag.name.base == "body".toList }

/-- Opens an element that is not in the text. -/
def Builder.supply (b : Builder) (name : String) (unread : Chars) : Builder :=
  b.push { name := { base := name.toList } } unread

/-- Adds text to the innermost open element; text after text is one node. -/
def Builder.addText (b : Builder) (s : Chars) : Builder :=
  match b.frames with
  | [] => b
  | f :: fs =>
      let content := match f.content with
        | .text t :: ns => .text (t ++ s) :: ns
        | ns => .text s :: ns
      { b with frames := { f with content } :: fs }

/-- Adds a comment. -/
def Builder.addComment (b : Builder) (s : Chars) : Builder :=
  if b.settings.dropComments then b
  else
    let n : Node := .comment unnumbered s
    match b.frames with
    | [] => { b with top := n :: b.top }
    | f :: fs => { b with frames := { f with content := n :: f.content } :: fs }

/-- The finished tree, all open elements being closed. -/
def Builder.forest (b : Builder) : List Node := (Builder.closeMany b.frames.length b).top.reverse

/-! ## Elements that are not in the text -/

/-- Closes open elements that a start tag ends. -/
def Builder.closeEnded (name : Chars) : Nat → Builder → Builder
  | 0, b => b
  | n + 1, b =>
      match b.current? with
      | some c => if endsOpen c name then Builder.closeEnded name n b.close else b
      | none => b

/-- Elements of the head. -/
def isHeadElement (name : Chars) : Bool :=
  isAmong ["script", "style", "meta", "link", "title", "base"] name

/-- Opens the elements that an element of a name has to stand in. -/
def Builder.supplyFor (b : Builder) (name : Chars) (unread : Chars) : Builder :=
  if name == "html".toList then b
  else
    let b := if b.frames.isEmpty then b.supply "html" unread else b
    if isAmong ["body", "head"] name then b
    else if b.frames.length ≤ 1 && isHeadElement name then
      if b.sawHead then b else b.supply "head" unread
    else if isAmong ["noframes", "frame", "frameset"] name then b
    else if b.sawBody || b.hasOpen "body".toList || b.hasOpen "head".toList then b
    else b.supply "body" unread

/-! ## Text -/

/-- Blank characters of HTML. -/
def isHtmlBlank (c : Char) : Bool :=
  c == ' ' || c == '\t' || c == '\n' || c == '\r' || c == '\x0c'

/-- Whether blank text is dropped here, given what follows it. -/
def Builder.dropsBlank (b : Builder) (s unread : Chars) : Bool :=
  if !s.all isHtmlBlank then false
  else match unread, b.frames with
    | [], _ => true
    | '<' :: _, [] => true
    | '<' :: _, f :: _ =>
        if b.isIn "html" || b.isIn "head" || (b.isIn "body" && b.strictType) then true
        else
          let last? := f.content.find? fun n => match n with | .comment .. => false | _ => true
          match last? with
          | none => !isAmong textElements f.name
          | some (.element _ t _) => !isAmong textElements t.name.base
          | some n => !n.isText
    | _, _ => false

/-- Opens what text has to stand in. -/
def Builder.supplyForText (b : Builder) (unread : Chars) : Builder :=
  let name := ['p']
  let b := if b.isIn "head" then Builder.closeEnded name b.frames.length b else b
  b.supplyFor name unread

/-- Delivers text before some unread text. Blank text at the start of the document or of its head stays
where it is. -/
def Builder.deliver (b : Builder) (mode : ContentMode) (s unread : Chars) : Builder :=
  let plain := mode == .markup
  let put (b : Builder) (s : Chars) : Builder :=
    if plain && b.settings.dropBlanks && b.dropsBlank s unread then b else b.addText s
  if b.frames.isEmpty || b.isIn "html" || b.isIn "head" then
    let blank := s.takeWhile isHtmlBlank
    let rest := s.dropWhile isHtmlBlank
    let b := if blank.isEmpty || b.settings.dropBlanks then b else b.addText blank
    if rest.isEmpty then b else put (b.supplyForText unread) rest
  else if s.isEmpty then b else put b s

/-! ## Tags -/

/-- Puts a start tag into the tree and tells whether its element was opened. -/
def Builder.startTag (b : Builder) (tag : Tag) (unread : Chars) : Builder × Bool :=
  let name := tag.name.base
  let b := Builder.closeEnded name b.frames.length b
  let b := b.supplyFor name unread
  let misplaced : Bool :=
    (name == "html".toList && !b.frames.isEmpty) ||
    (name == "head".toList && b.frames.length != 1) ||
    (name == "body".toList && b.hasOpen name)
  if b.halted then (b, false)
  else if misplaced then
    let shown := String.ofList name
    (({ b with skipped := b.skipped + 1 }).error unread
      s!"htmlParseStartTag: misplaced <{shown}> tag", false)
  else (b.push tag unread, true)

/-- How many open elements an end tag closes: those down to its element, if none of them resists. -/
def reach (name : Chars) : List Frame → Nat → Option Nat
  | [], _ => none
  | f :: fs, n =>
      if f.name == name then some (n + 1)
      else if resistance name < resistance f.name then none
      else reach name fs (n + 1)

/-- Puts an end tag into the tree. -/
def Builder.endTag (b : Builder) (name unread : Chars) : Builder :=
  let shown := String.ofList name
  if 0 < b.skipped && isAmong ["html", "body", "head"] name then { b with skipped := b.skipped - 1 }
  else if !b.hasOpen name then b.error unread s!"Unexpected end tag : {shown}"
  else
    let mismatch (b : Builder) (f : Frame) : Builder :=
      b.error unread
        s!"Opening and ending tag mismatch: {shown} and {String.ofList f.name}"
    match reach name b.frames 0 with
    | some n =>
        let crossed := b.frames.take (n - 1)
        let b := crossed.foldl (fun b f => if needsEndTag f.name then mismatch b f else b) b
        Builder.closeMany n b
    | none =>
        match b.frames with
        | f :: _ => mismatch b f
        | [] => b

end MarkupQuery.Html
