import MarkupQuery.Xml.Letters
import MarkupQuery.Tree.Basic
import MarkupQuery.Diagnostic

/-!
# The state of an XML reader

Reading XML is lenient: whatever is wrong is noted and the reader goes on with what is left. The
state holds the unread text, the elements that are open and the nodes finished so far. Once a fatal
error was noted the text is no longer well formed; references to entities in content are then
dropped.
-/

namespace MarkupQuery.Xml

open MarkupQuery.Text MarkupQuery.Tree

/-! ## State -/

/-- What the parse options say about building the tree. -/
structure Settings where
  /-- Character data sections stay sections; otherwise they become text. -/
  keepSections : Bool := true
  /-- Blank text between elements is dropped. -/
  dropBlanks : Bool := false
  dropComments : Bool := false
  /-- Documents may be very deep. -/
  deep : Bool := false
  deriving DecidableEq, Repr, Inhabited

/-- The settings that some options mean. -/
def Settings.ofOptions (o : Options) : Settings :=
  { keepSections := !Options.has o .noCData
    dropBlanks := Options.has o .noBlanks
    dropComments := Options.has o .noComments
    deep := Options.has o .huge }

/-- How blank text is treated inside an element. -/
inductive BlankMode where
  /-- No text has been seen in the element. -/
  | unseen
  /-- The element holds text. -/
  | mixed
  /-- The element asks for the default treatment. -/
  | default
  /-- The element asks for all its text to be kept. -/
  | preserve
  deriving DecidableEq, Repr, Inhabited

/-- A declared entity. -/
structure Entity where
  /-- What it stands for. -/
  replacement : Chars
  /-- Whether it stands for something outside the document. -/
  isOutside : Bool
  /-- The text that is left of the replacement once all its references are resolved. -/
  content : Chars := []
  deriving DecidableEq, Repr

/-- An element that is open. -/
structure Frame where
  tag : Tag
  /-- The prefix and the name that its end tag has to repeat. -/
  label : Option Chars
  base : Chars
  /-- What was unread where it began. -/
  start : Chars
  /-- The namespaces in scope, the innermost first. -/
  scope : List Declaration
  blanks : BlankMode
  /-- Its children so far, the last first. -/
  content : List Node
  deriving Repr, Inhabited

/-- The state of a reader. -/
structure Reader where
  /-- The whole text. -/
  text : Chars
  /-- What is still unread. -/
  input : Chars
  settings : Settings
  /-- Whether nothing fatal was noted. -/
  wellFormed : Bool := true
  /-- How much was unread where malformed bytes begin, zero if there are none. -/
  malformedFrom : Nat := 0
  /-- Whether reading stops here. -/
  halted : Bool := false
  /-- What was noted, the last first. -/
  notices : List Notice := []
  /-- The open elements, the innermost first. -/
  frames : List Frame := []
  /-- The finished top-level nodes, the last first. -/
  top : List Node := []
  entities : List (Chars × Entity) := []
  /-- Declared elements, and whether they may hold text. -/
  elementKinds : List (Chars × Bool) := []
  /-- Declared attributes by element and name, and whether their values are lists of tokens. -/
  attributeKinds : List ((Chars × Chars) × Bool) := []
  /-- Namespace declarations that elements have by default, by element. -/
  defaultSpaces : List (Chars × Declaration) := []
  /-- Whether declarations may be missing, so that an unknown entity is no fatal error. -/
  incomplete : Bool := false
  /-- Whether the document says that it needs no declarations from elsewhere. -/
  standsAlone : Bool := false
  deriving Repr, Inhabited

/-! ## Notices -/

/-- Notes something at the present place. -/
def Reader.note (r : Reader) (severity : Severity) (message : String) : Reader :=
  { r with notices := ⟨severity, r.input, message⟩ :: r.notices }

/-- Notes an error after which the text still counts as well formed. -/
def Reader.error (r : Reader) (message : String) : Reader := r.note .error message

/-- Notes a warning. -/
def Reader.warn (r : Reader) (message : String) : Reader := r.note .warning message

/-- Notes a fatal error. -/
def Reader.fatal (r : Reader) (message : String) : Reader :=
  { r.note .error message with wellFormed := false }

/-- Whether everything read so far is well formed. -/
def Reader.sound (r : Reader) : Bool :=
  r.wellFormed && (r.malformedFrom == 0 || r.malformedFrom ≤ r.input.length)

/-- The line of the present place. -/
def Reader.line (r : Reader) : Nat := lineAt r.text r.input

/-- The same state with other unread text. -/
def Reader.at_ (r : Reader) (input : Chars) : Reader := { r with input }

/-- Skips blanks. -/
def Reader.skipBlanks (r : Reader) : Reader := r.at_ (r.input.dropWhile isMarkupBlank)

/-- Whether a blank comes next. -/
def Reader.atBlank (r : Reader) : Bool := r.input.head?.any isMarkupBlank

/-! ## Building the tree -/

/-- Adds a finished node to the innermost open element, or at the top. -/
def Reader.add (r : Reader) (n : Node) : Reader :=
  match r.frames with
  | f :: fs => { r with frames := { f with content := n :: f.content } :: fs }
  | [] => { r with top := n :: r.top }

/-- Adds text to a list of nodes in reverse; text after text is one node. -/
def addText (s : Chars) : List Node → List Node
  | .text t :: ns => .text (t ++ s) :: ns
  | ns => .text s :: ns

/-- Adds text to the innermost open element. -/
def Reader.addText (r : Reader) (s : Chars) : Reader :=
  match r.frames with
  | f :: fs => { r with frames := { f with content := Xml.addText s f.content } :: fs }
  | [] => r

/-- Adds a comment, unless comments are dropped. -/
def Reader.addComment (r : Reader) (s : Chars) : Reader :=
  if r.settings.dropComments then r else r.add (.comment unnumbered s)

/-- Adds an instruction. -/
def Reader.addInstruction (r : Reader) (target : Chars) (data : Option Chars) : Reader :=
  r.add (.instruction unnumbered target data)

/-- Adds a reference. -/
def Reader.addReference (r : Reader) (name content : Chars) : Reader :=
  r.add (.reference unnumbered name content)

/-- The node that an open element becomes. -/
def Frame.node (f : Frame) : Node := .element unnumbered f.tag f.content.reverse

/-- Closes the innermost open element. -/
def Reader.close (r : Reader) : Reader :=
  match r.frames with
  | f :: fs => ({ r with frames := fs }).add f.node
  | [] => r

/-- Closes a number of open elements. -/
def Reader.closeMany : Nat → Reader → Reader
  | 0, r => r
  | n + 1, r => Reader.closeMany n r.close

/-- The finished tree, all open elements being closed. -/
def Reader.forest (r : Reader) : Forest := (Reader.closeMany r.frames.length r).top.reverse

/-! ## Texts at the start of the unread text -/

/-- What follows a text at the start of another. -/
def after? : Chars → Chars → Option Chars
  | [], s => some s
  | _ :: _, [] => none
  | a :: as, b :: bs => if a == b then after? as bs else none

/-- What a text is cut into at the first place where another one stands: what comes before it and
what comes after it. -/
def cutAt (mark : Chars) : Chars → Option (Chars × Chars)
  | [] => if mark.isEmpty then some ([], []) else none
  | c :: r =>
      match after? mark (c :: r) with
      | some rest => some ([], rest)
      | none => (cutAt mark r).map fun p => (c :: p.1, p.2)

/-- Line ends as single line feeds. -/
def unifyLineEnds : Chars → Chars
  | [] => []
  | '\r' :: '\n' :: r => '\n' :: unifyLineEnds r
  | '\r' :: r => '\n' :: unifyLineEnds r
  | c :: r => c :: unifyLineEnds r

end MarkupQuery.Xml
