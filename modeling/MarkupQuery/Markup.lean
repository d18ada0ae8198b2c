import MarkupQuery.Tree.Numbering
import MarkupQuery.Html.Reader
import MarkupQuery.Html.Writer
import MarkupQuery.Xml.Prolog
import MarkupQuery.Xml.Writer
import MarkupQuery.Transcoding

/-!
# Parsing and writing by kind

Markup of either kind is parsed into a tree, and nodes are written in the form of their kind. Parsing
always ends; it may leave no root. Every parse reports its diagnostics and, if no root came out, says
so.
-/

namespace MarkupQuery

open MarkupQuery.Text MarkupQuery.Tree

/-! ## Parsing -/

/-- What came out of a parse. -/
structure Parsed where
  /-- The numbered tree and the id of its root. -/
  tree : Option (Forest × NodeId)
  log : List LogLine
  nextId : NodeId
  deriving Inhabited

/-- How much of a text is left where its first malformed byte stands, zero if there is none. -/
def malformedFrom (m : CodePoints) : Nat := (seenInUtf8 (m.dropWhile fun n => !isSurrogate n)).length

/-- The tree with its root, if it has one. -/
def withRoot (f : Forest) : Option (Forest × NodeId) :=
  ((rootOf f).bind Node.id?).map fun i => (f, i)

/-- The line that reports a parse without root. -/
def rootlessLine (kind : Kind) (bytes : Nat) : LogLine :=
  ⟨"DEBUG", s!"Parser produced no tree for {bytes} bytes of {kind.name}"⟩

/-- Parses HTML. -/
def parseHtml (options : Options) (nextId : NodeId) (m : CodePoints) : Parsed :=
  let text := toAscii m
  let r := Html.read (Html.Settings.ofOptions options) text
  let report := reportNotices options text r.notices
  let numbered := numberAll nextId r.forest
  let tree := withRoot numbered.1
  { tree, nextId := numbered.2
    log := report ++ if tree.isNone then [rootlessLine .html text.length] else [] }

/-- Parses XML. -/
def parseXml (options : Options) (nextId : NodeId) (m : CodePoints) : Parsed :=
  let text := seenInUtf8 m
  let r := Xml.read (Xml.Settings.ofOptions options) text (malformedFrom m)
  let report := reportNotices options text r.notices
  match r.forest with
  | none => { tree := none, nextId, log := ⟨"DEBUG", "Parser produced no tree"⟩ :: report }
  | some f =>
      let numbered := numberAll nextId f
      let tree := withRoot numbered.1
      { tree, nextId := numbered.2
        log := report ++ if tree.isNone then [rootlessLine .xml (toUtf8 m).length] else [] }

/-- Parses markup of a kind. -/
def parseMarkup (kind : Kind) (options : Options) (nextId : NodeId) (m : CodePoints) : Parsed :=
  match kind with
  | .html => parseHtml options nextId m
  | .xml => parseXml options nextId m

/-! ## Writing -/

/-- The written form of a node that stands by itself, given the tags of its ancestors. -/
def writeAlone (kind : Kind) (ancestors : List Tag) (n : Node) : Chars :=
  match kind with
  | .html => Html.writeAlone (Xml.selfContained ancestors n)
  | .xml => Xml.writeAlone ancestors n

/-- The written form of character data after a node. -/
def writeTail (kind : Kind) (n : Node) : Chars :=
  match kind with
  | .html => Html.writeNode false n
  | .xml => Xml.writeNode n

/-- The written forms of nodes one after the other, where every node that is no character data stands by
itself. -/
def writeEach (kind : Kind) (ancestors : List Tag) (ns : List Node) : Chars :=
  ns.flatMap fun n => if n.isText then writeTail kind n else writeAlone kind ancestors n

/-- Whether the text of an element is written as it is. -/
def holdsPlainText (kind : Kind) (name : Chars) : Bool :=
  kind == .html && Html.holdsPlainText (lower name)

/-- The written form of what an element holds. -/
def writeInner (kind : Kind) (ancestors : List Tag) (tag : Tag) (children : List Node) : Chars :=
  let text := (leadingText children).getD []
  (if holdsPlainText kind tag.name.expanded then text else Html.writeText text) ++
    writeEach kind (tag :: ancestors) (afterText children)

end MarkupQuery
