import MarkupQuery.Yaml.Token
import MarkupQuery.Yaml.Schema

/-!
# The structure of a configuration text

Tokens form one tree of scalars, sequences and mappings. An anchor names a node, and a reference stands
for the node that was named before. The readers take the tokens left and the names given so far, and give
a node with both as they are after it.
-/

namespace MarkupQuery.Yaml

open MarkupQuery.Text

/-! ## Nodes -/

/-- A part of the structure. -/
inductive Node where
  | scalar (tag : Tag) (text : Chars)
  | sequence (tag : Tag) (items : List Node)
  | mapping (tag : Tag) (entries : List (Node × Node))
  /-- A reference to a collection that the reference is a part of. -/
  | enclosing (mapping : Bool)
  deriving Inhabited

/-- The value that is left out. -/
def Node.absent : Node := .scalar .null []

/-- What was left out takes no tokens. -/
structure Source where
  tokens : List Token
  /-- What anchors name; while a collection is read, only its form is known. -/
  anchors : List (Chars × (Node ⊕ Bool))

/-- The next token. Nothing follows the end. -/
def Source.peek (s : Source) : Except Fault Token :=
  match s.tokens with
  | .broken f :: _ => .error f
  | t :: _ => .ok t
  | [] => .ok .streamEnd

/-- The tokens after the next. -/
def Source.pop (s : Source) : Source := { s with tokens := s.tokens.tail }

/-- Tokens that form no structure. -/
def illFormed : Fault := .yaml .parser

/-! ## Properties of nodes -/

/-- The handles that tags may begin with, and what they stand for. -/
abbrev Handles := List (Chars × Chars)

/-- The handles that are always there. -/
def defaultHandles : Handles := [(['!'], ['!']), (['!', '!'], tagRoot)]

/-- The anchor and the tag of a node, in any order. -/
def properties (s : Source) : Except Fault (Option Chars × Option (Option Chars × Chars) × Source) := do
  match ← s.peek with
  | .anchor a =>
      let s := s.pop
      match ← s.peek with
      | .tag h t => return (some a, some (h, t), s.pop)
      | _ => return (some a, none, s)
  | .tag h t =>
      let s := s.pop
      match ← s.peek with
      | .anchor a => return (some a, some (h, t), s.pop)
      | _ => return (none, some (h, t), s)
  | _ => return (none, none, s)

/-- A tag in full. -/
def fullTag (handles : Handles) : Option Chars × Chars → Except Fault Chars
  | (none, t) => .ok t
  | (some h, t) =>
      match handles.lookup h with
      | some start => .ok (start ++ t)
      | none => .error illFormed

/-- The kind of a scalar; a lone exclamation mark asks for the meaning of plain text. -/
def scalarTag (tag : Option Chars) (plain : Bool) (text : Chars) : Tag :=
  match tag with
  | none => if plain then plainTag text else .str
  | some ['!'] => plainTag text
  | some t => Tag.ofText t

/-- The kind of a collection. -/
def collectionTag (usual : Tag) : Option Chars → Tag
  | none => usual
  | some ['!'] => usual
  | some t => Tag.ofText t

/-- Refuses an anchor that was given before. -/
def Source.fresh (s : Source) (anchor : Option Chars) : Except Fault Unit :=
  if anchor.any fun a => (s.anchors.lookup a).isSome then .error (.yaml .composer) else .ok ()

/-- Lets an anchor name something. -/
def Source.name (s : Source) (anchor : Option Chars) (what : Node ⊕ Bool) : Source :=
  match anchor with
  | some a => { s with anchors := (a, what) :: s.anchors }
  | none => s

/-! ## Reading nodes -/

/-- Where a node stands. -/
inductive Place where
  /-- In a block. -/
  | block
  /-- After a key or a value mark in a block, where items need no indentation of their own. -/
  | entry
  /-- Between brackets. -/
  | flow
  deriving DecidableEq, Repr

/-- Whether a token may follow a mark without a node between them. -/
def leavesOut (enders : List String) (t : Token) : Bool :=
  let label : String := match t with
    | .blockEntry => "-"
    | .blockEnd => "end"
    | .key => "?"
    | .value => ":"
    | .flowEntry => ","
    | .closeList => "]"
    | .closeMap => "close"
    | _ => ""
  enders.contains label

mutual

/-- A node. -/
def readNode (handles : Handles) (place : Place) : Nat → Source → Except Fault (Node × Source)
  | 0, _ => .error illFormed
  | fuel + 1, s => do
      match ← s.peek with
      | .reference name =>
          match s.anchors.lookup name with
          | some (.inl n) => return (n, s.pop)
          | some (.inr m) => return (.enclosing m, s.pop)
          | none => throw (.yaml .composer)
      | _ =>
          let (anchor, tag, s) ← properties s
          let tag ← tag.mapM (fullTag handles)
          let finish (n : Node) (s : Source) : Node × Source := (n, s.name anchor (.inl n))
          match ← s.peek with
          | .scalar text plain =>
              s.fresh anchor
              return finish (.scalar (scalarTag tag plain text) text) s.pop
          | .openList =>
              s.fresh anchor
              let (items, s) ← readFlowItems handles true fuel (s.pop.name anchor (.inr false))
              return finish (.sequence (collectionTag .seq tag) items) s
          | .openMap =>
              s.fresh anchor
              let (entries, s) ← readFlowEntries handles true fuel (s.pop.name anchor (.inr true))
              return finish (.mapping (collectionTag .map tag) entries) s
          | t =>
              let isEntry : Bool := match t with
                | .blockEntry => place == .entry
                | _ => false
              let isSequence : Bool := match t with
                | .blockSequence => place != .flow
                | _ => false
              let isMapping : Bool := match t with
                | .blockMapping => place != .flow
                | _ => false
              if isEntry then
                s.fresh anchor
                let (items, s) ← readBareItems handles fuel (s.name anchor (.inr false))
                return finish (.sequence (collectionTag .seq tag) items) s
              else if isSequence then
                s.fresh anchor
                let (items, s) ← readItems handles fuel (s.pop.name anchor (.inr false))
                return finish (.sequence (collectionTag .seq tag) items) s
              else if isMapping then
                s.fresh anchor
                let (entries, s) ← readEntries handles fuel (s.pop.name anchor (.inr true))
                return finish (.mapping (collectionTag .map tag) entries) s
              else if anchor.isSome || tag.isSome then
                s.fresh anchor
                return finish (.scalar (scalarTag tag true []) []) s
              else throw illFormed

/-- A node, or the value that is left out before one of some tokens. -/
def readOptional (handles : Handles) (place : Place) (enders : List String) :
    Nat → Source → Except Fault (Node × Source)
  | 0, _ => .error illFormed
  | fuel + 1, s => do
      if leavesOut enders (← s.peek) then return (.absent, s)
      else readNode handles place fuel s

/-- The items of an indented sequence and its end. -/
def readItems (handles : Handles) : Nat → Source → Except Fault (List Node × Source)
  | 0, _ => .error illFormed
  | fuel + 1, s => do
      match ← s.peek with
      | .blockEntry =>
          let (n, s) ← readOptional handles .block ["-", "end"] fuel s.pop
          let (ns, s) ← readItems handles fuel s
          return (n :: ns, s)
      | .blockEnd => return ([], s.pop)
      | _ => throw illFormed

/-- The items of a sequence without indentation of its own. -/
def readBareItems (handles : Handles) : Nat → Source → Except Fault (List Node × Source)
  | 0, _ => .error illFormed
  | fuel + 1, s => do
      match ← s.peek with
      | .blockEntry =>
          let (n, s) ← readOptional handles .block ["-", "?", ":", "end"] fuel s.pop
          let (ns, s) ← readBareItems handles fuel s
          return (n :: ns, s)
      | _ => return ([], s)

/-- The entries of an indented mapping and its end. -/
def readEntries (handles : Handles) : Nat → Source → Except Fault (List (Node × Node) × Source)
  | 0, _ => .error illFormed
  | fuel + 1, s => do
      match ← s.peek with
      | .key =>
          let (k, s) ← readOptional handles .entry ["?", ":", "end"] fuel s.pop
          let (v, s) ← readBlockValue handles fuel s
          let (es, s) ← readEntries handles fuel s
          return ((k, v) :: es, s)
      | .blockEnd => return ([], s.pop)
      | _ => throw illFormed

/-- The value after a key in an indented mapping. -/
def readBlockValue (handles : Handles) : Nat → Source → Except Fault (Node × Source)
  | 0, _ => .error illFormed
  | fuel + 1, s => do
      match ← s.peek with
      | .value => readOptional handles .entry ["?", ":", "end"] fuel s.pop
      | _ => return (.absent, s)

/-- The items of a sequence between brackets and its end. -/
def readFlowItems (handles : Handles) (first : Bool) :
    Nat → Source → Except Fault (List Node × Source)
  | 0, _ => .error illFormed
  | fuel + 1, s => do
      match ← s.peek with
      | .closeList => return ([], s.pop)
      | t =>
          let s ← match first, t with
            | true, _ => pure s
            | false, .flowEntry => pure s.pop
            | false, _ => throw illFormed
          match ← s.peek with
          | .closeList => return ([], s.pop)
          | .key =>
              let (k, s) ← readOptional handles .flow [":", ",", "]"] fuel s.pop
              let (v, s) ← readFlowValue handles [",", "]"] fuel s
              let (ns, s) ← readFlowItems handles false fuel s
              return (.mapping .map [(k, v)] :: ns, s)
          | _ =>
              let (n, s) ← readNode handles .flow fuel s
              let (ns, s) ← readFlowItems handles false fuel s
              return (n :: ns, s)

/-- The entries of a mapping between brackets and its end. -/
def readFlowEntries (handles : Handles) (first : Bool) :
    Nat → Source → Except Fault (List (Node × Node) × Source)
  | 0, _ => .error illFormed
  | fuel + 1, s => do
      match ← s.peek with
      | .closeMap => return ([], s.pop)
      | t =>
          let s ← match first, t with
            | true, _ => pure s
            | false, .flowEntry => pure s.pop
            | false, _ => throw illFormed
          match ← s.peek with
          | .closeMap => return ([], s.pop)
          | .key =>
              let (k, s) ← readOptional handles .flow [":", ",", "close"] fuel s.pop
              let (v, s) ← readFlowValue handles [",", "close"] fuel s
              let (es, s) ← readFlowEntries handles false fuel s
              return ((k, v) :: es, s)
          | _ =>
              let (k, s) ← readNode handles .flow fuel s
              let (es, s) ← readFlowEntries handles false fuel s
              return ((k, .absent) :: es, s)

/-- The value after a key between brackets. -/
def readFlowValue (handles : Handles) (enders : List String) :
    Nat → Source → Except Fault (Node × Source)
  | 0, _ => .error illFormed
  | fuel + 1, s => do
      match ← s.peek with
      | .value => readOptional handles .flow enders fuel s.pop
      | _ => return (.absent, s)

end

/-! ## Documents -/

/-- The directives before a document: the handles that they declare. -/
def readDirectives : List Token → Bool → Handles → Except Fault (Handles × List Token)
  | .directive (.version major) :: r, versioned, handles =>
      if versioned || major != 1 then .error illFormed else readDirectives r true handles
  | .directive (.handle name text) :: r, versioned, handles =>
      if (handles.lookup name).isSome then .error illFormed
      else readDirectives r versioned (handles ++ [(name, text)])
  | .directive .other :: r, versioned, handles => readDirectives r versioned handles
  | .broken f :: _, _, _ => .error f
  | r, _, handles =>
      .ok (handles ++ defaultHandles.filter (fun h => (handles.lookup h.1).isNone), r)

/-- The tokens after the marks that end documents. -/
def skipEnds : List Token → List Token
  | .documentEnd :: r => skipEnds r
  | r => r

/-- What comes after the marks that end documents: nothing, or the handles of a document and its
tokens. -/
def readStart (tokens : List Token) : Except Fault (Option (Handles × List Token)) :=
  match skipEnds tokens with
  | .broken f :: _ => .error f
  | .streamEnd :: _ | [] => .ok none
  | r => do
      let (handles, r) ← readDirectives r false []
      match r with
      | .documentStart :: r => return some (handles, r)
      | .broken f :: _ => throw f
      | _ => throw illFormed

/-- The node of an explicit document; it may be left out. -/
def readContent (handles : Handles) (tokens : List Token) : Except Fault (Node × Source) :=
  let fuel := 4 * tokens.length + 4
  let s : Source := ⟨tokens, []⟩
  match tokens with
  | .directive _ :: _ | .documentStart :: _ | .documentEnd :: _ | .streamEnd :: _ =>
      .ok (.absent, s)
  | _ => readNode handles .block fuel s

/-- The only document of a text, if there is one. -/
def readDocument (tokens : List Token) : Except Fault (Option Node) := do
  let content ← match tokens with
    | .broken f :: _ => throw f
    | .directive _ :: _ | .documentStart :: _ | .streamEnd :: _ | [] =>
        match ← readStart tokens with
        | none => pure none
        | some (handles, r) => do pure (some (← readContent handles r))
    | _ => do pure (some (← readNode defaultHandles .block (4 * tokens.length + 4) ⟨tokens, []⟩))
  match content with
  | none => return none
  | some (n, s) =>
      let rest ← match ← s.peek with
        | .documentEnd => pure s.pop.tokens
        | _ => pure s.tokens
      match ← readStart rest with
      | none => return some n
      | some _ => throw (.yaml .composer)

end MarkupQuery.Yaml
