import MarkupQuery.Query.Value
import MarkupQuery.Selection
import MarkupQuery.Kind

/-!
# Functions of queries

The functions that every query may call, and three functions on regular expressions that may be called
through a prefix of their namespace. A function refuses a wrong number of arguments, and some refuse
values that are no sets of nodes.
-/

namespace MarkupQuery.Query

open MarkupQuery.Text MarkupQuery.Tree

/-- What stops a query: a reason of its own, or a failure of a function that it calls. -/
inductive Trouble where
  | reason (r : Reason)
  | fault (f : Fault)

/-- What an expression is evaluated in. -/
structure Context where
  spot : Spot
  /-- The place of the spot among those that a predicate is asked about, from one, and their number. -/
  place : Option (Nat × Nat) := none
  /-- The prefixes that names may use. -/
  spaces : List (Chars × Chars)
  kind : Kind

/-- The namespace of a prefix. -/
def Context.space? (c : Context) (label : Chars) : Option Chars :=
  if label == "xml".toList then some xmlSpace else (c.spaces.find? (·.1 == label)).map (·.2)

/-! ## Names -/

/-- The part of a spot's name without prefix. -/
def Target.localName : Target → Chars
  | .node (.element _ t _) => t.name.base
  | .node (.instruction _ t _) => t
  | .attribute _ a => a.name.base
  | .space label _ => label.getD []
  | _ => []

/-- The name of a spot as it is written. -/
def Target.writtenName : Target → Chars
  | .node (.element _ t _) => t.name.written
  | .attribute _ a => a.name.written
  | t => t.localName

/-- The namespace of a spot's name. -/
def Target.nameSpace : Target → Chars
  | .node (.element _ t _) => t.name.space.getD []
  | .attribute _ a => a.name.space.getD []
  | _ => []

/-! ## Texts -/

/-- What comes before and after the first place where a text stands in another. -/
def cutAround (mark : Chars) : Chars → Option (Chars × Chars)
  | [] => if mark.isEmpty then some ([], []) else none
  | c :: r =>
      if mark.isPrefixOf (c :: r) then some ([], (c :: r).drop mark.length)
      else (cutAround mark r).map fun p => (c :: p.1, p.2)

/-- The words of a text. -/
def words (s : Chars) : List Chars :=
  (s.splitBy fun a b => isMarkupBlank a == isMarkupBlank b).filter fun w =>
    !w.head?.any isMarkupBlank

/-- A text with single spaces between its words. -/
def normalizeBlanks (s : Chars) : Chars := ((words s).intersperse [' ']).flatten

/-- A text with characters replaced one by one; those without a counterpart are left out. -/
def translate (s old new : Chars) : Chars :=
  s.filterMap fun c =>
    match old.findIdx? (· == c) with
    | none => some c
    | some i => new[i]?

/-- The first and the end position of a part of a text, for positions as numbers; the end is not
part of it. -/
def partBounds (start : Float) (length : Option Float) : Nat × Option Nat :=
  let round (x : Float) : Float := if x - x.floor ≥ 0.5 then x.floor + 1.0 else x.floor
  let far : Float := 2147483647.0
  let first : Nat :=
    if !(start < far) then 2147483647 else if start ≥ 1.0 then (round start).toUInt64.toNat else 1
  match length with
  | none => (first, none)
  | some l =>
      let stop := round start + round l
      let last : Option Nat :=
        if !(stop ≥ 1.0) then some 1 else if stop < far then some stop.toUInt64.toNat else none
      (first, last)

/-- A part of a text. -/
def partOf (s : Chars) (start : Float) (length : Option Float) : Chars :=
  let (first, stop) := partBounds start length
  let rest := s.drop (first - 1)
  match stop with
  | none => rest
  | some e => rest.take (e - first)

/-- Whether a language is another one or a variety of it. -/
def isVariety (asked language : Chars) : Bool :=
  let asked := asked.map upperAsciiChar
  let language := language.map upperAsciiChar
  asked.isPrefixOf language &&
    ((language.drop asked.length).isEmpty || (language.drop asked.length).head? == some '-')

/-- The language at a spot. -/
def Spot.language? (s : Spot) : Option Chars :=
  (s.target :: s.above).findSome? fun t =>
    (t.tag?).bind fun tag =>
      (tag.attributes.find? fun a =>
        a.name.base == "lang".toList && a.name.space == some xmlSpace).map Attribute.value

/-! ## Ids -/

/-- Whether an attribute names its element in the document. -/
def isIdOf (kind : Kind) (element : Name) (a : Attribute) : Bool :=
  match kind with
  | .html =>
      a.name.base == "id".toList || (a.name.base == "name".toList && element.base == "a".toList)
  | .xml => a.name.base == "id".toList && a.name.space == some xmlSpace

/-- The spots of the elements with some ids; of one id only the first element counts. -/
def spotsById (c : Context) (ids : List Chars) : List Spot :=
  let named := c.spot.root.descendants.filterMap fun s =>
    (s.target.tag?).map fun t =>
      (s, (t.attributes.filter (isIdOf c.kind t.name)).map Attribute.value)
  inOrder (ids.filterMap fun i => (named.find? fun p => p.2.contains i).map (·.1))

/-! ## Core functions -/

/-- Calls one of the functions that need no prefix. -/
def callCore (name : String) (c : Context) (arguments : List Value) : Except Trouble Value :=
  let wrongCount : Except Trouble Value := .error (.reason .argumentCount)
  let wrongType : Except Trouble Value := .error (.reason .type)
  let here : Value := .spots [c.spot]
  let nameOf (f : Target → Chars) : Except Trouble Value :=
    match arguments with
    | [] => .ok (.text (f c.spot.target))
    | [.spots ss] => .ok (.text (((ss.head?).map fun s => f s.target).getD []))
    | [_] => wrongType
    | _ => wrongCount
  let onNumber (f : Float → Float) : Except Trouble Value :=
    match arguments with
    | [a] => .ok (.number (f a.toNumber))
    | _ => wrongCount
  let optional (f : Value → Value) : Except Trouble Value :=
    match arguments with
    | [] => .ok (f here)
    | [a] => .ok (f a)
    | _ => wrongCount
  let onTexts (f : Chars → Chars → Value) : Except Trouble Value :=
    match arguments with
    | [a, b] => .ok (f a.toText b.toText)
    | _ => wrongCount
  match name with
  | "last" =>
      match arguments, c.place with
      | [], some (_, size) => .ok (.number (Float.ofNat size))
      | [], none => .error (.reason .contextSize)
      | _, _ => wrongCount
  | "position" =>
      match arguments, c.place with
      | [], some (i, _) => .ok (.number (Float.ofNat i))
      | [], none => .error (.reason .contextPosition)
      | _, _ => wrongCount
  | "count" =>
      match arguments with
      | [.spots ss] => .ok (.number (Float.ofNat ss.length))
      | [_] => wrongType
      | _ => wrongCount
  | "sum" =>
      match arguments with
      | [.spots ss] => .ok (.number (ss.foldl (fun x s => x + s.number) 0.0))
      | [_] => wrongType
      | _ => wrongCount
  | "id" =>
      match arguments with
      | [.spots ss] => .ok (.spots (spotsById c (ss.flatMap fun s => words s.text)))
      | [a] => .ok (.spots (spotsById c (words a.toText)))
      | _ => wrongCount
  | "local-name" => nameOf Target.localName
  | "name" => nameOf Target.writtenName
  | "namespace-uri" => nameOf Target.nameSpace
  | "string" => optional fun v => .text v.toText
  | "number" => optional fun v => .number v.toNumber
  | "string-length" => optional fun v => .number (Float.ofNat v.toText.length)
  | "normalize-space" => optional fun v => .text (normalizeBlanks v.toText)
  | "concat" =>
      if arguments.length < 2 then wrongCount else .ok (.text (arguments.flatMap Value.toText))
  | "starts-with" => onTexts fun a b => .truth (b.isPrefixOf a)
  | "contains" => onTexts fun a b => .truth (cutAround b a).isSome
  | "substring-before" => onTexts fun a b => .text (((cutAround b a).map (·.1)).getD [])
  | "substring-after" => onTexts fun a b => .text (((cutAround b a).map (·.2)).getD [])
  | "substring" =>
      match arguments with
      | [a, b] => .ok (.text (partOf a.toText b.toNumber none))
      | [a, b, l] => .ok (.text (partOf a.toText b.toNumber (some l.toNumber)))
      | _ => wrongCount
  | "translate" =>
      match arguments with
      | [a, b, d] => .ok (.text (translate a.toText b.toText d.toText))
      | _ => wrongCount
  | "boolean" =>
      match arguments with
      | [a] => .ok (.truth a.toTruth)
      | _ => wrongCount
  | "not" =>
      match arguments with
      | [a] => .ok (.truth !a.toTruth)
      | _ => wrongCount
  | "true" => if arguments.isEmpty then .ok (.truth true) else wrongCount
  | "false" => if arguments.isEmpty then .ok (.truth false) else wrongCount
  | "lang" =>
      match arguments with
      | [a] => .ok (.truth (((c.spot.language?).map (isVariety a.toText)).getD false))
      | _ => wrongCount
  | "floor" => onNumber Float.floor
  | "ceiling" => onNumber Float.ceil
  | "round" => onNumber roundHalfUp
  | _ => .error (.reason .unknownFunction)

/-! ## Regular expressions -/

/-- The namespace of the functions on regular expressions. -/
def regularSpace : Chars := "http://exslt.org/regular-expressions".toList

/-- The text of a namespace in messages: its prefix and its name. -/
def shownSpace (label : Option Chars) (name : Chars) : String :=
  let shown := match label with
    | some l => Datum.text (String.ofList l)
    | none => Datum.null
  (Datum.tuple [shown, .text (String.ofList name)]).shown

/-- The text that a value stands for in these functions: numbers and truth values are written like
data values. -/
def argumentText : Value → Chars
  | .spots [] => []
  | .spots (s :: _) =>
      match s.target with
      | .space l u => (shownSpace l u).toList
      | t => t.text
  | .number x => (Number.floatText x).toList
  | .truth b => (if b then "True" else "False").toList
  | .text s => s

/-- A tree made by a function: one element that holds an element for each text. -/
def madeTree (texts : List Chars) : List Node :=
  let tag (s : String) : Tag := { name := { base := s.toList } }
  let one (p : Chars × Nat) : Node := .element (p.2 + 1) (tag "match") [.text p.1]
  [.element 0 (tag "matches") (texts.zipIdx.map one)]

/-- The offsets of a made tree as a whole; it comes after all spots of the document. -/
def madeOffsets : List Offset := [⟨3, 0⟩]

/-- The spots of the elements in a made tree, which is a document of its own. -/
def madeSpots (texts : List Chars) : List Spot :=
  match madeTree texts with
  | [t] => childSpots (.child 0 :: madeOffsets) [.node t, .document [t]] 0 t.children
  | _ => []

/-- What of a match is listed: its groups, or all of it if it has none. -/
def listedText (m : Pattern.Match) : Chars :=
  if m.groups.isEmpty then m.text else m.groups.flatMap fun g => g.getD []

/-- Whether a text may stand in a tree. -/
def isMarkupText (s : Chars) : Bool :=
  s.all fun c => 32 ≤ c.toNat && c.toNat != 0xfffe && c.toNat != 0xffff || c == '\t' ||
    c == '\n' || c == '\r'

/-- Calls one of the functions on regular expressions. -/
def callRegular (name : String) (arguments : List Value) : Except Trouble Value :=
  let lift {α : Type} (x : Except Fault α) : Except Trouble α :=
    match x with
    | .ok v => .ok v
    | .error f => .error (.fault f)
  let compile (pattern flags : Chars) : Except Trouble Pattern.Regex :=
    lift (compileWith { ignoreCase := flags.contains 'i' } pattern)
  let texts := arguments.map argumentText
  let pick (s pattern flags : Chars) : Except Trouble Value := do
    let r ← compile pattern flags
    let found :=
      if flags.contains 'g' then (r.matches s).map listedText
      else match (r.matches s).head? with
        | none => []
        | some m => m.text :: m.groups.map fun g => g.getD []
    if found.all isMarkupText then return .spots (madeSpots found)
    else throw (.fault .notMarkupText)
  let test (s pattern flags : Chars) : Except Trouble Value := do
    let r ← compile pattern flags
    return .truth !(r.matches s).isEmpty
  match name, texts with
  | "test", [s, p] => test s p []
  | "test", [s, p, f] => test s p f
  | "match", [s, p] => pick s p []
  | "match", [s, p, f] => pick s p f
  | "replace", [s, p, f, t] => do
      let r ← compile p f
      let whole := r.segments s
      let segments : Pattern.Segments :=
        if f.contains 'g' then whole
        else match whole.pieces with
          | (gap, m) :: _ => ⟨[(gap, m)], s.drop m.stop⟩
          | [] => whole
      let expand ← lift ((Replacement.template t).prepare r)
      return .text (← lift (segments.substituteM expand))
  | "test", _ | "match", _ | "replace", _ => .error (.fault .wrongType)
  | _, _ => .error (.reason .unknownFunction)

/-- Calls a function by its name and prefix. -/
def call (label : Option Chars) (name : Chars) (c : Context) (arguments : List Value) :
    Except Trouble Value :=
  match label with
  | none => callCore (String.ofList name) c arguments
  | some l =>
      match c.space? l with
      | none => .error (.reason .undefinedLabel)
      | some u =>
          if u == regularSpace then callRegular (String.ofList name) arguments
          else .error (.reason .unknownFunction)

end MarkupQuery.Query
