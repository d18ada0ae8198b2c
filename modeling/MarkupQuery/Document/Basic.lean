import MarkupQuery.Document.Found
import MarkupQuery.Translator
import MarkupQuery.Encoding.Detection

/-!
# Documents

A document has a kind, parse options, a translator, namespaces, and, unless it is empty, a root with a
query context. The context remembers the root and the namespaces that it was made for. Whenever the tree
is replaced the epoch goes up. Trees that are no longer installed are kept, because handles may still
name their nodes.
-/

namespace MarkupQuery

open MarkupQuery.Text MarkupQuery.Tree MarkupQuery.Query

/-! ## Documents and outcomes -/

/-- What queries are asked in. -/
structure QueryContext where
  /-- The element that queries start from. -/
  root : NodeId
  /-- The prefixes that queries may use. -/
  spaces : List (Chars × Chars)
  deriving DecidableEq, Repr

/-- A document. -/
structure Document where
  kind : Kind
  options : Options
  translator : Translator
  /-- Prefixes and namespaces as they were given. -/
  namespaces : List (Datum × Datum)
  /-- All trees, installed or not. -/
  trees : List Forest
  root : Option NodeId
  context : Option QueryContext
  epoch : Nat
  /-- The next free id. -/
  nextId : NodeId
  deriving Inhabited

/-- What an operation gives, the document after it, and what it logged. -/
structure Outcome (α : Type) where
  result : Except Fault α
  document : Document
  log : List LogLine := []

/-- An outcome that only gives something. -/
def Document.giving {α : Type} (d : Document) (r : Except Fault α) : Outcome α := ⟨r, d, []⟩

/-- Whether a document has no root. -/
def Document.isEmpty (d : Document) : Bool := d.root.isNone

/-- The text of a document in messages. -/
def Document.shown (d : Document) : String :=
  let empty := if d.isEmpty then "True" else "False"
  s!"<Document kind={d.kind.name} epoch={d.epoch} empty={empty}>"

/-! ## Finding nodes -/

/-- The spot of a node in a tree. -/
def spotIn (f : Forest) (i : NodeId) : Option Spot :=
  (Spot.top f).descendants.find? fun s =>
    match s.target with
    | .node n => n.id? == some i
    | _ => false

/-- The spot of a node. -/
def Document.spot? (d : Document) (i : NodeId) : Option Spot := d.trees.findSome? fun f => spotIn f i

/-- The spot of the root. -/
def Document.rootSpot? (d : Document) : Option Spot := d.root.bind d.spot?

/-- The markup of a document. -/
def Document.markup (d : Document) : Chars :=
  match d.rootSpot? with
  | some s => (Found.spot s).outer d.kind
  | none => []

/-! ## Namespaces -/

/-- A text that may stand in a query context. -/
def contextText (v : Datum) : Except Fault Chars :=
  match v with
  | .text s => if isMarkupText s.toList then .ok s.toList else .error .notMarkupText
  | _ => .error .wrongType

/-- A prefix and a namespace as texts that may stand in a query context. -/
def contextPair (label name : Datum) : Except Fault (Chars × Chars) := do
  return (← contextText label, ← contextText name)

/-- A prefix and a namespace of a new query context: neither may be missing. -/
def contextSpace (label name : Datum) : Except Fault (Chars × Chars) :=
  if !label.isTruthy || !name.isTruthy then .error .wrongType else contextPair label name

/-- The prefixes of a new query context. -/
def contextSpaces (namespaces : List (Datum × Datum)) : Except Fault (List (Chars × Chars)) :=
  namespaces.mapM fun s => contextSpace s.1 s.2

/-- Sets the value of a key: a new key goes last, an old one keeps its place. -/
def putPair (key value : Chars) : List (Chars × Chars) → List (Chars × Chars)
  | [] => [(key, value)]
  | (k, v) :: es => if k == key then (k, value) :: es else (k, v) :: putPair key value es

/-- The entries of a value that is given as a mapping: a mapping itself, or a list of pairs. -/
def mappingOf (v : Datum) : Except Fault (List (Datum × Datum)) :=
  let pair (i : Nat) (item : Datum) : Except Fault (Datum × Datum) :=
    let parts : Except Fault (List Datum) := match item with
      | .list xs | .tuple xs => .ok xs
      | .text s => .ok (s.toList.map fun c => .text c.toString)
      | .dict es => .ok (es.map (·.1))
      | _ => .error .wrongType
    match parts with
    | .ok [a, b] => if a.isKey then .ok (a, b) else .error .wrongType
    | .ok xs => .error (.badPair i xs.length)
    | .error f => .error f
  let pairs (items : List Datum) : Except Fault (List (Datum × Datum)) := do
    let all ← items.zipIdx.mapM fun (x, i) => pair i x
    return all.foldl (fun es e => Datum.put e.1 e.2 es) []
  if !v.isTruthy then .ok []
  else match v with
    | .dict es => .ok es
    | .list xs | .tuple xs | .set xs => pairs xs
    | .text s => pairs (s.toList.map fun c => .text c.toString)
    | _ => .error .wrongType

/-- A mapping is given as itself. -/
theorem mappingOf_dict (es : List (Datum × Datum)) : mappingOf (.dict es) = .ok es := by
  cases es with
  | nil => rfl
  | cons e es => rfl

/-! ## Installing trees -/

/-- Replaces the root together with its query context. If the namespaces allow no context, the root is
replaced and the context stays. -/
def Document.install (d : Document) (root : Option NodeId) : Outcome Unit :=
  let d := { d with root }
  match root with
  | none => ⟨.ok (), { d with context := none }, []⟩
  | some i =>
      match contextSpaces d.namespaces with
      | .ok spaces => ⟨.ok (), { d with context := some ⟨i, spaces⟩ }, []⟩
      | .error f => ⟨.error f, d, []⟩

/-- Takes in a parsed tree without installing it. -/
def Document.take (d : Document) (p : Parsed) : Document :=
  match p.tree with
  | some (f, _) => { d with trees := d.trees ++ [f], nextId := p.nextId }
  | none => d

/-- Releases the tree. -/
def Document.close (d : Document) : Document :=
  { d with root := none, context := none, epoch := d.epoch + 1 }

/-! ## Opening -/

/-- What is offered as markup. -/
inductive MarkupSource where
  | text (m : CodePoints)
  | bytes (bs : List UInt8)
  | other
  deriving Inhabited

/-- What is offered as a translator. -/
inductive TranslatorSource where
  | translator (t : Translator)
  | value (v : Datum)
  deriving Inhabited

/-- The translator that is offered. -/
def TranslatorSource.resolve : TranslatorSource → Except Fault Translator
  | .translator t => .ok t
  | .value v => .error (.badTranslator v)

/-- What a document is opened with. -/
structure Opening where
  markup : MarkupSource
  kind : Datum := .int 0
  options : Datum := .int Options.default
  translator : Option TranslatorSource := none
  namespaces : Datum := .null

/-- Whether there is any markup. -/
def MarkupSource.isPresent : MarkupSource → Bool
  | .text m => !m.isEmpty
  | .bytes bs => !bs.isEmpty
  | .other => false

/-- The kind that a value stands for, or why it stands for none. -/
def Kind.ofDatum (v : Datum) : Except Fault Kind :=
  match Kind.ofDatum? v with
  | some k => .ok k
  | none => .error (.unknownKind v)

/-- The options that a value stands for, or why it stands for none. -/
def Options.ofDatum (v : Datum) : Except Fault Options :=
  match v with
  | .int i => .ok (Options.kept i)
  | v => .error (.badOptions v)

/-- The settings of a document that is opened, all checks made: a document without tree. -/
def Opening.settle (o : Opening) : Except Fault Document :=
  if !o.markup.isPresent then .error .emptyMarkup
  else do
    let kind ← Kind.ofDatum o.kind
    let options ← Options.ofDatum o.options
    let translator ← (o.translator.getD (.translator .path)).resolve
    let namespaces ← mappingOf o.namespaces
    return { kind, options, translator, namespaces, trees := [], root := none, context := none,
             epoch := 0, nextId := 1 }

/-- The text of markup; bytes are decoded. -/
def MarkupSource.read (m : MarkupSource) (kind : Kind) : CodePoints :=
  match m with
  | .text m => m
  | .bytes bs => codePoints (Encoding.decode bs kind).toList
  | .other => []

/-- Opens a document: the document, or why it cannot be opened, and what was logged. -/
def Opening.run (o : Opening) : Except Fault Document × List LogLine :=
  match o.settle with
  | .error f => (.error f, [])
  | .ok d =>
      let p := parseMarkup d.kind d.options d.nextId (o.markup.read d.kind)
      let out := (d.take p).install (p.tree.map (·.2))
      match out.result with
      | .ok _ => (.ok out.document, p.log)
      | .error f => (.error f, p.log)

/-! ## Settings -/

/-- Changes the translator. -/
def Document.setTranslator (d : Document) (t : TranslatorSource) : Outcome Unit :=
  match t.resolve with
  | .ok t => ⟨.ok (), { d with translator := t }, []⟩
  | .error f => ⟨.error f, d, []⟩

/-- Makes a prefix usable. The document remembers it even if its query context refuses it. -/
def Document.registerNamespace (d : Document) (label name : Datum) : Outcome Unit :=
  if !label.isKey then ⟨.error .wrongType, d, []⟩
  else
    let d := { d with namespaces := Datum.put label name d.namespaces }
    match d.context with
    | none => ⟨.ok (), d, []⟩
    | some c =>
        match contextPair label name with
        | .ok (l, n) =>
            let spaces := putPair l n c.spaces
            ⟨.ok (), { d with context := some { c with spaces } }, []⟩
        | .error f => ⟨.error f, d, []⟩

end MarkupQuery
