import MarkupQuery.Storage.Files
import MarkupQuery.Encoding.Flaw
import MarkupQuery.Yaml.Value
import MarkupQuery.Yaml.Writer
import MarkupQuery.Document.Basic

/-!
# Configurations

A configuration holds the defaults that documents are opened with: their kind, their parse options, a
translator and namespaces. It is kept as it was written, and read where it is used. Loading refuses
settings of unknown names and values without meaning; what is left out takes its default.
-/

namespace MarkupQuery

open MarkupQuery.Text MarkupQuery.Storage

/-! ## Settings -/

/-- The settings of a configuration, as they were written. -/
structure Config where
  kind : Datum
  options : Datum
  translator : Datum
  namespaces : Datum
  deriving Inhabited

/-- The settings that apply when nothing is configured. -/
def Config.default : Config where
  kind := .text "html"
  options := .list [.text "NOWARNING", .text "NOERROR", .text "NOCDATA"]
  translator := .text "xpath"
  namespaces := .dict []

/-- The names of the settings, in the order in which they are written. -/
def Config.names : List String := ["kind", "options", "translator", "namespaces"]

/-- Whether two configurations are equal. -/
def Config.same (a b : Config) : Bool :=
  a.kind.same b.kind && a.options.same b.options && a.translator.same b.translator &&
    a.namespaces.same b.namespaces

/-- The settings with their names. -/
def Config.entries (c : Config) : List (Datum × Datum) :=
  [(.text "kind", c.kind), (.text "options", c.options), (.text "translator", c.translator),
    (.text "namespaces", c.namespaces)]

/-- The configuration that names with values give; other settings have their defaults. -/
def Config.ofEntries (es : List (Datum × Datum)) : Config where
  kind := (Datum.get? "kind" es).getD Config.default.kind
  options := (Datum.get? "options" es).getD Config.default.options
  translator := (Datum.get? "translator" es).getD Config.default.translator
  namespaces := (Datum.get? "namespaces" es).getD Config.default.namespaces

/-! ## Meaning -/

/-- The kind of documents. -/
def Config.documentKind (c : Config) : Except Fault Kind :=
  match Kind.ofDatum? c.kind with
  | some k => .ok k
  | none => .error (.unknownKind c.kind)

/-- The option that a value names, in any case and with blanks around it. -/
def optionOf (v : Datum) : Except Fault ParseOption :=
  match ParseOption.ofName? (upperString (trimString v.plain)) with
  | some p => .ok p
  | none => .error (.unknownOption v)

/-- The values that a collection goes through; nothing else can be gone through. -/
def itemsOfDatum : Datum → Except Fault (List Datum)
  | .list xs | .tuple xs | .set xs => .ok xs
  | .dict es => .ok (es.map (·.1))
  | .text s => .ok (s.toList.map fun c => .text c.toString)
  | _ => .error .wrongType

/-- The parse options. -/
def Config.parseOptions (c : Config) : Except Fault Nat := do
  let items ← itemsOfDatum c.options
  let found ← items.mapM optionOf
  return found.foldl Options.set 0

/-- The translator. -/
def Config.buildTranslator (c : Config) : Except Fault Translator := do
  Translator.ofDatum c.translator (← c.documentKind)

/-- What a document is opened with under a configuration. -/
def Config.opening (c : Config) (markup : MarkupSource) : Except Fault Opening := do
  let kind ← c.documentKind
  let options ← c.parseOptions
  let translator ← c.buildTranslator
  return { markup, translator := some (.translator translator), namespaces := c.namespaces
           kind := .int (if kind == .html then 0 else 1), options := .int options }

/-! ## Loading -/

/-- Whether a key is the name of a setting. -/
def isSettingName : Datum → Bool
  | .text k => Config.names.contains k
  | _ => false

/-- The text of a key. -/
def keyText : Datum → Except Fault String
  | .text k => .ok k
  | _ => .error .wrongType

/-- Refuses keys that are no names of settings; all of them are listed in order. -/
def checkNames (es : List (Datum × Datum)) : Except Fault Unit :=
  let unknown := es.filter fun e => !isSettingName e.1
  if unknown.isEmpty then .ok ()
  else do
    let names ← unknown.mapM fun e => keyText e.1
    throw (.unknownSettings (names.mergeSort fun a b => decide (a ≤ b)))

/-- Refuses options that are no list. -/
def checkOptions (es : List (Datum × Datum)) : Except Fault Unit :=
  match Datum.get? "options" es with
  | none | some .null | some (.list _) => .ok ()
  | some _ => .error .optionsNotList

/-- Refuses namespaces that are no mapping, unless nothing is in them. -/
def checkNamespaces (es : List (Datum × Datum)) : Except Fault Unit :=
  match Datum.get? "namespaces" es with
  | none | some (.dict _) => .ok ()
  | some v => if v.isTruthy then .error .namespacesNotMapping else .ok ()

/-- Whether a value sets anything. -/
def Datum.isGiven : Datum → Bool
  | .null => false
  | _ => true

/-- The entries that set something. -/
def givenEntries (es : List (Datum × Datum)) : List (Datum × Datum) := es.filter fun e => e.2.isGiven

/-- The settings in the value of a configuration text. -/
def Config.ofDatum (v : Datum) : Except Fault Config := do
  let es ← match v with
    | .dict es => pure es
    | v => throw (.configNotMapping v)
  checkNames es
  checkOptions es
  checkNamespaces es
  let config := Config.ofEntries (givenEntries es)
  let _ ← config.parseOptions
  let _ ← config.buildTranslator
  return config

/-- The configuration in a text. A text without a value is an empty configuration. -/
def Config.ofText (text : Chars) : Except Fault Config := do
  let v := (← Yaml.read text).getD .null
  Config.ofDatum (if v.isTruthy then v else .dict [])

/-- The configuration in a file. -/
def Config.load (s : Files) (path : Path) : Except Fault Config := do
  if !s.contains path then throw (.fileNotFound path.text)
  match Encoding.readUtf8 (← s.read path) with
  | .ok text => Config.ofText text.toList
  | .error reason => throw (.undecodable reason)

/-! ## Saving -/

/-- The text of a configuration. -/
def Config.text (c : Config) : Chars := Yaml.write c.entries

/-- Writes a configuration to a file. -/
def Config.save (c : Config) (s : Files) (path : Path) : Except Fault Files :=
  s.write path (Encoding.utf8Bytes (String.ofList c.text))

end MarkupQuery
