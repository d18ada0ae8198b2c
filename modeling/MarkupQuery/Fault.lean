import MarkupQuery.Kind
import MarkupQuery.Pattern.Template

/-!
# Faults

Everything that can go wrong, by cause. `Fault.message` is the wording of each; `Fault.rejects` tells
which faults refuse an argument, as opposed to failures of a document or of the data it is given.
-/

namespace MarkupQuery

open MarkupQuery.Text

/-- The ways in which configuration text can fail to be read. -/
inductive YamlFault where
  /-- Characters that form no token. -/
  | scanner
  /-- Tokens that form no structure. -/
  | parser
  /-- References between parts that do not fit. -/
  | composer
  /-- Values that cannot be built. -/
  | constructor
  /-- Characters that are not allowed at all. -/
  | reader
  deriving DecidableEq, Repr

/-- What went wrong. -/
inductive Fault where
  /-- There is no markup to parse. -/
  | emptyMarkup
  /-- A value is no kind of document. -/
  | unknownKind (value : Datum)
  /-- A value is no set of options. -/
  | badOptions (value : Datum)
  /-- A value is no translator. -/
  | badTranslator (value : Datum)
  /-- No translator has this name. -/
  | unknownTranslator (name : String)
  /-- A pattern has no group of this number. -/
  | noGroup (pattern : Chars) (index : Int)
  /-- A value selects nothing in a match. -/
  | badMatchSelector
  /-- A text is no pattern. -/
  | badPattern (pattern : Chars) (reason : String)
  /-- A replacement cannot be used. -/
  | badReplacement (shown : String) (reason : String)
  /-- The selector language refuses a selector. -/
  | badSelector (selector : String) (reason : String)
  /-- The query engine refuses a query. -/
  | badQuery (query : String) (reason : String)
  /-- Keys and values do not pair up. -/
  | unpaired (keys values : Nat)
  /-- A handle outlived the tree it was taken from. -/
  | stale (taken current : Nat)
  /-- Rewriting a document left nothing that parses. -/
  | unparsable (pattern : Chars) (kind : Kind)
  /-- A pattern or template is wrong, without further context. -/
  | pattern (error : Pattern.PatternError)
  /-- A template names a group that does not exist. -/
  | unknownGroupName (name : String)
  /-- A group number is out of range. -/
  | noSuchGroup
  /-- A text is no integer. -/
  | badInteger (text : String)
  /-- A text is no integer in some base. -/
  | badDigits (base : Nat) (text : String)
  /-- A text is no decimal number. -/
  | badDecimal (text : String)
  /-- A number stands for no character. -/
  | noSuchCharacter
  /-- A part of a date is out of range. -/
  | badDate (reason : String)
  /-- A text has no first character. -/
  | noFirstCharacter
  /-- A word is none of those known. -/
  | unknownWord (word : String)
  /-- A text cannot stand in a document. -/
  | notMarkupText
  /-- An item of a list of pairs is no pair. -/
  | badPair (index length : Nat)
  /-- An option has no meaning. -/
  | unknownOption (value : Datum)
  /-- A configuration is no mapping. -/
  | configNotMapping (value : Datum)
  /-- A configuration has settings of unknown names. -/
  | unknownSettings (names : List String)
  /-- The options of a configuration are no list. -/
  | optionsNotList
  /-- The namespaces of a configuration are no mapping. -/
  | namespacesNotMapping
  /-- A file does not exist. -/
  | fileNotFound (path : String)
  /-- A path leads to a directory. -/
  | isDirectory (path : String)
  /-- A part of a path is no directory. -/
  | notDirectory (path : String)
  /-- A file stands where a folder is needed. -/
  | fileExists (path : String)
  /-- A path holds a null character. -/
  | nullInPath
  /-- Bytes are no text in the expected encoding. -/
  | undecodable (reason : String)
  /-- Configuration text cannot be read. -/
  | yaml (cause : YamlFault)
  /-- A value of another type was expected. -/
  | wrongType
  /-- A value lacks an operation. -/
  | missingOperation
  /-- A number is too large. -/
  | overflow
  /-- A number in a pattern has too many digits. -/
  | tooManyDigits (count : Nat)
  /-- The flags of a pattern ask for two kinds of characters. -/
  | mixedFlags
  /-- A closing tag closes nothing. -/
  | unmatchedTag
  /-- A field of an item projection is malformed. -/
  | badField (raw : String)
  deriving Inhabited

/-- The wording of a fault. Causes that are reported by their kind only have none. -/
def Fault.message : Fault → String
  | .emptyMarkup => "Expect not empty string"
  | .unknownKind v => s!"Doc type not valid, use xml or html (got {v.shown})"
  | .badOptions v => s!"Expect int options, got {v.shown}"
  | .badTranslator v => s!"Expect an ExpressionTranslator, got {v.shown}"
  | .unknownTranslator n =>
      s!"Unknown translator {quotedString n}; expected xpath, css or shorthand"
  | .noGroup p i => s!"Pattern {quotedString (String.ofList p)} has no group {i}"
  | .badMatchSelector => "Invalid argument. Expect integer or callable"
  | .badPattern p r => s!"Invalid pattern {quotedString (String.ofList p)}: {r}"
  | .badReplacement shown r => s!"Invalid replacement {shown}: {r}"
  | .badSelector s r => s!"Invalid expression {quotedString s}: {r}"
  | .badQuery q r => s!"Invalid expression {quotedString q}: {r}"
  | .unpaired k v => s!"Keys and values must have equal numbers of elements ({k} != {v})"
  | .stale taken current =>
      s!"Node handle from epoch {taken} used after the document moved to epoch {current}"
  | .unparsable p k =>
      s!"Replacing {quotedString (String.ofList p)} left markup that does not parse as {k.name}"
  | .pattern e => e.message
  | .unknownGroupName n => s!"unknown group name {quotedString n}"
  | .noSuchGroup => "no such group"
  | .badInteger t => s!"invalid literal for int() with base 10: {quotedString t}"
  | .badDigits base t => s!"invalid literal for int() with base {base}: {quotedString t}"
  | .badDecimal t => s!"could not convert string to float: {quotedString t}"
  | .noSuchCharacter => "chr() arg not in range(0x110000)"
  | .badDate reason => reason
  | .noFirstCharacter => "string index out of range"
  | .unknownWord w => quotedString w
  | .notMarkupText =>
      "All strings must be XML compatible: Unicode or ASCII, no NULL bytes or control characters"
  | .badPair i n =>
      s!"dictionary update sequence element #{i} has length {n}; 2 is required"
  | .unknownOption v => s!"Unknown parse option {v.shown}"
  | .configNotMapping v => s!"Config root must be a mapping, got <class '" ++ v.typeName ++ "'>"
  | .unknownSettings names => "Unknown config keys: " ++ String.intercalate ", " names
  | .optionsNotList => "'options' must be a list"
  | .namespacesNotMapping => "'namespaces' must be a mapping"
  | .fileNotFound p => p
  | .isDirectory p => p
  | .notDirectory p => p
  | .fileExists p => p
  | .nullInPath => "embedded null byte"
  | .undecodable r => r
  | .yaml _ => ""
  | .wrongType => ""
  | .missingOperation => ""
  | .overflow => ""
  | .tooManyDigits n =>
      s!"Exceeds the limit ({Pattern.digitLimit} digits) for integer string conversion: " ++
        s!"value has {n} digits; use sys.set_int_max_str_digits() to increase the limit"
  | .mixedFlags => "ASCII and UNICODE flags are incompatible"
  | .unmatchedTag => ""
  | .badField raw => s!"Field must look like NAME=SELECTOR, got {quotedString raw}"

/-- Whether a fault refuses an argument before any work is done. -/
def Fault.rejects : Fault → Bool
  | .emptyMarkup | .unknownKind _ | .badOptions _ | .badTranslator _ | .unknownTranslator _
  | .noGroup .. | .badMatchSelector | .badPattern .. | .badReplacement .. | .badSelector ..
  | .badQuery .. => true
  | _ => false

/-- Whether a fault is one that a program reports to its user instead of stopping: a refused
argument, a failure of a document, or a value without meaning. -/
def Fault.isReported : Fault → Bool
  | .unpaired .. | .stale .. | .unparsable .. | .badInteger _ | .badDigits .. | .badDecimal _
  | .noSuchCharacter | .badDate _ | .nullInPath | .notMarkupText | .badPair .. | .unknownOption _
  | .configNotMapping _ | .unknownSettings _ | .optionsNotList | .namespacesNotMapping
  | .undecodable _ | .tooManyDigits _ | .mixedFlags => true
  | f => f.rejects

end MarkupQuery
