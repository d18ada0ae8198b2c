import MarkupQuery.Datum
import MarkupQuery.Text.LetterCase

/-!
# Document kinds and parse options

A document is HTML or XML. Seven options, written as bits of one number, say how it is parsed and
what is reported about it.
-/

namespace MarkupQuery

open MarkupQuery.Text

/-! ## Kinds -/

/-- The kinds of documents. -/
inductive Kind where
  | html
  | xml
  deriving DecidableEq, Repr, Inhabited

/-- The name of a kind. -/
def Kind.name : Kind → String
  | .html => "HTML"
  | .xml => "XML"

/-- The kind with a given name, in any case and with blanks around it. -/
def Kind.ofName? (s : String) : Option Kind :=
  match upperString (trimString s) with
  | "HTML" => some .html
  | "XML" => some .xml
  | _ => none

/-- The kind that a value stands for: its name, or its number. -/
def Kind.ofDatum? : Datum → Option Kind
  | .text s => Kind.ofName? s
  | .int 0 => some .html
  | .int 1 => some .xml
  | _ => none

/-- Every kind is found under its name. -/
theorem Kind.ofDatum?_zero_one : Kind.ofDatum? (.int 0) = some .html ∧
    Kind.ofDatum? (.int 1) = some .xml := ⟨rfl, rfl⟩

/-! ## Options -/

/-- The parse options. -/
inductive ParseOption where
  /-- Warnings are not reported. -/
  | noWarning
  /-- Errors are not reported. -/
  | noError
  /-- Character data sections become plain text. -/
  | noCData
  /-- Blank text between elements is dropped. -/
  | noBlanks
  /-- Comments are dropped. -/
  | noComments
  /-- Short texts are kept compactly. -/
  | compact
  /-- Deep documents are allowed. -/
  | huge
  deriving DecidableEq, Repr

/-- The bit of an option. -/
def ParseOption.bit : ParseOption → Nat
  | .noWarning => 0
  | .noError => 1
  | .noCData => 2
  | .noBlanks => 3
  | .noComments => 4
  | .compact => 5
  | .huge => 6

/-- The option with a given name. -/
def ParseOption.ofName? : String → Option ParseOption
  | "NOWARNING" => some .noWarning
  | "NOERROR" => some .noError
  | "NOCDATA" => some .noCData
  | "NOBLANKS" => some .noBlanks
  | "NOCOMMENTS" => some .noComments
  | "COMPACT" => some .compact
  | "HUGE" => some .huge
  | _ => none

/-- A set of options: an integer whose bits are the options. A negative number has all high bits
set. -/
abbrev Options := Int

/-- Whether an option is set. -/
def Options.has (o : Options) (p : ParseOption) : Bool :=
  Int.fmod (Int.fdiv o (Nat.pow 2 p.bit)) 2 == 1

/-- Sets an option in a set given by bits. -/
def Options.set (o : Nat) (p : ParseOption) : Nat := o ||| Nat.pow 2 p.bit

/-- The options of a document when none are given: no diagnostics, no character data sections. -/
def Options.default : Options := 7

/-- The number that a set of options is kept as. A negative number stands for the complement of its
bits within the seven options, or within as many bits as it takes to write it. -/
def Options.kept (o : Int) : Options :=
  if -128 ≤ o then (if o < 0 then 128 + o else o)
  else (Nat.pow 2 (o.natAbs.log2 + 1)) + o

end MarkupQuery
