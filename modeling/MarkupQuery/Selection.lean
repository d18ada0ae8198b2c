import MarkupQuery.Fault

/-!
# Choosing from matches, and replacing them

What a search keeps of every match is chosen by a group number or by a function; what a rewrite puts
in place of a match is a template or a function. Groups that took no part, and functions that give
nothing, contribute nothing.
-/

namespace MarkupQuery

open MarkupQuery.Text
open MarkupQuery.Pattern (Regex Match)

/-! ## Functions on matches -/

/-- What a function makes of a match. -/
inductive Produced where
  | nothing
  | text (s : Chars)
  | number (i : Int)
  deriving DecidableEq, Repr

/-- A function on matches, which may fail. -/
abbrev MatchFunction := Match → Except Fault Produced

/-! ## Patterns from text -/

/-- A pattern that is given by its text or ready for use. -/
inductive PatternSource where
  | text (s : Chars)
  | compiled (r : Regex)
  /-- A value of another type. -/
  | other
  deriving Inhabited

/-- A pattern as it was written under flags, reported without context when it is wrong. -/
def compileWith (flags : Pattern.Flags) (s : Chars) : Except Fault Regex :=
  match Regex.read s flags with
  | .ok r => .ok r
  | .error (.malformed e) => .error (.pattern e)
  | .error .tooManyRepeats => .error .overflow
  | .error (.tooManyDigits n) => .error (.tooManyDigits n)
  | .error .mixedFlags => .error .mixedFlags

/-- The pattern that a source stands for. -/
def PatternSource.compile : PatternSource → Except Fault Regex
  | .compiled r => .ok r
  | .other => .error .wrongType
  | .text s =>
      match Regex.read s {} with
      | .ok r => .ok r
      | .error (.malformed e) => .error (.badPattern s e.message)
      | .error .tooManyRepeats => .error .overflow
      | .error (.tooManyDigits n) => .error (.tooManyDigits n)
      | .error .mixedFlags => .error .mixedFlags

/-! ## Choosing -/

/-- What is kept of a match. -/
inductive MatchSelector where
  /-- The text of a group. -/
  | group (index : Int)
  /-- What a function makes of the match. -/
  | transform (f : MatchFunction)

/-- A value offered as a choice. -/
inductive SelectorArgument where
  | selector (s : MatchSelector)
  | function (f : MatchFunction)
  | value (v : Datum)

/-- The choice that a value stands for. -/
def SelectorArgument.resolve : SelectorArgument → Except Fault MatchSelector
  | .selector s => .ok s
  | .function f => .ok (.transform f)
  | .value (.int i) => .ok (.group i)
  | .value _ => .error .badMatchSelector

/-- Refuses group numbers that a pattern does not have. -/
def MatchSelector.check (s : MatchSelector) (r : Regex) : Except Fault Unit :=
  match s with
  | .group i => if i < 0 || (r.groups : Int) < i then .error (.noGroup r.source i) else .ok ()
  | .transform _ => .ok ()

/-- What a choice keeps of a match. -/
def MatchSelector.extract (s : MatchSelector) (m : Match) : Except Fault (Option Chars) :=
  match s with
  | .group i => .ok (m.group i.toNat)
  | .transform f => do
      match ← f m with
      | .nothing => return none
      | .text t => return some t
      | .number i => return some (toString i).toList

/-- What a choice keeps of all matches in some texts, in order. -/
def selectMatches (p : PatternSource) (s : MatchSelector) (texts : List Chars) :
    Except Fault (List Chars) := do
  let r ← p.compile
  s.check r
  let kept ← (texts.flatMap r.matches).mapM s.extract
  return kept.filterMap id

/-! ## Replacing -/

/-- What takes the place of a match. -/
inductive Replacement where
  | template (t : Chars)
  | function (f : MatchFunction)
  /-- A value that cannot replace anything; its text is kept for messages. -/
  | other (shown : String)

/-- The text of a replacement in messages. -/
def Replacement.shown : Replacement → String
  | .template t => String.ofList (quoted t)
  | .function _ => "<function>"
  | .other s => s

/-- A replacement made ready for a pattern: a function from matches to texts. -/
def Replacement.prepare (replacement : Replacement) (r : Regex) :
    Except Fault (Match → Except Fault Chars) :=
  match replacement with
  | .template t =>
      match Pattern.readTemplate r.groups r.names t with
      | .ok parts => .ok fun m => .ok (Pattern.expand parts m)
      | .error (.malformed e) => .error (.pattern e)
      | .error (.unknownName n) => .error (.unknownGroupName n)
  | .function f => .ok fun m => do
      match ← f m with
      | .nothing => return []
      | .text t => return t
      | .number _ => throw .wrongType
  | .other _ => .error .wrongType

/-- A text with every match of a pattern replaced. -/
def substitute (r : Regex) (replacement : Replacement) (text : Chars) : Except Fault Chars := do
  let f ← replacement.prepare r
  (r.segments text).substituteM f

/-- The function that expands a template on each match. -/
def expandFunction (template : Chars) : MatchFunction := fun m =>
  match Pattern.readTemplate m.groups.length m.names template with
  | .ok parts => .ok (.text (Pattern.expand parts m))
  | .error (.malformed e) => .error (.pattern e)
  | .error (.unknownName n) => .error (.unknownGroupName n)

end MarkupQuery
