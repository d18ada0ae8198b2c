import MarkupQuery.Text.Blank
import MarkupQuery.Kind

/-!
# Diagnostics

What a parser reports about markup: warnings and errors, each with the line where it was noticed.
Lines are counted from one and end with a line feed. The parse options decide which levels are
reported at all; what is parsed does not depend on them.
-/

namespace MarkupQuery

open MarkupQuery.Text

/-- How serious a diagnostic is. -/
inductive Severity where
  | warning
  | error
  deriving DecidableEq, Repr

/-- A diagnostic, placed by what was still unread when it was made. -/
structure Notice where
  severity : Severity
  unread : Chars
  message : String
  deriving DecidableEq, Repr

/-- The line that a place is on, given the whole text and what follows the place. -/
def lineAt (text unread : Chars) : Nat := text.count '\n' - unread.count '\n' + 1

/-- The line on which a notice was made. -/
def Notice.line (n : Notice) (text : Chars) : Nat := lineAt text n.unread

/-- Whether options let diagnostics of some severity through. -/
def Severity.isReported (s : Severity) (o : Options) : Bool :=
  match s with
  | .warning => !Options.has o .noWarning
  | .error => !Options.has o .noError

/-- The word for a severity in a log. -/
def Severity.word : Severity → String
  | .warning => "WARNING"
  | .error => "ERROR"

/-- A line of the log. -/
structure LogLine where
  level : String
  message : String
  deriving DecidableEq, Repr, Inhabited

/-- The log lines of the notices made while a text was parsed. -/
def reportNotices (o : Options) (text : Chars) (notices : List Notice) : List LogLine :=
  (notices.filter fun n => n.severity.isReported o).map fun n =>
    ⟨n.severity.word, s!"line {n.line text}: {n.message}"⟩

end MarkupQuery
