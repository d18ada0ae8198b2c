import MarkupQuery.Command.Manual
import MarkupQuery.Config
import MarkupQuery.Console.Table
import MarkupQuery.Document.Extraction
import MarkupQuery.Field

/-!
# Running commands

A command line is run on files and an input text. It prints a text, may write files, and ends with a
status: zero if all went well, one if the document, the configuration or a selector was refused, two if a
field is malformed. Faults that are not reported in this way stop the run.
-/

namespace MarkupQuery.Command

open MarkupQuery.Text MarkupQuery.Storage MarkupQuery.Console

/-! ## Runs -/

/-- How a run ends. -/
inductive Status where
  /-- The command ends by itself. -/
  | done (code : Nat)
  /-- The words are no command, or help was asked for. -/
  | refused (code : Nat)
  /-- A fault stops the command. -/
  | stopped (fault : Fault)

/-- What a run leaves. -/
structure Report where
  status : Status
  /-- What is printed. -/
  printed : Chars
  /-- The last line of complaints about the words. -/
  complaint : String
  files : Files

/-- The width of the console in cells. -/
def consoleWidth : Nat := 80

/-- What a command does: what it prints, unless a fault stops it, and the files after it. -/
structure Work where
  printed : Except Fault Chars
  files : Files

/-! ## Reading -/

/-- What a command is run on. -/
structure Surroundings where
  files : Files
  /-- The text that can be read in place of a file. -/
  input : Chars

/-- The markup under a name; a hyphen names the input. -/
def Surroundings.markup (s : Surroundings) (name : String) : Except Fault MarkupSource :=
  if name == "-" then .ok (.text (codePoints s.input))
  else (s.files.read (Path.ofText name)).map .bytes

/-- The configuration in the file that is asked for, or the usual one. -/
def Surroundings.chosenConfig (s : Surroundings) (given : List Given) : Except Fault Config :=
  match (lastWord? given "config").getD "" with
  | "" => .ok Config.default
  | name => Config.load s.files (Path.ofText name)

/-- The configuration of a command: the kind that is asked for counts more than the configured one. -/
def Surroundings.config (s : Surroundings) (given : List Given) : Except Fault Config :=
  (s.chosenConfig given).map fun c =>
    match lastWord? given "kind" with
    | some k => { c with kind := .text k }
    | none => c

/-- Whether an argument was given. -/
def isGiven (given : List Given) (name : String) : Bool := given.any (·.name == name)

/-- The document that a command works on. -/
def Surroundings.document (s : Surroundings) (given : List Given) : Except Fault Document := do
  let config ← s.config given
  let opening ← config.opening (← s.markup ((lastWord? given "path").getD ""))
  let d ← opening.run.1
  if isGiven given "css" then
    return { d with translator := .style (d.kind == .html) Translator.defaultLeading }
  else return d

/-! ## Commands -/

/-- What is printed if nothing was found. -/
def noMatches : Chars := looseText "No matches.".toList

/-- What the selector of a query finds, in the mode that is asked for. -/
def queryResults (d : Document) (given : List Given) : Except Fault (List Chars) :=
  let selector := (lastWord? given "selector").getD ""
  match lastWord? given "mode" with
  | some "text" => d.value selector
  | some "attr" => d.attribute selector
  | some "outer" => d.html selector true
  | _ => d.html selector false

/-- Texts as they are printed, each on lines of its own. -/
def printResults (results : List Chars) : Chars :=
  if results.isEmpty then noMatches else results.flatMap fun r => looseText (showPlain r)

/-- Prints what a selector finds. -/
def runQuery (s : Surroundings) (given : List Given) : Except Fault Chars := do
  let d ← s.document given
  return printResults (← queryResults d given)

/-- The columns of a table of records: their numbers, then the fields. Values are trimmed. -/
def recordColumns (names : List Chars) (records : List (List (String × Option Chars))) :
    List (Console.Alignment × List Chars) :=
  let value (r : List (String × Option Chars)) (name : Chars) : Chars :=
    escapeTags (trim (((r.lookup (String.ofList name)).bind id).getD []))
  (.right, ['#'] :: records.zipIdx.map fun r => (toString r.2).toList) ::
    names.map fun name => (.left, name :: records.map fun r => value r name)

/-- Prints a table of records. -/
def runItems (s : Surroundings) (given : List Given) : Except Fault Chars := do
  let d ← s.document given
  let fields ← readFields ((allWords given "field").map String.toList)
  let base := (lastWord? given "base").getD ""
  let records ← (d.records base (fields.map fun f => (String.ofList f.1, String.ofList f.2))).1
  if records.isEmpty then return looseText "No items found.".toList
  else
    showTable consoleWidth ("Items matching ".toList ++ escapeTags base.toList)
      (recordColumns (fields.map (·.1)) records)

/-- A number with at least two digits. -/
def twoDigits (n : Nat) : Chars :=
  let s := (toString n).toList
  List.replicate (2 - s.length) '0' ++ s

/-- Prints the matches of a pattern, numbered. -/
def runMatch (s : Surroundings) (given : List Given) : Except Fault Chars := do
  let d ← s.document given
  let group := ((lastWord? given "group").bind fun w => Number.readInt? w.toList).getD 1
  let pattern := ((lastWord? given "pattern").getD "").toList
  let found ← d.match_ (.text pattern) (.value (.int group))
  if found.isEmpty then return noMatches
  else
    return (found.zipIdx 1).flatMap fun (v, n) =>
      looseText (showPlain (twoDigits n ++ ['.', ' '] ++ v))

/-- The name of the file that a configuration is written to if none is given. -/
def defaultConfigName : String := "element_finder.yaml"

/-- Writes a configuration to start from, unless there is a file already. -/
def runInitConfig (s : Surroundings) (given : List Given) : Work :=
  let path := Path.ofText ((lastWord? given "path").getD defaultConfigName)
  let say (text : String) : Except Fault Chars := (showTagged text.toList).map looseText
  if s.files.contains path then
    ⟨say (path.text ++ " already exists. Skipping creation."), s.files⟩
  else
    let config := { Config.default with kind := .text ((lastWord? given "kind").getD "html") }
    match config.save s.files path with
    | .ok files => ⟨say ("Created starter config at " ++ path.text), files⟩
    | .error f => ⟨.error f, s.files⟩

/-- What a command prints and the files after it. -/
def Action.run (a : Action) (s : Surroundings) (given : List Given) : Work :=
  match a with
  | .query => ⟨runQuery s given, s.files⟩
  | .items => ⟨runItems s given, s.files⟩
  | .match_ => ⟨runMatch s given, s.files⟩
  | .initConfig => runInitConfig s given

/-! ## Faults -/

/-- The status and the wording with which a fault is reported, if it is. -/
def reportOf? (f : Fault) : Option (Nat × Chars) :=
  let message := escapeTags f.message.toList
  match f with
  | .fileNotFound _ => some (1, "[red]File not found:[/red] ".toList ++ message)
  | .badField _ => some (2, "[red]".toList ++ message ++ "[/red]".toList)
  | f => if f.isReported then some (1, "[red]Error:[/red] ".toList ++ message) else none

/-- The end of a run. -/
def finish (w : Work) : Report :=
  match w.printed with
  | .ok printed => ⟨.done 0, printed, "", w.files⟩
  | .error f =>
      match reportOf? f with
      | none => ⟨.stopped f, [], "", w.files⟩
      | some (code, text) =>
          match showTagged text with
          | .ok said => ⟨.done code, looseText said, "", w.files⟩
          | .error g => ⟨.stopped g, [], "", w.files⟩

/-! ## Command lines -/

/-- The last line of a text. -/
def lastLine (s : String) : String := String.ofList ((linesOf s.toList).getLastD [])

/-- Words that were refused. -/
structure Refused where
  /-- The tool or the command that refuses them. -/
  tool : String
  /-- The page about it. -/
  help : String
  reason : Refusal
  deriving DecidableEq

/-- The command that words name, with its arguments. -/
def readCommand (words : List String) : Except Refused (Action × List Given) :=
  match toolGrammar.read words with
  | .error r => .error ⟨toolName, toolHelp, r⟩
  | .ok m =>
      match allWords m.given "command" with
      | [] => .error ⟨toolName, toolHelp, .help⟩
      | name :: rest =>
          match Action.ofWord? name with
          | none => .error ⟨toolName, toolHelp, .help⟩
          | some a =>
              match a.grammar.read rest with
              | .error r => .error ⟨s!"{toolName} {a.word}", a.help, r⟩
              | .ok own =>
                  let extras := m.extras ++ own.extras
                  if extras.isEmpty then .ok (a, own.given)
                  else
                    let listed := String.intercalate " " extras
                    .error ⟨toolName, toolHelp, .wrong s!"unrecognized arguments: {listed}"⟩

/-- A run that ends because the words were refused. -/
def refuse (s : Surroundings) (r : Refused) : Report :=
  match r.reason with
  | .help => ⟨.refused 0, r.help.toList, "", s.files⟩
  | .wrong message => ⟨.refused 2, [], lastLine s!"{r.tool}: error: {message}", s.files⟩

/-- Runs a command line. -/
def run (s : Surroundings) (words : List String) : Report :=
  match readCommand words with
  | .error r => refuse s r
  | .ok (a, given) => finish (a.run s given)

/-- The names of files that words may mention: the words, what follows an equals sign or the letter of a
flag in them, and the file that a configuration is written to by itself. -/
def mentionedNames (words : List String) : List String :=
  let parts (w : String) : List String :=
    [w, String.ofList (w.toList.drop 2)] ++ ((cutAtEquals? w).map (·.2)).toList
  ((defaultConfigName :: words.flatMap parts).filter fun n => n != "" && n != "-").eraseDups

end MarkupQuery.Command
