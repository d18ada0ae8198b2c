import MarkupQuery.Command.Arguments

/-!
# The commands

What the commands take, and the pages that describe them.
-/

namespace MarkupQuery.Command

/-- The name under which the tool is called. -/
def toolName : String := "element-finder"

/-- The commands. -/
inductive Action where
  /-- Prints what a selector finds. -/
  | query
  /-- Prints a table with a record for everything that a selector finds. -/
  | items
  /-- Prints the matches of a pattern. -/
  | match_
  /-- Writes a configuration to start from. -/
  | initConfig
  deriving DecidableEq, Repr

/-- The commands in the order in which they are listed. -/
def Action.all : List Action := [.query, .items, .match_, .initConfig]

/-- The word for a command. -/
def Action.word : Action → String
  | .query => "query"
  | .items => "items"
  | .match_ => "match"
  | .initConfig => "init-config"

/-- The command that a word stands for. -/
def Action.ofWord? (w : String) : Option Action := Action.all.find? fun a => a.word == w

/-- Every command has a word of its own. -/
theorem Action.ofWord?_word (a : Action) : Action.ofWord? a.word = some a := by
  cases a <;> decide

/-! ## What they take -/

/-- The argument that asks for help. -/
def helpArgument : Argument := { name := "help", flags := ["-h", "--help"], takes := .nothing }

/-- The argument that tells the kind of a document. -/
def kindArgument : Argument :=
  { name := "kind", flags := ["--kind", "-k"], choices := ["html", "xml"] }

/-- The arguments of all commands that read a document. -/
def documentArguments : Grammar :=
  [{ name := "path", required := true }, kindArgument,
    { name := "config", flags := ["--config", "-c"] }]

/-- The argument that makes selectors style selectors. -/
def cssArgument : Argument := { name := "css", flags := ["--css"], takes := .nothing }

/-- What is extracted from what a selector finds. -/
def modes : List String := ["html", "outer", "text", "attr"]

/-- The arguments of a command. -/
def Action.grammar : Action → Grammar
  | .query => helpArgument :: documentArguments ++
      [{ name := "selector", required := true },
        { name := "mode", flags := ["--mode", "-m"], choices := modes }, cssArgument]
  | .items => helpArgument :: documentArguments ++
      [{ name := "base", required := true },
        { name := "field", flags := ["--field", "-f"], required := true }, cssArgument]
  | .match_ => helpArgument :: documentArguments ++
      [{ name := "pattern", required := true },
        { name := "group", flags := ["--group", "-g"], isInteger := true }]
  | .initConfig =>
      [helpArgument, { name := "path", flags := ["--path", "-p"] }, kindArgument]

/-- The arguments of the tool: its own flags, a command, and the words for it. -/
def toolGrammar : Grammar :=
  [helpArgument, { name := "verbose", flags := ["--verbose", "-v"], takes := .nothing },
    { name := "command", takes := .rest, choices := Action.all.map Action.word, required := true }]

/-! ## Pages -/

/-- Lines of a page. -/
def page (lines : List String) : String := String.join (lines.map (· ++ "\n"))

/-- The lines about the kind and the configuration. -/
def documentLines : List String :=
  ["  -h, --help            show this help message and exit",
    "  --kind \x7bhtml,xml\x7d, -k \x7bhtml,xml\x7d",
    "                        Document kind (overrides the config)",
    "  --config CONFIG, -c CONFIG",
    "                        YAML config with kind, options and translator"]

/-- The page about a command. -/
def Action.help : Action → String
  | .query => page (
      ["usage: element-finder query [-h] [--kind \x7bhtml,xml\x7d] [--config CONFIG]",
        "                            [--mode \x7bhtml,outer,text,attr\x7d] [--css]",
        "                            path selector", "", "positional arguments:",
        "  path                  Markup file to read, or '-' for stdin",
        "  selector              Selector, XPath unless --css or the config says",
        "                        otherwise", "", "options:"] ++ documentLines ++
      ["  --mode \x7bhtml,outer,text,attr\x7d, -m \x7bhtml,outer,text,attr\x7d",
        "                        What to extract from each match",
        "  --css                 Treat the selector as CSS"])
  | .items => page (
      ["usage: element-finder items [-h] [--kind \x7bhtml,xml\x7d] [--config CONFIG] --field",
        "                            FIELD [--css]",
        "                            path base", "", "positional arguments:",
        "  path                  Markup file to read, or '-' for stdin",
        "  base                  Selector for the repeated element", "", "options:"] ++
      documentLines ++
      ["  --field FIELD, -f FIELD",
        "                        NAME=SELECTOR evaluated inside each item (repeatable)",
        "  --css                 Treat selectors as CSS"])
  | .match_ => page (
      ["usage: element-finder match [-h] [--kind \x7bhtml,xml\x7d] [--config CONFIG]",
        "                            [--group GROUP]",
        "                            path pattern", "", "positional arguments:",
        "  path                  Markup file to read, or '-' for stdin",
        "  pattern               Python regular expression", "", "options:"] ++ documentLines ++
      ["  --group GROUP, -g GROUP", "                        Capture group to print"])
  | .initConfig => page [
      "usage: element-finder init-config [-h] [--path PATH] [--kind \x7bhtml,xml\x7d]", "", "options:",
      "  -h, --help            show this help message and exit",
      "  --path PATH, -p PATH  Where to create the file",
      "  --kind \x7bhtml,xml\x7d, -k \x7bhtml,xml\x7d",
      "                        Default document kind"]

/-- The page about the tool. -/
def toolHelp : String := page [
  "usage: element-finder [-h] [--verbose] \x7bquery,items,match,init-config\x7d ...", "",
  "Query and extract content from HTML or XML documents", "", "positional arguments:",
  "  \x7bquery,items,match,init-config\x7d",
  "    query               Print the results of a selector",
  "    items               Extract one record per repeated element",
  "    match               Run a regular expression over the document",
  "    init-config         Create a starter YAML config", "", "options:",
  "  -h, --help            show this help message and exit",
  "  --verbose, -v         Log parser diagnostics and debug output"]

end MarkupQuery.Command
