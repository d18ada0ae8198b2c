import MarkupQuery.Proofs.Command.Words
import MarkupQuery.Proofs.Console.Printing
import MarkupQuery.Proofs.Document.Remarks

/-!
# Printing what a query finds

A query for a file, a selector and a mode extracts what the document that is opened for the file extracts
(`run_query`). It prints the results in order, each on lines of its own. They come out as they are if and only
if none of them has a tab, a control character that is not shown, or the name of a picture between colons
(`query_printed`).
-/

namespace MarkupQuery.Command

open MarkupQuery.Text MarkupQuery.Storage MarkupQuery.Console MarkupQuery.Query

variable {s : Surroundings} {given : List Given} {words : List String} {w path selector mode : String}
  {d : Document} {source : MarkupSource} {results : List Chars}

/-! ## Operands -/

/-- A word that the tool does not refuse and a command takes for no flag. -/
structure Action.IsOperand (a : Action) (w : String) : Prop where
  separates : w ≠ "--"
  allowed : ∃ f, toolGrammar.flagOf w = .ok f
  plain : a.grammar.flagOf w = .ok none

/-- Words without a hyphen at their start are operands of all commands. -/
theorem Action.isOperand_of_head_ne (a : Action) (h : w.toList.head? ≠ some '-') :
    a.IsOperand w := by
  have hflag (g : Grammar) : g.flagOf w = .ok none := if_pos (by simpa using h)
  refine ⟨?_, ⟨none, hflag toolGrammar⟩, hflag a.grammar⟩
  rintro rfl
  exact h (by decide)

theorem Action.isOperand_of_mem_modes (a : Action) (h : mode ∈ modes) : a.IsOperand mode := by
  have hmodes : ∀ mode ∈ modes, mode.toList.head? ≠ some '-' := by decide
  exact a.isOperand_of_head_ne (hmodes mode h)

/-! ## The words of a query -/

/-- What is given for a query. -/
def queryGiven (path selector mode : String) : List Given :=
  [⟨"path", [path]⟩, ⟨"selector", [selector]⟩, ⟨"mode", [mode]⟩]

theorem lastWord?_queryGiven (path selector mode : String) :
    lastWord? (queryGiven path selector mode) "path" = some path ∧
    lastWord? (queryGiven path selector mode) "selector" = some selector ∧
    lastWord? (queryGiven path selector mode) "mode" = some mode ∧
    lastWord? (queryGiven path selector mode) "kind" = none ∧
    lastWord? (queryGiven path selector mode) "config" = none ∧
    isGiven (queryGiven path selector mode) "css" = false :=
  ⟨rfl, rfl, rfl, rfl, rfl, rfl⟩

/-- The argument for the file of a query. -/
def pathArgument : Argument := { name := "path", required := true }

/-- The argument for the selector of a query. -/
def selectorArgument : Argument := { name := "selector", required := true }

/-- The argument for the mode of a query. -/
def modeArgument : Argument := { name := "mode", flags := ["--mode", "-m"], choices := modes }

/-- A query with a mode is read as it is meant. -/
theorem read_query (hpath : Action.query.IsOperand path)
    (hselector : Action.query.IsOperand selector) (hmode : mode ∈ modes) :
    Action.query.grammar.read [path, selector, "--mode", mode]
      = .ok { given := queryGiven path selector mode, met := ["path", "selector", "mode"] } := by
  have hplain := Action.query.isOperand_of_mem_modes hmode
  obtain ⟨f, hflag, hargument, hattached⟩ : ∃ f : Flag,
      Action.query.grammar.flagOf "--mode" = .ok (some f) ∧ f.argument = some modeArgument ∧
        f.attached = none := ⟨_, rfl, rfl, rfl⟩
  -- the words are two operands, a flag and an operand
  have hclassify : Action.query.grammar.classify [path, selector, "--mode", mode]
      = .ok [.plain path, .plain selector, .flag "--mode" f, .plain mode] :=
    classify_cons hpath.separates hpath.plain <|
      classify_cons hselector.separates hselector.plain <|
        classify_cons (by decide) hflag <| classify_cons hplain.separates hplain.plain rfl
  have hmodeFits : Fits (modeArgument, mode) := by
    refine ⟨rfl, hplain.separates, ?_⟩
    simp [Argument.check, modeArgument, hmode]
  -- the first two words are for the arguments without flags, the others for the mode
  have hplaces : (Action.query.grammar.filter fun a => a.flags.isEmpty)
      = [pathArgument, selectorArgument] := by rfl
  have hfits : ∀ o ∈ [(pathArgument, path), (selectorArgument, selector)], Fits o := by
    simp only [List.forall_mem_cons]
    exact ⟨⟨rfl, hpath.separates, rfl⟩, ⟨rfl, hselector.separates, rfl⟩, nofun⟩
  have hmatched : Action.query.grammar.matchWords
      (2 * [Word.plain path, .plain selector, .flag "--mode" f, .plain mode].length + 2)
      [pathArgument, selectorArgument]
      [.plain path, .plain selector, .flag "--mode" f, .plain mode] {}
        = .ok { given := queryGiven path selector mode, met := ["path", "selector", "mode"] } := by
    refine (matchWords_operands hfits _ {}).trans ?_
    rw [matchWords_flag hargument hattached hmodeFits, matchWords_nil]
    rfl
  have hmissing : (Action.query.grammar.filter fun b => b.required &&
      !(["path", "selector", "mode"].contains b.name)) = [] := by rfl
  simp only [Grammar.read, hclassify, bind, Except.bind, hplaces, hmatched, hmissing]
  rfl

theorem exists_flagOf_mode : ∃ o, toolGrammar.flagOf "--mode" = .ok o := by
  have hok : (toolGrammar.flagOf "--mode").isOk = true := by decide +kernel
  exact exists_of_isOk hok

/-- The words of a query name the command with its arguments. -/
theorem readCommand_query (hpath : Action.query.IsOperand path)
    (hselector : Action.query.IsOperand selector) (hmode : mode ∈ modes) :
    readCommand ["query", path, selector, "--mode", mode]
      = .ok (.query, queryGiven path selector mode) := by
  have hplain := Action.query.isOperand_of_mem_modes hmode
  obtain ⟨ws, hclassify⟩ : ∃ ws, toolGrammar.classify [path, selector, "--mode", mode] = .ok ws := by
    obtain ⟨o, ho⟩ := hpath.allowed
    obtain ⟨q, hq⟩ := hselector.allowed
    obtain ⟨r, hr⟩ := exists_flagOf_mode
    obtain ⟨u, hu⟩ := hplain.allowed
    exact ⟨_, classify_cons hpath.separates ho <| classify_cons hselector.separates hq <|
      classify_cons (by decide) hr <| classify_cons hplain.separates hu rfl⟩
  exact readCommand_of_read hclassify (read_query hpath hselector hmode) rfl

/-! ## The document of a query -/

/-- What a mode extracts. -/
def extraction (d : Document) (mode selector : String) : Except Fault (List Chars) :=
  match mode with
  | "text" => d.value selector
  | "attr" => d.attribute selector
  | "outer" => d.html selector true
  | _ => d.html selector false

theorem queryResults_queryGiven :
    queryResults d (queryGiven path selector mode) = extraction d mode selector := by
  obtain ⟨-, hselector, hmode, -⟩ := lastWord?_queryGiven path selector mode
  rw [queryResults, hselector, hmode, Option.getD_some]
  split
  · next htext => cases htext; rfl
  · next hattr => cases hattr; rfl
  · next houter => cases houter; rfl
  · next htext hattr houter =>
    rw [extraction]
    · exact fun h => htext (congrArg some h)
    · exact fun h => hattr (congrArg some h)
    · exact fun h => houter (congrArg some h)

/-- Under the usual configuration a document is opened as it is without one. -/
theorem opening_default (source : MarkupSource) : ∃ o : Opening,
    Config.default.opening source = .ok o ∧ o.run = Opening.run { markup := source } := by
  have hkind : Config.default.documentKind = .ok .html := by rfl
  have hoptions : Config.default.parseOptions = .ok 7 := by rfl
  have htranslator : Config.default.buildTranslator = .ok .path := by rfl
  have hopening : Config.default.opening source
      = .ok { markup := source, translator := some (.translator .path), namespaces := .dict [] } := by
    rw [Config.opening, hkind, hoptions, htranslator]
    rfl
  exact ⟨_, hopening, rfl⟩

theorem document_queryGiven (hmarkup : s.markup path = .ok source)
    (hopen : (Opening.run { markup := source }).1 = .ok d) :
    s.document (queryGiven path selector mode) = .ok d := by
  obtain ⟨hpath, -, -, hkind, hconfig, hcss⟩ :=
    lastWord?_queryGiven path selector mode
  obtain ⟨o, ho, hrun⟩ := opening_default source
  -- no kind and no configuration is given
  have hchosen : s.config (queryGiven path selector mode) = .ok Config.default := by
    rw [Surroundings.config, Surroundings.chosenConfig, hconfig, hkind]
    rfl
  rw [Surroundings.document, hchosen, hpath, Option.getD_some, hmarkup]
  simp only [bind, Except.bind, ho, hrun, hopen, hcss]
  rfl

/-! ## Runs -/

/-- A query whose document finds something ends well and prints it. -/
theorem run_of_queryResults (hwords : readCommand words = .ok (.query, given))
    (hdocument : s.document given = .ok d) (hresults : queryResults d given = .ok results)
    (hne : results ≠ []) : run s words = ⟨.done 0, results.flatMap printedText, "", s.files⟩ := by
  have hempty : results.isEmpty = false := by simpa using hne
  have hprinted : runQuery s given = .ok (results.flatMap printedText) := by
    rw [runQuery, hdocument]
    simp only [bind, Except.bind, hresults, printResults, hempty]
    rfl
  rw [run, hwords]
  simp only [Action.run, finish, hprinted]

/-- The document is opened without a configuration, and the mode tells what is extracted. -/
theorem run_query (hpath : Action.query.IsOperand path) (hselector : Action.query.IsOperand selector)
    (hmode : mode ∈ modes) (hmarkup : s.markup path = .ok source)
    (hopen : (Opening.run { markup := source }).1 = .ok d)
    (hresults : extraction d mode selector = .ok results) (hne : results ≠ []) :
    run s ["query", path, selector, "--mode", mode]
      = ⟨.done 0, results.flatMap printedText, "", s.files⟩ :=
  run_of_queryResults (readCommand_query hpath hselector hmode) (document_queryGiven hmarkup hopen)
    (queryResults_queryGiven.trans hresults) hne

/-- A query prints its results in order, with pictures in place of their names, without control characters,
and with spaces in place of tabs. It prints each result as it is and the end of a line if and only if the
results have none of these. -/
theorem query_printed (hpath : Action.query.IsOperand path)
    (hselector : Action.query.IsOperand selector) (hmode : mode ∈ modes)
    (hmarkup : s.markup path = .ok source) (hopen : (Opening.run { markup := source }).1 = .ok d)
    (hresults : extraction d mode selector = .ok results) (hne : results ≠ []) :
    (run s ["query", path, selector, "--mode", mode]).status = .done 0 ∧
    (run s ["query", path, selector, "--mode", mode]).printed
      = results.flatMap (fun r => looseText (showPlain r)) ∧
    ((run s ["query", path, selector, "--mode", mode]).printed = results.flatMap (· ++ ['\n']) ↔
      ∀ r ∈ results, IsVerbatim r) := by
  rw [run_query hpath hselector hmode hmarkup hopen hresults hne]
  exact ⟨rfl, rfl, flatMap_printedText_eq_iff results⟩

/-- Two comments, one of them with brackets and a colon. -/
theorem query_printed_comments :
    ∃ d, (Opening.run { markup := .bytes (Encoding.utf8Bytes "<p><!--[b] a:b--><!--c--></p>") }).1 = .ok d ∧
      extraction d "text" "//comment()" = .ok ["[b] a:b".toList, ['c']] ∧
      (run ⟨{ files := [(["r.html"], Encoding.utf8Bytes "<p><!--[b] a:b--><!--c--></p>")] }, []⟩
        ["query", "r.html", "//comment()", "--mode", "text"]).status = .done 0 ∧
      (run ⟨{ files := [(["r.html"], Encoding.utf8Bytes "<p><!--[b] a:b--><!--c--></p>")] }, []⟩
        ["query", "r.html", "//comment()", "--mode", "text"]).printed = "[b] a:b\nc\n".toList := by
  obtain ⟨d, hopen, htest⟩ : ∃ d, (Opening.run
      { markup := .bytes (Encoding.utf8Bytes "<p><!--[b] a:b--><!--c--></p>") }).1 = .ok d ∧
      d.findsRemarks .comment ["[b] a:b".toList, ['c']] = true := Opening.exists_of_gives (by decide +kernel)
  have hvalue : extraction d "text" "//comment()" = .ok ["[b] a:b".toList, ['c']] :=
    Document.value_of_findsRemarks htest
  have hprinted : ["[b] a:b".toList, ['c']].flatMap (fun r => looseText (showPlain r))
      = "[b] a:b\nc\n".toList := by decide +kernel
  have hrun := query_printed (s := ⟨{ files := [(["r.html"], Encoding.utf8Bytes "<p><!--[b] a:b--><!--c--></p>")] }, []⟩)
    (Action.query.isOperand_of_head_ne (w := "r.html") (by decide))
    (Action.query.isOperand_of_head_ne (by decide)) (by decide) rfl hopen hvalue (by simp)
  exact ⟨d, hopen, hvalue, hrun.1, hrun.2.1.trans hprinted⟩

/-- A comment with the name of a picture in it is not printed as it is. -/
theorem query_prints_picture :
    ¬ ∀ (s : Surroundings) (path selector mode : String) (source : MarkupSource) (d : Document)
        (results : List Chars),
      Action.query.IsOperand path → Action.query.IsOperand selector → mode ∈ modes →
      s.markup path = .ok source → (Opening.run { markup := source }).1 = .ok d →
      extraction d mode selector = .ok results → results ≠ [] →
      (run s ["query", path, selector, "--mode", mode]).printed = results.flatMap (· ++ ['\n']) := by
  intro h
  obtain ⟨d, hopen, htest⟩ : ∃ d, (Opening.run
      { markup := .bytes (Encoding.utf8Bytes "<p><!--1:100:2--></p>") }).1 = .ok d ∧
      d.findsRemarks .comment ["1:100:2".toList] = true := Opening.exists_of_gives (by decide +kernel)
  have hvalue : extraction d "text" "//comment()" = .ok ["1:100:2".toList] :=
    Document.value_of_findsRemarks htest
  have hpath := Action.query.isOperand_of_head_ne (w := "r.html") (by decide)
  have hselector := Action.query.isOperand_of_head_ne (w := "//comment()") (by decide)
  have hfile : Surroundings.markup
      ⟨{ files := [(["r.html"], Encoding.utf8Bytes "<p><!--1:100:2--></p>")] }, []⟩ "r.html"
        = .ok (.bytes (Encoding.utf8Bytes "<p><!--1:100:2--></p>")) := by rfl
  have hprinted := h _ "r.html" "//comment()" "text" _ d _ hpath hselector (by decide) hfile hopen
    hvalue (by simp)
  rw [run_query hpath hselector (by decide) hfile hopen hvalue (by simp)] at hprinted
  exact absurd hprinted (by decide +kernel)

end MarkupQuery.Command
