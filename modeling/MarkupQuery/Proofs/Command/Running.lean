import MarkupQuery.Command.Run
import MarkupQuery.Proofs.Config.Loading
import MarkupQuery.Proofs.Console.Escaping
import MarkupQuery.Proofs.Document.Failing

/-!
# How runs end

A command line that names a command ends with a status, or a fault stops it; then there is one of a few
causes (`run_ends`). A message about a fault can always be shown, since what it quotes is escaped, so that
every fault that is reported ends a run with its status (`finish_status`).
-/

namespace MarkupQuery.Command

open MarkupQuery.Text MarkupQuery.Storage MarkupQuery.Console

variable {s : Surroundings} {a : Action} {given : List Given} {words : List String} {f : Fault}

/-! ## Reports -/

/-- The user is told of a fault, with the status of an error. -/
def IsTold (f : Fault) : Prop := ∃ text, reportOf? f = some (1, text)

theorem isTold_of_isReported (h : f.isReported = true) : IsTold f := by
  cases f
  all_goals first
    | cases h; done
    | exact ⟨_, rfl⟩

theorem isReported_of_isOfValue (h : f.isOfValue = true) : f.isReported = true := by
  cases f
  all_goals first
    | cases h; done
    | exact h

/-- A report can be shown, and its status is one or two. -/
theorem reportOf?_shown {code : Nat} {text : Chars} (h : reportOf? f = some (code, text)) :
    (code = 1 ∨ code = 2) ∧ ∃ said, showTagged text = .ok said := by
  have hlabel (label message : Chars) (hlabel : ∀ x ∈ label, x ≠ '[' ∧ x ≠ '\\') :
      ∃ said, showTagged ("[red]".toList ++ label ++ "[/red] ".toList ++ escapeTags message) = .ok said :=
    showTagged_of_shows (shows_labelled hlabel message)
  have hmissing : "[red]File not found:[/red] ".toList
      = "[red]".toList ++ "File not found:".toList ++ "[/red] ".toList := by decide +kernel
  have herror : "[red]Error:[/red] ".toList
      = "[red]".toList ++ "Error:".toList ++ "[/red] ".toList := by decide +kernel
  unfold reportOf? at h
  dsimp only at h
  split at h
  · obtain ⟨rfl, rfl⟩ := Prod.mk.inj (Option.some.inj h)
    rw [hmissing]
    exact ⟨.inl rfl, hlabel _ _ (by simp)⟩
  · obtain ⟨rfl, rfl⟩ := Prod.mk.inj (Option.some.inj h)
    exact ⟨.inr rfl, showTagged_of_shows (shows_inRed _)⟩
  · split at h
    · obtain ⟨rfl, rfl⟩ := Prod.mk.inj (Option.some.inj h)
      rw [herror]
      exact ⟨.inl rfl, hlabel _ _ (by simp)⟩
    · cases h

/-- The status of a command: zero, that of the report of its fault, or the fault itself. -/
def statusOf (printed : Except Fault Chars) : Status :=
  match printed with
  | .ok _ => .done 0
  | .error f =>
      match reportOf? f with
      | none => .stopped f
      | some (code, _) => .done code

theorem finish_status (w : Work) : (finish w).status = statusOf w.printed := by
  unfold finish statusOf
  cases w.printed with
  | ok printed => rfl
  | error f =>
    cases hreport : reportOf? f with
    | none => simp only [hreport]
    | some report =>
      obtain ⟨-, said, hsaid⟩ := reportOf?_shown hreport
      simp only [hreport, hsaid]

/-! ## Causes -/

/-- The causes that stop a command with a fault that nobody is told of. -/
inductive Stops (s : Surroundings) (a : Action) (given : List Given) : Fault → Prop
  /-- The configuration cannot be read, or its file is none. -/
  | config {name : String} {f : Fault} (hname : lastWord? given "config" = some name)
      (h : Config.load s.files (Path.ofText name) = .error f)
      (hf : f.isUnread = true ∨ f.isObstruction = true) : Stops s a given f
  /-- The file of the markup is none. -/
  | markup {f : Fault} (h : s.markup ((lastWord? given "path").getD "") = .error f)
      (hf : f.isObstruction = true) : Stops s a given f
  /-- A namespace of the configuration is not usable. -/
  | namespaces {c : Config} {es : List (Datum × Datum)} {e : Datum × Datum}
      (h : s.config given = .ok c) (hes : mappingOf c.namespaces = .ok es) (he : e ∈ es)
      (hunusable : isUsable e = false) : Stops s a given .wrongType
  /-- A namespace of the configuration allows to call the functions on regular expressions. -/
  | regular {c : Config} {es : List (Datum × Datum)} {label : Datum} {f : Fault}
      (ha : a = .query ∨ a = .items) (h : s.config given = .ok c)
      (hes : mappingOf c.namespaces = .ok es)
      (hlabel : (label, .text (String.ofList Query.regularSpace)) ∈ es) (hf : f.isRegular = true) :
      Stops s a given f
  /-- The pattern repeats something too often. -/
  | pattern (ha : a = .match_)
      (h : Pattern.Regex.read ((lastWord? given "pattern").getD "").toList {} = .error .tooManyRepeats) :
      Stops s a given .overflow
  /-- The name of a field closes a tag that is not open. -/
  | heading {fields : List (Chars × Chars)} {name : Chars} {f : Fault} (ha : a = .items)
      (hfields : readFields ((allWords given "field").map String.toList) = .ok fields)
      (hname : name ∈ fields.map (·.1)) (h : showTagged name = .error f) : Stops s a given f
  /-- The name of a new file closes a tag that is not open. -/
  | announcement {text : String} {f : Fault} (ha : a = .initConfig)
      (htext : text = (Path.ofText ((lastWord? given "path").getD defaultConfigName)).text ++
          " already exists. Skipping creation." ∨
        text = "Created starter config at " ++
          (Path.ofText ((lastWord? given "path").getD defaultConfigName)).text)
      (h : showTagged text.toList = .error f) : Stops s a given f
  /-- A folder stands in the place of a new file, or a file in that of a folder around it. -/
  | saving {c : Config} {f : Fault} (ha : a = .initConfig)
      (h : c.save s.files (Path.ofText ((lastWord? given "path").getD defaultConfigName)) = .error f)
      (hf : f.isObstruction = true) : Stops s a given f

/-- A fault that is reported, or that has a cause. -/
def IsAccounted (s : Surroundings) (a : Action) (given : List Given) (f : Fault) : Prop :=
  (∃ report, reportOf? f = some report) ∨ Stops s a given f

theorem IsAccounted.told (h : IsTold f) : IsAccounted s a given f := by
  obtain ⟨text, htext⟩ := h
  exact .inl ⟨_, htext⟩

theorem IsAccounted.reported (h : f.isReported = true) : IsAccounted s a given f :=
  .told (isTold_of_isReported h)

theorem isTold_or_of_isFileFault (h : IsFileFault f) : IsTold f ∨ f.isObstruction = true := by
  obtain rfl | ⟨path, rfl⟩ | h := h
  · exact .inl ⟨_, rfl⟩
  · exact .inl ⟨_, rfl⟩
  · exact .inr h

/-! ## Documents -/

/-- The fault of a configuration is told of, or it is one of those that nobody is told of. -/
theorem isTold_or_of_isLoadFault {files : Files} {path : Path} (h : Config.IsLoadFault files path f) :
    IsTold f ∨ f.isUnread = true ∨ f.isObstruction = true := by
  have hvalue {f : Fault} (h : f.isOfValue = true) : IsTold f :=
    isTold_of_isReported (isReported_of_isOfValue h)
  cases h with
  | file _ hf => exact (isTold_or_of_isFileFault hf).imp_right .inr
  | undecodable => exact .inl ⟨_, rfl⟩
  | text _ _ hf =>
    cases hf with
    | unread _ hf =>
      rw [IsConfigFault, Bool.or_eq_true] at hf
      exact hf.imp hvalue .inl
    | value hf => exact .inl (hvalue hf)
    | setting _ hf =>
      cases hf with
      | value hf => exact .inl (hvalue hf)
      | key => exact .inr (.inl rfl)
      | translator => exact .inr (.inl rfl)

/-- What is known of a configuration, whatever kind it is used with. -/
structure HasMeaning (c : Config) : Prop where
  options : ∃ n, c.parseOptions = .ok n
  translator : ∃ t, c.translator = .text t
  namespaces : ∃ es, mappingOf c.namespaces = .ok es

theorem HasMeaning.of_sound {c : Config} (h : c.Sound) : HasMeaning c where
  options := h.options
  translator := by
    obtain ⟨t, ht⟩ := h.translator
    exact c.buildTranslator_fails.value ht
  namespaces := h.namespaces

theorem chosenConfig_ends (s : Surroundings) (a : Action) (given : List Given) :
    Ends (IsAccounted s a given) Config.Sound (s.chosenConfig given) := by
  unfold Surroundings.chosenConfig
  cases hname : lastWord? given "config" with
  | none => exact .ok Config.sound_default
  | some name =>
    have hload := Config.load_ends s.files (Path.ofText name)
    rw [Option.getD_some]
    split
    · exact .ok Config.sound_default
    · refine ends_iff.mpr ⟨fun c hc => hload.value hc, fun f hf => ?_⟩
      rcases isTold_or_of_isLoadFault (hload.fault hf) with htold | huntold
      · exact .told htold
      · exact .inr (.config hname hf huntold)

theorem config_ends (s : Surroundings) (a : Action) (given : List Given) :
    Ends (IsAccounted s a given) HasMeaning (s.config given) := by
  refine ends_map.mpr ((chosenConfig_ends s a given).mono (fun _ hf => hf) fun c hc => ?_)
  have hmeaning := HasMeaning.of_sound hc
  split
  · exact ⟨hmeaning.options, hmeaning.translator, hmeaning.namespaces⟩
  · exact hmeaning

theorem markup_ends (s : Surroundings) (a : Action) (given : List Given) :
    FailsOnly (IsAccounted s a given) (s.markup ((lastWord? given "path").getD "")) := by
  refine ends_iff.mpr ⟨fun _ _ => trivial, fun f hf => ?_⟩
  have hfile : IsFileFault f := by
    unfold Surroundings.markup at hf
    split at hf
    · cases hf
    · have hread (path : Path) : FailsOnly IsFileFault ((s.files.read path).map MarkupSource.bytes) :=
        ends_map.mpr (s.files.read_fails path)
      exact (hread _).fault hf
  rcases isTold_or_of_isFileFault hfile with htold | hobstruction
  · exact .told htold
  · exact .inr (.markup hf hobstruction)

theorem HasMeaning.opening {c : Config} (hc : HasMeaning c) (markup : MarkupSource) :
    Ends (·.isOfValue = true) (fun o => o.namespaces = c.namespaces) (c.opening markup) := by
  obtain ⟨n, hn⟩ := hc.options
  obtain ⟨t, ht⟩ := hc.translator
  have htranslator : FailsOnly (·.isOfValue = true) c.buildTranslator := by
    rw [Config.buildTranslator, ht]
    exact c.documentKind_fails.bind_any fun kind => Translator.ofName_fails t kind
  rw [Config.opening, hn]
  exact c.documentKind_fails.bind_any fun _ => htranslator.bind_any fun _ => ends_pure.mpr rfl

/-- A document of a command has the namespaces of its configuration. -/
structure IsOpened (s : Surroundings) (given : List Given) (d : Document) : Prop where
  namespaces : ∃ c, s.config given = .ok c ∧ mappingOf c.namespaces = .ok d.namespaces
  context : d.ContextFits

/-- The fault of opening a document under a configuration. -/
theorem IsAccounted.of_opening {c : Config} {es : List (Datum × Datum)} (hc : s.config given = .ok c)
    (hes : mappingOf c.namespaces = .ok es) (h : IsOpeningFault es f) : IsAccounted s a given f := by
  obtain hreported | ⟨rfl, hspaces⟩ := h
  · exact .reported hreported
  · have hunusable : ¬∀ e ∈ es, isUsable e = true := by
      rw [← contextSpaces_ok_iff, hspaces]
      rintro ⟨_, h⟩
      cases h
    push Not at hunusable
    obtain ⟨e, he, hne⟩ := hunusable
    exact .inr (.namespaces hc hes he (eq_false_of_ne_true hne))

theorem document_ends (s : Surroundings) (a : Action) (given : List Given) :
    Ends (IsAccounted s a given) (IsOpened s given) (s.document given) := by
  have hconfig := config_ends s a given
  unfold Surroundings.document
  cases hc : s.config given with
  | error f => exact .error (hconfig.fault hc)
  | ok c =>
    have hmeaning := hconfig.value hc
    obtain ⟨es, hes⟩ := hmeaning.namespaces
    refine (markup_ends s a given).bind_any fun markup => ?_
    have hopening : Ends (IsAccounted s a given) (fun o => o.namespaces = c.namespaces)
        (c.opening markup) :=
      (hmeaning.opening markup).mono_fault fun f hf => .reported (isReported_of_isOfValue hf)
    refine hopening.bind fun o ho => ?_
    rw [← ho] at hes
    have hrun := (o.run_fails hes).mono_fault fun f hf => IsAccounted.of_opening (a := a) hc (ho ▸ hes) hf
    refine hrun.bind fun d hd => ?_
    obtain ⟨hspaces, hfits⟩ := hd
    have hopened : IsOpened s given d := ⟨⟨c, hc, by rw [hspaces, ← ho, hes]⟩, hfits⟩
    exact ends_ite (ends_pure.mpr ⟨hopened.namespaces, hopened.context⟩) (ends_pure.mpr hopened)

/-! ## Commands -/

/-- The fault of a selector. -/
theorem IsOpened.accounts {d : Document} (hd : IsOpened s given d) (ha : a = .query ∨ a = .items)
    (h : IsDocumentFault d.namespaces f) : IsAccounted s a given f := by
  obtain ⟨c, hc, hes⟩ := hd.namespaces
  obtain hopening | ⟨hregular, label, hlabel⟩ := h
  · exact .of_opening hc hes hopening
  · exact .inr (.regular ha hc hes hlabel hregular)

theorem runQuery_ends (s : Surroundings) (given : List Given) :
    FailsOnly (IsAccounted s .query given) (runQuery s given) := by
  unfold runQuery
  refine (document_ends s .query given).bind fun d hd => ?_
  have hresults : FailsOnly (IsDocumentFault d.namespaces) (queryResults d given) := by
    unfold queryResults
    dsimp only
    split
    · exact hd.context.value_fails _
    · exact hd.context.value_fails _
    · exact hd.context.html_fails _ _
    · exact hd.context.html_fails _ _
  refine (hresults.mono_fault fun f hf => ?_).bind_any fun _ => failsOnly_pure
  exact hd.accounts (.inl rfl) hf

/-- A table is shown if its title and its texts are. -/
theorem showTable_ends {p : Fault → Prop} {width : Nat} {title : Chars}
    {columns : List (Console.Alignment × List Chars)} (htitle : FailsOnly p (showTagged title))
    (h : ∀ c ∈ columns, ∀ text ∈ c.2, FailsOnly p (showTagged text)) :
    FailsOnly p (showTable width title columns) := by
  unfold showTable
  refine (FailsOnly.mapM fun c hc => ?_).bind_any fun _ => htitle.bind_any fun _ => failsOnly_pure
  exact (FailsOnly.mapM (h c hc)).bind_any fun _ => failsOnly_pure

/-- The texts in a table of records are escaped or hold no bracket, but for the names of the fields. -/
theorem mem_recordColumns {names : List Chars} {records : List (List (String × Option Chars))}
    {c : Console.Alignment × List Chars} (hc : c ∈ recordColumns names records) {text : Chars}
    (htext : text ∈ c.2) :
    text ∈ names ∨ (∃ r, text = escapeTags r) ∨ '[' ∉ text := by
  rw [recordColumns, List.mem_cons, List.mem_map] at hc
  obtain rfl | ⟨name, hname, rfl⟩ := hc
  · rw [List.mem_cons, List.mem_map] at htext
    obtain rfl | ⟨r, -, rfl⟩ := htext
    · exact .inr (.inr (by decide))
    · refine .inr (.inr fun hbracket => ?_)
      have hdigits : (toString r.2).toList = Nat.toDigits 10 r.2 := String.toList_ofList
      rw [hdigits] at hbracket
      have hdigit := Nat.isDigit_of_mem_toDigits (b := 10) (by decide) (by decide) hbracket
      exact absurd hdigit (by decide)
  · rw [List.mem_cons, List.mem_map] at htext
    obtain rfl | ⟨r, -, rfl⟩ := htext
    · exact .inl hname
    · exact .inr (.inl ⟨_, rfl⟩)

theorem runItems_ends (s : Surroundings) (given : List Given) :
    FailsOnly (IsAccounted s .items given) (runItems s given) := by
  have hshown {text : Chars} (h : ∃ t, showTagged text = .ok t) :
      FailsOnly (IsAccounted s .items given) (showTagged text) := by
    obtain ⟨t, ht⟩ := h
    rw [ht]
    exact failsOnly_ok
  unfold runItems
  refine (document_ends s .items given).bind fun d hd => ?_
  have hfields : FailsOnly (IsAccounted s .items given)
      (readFields ((allWords given "field").map String.toList)) := by
    refine (FailsOnly.mapM fun raw _ => ?_).bind_any fun _ => failsOnly_pure
    split
    · exact failsOnly_ok
    · exact .error (.inl ⟨_, rfl⟩)
  refine hfields.value_eq.bind fun fields hread => ?_
  have hrecords (base : String) (fields : List (String × String)) :
      FailsOnly (IsAccounted s .items given) (d.records base fields).1 :=
    (hd.context.records_fails base fields).mono_fault fun f hf => hd.accounts (.inr rfl) hf
  refine (hrecords _ _).bind_any fun records => ends_ite failsOnly_pure ?_
  refine showTable_ends (hshown (showTagged_of_shows ?_)) fun c hc text htext => ?_
  · exact shows_append_plain (by simp) (shows_escaped _ _)
  · rcases mem_recordColumns hc htext with hname | ⟨r, rfl⟩ | hplain
    · refine ends_iff.mpr ⟨fun _ _ => trivial, fun f hf => .inr (.heading rfl hread hname hf)⟩
    · exact hshown (showTagged_of_shows (shows_escaped r []))
    · exact hshown ⟨_, if_neg (by simpa using hplain)⟩

theorem runMatch_ends (s : Surroundings) (given : List Given) :
    FailsOnly (IsAccounted s .match_ given) (runMatch s given) := by
  unfold runMatch
  refine (document_ends s .match_ given).bind fun d _ => ?_
  have hmatch (group : Int) : FailsOnly (IsAccounted s .match_ given)
      (d.match_ (.text ((lastWord? given "pattern").getD "").toList) (.value (.int group))) := by
    refine (d.match_fails _ group).mono_fault fun f hf => ?_
    obtain hreported | ⟨rfl, hlarge⟩ := hf
    · exact .reported hreported
    · exact .inr (.pattern rfl hlarge)
  exact (hmatch _).bind_any fun _ => ends_ite failsOnly_pure failsOnly_pure

theorem runInitConfig_ends (s : Surroundings) (given : List Given) :
    FailsOnly (IsAccounted s .initConfig given) (runInitConfig s given).printed := by
  have hsay (text : String) (htext : text =
        (Path.ofText ((lastWord? given "path").getD defaultConfigName)).text ++
          " already exists. Skipping creation." ∨
      text = "Created starter config at " ++
        (Path.ofText ((lastWord? given "path").getD defaultConfigName)).text) :
      FailsOnly (IsAccounted s .initConfig given) ((showTagged text.toList).map looseText) :=
    ends_map.mpr (ends_iff.mpr ⟨fun _ _ => trivial, fun f hf => .inr (.announcement rfl htext hf)⟩)
  unfold runInitConfig
  generalize hpath : Path.ofText ((lastWord? given "path").getD defaultConfigName) = path at hsay
  by_cases hexists : s.files.contains path = true
  · rw [if_pos hexists]
    exact hsay _ (.inl rfl)
  · rw [if_neg hexists]
    dsimp only
    cases hsave : Config.save { Config.default with kind := .text ((lastWord? given "kind").getD "html") }
        s.files path with
    | ok files => exact hsay _ (.inr rfl)
    | error f =>
      refine .error ?_
      rcases isTold_or_of_isFileFault ((Files.write_fails _ _ _).fault hsave) with htold | hobstruction
      · exact .told htold
      · exact .inr (.saving rfl (hpath ▸ hsave) hobstruction)

/-- Whatever command is run, its fault is reported or has a cause. -/
theorem run_ends_action (s : Surroundings) (a : Action) (given : List Given) :
    FailsOnly (IsAccounted s a given) (a.run s given).printed := by
  cases a with
  | query => exact runQuery_ends s given
  | items => exact runItems_ends s given
  | match_ => exact runMatch_ends s given
  | initConfig => exact runInitConfig_ends s given

/-! ## Command lines -/

theorem run_of_ok {a : Action} {given : List Given} (h : readCommand words = .ok (a, given))
    (s : Surroundings) : run s words = finish (a.run s given) := by
  rw [run, h]

/-- Words that name no command are refused. -/
theorem run_of_error {r : Refused} (h : readCommand words = .error r) (s : Surroundings) :
    (run s words).status = .refused 0 ∨ (run s words).status = .refused 2 := by
  rw [run, h]
  dsimp only [refuse]
  split
  · exact .inl rfl
  · exact .inr rfl

/-- A command fails if its configuration cannot be loaded. -/
theorem printed_of_config (ha : a ≠ .initConfig) (h : s.config given = .error f) :
    (a.run s given).printed = .error f := by
  have hdocument : s.document given = .error f := by rw [Surroundings.document, h]; rfl
  cases a with
  | query => change runQuery s given = _; rw [runQuery, hdocument]; rfl
  | items => change runItems s given = _; rw [runItems, hdocument]; rfl
  | match_ => change runMatch s given = _; rw [runMatch, hdocument]; rfl
  | initConfig => exact absurd rfl ha

theorem reportOf?_of_untold (h : f.isUnread = true ∨ f.isObstruction = true) : reportOf? f = none := by
  cases f
  all_goals first
    | rfl
    | simp [Fault.isUnread, Fault.isObstruction] at h

/-- A fault of a configuration that is neither unread nor an obstruction has the status of an error. -/
theorem statusOf_load {files : Files} {path : Path} (h : Config.load files path = .error f) :
    statusOf (.error f) = if f.isUnread || f.isObstruction then .stopped f else .done 1 := by
  rw [statusOf]
  rcases isTold_or_of_isLoadFault ((Config.load_ends files path).fault h) with ⟨text, htext⟩ | huntold
  · rw [if_neg, htext]
    rw [Bool.or_eq_true]
    exact fun huntold => by rw [reportOf?_of_untold huntold] at htext; cases htext
  · rw [if_pos (by rwa [Bool.or_eq_true]), reportOf?_of_untold huntold]

end MarkupQuery.Command
