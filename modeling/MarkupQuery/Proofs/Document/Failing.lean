import MarkupQuery.Document.Extraction
import MarkupQuery.Proofs.Document.Namespaces
import MarkupQuery.Proofs.Query.Calls

/-!
# Faults of documents

Whatever is asked of a document that was opened with some namespaces, its faults are told to the user
unless the namespaces bring them about (`IsDocumentFault`): they cannot stand in a query, or one of them
allows to call the functions on regular expressions. Searching a pattern fails without being told only if
the pattern repeats something too often.
-/

namespace MarkupQuery

open MarkupQuery.Text MarkupQuery.Tree MarkupQuery.Query

/-- The faults of opening a document with some namespaces. -/
def IsOpeningFault (es : List (Datum × Datum)) (f : Fault) : Prop :=
  f.isReported = true ∨ f = .wrongType ∧ contextSpaces es = .error .wrongType

/-- The faults of a document with some namespaces. -/
def IsDocumentFault (es : List (Datum × Datum)) (f : Fault) : Prop :=
  IsOpeningFault es f ∨
    f.isRegular = true ∧ ∃ label, (label, .text (String.ofList regularSpace)) ∈ es

/-- A document whose query context has the namespaces of the document. -/
def Document.ContextFits (d : Document) : Prop :=
  ∀ c, d.context = some c → d.namespaces = c.spaces.map spaceEntry

variable {d : Document} {es : List (Datum × Datum)}

/-! ## Opening -/

theorem contextText_fails (v : Datum) :
    FailsOnly (fun f => f.isReported = true ∨ f = .wrongType) (contextText v) := by
  cases v with
  | text s => exact ends_ite failsOnly_ok (.error (.inl rfl))
  | _ => exact .error (.inr rfl)

theorem contextSpace_fails (label name : Datum) :
    FailsOnly (fun f => f.isReported = true ∨ f = .wrongType) (contextSpace label name) :=
  ends_ite (.error (.inr rfl))
    ((contextText_fails label).bind_any fun _ => (contextText_fails name).bind_any fun _ => failsOnly_pure)

/-- The namespaces of a query context are those of the document, as long as all are usable. -/
theorem contextSpaces_fails (es : List (Datum × Datum)) :
    Ends (IsOpeningFault es) (fun spaces => es = spaces.map spaceEntry) (contextSpaces es) := by
  refine ends_iff.mpr ⟨fun spaces h => eq_map_of_contextSpaces h, fun f hf => ?_⟩
  rcases (FailsOnly.mapM fun s _ => contextSpace_fails s.1 s.2).fault hf with hreported | rfl
  · exact .inl hreported
  · exact .inr ⟨rfl, hf⟩

theorem Opening.settle_fails (o : Opening) (hes : mappingOf o.namespaces = .ok es) :
    Ends (fun f => f.isReported = true) (fun d => d.namespaces = es ∧ d.context = none) o.settle := by
  have hkind : FailsOnly (fun f => f.isReported = true) (Kind.ofDatum o.kind) := by
    unfold Kind.ofDatum
    split
    · exact failsOnly_ok
    · exact .error rfl
  have hoptions : FailsOnly (fun f => f.isReported = true) (Options.ofDatum o.options) := by
    unfold Options.ofDatum
    split
    · exact failsOnly_ok
    · exact .error rfl
  have htranslator : FailsOnly (fun f => f.isReported = true)
      (o.translator.getD (.translator .path)).resolve := by
    unfold TranslatorSource.resolve
    split
    · exact failsOnly_ok
    · exact .error rfl
  unfold Opening.settle
  refine ends_ite (.error rfl) (hkind.bind_any fun _ => hoptions.bind_any fun _ =>
    htranslator.bind_any fun _ => ?_)
  rw [hes]
  exact .ok ⟨rfl, rfl⟩

theorem Document.install_fails (d : Document) (root : Option NodeId) :
    Ends (IsOpeningFault d.namespaces)
      (fun _ => (d.install root).document.namespaces = d.namespaces ∧
        (d.install root).document.ContextFits) (d.install root).result := by
  unfold Document.install
  cases root with
  | none => exact .ok ⟨rfl, nofun⟩
  | some i =>
    have hspaces := contextSpaces_fails d.namespaces
    dsimp only
    split
    · next spaces heq =>
      refine .ok ⟨rfl, fun c hc => ?_⟩
      cases hc
      exact hspaces.value heq
    · next f heq => exact .error (hspaces.fault heq)

/-- A document is opened with the namespaces it is given, or these are refused. -/
theorem Opening.run_fails (o : Opening) (hes : mappingOf o.namespaces = .ok es) :
    Ends (IsOpeningFault es) (fun d => d.namespaces = es ∧ d.ContextFits) o.run.1 := by
  have hsettle := o.settle_fails hes
  unfold Opening.run
  split
  · next f heq => exact .error (.inl (hsettle.fault heq))
  · next d heq =>
    obtain ⟨hspaces, -⟩ := hsettle.value heq
    have htake (q : Parsed) : (d.take q).namespaces = es := (d.namespaces_take q).trans hspaces
    generalize parseMarkup d.kind d.options d.nextId (o.markup.read d.kind) = q
    have hinstall := (d.take q).install_fails (q.tree.map (·.2))
    rw [htake q] at hinstall
    dsimp only
    split
    · next u heq => exact .ok (hinstall.value heq)
    · next f heq => exact .error (hinstall.fault heq)

/-! ## Finding -/

theorem Translator.convert_fails (t : Translator) (selector : String) :
    FailsOnly (fun f => f.isReported = true) (t.convert selector) := by
  unfold Translator.convert
  split
  · exact failsOnly_ok
  · exact failsOnly_ok
  · split
    · exact failsOnly_ok
    · exact .error rfl

theorem Document.ask_fails (d : Document) (c : QueryContext) (query : String) :
    FailsOnly (IsDocumentFault (c.spaces.map spaceEntry)) (d.ask c query) := by
  unfold Document.ask
  split
  · exact failsOnly_ok
  · next s _ =>
    have hrun := run_fails d.kind c.spaces s query.toList
    split
    · exact .error (.inl (.inl rfl))
    · split
      · exact failsOnly_ok
      · next f heq =>
        obtain ⟨hf, s, hs, hspace⟩ := hrun.fault heq
        rw [IsRegularFault, Bool.or_eq_true] at hf
        refine .error (hf.imp .inl fun hf => ⟨hf, (spaceEntry s).1, ?_⟩)
        exact List.mem_map.mpr ⟨s, hs, by rw [← hspace]; rfl⟩
      · exact .error (.inl (.inl rfl))

/-- Finding in a document fails with faults of a document. -/
theorem Document.ContextFits.find_fails (hd : d.ContextFits) (selector : String) :
    FailsOnly (IsDocumentFault d.namespaces) (d.find selector) := by
  unfold Document.find
  have hconvert : FailsOnly (IsDocumentFault d.namespaces) (d.translator.convert selector) :=
    (d.translator.convert_fails selector).mono_fault fun f hf => .inl (.inl hf)
  refine hconvert.bind_any fun query => ?_
  split
  · exact failsOnly_pure
  · next c hc =>
    refine ends_ite failsOnly_pure ?_
    rw [hd c hc]
    exact d.ask_fails c query

theorem Document.ContextFits.html_fails (hd : d.ContextFits) (selector : String) (outer : Bool) :
    FailsOnly (IsDocumentFault d.namespaces) (d.html selector outer) :=
  (hd.find_fails selector).bind_any fun _ => failsOnly_pure

theorem Document.ContextFits.value_fails (hd : d.ContextFits) (selector : String) :
    FailsOnly (IsDocumentFault d.namespaces) (d.value selector) :=
  (hd.find_fails selector).bind_any fun _ => failsOnly_pure

/-! ## Records -/

/-- A nested document has the namespaces of the document around it. -/
theorem Document.spawn_fails (d : Document) (markup : Chars) :
    Ends (IsOpeningFault d.namespaces)
      (fun n => n.namespaces = d.namespaces ∧ n.ContextFits) (d.spawn markup).1 := by
  refine Opening.run_fails _ ?_
  unfold mappingOf
  cases d.namespaces <;> rfl

theorem Document.spawnAll_fails (d : Document) (ms : List Chars) :
    Ends (IsOpeningFault d.namespaces)
      (fun ns => ∀ n ∈ ns, n.namespaces = d.namespaces ∧ n.ContextFits) (d.spawnAll ms).1 := by
  induction ms with
  | nil => exact .ok nofun
  | cons m ms ih =>
    have hspawn := d.spawn_fails m
    rw [Document.spawnAll]
    split
    · next f log heq => exact .error (hspawn.fault (congrArg Prod.fst heq))
    · next n log heq =>
      refine ends_map.mpr (ih.mono (fun _ hf => hf) fun ns hns => ?_)
      exact List.forall_mem_cons.mpr ⟨hspawn.value (congrArg Prod.fst heq), hns⟩

theorem Document.ContextFits.nested_fails (hd : d.ContextFits) (selector : String) (outer : Bool) :
    Ends (IsDocumentFault d.namespaces)
      (fun ns => ∀ n ∈ ns, n.namespaces = d.namespaces ∧ n.ContextFits)
      (d.nested selector outer).1 := by
  unfold Document.nested
  split
  · next f heq => exact .error ((hd.html_fails selector outer).fault heq)
  · exact (d.spawnAll_fails _).mono_fault fun _ => .inl

/-- Records fail with faults of a document. -/
theorem Document.ContextFits.records_fails (hd : d.ContextFits) (base : String)
    (fields : List (String × String)) :
    FailsOnly (IsDocumentFault d.namespaces) (d.records base fields).1 := by
  have hnested := hd.nested_fails base false
  unfold Document.records
  split
  · next f log heq => exact .error (hnested.fault (congrArg Prod.fst heq))
  · next ds log heq =>
    refine FailsOnly.mapM fun n hn => FailsOnly.mapM fun field _ => ?_
    obtain ⟨hspaces, hfits⟩ := hnested.value (congrArg Prod.fst heq) n hn
    have hhtml := hfits.html_fails field.2 false
    rw [hspaces] at hhtml
    exact hhtml.bind_any fun _ => failsOnly_pure

/-! ## Matches -/

/-- The faults of searching a pattern. -/
def IsPatternFault (pattern : Chars) (f : Fault) : Prop :=
  f.isReported = true ∨ f = .overflow ∧ Pattern.Regex.read pattern {} = .error .tooManyRepeats

/-- Searching a pattern for a group fails without being told only if the pattern is too large. -/
theorem Document.match_fails (d : Document) (pattern : Chars) (group : Int) :
    FailsOnly (IsPatternFault pattern) (d.match_ (.text pattern) (.value (.int group))) := by
  have hcompile : FailsOnly (IsPatternFault pattern) (PatternSource.text pattern).compile := by
    rw [PatternSource.compile]
    split
    · exact failsOnly_ok
    · exact .error (.inl rfl)
    · next heq => exact .error (.inr ⟨rfl, heq⟩)
    · exact .error (.inl rfl)
    · exact .error (.inl rfl)
  have hcheck (r : Pattern.Regex) :
      FailsOnly (IsPatternFault pattern) ((MatchSelector.group group).check r) :=
    ends_ite (.error (.inl rfl)) failsOnly_ok
  refine Ends.bind (q := (· = .group group)) (ends_ok.mpr rfl) fun s hs => ?_
  subst hs
  exact hcompile.bind_any fun r => (hcheck r).bind_any fun _ =>
    (FailsOnly.mapM fun m _ => failsOnly_ok).bind_any fun _ => failsOnly_pure

end MarkupQuery
