import MarkupQuery.Config
import MarkupQuery.Proofs.Storage.Files
import MarkupQuery.Proofs.Yaml.Values

/-!
# Loading configurations

The value of a configuration text is a mapping in which every key stands once (`Yaml.read_ends`), and from
it a configuration is made or refused (`Config.ofDatum_ends`). What is accepted has options, a kind and a
translator that mean something, and namespaces that are a mapping (`Config.Sound`). A text that cannot be
read is refused in a way that nobody is told of, and so are a key that is no text and a translator that is
none (`Config.IsTextFault`).
-/

namespace MarkupQuery

open MarkupQuery.Text MarkupQuery.Storage

variable {es : List (Datum × Datum)} {c : Config}

/-! ## Settings in a mapping -/

theorem get?_eq_none_of_first {k : String} {v : Datum} (h : KeysOnce ((.text k, v) :: es)) :
    Datum.get? k es = none := by
  have hfirst := (List.pairwise_cons.mp h).1
  clear h
  fun_induction Datum.get? k es with
  | case1 => rfl
  | case2 a w es ha =>
    have hdiffers := hfirst (.text a) (List.mem_map_of_mem List.mem_cons_self)
    rw [Datum.same, beq_eq_false_iff_ne] at hdiffers
    exact absurd (beq_iff_eq.mp ha).symm hdiffers
  | case3 a w es ha ih => exact ih fun b hb => hfirst b (List.mem_cons_of_mem _ hb)
  | case4 e es hno ih => exact ih fun b hb => hfirst b (List.mem_cons_of_mem _ hb)

theorem get?_cons_of_ne {k : String} {a : Datum} (h : a ≠ .text k) (v : Datum) :
    Datum.get? k ((a, v) :: es) = Datum.get? k es := by
  cases a with
  | text b => exact if_neg fun hb => h (congrArg Datum.text (beq_iff_eq.mp hb))
  | _ => rfl

/-- What stands under a key is given unless it is null. -/
theorem get?_givenEntries (h : KeysOnce es) (k : String) :
    Datum.get? k (givenEntries es) = (Datum.get? k es).filter Datum.isGiven := by
  induction es with
  | nil => rfl
  | cons e es ih =>
    obtain ⟨a, v⟩ := e
    have hrest := ih (List.pairwise_cons.mp h).2
    have hgiven : givenEntries ((a, v) :: es)
        = if v.isGiven then (a, v) :: givenEntries es else givenEntries es := List.filter_cons
    by_cases hk : a = .text k
    · subst hk
      rw [get?_eq_none_of_first h] at hrest
      have hfound (fs : List (Datum × Datum)) : Datum.get? k ((.text k, v) :: fs) = some v :=
        if_pos (beq_self_eq_true k)
      rw [hgiven, hfound, Option.filter_some]
      split
      · exact hfound _
      · exact hrest
    · rw [hgiven, get?_cons_of_ne hk, ← hrest]
      split
      · exact get?_cons_of_ne hk v
      · rfl

/-! ## What is accepted -/

/-- A configuration whose settings have a meaning. -/
structure Config.Sound (c : Config) : Prop where
  options : ∃ n, c.parseOptions = .ok n
  translator : ∃ t, c.buildTranslator = .ok t
  namespaces : ∃ es, mappingOf c.namespaces = .ok es

theorem Config.sound_default : Config.default.Sound where
  options := by
    have h : Config.default.parseOptions.toOption.isSome = true := by decide +kernel
    cases hoptions : Config.default.parseOptions with
    | ok n => exact ⟨n, rfl⟩
    | error f => rw [hoptions] at h; cases h
  translator := by
    have h : Config.default.buildTranslator.toOption.isSome = true := by decide +kernel
    cases htranslator : Config.default.buildTranslator with
    | ok t => exact ⟨t, rfl⟩
    | error f => rw [htranslator] at h; cases h
  namespaces := ⟨[], rfl⟩

theorem mappingOf_of_not_isTruthy {v : Datum} (h : v.isTruthy = false) : mappingOf v = .ok [] := by
  unfold mappingOf
  dsimp only
  rw [h, Bool.not_false, if_pos rfl]

/-- Namespaces that were checked are a mapping, or there is nothing in them. -/
theorem mappingOf_namespaces (h : KeysOnce es) (hcheck : checkNamespaces es = .ok ()) :
    ∃ spaces, mappingOf (Config.ofEntries (givenEntries es)).namespaces = .ok spaces := by
  change ∃ spaces, mappingOf ((Datum.get? "namespaces" (givenEntries es)).getD (.dict [])) = .ok spaces
  rw [get?_givenEntries h]
  unfold checkNamespaces at hcheck
  split at hcheck
  · next heq => exact ⟨[], by rw [heq]; exact mappingOf_dict []⟩
  · next fs heq => exact ⟨fs, by rw [heq]; exact mappingOf_dict fs⟩
  · next v _ heq =>
    split at hcheck
    · cases hcheck
    · next hempty =>
      have hempty := eq_false_of_ne_true hempty
      rw [heq, Option.filter_some]
      split
      · exact ⟨[], mappingOf_of_not_isTruthy hempty⟩
      · exact ⟨[], mappingOf_dict []⟩

/-! ## What is refused -/

theorem itemsOfDatum_list (vs : List Datum) : itemsOfDatum (.list vs) = .ok vs := rfl

theorem optionOf_fails (v : Datum) : FailsOnly (·.isOfValue = true) (optionOf v) := by
  unfold optionOf
  split
  · exact failsOnly_ok
  · exact .error rfl

/-- Options in a list are known or refused. -/
theorem Config.parseOptions_fails {vs : List Datum} (h : c.options = .list vs) :
    FailsOnly (·.isOfValue = true) c.parseOptions := by
  rw [Config.parseOptions, h, itemsOfDatum_list]
  exact (FailsOnly.mapM fun v _ => optionOf_fails v).bind_any fun _ => failsOnly_pure

theorem Config.documentKind_fails (c : Config) : FailsOnly (·.isOfValue = true) c.documentKind := by
  unfold Config.documentKind
  split
  · exact failsOnly_ok
  · exact .error rfl

theorem Translator.ofName_fails (name : String) (kind : Kind) :
    FailsOnly (·.isOfValue = true) (Translator.ofName name kind) := by
  unfold Translator.ofName
  split
  · exact failsOnly_ok
  · exact failsOnly_ok
  · exact failsOnly_ok
  · exact .error rfl

/-- The fault of a translator: a name that is unknown, or a value that is no name. -/
def IsTranslatorFault (v : Datum) (f : Fault) : Prop :=
  f.isOfValue = true ∨ f = .missingOperation ∧ ∀ t, v ≠ .text t

/-- A translator is built only from a text. -/
theorem Config.buildTranslator_fails (c : Config) :
    Ends (IsTranslatorFault c.translator) (fun _ => ∃ t, c.translator = .text t) c.buildTranslator := by
  unfold Config.buildTranslator
  refine (c.documentKind_fails.mono_fault fun _ => .inl).bind_any fun kind => ?_
  cases ht : c.translator with
  | text t => exact Ends.mono (Translator.ofName_fails t kind) (fun _ => .inl) fun _ _ => ⟨t, rfl⟩
  | _ => exact ends_error.mpr (.inr ⟨rfl, nofun⟩)

/-- Options that were checked are a list. -/
theorem options_of_checkOptions (h : KeysOnce es) (hcheck : checkOptions es = .ok ()) :
    ∃ vs, (Config.ofEntries (givenEntries es)).options = .list vs := by
  change ∃ vs, (Datum.get? "options" (givenEntries es)).getD Config.default.options = .list vs
  rw [get?_givenEntries h]
  unfold checkOptions at hcheck
  split at hcheck
  · next heq => exact ⟨_, by rw [heq]; rfl⟩
  · next heq => exact ⟨_, by rw [heq]; rfl⟩
  · next vs heq => exact ⟨vs, by rw [heq]; rfl⟩
  · cases hcheck

/-- The faults of the settings in some entries. -/
inductive IsSettingFault (es : List (Datum × Datum)) : Fault → Prop
  /-- A value is refused. -/
  | value {f : Fault} (h : f.isOfValue = true) : IsSettingFault es f
  /-- A key is no text. -/
  | key {e : Datum × Datum} (he : e ∈ es) (h : ∀ k, e.1 ≠ .text k) : IsSettingFault es .wrongType
  /-- A translator is given that is no text. -/
  | translator {v : Datum} (hv : Datum.get? "translator" es = some v) (hgiven : v.isGiven = true)
      (h : ∀ t, v ≠ .text t) : IsSettingFault es .missingOperation

theorem checkNames_fails (es : List (Datum × Datum)) :
    FailsOnly (IsSettingFault es) (checkNames es) := by
  unfold checkNames
  refine ends_ite failsOnly_ok ?_
  have hkey : ∀ e ∈ es.filter fun e => !isSettingName e.1,
      FailsOnly (IsSettingFault es) (keyText e.1) := by
    intro e he
    cases hk : e.1 with
    | text k => exact failsOnly_ok
    | _ => exact .error (.key (List.mem_filter.mp he).1 fun k h => by rw [hk] at h; cases h)
  exact (FailsOnly.mapM hkey).bind_any fun _ => ends_error.mpr (.value rfl)

theorem checkOptions_fails (es : List (Datum × Datum)) :
    FailsOnly (IsSettingFault es) (checkOptions es) := by
  unfold checkOptions
  split
  · exact failsOnly_ok
  · exact failsOnly_ok
  · exact failsOnly_ok
  · exact .error (.value rfl)

theorem checkNamespaces_fails (es : List (Datum × Datum)) :
    FailsOnly (IsSettingFault es) (checkNamespaces es) := by
  unfold checkNamespaces
  split
  · exact failsOnly_ok
  · exact failsOnly_ok
  · exact ends_ite (.error (.value rfl)) failsOnly_ok

/-- The translator of a configuration that is not the usual one was given. -/
theorem isSettingFault_of_translator (h : KeysOnce es) {f : Fault}
    (hf : IsTranslatorFault (Config.ofEntries (givenEntries es)).translator f) :
    IsSettingFault es f := by
  obtain hvalue | ⟨rfl, ht⟩ := hf
  · exact .value hvalue
  · change ∀ t, (Datum.get? "translator" (givenEntries es)).getD Config.default.translator ≠ .text t at ht
    rw [get?_givenEntries h] at ht
    cases hv : (Datum.get? "translator" es).filter Datum.isGiven with
    | none => exact absurd rfl (by rw [hv] at ht; exact ht "xpath")
    | some v =>
      rw [hv] at ht
      obtain ⟨hfound, hgiven⟩ := Option.filter_eq_some_iff.mp hv
      exact .translator hfound hgiven ht

/-- Entries in which every key stands once are a configuration, or one of them is refused. -/
theorem Config.ofDatum_ends (h : KeysOnce es) :
    Ends (IsSettingFault es) Config.Sound (Config.ofDatum (.dict es)) := by
  change Ends _ _ (do
    checkNames es
    checkOptions es
    checkNamespaces es
    let config := Config.ofEntries (givenEntries es)
    let _ ← config.parseOptions
    let _ ← config.buildTranslator
    return config)
  refine (checkNames_fails es).bind_any fun _ => ?_
  refine (checkOptions_fails es).value_eq.bind fun _ hoptions => ?_
  refine (checkNamespaces_fails es).value_eq.bind fun _ hspaces => ?_
  obtain ⟨vs, hlist⟩ := options_of_checkOptions h hoptions
  have hparse : FailsOnly (IsSettingFault es) (Config.ofEntries (givenEntries es)).parseOptions :=
    (Config.parseOptions_fails hlist).mono_fault fun _ => .value
  refine hparse.value_eq.bind fun n hn => ?_
  have hbuild := (Config.ofEntries (givenEntries es)).buildTranslator_fails.mono_fault fun _ =>
    isSettingFault_of_translator h
  refine hbuild.failsOnly.value_eq.bind fun t ht => ends_pure.mpr ?_
  exact ⟨⟨n, hn⟩, ⟨t, ht⟩, mappingOf_namespaces h hspaces⟩

/-! ## Texts -/

/-- The faults of a configuration text. -/
inductive Config.IsTextFault (text : Chars) : Fault → Prop
  /-- The text cannot be read. -/
  | unread {f : Fault} (h : Yaml.read text = .error f) (hf : IsConfigFault f) : IsTextFault text f
  /-- The text is no mapping. -/
  | value {f : Fault} (h : f.isOfValue = true) : IsTextFault text f
  /-- An entry of the mapping is refused. -/
  | setting {es : List (Datum × Datum)} {f : Fault} (h : Yaml.read text = .ok (some (.dict es)))
      (hf : IsSettingFault es f) : IsTextFault text f

/-- A text is a configuration, or it is refused. -/
theorem Config.ofText_ends (text : Chars) :
    Ends (Config.IsTextFault text) Config.Sound (Config.ofText text) := by
  have hread := Yaml.read_ends text
  have hempty : Ends (Config.IsTextFault text) Config.Sound (Config.ofDatum (.dict [])) := by
    have hnone : KeysOnce [] := .nil
    refine (Config.ofDatum_ends hnone).mono_fault fun f hf => ?_
    cases hf with
    | value h => exact .value h
    | key he => cases he
    | translator hv => cases hv
  unfold Config.ofText
  cases hv : Yaml.read text with
  | error f => exact .error (.unread hv (hread.fault hv))
  | ok v =>
    cases v with
    | none => exact hempty
    | some v =>
      change Ends _ _ (Config.ofDatum (if v.isTruthy then v else .dict []))
      split
      · cases v with
        | dict es =>
          exact (Config.ofDatum_ends (hread.value hv _ rfl)).mono_fault fun f hf => .setting hv hf
        | _ => exact .error (.value rfl)
      · exact hempty

/-! ## Files -/

/-- The faults of loading a configuration from a file. -/
inductive Config.IsLoadFault (s : Files) (path : Path) : Fault → Prop
  /-- The file cannot be read. -/
  | file {f : Fault} (h : ∀ bytes, s.read path ≠ .ok bytes) (hf : IsFileFault f) : IsLoadFault s path f
  /-- The file holds no text. -/
  | undecodable {bytes : Encoding.Bytes} {reason : String} (h : s.read path = .ok bytes)
      (htext : Encoding.readUtf8 bytes = .error reason) : IsLoadFault s path (.undecodable reason)
  /-- The text is refused. -/
  | text {bytes : Encoding.Bytes} {text : String} {f : Fault} (h : s.read path = .ok bytes)
      (htext : Encoding.readUtf8 bytes = .ok text) (hf : Config.IsTextFault text.toList f) :
      IsLoadFault s path f

/-- A configuration is loaded from a file, or there is a fault of the file or of its text. -/
theorem Config.load_ends (s : Files) (path : Path) :
    Ends (Config.IsLoadFault s path) Config.Sound (Config.load s path) := by
  unfold Config.load
  cases hread : s.read path with
  | error f =>
    have hunread : ∀ bytes, s.read path ≠ .ok bytes := fun bytes h => by rw [hread] at h; cases h
    refine ends_ite (.error (.file hunread (.inr (.inl ⟨_, rfl⟩)))) ?_
    exact ends_error.mpr (.file hunread ((s.read_fails path).fault hread))
  | ok bytes =>
    rw [s.contains_of_read hread]
    rw [Bool.not_true, if_neg Bool.false_ne_true]
    dsimp only [bind, Except.bind]
    split
    · next text htext => exact (Config.ofText_ends text.toList).mono_fault fun f hf => .text hread htext hf
    · next reason htext => exact .error (.undecodable hread htext)

end MarkupQuery
