import MarkupQuery.Proofs.Config.Loading
import MarkupQuery.Proofs.Yaml.Contents

/-!
# Saving configurations

What is written for a configuration of words is the text of its settings (`Settings.Solid.text_config`), which
is read back word by word. So a configuration of known names, with namespaces between texts of visible
characters, is loaded as it was from the file that it was saved to (`Config.load_save`).
-/

namespace MarkupQuery

open MarkupQuery.Text MarkupQuery.Storage MarkupQuery.Yaml

/-! ## Writing words -/

namespace Yaml

variable {k v : String} {c column : Nat}

theorem writeValue_word (h : Solid v.toList) (position : Position) :
    writeValue position c column (.text v) = ' ' :: writtenWord v.toList := by
  rw [writeValue, writeScalar_solid h]
  all_goals nofun

theorem writeItems_words {xs : List String} (h : ∀ x ∈ xs, Solid x.toList) :
    writeItems false 0 (xs.map .text) = xs.flatMap fun x => '\n' :: '-' :: ' ' :: writtenWord x.toList := by
  induction xs with
  | nil => rw [List.map_nil, writeItems, List.flatMap_nil]
  | cons x xs ih =>
    obtain ⟨hx, hrest⟩ := List.forall_mem_cons.mp h
    rw [List.map_cons, writeItems, writeValue_word hx, ih hrest, List.flatMap_cons, if_neg Bool.false_ne_true]
    rfl

theorem writeValue_list {xs : List String} (h : ∀ x ∈ xs, Solid x.toList) :
    writeValue .afterKey 0 column (listValue xs) = listText xs := by
  rw [listValue, writeValue]
  cases xs with
  | nil => rfl
  | cons x xs =>
    obtain ⟨hx, hrest⟩ := List.forall_mem_cons.mp h
    have hfirst : writeItems true 0 ((x :: xs).map .text) = itemsText x xs := by
      rw [List.map_cons, writeItems, writeValue_word hx, writeItems_words hrest, if_pos rfl, itemsText]
      rfl
    rw [List.isEmpty_map, List.isEmpty_cons, if_neg Bool.false_ne_true, listText]
    exact congrArg ('\n' :: ·) hfirst

theorem writeEntries_cons (hk : Solid k.toList) (hv : Solid v.toList) (first : Bool) (es : List (Datum × Datum)) :
    writeEntries first c ((.text k, .text v) :: es)
      = (if first then [] else lineAt c) ++ entryText c k v ++ writeEntries false c es := by
  rw [writeEntries, entryText]
  simp only [writeScalar_solid hk, writeValue_word hv]
  by_cases hshort : isShortKey (.text k) = true
  · rw [if_pos hshort, if_pos hshort]
  · rw [if_neg hshort, if_neg hshort]
    simp [lineAt]

theorem writeEntries_words {es : List (String × String)} (h : SolidEntries es) :
    writeEntries false c (es.map fun e => (.text e.1, .text e.2))
      = es.flatMap fun e => '\n' :: (spaces c ++ entryText c e.1 e.2) := by
  induction es with
  | nil => rw [List.map_nil, writeEntries, List.flatMap_nil]
  | cons e es ih =>
    obtain ⟨⟨hk, hv⟩, hrest⟩ := List.forall_mem_cons.mp h
    rw [List.map_cons, writeEntries_cons hk hv, ih hrest, List.flatMap_cons, if_neg Bool.false_ne_true]
    rfl

theorem writeValue_map {es : List (String × String)} (h : SolidEntries es) :
    writeValue .afterKey 0 column (mapValue es) = mapText es := by
  rw [mapValue, writeValue]
  cases es with
  | nil => rfl
  | cons e es =>
    obtain ⟨⟨hk, hv⟩, hrest⟩ := List.forall_mem_cons.mp h
    have hfirst : writeEntries true 2 ((e :: es).map fun e => (.text e.1, .text e.2)) = entriesText 2 e es := by
      rw [List.map_cons, writeEntries_cons hk hv, writeEntries_words hrest, if_pos rfl, List.nil_append, entriesText]
    rw [List.isEmpty_map, List.isEmpty_cons, if_neg Bool.false_ne_true, mapText]
    exact congrArg (fun z => '\n' :: (spaces 2 ++ z)) hfirst

/-! ## Writing settings -/

theorem writeEntries_setting (hk : IsKeyName k) (hshort : isShortKey (.text k) = true) (first : Bool) (v : Datum)
    (es : List (Datum × Datum)) {z : Chars} (hv : ∀ column, writeValue .afterKey 0 column v = z) :
    writeEntries first 0 ((.text k, v) :: es)
      = (if first then [] else ['\n']) ++ (writtenWord k.toList ++ ':' :: z) ++ writeEntries false 0 es := by
  rw [writeEntries]
  simp only [writeScalar_solid hk.solid, hv, if_pos hshort]
  rfl

/-- The configuration of settings. -/
def Settings.config (s : Settings) : Config where
  kind := .text s.kind
  options := listValue s.options
  translator := .text s.translator
  namespaces := mapValue s.namespaces

/-- What is written for settings in words is their text. -/
theorem Settings.Solid.text_config {s : Settings} (h : s.Solid) : s.config.text = s.text := by
  have hwrite : s.config.text = writeEntries true 0 [(.text "kind", .text s.kind),
      (.text "options", listValue s.options), (.text "translator", .text s.translator),
      (.text "namespaces", mapValue s.namespaces)] ++ ['\n'] := rfl
  rw [hwrite, writeEntries_setting isKeyName_kind (by decide) _ _ _ fun _ => writeValue_word h.kind _,
    writeEntries_setting isKeyName_options (by decide) _ _ _ fun _ => writeValue_list h.options,
    writeEntries_setting isKeyName_translator (by decide) _ _ _ fun _ => writeValue_word h.translator _,
    writeEntries_setting isKeyName_namespaces (by decide) _ _ _ fun _ => writeValue_map h.namespaces, writeEntries]
  simp [Settings.text, settingText]

end Yaml

/-! ## Loading settings -/

variable {c : Config} {s s' : Files} {path : Path}

theorem Config.ofEntries_entries (c : Config) : Config.ofEntries c.entries = c := rfl

theorem checkNames_entries (c : Config) : checkNames c.entries = .ok () := rfl

/-- Settings that mean something are taken as they stand. -/
theorem Config.ofDatum_entries {vs : List Datum} {es : List (Datum × Datum)} (hsound : c.Sound)
    (hoptions : c.options = .list vs) (hnamespaces : c.namespaces = .dict es) (hkind : c.kind.isGiven = true)
    (htranslator : c.translator.isGiven = true) : Config.ofDatum (.dict c.entries) = .ok c := by
  obtain ⟨⟨n, hparse⟩, ⟨t, hbuild⟩, -⟩ := hsound
  have hlist : checkOptions c.entries = .ok () := by
    have hfound : Datum.get? "options" c.entries = some c.options := rfl
    rw [checkOptions, hfound, hoptions]
  have hdict : checkNamespaces c.entries = .ok () := by
    have hfound : Datum.get? "namespaces" c.entries = some c.namespaces := rfl
    rw [checkNamespaces, hfound, hnamespaces]
  -- nothing is left to its default
  have hgiven : givenEntries c.entries = c.entries := by
    have hoptions : c.options.isGiven = true := by rw [hoptions]; rfl
    have hnamespaces : c.namespaces.isGiven = true := by rw [hnamespaces]; rfl
    simp [givenEntries, Config.entries, hkind, htranslator, hoptions, hnamespaces]
  unfold Config.ofDatum
  dsimp only [bind, Except.bind, pure, Except.pure]
  rw [checkNames_entries, hlist, hdict, hgiven, Config.ofEntries_entries]
  dsimp only
  rw [hparse, hbuild]

/-- A configuration of known names, with namespaces between texts of visible characters. -/
structure Config.Regular (c : Config) : Prop where
  kind : c.kind = .text "html" ∨ c.kind = .text "xml"
  options : ∃ os : List String, c.options = .list (os.map .text) ∧
    ∀ o ∈ os, (ParseOption.ofName? o).isSome = true
  translator : c.translator = .text "xpath" ∨ c.translator = .text "css" ∨ c.translator = .text "shorthand"
  namespaces : ∃ es : List (String × String), c.namespaces = .dict (es.map fun e => (.text e.1, .text e.2)) ∧
    (es.map (·.1)).Nodup ∧ SolidEntries es

theorem solid_of_ofName? {o : String} (h : (ParseOption.ofName? o).isSome = true) : Solid o.toList := by
  -- there are seven names
  unfold ParseOption.ofName? at h
  split at h <;> first | exact ⟨by decide, by decide⟩ | cases h

theorem optionOf_of_ofName? {o : String} (h : (ParseOption.ofName? o).isSome = true) :
    ∃ p, optionOf (.text o) = .ok p := by
  have hname : upperString (trimString o) = o := by
    unfold ParseOption.ofName? at h
    split at h <;> first | decide +kernel | cases h
  obtain ⟨p, hp⟩ := Option.isSome_iff_exists.mp h
  refine ⟨p, ?_⟩
  rw [optionOf, Datum.plain, hname, hp]

theorem documentKind_of_kind (h : c.kind = .text "html" ∨ c.kind = .text "xml") :
    ∃ k, c.documentKind = .ok k := by
  have hhtml : Kind.ofDatum? (.text "html") = some .html := by decide +kernel
  have hxml : Kind.ofDatum? (.text "xml") = some .xml := by decide +kernel
  rcases h with hk | hk
  · exact ⟨.html, by rw [Config.documentKind, hk, hhtml]⟩
  · exact ⟨.xml, by rw [Config.documentKind, hk, hxml]⟩

/-- A list of option names has parse options. -/
theorem parseOptions_of_names {os : List String} (h : c.options = .list (os.map .text))
    (hnames : ∀ o ∈ os, (ParseOption.ofName? o).isSome = true) : ∃ n, c.parseOptions = .ok n := by
  have heach : ∀ v ∈ os.map Datum.text, Ends (fun _ => False) (fun _ => True) (optionOf v) := by
    intro v hv
    obtain ⟨o, ho, rfl⟩ := List.mem_map.mp hv
    obtain ⟨p, hp⟩ := optionOf_of_ofName? (hnames o ho)
    rw [hp]
    exact failsOnly_ok
  have hall := Ends.mapM heach
  rw [Config.parseOptions, h, itemsOfDatum_list]
  dsimp only [bind, Except.bind]
  cases hfound : (os.map Datum.text).mapM optionOf with
  | ok found => exact ⟨_, rfl⟩
  | error f => exact (hall.fault hfound).elim

theorem translator_of_name {v : Datum} (h : v = .text "xpath" ∨ v = .text "css" ∨ v = .text "shorthand")
    (k : Kind) : ∃ t, Translator.ofDatum v k = .ok t := by
  have hpath : lowerString (trimString "xpath") = "xpath" := by decide +kernel
  have hstyle : lowerString (trimString "css") = "css" := by decide +kernel
  have hshorthand : lowerString (trimString "shorthand") = "shorthand" := by decide +kernel
  rcases h with rfl | rfl | rfl <;> rw [Translator.ofDatum, Translator.ofName]
  · rw [hpath]
    exact ⟨.path, rfl⟩
  · rw [hstyle]
    exact ⟨.style (k == .html) Translator.defaultLeading, rfl⟩
  · rw [hshorthand]
    exact ⟨.shorthand, rfl⟩

/-- The settings of a regular configuration mean something. -/
theorem Config.Regular.sound (h : c.Regular) : c.Sound := by
  obtain ⟨os, hos, hnames⟩ := h.options
  obtain ⟨es, hes, -, -⟩ := h.namespaces
  obtain ⟨kind, hkind⟩ := documentKind_of_kind h.kind
  obtain ⟨t, ht⟩ := translator_of_name h.translator kind
  refine ⟨parseOptions_of_names hos hnames, ⟨t, ?_⟩, ⟨_, by rw [hes]; exact mappingOf_dict _⟩⟩
  rw [Config.buildTranslator, hkind]
  exact ht

/-- The settings of a regular configuration are solid. -/
theorem Config.Regular.exists_settings (h : c.Regular) :
    ∃ t : Settings, c = t.config ∧ t.Solid ∧ (t.namespaces.map (·.1)).Nodup := by
  obtain ⟨kind, options, translator, namespaces⟩ := c
  obtain ⟨hkind, ⟨os, rfl, hnames⟩, htranslator, ⟨es, rfl, honce, hsolid⟩⟩ := h
  have hk : ∃ k, kind = .text k ∧ Solid k.toList := by
    rcases hkind with hk | hk
    · exact ⟨_, hk, by decide, by decide⟩
    · exact ⟨_, hk, by decide, by decide⟩
  have ht : ∃ t, translator = .text t ∧ Solid t.toList := by
    rcases htranslator with ht | ht | ht
    · exact ⟨_, ht, by decide, by decide⟩
    · exact ⟨_, ht, by decide, by decide⟩
    · exact ⟨_, ht, by decide, by decide⟩
  obtain ⟨k, rfl, hk⟩ := hk
  obtain ⟨t, rfl, ht⟩ := ht
  exact ⟨⟨k, os, t, es⟩, rfl, ⟨hk, fun o ho => solid_of_ofName? (hnames o ho), ht, hsolid⟩, honce⟩

/-! ## Saving and loading -/

theorem Config.Regular.ofText (h : c.Regular) : Config.ofText c.text = .ok c := by
  obtain ⟨t, rfl, hsolid, honce⟩ := h.exists_settings
  have hvalue : Config.ofDatum t.value = .ok t.config :=
    Config.ofDatum_entries h.sound rfl rfl rfl rfl
  rw [Config.ofText, hsolid.text_config, hsolid.read honce]
  exact hvalue

theorem Config.Regular.load (h : c.Regular) (hsave : c.save s path = .ok s') : Config.load s' path = .ok c := by
  have hread := Files.read_of_write hsave
  have htext : (String.ofList c.text).toList = c.text := String.toList_ofList
  unfold Config.load
  rw [Files.contains_of_read hread, hread]
  dsimp only [bind, Except.bind]
  rw [Encoding.readUtf8_utf8Bytes]
  dsimp only
  rw [htext]
  exact h.ofText

/-- Wherever a file can be written, a configuration is saved and loaded as it was. -/
theorem Config.load_save (h : c.Regular) {bytes : Encoding.Bytes} (hwrite : s.write path bytes = .ok s') :
    (∃ t, c.save s path = .ok t) ∧ ∀ t, c.save s path = .ok t → Config.load t path = .ok c :=
  ⟨Files.exists_write hwrite _, fun _ hsave => h.load hsave⟩

/-- A configuration whose namespaces have names that stand for something else where they are not quoted. -/
def Config.wary : Config :=
  Settings.config ⟨"xml", ["HUGE", "NOBLANKS", "HUGE"], "css", [("on", "0x1F"), ("<<", "a:#b"), ("?", "it's")]⟩

theorem Config.regular_wary : Config.wary.Regular where
  kind := .inr rfl
  options := ⟨["HUGE", "NOBLANKS", "HUGE"], rfl, by decide⟩
  translator := .inr (.inl rfl)
  namespaces := by
    refine ⟨[("on", "0x1F"), ("<<", "a:#b"), ("?", "it's")], rfl, by decide, ?_⟩
    intro e he
    simp only [List.mem_cons, List.not_mem_nil, or_false] at he
    rcases he with rfl | rfl | rfl <;> exact ⟨⟨by decide, by decide⟩, by decide, by decide⟩

theorem load_save_wary : (Files.write {} ⟨"", ["settings.yaml"]⟩ []).isOk = true ∧
    (∃ t, Config.wary.save {} ⟨"", ["settings.yaml"]⟩ = .ok t) ∧
    ∀ t, Config.wary.save {} ⟨"", ["settings.yaml"]⟩ = .ok t →
      Config.load t ⟨"", ["settings.yaml"]⟩ = .ok Config.wary := by
  have hwrite : Files.write {} ⟨"", ["settings.yaml"]⟩ [] = .ok _ := rfl
  exact ⟨rfl, Config.load_save Config.regular_wary hwrite⟩

end MarkupQuery
