import MarkupQuery.Yaml.Value
import MarkupQuery.Proofs.Yaml.Settings
import MarkupQuery.Proofs.Yaml.Values

/-!
# The values of settings

Tokens of words are read as nodes (`readDocument_tokens`) and built into values (`build_node`): a word has no
other meaning than its text, whether it stands plain or between quotes, and keys that differ are all kept in
their order. With the tokens of settings this gives what is read from their text (`Settings.Solid.read`).
-/

namespace MarkupQuery.Yaml

open MarkupQuery.Text

variable {handles : Handles} {place : Place} {fuel : Nat} {r ts : List Token} {v : Node} {s : Source}
  {t : Chars} {k : String}

/-! ## Nodes of words -/

/-- The node of a word. -/
def wordNode (t : String) : Node := .scalar .str t.toList

theorem scalarTag_word (t : Chars) : scalarTag none (isPlainWord t) t = .str := by
  rw [scalarTag]
  split
  · next h =>
    rw [isPlainWord, Bool.and_eq_true] at h
    exact beq_iff_eq.mp h.1
  · rfl

theorem readNode_word (t : String) (r : List Token) :
    readNode handles place (fuel + 1) ⟨wordToken t.toList :: r, []⟩ = .ok (wordNode t, ⟨r, []⟩) := by
  rw [readNode, wordNode, ← scalarTag_word]
  rfl

theorem readOptional_word (t : String) (r : List Token) {enders : List String} (h : enders.contains "" = false) :
    readOptional handles place enders (fuel + 2) ⟨wordToken t.toList :: r, []⟩ = .ok (wordNode t, ⟨r, []⟩) := by
  have hnode : leavesOut enders (wordToken t.toList) = false := h
  have hpeek : Source.peek ⟨wordToken t.toList :: r, []⟩ = .ok (wordToken t.toList) := rfl
  rw [readOptional, hpeek]
  dsimp only [bind, Except.bind]
  rw [hnode, if_neg Bool.false_ne_true, readNode_word]

/-! ## Nodes of collections -/

theorem readBareItems_cons {vs : List Node} {s' : Source}
    (hitem : readOptional handles .block ["-", "?", ":", "end"] fuel ⟨ts, []⟩ = .ok (v, s))
    (hrest : readBareItems handles fuel s = .ok (vs, s')) :
    readBareItems handles (fuel + 1) ⟨.blockEntry :: ts, []⟩ = .ok (v :: vs, s') := by
  have hpop : Source.pop ⟨.blockEntry :: ts, []⟩ = ⟨ts, []⟩ := rfl
  rw [readBareItems]
  simp only [Source.peek, bind, Except.bind, hpop, hitem, hrest]
  rfl

/-- Items are read up to the key after them. -/
theorem readBareItems_words (xs : List String) (r : List Token) :
    readBareItems handles (xs.length + (fuel + 2)) ⟨itemsTokens xs ++ .key :: r, []⟩
      = .ok (xs.map wordNode, ⟨.key :: r, []⟩) := by
  induction xs with
  | nil => rfl
  | cons x xs ih =>
    rw [List.length_cons, Nat.add_right_comm]
    exact readBareItems_cons (readOptional_word x _ (by decide)) ih

theorem readEntries_cons {es : List (Node × Node)} {s' : Source}
    (hvalue : readOptional handles .entry ["?", ":", "end"] (fuel + 1) ⟨ts, []⟩ = .ok (v, s))
    (hrest : readEntries handles (fuel + 2) s = .ok (es, s')) :
    readEntries handles (fuel + 3) ⟨settingTokens k ts, []⟩ = .ok ((wordNode k, v) :: es, s') := by
  have hkey : readOptional handles .entry ["?", ":", "end"] (fuel + 2) ⟨wordToken k.toList :: .value :: ts, []⟩
      = .ok (wordNode k, ⟨.value :: ts, []⟩) := readOptional_word k _ (by decide)
  have hpop : Source.pop ⟨settingTokens k ts, []⟩ = ⟨wordToken k.toList :: .value :: ts, []⟩ := rfl
  have hblock : readBlockValue handles (fuel + 2) ⟨.value :: ts, []⟩ = .ok (v, s) := by
    rw [readBlockValue]
    exact hvalue
  rw [readEntries]
  simp only [Source.peek, settingTokens, bind, Except.bind]
  rw [← settingTokens, hpop, hkey]
  dsimp only
  rw [hblock]
  dsimp only
  rw [hrest]
  rfl

theorem readEntries_words (es : List (String × String)) (r : List Token) :
    readEntries handles (es.length + (fuel + 3)) ⟨entriesTokens es ++ .blockEnd :: r, []⟩
      = .ok (es.map fun e => (wordNode e.1, wordNode e.2), ⟨r, []⟩) := by
  induction es with
  | nil => rfl
  | cons e es ih =>
    rw [List.length_cons, Nat.add_right_comm]
    refine readEntries_cons (readOptional_word e.2 _ (by decide)) ?_
    exact ih

/-- The node of a list of words. -/
def listNode (xs : List String) : Node := .sequence .seq (xs.map wordNode)

/-- The node of a mapping of words. -/
def mapNode (es : List (String × String)) : Node := .mapping .map (es.map fun e => (wordNode e.1, wordNode e.2))

theorem readNode_bareItems {vs : List Node} (h : readBareItems handles fuel ⟨.blockEntry :: ts, []⟩ = .ok (vs, s)) :
    readNode handles .entry (fuel + 1) ⟨.blockEntry :: ts, []⟩ = .ok (.sequence .seq vs, s) := by
  have hpeek : Source.peek ⟨.blockEntry :: ts, []⟩ = .ok .blockEntry := rfl
  have hproperties : properties ⟨.blockEntry :: ts, []⟩ = .ok (none, none, ⟨.blockEntry :: ts, []⟩) := rfl
  rw [readNode, hpeek]
  dsimp only [bind, Except.bind]
  rw [hproperties]
  simp only [Option.mapM_none, pure, Except.pure, hpeek, Source.fresh, Source.name, Option.any_none]
  simp [h, collectionTag]

theorem readNode_entries {es : List (Node × Node)} (hplace : place ≠ .flow)
    (h : readEntries handles fuel ⟨ts, []⟩ = .ok (es, s)) :
    readNode handles place (fuel + 1) ⟨.blockMapping :: ts, []⟩ = .ok (.mapping .map es, s) := by
  have hpeek : Source.peek ⟨.blockMapping :: ts, []⟩ = .ok .blockMapping := rfl
  have hpop : Source.pop ⟨.blockMapping :: ts, []⟩ = ⟨ts, []⟩ := rfl
  have hproperties : properties ⟨.blockMapping :: ts, []⟩ = .ok (none, none, ⟨.blockMapping :: ts, []⟩) := rfl
  rw [readNode, hpeek]
  dsimp only [bind, Except.bind]
  rw [hproperties]
  simp only [Option.mapM_none, pure, Except.pure, hpeek, Source.fresh, Source.name, Option.any_none]
  simp [h, hpop, hplace, collectionTag]

theorem readOptional_list {xs : List String} (h : xs.length + 4 ≤ fuel) (r : List Token) :
    readOptional handles .entry ["?", ":", "end"] fuel ⟨listTokens xs ++ .key :: r, []⟩
      = .ok (listNode xs, ⟨.key :: r, []⟩) := by
  obtain ⟨n, rfl⟩ : ∃ n, fuel = xs.length + (n + 2) + 2 := ⟨fuel - xs.length - 4, by omega⟩
  cases xs with
  | nil => rfl
  | cons x xs =>
    rw [readOptional]
    exact readNode_bareItems (readBareItems_words (x :: xs) r)

theorem readOptional_map {es : List (String × String)} (h : es.length + 5 ≤ fuel) (r : List Token) :
    readOptional handles .entry ["?", ":", "end"] fuel ⟨mapTokens es ++ r, []⟩ = .ok (mapNode es, ⟨r, []⟩) := by
  obtain ⟨n, rfl⟩ : ∃ n, fuel = es.length + (n + 3) + 2 := ⟨fuel - es.length - 5, by omega⟩
  cases es with
  | nil => rfl
  | cons e es =>
    have hplace : Place.entry ≠ .flow := by decide
    have hentries : readEntries handles ((e :: es).length + (n + 3))
        ⟨entriesTokens (e :: es) ++ .blockEnd :: r, []⟩ = .ok (_, ⟨r, []⟩) := readEntries_words (e :: es) r
    rw [mapTokens, List.isEmpty_cons, if_neg Bool.false_ne_true, List.cons_append, List.cons_append,
      List.append_assoc, readOptional]
    exact readNode_entries hplace hentries

/-! ## The node of settings -/

/-- The node of settings. -/
def Settings.node (s : Settings) : Node :=
  .mapping .map [(wordNode "kind", wordNode s.kind), (wordNode "options", listNode s.options),
    (wordNode "translator", wordNode s.translator), (wordNode "namespaces", mapNode s.namespaces)]

theorem length_le_flatMap {α : Type} (f : α → List Token) (h : ∀ x, f x ≠ []) (xs : List α) :
    xs.length ≤ (xs.flatMap f).length := by
  induction xs with
  | nil => exact Nat.zero_le _
  | cons x xs ih =>
    have hx := List.length_pos_iff.mpr (h x)
    rw [List.flatMap_cons, List.length_append, List.length_cons]
    omega

theorem length_le_listTokens (xs : List String) : xs.length ≤ (listTokens xs).length := by
  cases xs with
  | nil => exact Nat.zero_le _
  | cons x xs =>
    have hitems : (x :: xs).length ≤ (itemsTokens (x :: xs)).length :=
      length_le_flatMap _ (fun _ => List.cons_ne_nil _ _) (x :: xs)
    exact hitems

theorem length_le_mapTokens (es : List (String × String)) : es.length ≤ (mapTokens es).length := by
  cases es with
  | nil => exact Nat.zero_le _
  | cons e es =>
    have hentries : (e :: es).length ≤ (entriesTokens (e :: es)).length :=
      length_le_flatMap _ (fun _ => List.cons_ne_nil _ _) (e :: es)
    simp only [mapTokens, List.isEmpty_cons, Bool.false_eq_true, if_false, List.length_append, List.length_cons]
      at hentries ⊢
    omega

/-- The node of a block that reaches to the end is that of the document. -/
theorem readDocument_block (h : readNode defaultHandles .block (4 * (.blockMapping :: ts).length + 4)
    ⟨.blockMapping :: ts, []⟩ = .ok (v, ⟨[.streamEnd], []⟩)) :
    readDocument (.blockMapping :: ts) = .ok (some v) := by
  unfold readDocument
  dsimp only
  rw [h]
  rfl

theorem readDocument_tokens (s : Settings) : readDocument s.tokens = .ok (some s.node) := by
  have hoptions := length_le_listTokens s.options
  have hnamespaces := length_le_mapTokens s.namespaces
  have hlength : s.tokens.length = (listTokens s.options).length + (mapTokens s.namespaces).length + 17 := by
    simp [Settings.tokens, settingTokens]
    omega
  -- an entry or an item takes one step of the fuel, and has tokens of its own for it
  obtain ⟨n, hfuel⟩ : ∃ n, 4 * s.tokens.length + 4 = (s.options.length + s.namespaces.length + n + 10) + 1 :=
    ⟨4 * s.tokens.length + 4 - (s.options.length + s.namespaces.length + 11), by omega⟩
  have hnode : readNode defaultHandles .block (4 * s.tokens.length + 4) ⟨s.tokens, []⟩
      = .ok (s.node, ⟨[.streamEnd], []⟩) := by
    have hplace : Place.block ≠ .flow := by decide
    rw [hfuel, Settings.tokens]
    refine readNode_entries hplace ?_
    refine readEntries_cons (readOptional_word s.kind _ (by decide)) ?_
    refine readEntries_cons (readOptional_list (by omega) _) ?_
    refine readEntries_cons (readOptional_word s.translator _ (by decide)) ?_
    refine readEntries_cons (readOptional_map (by omega) _) ?_
    rfl
  exact readDocument_block hnode

/-! ## Values -/

variable {make : Node → Built Datum} {level : Nat} {es : List (Node × Node)} {vs : List (Datum × Datum)}

theorem build_word (t : String) : build (fuel + 1) level (wordNode t) = .ok (.text t) := by
  have hvalue : scalarValue .str t.toList = .ok (.text t) := by
    rw [scalarValue, String.ofList_toList]
  have htext : scalarText fuel (wordNode t) = .ok t.toList := by
    cases fuel <;> rfl
  have hbuild : build (fuel + 1) level (wordNode t)
      = Built.lift level ((scalarText fuel (wordNode t)).bind (scalarValue .str)) := rfl
  rw [hbuild, htext, Except.bind, hvalue]
  rfl

theorem buildAll_words (h : ∀ t, make (wordNode t) = .ok (.text t)) (xs : List String) :
    buildAll make (xs.map wordNode) = .ok (xs.map .text) := by
  induction xs with
  | nil => rfl
  | cons x xs ih =>
    rw [List.map_cons, buildAll, h, ih]
    rfl

theorem buildEntries_cons {v : Node} {d : Datum} (hkey : make (wordNode k) = .ok (.text k)) (hvalue : make v = .ok d)
    (hrest : buildEntries make level es = .ok vs) :
    buildEntries make level ((wordNode k, v) :: es) = .ok ((.text k, d) :: vs) := by
  rw [buildEntries, hkey, hvalue, hrest]
  rfl

theorem buildEntries_words (h : ∀ t, make (wordNode t) = .ok (.text t)) (es : List (String × String)) :
    buildEntries make level (es.map fun e => (wordNode e.1, wordNode e.2))
      = .ok (es.map fun e => (.text e.1, .text e.2)) := by
  induction es with
  | nil => rfl
  | cons e es ih => exact buildEntries_cons (h e.1) (h e.2) ih

/-- Where all keys are words, nothing is merged. -/
theorem splitMerges_words (h : ∀ e ∈ es, ∃ t, e.1 = wordNode t) : splitMerges es = .ok ([], es) := by
  induction es with
  | nil => rfl
  | cons e es ih =>
    obtain ⟨k, v⟩ := e
    obtain ⟨⟨t, rfl⟩, hrest⟩ := List.forall_mem_cons.mp h
    rw [wordNode, splitMerges, ih hrest]
    · rfl
    all_goals
      intro _ _ hsame
      cases hsame

/-- An entry with a new key comes last. -/
theorem put_of_new {key : Datum} (h : ∀ e ∈ vs, e.1.same key = false) (value : Datum) :
    Datum.put key value vs = vs ++ [(key, value)] := by
  induction vs with
  | nil => rfl
  | cons e vs ih =>
    obtain ⟨hfirst, hrest⟩ := List.forall_mem_cons.mp h
    rw [Datum.put, hfirst, if_neg Bool.false_ne_true, ih hrest, List.cons_append]

/-- Entries whose keys stand once are kept as they are. -/
theorem mappingValue_of_keysOnce (h : KeysOnce vs) : mappingValue vs = .dict vs := by
  -- the entries that were put are in front of the others
  suffices hfold : ∀ before, KeysOnce (before ++ vs) →
      vs.foldl (fun d e => Datum.put e.1 e.2 d) before = before ++ vs by
    rw [mappingValue, hfold [] h, List.nil_append]
  clear h
  induction vs with
  | nil => exact fun before _ => (List.append_nil before).symm
  | cons e vs ih =>
    intro before h
    have hnew : ∀ f ∈ before, f.1.same e.1 = false := by
      intro f hf
      rw [KeysOnce, List.map_append, List.pairwise_append] at h
      exact h.2.2 f.1 (List.mem_map_of_mem hf) e.1 (List.mem_map_of_mem List.mem_cons_self)
    rw [List.foldl_cons, put_of_new hnew, ih _ (by simpa using h), List.append_assoc, List.singleton_append]

theorem build_mapping (hwords : ∀ e ∈ es, ∃ t, e.1 = wordNode t)
    (hentries : buildEntries (build fuel (level + 1)) (level + 1) es = .ok vs) (honce : KeysOnce vs) :
    build (fuel + 1) level (.mapping .map es) = .ok (.dict vs) := by
  -- nothing is merged into the mapping, and no entry replaces another one
  have hmerged : mergedEntries es = .ok es := by
    rw [mergedEntries, splitMerges_words hwords]
    rfl
  have hbuild : build (fuel + 1) level (.mapping .map es)
      = (Built.lift (level + 1) (mergedEntries es)).bind fun es =>
          (buildEntries (build fuel (level + 1)) (level + 1) es).map mappingValue := rfl
  rw [hbuild, hmerged, ← mappingValue_of_keysOnce honce]
  dsimp only [Built.lift, Except.bind]
  rw [hentries]
  rfl

theorem keysOnce_texts {es : List (String × Datum)} (h : (es.map (·.1)).Nodup) :
    KeysOnce (es.map fun e => (.text e.1, e.2)) := by
  have hkeys : (es.map fun e => ((.text e.1, e.2) : Datum × Datum)).map (·.1) = (es.map (·.1)).map Datum.text := by
    simp
  rw [KeysOnce, hkeys, List.pairwise_map]
  refine h.imp fun hne => ?_
  rw [Datum.same]
  exact beq_eq_false_iff_ne.mpr hne

/-- The value of a list of words. -/
def listValue (xs : List String) : Datum := .list (xs.map .text)

/-- The value of a mapping of words. -/
def mapValue (es : List (String × String)) : Datum := .dict (es.map fun e => (.text e.1, .text e.2))

theorem build_list (xs : List String) : build (fuel + 2) level (listNode xs) = .ok (listValue xs) := by
  have hbuild : build (fuel + 2) level (listNode xs)
      = (buildAll (build (fuel + 1) (level + 1)) (xs.map wordNode)).map .list := rfl
  rw [hbuild, buildAll_words build_word]
  rfl

theorem build_map {es : List (String × String)} (h : (es.map (·.1)).Nodup) :
    build (fuel + 2) level (mapNode es) = .ok (mapValue es) := by
  have honce : KeysOnce (es.map fun e => (.text e.1, .text e.2)) := by
    have hkeys : KeysOnce ((es.map fun e => (e.1, Datum.text e.2)).map fun e => (.text e.1, e.2)) :=
      keysOnce_texts (by simpa [Function.comp_def] using h)
    simpa [Function.comp_def] using hkeys
  refine build_mapping ?_ (buildEntries_words build_word es) honce
  intro e he
  obtain ⟨f, -, rfl⟩ := List.mem_map.mp he
  exact ⟨f.1, rfl⟩

/-- The value of settings. -/
def Settings.value (s : Settings) : Datum :=
  .dict [(.text "kind", .text s.kind), (.text "options", listValue s.options),
    (.text "translator", .text s.translator), (.text "namespaces", mapValue s.namespaces)]

theorem build_node {s : Settings} (h : (s.namespaces.map (·.1)).Nodup) :
    build (fuel + 3) level s.node = .ok s.value := by
  have hnames : ["kind", "options", "translator", "namespaces"].Nodup := by decide
  have honce : KeysOnce ([("kind", Datum.text s.kind), ("options", listValue s.options),
      ("translator", .text s.translator), ("namespaces", mapValue s.namespaces)].map fun e => (.text e.1, e.2)) :=
    keysOnce_texts hnames
  refine build_mapping ?_ ?_ honce
  · intro e he
    simp only [List.mem_cons, List.not_mem_nil, or_false] at he
    rcases he with rfl | rfl | rfl | rfl <;> exact ⟨_, rfl⟩
  · refine buildEntries_cons (build_word _) (build_word s.kind) ?_
    refine buildEntries_cons (build_word _) (build_list s.options) ?_
    refine buildEntries_cons (build_word _) (build_word s.translator) ?_
    exact buildEntries_cons (build_word _) (build_map h) rfl

/-! ## Texts -/

/-- A text of lines of visible characters and spaces. -/
def Printed (z : Chars) : Prop := ∀ c ∈ z, c = '\n' ∨ isInline c = true

variable {w z : Chars}

theorem Printed.append (hw : Printed w) (hz : Printed z) : Printed (w ++ z) :=
  List.forall_mem_append.mpr ⟨hw, hz⟩

theorem Printed.cons {c : Char} (hc : c = '\n' ∨ isInline c = true) (hz : Printed z) : Printed (c :: z) :=
  List.forall_mem_cons.mpr ⟨hc, hz⟩

theorem Printed.flatMap {α : Type} {xs : List α} {f : α → Chars} (h : ∀ x ∈ xs, Printed (f x)) :
    Printed (xs.flatMap f) := by
  intro c hc
  obtain ⟨x, hx, hmem⟩ := List.mem_flatMap.mp hc
  exact h x hx c hmem

theorem printed_nil : Printed [] := nofun

theorem printed_spaces (n : Nat) : Printed (spaces n) := fun c hc => .inr (isInline_spaces n c hc)

theorem printed_word (h : Solid t) : Printed (writtenWord t) := by
  have hvisible : ∀ c ∈ writtenWord t, isVisible c = true := by
    rw [writtenWord]
    split
    · exact h.visible
    · have hquoted := isVisible_doubleQuotes h.visible
      exact List.forall_mem_cons.mpr ⟨rfl, List.forall_mem_append.mpr
        ⟨hquoted, List.forall_mem_singleton.mpr rfl⟩⟩
  exact fun c hc => .inr (isInline_of_isVisible (hvisible c hc))

theorem printed_entryText {v : String} (hk : Solid k.toList) (hv : Solid v.toList) (c : Nat) :
    Printed (entryText c k v) := by
  rw [entryText]
  split
  · exact (printed_word hk).append (.cons (.inr rfl) (.cons (.inr rfl) (printed_word hv)))
  · refine .cons (.inr rfl) (.cons (.inr rfl) ((printed_word hk).append (.cons (.inl rfl) ?_)))
    exact (printed_spaces c).append (.cons (.inr rfl) (.cons (.inr rfl) (printed_word hv)))

theorem printed_listText {xs : List String} (h : ∀ x ∈ xs, Solid x.toList) : Printed (listText xs) := by
  cases xs with
  | nil => exact .cons (.inr rfl) (.cons (.inr rfl) (.cons (.inr rfl) printed_nil))
  | cons x xs =>
    obtain ⟨hx, hrest⟩ := List.forall_mem_cons.mp h
    refine .cons (.inl rfl) (.cons (.inr rfl) (.cons (.inr rfl) ((printed_word hx).append (.flatMap ?_))))
    exact fun y hy => .cons (.inl rfl) (.cons (.inr rfl) (.cons (.inr rfl) (printed_word (hrest y hy))))

theorem printed_mapText {es : List (String × String)} (h : SolidEntries es) : Printed (mapText es) := by
  cases es with
  | nil => exact .cons (.inr rfl) (.cons (.inr rfl) (.cons (.inr rfl) printed_nil))
  | cons e es =>
    obtain ⟨⟨hk, hv⟩, hrest⟩ := List.forall_mem_cons.mp h
    refine .cons (.inl rfl) ((printed_spaces 2).append ((printed_entryText hk hv 2).append (.flatMap ?_)))
    intro f hf
    obtain ⟨hk, hv⟩ := hrest f hf
    exact .cons (.inl rfl) ((printed_spaces 2).append (printed_entryText hk hv 2))

theorem IsKeyName.printed (hk : IsKeyName k) {v : Chars} (hv : Printed v) : Printed (settingText k v) :=
  (printed_word hk.solid).append (.cons (.inr rfl) (hv.append (.cons (.inl rfl) printed_nil)))

theorem Settings.Solid.printed {s : Settings} (h : s.Solid) : Printed s.text := by
  refine (isKeyName_kind.printed (.cons (.inr rfl) (printed_word h.kind))).append ?_
  refine (isKeyName_options.printed (printed_listText h.options)).append ?_
  refine (isKeyName_translator.printed (.cons (.inr rfl) (printed_word h.translator))).append ?_
  exact isKeyName_namespaces.printed (printed_mapText h.namespaces)

theorem Printed.unifyLineEnds (h : Printed z) : unifyLineEnds z = z := by
  fun_induction Yaml.unifyLineEnds z with
  | case1 | case2 => exact absurd (h '\r' List.mem_cons_self) (by decide)
  | case3 c z _ _ ih => rw [ih fun d hd => h d (List.mem_cons_of_mem c hd)]
  | case4 => rfl

theorem Printed.isAllowed (h : Printed z) : z.all isAllowed = true := by
  rw [List.all_eq_true]
  intro c hc
  rcases h c hc with rfl | hc
  · rfl
  · rw [isInline, Bool.or_eq_true, beq_iff_eq] at hc
    rcases hc with rfl | hc
    · rfl
    · obtain ⟨hlow, hhigh⟩ := le_of_isVisible hc
      have hspace : 0x20 ≤ c.toNat := Nat.le_of_lt hlow
      simp [Yaml.isAllowed, hspace, hhigh]

/-- Settings are read back from their text. -/
theorem Settings.Solid.read {s : Settings} (h : s.Solid) (honce : (s.namespaces.map (·.1)).Nodup) :
    Yaml.read s.text = .ok (some s.value) := by
  -- settings are three levels deep, far less than the fuel
  have hbuild : build (4 * s.tokens.length + 4) 0 s.node = .ok s.value := build_node honce
  unfold Yaml.read
  dsimp only
  rw [h.printed.unifyLineEnds, h.printed.isAllowed, h.tokensOf, readDocument_tokens]
  dsimp only [bind, Except.bind, pure, Except.pure]
  rw [hbuild]
  rfl

end MarkupQuery.Yaml
