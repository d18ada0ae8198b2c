import MarkupQuery.Proofs.Yaml.Lines

/-!
# The tokens of settings

The written form of settings is put together from words: an entry of a mapping on one line or two, an item of
a list, a setting with its value. Reading takes the parts one after the other, each by the lemma about it, and
comes to the tokens of the parts in order (`Settings.Solid.tokensOf`).
-/

namespace MarkupQuery.Yaml

open MarkupQuery.Text

variable {z w : Chars} {c n : Nat} {T ts ends opening : List Token} {I I' I'' : Int} {O O' O'' : List Int}
  {a : Bool}

/-! ## Entries -/

/-- The written form of an entry. A long key stands on a line of its own. -/
def entryText (c : Nat) (k v : String) : Chars :=
  if isShortKey (.text k) then writtenWord k.toList ++ ':' :: ' ' :: writtenWord v.toList
  else '?' :: ' ' :: (writtenWord k.toList ++ '\n' :: (spaces c ++ ':' :: ' ' :: writtenWord v.toList))

/-- The tokens of an entry. -/
def entryTokens (k v : String) : List Token := [.key, wordToken k.toList, .value, wordToken v.toList]

theorem length_doubleQuotes_le (s : Chars) : (doubleQuotes s).length ≤ 2 * s.length := by
  induction s with
  | nil => exact Nat.le_refl 0
  | cons c s ih =>
    by_cases h : c = '\''
    · rw [h, doubleQuotes_quote, List.length_cons, List.length_cons, List.length_cons]
      omega
    · rw [doubleQuotes_cons h, List.length_cons, List.length_cons]
      omega

theorem length_writtenWord_le (s : Chars) : (writtenWord s).length ≤ 2 * s.length + 2 := by
  rw [writtenWord]
  split
  · omega
  · have h := length_doubleQuotes_le s
    simp only [List.length_cons, List.length_append, List.length_nil]
    omega

theorem length_of_isShortKey {k : String} (h : isShortKey (.text k) = true) : k.toList.length < 128 := by
  simp only [isShortKey, scalarOf, Bool.and_eq_true] at h
  have hlimit : tagLength .str + k.toList.length < keyLimit := of_decide_eq_true h.1.1
  exact Nat.lt_of_le_of_lt (Nat.le_add_left ..) hlimit

theorem startsSeparator_spaces (hn : 0 < n) (z : Chars) : startsSeparator (spaces n ++ z) = false := by
  cases n with
  | zero => cases hn
  | succ n => exact startsSeparator_eq_false (c := ' ') (by decide) _

/-- After an entry on lines of its own reading goes on at the next line. -/
theorem Point.Yields.entry {k v : String}
    (h : Point.Yields ⟨z, n, T ++ opening ++ entryTokens k v ++ ends, I'', O'', true⟩ ts)
    (hk : Solid k.toList) (hv : Solid v.toList) (hc : 0 < c) (hz : Opens z)
    (hsep : startsSeparator (spaces n ++ z) = false) (hopens : OpensBlock c I O c O' opening)
    (hcloses : Closes n c O' I'' O'' ends) (hn : n ≤ c) :
    Point.Yields ⟨entryText c k v ++ '\n' :: (spaces n ++ z), c, T, I, O, true⟩ ts := by
  rw [entryText]
  split
  · next hshort =>
    have hlength := length_of_isShortKey hshort
    have hwritten := length_writtenWord_le k.toList
    rw [List.append_assoc, List.cons_append, List.cons_append]
    refine Point.Yields.key ?_ hk (by omega) hopens rfl (.inl hc)
    refine Point.Yields.blank ?_ (opens_writtenWord hv _) (by omega)
    refine Point.Yields.wordLine ?_ hv hz hsep hcloses (by omega) (by omega)
    simpa [entryTokens] using h
  · rw [List.cons_append, List.cons_append, List.append_assoc, List.cons_append, List.append_assoc]
    have hcolon : Opens (':' :: ' ' :: writtenWord v.toList ++ '\n' :: (spaces n ++ z)) := opens_cons (by decide) _
    -- the key and the value are words on two lines
    refine Point.Yields.keyMark ?_ hopens rfl
    refine Point.Yields.blank ?_ (opens_writtenWord hk _) (by omega)
    refine Point.Yields.wordLine ?_ hk hcolon (startsSeparator_spaces hc _) (.stay (Int.le_refl _) _)
      (by omega) (by omega)
    rw [List.append_nil]
    refine Point.Yields.valueMark ?_ rfl
    refine Point.Yields.blank ?_ (opens_writtenWord hv _) (by omega)
    refine Point.Yields.wordLine ?_ hv hz hsep hcloses (by omega) (by omega)
    simpa [entryTokens] using h

/-! ## Namespaces -/

/-- The written form of some entries, one at least, each on lines of its own. -/
def entriesText (c : Nat) (e : String × String) (es : List (String × String)) : Chars :=
  entryText c e.1 e.2 ++ es.flatMap fun e => '\n' :: (spaces c ++ entryText c e.1 e.2)

/-- The tokens of some entries. -/
def entriesTokens (es : List (String × String)) : List Token := es.flatMap fun e => entryTokens e.1 e.2

/-- Entries of solid texts. -/
def SolidEntries (es : List (String × String)) : Prop := ∀ e ∈ es, Solid e.1.toList ∧ Solid e.2.toList

theorem opens_entryText {k : String} (hk : Solid k.toList) (v : String) (w : Chars) :
    Opens (entryText c k v ++ w) := by
  rw [entryText]
  split
  · rw [List.append_assoc]
    exact opens_writtenWord hk _
  · exact opens_cons (by decide) _

/-- After entries that are indented reading goes on at the next line that is not. -/
theorem Point.Yields.entries {e : String × String} {es : List (String × String)}
    (h : Point.Yields ⟨z, 0, T ++ opening ++ entriesTokens (e :: es) ++ [.blockEnd], I', O', true⟩ ts)
    (hsolid : SolidEntries (e :: es)) (hc : 0 < c) (hz : Opens z) (hsep : startsSeparator z = false)
    (hopens : OpensBlock c I O c (I' :: O') opening) (hI : I' ≤ 0) :
    Point.Yields ⟨entriesText c e es ++ '\n' :: z, c, T, I, O, true⟩ ts := by
  -- the block is opened by the first entry only, and closed after the last one
  induction es generalizing e T I O opening with
  | nil =>
    obtain ⟨hk, hv⟩ := hsolid e List.mem_cons_self
    have hcloses : Closes (0 : Nat) (c : Int) (I' :: O') I' O' [.blockEnd] :=
      .leave (by omega) (.stay hI O')
    simp only [entriesText, List.flatMap_nil, List.append_nil]
    refine Point.Yields.entry (n := 0) ?_ hk hv hc hz hsep hopens hcloses (Nat.zero_le c)
    simpa [entriesTokens] using h
  | cons e' es ih =>
    obtain ⟨⟨hk, hv⟩, hrest⟩ := List.forall_mem_cons.mp hsolid
    have hnext := ih (e := e') (T := T ++ opening ++ entryTokens e.1 e.2)
      (by simpa [entriesTokens] using h) hrest (.inside rfl)
    have hopen : Opens (entriesText c e' es ++ '\n' :: z) := by
      rw [entriesText, List.append_assoc]
      exact opens_entryText (hrest e' List.mem_cons_self).1 _ _
    have hentry := Point.Yields.entry (n := c) (by simpa using hnext) hk hv hc hopen
      (startsSeparator_spaces hc _) hopens (.stay (Int.le_refl _) _) (Nat.le_refl c)
    simpa [entriesText] using hentry

/-! ## Options -/

/-- The written form of some items, one at least, each on a line of its own. -/
def itemsText (x : String) (xs : List String) : Chars :=
  '-' :: ' ' :: (writtenWord x.toList ++ xs.flatMap fun x => '\n' :: '-' :: ' ' :: writtenWord x.toList)

/-- The tokens of some items. -/
def itemsTokens (xs : List String) : List Token := xs.flatMap fun x => [.blockEntry, wordToken x.toList]

/-- After an item that is not indented reading goes on at the next line. -/
theorem Point.Yields.item {x : String}
    (h : Point.Yields ⟨z, 0, T ++ [.blockEntry, wordToken x.toList], 0, O, true⟩ ts) (hx : Solid x.toList)
    (hz : Opens z) (hsep : startsSeparator z = false) :
    Point.Yields ⟨'-' :: ' ' :: (writtenWord x.toList ++ '\n' :: z), 0, T, 0, O, true⟩ ts := by
  refine Point.Yields.dash ?_ rfl (by simp [startsSeparator])
  refine Point.Yields.blank ?_ (opens_writtenWord hx _) (by omega)
  refine Point.Yields.wordLine (n := 0) ?_ hx hz hsep (.stay (Int.le_refl _) _) (by omega) (by omega)
  simpa using h

/-- After items that are not indented reading goes on at the next line. -/
theorem Point.Yields.items {x : String} {xs : List String}
    (h : Point.Yields ⟨z, 0, T ++ itemsTokens (x :: xs), 0, O, true⟩ ts)
    (hsolid : ∀ y ∈ x :: xs, Solid y.toList) (hz : Opens z) (hsep : startsSeparator z = false) :
    Point.Yields ⟨itemsText x xs ++ '\n' :: z, 0, T, 0, O, true⟩ ts := by
  induction xs generalizing x T with
  | nil =>
    have hx := hsolid x List.mem_cons_self
    simp only [itemsText, List.flatMap_nil, List.append_nil]
    exact Point.Yields.item (by simpa [itemsTokens] using h) hx hz hsep
  | cons x' xs ih =>
    obtain ⟨hx, hrest⟩ := List.forall_mem_cons.mp hsolid
    have hnext := ih (x := x') (T := T ++ [.blockEntry, wordToken x.toList])
      (by simpa [itemsTokens] using h) hrest
    have hopen : Opens (itemsText x' xs ++ '\n' :: z) := opens_cons (by decide) _
    have hplace : startsSeparator (itemsText x' xs ++ '\n' :: z) = false := by
      simp [startsSeparator, itemsText]
    simpa [itemsText] using Point.Yields.item hnext hx hopen hplace

/-! ## Values on further lines -/

/-- What follows the colon before a list of words. -/
def listText : List String → Chars
  | [] => [' ', '[', ']']
  | x :: xs => '\n' :: itemsText x xs

theorem endsWord_listText (xs : List String) : endsWord (listText xs).head? = true := by
  cases xs <;> rfl

/-- The tokens of a list of words. -/
def listTokens (xs : List String) : List Token := if xs.isEmpty then [.openList, .closeList] else itemsTokens xs

/-- After a list that is a value at the start of a line reading goes on at the next line. -/
theorem Point.Yields.listValue {xs : List String}
    (h : Point.Yields ⟨z, 0, T ++ listTokens xs, 0, O, true⟩ ts) (hsolid : ∀ x ∈ xs, Solid x.toList)
    (hz : Opens z) (hsep : startsSeparator z = false) :
    Point.Yields ⟨listText xs ++ '\n' :: z, c, T, 0, O, false⟩ ts := by
  have hstay : Closes (0 : Nat) 0 O 0 O [] := .stay (Int.le_refl _) O
  cases xs with
  | nil =>
    refine Point.Yields.blank ?_ (opens_cons (by decide) _) (by omega)
    refine Point.Yields.brackets ?_ .list (by omega)
    refine Point.Yields.newLine (n := 0) ?_ hz hstay
    simpa [listTokens] using h
  | cons x xs =>
    refine Point.Yields.newLine (n := 0) ?_ (opens_cons (by decide) _) hstay
    rw [List.append_nil]
    exact Point.Yields.items h hsolid hz hsep

/-- What follows the colon before a mapping of words. -/
def mapText : List (String × String) → Chars
  | [] => [' ', '\x7b', '\x7d']
  | e :: es => '\n' :: (spaces 2 ++ entriesText 2 e es)

theorem endsWord_mapText (es : List (String × String)) : endsWord (mapText es).head? = true := by
  cases es <;> rfl

/-- The tokens of a mapping of words. -/
def mapTokens (es : List (String × String)) : List Token :=
  if es.isEmpty then [.openMap, .closeMap] else .blockMapping :: entriesTokens es ++ [.blockEnd]

/-- After a mapping that is a value at the start of a line reading goes on at the next line. -/
theorem Point.Yields.mapValue {es : List (String × String)}
    (h : Point.Yields ⟨z, 0, T ++ mapTokens es, 0, O, true⟩ ts) (hsolid : SolidEntries es)
    (hz : Opens z) (hsep : startsSeparator z = false) :
    Point.Yields ⟨mapText es ++ '\n' :: z, c, T, 0, O, false⟩ ts := by
  cases es with
  | nil =>
    refine Point.Yields.blank ?_ (opens_cons (by decide) _) (by omega)
    refine Point.Yields.brackets ?_ .map (by omega)
    refine Point.Yields.newLine (n := 0) ?_ hz (.stay (Int.le_refl _) O)
    simpa [mapTokens] using h
  | cons e es =>
    have hopen : Opens (entriesText 2 e es ++ '\n' :: z) := by
      rw [entriesText, List.append_assoc]
      exact opens_entryText (hsolid e List.mem_cons_self).1 _ _
    have hentries : Point.Yields ⟨entriesText 2 e es ++ '\n' :: z, 2, T, 0, O, true⟩ ts :=
      Point.Yields.entries (by simpa [mapTokens] using h) hsolid (by omega) hz hsep (.deeper (by omega))
        (Int.le_refl 0)
    rw [mapText, List.cons_append, List.append_assoc]
    refine Point.Yields.newLine ?_ hopen (.stay (by omega) O)
    simpa using hentries

/-! ## Settings -/

/-- The settings of a configuration in words. -/
structure Settings where
  kind : String
  options : List String
  translator : String
  namespaces : List (String × String)

/-- Settings whose words are solid texts. -/
structure Settings.Solid (s : Settings) : Prop where
  kind : Yaml.Solid s.kind.toList
  options : ∀ o ∈ s.options, Yaml.Solid o.toList
  translator : Yaml.Solid s.translator.toList
  namespaces : SolidEntries s.namespaces

/-- The line of a setting, with those of its value. -/
def settingText (k : String) (v : Chars) : Chars := writtenWord k.toList ++ ':' :: (v ++ ['\n'])

/-- The tokens of a setting. -/
def settingTokens (k : String) (ts : List Token) : List Token := .key :: wordToken k.toList :: .value :: ts

/-- The written form of settings. -/
def Settings.text (s : Settings) : Chars :=
  settingText "kind" (' ' :: writtenWord s.kind.toList) ++ (settingText "options" (listText s.options) ++
    (settingText "translator" (' ' :: writtenWord s.translator.toList) ++
      settingText "namespaces" (mapText s.namespaces)))

/-- The tokens of settings. -/
def Settings.tokens (s : Settings) : List Token :=
  .blockMapping :: (settingTokens "kind" [wordToken s.kind.toList] ++
    (settingTokens "options" (listTokens s.options) ++
      (settingTokens "translator" [wordToken s.translator.toList] ++
        (settingTokens "namespaces" (mapTokens s.namespaces) ++ [.blockEnd, .streamEnd]))))

/-- The name of a setting. -/
structure IsKeyName (k : String) : Prop where
  solid : Solid k.toList
  short : k.toList.length ≤ 16
  fits : Fits k.toList 0

theorem fits_of_head {t : Chars} {x : Char} (ht : t.head? = some x) (hx : x ≠ '%' ∧ x ≠ '-' ∧ x ≠ '.') :
    Fits t 0 :=
  .inr fun _ hd => Option.some.inj (ht.symm.trans hd) ▸ hx

theorem isKeyName_kind : IsKeyName "kind" :=
  ⟨⟨by decide, by decide⟩, by decide, fits_of_head (x := 'k') (by decide) (by decide)⟩

theorem isKeyName_options : IsKeyName "options" :=
  ⟨⟨by decide, by decide⟩, by decide, fits_of_head (x := 'o') (by decide) (by decide)⟩

theorem isKeyName_translator : IsKeyName "translator" :=
  ⟨⟨by decide, by decide⟩, by decide, fits_of_head (x := 't') (by decide) (by decide)⟩

theorem isKeyName_namespaces : IsKeyName "namespaces" :=
  ⟨⟨by decide, by decide⟩, by decide, fits_of_head (x := 'n') (by decide) (by decide)⟩

variable {k : String} {v : Chars}

theorem IsKeyName.opens (hk : IsKeyName k) (v z : Chars) : Opens (settingText k v ++ z) := by
  rw [settingText, List.append_assoc]
  exact opens_writtenWord hk.solid _

/-- The name of a setting begins the line of a key, and not a mark between documents. -/
theorem IsKeyName.separates (hk : IsKeyName k) (v z : Chars) : startsSeparator (settingText k v ++ z) = false := by
  rw [settingText, List.append_assoc, writtenWord]
  split
  · obtain ⟨c, r, hcons⟩ := List.exists_cons_of_ne_nil hk.solid.ne_nil
    obtain ⟨-, hhead⟩ := (hk.fits.resolve_left (Nat.lt_irrefl 0)) c (by rw [hcons]; rfl)
    rw [hcons]
    exact startsSeparator_eq_false hhead _
  · exact startsSeparator_eq_false (by decide) _

/-- After the name of a setting reading goes on behind its colon. -/
theorem Point.Yields.setting
    (h : Point.Yields ⟨v ++ '\n' :: z, 0 + (writtenWord k.toList).length + 1,
      T ++ opening ++ [.key, wordToken k.toList, .value], I', O', false⟩ ts)
    (hk : IsKeyName k) (hopens : OpensBlock 0 I O I' O' opening) (hv : endsWord v.head? = true) :
    Point.Yields ⟨settingText k v ++ z, 0, T, I, O, true⟩ ts := by
  have hlength := length_writtenWord_le k.toList
  have hshort := hk.short
  have hgap : endsWord (v ++ '\n' :: z).head? = true := by
    cases v with
    | nil => rfl
    | cons c v => exact hv
  rw [settingText, List.append_assoc, List.cons_append, List.append_assoc, List.singleton_append]
  exact Point.Yields.key h hk.solid (by omega) hopens hgap hk.fits

/-- A setting whose value is a word. -/
theorem Point.Yields.wordSetting {t : String}
    (h : Point.Yields ⟨z, 0, T ++ opening ++ settingTokens k [wordToken t.toList], 0, O', true⟩ ts)
    (hk : IsKeyName k) (ht : Solid t.toList) (hopens : OpensBlock 0 I O 0 O' opening) (hz : Opens z)
    (hsep : startsSeparator z = false) :
    Point.Yields ⟨settingText k (' ' :: writtenWord t.toList) ++ z, 0, T, I, O, true⟩ ts := by
  refine Point.Yields.setting ?_ hk hopens rfl
  refine Point.Yields.blank ?_ (opens_writtenWord ht _) (by omega)
  refine Point.Yields.wordLine (n := 0) ?_ ht hz hsep (.stay (Int.le_refl _) _) (Int.le_refl _) (by omega)
  simpa [settingTokens] using h

/-- Reading settings gives their tokens. -/
theorem Settings.Solid.yields {s : Settings} (h : s.Solid) :
    Point.Yields ⟨s.text, 0, [], -1, [], true⟩ s.tokens := by
  -- the first key opens the block that holds all of them, and the end closes it
  have hstay : OpensBlock 0 0 [-1] 0 [-1] [] := .inside rfl
  rw [Settings.text]
  refine Point.Yields.wordSetting ?_ isKeyName_kind h.kind (.deeper (by decide)) (isKeyName_options.opens _ _)
    (isKeyName_options.separates _ _)
  refine Point.Yields.setting ?_ isKeyName_options hstay (endsWord_listText _)
  refine Point.Yields.listValue ?_ h.options (isKeyName_translator.opens _ _)
    (isKeyName_translator.separates _ _)
  refine Point.Yields.wordSetting ?_ isKeyName_translator h.translator hstay
    (by simpa using isKeyName_namespaces.opens _ []) (by simpa using isKeyName_namespaces.separates _ [])
  rw [← List.append_nil (settingText "namespaces" _)]
  refine Point.Yields.setting ?_ isKeyName_namespaces hstay (endsWord_mapText _)
  refine Point.Yields.mapValue ?_ h.namespaces nofun rfl
  exact Point.Yields.finish (by simp [Settings.tokens, settingTokens])

theorem Settings.Solid.tokensOf {s : Settings} (h : s.Solid) : tokensOf s.text = s.tokens :=
  (h.yields 0 0).readTokens (Nat.lt_add_of_pos_right (by decide))

end MarkupQuery.Yaml
