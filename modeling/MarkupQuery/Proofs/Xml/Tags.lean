import MarkupQuery.Proofs.Xml.Items

/-!
# Tags read back

A start tag opens an element that is named as the tag says in the namespaces in scope, and whose attributes
have their values without references (`Reader.opens_startTag`). The markup stays well formed unless a prefix
is declared twice, an attribute occurs twice or a value holds a reference. The end tag closes the element
with all that was read since.

Without namespaces a tag is read back as it is but for its references (`IsLocalTag.rereadTagIn_nil`).
-/

namespace MarkupQuery.Xml

open MarkupQuery.Text MarkupQuery.Tree

variable {r r' : Reader} {s t rest ending : Chars} {tag : Tag}

/-! ## Names in a scope -/

/-- The name of an attribute in a scope. A prefix that is not declared is part of the name. -/
def attributeNameIn (scope : List Declaration) (label : Option Chars) (base : Chars) : Name :=
  match label, lookupSpace scope label with
  | none, _ => { base }
  | some l, some u => { label := some l, base, space := some u }
  | some l, none => { base := l ++ ':' :: base }

/-- The name of an element in a scope. -/
def elementNameIn (scope : List Declaration) (label : Option Chars) (base : Chars) : Name :=
  match lookupSpace scope label with
  | some u => { label, base, space := if u.isEmpty then none else some u }
  | none => { base := joinName label base }

theorem written_attributeNameIn (scope : List Declaration) (label : Option Chars) (base : Chars) :
    (attributeNameIn scope label base).written = joinName label base := by
  unfold attributeNameIn
  split <;> rfl

theorem written_elementNameIn (scope : List Declaration) (label : Option Chars) (base : Chars) :
    (elementNameIn scope label base).written = joinName label base := by
  unfold elementNameIn
  split
  · cases label <;> rfl
  · rfl

theorem Reader.attributeName_in (r : Reader) (scope : List Declaration) (element : Chars)
    (label : Option Chars) (base : Chars) :
    ∃ r', r.Moves r.input true r' ∧
      r.attributeName scope element label base = (r', attributeNameIn scope label base) := by
  unfold Reader.attributeName attributeNameIn
  cases label with
  | none => exact ⟨r, .refl r, rfl⟩
  | some l =>
    cases lookupSpace scope (some l) with
    | some u => exact ⟨r, .refl r, rfl⟩
    | none => exact ⟨_, r.moves_note _ _, rfl⟩

theorem Reader.elementName_in (r : Reader) (scope : List Declaration) (label : Option Chars)
    (base : Chars) :
    ∃ r', r.Moves r.input true r' ∧
      r.elementName scope label base = (r', elementNameIn scope label base) := by
  unfold Reader.elementName elementNameIn
  cases lookupSpace scope label with
  | some u => exact ⟨r, .refl r, rfl⟩
  | none =>
    cases label with
    | none => exact ⟨r, .refl r, rfl⟩
    | some l => exact ⟨_, r.moves_note _ _, rfl⟩

/-- The attributes of a start tag with their names in a scope. -/
def attributesIn (scope : List Declaration)
    (items : List (Option Chars × Chars × List ValuePart)) : List Attribute :=
  items.map fun a => ⟨attributeNameIn scope a.1 a.2.1, a.2.2⟩

theorem Reader.nameAttributes_in (r : Reader) (scope : List Declaration) (element : Chars)
    (items : List (Option Chars × Chars × List ValuePart)) :
    ∃ r', r.Moves r.input true r' ∧
      Reader.nameAttributes scope element items r = (r', attributesIn scope items) := by
  induction items generalizing r with
  | nil => exact ⟨r, .refl r, rfl⟩
  | cons item items ih =>
    obtain ⟨label, base, parts⟩ := item
    obtain ⟨r₁, hmoves₁, hname⟩ := r.attributeName_in scope element label base
    obtain ⟨r₂, hmoves₂, hrest⟩ := ih r₁
    have hmoves := hmoves₁.trans hmoves₂
    rw [hmoves₁.input] at hmoves
    refine ⟨r₂, hmoves, ?_⟩
    rw [Reader.nameAttributes, hname]
    dsimp only
    rw [hrest]
    rfl

/-! ## Attributes that occur twice -/

/-- Whether the last one of some names that is the same as another one is also written like it. -/
def repeats (seen : List Name) (n : Name) : Bool :=
  (seen.find? fun m => m.base == n.base && m.space == n.space).any fun m => m.label == n.label

/-- Whether no attribute occurs twice, after some others. -/
def areDistinct : List Name → List Attribute → Bool
  | _, [] => true
  | seen, a :: as => !repeats seen a.name && areDistinct (a.name :: seen) as

/-- It is noted if an attribute occurs twice. -/
theorem Reader.moves_checkDistinct (as : List Attribute) (seen : List Name) (r : Reader) :
    r.Moves r.input (areDistinct seen as) (Reader.checkDistinct as seen r) := by
  induction as generalizing seen r with
  | nil => exact .refl r
  | cons a as ih =>
    -- the attribute itself, then those after it
    have hfirst : ∃ r₁, r.Moves r.input (!repeats seen a.name) r₁ ∧
        Reader.checkDistinct (a :: as) seen r = Reader.checkDistinct as (a.name :: seen) r₁ := by
      rw [Reader.checkDistinct, repeats]
      cases seen.find? fun m => m.base == a.name.base && m.space == a.name.space with
      | none => exact ⟨r, .refl r, rfl⟩
      | some m =>
        refine ⟨_, ?_, rfl⟩
        dsimp only
        rw [Option.any_some]
        cases m.label == a.name.label with
        | true => exact r.moves_fatal _
        | false => exact r.moves_note _ _
    obtain ⟨r₁, hmoves₁, heq⟩ := hfirst
    have hmoves := hmoves₁.trans (ih (a.name :: seen) r₁)
    rw [hmoves₁.input] at hmoves
    rw [heq, areDistinct]
    exact hmoves

/-! ## Tags in a scope -/

/-- A tag that can be read back: its name and those of its declarations and attributes are names, and its
values can be read back. -/
structure IsReadableTag (t : Tag) : Prop where
  name : IsWhole t.name.written
  items : ∀ i ∈ itemsOf t, i.IsReadable

/-- The declarations that are read of a tag. -/
def declarationsOf (t : Tag) : List Declaration := (itemsOf t).foldl declare []

/-- The namespaces in scope inside an element. -/
def innerScope (scope : List Declaration) (t : Tag) : List Declaration :=
  (declarationsOf t).reverse ++ scope

/-- What a tag is read as in a scope: every value is one text. -/
def rereadTagIn (scope : List Declaration) (t : Tag) : Tag where
  name := elementNameIn (innerScope scope t) (splitName t.name.written).1 (splitName t.name.written).2
  declarations := declarationsOf t
  attributes := attributesIn (innerScope scope t) ((itemsOf t).filterMap Item.attribute?)

/-- Whether a tag is well formed in a scope. -/
def isSoundTagIn (scope : List Declaration) (t : Tag) : Bool :=
  areSoundItems [] (itemsOf t) && areDistinct [] (rereadTagIn scope t).attributes

theorem IsReadableTag.written_rereadTagIn (h : IsReadableTag tag) (scope : List Declaration) :
    (rereadTagIn scope tag).name.written = tag.name.written := by
  rw [rereadTagIn, written_elementNameIn, h.name.joinName_splitName]

/-! ## Start tags -/

section Opening

variable {spaces : List Declaration} {ok ok' : Bool}

/-- A reader has opened an element and moved on. -/
def Reader.Opens (r : Reader) (tag : Tag) (scope : List Declaration) (rest : Chars) (ok : Bool)
    (r' : Reader) : Prop :=
  ∃ notices f, f.tag = tag ∧ joinName f.label f.base = tag.name.written ∧ f.scope = scope ∧
    f.content = [] ∧
    r' = { r with input := rest, wellFormed := r.wellFormed && ok, notices, frames := f :: r.frames }

theorem Reader.Opens.plain (h : r.Opens tag spaces rest ok r') (hr : r.Plain) :
    r'.Plain := by
  obtain ⟨notices, f, -, -, -, -, rfl⟩ := h
  exact { hr with }

theorem Reader.Opens.scope (h : r.Opens tag spaces rest ok r') : r'.scope = spaces := by
  obtain ⟨notices, f, -, -, hscope, -, rfl⟩ := h
  exact hscope

theorem Reader.Opens.length_frames (h : r.Opens tag spaces rest ok r') :
    r'.frames.length = r.frames.length + 1 := by
  obtain ⟨notices, f, -, -, -, -, rfl⟩ := h
  rfl

theorem Reader.Opens.wellFormed (h : r.Opens tag spaces rest ok r') :
    r'.wellFormed = (r.wellFormed && ok) := by
  obtain ⟨notices, f, -, -, -, -, rfl⟩ := h
  rfl

theorem Reader.Opens.at_ (h : r.Opens tag spaces rest ok r') (s : Chars) :
    r.Opens tag spaces s ok (r'.at_ s) := by
  obtain ⟨notices, f, htag, hname, hscope, hcontent, rfl⟩ := h
  exact ⟨notices, f, htag, hname, hscope, hcontent, rfl⟩

/-- Closing an element adds it with all that was read since it was opened. -/
theorem Reader.Opens.makes_close {m : Mixed Outline} {r'' : Reader}
    (h : r.Opens tag spaces s ok r') (h' : r'.Makes t ok' m r'') :
    r.Makes t (ok && ok') (.next [] (.element unnumbered tag m) (.last [])) r''.close := by
  obtain ⟨notices, f, rfl, -, -, hcontent, rfl⟩ := h
  obtain ⟨notices', frames, top, hgrown, rfl⟩ := h'
  cases hgrown with
  | @inside _ f' fs top hgrows =>
    have hadd := Reader.makes_add { r with
      input := t, wellFormed := (r.wellFormed && ok) && ok', notices := notices' } f'.node
    have hnode : outlineAll [f'.node] = .next [] (.element unnumbered f.tag m) (.last []) := by
      rw [Frame.node, outlineAll_cons_node rfl, Node.outline, hgrows.tag, hgrows.content, hcontent]
      simp [outlineAll]
    rw [hnode] at hadd
    have hmoves : r.Moves t (ok && ok') { r with
        input := t, wellFormed := (r.wellFormed && ok) && ok', notices := notices' } :=
      ⟨notices', by rw [Bool.and_assoc]⟩
    have hmakes := hmoves.trans_makes hadd
    rw [Bool.and_true] at hmakes
    exact hmakes

end Opening

theorem Settings.le_maxDepth (settings : Settings) : 256 ≤ settings.maxDepth := by
  rw [Settings.maxDepth]
  split <;> omega

/-- A start tag opens its element, unless too many elements are open. -/
theorem Reader.opens_startTag (hr : r.Undeclared) (htag : IsReadableTag tag)
    (hdepth : r.frames.length ≤ 256) (hending : atTagEnd ending = true)
    (h : r.input = writeTag tag ++ ending) :
    ∃ r', r.Opens (rereadTagIn r.scope tag) (innerScope r.scope tag) ending
        (isSoundTagIn r.scope tag) r' ∧
      (∀ s, ending = '>' :: s → r.startTag = r'.at_ s) ∧
      ∀ s, ending = '/' :: '>' :: s → r.startTag = (r'.at_ s).close := by
  obtain ⟨items, hitems⟩ : ∃ t, t = (itemsOf tag).flatMap Item.write ++ ending := ⟨_, rfl⟩
  have hstops : Stops isNameMore items := by
    rw [hitems]
    cases itemsOf tag with
    | nil => rcases atTagEnd_cases hending with ⟨t, rfl⟩ | ⟨t, rfl⟩ <;> exact .cons (by decide) _
    | cons i is => exact .cons (by decide) _
  have hinput : r.input.drop 1 = tag.name.written ++ items := by
    rw [h, hitems, writeTag_eq]
    simp
  obtain ⟨complaint, hname⟩ := htag.name.read hstops
  rw [← hinput] at hname
  -- of all that a start tag can do only one thing is left, and its parts are known
  have hstarts := r.startTag_starts
  generalize r.startTag = r' at hstarts ⊢
  cases hstarts with
  | deep message hdeep =>
    exact absurd hdeep (Nat.not_lt.mpr (Nat.le_trans hdepth r.settings.le_maxDepth))
  | nameless message hw =>
    rw [hname] at hw
    cases hw
  | @opened r₁ r₂ r₃ _ w _ declarations as n f _ hw hread hdeclarations has hn hf hends =>
    obtain ⟨hlabel, hbase, hrest⟩ : w.label = (splitName tag.name.written).1 ∧
        w.base = (splitName tag.name.written).2 ∧ w.rest = items := by
      cases hname.symm.trans hw
      exact ⟨rfl, rfl, rfl⟩
    have hmoves₁ := r.moves_afterName w
    rw [hrest] at hmoves₁
    have hfuel : (itemsOf tag).length < (r.afterName w).input.length + 1 := by
      rw [hmoves₁.input, hitems]
      exact Nat.lt_succ_of_le (length_le_items htag.items ending)
    obtain ⟨_, blanks, hmoves₂, hitems'⟩ := Reader.attributesFrom_items w.written
      (hmoves₁.undeclared hr) htag.items hending (by rw [hmoves₁.input, hitems]) hfuel
      { blanks := (r.afterName w).inheritedBlanks }
    cases hitems'.symm.trans hread
    have hmoves₁₂ := hmoves₁.trans hmoves₂
    have hdeclared : declarations = declarationsOf tag := by
      rw [← hdeclarations, Reader.withDefaultSpaces, (hmoves₁₂.undeclared hr).defaultSpaces]
      simp [declarationsOf]
    rw [hmoves₁₂.scope, hdeclared, ← innerScope] at has hn hf
    obtain ⟨_, hmoves₃, has'⟩ := r₁.nameAttributes_in (innerScope r.scope tag) w.base
      ((itemsOf tag).filterMap Item.attribute?)
    cases has'.symm.trans has
    have hmoves₄ := Reader.moves_checkDistinct (rereadTagIn r.scope tag).attributes [] r₂
    obtain ⟨_, hmoves₅, hn'⟩ := Reader.elementName_in
      (Reader.checkDistinct (rereadTagIn r.scope tag).attributes [] r₂)
      (innerScope r.scope tag) w.label w.base
    cases hn'.symm.trans hn
    -- what was noted on the way
    have hmoves : r.Moves ending (isSoundTagIn r.scope tag) r₃ := by
      have hall := ((hmoves₁₂.trans hmoves₃).trans hmoves₄).trans hmoves₅
      rw [hmoves₄.input, hmoves₃.input, hmoves₂.input] at hall
      simpa [isSoundTagIn] using hall
    have htag' : f.tag = rereadTagIn r.scope tag := by
      rw [hf, hlabel, hbase]
      rfl
    have hjoined : joinName f.label f.base = (rereadTagIn r.scope tag).name.written := by
      rw [hf, htag.written_rereadTagIn, hlabel, hbase, htag.name.joinName_splitName]
    have hend : r₃.input = ending := hmoves.input
    obtain ⟨notices, rfl⟩ := hmoves
    refine ⟨_, ⟨notices, f, htag', hjoined, by rw [hf], by rw [hf], rfl⟩, fun s hs => ?_, fun s hs => ?_⟩
    · exact hends.eq_full (hend.trans hs)
    · exact hends.eq_empty (hend.trans hs)

/-! ## End tags -/

theorem Reader.Makes.trans_moves {ok ok' : Bool} {m : Mixed Outline} {r'' : Reader}
    (h : r.Makes s ok m r') (h' : r'.Moves t ok' r'') : r.Makes t (ok && ok') m r'' := by
  have hmakes := h.trans h'.makes
  rwa [Mixed.concat_last_nil] at hmakes

/-- The end tag of an element closes it. -/
theorem Reader.Opens.makes_endTag {spaces : List Declaration} {ok ok' : Bool}
    {m : Mixed Outline} {r'' : Reader} (h : r.Opens tag spaces s ok r') (hname : IsAnyName tag.name.written)
    (h' : r'.Makes ("</".toList ++ tag.name.written ++ '>' :: t) ok' m r'') :
    r.Makes t (ok && ok') (.next [] (.element unnumbered tag m) (.last [])) r''.endTag := by
  have hrest := h'.trans_moves (r''.moves_at t)
  rw [Bool.and_true] at hrest
  have hclose := h.makes_close hrest
  have hend : r''.endTag = (r''.at_ t).close := by
    have hspan : spanName (r''.input.drop 2) = (tag.name.written, '>' :: t) := by
      rw [h'.input]
      exact spanName_append hname (.cons (by decide) t)
    obtain ⟨notices, f, -, hjoined, -, -, rfl⟩ := h
    obtain ⟨notices', frames, top, hgrown, rfl⟩ := h'
    cases hgrown with
    | @inside _ f' fs top hgrows =>
      have hends : f'.endsWith tag.name.written = true := by
        rw [Frame.endsWith, hgrows.label, hgrows.base, hjoined, beq_self_eq_true]
      rw [Reader.endTag]
      dsimp only at hspan ⊢
      rw [hspan]
      dsimp only
      rw [hends, if_pos rfl]
      rfl
  rw [hend]
  exact hclose

/-! ## Names in no namespace -/

/-- A name in no namespace that is read back as it is written. Its prefix, if it looks like one, is none
that is always known. -/
structure IsLocal (n : Name) : Prop where
  label : n.label = none
  space : n.space = none
  shape : ∃ w : WrittenName, w.Shape ∧ w.written = n.base ∧ w.label ≠ some "xml".toList

/-- The name of an attribute in no namespace that is read back: it does not declare a namespace. -/
structure IsLocalAttribute (n : Name) : Prop where
  label : n.label = none
  space : n.space = none
  shape : ∃ w : WrittenName, w.Shape ∧ w.written = n.base ∧ w.label ≠ some "xml".toList ∧
    w.label ≠ some "xmlns".toList
  base : n.base ≠ "xmlns".toList

theorem IsLocal.eq {n : Name} (h : IsLocal n) : n = { base := n.base } := by
  obtain ⟨label, base, space⟩ := n
  obtain rfl : label = none := h.label
  obtain rfl : space = none := h.space
  rfl

theorem IsLocalAttribute.eq {n : Name} (h : IsLocalAttribute n) : n = { base := n.base } := by
  obtain ⟨label, base, space⟩ := n
  obtain rfl : label = none := h.label
  obtain rfl : space = none := h.space
  rfl

theorem IsLocal.written {n : Name} (h : IsLocal n) : n.written = n.base := by
  rw [Name.written, h.label]

theorem IsLocalAttribute.written {n : Name} (h : IsLocalAttribute n) : n.written = n.base := by
  rw [Name.written, h.label]

theorem IsLocal.isWhole {n : Name} (h : IsLocal n) : IsWhole n.written := by
  obtain ⟨w, hshape, hw, -⟩ := h.shape
  exact ⟨w, hshape, hw.trans h.written.symm⟩

theorem IsLocalAttribute.isWhole {n : Name} (h : IsLocalAttribute n) : IsWhole n.written := by
  obtain ⟨w, hshape, hw, -⟩ := h.shape
  exact ⟨w, hshape, hw.trans h.written.symm⟩

/-! ## Tags in no namespace -/

/-- An attribute in no namespace that is read back. -/
structure IsLocalValue (a : Attribute) : Prop where
  name : IsLocalAttribute a.name
  parts : ∀ p ∈ a.parts, ReadsBack p

/-- A tag in no namespace that is read back. -/
structure IsLocalTag (t : Tag) : Prop where
  name : IsLocal t.name
  declarations : t.declarations = []
  attributes : ∀ a ∈ t.attributes, IsLocalValue a

/-- What an attribute is read as: its value is one text. -/
def rereadAttribute (a : Attribute) : Attribute :=
  { a with parts := [.text (a.parts.flatMap partText)] }

/-- What a tag is read as. -/
def rereadTag (t : Tag) : Tag := { t with attributes := t.attributes.map rereadAttribute }

/-- Whether a value holds no references. -/
def isTextValue (a : Attribute) : Bool := a.parts.all isTextPart

/-- Whether a tag is well formed: no attribute holds a reference, and none occurs twice. -/
def isSoundTag (t : Tag) : Bool :=
  t.attributes.all isTextValue && decide (t.attributes.map (·.name)).Nodup

/-! ## Reading them back -/

/-- Without namespaces in scope a name is its own prefix and all, unless its prefix is always known. -/
theorem lookupSpace_nil {label : Option Chars} (h : label ≠ some "xml".toList) :
    lookupSpace [] label = none := by
  rw [lookupSpace, if_neg (by simpa using h)]
  rfl

theorem IsLocal.elementNameIn_nil {n : Name} (h : IsLocal n) :
    elementNameIn [] (splitName n.written).1 (splitName n.written).2 = n := by
  obtain ⟨w, hshape, hw, hxml⟩ := h.shape
  rw [h.written, ← hw, hshape.splitName, elementNameIn, lookupSpace_nil hxml, h.eq, ← hw]
  rfl

theorem IsLocalAttribute.attributeNameIn_nil {n : Name} (h : IsLocalAttribute n) :
    attributeNameIn [] (splitName n.written).1 (splitName n.written).2 = n := by
  obtain ⟨w, hshape, hw, hxml, -⟩ := h.shape
  rw [h.written, ← hw, hshape.splitName, attributeNameIn.eq_def, lookupSpace_nil hxml, h.eq, ← hw,
    WrittenName.written]
  cases w.label <;> rfl

/-- An attribute in no namespace declares none. -/
theorem IsLocalAttribute.declares?_eq_none {a : Attribute} (h : IsLocalAttribute a.name) :
    (attributeItem a).declares? = none := by
  obtain ⟨w, hshape, hw, -, hxmlns⟩ := h.shape
  have hbase := h.base
  rw [Item.declares?, attributeItem, h.written, ← hw, hshape.splitName]
  rw [← hw, WrittenName.written] at hbase
  cases hlabel : w.label with
  | none =>
    rw [hlabel] at hbase
    exact if_neg (by simpa [joinName] using hbase)
  | some l =>
    rw [hlabel] at hxmlns
    exact if_neg (by simpa using hxmlns)

section Attributes

variable {as : List Attribute} (has : ∀ a ∈ as, IsLocalValue a)

include has

theorem foldl_declare_local : (as.map attributeItem).foldl declare [] = [] := by
  induction as with
  | nil => rfl
  | cons a as ih =>
    rw [List.forall_mem_cons] at has
    rw [List.map_cons, List.foldl_cons, declare, Item.declaration?, has.1.name.declares?_eq_none]
    exact ih has.2

theorem attributesIn_local :
    attributesIn [] ((as.map attributeItem).filterMap Item.attribute?) = as.map rereadAttribute := by
  induction as with
  | nil => rfl
  | cons a as ih =>
    rw [List.forall_mem_cons] at has
    have hattribute : (attributeItem a).attribute? = some ((splitName a.name.written).1,
        (splitName a.name.written).2, [.text (a.parts.flatMap partText)]) := by
      rw [Item.attribute?, has.1.name.declares?_eq_none]
      rfl
    rw [List.map_cons, List.filterMap_cons, hattribute, attributesIn, List.map_cons, ← attributesIn,
      ih has.2, List.map_cons]
    dsimp only
    rw [has.1.name.attributeNameIn_nil]
    rfl

theorem areSoundItems_local :
    areSoundItems [] (as.map attributeItem) = as.all isTextValue := by
  induction as with
  | nil => rfl
  | cons a as ih =>
    rw [List.forall_mem_cons] at has
    have hdeclaration : (attributeItem a).declaration? = none := by
      rw [Item.declaration?, has.1.name.declares?_eq_none]
      rfl
    rw [List.map_cons, areSoundItems, declare, redeclares, hdeclaration, ih has.2, List.all_cons]
    simp [Item.isText, isTextValue, attributeItem]

end Attributes

theorem IsLocalTag.itemsOf (h : IsLocalTag tag) : itemsOf tag = tag.attributes.map attributeItem := by
  rw [Xml.itemsOf, h.declarations]
  rfl

theorem IsLocalTag.isReadableTag (h : IsLocalTag tag) : IsReadableTag tag where
  name := h.name.isWhole
  items := by
    rw [h.itemsOf, List.forall_mem_map]
    exact fun a ha => ⟨(h.attributes a ha).name.isWhole, (h.attributes a ha).parts⟩

theorem IsLocalTag.declarationsOf (h : IsLocalTag tag) : declarationsOf tag = [] := by
  rw [Xml.declarationsOf, h.itemsOf, foldl_declare_local h.attributes]

theorem IsLocalTag.innerScope_nil (h : IsLocalTag tag) : innerScope [] tag = [] := by
  rw [innerScope, h.declarationsOf]
  rfl

/-- A tag without namespaces is read back with its values as texts. -/
theorem IsLocalTag.rereadTagIn_nil (h : IsLocalTag tag) : rereadTagIn [] tag = rereadTag tag := by
  rw [rereadTagIn, h.innerScope_nil, h.declarationsOf, h.name.elementNameIn_nil, rereadTag, h.declarations,
    h.itemsOf, attributesIn_local h.attributes]

/-- Names in no namespace repeat others if they are among them. -/
theorem areDistinct_of_local {as : List Attribute} {seen : List Name}
    (has : ∀ a ∈ as, a.name.label = none ∧ a.name.space = none)
    (hseen : ∀ n ∈ seen, n.label = none ∧ n.space = none) :
    areDistinct seen as = decide ((as.map (·.name)).Nodup ∧ ∀ a ∈ as, a.name ∉ seen) := by
  induction as generalizing seen with
  | nil => simp [areDistinct]
  | cons a as ih =>
    rw [List.forall_mem_cons] at has
    -- without labels and namespaces, names that are the same are equal
    have hsame (n : Name) (hn : n.label = none ∧ n.space = none) :
        (n.base == a.name.base && n.space == a.name.space) = true ↔ n = a.name := by
      obtain ⟨label, base, space⟩ := n
      obtain ⟨rfl, rfl⟩ := hn
      rw [Bool.and_eq_true, beq_iff_eq, beq_iff_eq, has.1.2]
      constructor
      · rintro ⟨h, -⟩
        obtain ⟨⟨label, base', space⟩, parts⟩ := a
        obtain ⟨rfl, rfl⟩ := has.1
        rw [show base = base' from h]
      · rintro h
        exact ⟨by rw [← h], rfl⟩
    have hrepeats : repeats seen a.name = decide (a.name ∈ seen) := by
      rw [repeats, eq_comm]
      cases hfind : seen.find? fun m => m.base == a.name.base && m.space == a.name.space with
      | none =>
        rw [List.find?_eq_none] at hfind
        exact decide_eq_false fun h => hfind _ h ((hsame _ (hseen _ h)).mpr rfl)
      | some n =>
        have hn := List.mem_of_find?_eq_some hfind
        have hfound := List.find?_some hfind
        obtain rfl := (hsame n (hseen n hn)).mp hfound
        rw [Option.any_some, beq_self_eq_true]
        exact decide_eq_true hn
    have hcross : a.name ∉ as.map (·.name) ↔ ∀ b ∈ as, b.name ≠ a.name := by simp
    have hsplit : (∀ b ∈ as, b.name ∉ a.name :: seen) ↔
        (∀ b ∈ as, b.name ≠ a.name) ∧ ∀ b ∈ as, b.name ∉ seen := by
      simp [forall_and]
    rw [areDistinct, hrepeats, ih has.2 (List.forall_mem_cons.mpr ⟨has.1, hseen⟩), ← decide_not,
      ← Bool.decide_and, decide_eq_decide, List.map_cons, List.nodup_cons, List.forall_mem_cons, hcross,
      hsplit]
    tauto

theorem IsLocalTag.isSoundTagIn_nil (h : IsLocalTag tag) : isSoundTagIn [] tag = isSoundTag tag := by
  have hlocal : ∀ a ∈ tag.attributes.map rereadAttribute, a.name.label = none ∧ a.name.space = none := by
    rw [List.forall_mem_map]
    exact fun a ha => ⟨(h.attributes a ha).name.label, (h.attributes a ha).name.space⟩
  have hnames : (tag.attributes.map rereadAttribute).map (·.name) = tag.attributes.map (·.name) := by
    rw [List.map_map]
    rfl
  rw [isSoundTagIn, h.itemsOf, areSoundItems_local h.attributes, h.rereadTagIn_nil, rereadTag,
    areDistinct_of_local hlocal (fun n hn => absurd hn List.not_mem_nil), hnames, isSoundTag]
  simp

end MarkupQuery.Xml
