import MarkupQuery.Proofs.Xml.Values

/-!
# Items of start tags

What a start tag says besides its name is a list of items, each with a name and a value: namespace
declarations first, attributes after them (`itemsOf`). Reading takes the items in order. An item whose
name begins with `xmlns` makes a declaration, if it is one that may be made and is the first of its prefix;
any other item is an attribute (`Reader.attributesFrom_items`).
-/

namespace MarkupQuery.Xml

open MarkupQuery.Text MarkupQuery.Tree

variable {r r' : Reader} {s t rest ending : Chars} {c : Char} {fuel : Nat} {i : Item} {is : List Item}

/-! ## Moving on -/

theorem Reader.moves_complain (r : Reader) (n : WrittenName) : r.Moves r.input true (r.complain n) := by
  rw [Reader.complain]
  split
  · exact r.moves_note _ _
  · exact .refl r

theorem Reader.moves_skipBlanks (r : Reader) :
    r.Moves (r.input.dropWhile isMarkupBlank) true r.skipBlanks := r.moves_at _

theorem dropWhile_blank_of_head (h : isMarkupBlank c = false) (s : Chars) :
    (c :: s).dropWhile isMarkupBlank = c :: s := List.dropWhile_cons_of_neg (by simp [h])

/-- A name does not begin with a blank. -/
theorem IsAnyName.dropWhile_blank (h : IsAnyName s) (t : Chars) :
    (s ++ t).dropWhile isMarkupBlank = s ++ t := by
  obtain ⟨c, u, rfl, hc, -⟩ := h
  refine dropWhile_blank_of_head ?_ (u ++ t)
  cases hblank : isMarkupBlank c with
  | false => rfl
  | true =>
    simp only [isMarkupBlank, Bool.or_eq_true, beq_iff_eq] at hblank
    obtain ((rfl | rfl) | rfl) | rfl := hblank <;> exact absurd hc (by decide)

theorem atTagEnd_cases (h : atTagEnd s = true) :
    (∃ t, s = '>' :: t) ∨ ∃ t, s = '/' :: '>' :: t := by
  rw [atTagEnd.eq_def] at h
  split at h
  · exact .inl ⟨_, rfl⟩
  · exact .inr ⟨_, rfl⟩
  · cases h

/-- A name does not end a tag. -/
theorem IsAnyName.atTagEnd (h : IsAnyName s) (t : Chars) : Xml.atTagEnd (s ++ t) = false := by
  obtain ⟨c, u, rfl, hc, -⟩ := h
  cases hend : Xml.atTagEnd (c :: u ++ t) with
  | false => rfl
  | true =>
    rcases atTagEnd_cases hend with ⟨v, hv⟩ | ⟨v, hv⟩
    · rw [(List.cons.inj hv).1] at hc
      exact absurd hc (by decide)
    · rw [(List.cons.inj hv).1] at hc
      exact absurd hc (by decide)

/-- The end of a tag does not begin with a blank. -/
theorem dropWhile_blank_of_atTagEnd (h : atTagEnd s = true) : s.dropWhile isMarkupBlank = s := by
  rcases atTagEnd_cases h with ⟨t, rfl⟩ | ⟨t, rfl⟩ <;> exact dropWhile_blank_of_head (by rfl) _

/-! ## Whole names -/

/-- A text that is read as one name. -/
def IsWhole (s : Chars) : Prop := ∃ w : WrittenName, w.Shape ∧ w.written = s

/-- The prefix of a text that is read as one name, and what follows it. -/
def splitName (s : Chars) : Option Chars × Chars :=
  match writtenName? s with
  | some w => (w.label, w.base)
  | none => (none, s)

theorem IsWhole.isAnyName (h : IsWhole s) : IsAnyName s := by
  obtain ⟨w, hshape, rfl⟩ := h
  exact hshape.isAnyName

theorem WrittenName.Shape.splitName {w : WrittenName} (h : w.Shape) :
    splitName w.written = (w.label, w.base) := by
  have hstops : Stops isNameMore [] := nofun
  have hread := h.read hstops
  rw [List.append_nil] at hread
  rw [Xml.splitName, hread]

/-- A name that is read as one is read with its prefix, whatever follows that cannot belong to it. -/
theorem IsWhole.read (h : IsWhole s) (hrest : Stops isNameMore rest) :
    ∃ complaint, writtenName? (s ++ rest)
      = some ⟨(splitName s).1, (splitName s).2, rest, complaint⟩ := by
  obtain ⟨w, hshape, rfl⟩ := h
  refine ⟨w.complaint, ?_⟩
  rw [hshape.read hrest, hshape.splitName]

theorem IsWhole.joinName_splitName (h : IsWhole s) :
    joinName (splitName s).1 (splitName s).2 = s := by
  obtain ⟨w, hshape, rfl⟩ := h
  rw [hshape.splitName]
  rfl

/-! ## Items -/

/-- An attribute or a namespace declaration as it stands in a start tag. -/
structure Item where
  name : Chars
  parts : List ValuePart

/-- The written form of an item with the blank before it. -/
def Item.write (i : Item) : Chars :=
  ' ' :: i.name ++ "=\"".toList ++ i.parts.flatMap writePart ++ ['"']

/-- A namespace declaration as an item. -/
def declarationItem (d : Declaration) : Item where
  name := match d.1 with
    | some l => "xmlns:".toList ++ l
    | none => "xmlns".toList
  parts := [.text d.2]

/-- An attribute as an item. -/
def attributeItem (a : Attribute) : Item := ⟨a.name.written, a.parts⟩

/-- The items of a start tag in order. -/
def itemsOf (t : Tag) : List Item :=
  t.declarations.map declarationItem ++ t.attributes.map attributeItem

/-- A start tag is written as its name and its items. -/
theorem writeTag_eq (t : Tag) : writeTag t = '<' :: t.name.written ++ (itemsOf t).flatMap Item.write := by
  have hdeclaration (d : Declaration) : writeDeclaration d = (declarationItem d).write := by
    obtain ⟨label, space⟩ := d
    cases label <;> simp [writeDeclaration, Item.write, declarationItem, writePart]
  rw [writeTag, itemsOf, List.flatMap_append, List.flatMap_map, List.flatMap_map,
    funext hdeclaration, List.append_assoc]
  rfl

/-- An item that can be read back. -/
structure Item.IsReadable (i : Item) : Prop where
  name : IsWhole i.name
  parts : ∀ p ∈ i.parts, ReadsBack p

/-- The text of the value that an item is read with. -/
def Item.text (i : Item) : Chars := i.parts.flatMap partText

/-- Whether the value of an item holds no references. -/
def Item.isText (i : Item) : Bool := i.parts.all isTextPart

/-! ## What an item says -/

/-- The prefix that an item declares a namespace for, if it does. -/
def Item.declares? (i : Item) : Option (Option Chars) :=
  match splitName i.name with
  | (none, base) => if base == "xmlns".toList then some none else none
  | (some l, base) => if l == "xmlns".toList then some (some base) else none

/-- Whether a prefix may be declared for a namespace. -/
def admits : Option Chars → Chars → Bool
  | none, u => u.isEmpty || !(u == xmlSpace || u == xmlnsSpace)
  | some l, u => !(l == "xml".toList || u == xmlSpace || l == "xmlns".toList || u == xmlnsSpace ||
      u.isEmpty)

/-- The declaration that an item makes. -/
def Item.declaration? (i : Item) : Option Declaration :=
  i.declares?.bind fun l => if admits l i.text then some (l, i.text) else none

/-- The attribute that an item is. -/
def Item.attribute? (i : Item) : Option (Option Chars × Chars × List ValuePart) :=
  if i.declares?.isNone then some ((splitName i.name).1, (splitName i.name).2, [.text i.text])
  else none

/-- The declarations after one more item: the first one of a prefix counts. -/
def declare (ds : List Declaration) (i : Item) : List Declaration :=
  match i.declaration? with
  | some d => if ds.any (·.1 == d.1) then ds else ds ++ [d]
  | none => ds

/-- Whether an item makes another declaration of a prefix. -/
def redeclares (ds : List Declaration) (i : Item) : Bool :=
  i.declaration?.any fun d => ds.any (·.1 == d.1)

/-- Whether nothing in some items makes markup malformed: no value holds references, no prefix is declared
twice. -/
def areSoundItems : List Declaration → List Item → Bool
  | _, [] => true
  | ds, i :: is => i.isText && !redeclares ds i && areSoundItems (declare ds i) is

/-! ## Reading one item -/

theorem Reader.checkDefault_admits (r : Reader) (space : Chars) :
    ∃ r', r.Moves r.input true r' ∧ r.checkDefault space = (r', admits none space) := by
  rw [Reader.checkDefault, admits]
  dsimp only
  cases hempty : space.isEmpty with
  | true => exact ⟨r, .refl r, rfl⟩
  | false =>
    rw [if_neg Bool.false_ne_true]
    have hnoted : ∃ r₁, r.Moves r.input true r₁ ∧ r₁ = (if isBadAddress space then
        r.error ("xmlns: '" ++ String.ofList space ++ "' is not a valid URI")
      else if !hasScheme space then r.warn s!"xmlns: URI {String.ofList space} is not absolute"
      else r) := by
      refine ⟨_, ?_, rfl⟩
      split
      · exact r.moves_note _ _
      split
      · exact r.moves_note _ _
      · exact .refl r
    obtain ⟨r₁, hmoves, heq⟩ := hnoted
    rw [← heq]
    have hmore (message : String) : r.Moves r.input true (r₁.error message) := by
      have hall := hmoves.trans (r₁.moves_note .error message)
      rwa [hmoves.input] at hall
    split
    · next h => exact ⟨_, hmore _, by rw [h]; rfl⟩
    split
    · next h => exact ⟨_, hmore _, by rw [h, Bool.or_true]; rfl⟩
    · next h₁ h₂ => exact ⟨_, hmoves, by rw [Bool.not_eq_true] at h₁ h₂; rw [h₁, h₂]; rfl⟩

theorem Reader.checkPrefixed_admits (r : Reader) (label space : Chars) :
    ∃ r', r.Moves r.input true r' ∧ r.checkPrefixed label space = (r', admits (some label) space) := by
  have herror (message : String) : r.Moves r.input true (r.error message) := r.moves_note _ _
  rw [Reader.checkPrefixed, admits]
  cases label == "xml".toList with
  | true =>
    refine ⟨_, ?_, rfl⟩
    split
    · exact herror _
    · exact .refl r
  | false =>
  cases space == xmlSpace with
  | true => exact ⟨_, herror _, rfl⟩
  | false =>
  cases label == "xmlns".toList with
  | true => exact ⟨_, herror _, rfl⟩
  | false =>
  cases space == xmlnsSpace with
  | true => exact ⟨_, herror _, rfl⟩
  | false =>
  cases space.isEmpty with
  | true => exact ⟨_, herror _, rfl⟩
  | false =>
  cases isBadAddress space with
  | true => exact ⟨_, herror _, rfl⟩
  | false => exact ⟨r, .refl r, rfl⟩

/-- An item is noted, as a declaration or as an attribute, and it is an error if its prefix is declared
already. -/
def Item.IsNoted (i : Item) (r : Reader) (items : TagItems) (noted : Reader × TagItems) : Prop :=
  ∃ r' blanks, r.Moves r.input (!redeclares items.declarations i) r' ∧ noted = (r', {
    attributes := items.attributes ++ i.attribute?.toList
    declarations := declare items.declarations i
    blanks })

/-- A declaration that may be made counts if it is the first of its prefix. -/
theorem Item.isNoted_declaration {label : Option Chars} (hlabel : i.declares? = some label) (items : TagItems)
    (hmoves : r.Moves r.input true r') (message : String) :
    i.IsNoted r items (cond (admits label i.text)
      (if items.declarations.any (·.1 == label) then (r'.fatal message, items)
        else (r', { items with declarations := items.declarations ++ [(label, i.text)] }))
      (r', items)) := by
  have hattribute : i.attribute? = none := by rw [Item.attribute?, hlabel]; rfl
  have hdeclaration : i.declaration? = if admits label i.text then some (label, i.text) else none := by
    rw [Item.declaration?, hlabel]
    rfl
  rw [Item.IsNoted, redeclares, declare, hattribute, hdeclaration, Option.toList_none, List.append_nil]
  cases admits label i.text with
  | false => exact ⟨r', items.blanks, hmoves, rfl⟩
  | true =>
    cases hseen : items.declarations.any (·.1 == label) with
    | false =>
      refine ⟨r', items.blanks, ?_, ?_⟩
      · simpa [hseen] using hmoves
      · simp [hseen]
    | true =>
      refine ⟨r'.fatal message, items.blanks, ?_, ?_⟩
      · have hall := hmoves.trans (r'.moves_fatal message)
        rw [hmoves.input] at hall
        simpa [hseen] using hall
      · simp [hseen]

theorem Item.isNoted_attribute (hnone : i.declares? = none) (r : Reader) (items : TagItems)
    (blanks : BlankMode) :
    i.IsNoted r items (r, { items with
      attributes := items.attributes ++ [((splitName i.name).1, (splitName i.name).2, [.text i.text])]
      blanks }) := by
  have hdeclaration : i.declaration? = none := by rw [Item.declaration?, hnone]; rfl
  refine ⟨r, blanks, ?_, ?_⟩
  · rw [redeclares, hdeclaration]
    exact .refl r
  · rw [declare, hdeclaration, Item.attribute?, hnone]
    rfl

/-- Whatever an item is, it is noted. -/
theorem Reader.tagItem_item (r : Reader) (items : TagItems) {w : WrittenName}
    (hw : (w.label, w.base) = splitName i.name) :
    i.IsNoted r items (r.tagItem items w [.text i.text]) := by
  have hvalue : [ValuePart.text i.text].flatMap ValuePart.content = i.text := List.flatMap_singleton ..
  obtain ⟨label, base, w, complaint⟩ := w
  dsimp only at hw
  rw [Reader.tagItem, hvalue]
  dsimp only
  cases label with
  | none =>
    cases hbase : base == "xmlns".toList with
    | true =>
      have hlabel : i.declares? = some none := by rw [Item.declares?, ← hw]; exact if_pos hbase
      obtain ⟨r₁, hmoves, hcheck⟩ := r.checkDefault_admits i.text
      simp only [Option.isNone_none, Bool.and_self, if_true]
      rw [hcheck]
      have hnoted := Item.isNoted_declaration hlabel items hmoves
      cases hadmits : admits none i.text with
      | true => rw [hadmits] at hnoted; exact hnoted _
      | false => rw [hadmits] at hnoted; exact hnoted ""
    | false =>
      have hnone : i.declares? = none := by
        rw [Item.declares?, ← hw]
        exact if_neg (by rw [hbase]; exact Bool.false_ne_true)
      have hnoted := Item.isNoted_attribute hnone r items
      rw [← hw] at hnoted
      simp only [Option.isNone_none, Bool.and_false, Bool.false_eq_true, if_false]
      rw [if_neg (by decide)]
      exact hnoted _
  | some l =>
    cases hl : l == "xmlns".toList with
    | true =>
      have hlabel : i.declares? = some (some base) := by rw [Item.declares?, ← hw]; exact if_pos hl
      obtain ⟨r₁, hmoves, hcheck⟩ := r.checkPrefixed_admits base i.text
      simp only [Option.isNone_some, Bool.false_and, Bool.false_eq_true, if_false]
      rw [if_pos (by rw [eq_of_beq hl]; exact beq_self_eq_true _), hcheck]
      have hnoted := Item.isNoted_declaration hlabel items hmoves
      cases hadmits : admits (some base) i.text with
      | true => rw [hadmits] at hnoted; exact hnoted _
      | false => rw [hadmits] at hnoted; exact hnoted ""
    | false =>
      have hnone : i.declares? = none := by
        rw [Item.declares?, ← hw]
        exact if_neg (by rw [hl]; exact Bool.false_ne_true)
      have hnoted := Item.isNoted_attribute hnone r items
      rw [← hw] at hnoted
      simp only [Option.isNone_some, Bool.false_and, Bool.false_eq_true, if_false]
      rw [if_neg (by simpa using hl)]
      exact hnoted _

/-! ## Reading all items -/

/-- A name in a start tag is read, and the blanks after it. -/
theorem Reader.moves_afterName (r : Reader) (w : WrittenName) :
    r.Moves (w.rest.dropWhile isMarkupBlank) true (r.afterName w) := by
  have hcomplain := (r.moves_at w.rest).trans ((r.at_ w.rest).moves_complain w)
  have hskip := hcomplain.trans (Reader.moves_skipBlanks _)
  rwa [hcomplain.input] at hskip

/-- One item is read, and then what follows it. -/
theorem Reader.attributesFrom_item (element : Chars) (hr : r.Undeclared) (hi : i.IsReadable)
    (items : TagItems) (fuel : Nat)
    (h : r.input = i.name ++ "=\"".toList ++ i.parts.flatMap writePart ++ '"' :: rest) :
    ∃ r' blanks, r.Moves rest (i.isText && !redeclares items.declarations i) r' ∧
      let items' : TagItems := {
        attributes := items.attributes ++ i.attribute?.toList
        declarations := declare items.declarations i
        blanks }
      Reader.attributesFrom element (fuel + 1) r items =
        if atTagEnd r'.input then (r', items')
        else if r'.atBlank then Reader.attributesFrom element fuel r'.skipBlanks items'
        else (r'.fatal "attributes construct error", items') := by
  obtain ⟨value, hvalue⟩ : ∃ value, value = i.parts.flatMap writePart ++ '"' :: rest := ⟨_, rfl⟩
  have hinput : r.input = i.name ++ '=' :: '"' :: value := by
    rw [h, hvalue]
    simp
  have hstops : Stops isNameMore ('=' :: '"' :: value) := .cons (by decide) _
  obtain ⟨complaint, hname⟩ := hi.name.read hstops
  rw [← hinput] at hname
  obtain ⟨w, hw⟩ : ∃ w : WrittenName,
      w = ⟨(splitName i.name).1, (splitName i.name).2, '=' :: '"' :: value, complaint⟩ := ⟨_, rfl⟩
  rw [← hw] at hname
  have hrest : w.rest = '=' :: '"' :: value := by rw [hw]
  -- the name, the sign after it and the value take their parts of the text in turn
  have hmoves₁ : r.Moves ('=' :: '"' :: value) true (r.afterName w) := by
    have hskip := r.moves_afterName w
    rwa [hrest, dropWhile_blank_of_head (by rfl)] at hskip
  rw [Reader.afterName] at hmoves₁
  generalize hr₁ : ((r.at_ w.rest).complain w).skipBlanks = r₁ at hmoves₁
  have hmoves₂ : r₁.Moves ('"' :: value) true (r₁.at_ ('"' :: value)).skipBlanks := by
    have hskip := (r₁.moves_at ('"' :: value)).trans (Reader.moves_skipBlanks _)
    rwa [show (r₁.at_ ('"' :: value)).input = '"' :: value from rfl,
      dropWhile_blank_of_head (by rfl)] at hskip
  have hundeclared₂ := hmoves₂.undeclared (hmoves₁.undeclared hr)
  have hquoted : (r₁.at_ ('"' :: value)).skipBlanks.input
      = '"' :: (i.parts.flatMap writePart ++ '"' :: rest) := by rw [hmoves₂.input, hvalue]
  obtain ⟨r₂, hmoves₃, hread⟩ := Reader.attributeValue_written hundeclared₂ hi.parts hquoted
  have hkind : (r₂.attributeKinds.lookup (element, w.written) == some true) = false := by
    rw [(hmoves₃.undeclared hundeclared₂).attributeKinds]
    rfl
  obtain ⟨r₃, blanks, hmoves₄, hitem⟩ := r₂.tagItem_item items (i := i) (w := w) (by rw [hw])
  have hmoves := ((hmoves₁.trans hmoves₂).trans hmoves₃).trans hmoves₄
  rw [hmoves₃.input] at hmoves
  refine ⟨r₃, blanks, hmoves, ?_⟩
  have hnot : (atTagEnd r.input || r.input.isEmpty) = false := by
    rw [hinput, hi.name.isAnyName.atTagEnd, Bool.false_or]
    simp
  rw [Reader.attributesFrom, hnot, if_neg (by simp), hname]
  dsimp only
  rw [hr₁]
  split
  · next s heq =>
    rw [hmoves₁.input, List.cons.injEq] at heq
    obtain ⟨-, rfl⟩ := heq
    rw [hread]
    simp only [hkind, Bool.false_eq_true, if_false]
    rw [← Item.text, hitem]
  · next hne => exact absurd hmoves₁.input (hne _)

/-- The items of a start tag are read in order. -/
theorem Reader.attributesFrom_items (element : Chars) (hr : r.Undeclared)
    (his : ∀ i ∈ is, i.IsReadable) (hending : atTagEnd ending = true)
    (h : r.input = (is.flatMap Item.write ++ ending).dropWhile isMarkupBlank)
    (hfuel : is.length < fuel) (items : TagItems) :
    ∃ r' blanks, r.Moves ending (areSoundItems items.declarations is) r' ∧
      Reader.attributesFrom element fuel r items = (r', {
        attributes := items.attributes ++ is.filterMap Item.attribute?
        declarations := is.foldl declare items.declarations
        blanks }) := by
  have hstart := dropWhile_blank_of_atTagEnd hending
  induction is generalizing r fuel items with
  | nil =>
    obtain ⟨fuel, rfl⟩ : ∃ k, fuel = k + 1 := ⟨fuel - 1, by simp at hfuel; omega⟩
    rw [List.flatMap_nil, List.nil_append, hstart] at h
    refine ⟨r, items.blanks, ?_, ?_⟩
    · rw [← h]
      exact .refl r
    · rw [Reader.attributesFrom, h, hending, List.filterMap_nil, List.append_nil]
      rfl
  | cons i is ih =>
    obtain ⟨fuel, rfl⟩ : ∃ k, fuel = k + 1 := ⟨fuel - 1, by simp at hfuel; omega⟩
    rw [List.forall_mem_cons] at his
    have hinput : r.input = i.name ++ "=\"".toList ++ i.parts.flatMap writePart ++
        '"' :: (is.flatMap Item.write ++ ending) := by
      rw [h, List.flatMap_cons, Item.write]
      simp only [List.cons_append, List.append_assoc, List.nil_append]
      rw [List.dropWhile_cons_of_pos (by rfl), his.1.name.isAnyName.dropWhile_blank]
    obtain ⟨r₁, blanks, hmoves, hstep⟩ := Reader.attributesFrom_item element hr his.1 items fuel hinput
    dsimp only at hstep
    have hattributes : items.attributes ++ (i :: is).filterMap Item.attribute?
        = (items.attributes ++ i.attribute?.toList) ++ is.filterMap Item.attribute? := by
      rw [List.filterMap_cons, List.append_assoc]
      cases i.attribute? <;> rfl
    rw [hstep, areSoundItems, List.foldl_cons, hattributes]
    -- after the last item comes the end of the tag, after any other a blank
    rcases is with _ | ⟨j, is⟩
    · have hinput₁ : r₁.input = ending := hmoves.input
      rw [hinput₁, if_pos hending]
      refine ⟨r₁, blanks, ?_, by simp⟩
      rw [areSoundItems, Bool.and_true]
      exact hmoves
    · have hinput₁ : r₁.input = ' ' :: (j.name ++ "=\"".toList ++
          j.parts.flatMap writePart ++ ['"'] ++ (is.flatMap Item.write ++ ending)) := by
        rw [hmoves.input, List.flatMap_cons, Item.write]
        simp
      have hnext : (j :: is).length < fuel := by
        simp only [List.length_cons] at hfuel ⊢
        omega
      rw [if_neg (by rw [hinput₁]; simp [atTagEnd]), if_pos (by rw [Reader.atBlank, hinput₁]; rfl)]
      have hskip := r₁.moves_skipBlanks
      obtain ⟨r', blanks', hmoves', heq⟩ := ih ((hmoves.trans hskip).undeclared hr) his.2
        (by rw [hskip.input, hmoves.input]) hnext {
          attributes := items.attributes ++ i.attribute?.toList
          declarations := declare items.declarations i
          blanks }
      refine ⟨r', blanks', ?_, heq⟩
      have hall := (hmoves.trans hskip).trans hmoves'
      rwa [Bool.and_true] at hall

theorem length_le_items (his : ∀ i ∈ is, i.IsReadable) (t : Chars) :
    is.length ≤ ((is.flatMap Item.write ++ t).dropWhile isMarkupBlank).length := by
  have hall (is : List Item) : is.length ≤ (is.flatMap Item.write).length := by
    induction is with
    | nil => exact Nat.le_refl 0
    | cons i is ih =>
      rw [List.flatMap_cons, List.length_append, List.length_cons, Item.write]
      simp only [List.cons_append, List.length_cons]
      omega
  cases is with
  | nil => exact Nat.zero_le _
  | cons i is =>
    rw [List.forall_mem_cons] at his
    have hname := his.1.name.isAnyName
    have hlen := List.length_pos_iff.mpr hname.ne_nil
    have hrest := hall is
    rw [List.flatMap_cons, Item.write]
    simp only [List.cons_append, List.append_assoc]
    rw [List.dropWhile_cons_of_pos (by rfl), hname.dropWhile_blank]
    simp only [List.length_append, List.length_cons]
    omega

end MarkupQuery.Xml
