import MarkupQuery.Proofs.Xml.Assembly
import MarkupQuery.Proofs.Xml.Lawful

/-!
# What reading builds

Whatever text is read with default settings, the nodes that come out can be written and read back: every
function of the reader keeps the open elements and the finished nodes lawful (`Reader.Lawful`), so the
tree that is left in the end is lawful (`read_lawful`).
-/

namespace MarkupQuery.Xml

open MarkupQuery.Text MarkupQuery.Tree

variable {r r' : Reader} {s : Chars} {c : Char}

/-! ## Characters -/

theorem isXmlChar_ofNat {n : Nat} (h : isXmlCode n = true) : isXmlChar (Char.ofNat n) = true := by
  have hvalid : n.isValidChar := by
    simp only [isXmlCode, Bool.or_eq_true, Bool.and_eq_true, beq_iff_eq, decide_eq_true_eq] at h
    rw [Nat.isValidChar]
    omega
  rw [isXmlChar, Char.ofNat, dif_pos hvalid]
  exact h

theorem isXmlChar_of_isPlain (h : isPlain c = true) : isXmlChar c = true := by
  simp only [isPlain, Bool.or_eq_true, Bool.and_eq_true, beq_iff_eq, decide_eq_true_eq] at h
  obtain (rfl | rfl) | h := h
  · rfl
  · rfl
  · simp only [isXmlChar, isXmlCode, Bool.or_eq_true, Bool.and_eq_true, decide_eq_true_eq]
    omega

theorem isXmlChar_of_predefined {name : Chars} (h : predefined? name = some c) :
    isXmlChar c = true := by
  rw [predefined?] at h
  split at h <;> cases h <;> rfl

/-- The character that a reference means is allowed. -/
theorem Reader.isXmlChar_of_characterReference (h : r.characterReference = (r', some c)) :
    isXmlChar c = true := by
  rw [Reader.characterReference] at h
  grind [isXmlChar_ofNat]

theorem isPlain_of_mem_spanPlain (h : c ∈ (spanPlain s).1) : isPlain c = true := by
  induction s with
  | nil => cases h
  | cons d s ih =>
    rw [spanPlain] at h
    split at h
    · cases h
    split at h
    · next hd =>
      rcases List.mem_cons.mp h with rfl | h
      · exact hd
      · exact ih h
    · cases h

theorem isXmlChar_unifyLineEnds (hs : ∀ c ∈ s, isXmlChar c = true) :
    ∀ c ∈ unifyLineEnds s, isXmlChar c = true := by
  intro c hc
  rcases mem_unifyLineEnds hc with hc | rfl
  · exact hs c hc
  · rfl

theorem badCharacter?_eq_none_iff : badCharacter? s = none ↔ ∀ c ∈ s, isXmlChar c = true := by
  refine ⟨fun h => ?_, badCharacter?_eq_none⟩
  rw [badCharacter?] at h
  split at h
  · cases h
  · next hnil => exact List.dropWhile_eq_nil_iff.mp hnil

/-! ## Names -/

theorem isAnyName_spanName (h : (spanName s).1 ≠ []) : IsAnyName (spanName s).1 := by
  rcases spanName_spec s with ⟨hnil, -⟩ | ⟨hname, -⟩
  · exact absurd hnil h
  · exact hname

/-- The name of a reference is a name. -/
theorem Reader.isAnyName_of_entityName {name : Chars} (h : r.entityName = (r', some name)) :
    IsAnyName name := by
  rw [Reader.entityName] at h
  grind [isAnyName_spanName]

theorem Reader.predefined_of_meaning {name : Chars} {m : Meaning}
    (h : r.meaning name = (r', m)) :
    (∃ c, m = .char c ∧ predefined? name = some c) ∨
      ((∀ c, m ≠ .char c) ∧ predefined? name = none) := by
  rw [Reader.meaning] at h
  grind

/-! ## Attribute values -/

/-- The parts of a value that can be read back; without references they are one text. -/
structure LawfulParts (parts : List ValuePart) : Prop where
  reads : ∀ p ∈ parts, ReadsBack p
  single : parts.all isTextPart = true → ∃ s, parts = [.text s]

theorem readsBack_appendText {acc : Chars} {parts : List ValuePart}
    (hacc : ∀ c ∈ acc, isXmlChar c = true) (hparts : ∀ p ∈ parts, ReadsBack p) :
    ∀ p ∈ appendText acc parts, ReadsBack p := by
  rw [appendText]
  split
  · exact hparts
  · rw [List.forall_mem_append]
    exact ⟨hparts, by simpa [ReadsBack] using hacc⟩

/-- What is left at the end of a value. -/
theorem lawfulParts_appendText {acc : Chars} {parts : List ValuePart}
    (hacc : ∀ c ∈ acc, isXmlChar c = true) (hparts : ∀ p ∈ parts, ReadsBack p)
    (hheld : parts = [] ∨ parts.all isTextPart = false) :
    LawfulParts (if (appendText acc parts).isEmpty then [.text []] else appendText acc parts) := by
  split
  · exact ⟨by simp [ReadsBack], fun _ => ⟨[], rfl⟩⟩
  · next hne =>
    refine ⟨readsBack_appendText hacc hparts, fun hall => ?_⟩
    rw [appendText] at hall hne ⊢
    rcases hheld with rfl | hheld
    · split at hne
      · exact absurd rfl hne
      · next hacc => exact ⟨acc, if_neg hacc⟩
    · split at hall
      · rw [hheld] at hall
        cases hall
      · rw [List.all_append, hheld] at hall
        cases hall

/-- A value that is read so far: it can be read back, and parts stand before its last text only if one of them
is a reference. -/
structure HeldValue (acc : Chars) (parts : List ValuePart) : Prop where
  chars : ∀ c ∈ acc, isXmlChar c = true
  reads : ∀ p ∈ parts, ReadsBack p
  held : parts = [] ∨ parts.all isTextPart = false

theorem HeldValue.reverse {acc : Chars} {parts : List ValuePart} (h : HeldValue acc parts) :
    ∀ c ∈ acc.reverse, isXmlChar c = true := fun c hc => h.chars c (List.mem_reverse.mp hc)

theorem HeldValue.cons {acc : Chars} {parts : List ValuePart} (h : HeldValue acc parts)
    (hc : isXmlChar c = true) : HeldValue (c :: acc) parts :=
  ⟨List.forall_mem_cons.mpr ⟨hc, h.chars⟩, h.reads, h.held⟩

theorem Reader.ReadsValue.held {acc acc' : Chars} {parts parts' : List ValuePart}
    (h : r.ReadsValue acc parts r' acc' parts') (hheld : HeldValue acc parts) : HeldValue acc' parts' := by
  cases h with
  | number _ hchar => exact hheld.cons (Reader.isXmlChar_of_characterReference hchar)
  | nameless => exact hheld
  | unknown => exact hheld
  | @named _ _ _ name d _ _ hmeaning =>
    obtain ⟨c, hc, hknown⟩ | ⟨hne, -⟩ := Reader.predefined_of_meaning hmeaning
    · cases hc
      exact hheld.cons (isXmlChar_of_predefined hknown)
    · exact absurd rfl (hne d)
  | outside => exact hheld
  | entity _ hname hmeaning =>
    obtain ⟨c, hc, -⟩ | ⟨-, hunknown⟩ := Reader.predefined_of_meaning hmeaning
    · cases hc
    refine ⟨by simp, ?_, .inr (by simp [isTextPart])⟩
    rw [List.forall_mem_append]
    exact ⟨readsBack_appendText hheld.reverse hheld.reads,
      by simpa using ⟨Reader.isAnyName_of_entityName hname, hunknown⟩⟩
  | lineEnd => exact hheld
  | blank => exact hheld.cons rfl
  | char _ hc => exact hheld.cons hc

/-- The value of an attribute. -/
theorem Reader.lawfulParts_of_valueFrom {quote : Char} {fuel : Nat} {acc : Chars}
    {parts found : List ValuePart} (hheld : HeldValue acc parts)
    (h : Reader.valueFrom quote fuel r acc parts = (r', some found)) : LawfulParts found := by
  induction fuel generalizing r acc parts with
  | zero => cases h
  | succ fuel ih =>
    obtain ⟨r₁, found₁, heq, hends⟩ | ⟨r₁, acc₁, parts₁, heq, hreads⟩ :=
      r.valueFrom_succ quote fuel acc parts
    · cases heq.symm.trans h
      cases hends with
      | closed => exact lawfulParts_appendText hheld.reverse hheld.reads hheld.held
    · exact ih (hreads.held hheld) (heq.symm.trans h)

/-- The value of an attribute between its quotes. -/
theorem Reader.lawfulParts_of_attributeValue {found : List ValuePart}
    (h : r.attributeValue = (r', some found)) : LawfulParts found := by
  rw [Reader.attributeValue] at h
  split at h
  · exact Reader.lawfulParts_of_valueFrom ⟨by simp, by simp, .inl rfl⟩ h
  · exact Reader.lawfulParts_of_valueFrom ⟨by simp, by simp, .inl rfl⟩ h
  · cases h

theorem mem_of_mem_intersperse {α : Type} {x sep : α} {l : List α} (h : x ∈ l.intersperse sep) :
    x = sep ∨ x ∈ l := by
  induction l with
  | nil => cases h
  | cons a l ih =>
    cases l with
    | nil => exact .inr h
    | cons b l =>
      simp only [List.intersperse, List.mem_cons] at h ih ⊢
      tauto

/-- Words are made of the text's characters, with blanks between them. -/
theorem mem_of_mem_normalizeTokens (h : c ∈ normalizeTokens s) : c ∈ s ∨ c = ' ' := by
  rw [normalizeTokens] at h
  obtain ⟨word, hword, hc⟩ := List.mem_flatten.mp h
  rcases mem_of_mem_intersperse hword with rfl | hword
  · exact .inr (List.mem_singleton.mp hc)
  · left
    rw [← List.flatten_splitBy (fun a b => (a == ' ') == (b == ' ')) s]
    exact List.mem_flatten.mpr ⟨word, List.mem_of_mem_filter hword, hc⟩

theorem LawfulParts.tokenValue {parts : List ValuePart} (h : LawfulParts parts) :
    LawfulParts (tokenValue parts) := by
  unfold Xml.tokenValue
  split
  · next s =>
    have hs : ∀ c ∈ s, isXmlChar c = true := h.reads _ (List.mem_singleton_self _)
    refine ⟨?_, fun _ => ⟨_, rfl⟩⟩
    rw [List.forall_mem_singleton]
    intro c hc
    rcases mem_of_mem_normalizeTokens hc with hc | rfl
    · exact hs c hc
    · rfl
  · exact h

/-! ## Tags -/

/-- What a start tag notes of an attribute: a name as it is written, which declares no namespace, and a
value. -/
structure LawfulItem (item : Option Chars × Chars × List ValuePart) : Prop where
  shape : ∃ w : WrittenName, w.Shape ∧ w.label = item.1 ∧ w.base = item.2.1
  label : item.1 ≠ some "xmlns".toList
  base : item.1 = none → item.2.1 ≠ "xmlns".toList
  parts : LawfulParts item.2.2

theorem Reader.lawfulItem_of_tagItem {items items' : TagItems} {w : WrittenName}
    {parts : List ValuePart} (hitems : ∀ a ∈ items.attributes, LawfulItem a) (hw : w.Shape)
    (hparts : LawfulParts parts) (h : r.tagItem items w parts = (r', items')) :
    ∀ a ∈ items'.attributes, LawfulItem a := by
  unfold Reader.tagItem at h
  extract_lets value declare at h
  -- a declaration adds no attribute, whether it is noted or not
  have hdeclare (r r' : Reader) (label : Option Chars) (h : declare r label = (r', items')) :
      ∀ a ∈ items'.attributes, LawfulItem a := by
    simp only [declare] at h
    split at h
    · obtain rfl := (Prod.mk.inj h).2
      exact hitems
    · obtain rfl := (Prod.mk.inj h).2
      exact hitems
  clear_value declare
  split at h
  · split at h
    · exact hdeclare _ _ _ h
    · obtain rfl := (Prod.mk.inj h).2
      exact hitems
  next hdefault =>
  split at h
  · split at h
    · exact hdeclare _ _ _ h
    · obtain rfl := (Prod.mk.inj h).2
      exact hitems
  next hprefixed =>
  obtain rfl := (Prod.mk.inj h).2
  rw [List.forall_mem_append, List.forall_mem_singleton]
  exact ⟨hitems, ⟨w, hw, rfl, rfl⟩, by simpa using hprefixed, by simpa using hdefault, hparts⟩

theorem Reader.ReadsPiece.lawfulItem {a b : Reader × TagItems} (h : Reader.ReadsPiece a b)
    (hitems : ∀ i ∈ a.2.attributes, LawfulItem i) : ∀ i ∈ b.2.attributes, LawfulItem i := by
  cases h with
  | blanks => exact hitems
  | fatal => exact hitems
  | name => exact hitems
  | unread => exact hitems
  | item items hw _ hvalue hkept =>
    have hparts := Reader.lawfulParts_of_attributeValue hvalue
    refine Reader.lawfulItem_of_tagItem hitems (shape_of_writtenName? hw) ?_ (Prod.eta _).symm
    obtain rfl | rfl := hkept
    · exact hparts
    · exact hparts.tokenValue

theorem Reader.lawfulItem_of_attributesFrom {element : Chars} {fuel : Nat}
    {items items' : TagItems} (hitems : ∀ a ∈ items.attributes, LawfulItem a)
    (h : Reader.attributesFrom element fuel r items = (r', items')) :
    ∀ a ∈ items'.attributes, LawfulItem a := by
  have hall {a b : Reader × TagItems} (h : Relation.ReflTransGen Reader.ReadsPiece a b)
      (ha : ∀ i ∈ a.2.attributes, LawfulItem i) : ∀ i ∈ b.2.attributes, LawfulItem i := by
    induction h with
    | refl => exact ha
    | tail _ hpiece ih => exact hpiece.lawfulItem ih
  have hread := hall (Reader.reads_attributesFrom element fuel r items) hitems
  rwa [h] at hread

theorem Reader.lawfulAttribute_of_attributeName {scope : List Declaration}
    {item : Option Chars × Chars × List ValuePart} {element : Chars} {n : Name}
    (hitem : LawfulItem item) (h : r.attributeName scope element item.1 item.2.1 = (r', n)) :
    LawfulAttribute ⟨n, item.2.2⟩ := by
  obtain ⟨label, base, parts⟩ := item
  obtain ⟨⟨w, hshape, hlabel, hbase⟩, hnot, hdefault, hparts⟩ := hitem
  dsimp only at hlabel hbase hnot hdefault hparts h
  subst hlabel hbase
  have hwhole : IsWhole n.written := by
    obtain ⟨r₁, -, hname⟩ := r.attributeName_in scope element w.label w.base
    obtain rfl := (Prod.mk.inj (h.symm.trans hname)).2
    exact ⟨w, hshape, (written_attributeNameIn scope w.label w.base).symm⟩
  refine ⟨fun hbare => ?_, hwhole, hparts.reads, hparts.single⟩
  dsimp only at hbare
  unfold Reader.attributeName at h
  split at h
  · next hnone =>
    obtain rfl := (Prod.mk.inj h).2
    refine ⟨rfl, rfl, ⟨w, hshape, ?_, ?_, ?_⟩, hdefault hnone⟩
    · rw [WrittenName.written, hnone]
      rfl
    · rw [hnone]; simp
    · rw [hnone]; simp
  next l hl =>
  split at h
  · obtain rfl := (Prod.mk.inj h).2
    cases hbare
  next hspace =>
  -- a prefix that is not declared becomes part of the name
  obtain rfl := (Prod.mk.inj h).2
  refine ⟨rfl, rfl, ⟨w, hshape, ?_, ?_, hnot⟩, ?_⟩
  · rw [WrittenName.written, hl]
    rfl
  · intro hxml
    rw [hxml] at hspace
    cases hspace
  · intro heq
    have hcolon : ':' ∈ l ++ ':' :: w.base := by simp
    rw [show l ++ ':' :: w.base = "xmlns".toList from heq] at hcolon
    exact absurd hcolon (by decide)

theorem Reader.lawfulAttribute_of_nameAttributes {scope : List Declaration} {element : Chars}
    {items : List (Option Chars × Chars × List ValuePart)} {as : List Attribute}
    (hitems : ∀ i ∈ items, LawfulItem i)
    (h : Reader.nameAttributes scope element items r = (r', as)) :
    ∀ a ∈ as, LawfulAttribute a := by
  induction items generalizing r r' as with
  | nil =>
    cases h
    nofun
  | cons item items ih =>
    obtain ⟨label, base, parts⟩ := item
    rw [List.forall_mem_cons] at hitems
    rw [Reader.nameAttributes] at h
    split at h
    next hname =>
    split at h
    next hmore =>
    obtain rfl := (Prod.mk.inj h).2
    rw [List.forall_mem_cons]
    exact ⟨Reader.lawfulAttribute_of_attributeName hitems.1 hname, ih hitems.2 hmore⟩

theorem Reader.isLocal_of_elementName {scope : List Declaration} {w : WrittenName} {n : Name}
    (hw : w.Shape) (h : r.elementName scope w.label w.base = (r', n)) (hbare : isBareName n = true) :
    IsLocal n := by
  unfold Reader.elementName at h
  split at h
  · next hspace =>
    obtain rfl := (Prod.mk.inj h).2
    simp only [isBareName, Bool.and_eq_true, Option.isNone_iff_eq_none] at hbare
    obtain ⟨hnone, hempty⟩ := hbare
    refine ⟨hnone, hempty, w, hw, ?_, ?_⟩
    · rw [WrittenName.written, hnone]
      rfl
    · rw [hnone]; simp
  next hspace =>
  split at h
  · next hnone =>
    obtain rfl := (Prod.mk.inj h).2
    refine ⟨rfl, rfl, w, hw, ?_, ?_⟩
    · rw [WrittenName.written, hnone]
      rfl
    · rw [hnone]; simp
  · next l hl =>
    obtain rfl := (Prod.mk.inj h).2
    refine ⟨rfl, rfl, w, hw, ?_, ?_⟩
    · rw [WrittenName.written, hl]
      rfl
    · intro hxml
      rw [hxml] at hspace
      cases hspace

theorem Reader.isWhole_of_elementName {scope : List Declaration} {w : WrittenName} {n : Name}
    (hw : w.Shape) (h : r.elementName scope w.label w.base = (r', n)) : IsWhole n.written := by
  obtain ⟨r₁, -, hname⟩ := r.elementName_in scope w.label w.base
  obtain rfl := (Prod.mk.inj (h.symm.trans hname)).2
  exact ⟨w, hw, (written_elementNameIn scope w.label w.base).symm⟩

/-! ## Lawful readers -/

/-- Open elements that become lawful nodes when they are closed. -/
def LawfulFrames : List Frame → Prop
  | [] => True
  | f :: fs => fs.length ≤ 256 ∧ LawfulTag f.tag ∧ LawfulNodes (256 - fs.length) f.content ∧
      LawfulFrames fs

/-- A reader with default settings that has built lawful nodes only. -/
structure Reader.Lawful (r : Reader) : Prop where
  settings : r.settings = { keepSections := false }
  frames : LawfulFrames r.frames
  top : LawfulNodes 257 r.top

/-- What builds nothing keeps a reader lawful. -/
theorem Reader.Lawful.of_built (h : r.Lawful) (hbuilt : r'.built = r.built) : r'.Lawful := by
  simp only [Reader.built, Prod.mk.injEq] at hbuilt
  obtain ⟨hsettings, hframes, htop⟩ := hbuilt
  exact ⟨hsettings ▸ h.settings, hframes ▸ h.frames, htop ▸ h.top⟩

theorem Reader.Lawful.at_ (h : r.Lawful) (s : Chars) : (r.at_ s).Lawful := h.of_built rfl

theorem Reader.Lawful.fatal (h : r.Lawful) (message : String) : (r.fatal message).Lawful :=
  h.of_built rfl

/-- A lawful node is added. -/
theorem Reader.Lawful.add (h : r.Lawful) {n : Node} (hn : LawfulNode (257 - r.frames.length) n) :
    (r.add n).Lawful := by
  rw [Reader.add]
  split
  · next f fs hfs =>
    have hframes := h.frames
    rw [hfs] at hframes hn
    obtain ⟨hlen, htag, hcontent, hmore⟩ := hframes
    rw [List.length_cons, show 257 - (fs.length + 1) = 256 - fs.length by omega] at hn
    exact ⟨h.settings, ⟨hlen, htag, ⟨hn, hcontent⟩, hmore⟩, h.top⟩
  · next hnil =>
    rw [hnil] at hn
    exact ⟨h.settings, h.frames, hn, h.top⟩

/-- Text in a list of nodes. -/
theorem lawfulNodes_addText {room : Nat} {ns : List Node} (hns : LawfulNodes room ns) (hnil : s ≠ [])
    (hs : ∀ c ∈ s, isXmlChar c = true) : LawfulNodes room (addText s ns) := by
  unfold addText
  split
  · obtain ⟨⟨-, ht⟩, hmore⟩ := hns
    exact ⟨⟨by simp [hnil], List.forall_mem_append.mpr ⟨ht, hs⟩⟩, hmore⟩
  · exact ⟨⟨hnil, hs⟩, hns⟩

theorem Reader.Lawful.addText (h : r.Lawful) (hnil : s ≠ []) (hs : ∀ c ∈ s, isXmlChar c = true) :
    (r.addText s).Lawful := by
  rw [Reader.addText]
  split
  · next f fs hfs =>
    have hframes := h.frames
    rw [hfs] at hframes
    obtain ⟨hlen, htag, hcontent, hmore⟩ := hframes
    exact ⟨h.settings, ⟨hlen, htag, lawfulNodes_addText hcontent hnil hs, hmore⟩, h.top⟩
  · exact h

theorem lawfulNodes_reverse {room : Nat} {ns : List Node} (h : LawfulNodes room ns) :
    LawfulNodes room ns.reverse := by
  rw [lawfulNodes_iff] at h ⊢
  exact fun n hn => h n (List.mem_reverse.mp hn)

/-- An element is closed. -/
theorem Reader.Lawful.close (h : r.Lawful) : r.close.Lawful := by
  rw [Reader.close]
  split
  · next f fs hfs =>
    have hframes := h.frames
    rw [hfs] at hframes
    obtain ⟨hlen, htag, hcontent, hmore⟩ := hframes
    have hopen : ({ r with frames := fs } : Reader).Lawful := ⟨h.settings, hmore, h.top⟩
    refine hopen.add ⟨?_, htag, ?_⟩
    · show 0 < 257 - fs.length
      omega
    · show LawfulNodes (257 - fs.length - 1) f.content.reverse
      rw [show 257 - fs.length - 1 = 256 - fs.length by omega]
      exact lawfulNodes_reverse hcontent
  · exact h

theorem Reader.Lawful.closeMany (n : Nat) (h : r.Lawful) : (Reader.closeMany n r).Lawful := by
  induction n generalizing r with
  | zero => exact h
  | succ n ih => exact ih h.close

/-! ## Text -/

theorem Reader.Lawful.deliver (h : r.Lawful) (hs : ∀ c ∈ s, isXmlChar c = true) :
    (r.deliver s).Lawful := by
  rw [Reader.deliver]
  split
  · exact h
  next hnil =>
  split
  · exact h
  split
  · next f fs hfs =>
    have hframes := h.frames
    rw [hfs] at hframes
    exact Reader.Lawful.addText ⟨h.settings, hframes, h.top⟩ (by simpa using hnil) hs
  · exact h

theorem Reader.Lawful.mixedText (h : r.Lawful) : r.mixedText.Lawful := by
  unfold Reader.mixedText
  extract_lets allowed taken rest r₁ r₂
  have htaken : ∀ c ∈ taken, isXmlChar c = true := fun c hc => by
    have hc := List.mem_takeWhile_imp hc
    simp only [allowed, Bool.and_eq_true] at hc
    exact hc.2
  have h₁ : r₁.Lawful := h.of_built (by simp only [r₁]; split <;> rfl)
  have h₂ : r₂.Lawful := h₁.deliver (isXmlChar_unifyLineEnds htaken)
  clear_value r₂ r₁ rest
  split
  · exact h₂
  · split
    · exact h₂
    · exact h₂.of_built rfl

theorem Reader.Lawful.textFrom (fuel : Nat) (h : r.Lawful) : (Reader.textFrom fuel r).Lawful := by
  induction fuel generalizing r with
  | zero => exact h
  | succ fuel ih =>
    rw [Reader.textFrom]
    split
    next taken rest stopped hspan =>
    split
    · exact h.of_built rfl
    have htaken : ∀ c ∈ taken, isXmlChar c = true := fun c hc =>
      isXmlChar_of_isPlain (isPlain_of_mem_spanPlain (s := r.input) (by rw [hspan]; exact hc))
    extract_lets r₁
    have h₁ : r₁.Lawful := (h.at_ rest).deliver htaken
    clear_value r₁
    split
    · split
      · exact ih (h₁.at_ _)
      · exact (h₁.at_ _).mixedText
    · exact h₁
    · split
      · exact h₁
      · exact h₁.mixedText

/-! ## Comments, instructions and sections -/

theorem Reader.Lawful.comment (h : r.Lawful) : r.comment.Lawful := by
  unfold Reader.comment
  extract_lets body
  split
  · next content rest hcut =>
    split
    · exact (h.at_ _).fatal _
    next hbad =>
    have hcontent := isXmlChar_unifyLineEnds (badCharacter?_eq_none_iff.mp hbad)
    have hclear : IsClear "-->".toList (unifyLineEnds content) :=
      (isClear_of_cutAt hcut).unifyLineEnds (by decide) (by decide)
    extract_lets r₁
    have h₁ : r₁.Lawful := h.of_built (by simp only [r₁]; split <;> rfl)
    rw [Reader.addComment]
    split
    · exact h₁.at_ rest
    · exact (h₁.at_ rest).add ⟨hcontent, hclear, not_mem_unifyLineEnds _⟩
  · split
    · exact (h.at_ _).fatal _
    · exact (h.at_ _).fatal _

/-- The data of an instruction does not begin with a blank. -/
theorem stops_unifyLineEnds (h : Stops isMarkupBlank s) : Stops isMarkupBlank (unifyLineEnds s) := by
  intro c hc
  unfold unifyLineEnds at hc
  split at hc
  · cases hc
  · exact absurd (h '\r' rfl) (by decide)
  · exact absurd (h '\r' rfl) (by decide)
  · exact h c hc

theorem Reader.Lawful.instruction (h : r.Lawful) : r.instruction.Lawful := by
  unfold Reader.instruction
  split
  next target rest hspan =>
  extract_lets r₁
  have h₁ : r₁.Lawful := h.at_ rest
  clear_value r₁
  split
  · exact h₁.fatal _
  next r₂ shown r₃ body good htarget =>
  have hname : IsAnyName target := by
    have hname := isAnyName_spanName (s := r.input.drop 2)
    rw [hspan] at hname
    exact hname (by simpa using htarget)
  have h₂ : r₂.Lawful := h₁.of_built (r₁.built_checkTarget target)
  clear_value r₂
  split
  · exact (h₂.at_ _).add hname
  have h₃ : r₃.Lawful := h₂.of_built (by simp only [r₃]; split <;> rfl)
  have hstops : Stops isMarkupBlank body := by
    simp only [body, r₃]
    split
    · exact stops_dropWhile _ _
    · next hblank =>
      intro c hc
      have hhead : r₂.input.head? = some c := hc
      rw [Reader.atBlank, hhead] at hblank
      simpa using hblank
  clear_value good body r₃
  split
  · next data rest hcut =>
    split
    · exact (h₃.at_ _).fatal _
    next hbad =>
    refine (h₃.at_ rest).add ⟨hname, isXmlChar_unifyLineEnds (badCharacter?_eq_none_iff.mp hbad),
      (isClear_of_cutAt hcut).unifyLineEnds (by decide) (by decide), not_mem_unifyLineEnds _,
      stops_unifyLineEnds fun c hc => hstops c ?_⟩
    rw [cutAt_eq_some hcut, List.append_assoc, List.head?_append, hc]
    rfl
  · exact (h₃.at_ _).fatal _

theorem Reader.Lawful.section_ (h : r.Lawful) : r.section_.Lawful := by
  unfold Reader.section_
  extract_lets body unfinished
  have hunfinished (good : Chars) : (unfinished good).Lawful := (h.at_ _).fatal _
  clear_value unfinished
  split
  · exact hunfinished _
  · next content rest hcut =>
    split
    · exact hunfinished _
    next hbad =>
    have hcontent := isXmlChar_unifyLineEnds (badCharacter?_eq_none_iff.mp hbad)
    extract_lets content' r₁
    have hkeep : r₁.settings.keepSections = false := by
      show r.settings.keepSections = false
      rw [h.settings]
    split
    · next hkept => rw [hkeep] at hkept; cases hkept
    split
    · exact h.at_ rest
    · next hnil => exact (h.at_ rest).addText (by simpa using hnil) hcontent

/-! ## References -/

theorem Reader.Lawful.contentReference (h : r.Lawful) : r.contentReference.Lawful := by
  unfold Reader.contentReference
  split
  · split
    · next r₁ c hc =>
      refine (h.of_built (Reader.built_of_characterReference hc)).addText (by simp) ?_
      rw [List.forall_mem_singleton]
      exact Reader.isXmlChar_of_characterReference hc
    · next r₁ hc => exact h.of_built (Reader.built_of_characterReference hc)
  · split
    · next r₁ hname => exact h.of_built (Reader.built_of_entityName hname)
    next r₁ name hname =>
    have h₁ := h.of_built (Reader.built_of_entityName hname)
    have hname := Reader.isAnyName_of_entityName hname
    split
    · next r₂ hmeaning =>
      have h₂ := h₁.of_built (Reader.built_of_meaning hmeaning)
      obtain ⟨c, hc, -⟩ | ⟨-, hunknown⟩ := Reader.predefined_of_meaning hmeaning
      · cases hc
      · exact h₂.add ⟨hname, hunknown⟩
    · next r₂ d hmeaning =>
      have h₂ := h₁.of_built (Reader.built_of_meaning hmeaning)
      split
      · obtain ⟨c, hc, hknown⟩ | ⟨hne, -⟩ := Reader.predefined_of_meaning hmeaning
        · cases hc
          refine h₂.addText (by simp) ?_
          rw [List.forall_mem_singleton]
          exact isXmlChar_of_predefined hknown
        · exact absurd rfl (hne d)
      · exact h₂
    · next r₂ e hmeaning =>
      have h₂ := h₁.of_built (Reader.built_of_meaning hmeaning)
      split
      · obtain ⟨c, hc, -⟩ | ⟨-, hunknown⟩ := Reader.predefined_of_meaning hmeaning
        · cases hc
        · exact h₂.add ⟨hname, hunknown⟩
      · exact h₂

/-! ## Tags -/

theorem Reader.EndsTag.lawful (h : r.EndsTag r') (hr : r.Lawful) : r'.Lawful := by
  cases h with
  | empty h => exact (hr.at_ _).close
  | full h => exact hr.at_ _
  | broken message h => exact (hr.fatal _).close

theorem Reader.StartsTag.lawful (h : r.StartsTag r') (hr : r.Lawful) : r'.Lawful := by
  cases h with
  | deep message hdepth => exact hr.of_built rfl
  | nameless message hw => exact (hr.at_ _).fatal _
  | @opened r₁ r₂ r₃ _ w items declarations as n f hdepth hw hitems _ has hn hf hends =>
    have hshape := shape_of_writtenName? hw
    rw [hr.settings] at hdepth
    have h₁ := (Reader.built_of_attributesFrom hitems).trans (r.built_afterName w)
    have h₂ := (Reader.built_of_nameAttributes has).trans h₁
    have h₃ := (Reader.built_of_elementName hn).trans ((Reader.built_checkDistinct as [] r₂).trans h₂)
    have has := Reader.lawfulAttribute_of_nameAttributes
      (Reader.lawfulItem_of_attributesFrom (by simp) hitems) has
    have hr₃ := hr.of_built h₃
    simp only [Reader.built, Prod.mk.injEq] at h₃
    subst hf
    refine hends.lawful ⟨hr₃.settings, ⟨?_, ⟨Reader.isLocal_of_elementName hshape hn,
      Reader.isWhole_of_elementName hshape hn, has⟩, trivial, hr₃.frames⟩, hr₃.top⟩
    rw [h₃.2.1]
    exact hdepth

theorem Reader.Lawful.startTag (h : r.Lawful) : r.startTag.Lawful := r.startTag_starts.lawful h

theorem Reader.Lawful.endTag (h : r.Lawful) : r.endTag.Lawful := h.close.of_built r.endTag_closes

/-! ## Content -/

/-- Every step keeps what was built lawful. -/
theorem Reader.Lawful.contentStep (h : r.Lawful) : r.contentStep.Lawful := by
  unfold Reader.contentStep
  split
  · exact h.endTag
  · exact h.instruction
  · exact h.comment
  · exact h.section_
  · exact h.startTag
  · exact h.contentReference
  · exact h.textFrom _

theorem Reader.Lawful.content (fuel : Nat) (h : r.Lawful) : (Reader.content fuel r).Lawful := by
  induction fuel generalizing r with
  | zero => exact h
  | succ fuel ih =>
    rw [Reader.content]
    split
    · exact h
    · exact ih h.contentStep

/-! ## Whole documents -/

theorem Reader.Lawful.around (fuel : Nat) (h : r.Lawful) : (Reader.around fuel r).Lawful := by
  induction fuel generalizing r with
  | zero => exact h
  | succ fuel ih =>
    rw [Reader.around]
    have h₁ : r.skipBlanks.Lawful := h.at_ _
    split
    · exact ih h₁.instruction
    split
    · exact ih h₁.comment
    · exact h₁

theorem Reader.Lawful.declaration (h : r.Lawful) : r.declaration.Lawful := by
  -- comments and instructions are read, but not kept
  have hleaves {r₁ : Reader} (h₁ : r₁.Lawful) : ({ r₁ with top := r.top } : Reader).Lawful :=
    ⟨h₁.settings, h₁.frames, h.top⟩
  unfold Reader.declaration
  extract_lets keyword
  split
  · exact hleaves h.comment
  · exact hleaves h.instruction
  split
  · exact h.of_built (by simp)
  · exact h.of_built (by simp)
  · split
    exact h.of_built (by simp)
  · split
    · exact h.at_ _
    · exact (h.at_ _).fatal _
  · exact (h.fatal _).at_ _

theorem Reader.Lawful.declarations (fuel : Nat) (h : r.Lawful) :
    (Reader.declarations fuel r).Lawful := by
  induction fuel generalizing r with
  | zero => exact h
  | succ fuel ih =>
    rw [Reader.declarations]
    have h₁ : r.skipBlanks.Lawful := h.at_ _
    generalize r.skipBlanks = r₁ at h₁
    split
    · exact h₁
    · exact h₁.of_built rfl
    · split
      extract_lets rest r₂
      have h₂ : r₂.Lawful := h₁.of_built rfl
      split
      · exact h₂.fatal _
      split
      · exact h₂.fatal _
      · exact ih h₂
    · split
      · exact ih h₁.declaration
      · exact h₁.of_built rfl
    · exact h₁.of_built rfl

theorem Reader.Lawful.documentType (h : r.Lawful) : r.documentType.Lawful := by
  unfold Reader.documentType
  extract_lets r₁ r₂
  have h₂ : r₂.Lawful := h.of_built (by simp only [r₂]; split <;> rfl)
  clear_value r₂
  split
  next name rest _ =>
  extract_lets r₃ r₄
  have h₄ : r₄.Lawful := h₂.of_built (by simp only [r₄]; split <;> rfl)
  clear_value r₄
  split
  next r₅ told htold =>
  have h₅ : r₅.Lawful := (h₄.at_ _).of_built (Reader.built_of_outside htold)
  extract_lets r₆ r₇
  have h₇ : r₇.Lawful := h₅.of_built (by simp only [r₇, r₆]; split <;> rfl)
  clear_value r₇
  split
  · extract_lets r₈ r₉
    have h₉ : r₉.Lawful := ((h₇.at_ _).declarations _).of_built rfl
    clear_value r₉
    split
    · exact h₉
    split
    · exact h₉.at_ _
    · split
      · exact h₉.fatal _
      · exact h₉.at_ _
  · exact h₇.at_ _
  · exact h₇.fatal _

theorem Reader.Lawful.body (h : r.Lawful) : r.body.Lawful := by
  unfold Reader.body
  split
  · extract_lets r₁
    have h₁ : r₁.Lawful := h.startTag.content _
    clear_value r₁
    split
    · exact h₁
    split
    · split
      · exact h₁.fatal _
      · exact h₁
    · have h₂ : r₁.surroundings.Lawful := h₁.around _
      split
      · exact h₂
      · exact h₂.fatal _
  · exact h.fatal _

theorem Reader.Lawful.whole (h : r.Lawful) : r.whole.Lawful := by
  unfold Reader.whole
  extract_lets r₁ r₂ r₃
  have h₁ : r₁.Lawful := h.of_built (by simp only [r₁]; split <;> simp)
  have h₂ : r₂.Lawful := h₁.around _
  have h₃ : r₃.Lawful := by
    simp only [r₃]
    split
    · exact h₂.documentType.around _
    · exact h₂
  clear_value r₃
  split
  · exact h₃
  · exact h₃.body

/-- Whatever is read with default settings can be written and read back. -/
theorem read_lawful {text : Chars} {malformedFrom : Nat} {f : Forest}
    (h : (read { keepSections := false } text malformedFrom).forest = some f) :
    LawfulNodes 257 f := by
  unfold read at h
  extract_lets input start at h
  have hstart : start.Lawful := ⟨rfl, trivial, trivial⟩
  clear_value start
  split at h
  · cases h
  · obtain rfl := Option.some.inj h
    exact lawfulNodes_reverse (hstart.whole.closeMany _).top

end MarkupQuery.Xml
