import MarkupQuery.Xml.StartTag
import Mathlib.Logic.Relation

/-!
# What a start tag does

All that is shown of start tags follows from what their parts do. The attributes and declarations are read
piece by piece (`Reader.ReadsPiece`), whatever becomes of each of them (`Reader.reads_attributesFrom`), so
that what every piece keeps is kept by all of them. A start tag is refused, has no name, or opens an element
and ends in one of three ways (`Reader.startTag_starts`).
-/

namespace MarkupQuery.Xml

open MarkupQuery.Text MarkupQuery.Tree

variable {r r' : Reader} {s : Chars}

/-- The namespaces in scope, the innermost first. -/
def Reader.scope (r : Reader) : List Declaration := (r.frames.head?.map (·.scope)).getD []

/-- A reader after a name in a start tag and the blanks that follow it. -/
def Reader.afterName (r : Reader) (w : WrittenName) : Reader :=
  ((r.at_ w.rest).complain w).skipBlanks

/-! ## Attribute values -/

/-- One piece of a value is read: a reference or a character. Before it stood the text since the last
reference to an entity, reversed, and the parts before that text. -/
inductive Reader.ReadsValue (r : Reader) (acc : Chars) (parts : List ValuePart) :
    Reader → Chars → List ValuePart → Prop
  | number {r₁ : Reader} {s : Chars} {d : Char} (hinput : r.input = '&' :: '#' :: s)
      (hchar : r.characterReference = (r₁, some d)) : r.ReadsValue acc parts r₁ (d :: acc) parts
  | nameless {r₁ : Reader} {s : Chars} (hinput : r.input = '&' :: s) (hname : r.entityName = (r₁, none)) :
      r.ReadsValue acc parts r₁ acc parts
  | unknown {r₁ r₂ : Reader} {s name : Chars} (hinput : r.input = '&' :: s)
      (hname : r.entityName = (r₁, some name)) (hmeaning : r₁.meaning name = (r₂, .unknown)) :
      r.ReadsValue acc parts r₂ acc parts
  | named {r₁ r₂ : Reader} {s name : Chars} {d : Char} (hinput : r.input = '&' :: s)
      (hname : r.entityName = (r₁, some name)) (hmeaning : r₁.meaning name = (r₂, .char d)) :
      r.ReadsValue acc parts r₂ (d :: acc) parts
  | outside {r₁ r₂ : Reader} {s name : Chars} {e : Entity} (message : String) (hinput : r.input = '&' :: s)
      (hname : r.entityName = (r₁, some name)) (hmeaning : r₁.meaning name = (r₂, .declared e)) :
      r.ReadsValue acc parts (r₂.fatal message) acc parts
  | entity {r₁ r₂ : Reader} {s name : Chars} {e : Entity} (hinput : r.input = '&' :: s)
      (hname : r.entityName = (r₁, some name)) (hmeaning : r₁.meaning name = (r₂, .declared e)) :
      r.ReadsValue acc parts r₂ [] (appendText acc.reverse parts ++ [.reference name e.content])
  | lineEnd {s : Chars} (hinput : r.input = '\r' :: '\n' :: s) :
      r.ReadsValue acc parts (r.at_ ('\n' :: s)) acc parts
  | blank {s : Chars} {c : Char} (hinput : r.input = c :: s) (hc : c = '\n' ∨ c = '\t' ∨ c = '\r') :
      r.ReadsValue acc parts (r.at_ s) (' ' :: acc) parts
  | char {s : Chars} {c : Char} (hinput : r.input = c :: s) (hc : isXmlChar c = true) :
      r.ReadsValue acc parts (r.at_ s) (c :: acc) parts

/-- A value ends at its closing quote, or is broken off. -/
inductive Reader.EndsValue (quote : Char) (r : Reader) (acc : Chars) (parts : List ValuePart) :
    Reader → Option (List ValuePart) → Prop
  | closed {s : Chars} (hinput : r.input = quote :: s) :
      Reader.EndsValue quote r acc parts (r.at_ s) (some
        (if (appendText acc.reverse parts).isEmpty then [.text []] else appendText acc.reverse parts))
  | broken (message : String) : Reader.EndsValue quote r acc parts (r.fatal message) none
  | number {r₁ : Reader} {s : Chars} (hinput : r.input = '&' :: '#' :: s)
      (hchar : r.characterReference = (r₁, none)) : Reader.EndsValue quote r acc parts r₁ none

/-- A value ends, or a piece of it is read and then the rest. -/
theorem Reader.valueFrom_succ (quote : Char) (fuel : Nat) (r : Reader) (acc : Chars)
    (parts : List ValuePart) :
    (∃ r' found, Reader.valueFrom quote (fuel + 1) r acc parts = (r', found) ∧
        Reader.EndsValue quote r acc parts r' found) ∨
      ∃ r' acc' parts', Reader.valueFrom quote (fuel + 1) r acc parts =
        Reader.valueFrom quote fuel r' acc' parts' ∧ r.ReadsValue acc parts r' acc' parts' := by
  rw [Reader.valueFrom]
  split
  · exact .inl ⟨_, _, rfl, .broken _⟩
  next c s hinput =>
  split
  · next hquote =>
    rw [beq_iff_eq.mp hquote] at hinput
    exact .inl ⟨_, _, rfl, .closed hinput⟩
  split
  · exact .inl ⟨_, _, rfl, .broken _⟩
  split
  · next hamp =>
    obtain rfl := beq_iff_eq.mp hamp
    split
    · next hnumber =>
      obtain ⟨s, rfl⟩ := List.head?_eq_some_iff.mp (beq_iff_eq.mp hnumber)
      split
      · next hchar => exact .inr ⟨_, _, _, rfl, .number hinput hchar⟩
      · next hchar => exact .inl ⟨_, _, rfl, .number hinput hchar⟩
    split
    · next hname => exact .inr ⟨_, _, _, rfl, .nameless hinput hname⟩
    next hname =>
    split
    · next hmeaning => exact .inr ⟨_, _, _, rfl, .unknown hinput hname hmeaning⟩
    · next hmeaning => exact .inr ⟨_, _, _, rfl, .named hinput hname hmeaning⟩
    · next hmeaning =>
      split
      · exact .inr ⟨_, _, _, rfl, .outside _ hinput hname hmeaning⟩
      · exact .inr ⟨_, _, _, rfl, .entity hinput hname hmeaning⟩
  split
  · next hline =>
    simp only [Bool.and_eq_true, beq_iff_eq, List.head?_eq_some_iff] at hline
    obtain ⟨rfl, s, rfl⟩ := hline
    exact .inr ⟨_, _, _, rfl, .lineEnd hinput⟩
  split
  · next hc =>
    simp only [Bool.or_eq_true, beq_iff_eq, or_assoc] at hc
    exact .inr ⟨_, _, _, rfl, .blank hinput hc⟩
  split
  · next hc => exact .inr ⟨_, _, _, rfl, .char hinput hc⟩
  · exact .inl ⟨_, _, rfl, .broken _⟩

/-! ## Attributes and declarations -/

/-- One piece of a start tag after its name is read, or an error is noted there. -/
inductive Reader.ReadsPiece : Reader × TagItems → Reader × TagItems → Prop
  | blanks (r : Reader) (items : TagItems) : Reader.ReadsPiece (r, items) (r.skipBlanks, items)
  | fatal (r : Reader) (items : TagItems) (message : String) :
      Reader.ReadsPiece (r, items) (r.fatal message, items)
  | name {r : Reader} (items : TagItems) {w : WrittenName} (hw : writtenName? r.input = some w) :
      Reader.ReadsPiece (r, items) (r.afterName w, items)
  | unread {r r₁ : Reader} (items : TagItems) {s : Chars} (hsign : r.input = '=' :: s)
      (hvalue : (r.at_ s).skipBlanks.attributeValue = (r₁, none)) :
      Reader.ReadsPiece (r, items) (r₁, items)
  | item {r r₁ : Reader} (items : TagItems) {s t : Chars} {w : WrittenName} {parts kept : List ValuePart}
      (hw : writtenName? t = some w) (hsign : r.input = '=' :: s)
      (hvalue : (r.at_ s).skipBlanks.attributeValue = (r₁, some parts))
      (hkept : kept = parts ∨ kept = tokenValue parts) :
      Reader.ReadsPiece (r, items) (r₁.tagItem items w kept)

/-- The attributes and declarations of a start tag are read piece by piece. -/
theorem Reader.reads_attributesFrom (element : Chars) (fuel : Nat) (r : Reader) (items : TagItems) :
    Relation.ReflTransGen Reader.ReadsPiece (r, items)
      (Reader.attributesFrom element fuel r items) := by
  induction fuel generalizing r items with
  | zero => exact .refl
  | succ fuel ih =>
    -- what comes after an attribute, whatever became of it
    have hgo {r₁ : Reader} {items₁ : TagItems}
        (h : Relation.ReflTransGen Reader.ReadsPiece (r, items) (r₁, items₁)) :
        Relation.ReflTransGen Reader.ReadsPiece (r, items)
          (if atTagEnd r₁.input then (r₁, items₁)
          else if r₁.atBlank then Reader.attributesFrom element fuel r₁.skipBlanks items₁
          else (r₁.fatal "attributes construct error", items₁)) := by
      split
      · exact h
      split
      · exact (h.tail (.blanks r₁ items₁)).trans (ih _ _)
      · exact h.tail (.fatal r₁ items₁ _)
    rw [Reader.attributesFrom]
    split
    · exact .refl
    dsimp only
    split
    · exact (Relation.ReflTransGen.single (.fatal r items _)).tail (.fatal _ items _)
    next w hw =>
    have hname : Relation.ReflTransGen Reader.ReadsPiece (r, items) (r.afterName w, items) :=
      .single (.name items hw)
    split
    · next s hsign =>
      split
      · next hvalue => exact hgo (hname.tail (.unread items hsign hvalue))
      · next hvalue =>
        refine hgo (hname.tail (.item items hw hsign hvalue ?_))
        split
        · exact .inr rfl
        · exact .inl rfl
    · exact hgo (hname.tail (.fatal _ items _))

/-! ## Whole tags -/

/-- A start tag ends once its element is open. An empty element is closed at once, and so is one whose tag
is broken. -/
inductive Reader.EndsTag (r : Reader) : Reader → Prop
  | empty {s : Chars} (h : r.input = '/' :: '>' :: s) : r.EndsTag (r.at_ s).close
  | full {s : Chars} (h : r.input = '>' :: s) : r.EndsTag (r.at_ s)
  | broken (message : String) (h : atTagEnd r.input = false) : r.EndsTag (r.fatal message).close

theorem Reader.EndsTag.eq_full (h : r.EndsTag r') (hinput : r.input = '>' :: s) : r' = r.at_ s := by
  cases h with
  | empty h => cases hinput.symm.trans h
  | full h =>
    cases hinput.symm.trans h
    rfl
  | broken message h =>
    rw [hinput] at h
    cases h

theorem Reader.EndsTag.eq_empty (h : r.EndsTag r') (hinput : r.input = '/' :: '>' :: s) :
    r' = (r.at_ s).close := by
  cases h with
  | empty h =>
    cases hinput.symm.trans h
    rfl
  | full h => cases hinput.symm.trans h
  | broken message h =>
    rw [hinput] at h
    cases h

/-- All that a start tag can do: it is refused, it has no name, or it opens an element. -/
inductive Reader.StartsTag (r : Reader) : Reader → Prop
  | deep (message : String) (hdepth : r.settings.maxDepth < r.frames.length) :
      r.StartsTag { r.fatal message with halted := true }
  | nameless (message : String) (hw : writtenName? (r.input.drop 1) = none) :
      r.StartsTag ((r.at_ (r.input.drop 1)).fatal message)
  | opened {r₁ r₂ r₃ r' : Reader} {w : WrittenName} {items : TagItems} {declarations : List Declaration}
      {attributes : List Attribute} {name : Name} {f : Frame}
      (hdepth : r.frames.length ≤ r.settings.maxDepth)
      (hw : writtenName? (r.input.drop 1) = some w)
      (hitems : Reader.attributesFrom w.written ((r.afterName w).input.length + 1) (r.afterName w)
        { blanks := (r.afterName w).inheritedBlanks } = (r₁, items))
      (hdeclarations : (r₁.withDefaultSpaces w.written items).declarations = declarations)
      (hattributes : Reader.nameAttributes (declarations.reverse ++ r₁.scope) w.base items.attributes r₁
        = (r₂, attributes))
      (hname : (Reader.checkDistinct attributes [] r₂).elementName (declarations.reverse ++ r₁.scope)
        w.label w.base = (r₃, name))
      (hf : f = ⟨⟨name, declarations, attributes⟩, w.label, w.base, r.input,
        declarations.reverse ++ r₁.scope, items.blanks, []⟩)
      (hends : Reader.EndsTag { r₃ with frames := f :: r₃.frames } r') :
      r.StartsTag r'

theorem Reader.startTag_starts (r : Reader) : r.StartsTag r.startTag := by
  unfold Reader.startTag
  split
  · next hdepth => exact .deep _ hdepth
  next hdepth =>
  extract_lets start line
  split
  · next hw => exact .nameless _ hw
  next w hw =>
  extract_lets r₀
  split
  next r₁ items hitems =>
  extract_lets items' outer scope
  have hscope : scope = items'.declarations.reverse ++ r₁.scope := by
    simp only [scope, outer, Reader.scope]
    cases r₁.frames <;> rfl
  clear_value scope
  subst hscope
  split
  next r₂ attributes hattributes =>
  extract_lets r₂'
  split
  next r₃ name hname =>
  extract_lets frame r₄
  refine .opened (Nat.le_of_not_lt hdepth) hw hitems rfl hattributes hname rfl ?_
  split
  · next s hinput => exact .empty hinput
  · next s hinput => exact .full hinput
  · next hempty hfull =>
    refine .broken _ ?_
    unfold atTagEnd
    split
    · next s hinput => exact absurd hinput (hfull s)
    · next s hinput => exact absurd hinput (hempty s)
    · rfl

end MarkupQuery.Xml
