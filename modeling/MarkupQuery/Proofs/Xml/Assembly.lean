import MarkupQuery.Proofs.Xml.Built
import MarkupQuery.Proofs.Xml.Progress

/-!
# How a tree is put together

Whatever a reader reads, and whatever its settings, there are four things that it does to what it has built:
it adds a node that is no element, it adds text to the innermost open element, it opens an element inside
another one, and it closes the innermost one (`Reader.Adds`). Everything that is read but the start tag of
the root is a series of these steps (`Reader.Assembles`), so that what each step keeps is kept by all
reading. A start tag opens an element whose names are looked up in the namespaces in scope there
(`Reader.StartsTag.opens`).
-/

namespace MarkupQuery.Xml

open MarkupQuery.Text MarkupQuery.Tree

variable {r r' r'' : Reader} {f : Frame}

/-! ## Steps -/

/-- The names of a tag: that of its element and those of its attributes. -/
def namesOf (t : Tag) : List Name := t.name :: t.attributes.map (·.name)

/-- Whether the namespace of a name is told by its prefix, which is declared or always known. -/
def Name.IsCovered (labels : List (Option Chars)) (n : Name) : Prop :=
  n.space = none ∨ n.label = some "xml".toList ∨ n.label ∈ labels

/-- An element that is just opened: nothing stands in it, and its names are those that they are in the
namespaces in scope. -/
structure Frame.IsFresh (f : Frame) (outer : List Declaration) : Prop where
  content : f.content = []
  scope : f.scope = f.tag.declarations.reverse ++ outer
  names : ∀ n ∈ namesOf f.tag, Name.IsCovered (f.scope.map (·.1)) n

/-- One step of building: what was built changes in one way, or not at all. -/
inductive Reader.Adds (r r' : Reader) : Prop
  | same (h : r'.built = r.built)
  | leaf (n : Node) (hn : n.isElement = false) (h : r'.built = (r.add n).built)
  | text {f : Frame} {fs : List Frame} (blanks : BlankMode) (s : Chars) (hframes : r.frames = f :: fs)
      (h : r'.built =
        (r.settings, { f with blanks, content := Xml.addText s f.content } :: fs, r.top))
  /-- An element is opened inside another one. -/
  | opens (f : Frame) (hframes : r.frames ≠ []) (hf : f.IsFresh r.scope)
      (h : r'.built = (r.settings, f :: r.frames, r.top))
  | closes (h : r'.built = r.close.built)

/-- A series of steps of building. -/
def Reader.Assembles : Reader → Reader → Prop := Relation.ReflTransGen Reader.Adds

theorem Reader.Adds.assembles (h : r.Adds r') : r.Assembles r' := .single h

theorem Reader.assembles_of_built (h : r'.built = r.built) : r.Assembles r' := .single (.same h)

theorem Reader.Assembles.trans (h : r.Assembles r') (h' : r'.Assembles r'') : r.Assembles r'' :=
  Relation.ReflTransGen.trans h h'

theorem Reader.Assembles.then (h : r.Assembles r') (h' : r''.built = r'.built) : r.Assembles r'' :=
  h.trans (Reader.assembles_of_built h')

/-- Reading from another place builds the same. -/
theorem Reader.Assembles.of_built (h : r.Assembles r') (h' : r.built = r''.built) : r''.Assembles r' :=
  (Reader.assembles_of_built h').trans h

/-! ## Text and leaves -/

theorem Reader.assembles_addText (r : Reader) (s : Chars) : r.Assembles (r.addText s) := by
  rw [Reader.addText]
  split
  · next f fs hframes => exact .single (.text f.blanks s hframes rfl)
  · exact .refl

theorem Reader.assembles_deliver (r : Reader) (s : Chars) : r.Assembles (r.deliver s) := by
  rw [Reader.deliver]
  split
  · exact .refl
  split
  · exact .refl
  split
  · next f fs hframes => exact .single (.text _ s hframes rfl)
  · exact .refl

theorem Reader.assembles_mixedText (r : Reader) : r.Assembles r.mixedText := by
  unfold Reader.mixedText
  extract_lets allowed taken rest r₁ r₂
  have h₁ : r₁.built = r.built := by simp only [r₁]; split <;> rfl
  have h₂ : r.Assembles r₂ := (r₁.assembles_deliver _).of_built h₁
  clear_value r₂ r₁ rest
  split
  · exact h₂
  · split
    · exact h₂
    · exact h₂.then rfl

theorem Reader.assembles_textFrom (fuel : Nat) (r : Reader) : r.Assembles (Reader.textFrom fuel r) := by
  induction fuel generalizing r with
  | zero => exact .refl
  | succ fuel ih =>
    rw [Reader.textFrom]
    split
    next taken rest stopped hspan =>
    split
    · exact Reader.assembles_of_built rfl
    extract_lets r₁
    have h₁ : r.Assembles r₁ := ((r.at_ rest).assembles_deliver taken).of_built rfl
    clear_value r₁
    split
    · split
      · exact h₁.trans ((ih _).of_built rfl)
      · exact h₁.trans ((Reader.assembles_mixedText _).of_built rfl)
    · exact h₁
    · split
      · exact h₁
      · exact h₁.trans r₁.assembles_mixedText

/-- What is added to goes by what was built. -/
theorem Reader.built_add_congr (h : r.built = r'.built) (n : Node) : (r.add n).built = (r'.add n).built := by
  simp only [Reader.built, Prod.mk.injEq] at h
  unfold Reader.add
  rw [h.2.1]
  split <;> simp [Reader.built, h]

/-- A reader that has added a node without text, which is no element, or nothing. -/
def Reader.AddsLeaf (r r' : Reader) : Prop :=
  r'.built = r.built ∨ ∃ n, n.isElement = false ∧ n.textContent = [] ∧ r'.built = (r.add n).built

theorem Reader.AddsLeaf.assembles (h : r.AddsLeaf r') : r.Assembles r' := by
  obtain h | ⟨n, hn, -, h⟩ := h
  · exact Reader.assembles_of_built h
  · exact .single (.leaf n hn h)

theorem Reader.AddsLeaf.of_add {n : Node} (h : r'.built = r.built) (hn : n.isElement = false)
    (htext : n.textContent = []) : r.AddsLeaf (r'.add n) := .inr ⟨n, hn, htext, Reader.built_add_congr h n⟩

theorem Reader.addsLeaf_comment (r : Reader) : r.AddsLeaf r.comment := by
  unfold Reader.comment
  extract_lets body
  split
  · next content rest hcut =>
    split
    · exact .inl rfl
    extract_lets r₁
    have h₁ : (r₁.at_ rest).built = r.built := by simp only [r₁]; split <;> rfl
    clear_value r₁
    rw [Reader.addComment]
    split
    · exact .inl h₁
    · exact .of_add h₁ rfl rfl
  · split <;> exact .inl rfl

theorem Reader.addsLeaf_instruction (r : Reader) : r.AddsLeaf r.instruction := by
  unfold Reader.instruction
  split
  next target rest hspan =>
  extract_lets r₁
  have h₁ : r₁.built = r.built := rfl
  clear_value r₁
  split
  · exact .inl h₁
  next r₂ shown r₃ body good htarget =>
  have h₂ : r₂.built = r.built := (r₁.built_checkTarget target).trans h₁
  clear_value r₂
  split
  · show r.AddsLeaf ((r₂.at_ _).add (.instruction unnumbered target none))
    exact .of_add h₂ rfl rfl
  have h₃ : r₃.built = r.built := by simp only [r₃]; split <;> exact h₂
  clear_value good body r₃
  split
  · next data rest hcut =>
    split
    · exact .inl h₃
    · show r.AddsLeaf ((r₃.at_ rest).add (.instruction unnumbered target (some (unifyLineEnds data))))
      exact .of_add h₃ rfl rfl
  · exact .inl h₃

theorem Reader.assembles_section (r : Reader) : r.Assembles r.section_ := by
  unfold Reader.section_
  extract_lets body unfinished
  have hunfinished (good : Chars) : r.Assembles (unfinished good) := Reader.assembles_of_built rfl
  clear_value unfinished
  split
  · exact hunfinished _
  · next content rest hcut =>
    split
    · exact hunfinished _
    extract_lets content' r₁
    have h₁ : r₁.built = r.built := rfl
    clear_value r₁
    split
    · exact .single (.leaf (.section_ content') rfl (Reader.built_add_congr h₁ _))
    split
    · exact Reader.assembles_of_built h₁
    · exact (r₁.assembles_addText content').of_built h₁

theorem Reader.assembles_contentReference (r : Reader) : r.Assembles r.contentReference := by
  have hreference {r₁ : Reader} (h₁ : r₁.built = r.built) (name content : Chars) :
      r.Assembles (r₁.addReference name content) :=
    .single (.leaf (.reference unnumbered name content) rfl (Reader.built_add_congr h₁ _))
  unfold Reader.contentReference
  split
  · split
    · next r₁ c hc => exact (r₁.assembles_addText [c]).of_built (Reader.built_of_characterReference hc)
    · next r₁ hc => exact Reader.assembles_of_built (Reader.built_of_characterReference hc)
  · split
    · next r₁ hname => exact Reader.assembles_of_built (Reader.built_of_entityName hname)
    next r₁ name hname =>
    have h₁ := Reader.built_of_entityName hname
    split
    · next r₂ hmeaning => exact hreference ((Reader.built_of_meaning hmeaning).trans h₁) name []
    · next r₂ c hmeaning =>
      have h₂ := (Reader.built_of_meaning hmeaning).trans h₁
      split
      · exact (r₂.assembles_addText [c]).of_built h₂
      · exact Reader.assembles_of_built h₂
    · next r₂ e hmeaning =>
      have h₂ := (Reader.built_of_meaning hmeaning).trans h₁
      split
      · exact hreference h₂ name e.content
      · exact Reader.assembles_of_built h₂

/-! ## Tags -/

theorem Reader.built_close_congr (h : r.built = r'.built) : r.close.built = r'.close.built := by
  have h' := h
  simp only [Reader.built, Prod.mk.injEq] at h'
  unfold Reader.close
  rw [h'.2.1]
  split
  · exact Reader.built_add_congr (by simp [Reader.built, h']) _
  · exact h

/-- An end tag closes the innermost open element, whatever its name. -/
theorem Reader.endTag_closes (r : Reader) : r.endTag.built = r.close.built := by
  unfold Reader.endTag
  split
  · next hframes =>
    rw [Reader.close, hframes]
    rfl
  split
  next name rest _ =>
  extract_lets r₁ r₂ shown r₃
  have h₂ : r₂.built = r.built := by simp only [r₂]; split <;> rfl
  have h₃ : r₃.built = r.built := by simp only [r₃]; split <;> exact h₂
  exact Reader.built_close_congr h₃

theorem Reader.assembles_endTag (r : Reader) : r.Assembles r.endTag := .single (.closes r.endTag_closes)

theorem lookupSpace_covers {scope : List Declaration} {label : Option Chars} {u : Chars}
    (h : lookupSpace scope label = some u) :
    label = some "xml".toList ∨ label ∈ scope.map (·.1) := by
  rw [lookupSpace] at h
  split at h
  · next hxml => exact .inl (by simpa using hxml)
  · obtain ⟨d, hd, -⟩ := Option.map_eq_some_iff.mp h
    have hlabel := List.find?_some hd
    rw [beq_iff_eq] at hlabel
    exact .inr (List.mem_map.mpr ⟨d, List.mem_of_find?_eq_some hd, hlabel⟩)

/-- Names that are looked up are told by their prefixes. -/
theorem Reader.isCovered_of_elementName {scope : List Declaration} {label : Option Chars}
    {base : Chars} {n : Name} (h : r.elementName scope label base = (r', n)) :
    Name.IsCovered (scope.map (·.1)) n := by
  unfold Reader.elementName at h
  split at h
  · next u hu =>
    obtain ⟨-, rfl⟩ := Prod.mk.inj h
    exact .inr (lookupSpace_covers hu)
  · split at h
    · obtain ⟨-, rfl⟩ := Prod.mk.inj h
      exact .inl rfl
    · obtain ⟨-, rfl⟩ := Prod.mk.inj h
      exact .inl rfl

theorem Reader.isCovered_of_attributeName {scope : List Declaration} {element : Chars}
    {label : Option Chars} {base : Chars} {n : Name}
    (h : r.attributeName scope element label base = (r', n)) :
    Name.IsCovered (scope.map (·.1)) n := by
  unfold Reader.attributeName at h
  split at h
  · obtain ⟨-, rfl⟩ := Prod.mk.inj h
    exact .inl rfl
  · split at h
    · next u hu =>
      obtain ⟨-, rfl⟩ := Prod.mk.inj h
      exact .inr (lookupSpace_covers hu)
    · obtain ⟨-, rfl⟩ := Prod.mk.inj h
      exact .inl rfl

theorem Reader.isCovered_of_nameAttributes {scope : List Declaration} {element : Chars}
    {items : List (Option Chars × Chars × List ValuePart)} {as : List Attribute}
    (h : Reader.nameAttributes scope element items r = (r', as)) :
    ∀ a ∈ as, Name.IsCovered (scope.map (·.1)) a.name := by
  induction items generalizing r r' as with
  | nil =>
    obtain ⟨-, rfl⟩ := Prod.mk.inj h
    exact nofun
  | cons item items ih =>
    rw [Reader.nameAttributes] at h
    split at h
    next r₁ n hname =>
    split at h
    next r₂ more hmore =>
    obtain ⟨-, rfl⟩ := Prod.mk.inj h
    exact List.forall_mem_cons.mpr ⟨Reader.isCovered_of_attributeName hname, ih hmore⟩

theorem Reader.EndsTag.built (h : r.EndsTag r') : r'.built = r.built ∨ r'.built = r.close.built := by
  cases h with
  | empty h => exact .inr (Reader.built_close_congr rfl)
  | full h => exact .inl rfl
  | broken message h => exact .inr (Reader.built_close_congr rfl)

/-- A start tag opens an element, and closes it at once if it is an empty or a broken one; without a name,
or with too many open elements, it builds nothing. -/
theorem Reader.StartsTag.opens (h : r.StartsTag r') : r'.built = r.built ∨
    ∃ (f : Frame) (r₁ : Reader), f.IsFresh r.scope ∧ r₁.built = (r.settings, f :: r.frames, r.top) ∧
      (r'.built = r₁.built ∨ r'.built = r₁.close.built) := by
  cases h with
  | deep message hdepth => exact .inl rfl
  | nameless message hw => exact .inl rfl
  | @opened r₁ r₂ r₃ _ w items declarations as n f _ _ hitems _ has hn hf hends =>
    have h₁ := (Reader.built_of_attributesFrom hitems).trans (r.built_afterName w)
    have h₂ := (Reader.built_of_nameAttributes has).trans h₁
    have h₃ := (Reader.built_of_elementName hn).trans ((Reader.built_checkDistinct as [] r₂).trans h₂)
    simp only [Reader.built, Prod.mk.injEq] at h₁ h₃
    have hscope : r₁.scope = r.scope := by rw [Reader.scope, Reader.scope, h₁.2.1]
    rw [hscope] at has hn hf
    have hfresh : f.IsFresh r.scope := by
      rw [hf]
      refine ⟨rfl, rfl, List.forall_mem_cons.mpr ⟨Reader.isCovered_of_elementName hn, fun m hm => ?_⟩⟩
      obtain ⟨a, ha, rfl⟩ := List.mem_map.mp hm
      exact Reader.isCovered_of_nameAttributes has a ha
    exact .inr ⟨f, _, hfresh, by simp only [Reader.built, h₃], hends.built⟩

/-- Inside an element a start tag is a step as any other. -/
theorem Reader.assembles_startTag (hframes : r.frames ≠ []) : r.Assembles r.startTag := by
  obtain h | ⟨f, r₁, hf, h₁, h | h⟩ := r.startTag_starts.opens
  · exact Reader.assembles_of_built h
  · exact .single (.opens f hframes hf (h.trans h₁))
  · exact .tail (.single (.opens f hframes hf h₁)) (.closes h)

/-! ## Content -/

theorem Reader.assembles_contentStep (hframes : r.frames ≠ []) : r.Assembles r.contentStep := by
  unfold Reader.contentStep
  split
  · exact r.assembles_endTag
  · exact r.addsLeaf_instruction.assembles
  · exact r.addsLeaf_comment.assembles
  · exact r.assembles_section
  · exact Reader.assembles_startTag hframes
  · exact r.assembles_contentReference
  · exact r.assembles_textFrom _

/-- What stands in an element is put together step by step. -/
theorem Reader.assembles_content (fuel : Nat) (r : Reader) : r.Assembles (Reader.content fuel r) := by
  induction fuel generalizing r with
  | zero => exact .refl
  | succ fuel ih =>
    rw [Reader.content]
    split
    · exact .refl
    · next hgo =>
      have hframes : r.frames ≠ [] := by
        intro hnil
        simp [hnil] at hgo
      exact (Reader.assembles_contentStep hframes).trans (ih _)

/-! ## Around the root -/

theorem Reader.assembles_around (fuel : Nat) (r : Reader) : r.Assembles (Reader.around fuel r) := by
  induction fuel generalizing r with
  | zero => exact .refl
  | succ fuel ih =>
    rw [Reader.around]
    have hskip := r.built_skipBlanks
    generalize r.skipBlanks = r₁ at hskip
    split
    · exact (r₁.addsLeaf_instruction.assembles.trans (ih _)).of_built hskip
    split
    · exact (r₁.addsLeaf_comment.assembles.trans (ih _)).of_built hskip
    · exact Reader.assembles_of_built hskip

/-- A comment or an instruction among declarations is left out of the top. -/
theorem Reader.AddsLeaf.assembles_top (h : r.AddsLeaf r') :
    r.Assembles { r' with top := r.top } := by
  obtain h | ⟨n, hn, -, h⟩ := h
  · simp only [Reader.built, Prod.mk.injEq] at h
    exact Reader.assembles_of_built (by simp [Reader.built, h])
  · rw [Reader.add] at h
    split at h
    · next f fs hframes =>
      refine .single (.leaf n hn ?_)
      simp only [Reader.built, Prod.mk.injEq] at h
      rw [Reader.add, hframes]
      simp [Reader.built, h]
    · next hframes =>
      simp only [Reader.built, Prod.mk.injEq] at h
      exact Reader.assembles_of_built (by simp [Reader.built, h, hframes])

theorem Reader.assembles_declaration (r : Reader) : r.Assembles r.declaration := by
  unfold Reader.declaration
  extract_lets keyword
  split
  · exact r.addsLeaf_comment.assembles_top
  · exact r.addsLeaf_instruction.assembles_top
  split
  · exact Reader.assembles_of_built (by simp)
  · exact Reader.assembles_of_built (by simp)
  · split
    exact Reader.assembles_of_built (by simp)
  · split <;> exact Reader.assembles_of_built rfl
  · exact Reader.assembles_of_built rfl

theorem Reader.assembles_declarations (fuel : Nat) (r : Reader) :
    r.Assembles (Reader.declarations fuel r) := by
  induction fuel generalizing r with
  | zero => exact .refl
  | succ fuel ih =>
    rw [Reader.declarations]
    have hskip := r.built_skipBlanks
    generalize r.skipBlanks = r₁ at hskip
    split
    · exact Reader.assembles_of_built hskip
    · exact Reader.assembles_of_built hskip
    · split
      extract_lets rest r₂
      have h₂ : r₂.built = r.built := hskip
      split
      · exact Reader.assembles_of_built h₂
      split
      · exact Reader.assembles_of_built h₂
      · exact (ih r₂).of_built h₂
    · split
      · exact (r₁.assembles_declaration.trans (ih _)).of_built hskip
      · exact Reader.assembles_of_built hskip
    · exact Reader.assembles_of_built hskip

theorem Reader.assembles_documentType (r : Reader) : r.Assembles r.documentType := by
  unfold Reader.documentType
  extract_lets r₁ r₂
  have h₂ : r₂.built = r.built := by simp only [r₂]; split <;> rfl
  clear_value r₂
  split
  next name rest _ =>
  extract_lets r₃ r₄
  have h₄ : r₄.built = r.built := by simp only [r₄]; split <;> exact h₂
  clear_value r₄
  split
  next r₅ told htold =>
  have h₅ : r₅.built = r.built := (Reader.built_of_outside htold).trans h₄
  extract_lets r₆ r₇
  have h₇ : r₇.built = r.built := by simp only [r₇, r₆]; split <;> exact h₅
  clear_value r₇
  split
  · extract_lets r₈ r₉
    have h₈ : r.Assembles r₈ := (Reader.assembles_declarations _ _).of_built h₇
    have h₉ : r.Assembles r₉ := h₈.then rfl
    clear_value r₉
    split
    · exact h₉
    split
    · exact h₉.then rfl
    · split <;> exact h₉.then rfl
  · exact Reader.assembles_of_built h₇
  · exact Reader.assembles_of_built h₇

/-! ## Whole documents -/

/-- What follows the start tag of a root is put together step by step. -/
theorem Reader.assembles_startTag_body {s : Chars} (h : r.input = '<' :: s) :
    r.startTag.Assembles r.body := by
  unfold Reader.body
  split
  · extract_lets r₁
    have h₁ : r.startTag.Assembles r₁ := Reader.assembles_content _ _
    clear_value r₁
    split
    · exact h₁
    split
    · split
      · exact h₁.then rfl
      · exact h₁
    · have h₂ : r.startTag.Assembles r₁.surroundings := h₁.trans (Reader.assembles_around _ _)
      split
      · exact h₂
      · exact h₂.then rfl
  · next hne => exact absurd h (hne s)

theorem Reader.assembles_body (r : Reader) :
    r.Assembles r.body ∨ r.startTag.Assembles r.body := by
  by_cases h : ∃ s, r.input = '<' :: s
  · obtain ⟨s, hs⟩ := h
    exact .inr (Reader.assembles_startTag_body hs)
  · left
    unfold Reader.body
    split
    · next s hs => exact absurd ⟨s, hs⟩ h
    · exact Reader.assembles_of_built rfl

theorem Reader.assembles_whole (r : Reader) :
    r.Assembles r.whole ∨ ∃ r₁, r.Assembles r₁ ∧ r₁.startTag.Assembles r.whole := by
  unfold Reader.whole
  extract_lets r₁ r₂ r₃
  have h₁ : r₁.built = r.built := by simp only [r₁]; split <;> simp
  have h₂ : r.Assembles r₂ := (Reader.assembles_around _ _).of_built h₁
  have h₃ : r.Assembles r₃ := by
    simp only [r₃]
    split
    · exact (h₂.trans r₂.assembles_documentType).trans (Reader.assembles_around _ _)
    · exact h₂
  clear_value r₃
  split
  · exact .inl h₃
  · rcases r₃.assembles_body with h | h
    · exact .inl (h₃.trans h)
    · exact .inr ⟨r₃, h₃, h⟩

theorem Reader.assembles_closeMany (n : Nat) (r : Reader) : r.Assembles (Reader.closeMany n r) := by
  induction n generalizing r with
  | zero => exact .refl
  | succ n ih => exact (Reader.Adds.assembles (.closes rfl)).trans (ih r.close)

end MarkupQuery.Xml
