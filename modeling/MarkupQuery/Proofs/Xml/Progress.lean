import MarkupQuery.Xml.Content
import MarkupQuery.Proofs.Tree.Bare
import MarkupQuery.Proofs.Xml.Opening

/-!
# What a reader makes of a piece of text

Reading markup without declarations changes a reader in three ways only: it takes text, it may note
that the text is not well formed, and it puts content at the end of what it builds. Reading a piece of
text is said to *make* some content of it (`Reader.Makes`); pieces read one after the other make their
contents one after the other (`Reader.Makes.trans`). What is built is the content of the innermost open
element, or the top of the tree if no element is open.
-/

namespace MarkupQuery.Xml

open MarkupQuery.Text MarkupQuery.Tree

/-! ## Readers without declarations -/

/-- A reader of markup in which no entity and no attribute is declared and no byte is malformed. -/
structure Reader.Undeclared (r : Reader) : Prop where
  malformedFrom : r.malformedFrom = 0
  halted : r.halted = false
  entities : r.entities = []
  attributeKinds : r.attributeKinds = []
  defaultSpaces : r.defaultSpaces = []
  incomplete : r.incomplete = false

/-- Such a reader with default settings. -/
structure Reader.Plain (r : Reader) : Prop extends Reader.Undeclared r where
  settings : r.settings = { keepSections := false }

/-! ## Moving on -/

/-- A reader has moved on to some text, and nothing fatal was noted if `ok`. -/
def Reader.Moves (r : Reader) (rest : Chars) (ok : Bool) (r' : Reader) : Prop :=
  ∃ notices, r' = { r with input := rest, wellFormed := r.wellFormed && ok, notices }

variable {r r' r'' : Reader} {s t rest : Chars} {ok ok' : Bool} {m m' : Mixed Outline}

theorem Reader.Moves.refl (r : Reader) : r.Moves r.input true r :=
  ⟨r.notices, by rw [Bool.and_true]⟩

theorem Reader.Moves.trans (h : r.Moves s ok r') (h' : r'.Moves t ok' r'') :
    r.Moves t (ok && ok') r'' := by
  obtain ⟨notices, rfl⟩ := h
  obtain ⟨notices', rfl⟩ := h'
  exact ⟨notices', by rw [Bool.and_assoc]⟩

theorem Reader.moves_at (r : Reader) (s : Chars) : r.Moves s true (r.at_ s) :=
  ⟨r.notices, by rw [Bool.and_true]; rfl⟩

theorem Reader.moves_fatal (r : Reader) (message : String) :
    r.Moves r.input false (r.fatal message) :=
  ⟨(r.fatal message).notices, by rw [Bool.and_false]; rfl⟩

theorem Reader.moves_note (r : Reader) (severity : Severity) (message : String) :
    r.Moves r.input true (r.note severity message) :=
  ⟨(r.note severity message).notices, by rw [Bool.and_true]; rfl⟩

theorem Reader.Moves.input (h : r.Moves s ok r') : r'.input = s := by
  obtain ⟨notices, rfl⟩ := h
  rfl

theorem Reader.Moves.wellFormed (h : r.Moves s ok r') : r'.wellFormed = (r.wellFormed && ok) := by
  obtain ⟨notices, rfl⟩ := h
  rfl

theorem Reader.Moves.undeclared (h : r.Moves s ok r') (hr : r.Undeclared) : r'.Undeclared := by
  obtain ⟨notices, rfl⟩ := h
  exact { hr with }

theorem Reader.Moves.plain (h : r.Moves s ok r') (hr : r.Plain) : r'.Plain := by
  obtain ⟨notices, rfl⟩ := h
  exact { hr with }

theorem Reader.Moves.scope (h : r.Moves s ok r') : r'.scope = r.scope := by
  obtain ⟨notices, rfl⟩ := h
  rfl

/-! ## Growing -/

/-- An open element, later on: more content was put at the end of what it holds. -/
structure Frame.Grows (f : Frame) (m : Mixed Outline) (f' : Frame) : Prop where
  tag : f'.tag = f.tag
  label : f'.label = f.label
  base : f'.base = f.base
  scope : f'.scope = f.scope
  content : outlineAll f'.content.reverse = (outlineAll f.content.reverse).concat m

/-- Content put at the end of what is built: in the innermost open element, or at the top. -/
inductive Grown (m : Mixed Outline) : List Frame → List Node → List Frame → List Node → Prop
  | inside {f f' : Frame} (fs : List Frame) (top : List Node) (h : f.Grows m f') :
      Grown m (f :: fs) top (f' :: fs) top
  | atTop {top top' : List Node}
      (h : outlineAll top'.reverse = (outlineAll top.reverse).concat m) : Grown m [] top [] top'

theorem Frame.Grows.refl (f : Frame) : f.Grows (.last []) f :=
  ⟨rfl, rfl, rfl, rfl, (Mixed.concat_last_nil _).symm⟩

theorem Frame.Grows.trans {f f' f'' : Frame} (h : f.Grows m f') (h' : f'.Grows m' f'') :
    f.Grows (m.concat m') f'' :=
  ⟨h'.tag.trans h.tag, h'.label.trans h.label, h'.base.trans h.base, h'.scope.trans h.scope, by
    rw [h'.content, h.content, Mixed.concat_assoc]⟩

theorem Grown.refl (frames : List Frame) (top : List Node) :
    Grown (.last []) frames top frames top := by
  cases frames with
  | nil => exact .atTop (Mixed.concat_last_nil _).symm
  | cons f fs => exact .inside fs top (.refl f)

theorem Grown.trans {a b c : List Frame} {x y z : List Node} (h : Grown m a x b y)
    (h' : Grown m' b y c z) : Grown (m.concat m') a x c z := by
  cases h with
  | inside _ _ h => cases h' with | inside _ _ h' => exact .inside _ _ (h.trans h')
  | atTop h =>
    cases h' with
    | atTop h' => exact .atTop (by rw [h', h, Mixed.concat_assoc])

theorem Grown.length {a b : List Frame} {x y : List Node} (h : Grown m a x b y) :
    b.length = a.length := by
  cases h <;> rfl

/-- No namespaces come into scope. -/
theorem Grown.scope {a b : List Frame} {x y : List Node} (h : Grown m a x b y) :
    b.head?.map (·.scope) = a.head?.map (·.scope) := by
  cases h with
  | inside fs top h => exact congrArg some h.scope
  | atTop h => rfl

/-- A reader has read some text and made content of it. -/
def Reader.Makes (r : Reader) (rest : Chars) (ok : Bool) (m : Mixed Outline) (r' : Reader) : Prop :=
  ∃ notices frames top, Grown m r.frames r.top frames top ∧
    r' = { r with input := rest, wellFormed := r.wellFormed && ok, notices, frames, top }

theorem Reader.Moves.makes (h : r.Moves rest ok r') : r.Makes rest ok (.last []) r' := by
  obtain ⟨notices, rfl⟩ := h
  exact ⟨notices, r.frames, r.top, .refl _ _, rfl⟩

theorem Reader.Makes.trans (h : r.Makes s ok m r') (h' : r'.Makes t ok' m' r'') :
    r.Makes t (ok && ok') (m.concat m') r'' := by
  obtain ⟨notices, frames, top, hgrown, rfl⟩ := h
  obtain ⟨notices', frames', top', hgrown', rfl⟩ := h'
  exact ⟨notices', frames', top', hgrown.trans hgrown', by rw [Bool.and_assoc]⟩

theorem Reader.Moves.trans_makes (h : r.Moves s ok r') (h' : r'.Makes t ok' m r'') :
    r.Makes t (ok && ok') m r'' := by
  have hmakes := h.makes.trans h'
  rwa [Mixed.concat_nil] at hmakes

theorem Reader.Makes.input (h : r.Makes s ok m r') : r'.input = s := by
  obtain ⟨notices, frames, top, hgrown, rfl⟩ := h
  rfl

theorem Reader.Makes.wellFormed (h : r.Makes s ok m r') :
    r'.wellFormed = (r.wellFormed && ok) := by
  obtain ⟨notices, frames, top, hgrown, rfl⟩ := h
  rfl

theorem Reader.Makes.length_frames (h : r.Makes s ok m r') :
    r'.frames.length = r.frames.length := by
  obtain ⟨notices, frames, top, hgrown, rfl⟩ := h
  exact hgrown.length

theorem Reader.Makes.plain (h : r.Makes s ok m r') (hr : r.Plain) : r'.Plain := by
  obtain ⟨notices, frames, top, hgrown, rfl⟩ := h
  exact { hr with }

theorem Reader.Makes.scope (h : r.Makes s ok m r') : r'.scope = r.scope := by
  obtain ⟨notices, frames, top, hgrown, rfl⟩ := h
  rw [Reader.scope, Reader.scope, hgrown.scope]

/-- A finished node is put at the end of what is built. -/
theorem Reader.makes_add (r : Reader) (n : Node) :
    r.Makes r.input true (outlineAll [n]) (r.add n) := by
  have hcontent (ns : List Node) :
      outlineAll (n :: ns).reverse = (outlineAll ns.reverse).concat (outlineAll [n]) := by
    rw [List.reverse_cons, outlineAll_append]
  rw [Reader.add]
  split
  · next f fs hframes =>
    refine ⟨r.notices, { f with content := n :: f.content } :: fs, r.top, ?_, ?_⟩
    · rw [hframes]
      exact .inside fs r.top ⟨rfl, rfl, rfl, rfl, hcontent f.content⟩
    · rw [Bool.and_true]
  · next hframes =>
    refine ⟨r.notices, [], n :: r.top, ?_, ?_⟩
    · rw [hframes]
      exact .atTop (hcontent r.top)
    · rw [Bool.and_true, ← hframes]

/-- Text joins the text at the end of content. -/
theorem outlineAll_addText (s : Chars) (ns : List Node) :
    outlineAll (addText s ns).reverse = (outlineAll ns.reverse).concat (.last s) := by
  have hone (t : Chars) (ns : List Node) :
      outlineAll (Node.text t :: ns).reverse = (outlineAll ns.reverse).concat (.last t) := by
    rw [List.reverse_cons, outlineAll_append, outlineAll_cons_text rfl, outlineAll, Mixed.prepend,
      Node.ownText, List.append_nil]
  rw [addText.eq_def]
  split
  · next t ns =>
    rw [hone, hone, Mixed.concat_assoc]
    rfl
  · exact hone s ns

/-- Text is put at the end of an open element. -/
theorem Reader.makes_addText (r : Reader) (h : r.frames ≠ []) (s : Chars) :
    r.Makes r.input true (.last s) (r.addText s) := by
  rw [Reader.addText]
  split
  · next f fs hframes =>
    refine ⟨r.notices, { f with content := Xml.addText s f.content } :: fs, r.top, ?_, ?_⟩
    · rw [hframes]
      exact .inside fs r.top ⟨rfl, rfl, rfl, rfl, outlineAll_addText s f.content⟩
    · rw [Bool.and_true]
  · next hframes => exact absurd hframes h

/-! ## Reading content -/

/-- Reading content comes from one state to another, however much fuel is left, as long as there is
more of it than unread text. -/
def Reader.Leads (r r' : Reader) : Prop :=
  ∀ fuel, r.input.length < fuel → ∃ fuel', r'.input.length < fuel' ∧
    Reader.content fuel r = Reader.content fuel' r'

theorem Reader.Leads.refl (r : Reader) : r.Leads r := fun fuel h => ⟨fuel, h, rfl⟩

theorem Reader.Leads.trans (h : r.Leads r') (h' : r'.Leads r'') : r.Leads r'' := by
  intro fuel hfuel
  obtain ⟨fuel₁, hfuel₁, heq₁⟩ := h fuel hfuel
  obtain ⟨fuel₂, hfuel₂, heq₂⟩ := h' fuel₁ hfuel₁
  exact ⟨fuel₂, hfuel₂, heq₁.trans heq₂⟩

/-- One step of content that takes some text. -/
theorem Reader.leads_contentStep (hhalted : r.halted = false) (hframes : r.frames ≠ [])
    (hshorter : r.contentStep.input.length < r.input.length) : r.Leads r.contentStep := by
  intro fuel hfuel
  obtain ⟨fuel, rfl⟩ : ∃ k, fuel = k + 1 := ⟨fuel - 1, by omega⟩
  refine ⟨fuel, by omega, ?_⟩
  have hinput : r.input ≠ [] := by
    intro hnil
    rw [hnil] at hshorter
    exact Nat.not_lt_zero _ hshorter
  rw [Reader.content, if_neg]
  simp [hhalted, hframes, hinput]

/-- Reading content makes content of a piece of text. -/
def Reader.Reads (r : Reader) (rest : Chars) (ok : Bool) (m : Mixed Outline) (r' : Reader) : Prop :=
  r.Leads r' ∧ r.Makes rest ok m r'

theorem Reader.Reads.refl (r : Reader) : r.Reads r.input true (.last []) r :=
  ⟨.refl r, (Reader.Moves.refl r).makes⟩

theorem Reader.Reads.trans (h : r.Reads s ok m r') (h' : r'.Reads t ok' m' r'') :
    r.Reads t (ok && ok') (m.concat m') r'' :=
  ⟨h.1.trans h'.1, h.2.trans h'.2⟩

/-- One step of content that takes some text and makes content of it. -/
theorem Reader.reads_contentStep (hr : r.Plain) (hframes : r.frames ≠ [])
    (h : r.Makes rest ok m r.contentStep) (hshorter : rest.length < r.input.length) :
    r.Reads rest ok m r.contentStep :=
  ⟨Reader.leads_contentStep hr.halted hframes (by rwa [h.input]), h⟩

end MarkupQuery.Xml
