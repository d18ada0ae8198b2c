import MarkupQuery.Proofs.Xml.Built
import MarkupQuery.Proofs.Xml.Cuts
import MarkupQuery.Proofs.Xml.Names

/-!
# What is left to read

Whatever is read inside an element, what is left of the unread text is the end of it, and no entities are
declared (`Reader.ReadsOn`). A reference takes at least one more character than its ampersand if anything is
found, and never the start of markup (`Reader.SkipsReference`).
-/

namespace MarkupQuery.Xml

open MarkupQuery.Text MarkupQuery.Tree

variable {r r' r'' : Reader} {s t : Chars}

/-! ## Reading on -/

/-- A reader that has read on in the same text, and has declared nothing. -/
structure Reader.ReadsOn (r r' : Reader) : Prop where
  input : r'.input <:+ r.input
  entities : r'.entities = r.entities

theorem Reader.ReadsOn.refl (r : Reader) : r.ReadsOn r := ⟨List.suffix_rfl, rfl⟩

theorem Reader.ReadsOn.trans (h : r.ReadsOn r') (h' : r'.ReadsOn r'') : r.ReadsOn r'' :=
  ⟨h'.input.trans h.input, h'.entities.trans h.entities⟩

/-- What is noted is not read. -/
theorem Reader.ReadsOn.of_unnoted (h : r'.unnoted = r.unnoted) : r.ReadsOn r' :=
  have hinput : r'.unnoted.input = r.unnoted.input := congrArg Reader.input h
  have hentities : r'.unnoted.entities = r.unnoted.entities := congrArg Reader.entities h
  ⟨⟨[], hinput⟩, hentities⟩

theorem Reader.ReadsOn.then (h : r.ReadsOn r') (h' : r''.unnoted = r'.unnoted) : r.ReadsOn r'' :=
  h.trans (.of_unnoted h')

theorem Reader.ReadsOn.at_ (h : r.ReadsOn r') (hs : s <:+ r'.input) : r.ReadsOn (r'.at_ s) :=
  ⟨hs.trans h.input, h.entities⟩

theorem Reader.readsOn_at (hs : s <:+ r.input) : r.ReadsOn (r.at_ s) := (Reader.ReadsOn.refl r).at_ hs

theorem Reader.readsOn_skipBlanks (r : Reader) : r.ReadsOn r.skipBlanks :=
  Reader.readsOn_at (List.dropWhile_suffix _)

/-! ## Names -/

theorem spanPlainName_suffix (s : Chars) : (spanPlainName s).2 <:+ s := by
  obtain ⟨-, h, -⟩ | ⟨-, -, h⟩ := spanPlainName_spec s
  · exact ⟨[], h⟩
  · exact ⟨_, h⟩

theorem spanName_suffix (s : Chars) : (spanName s).2 <:+ s := by
  obtain ⟨-, h, -⟩ | ⟨-, -, h⟩ := spanName_spec s
  · exact ⟨[], h⟩
  · exact ⟨_, h⟩

theorem writtenName?_suffix {w : WrittenName} (h : writtenName? s = some w) : w.rest <:+ s := by
  have hcolon {c : Char} {u v : Chars} (hu : c :: u <:+ v) : u <:+ v := (List.suffix_cons c u).trans hu
  have hfirst := spanPlainName_suffix s
  rw [writtenName?] at h
  dsimp only at h
  split at h
  · split at h
    · cases h
    · obtain rfl := Option.some.inj h
      exact spanName_suffix s
  · split at h
    · next r2 heq =>
      rw [heq] at hfirst
      have hsecond := (spanPlainName_suffix r2).trans (hcolon hfirst)
      split at h
      · obtain rfl := Option.some.inj h
        exact (List.dropWhile_suffix _).trans (hcolon hfirst)
      · split at h
        · next r4 heq4 =>
          rw [heq4] at hsecond
          obtain rfl := Option.some.inj h
          exact (spanName_suffix r4).trans (hcolon hsecond)
        · obtain rfl := Option.some.inj h
          exact hsecond
    · obtain rfl := Option.some.inj h
      exact hfirst

/-! ## References -/

/-- A reader that has skipped a reference, or what seemed to be one. -/
def Reader.SkipsReference (r : Reader) (found : Bool) (r' : Reader) : Prop :=
  ∃ u, r.input = '&' :: (u ++ r'.input) ∧ '<' ∉ u ∧ (found = true → u ≠ []) ∧ r'.entities = r.entities

theorem Reader.SkipsReference.readsOn {found : Bool} (h : r.SkipsReference found r') : r.ReadsOn r' := by
  obtain ⟨u, hinput, -, -, hentities⟩ := h
  exact ⟨⟨'&' :: u, by rw [hinput]; rfl⟩, hentities⟩

theorem Reader.SkipsReference.then {found : Bool} (h : r.SkipsReference found r')
    (h' : r''.unnoted = r'.unnoted) : r.SkipsReference found r'' := by
  obtain ⟨u, hinput, hlt, hne, hentities⟩ := h
  have hsame : r''.unnoted.input = r'.unnoted.input := congrArg Reader.input h'
  have hsame : r''.input = r'.input := hsame
  exact ⟨u, hsame ▸ hinput, hlt, hne, (Reader.ReadsOn.of_unnoted h').entities.trans hentities⟩

/-- Digits are no start of markup. -/
theorem exists_of_spanDigits {value? : Char → Option Nat} (hlt : value? '<' = none) {ds : List Nat}
    (h : spanDigits value? s = (ds, t)) : ∃ u, s = u ++ t ∧ '<' ∉ u := by
  induction s generalizing ds with
  | nil =>
    obtain ⟨-, rfl⟩ := Prod.mk.inj h
    exact ⟨[], rfl, List.not_mem_nil⟩
  | cons c s ih =>
    rw [spanDigits] at h
    split at h
    · next d hd =>
      obtain ⟨-, rfl⟩ := Prod.mk.inj h
      obtain ⟨u, hu, hmem⟩ := ih (Prod.eta _).symm
      refine ⟨c :: u, congrArg (c :: ·) hu, ?_⟩
      rw [List.mem_cons, not_or]
      refine ⟨?_, hmem⟩
      rintro rfl
      rw [hlt] at hd
      cases hd
    · obtain ⟨-, rfl⟩ := Prod.mk.inj h
      exact ⟨[], rfl, List.not_mem_nil⟩

theorem Reader.skipsReference_of_characterReference {c : Option Char} (h : r.characterReference = (r', c))
    (hinput : r.input = '&' :: '#' :: s) : r.SkipsReference true r' := by
  unfold Reader.characterReference at h
  split at h
  next base value? body kind hmark =>
  split at h
  next ds rest hspan =>
  split at h
  next r₁ n hend =>
  -- the mark, the digits and the semicolon after them are taken
  obtain ⟨u, hu, hltu, hne, hvalue⟩ : ∃ u, '#' :: s = u ++ body ∧ '<' ∉ u ∧ u ≠ [] ∧ value? '<' = none := by
    rw [hinput] at hmark
    split at hmark
    · next heq =>
      obtain ⟨-, rfl⟩ := List.cons.inj (List.cons.inj heq).2
      cases hmark
      exact ⟨['#', 'x'], rfl, by decide, by decide, by decide⟩
    · next heq =>
      obtain ⟨-, rfl⟩ := List.cons.inj (List.cons.inj heq).2
      cases hmark
      exact ⟨['#'], rfl, by decide, by decide, by decide⟩
    · next hne => exact absurd rfl (hne s)
  obtain ⟨v, hv, hltv⟩ := exists_of_spanDigits hvalue hspan
  obtain ⟨w, hw, hltw, hentities⟩ : ∃ w, rest = w ++ r₁.input ∧ '<' ∉ w ∧ r₁.entities = r.entities := by
    split at hend
    · cases hend
      exact ⟨[';'], rfl, by decide, rfl⟩
    · cases hend
      exact ⟨[], rfl, by decide, rfl⟩
  have hnoted : r'.unnoted = r₁.unnoted := by
    split at h
    · cases h; rfl
    · split at h
      · cases h; rfl
      · cases h; rfl
  have hlast := Reader.ReadsOn.of_unnoted hnoted
  have hsame : r'.input = r₁.input := by
    have heq : r'.unnoted.input = r₁.unnoted.input := congrArg Reader.input hnoted
    exact heq
  refine ⟨u ++ (v ++ w), ?_, ?_, fun _ => ?_, hlast.entities.trans hentities⟩
  · rw [hinput, hu, hv, hw, hsame]
    simp
  · simp [hltu, hltv, hltw]
  · simp [hne]

theorem Reader.skipsReference_of_entityName {name : Option Chars} (h : r.entityName = (r', name))
    (hinput : r.input = '&' :: s) : r.SkipsReference name.isSome r' := by
  have hlt {u : Chars} (hu : IsAnyName u) : '<' ∉ u := fun hmem => by
    have hmore := hu.isNameMore '<' hmem
    exact absurd hmore (by decide)
  rw [Reader.entityName, hinput, List.drop_succ_cons, List.drop_zero] at h
  obtain ⟨hnil, heq, -⟩ | ⟨hname, -, heq⟩ := spanName_spec s
  · dsimp only at h
    rw [hnil, heq] at h
    cases h
    exact ⟨[], hinput, List.not_mem_nil, nofun, rfl⟩
  · have hne : (spanName s).1.isEmpty = false := by simpa using hname.ne_nil
    dsimp only at h
    rw [hne, if_neg Bool.false_ne_true] at h
    generalize (spanName s).1 = u at hname heq h
    generalize (spanName s).2 = v at heq h
    split at h
    · cases h
      exact ⟨u ++ [';'], by rw [hinput, ← heq]; simp [Reader.at_], by simpa using hlt hname, fun _ => by simp, rfl⟩
    · cases h
      exact ⟨u, by rw [hinput, ← heq]; rfl, hlt hname, nofun, rfl⟩

/-! ## Start tags -/

/-- Taking one character is reading on. -/
theorem Reader.readsOn_cons {c : Char} (hinput : r.input = c :: s) : r.ReadsOn (r.at_ s) :=
  Reader.readsOn_at (hinput ▸ List.suffix_cons c s)

theorem Reader.ReadsValue.readsOn {acc acc' : Chars} {parts parts' : List ValuePart}
    (h : r.ReadsValue acc parts r' acc' parts') : r.ReadsOn r' := by
  cases h with
  | number hinput hchar => exact (Reader.skipsReference_of_characterReference hchar hinput).readsOn
  | nameless hinput hname => exact (Reader.skipsReference_of_entityName hname hinput).readsOn
  | unknown hinput hname hmeaning =>
    have hread := (Reader.skipsReference_of_entityName hname hinput).readsOn
    exact hread.then (Reader.unnoted_of_meaning hmeaning)
  | named hinput hname hmeaning =>
    have hread := (Reader.skipsReference_of_entityName hname hinput).readsOn
    exact hread.then (Reader.unnoted_of_meaning hmeaning)
  | outside message hinput hname hmeaning =>
    have hread := (Reader.skipsReference_of_entityName hname hinput).readsOn
    exact (hread.then (Reader.unnoted_of_meaning hmeaning)).then (Reader.unnoted_fatal _ _)
  | entity hinput hname hmeaning =>
    have hread := (Reader.skipsReference_of_entityName hname hinput).readsOn
    exact hread.then (Reader.unnoted_of_meaning hmeaning)
  | lineEnd hinput => exact Reader.readsOn_cons hinput
  | blank hinput => exact Reader.readsOn_cons hinput
  | char hinput => exact Reader.readsOn_cons hinput

theorem Reader.EndsValue.readsOn {quote : Char} {acc : Chars} {parts : List ValuePart}
    {found : Option (List ValuePart)} (h : Reader.EndsValue quote r acc parts r' found) : r.ReadsOn r' := by
  cases h with
  | closed hinput => exact Reader.readsOn_cons hinput
  | broken message => exact .of_unnoted rfl
  | number hinput hchar => exact (Reader.skipsReference_of_characterReference hchar hinput).readsOn

theorem Reader.readsOn_of_valueFrom {quote : Char} {fuel : Nat} {acc : Chars} {parts : List ValuePart}
    {found : Option (List ValuePart)} (h : Reader.valueFrom quote fuel r acc parts = (r', found)) :
    r.ReadsOn r' := by
  induction fuel generalizing r acc parts with
  | zero =>
    cases h
    exact .refl _
  | succ fuel ih =>
    obtain ⟨r₁, found₁, heq, hends⟩ | ⟨r₁, acc₁, parts₁, heq, hreads⟩ :=
      r.valueFrom_succ quote fuel acc parts
    · cases heq.symm.trans h
      exact hends.readsOn
    · exact hreads.readsOn.trans (ih (heq.symm.trans h))

theorem Reader.readsOn_of_attributeValue {found : Option (List ValuePart)}
    (h : r.attributeValue = (r', found)) : r.ReadsOn r' := by
  rw [Reader.attributeValue] at h
  split at h
  · next hinput => exact (Reader.readsOn_cons hinput).trans (Reader.readsOn_of_valueFrom h)
  · next hinput => exact (Reader.readsOn_cons hinput).trans (Reader.readsOn_of_valueFrom h)
  · cases h
    exact .of_unnoted rfl

theorem Reader.readsOn_afterName {w : WrittenName} (h : w.rest <:+ s) :
    (r.at_ s).ReadsOn (r.afterName w) := by
  have hread : (r.at_ s).ReadsOn (r.at_ w.rest) := ⟨h, rfl⟩
  exact (hread.then (Reader.unnoted_complain _ _)).trans (Reader.readsOn_skipBlanks _)

theorem Reader.ReadsPiece.readsOn {a b : Reader × TagItems} (h : Reader.ReadsPiece a b) :
    a.1.ReadsOn b.1 := by
  cases h with
  | blanks r items => exact r.readsOn_skipBlanks
  | fatal r items message => exact .of_unnoted rfl
  | name items hw => exact Reader.readsOn_afterName (writtenName?_suffix hw)
  | unread items hsign hvalue =>
    have hread := (Reader.readsOn_cons hsign).trans (Reader.readsOn_skipBlanks _)
    exact hread.trans (Reader.readsOn_of_attributeValue hvalue)
  | item items _ hsign hvalue _ =>
    have hread := (Reader.readsOn_cons hsign).trans (Reader.readsOn_skipBlanks _)
    exact (hread.trans (Reader.readsOn_of_attributeValue hvalue)).then
      (Reader.unnoted_of_tagItem (Prod.eta _).symm)

theorem Reader.readsOn_of_attributesFrom {element : Chars} {fuel : Nat} {items items' : TagItems}
    (h : Reader.attributesFrom element fuel r items = (r', items')) : r.ReadsOn r' := by
  have hall {a b : Reader × TagItems} (h : Relation.ReflTransGen Reader.ReadsPiece a b) :
      a.1.ReadsOn b.1 := by
    induction h with
    | refl => exact .refl _
    | tail _ hpiece ih => exact ih.trans hpiece.readsOn
  have hread := hall (Reader.reads_attributesFrom element fuel r items)
  rwa [h] at hread

/-! ## Building -/

theorem Reader.readsOn_add (r : Reader) (n : Node) : r.ReadsOn (r.add n) := by
  rw [Reader.add]
  split <;> exact ⟨List.suffix_rfl, rfl⟩

theorem Reader.readsOn_addText (r : Reader) (s : Chars) : r.ReadsOn (r.addText s) := by
  rw [Reader.addText]
  split <;> exact ⟨List.suffix_rfl, rfl⟩

theorem Reader.readsOn_close (r : Reader) : r.ReadsOn r.close := by
  rw [Reader.close]
  split
  · next f fs hframes =>
    have hadd := Reader.readsOn_add { r with frames := fs } f.node
    exact ⟨hadd.input, hadd.entities⟩
  · exact .refl _

/-! ## Markup -/

/-- A reader after the bracket that markup begins with. -/
def Reader.inMarkup (r : Reader) : Reader := r.at_ (r.input.drop 1)

theorem Reader.readsOn_drop (r : Reader) (n : Nat) : r.inMarkup.ReadsOn (r.at_ (r.input.drop (n + 1))) := by
  refine ⟨?_, rfl⟩
  rw [Nat.add_comm, ← List.drop_drop]
  exact List.drop_suffix n _

theorem Reader.EndsTag.readsOn (h : r.EndsTag r') : r.ReadsOn r' := by
  cases h with
  | empty h =>
    have hread : r.ReadsOn (r.at_ _) := (Reader.ReadsOn.refl r).at_ ⟨['/', '>'], h.symm⟩
    exact hread.trans (Reader.readsOn_close _)
  | full h => exact Reader.readsOn_cons h
  | broken message h =>
    have hread : r.ReadsOn (r.fatal message) := .of_unnoted rfl
    exact hread.trans (Reader.readsOn_close _)

theorem Reader.StartsTag.readsOn (h : r.StartsTag r') : r'.halted = true ∨ r.inMarkup.ReadsOn r' := by
  cases h with
  | deep message hdepth => exact .inl rfl
  | nameless message hw => exact .inr ((Reader.ReadsOn.refl r.inMarkup).then rfl)
  | @opened r₁ r₂ r₃ _ w items declarations as n f _ hw hitems _ has hn _ hends =>
    have hname : r.inMarkup.ReadsOn (r.afterName w) := Reader.readsOn_afterName (writtenName?_suffix hw)
    have h₁ := hname.trans (Reader.readsOn_of_attributesFrom hitems)
    have h₂ := (h₁.then (Reader.unnoted_of_nameAttributes has)).then (Reader.unnoted_checkDistinct as [] r₂)
    have h₃ := h₂.then (Reader.unnoted_of_elementName hn)
    have hopened : r.inMarkup.ReadsOn { r₃ with frames := f :: r₃.frames } := ⟨h₃.input, h₃.entities⟩
    exact .inr (hopened.trans hends.readsOn)

theorem Reader.readsOn_endTag (r : Reader) : r.inMarkup.ReadsOn r.endTag := by
  unfold Reader.endTag
  split
  · exact r.readsOn_drop 1
  split
  next name rest hspan =>
  extract_lets r₁ r₂ shown r₃
  have h₁ : r.inMarkup.ReadsOn r₁ := by
    have hrest : rest <:+ r.input.drop 2 := by
      have hsuffix := spanName_suffix (r.input.drop 2)
      rwa [hspan] at hsuffix
    exact ((r.readsOn_drop 1).at_ hrest).trans (Reader.readsOn_skipBlanks _)
  have h₂ : r.inMarkup.ReadsOn r₂ := by
    simp only [r₂]
    split
    · next s heq => exact h₁.at_ ⟨['>'], heq.symm⟩
    · exact h₁.then (Reader.unnoted_fatal _ _)
  have h₃ : r.inMarkup.ReadsOn r₃ := by
    simp only [r₃]
    split
    · exact h₂
    · exact h₂.then (Reader.unnoted_fatal _ _)
  exact h₃.trans (Reader.readsOn_close _)

theorem cutAt_suffix {mark : Chars} {a b : Chars} (h : cutAt mark s = some (a, b)) : b <:+ s :=
  ⟨a ++ mark, (cutAt_eq_some h).symm⟩

theorem Reader.readsOn_comment (r : Reader) : r.inMarkup.ReadsOn r.comment := by
  have hbody := r.readsOn_drop 3
  unfold Reader.comment
  extract_lets body
  split
  · next content rest hcut =>
    split
    · exact (hbody.at_ (List.drop_suffix _ _)).then (Reader.unnoted_fatal _ _)
    extract_lets r₁
    have hrest : r.inMarkup.ReadsOn (r.at_ rest) := hbody.at_ (cutAt_suffix hcut)
    have h₁ : r.inMarkup.ReadsOn (r₁.at_ rest) := by
      simp only [r₁]
      split
      · exact hrest.then rfl
      · exact hrest
    clear_value r₁
    rw [Reader.addComment]
    split
    · exact h₁
    · exact h₁.trans (Reader.readsOn_add _ _)
  · split
    · exact (hbody.at_ (List.drop_suffix _ _)).then (Reader.unnoted_fatal _ _)
    · exact (hbody.at_ (List.nil_suffix)).then (Reader.unnoted_fatal _ _)

theorem Reader.readsOn_instruction (r : Reader) : r.inMarkup.ReadsOn r.instruction := by
  unfold Reader.instruction
  split
  next target rest hspan =>
  extract_lets r₁
  have h₁ : r.inMarkup.ReadsOn r₁ := by
    have hsuffix := spanName_suffix (r.input.drop 2)
    rw [hspan] at hsuffix
    exact (r.readsOn_drop 1).at_ hsuffix
  clear_value r₁
  split
  · exact h₁.then (Reader.unnoted_fatal _ _)
  next r₂ shown r₃ body good htarget =>
  have h₂ : r.inMarkup.ReadsOn r₂ := h₁.then (r₁.unnoted_checkTarget target)
  clear_value r₂
  split
  · next s heq => exact (h₂.at_ ⟨['?', '>'], heq.symm⟩).trans (Reader.readsOn_add _ _)
  have h₃ : r.inMarkup.ReadsOn r₃ := by
    simp only [r₃]
    split
    · exact h₂.trans r₂.readsOn_skipBlanks
    · exact h₂.then (Reader.unnoted_fatal _ _)
  split
  · next data rest hcut =>
    split
    · exact (h₃.at_ (List.drop_suffix _ _)).then (Reader.unnoted_fatal _ _)
    · exact (h₃.at_ (cutAt_suffix hcut)).trans (Reader.readsOn_add _ _)
  · exact (h₃.at_ (List.drop_suffix _ _)).then (Reader.unnoted_fatal _ _)

end MarkupQuery.Xml
