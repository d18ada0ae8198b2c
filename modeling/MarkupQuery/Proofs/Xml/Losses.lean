import MarkupQuery.Proofs.Xml.RootTag
import MarkupQuery.Proofs.Xml.Unread
import MarkupQuery.Proofs.Xml.Verbatim

/-!
# What is lost of unescaped text

A text that nothing was escaped in is put between the start and the end of a tag and read. Whatever it holds, no
step of reading it makes more text than it takes (`Reader.spends_contentStep`), and none makes characters of
markup that were not there (`Reader.countMarkup_content`). So if the text is part of what is read, nothing in it
was taken as markup (`Reader.countMarkup_content_before`), and then it was read piece by piece and in full
(`Reader.content_verbatim`). The texts that are kept are verbatim (`isVerbatim_of_read`).
-/

namespace MarkupQuery.Xml

open MarkupQuery.Text MarkupQuery.Tree

variable {r r' r'' : Reader} {s t u d : Chars} {tag : Tag}

/-! ## The text of what is built -/

/-- The text of open elements, the innermost of which comes first. -/
def framesText : List Frame → Chars
  | [] => []
  | f :: fs => framesText fs ++ textContents f.content.reverse

/-- The text of all that a reader has built. -/
def Reader.builtText (r : Reader) : Chars := textContents r.top.reverse ++ framesText r.frames

theorem Reader.builtText_congr (h : r'.built = r.built) : r'.builtText = r.builtText := by
  simp only [Reader.built, Prod.mk.injEq] at h
  rw [Reader.builtText, Reader.builtText, h.2.1, h.2.2]

theorem Reader.builtText_of_frames {f : Frame} {fs : List Frame} (h : r.frames = f :: fs) :
    r.builtText = textContents r.top.reverse ++ (framesText fs ++ textContents f.content.reverse) := by
  rw [Reader.builtText, h, framesText]

theorem textContents_reverse_cons (n : Node) (ns : List Node) :
    textContents (n :: ns).reverse = textContents ns.reverse ++ n.textContent := by
  rw [List.reverse_cons, textContents_append, textContents_cons, textContents_nil, List.append_nil]

/-- The text of a node comes after all that was built before. -/
theorem Reader.builtText_add (r : Reader) (n : Node) :
    (r.add n).builtText = r.builtText ++ n.textContent := by
  rw [Reader.add]
  split
  · next f fs hframes =>
    rw [Reader.builtText_of_frames hframes, Reader.builtText_of_frames rfl, textContents_reverse_cons]
    simp only [List.append_assoc]
  · next hframes => simp [Reader.builtText, hframes, framesText, textContents_append]

theorem textContents_addText (s : Chars) (ns : List Node) :
    textContents (addText s ns).reverse = textContents ns.reverse ++ s := by
  rw [addText.eq_def]
  split
  · rw [textContents_reverse_cons, textContents_reverse_cons, Node.textContent, Node.textContent,
      List.append_assoc]
  · rw [textContents_reverse_cons]
    rfl

/-- A part of a text that is kept as a whole or not at all. -/
def IsKept (s d : Chars) : Prop := d = [] ∨ d = s

/-- Text is put after all that was built before; outside of elements it is lost. -/
theorem Reader.builtText_addText (r : Reader) (s : Chars) :
    ∃ d, IsKept s d ∧ (r.addText s).builtText = r.builtText ++ d := by
  rw [Reader.addText]
  split
  · next f fs hframes =>
    refine ⟨s, .inr rfl, ?_⟩
    rw [Reader.builtText_of_frames hframes, Reader.builtText_of_frames rfl, textContents_addText]
    simp only [List.append_assoc]
  · exact ⟨[], .inl rfl, (List.append_nil _).symm⟩

theorem Reader.builtText_close (r : Reader) : r.close.builtText = r.builtText := by
  rw [Reader.close]
  split
  · next f fs hframes =>
    rw [Reader.builtText_add, Reader.builtText_of_frames hframes, ← List.append_assoc]
    rfl
  · rfl

theorem Reader.builtText_closeMany (n : Nat) (r : Reader) :
    (Reader.closeMany n r).builtText = r.builtText := by
  induction n generalizing r with
  | zero => rfl
  | succ n ih => exact (ih r.close).trans r.builtText_close

/-- A finished tree has the text of all that was built. -/
theorem Reader.textContents_forest (r : Reader) : textContents r.forest = r.builtText := by
  rw [← r.builtText_closeMany r.frames.length, Reader.builtText, r.frames_closeMany _ le_rfl, framesText,
    List.append_nil]
  rfl

/-! ## Text -/

/-- A reader that has taken text without characters of markup and built some text, no longer one, of it. -/
structure Reader.Delivers (r : Reader) (u d : Chars) (r' : Reader) : Prop where
  input : r.input = u ++ r'.input
  taken : ∀ c ∈ u, c ≠ '<' ∧ c ≠ '&'
  text : r'.builtText = r.builtText ++ d
  delivered : ∀ c ∈ d, isTextChar c = true ∧ c ≠ '\r'
  length : d.length ≤ u.length
  frames : r'.frames.length = r.frames.length
  entities : r'.entities = r.entities

theorem Reader.Delivers.refl (r : Reader) : r.Delivers [] [] r :=
  ⟨rfl, nofun, (List.append_nil _).symm, nofun, Nat.le_refl 0, rfl, rfl⟩

theorem Reader.Delivers.trans {v e : Chars} (h : r.Delivers u d r') (h' : r'.Delivers v e r'') :
    r.Delivers (u ++ v) (d ++ e) r'' where
  input := by rw [h.input, h'.input, List.append_assoc]
  taken := List.forall_mem_append.mpr ⟨h.taken, h'.taken⟩
  text := by rw [h'.text, h.text, List.append_assoc]
  delivered := List.forall_mem_append.mpr ⟨h.delivered, h'.delivered⟩
  length := by
    have hd := h.length
    have he := h'.length
    rw [List.length_append, List.length_append]
    omega
  frames := h'.frames.trans h.frames
  entities := h'.entities.trans h.entities

/-- Text that is skipped builds nothing. -/
theorem Reader.delivers_skip (hbuilt : r'.built = r.built) (hinput : r.input = u ++ r'.input)
    (hu : ∀ c ∈ u, c ≠ '<' ∧ c ≠ '&') (hentities : r'.entities = r.entities) : r.Delivers u [] r' where
  input := hinput
  taken := hu
  text := by rw [Reader.builtText_congr hbuilt, List.append_nil]
  delivered := nofun
  length := Nat.zero_le _
  frames := by
    simp only [Reader.built, Prod.mk.injEq] at hbuilt
    rw [hbuilt.2.1]
  entities := hentities

/-- Whether it is delivered or dropped, a text that was skipped is no more than what was taken. -/
theorem Reader.Delivers.deliver (h : r.Delivers u [] r') (hs : ∀ c ∈ s, isTextChar c = true ∧ c ≠ '\r')
    (hlength : s.length ≤ u.length) : ∃ d, r.Delivers u d (r'.deliver s) := by
  rw [Reader.deliver]
  split
  · exact ⟨[], h⟩
  split
  · exact ⟨[], h⟩
  split
  · next f fs hframes =>
    refine ⟨s, h.input, h.taken, ?_, hs, hlength, ?_, h.entities⟩
    · have htext := h.text
      rw [Reader.builtText_of_frames hframes, List.append_nil] at htext
      rw [← htext, Reader.addText, Reader.builtText_of_frames rfl, textContents_addText]
      simp only [List.append_assoc]
    · rw [← h.frames, hframes]
      rfl
  · exact ⟨[], h⟩

theorem isTextChar_of_isPlain {c : Char} (h : isPlain c = true) : isTextChar c = true ∧ c ≠ '\r' := by
  simp only [isPlain, Bool.or_eq_true, Bool.and_eq_true, beq_iff_eq, decide_eq_true_eq, bne_iff_ne] at h
  obtain (rfl | rfl) | ⟨⟨⟨hlow, hhigh⟩, hlt⟩, hamp⟩ := h
  · decide
  · decide
  · refine ⟨?_, ?_⟩
    · simp [isTextChar, hlt, hamp, isXmlChar, isXmlCode]
      omega
    · rintro rfl
      exact absurd hlow (by decide)

/-- Plain text ends where a section seems to end, or where it is no longer plain. -/
theorem spanPlain_spec (s : Chars) : (spanPlain s).1 ++ (spanPlain s).2.1 = s ∧
    (∀ c ∈ (spanPlain s).1, isPlain c = true) ∧
    ((spanPlain s).2.2 = true → ∃ t, (spanPlain s).2.1 = ']' :: t) := by
  induction s with
  | nil =>
    exact ⟨rfl, fun _ h => absurd h List.not_mem_nil, fun h => absurd h Bool.false_ne_true⟩
  | cons c s ih =>
    rw [spanPlain]
    split
    · next hend =>
      rw [Bool.and_eq_true, beq_iff_eq] at hend
      exact ⟨rfl, fun _ h => absurd h List.not_mem_nil, fun _ => ⟨s, by rw [hend.1]⟩⟩
    · split
      · next hc => exact ⟨congrArg (c :: ·) ih.1, List.forall_mem_cons.mpr ⟨hc, ih.2.1⟩, ih.2.2⟩
      · exact ⟨rfl, fun _ h => absurd h List.not_mem_nil, fun h => absurd h Bool.false_ne_true⟩

theorem length_unifyLineEnds_le (s : Chars) : (unifyLineEnds s).length ≤ s.length := by
  induction s using unifyLineEnds.induct with
  | case1 => exact Nat.le_refl 0
  | case2 r ih =>
    rw [unifyLineEnds]
    simp only [List.length_cons]
    omega
  | case3 r hr ih =>
    rw [unifyLineEnds]
    · simp only [List.length_cons]
      omega
    · exact hr
  | case4 c r hc hcr ih =>
    rw [unifyLineEnds]
    · simp only [List.length_cons]
      omega
    · exact hc
    · exact hcr

theorem Reader.delivers_mixedText (r : Reader) : ∃ u d, r.Delivers u d r.mixedText := by
  unfold Reader.mixedText
  extract_lets allowed taken rest r₁ r₂
  have hsplit : r.input = taken ++ rest := (List.takeWhile_append_dropWhile ..).symm
  have htaken : ∀ c ∈ taken, isTextChar c = true := fun c hc => List.mem_takeWhile_imp (p := allowed) hc
  have hnot : ∀ c ∈ taken, c ≠ '<' ∧ c ≠ '&' := fun c hc => ne_of_isTextChar (htaken c hc)
  have h₁ : r.Delivers taken [] r₁ := by
    simp only [r₁]
    split
    · exact Reader.delivers_skip rfl hsplit hnot rfl
    · exact Reader.delivers_skip rfl hsplit hnot rfl
  obtain ⟨d, h₂⟩ : ∃ d, r.Delivers taken d r₂ := by
    refine h₁.deliver (fun c hc => ⟨?_, ?_⟩) (length_unifyLineEnds_le taken)
    · rcases mem_unifyLineEnds hc with hc | rfl
      · exact htaken c hc
      · decide
    · rintro rfl
      exact not_mem_unifyLineEnds _ hc
  have hrest : r₂.input = rest := by
    have heq := h₂.input
    rw [hsplit, List.append_cancel_left_eq] at heq
    exact heq.symm
  clear_value r₂ r₁ rest taken
  split
  · exact ⟨taken, d, h₂⟩
  · next c s =>
    split
    · exact ⟨taken, d, h₂⟩
    · next hc =>
      rw [Bool.or_eq_true, beq_iff_eq, beq_iff_eq, not_or] at hc
      have hskip : r₂.Delivers [c] [] { r₂.fatal s!"PCDATA invalid Char value {c.toNat}" with input := s } :=
        Reader.delivers_skip rfl hrest (List.forall_mem_singleton.mpr hc) rfl
      exact ⟨_, _, h₂.trans hskip⟩

/-- Text is read piece by piece, and where plain text runs into the end of a section it is lost. -/
theorem Reader.delivers_textFrom (fuel : Nat) (r : Reader) :
    ∃ u d, r.Delivers u d (Reader.textFrom fuel r) ∧
      (0 < fuel → (spanPlain r.input).2.2 = true → d.length < u.length) := by
  induction fuel generalizing r with
  | zero => exact ⟨[], [], .refl r, fun h => absurd h (Nat.lt_irrefl 0)⟩
  | succ fuel ih =>
    obtain ⟨hsplit, hplain, hstop⟩ := spanPlain_spec r.input
    rw [Reader.textFrom]
    generalize spanPlain r.input = span at hsplit hplain hstop
    obtain ⟨taken, rest, stopped⟩ := span
    dsimp only at hsplit hplain hstop ⊢
    have hnot : ∀ c ∈ taken, c ≠ '<' ∧ c ≠ '&' := fun c hc =>
      ne_of_isTextChar (isTextChar_of_isPlain (hplain c hc)).1
    cases stopped with
    | true =>
      obtain ⟨t, rfl⟩ := hstop rfl
      refine ⟨taken ++ [']'], [], Reader.delivers_skip rfl ?_ ?_ rfl, fun _ _ => by simp⟩
      · rw [← hsplit]
        simp
      · exact List.forall_mem_append.mpr ⟨hnot, by decide⟩
    | false =>
      have hskip : r.Delivers taken [] (r.at_ rest) :=
        Reader.delivers_skip (r.built_at rest) hsplit.symm hnot rfl
      obtain ⟨d, h₁⟩ := hskip.deliver (fun c hc => isTextChar_of_isPlain (hplain c hc)) (Nat.le_refl _)
      have hnostop {u d : Chars} {r₂ : Reader} (h : r.Delivers u d r₂) : ∃ u d, r.Delivers u d r₂ ∧
          (0 < fuel + 1 → false = true → d.length < u.length) := 
        ⟨u, d, h, fun _ hstopped => absurd hstopped Bool.false_ne_true⟩
      rw [if_neg Bool.false_ne_true]
      generalize (r.at_ rest).deliver taken = r₁ at h₁
      have hrest : r₁.input = rest := by
        have heq := h₁.input
        rw [← hsplit, List.append_cancel_left_eq] at heq
        exact heq.symm
      split
      · -- one character of the line end is skipped
        next s =>
        have hskip : r.Delivers _ _ (r₁.at_ ('\n' :: s)) := h₁.trans
          (Reader.delivers_skip (u := ['\r']) rfl (by rw [hrest]; rfl) (by decide) rfl)
        split
        · obtain ⟨u, e, h₂, -⟩ := ih (r₁.at_ ('\n' :: s))
          exact hnostop (hskip.trans h₂)
        · obtain ⟨u, e, h₂⟩ := (r₁.at_ ('\n' :: s)).delivers_mixedText
          exact hnostop (hskip.trans h₂)
      · exact hnostop h₁
      · split
        · exact hnostop h₁
        · obtain ⟨u, e, h₂⟩ := r₁.delivers_mixedText
          exact hnostop (h₁.trans h₂)

/-! ## References and sections -/

/-- The number of characters of markup in a text. -/
def countMarkup (s : Chars) : Nat := s.countP fun c => c == '<' || c == '&'

theorem countMarkup_append (s t : Chars) : countMarkup (s ++ t) = countMarkup s + countMarkup t :=
  List.countP_append

theorem countMarkup_unifyLineEnds (s : Chars) : countMarkup (unifyLineEnds s) = countMarkup s := by
  rw [countMarkup, countMarkup]
  induction s using unifyLineEnds.induct with
  | case1 => rfl
  | case2 r ih => simpa [unifyLineEnds] using ih
  | case3 r hr ih =>
    rw [unifyLineEnds]
    · simpa using ih
    · exact hr
  | case4 c r hc hcr ih =>
    rw [unifyLineEnds]
    · rw [List.countP_cons, List.countP_cons, ih]
    · exact hc
    · exact hcr

/-- What a kept part of a text holds of something is no more than what the text holds. -/
theorem IsKept.length_le (h : IsKept s d) : d.length ≤ s.length := by
  obtain rfl | rfl := h
  · exact Nat.zero_le _
  · exact Nat.le_refl _

theorem IsKept.countMarkup_le (h : IsKept s d) : countMarkup d ≤ countMarkup s := by
  obtain rfl | rfl := h
  · exact Nat.zero_le _
  · exact Nat.le_refl _

/-- What one step of content takes of the unread text, and the text that it builds. -/
inductive Reader.Spends (r r' : Reader) : Prop
  | text {u d : Chars} (h : r.Delivers u d r')
      (hstops : (spanPlain r.input).2.2 = true → d.length < u.length)
  /-- A reference builds one character at most, and less than it takes. -/
  | reference {u d : Chars} (hinput : r.input = '&' :: (u ++ r'.input)) (hu : '<' ∉ u)
      (htext : r'.builtText = r.builtText ++ d) (hone : d.length ≤ 1) (hlength : d.length ≤ u.length)
      (hframes : r'.frames.length = r.frames.length) (hentities : r'.entities = r.entities)
  | section_ {content d : Chars}
      (hinput : r.input = "<![CDATA[".toList ++ (content ++ ("]]>".toList ++ r'.input)))
      (htext : r'.builtText = r.builtText ++ d) (hd : countMarkup d ≤ countMarkup content)
      (hentities : r'.entities = r.entities)
  /-- Other markup builds no text. -/
  | markup {u : Chars} (hinput : r.input = '<' :: (u ++ r'.input)) (htext : r'.builtText = r.builtText)
      (hentities : r'.entities = r.entities)
  /-- Too many elements are open. -/
  | halts {u : Chars} (hinput : r.input = '<' :: u) (htext : r'.builtText = r.builtText)
      (hhalted : r'.halted = true)

theorem Reader.Spends.of_readsOn (hinput : r.input = '<' :: s) (hread : r.inMarkup.ReadsOn r')
    (htext : r'.builtText = r.builtText) : r.Spends r' := by
  obtain ⟨u, hu⟩ := hread.input
  have hu : u ++ r'.input = r.input.drop 1 := hu
  rw [hinput, List.drop_succ_cons, List.drop_zero] at hu
  exact .markup (hu ▸ hinput) htext hread.entities

theorem Reader.length_frames_addText (r : Reader) (s : Chars) :
    (r.addText s).frames.length = r.frames.length := by
  rw [Reader.addText]
  split
  · next f fs hframes => rw [hframes]; rfl
  · rfl

theorem Reader.length_frames_add (r : Reader) (n : Node) : (r.add n).frames.length = r.frames.length := by
  rw [Reader.add]
  split
  · next f fs hframes => rw [hframes]; rfl
  · next hframes => rfl

theorem Reader.AddsLeaf.builtText (h : r.AddsLeaf r') : r'.builtText = r.builtText := by
  obtain h | ⟨n, -, hn, h⟩ := h
  · exact Reader.builtText_congr h
  · rw [Reader.builtText_congr h, Reader.builtText_add, hn, List.append_nil]

theorem Reader.builtText_startTag (r : Reader) : r.startTag.builtText = r.builtText := by
  obtain h | ⟨f, r₁, hf, h₁, h⟩ := r.startTag_starts.opens
  · exact Reader.builtText_congr h
  · have hopened : r₁.builtText = r.builtText := by
      simp only [Reader.built, Prod.mk.injEq] at h₁
      rw [Reader.builtText, h₁.2.1, h₁.2.2, framesText, hf.content, Reader.builtText, List.reverse_nil,
        textContents_nil, List.append_nil]
    obtain h | h := h
    · exact (Reader.builtText_congr h).trans hopened
    · exact (Reader.builtText_congr h).trans (r₁.builtText_close.trans hopened)

section References

variable {r₁ : Reader} {found : Bool} (h : r.SkipsReference found r₁) (hbuilt : r₁.built = r.built)

include h hbuilt

theorem Reader.SkipsReference.spends (hinput : r'.input = r₁.input) (hentities : r'.entities = r₁.entities)
    (hframes : r'.frames.length = r₁.frames.length) (htext : r'.builtText = r₁.builtText ++ d)
    (hone : d.length ≤ 1) (hfound : d ≠ [] → found = true) : r.Spends r' := by
  obtain ⟨u, hu, hlt, hne, hentities₁⟩ := h
  refine .reference (hinput ▸ hu) hlt ?_ hone ?_ ?_ (hentities.trans hentities₁)
  · rw [htext, Reader.builtText_congr hbuilt]
  · by_cases hd : d = []
    · rw [hd]
      exact Nat.zero_le _
    · exact hone.trans (List.length_pos_iff.mpr (hne (hfound hd)))
  · simp only [Reader.built, Prod.mk.injEq] at hbuilt
    rw [hframes, hbuilt.2.1]

/-- What is found to stand for nothing builds nothing. -/
theorem Reader.SkipsReference.spends_nothing : r.Spends r₁ :=
  h.spends hbuilt rfl rfl rfl (List.append_nil _).symm (Nat.zero_le _) (absurd rfl)

theorem Reader.SkipsReference.spends_addText (hfound : found = true) (c : Char) : r.Spends (r₁.addText [c]) := by
  obtain ⟨d, hd, htext⟩ := r₁.builtText_addText [c]
  have hread := r₁.readsOn_addText [c]
  refine h.spends hbuilt ?_ hread.entities (r₁.length_frames_addText _) htext hd.length_le fun _ => hfound
  rw [Reader.addText]
  split <;> rfl

theorem Reader.SkipsReference.spends_addReference (name : Chars) : r.Spends (r₁.addReference name []) := by
  have htext : (r₁.addReference name []).builtText = r₁.builtText ++ [] := r₁.builtText_add _
  refine h.spends hbuilt ?_ (r₁.readsOn_add _).entities (r₁.length_frames_add _) htext (Nat.zero_le _) (absurd rfl)
  rw [Reader.addReference, Reader.add]
  split <;> rfl

end References

theorem Reader.spends_contentReference (hentities : r.entities = []) (hinput : r.input = '&' :: s) :
    r.Spends r.contentReference := by
  unfold Reader.contentReference
  split
  · next t hnumber =>
    split
    · next r₁ c hc =>
      exact (Reader.skipsReference_of_characterReference hc hnumber).spends_addText
        (Reader.built_of_characterReference hc) rfl c
    · next r₁ hc =>
      exact (Reader.skipsReference_of_characterReference hc hnumber).spends_nothing
        (Reader.built_of_characterReference hc)
  · split
    · next r₁ hname =>
      exact (Reader.skipsReference_of_entityName hname hinput).spends_nothing
        (Reader.built_of_entityName hname)
    next r₁ name hname =>
    have hskips := Reader.skipsReference_of_entityName hname hinput
    have hbuilt := Reader.built_of_entityName hname
    split
    · next r₂ hmeaning =>
      exact (hskips.then (Reader.unnoted_of_meaning hmeaning)).spends_addReference
        ((Reader.built_of_meaning hmeaning).trans hbuilt) name
    · next r₂ c hmeaning =>
      have hskips₂ := hskips.then (Reader.unnoted_of_meaning hmeaning)
      have hbuilt₂ := (Reader.built_of_meaning hmeaning).trans hbuilt
      split
      · exact hskips₂.spends_addText hbuilt₂ rfl c
      · exact hskips₂.spends_nothing hbuilt₂
    · next r₂ e hmeaning =>
      -- nothing is declared
      rw [Reader.meaning, hskips.readsOn.entities, hentities] at hmeaning
      split at hmeaning
      · cases hmeaning
      · cases hmeaning

theorem Reader.spends_section (hinput : r.input = "<![CDATA[".toList ++ s) : r.Spends r.section_ := by
  have hdrop : r.input.drop 9 = s := by rw [hinput]; rfl
  have hin : r.input = '<' :: r.input.drop 1 := by rw [hinput]; rfl
  have hunfinished (good : Chars) (message : String) :
      r.Spends ((r.at_ (s.drop good.length)).fatal message) := by
    refine .of_readsOn hin ⟨?_, rfl⟩ (Reader.builtText_congr rfl)
    rw [← hdrop]
    exact (List.drop_suffix _ _).trans (r.readsOn_drop 8).input
  unfold Reader.section_
  extract_lets body unfinished
  obtain rfl : body = s := hdrop
  split
  · exact hunfinished _ _
  · next content rest hcut =>
    split
    · exact hunfinished _ _
    extract_lets content' r₁
    have hcount : countMarkup content' = countMarkup content := countMarkup_unifyLineEnds content
    -- whatever of the content is built, the section is taken as a whole
    have hspends {r₂ : Reader} {d : Chars} (hrest : r₂.input = rest) (hentities : r₂.entities = r.entities)
        (htext : r₂.builtText = r₁.builtText ++ d) (hd : countMarkup d ≤ countMarkup content') :
        r.Spends r₂ := by
      have hinput₂ : r.input = "<![CDATA[".toList ++ (content ++ ("]]>".toList ++ r₂.input)) := by
        rw [hinput, hrest, cutAt_eq_some hcut]
        simp only [List.append_assoc]
      exact .section_ hinput₂ htext (hd.trans hcount.le) hentities
    split
    · refine hspends ?_ (r₁.readsOn_add _).entities (r₁.builtText_add (.section_ content')) (Nat.le_refl _)
      rw [Reader.add]
      split <;> rfl
    split
    · exact hspends rfl rfl (List.append_nil _).symm (Nat.zero_le _)
    · obtain ⟨d, hd, htext⟩ := r₁.builtText_addText content'
      refine hspends ?_ (r₁.readsOn_addText _).entities htext hd.countMarkup_le
      rw [Reader.addText]
      split <;> rfl

/-- No step of content makes more text than it takes. -/
theorem Reader.spends_contentStep (hentities : r.entities = []) : r.Spends r.contentStep := by
  unfold Reader.contentStep
  split
  · next s h =>
    exact .of_readsOn h r.readsOn_endTag ((Reader.builtText_congr r.endTag_closes).trans r.builtText_close)
  · next s h => exact .of_readsOn h r.readsOn_instruction r.addsLeaf_instruction.builtText
  · next s h => exact .of_readsOn h r.readsOn_comment r.addsLeaf_comment.builtText
  · next s h => exact Reader.spends_section h
  · next s _ _ _ _ h =>
    obtain hhalted | hread := r.startTag_starts.readsOn
    · exact .halts h r.builtText_startTag hhalted
    · exact .of_readsOn h hread r.builtText_startTag
  · next s h => exact Reader.spends_contentReference hentities h
  · obtain ⟨u, d, h, hstops⟩ := Reader.delivers_textFrom (r.input.length + 1) r
    exact .text h (hstops (Nat.succ_pos _))

/-! ## Characters of markup -/

theorem countMarkup_eq_zero (h : ∀ c ∈ s, c ≠ '<' ∧ c ≠ '&') : countMarkup s = 0 := by
  rw [countMarkup, List.countP_eq_zero]
  intro c hc
  simp [h c hc]

theorem countMarkup_pos (h : '<' ∈ s) : 0 < countMarkup s := List.countP_pos_iff.mpr ⟨'<', h, by decide⟩

theorem countMarkup_cons_of_mark {c : Char} (h : c = '<' ∨ c = '&') (s : Chars) :
    countMarkup (c :: s) = countMarkup s + 1 := by
  rw [countMarkup, List.countP_cons_of_pos, ← countMarkup]
  rcases h with rfl | rfl <;> rfl

theorem Reader.Delivers.countMarkup (h : r.Delivers u d r') : countMarkup u = 0 ∧ countMarkup d = 0 :=
  ⟨countMarkup_eq_zero h.taken, countMarkup_eq_zero fun c hc => ne_of_isTextChar (h.delivered c hc).1⟩

/-- The number of characters of markup in a text is at most its length. -/
theorem countMarkup_le_length (s : Chars) : countMarkup s ≤ s.length := List.countP_le_length

/-- No step makes characters of markup that were not there. -/
theorem Reader.Spends.countMarkup_le (h : r.Spends r') :
    r'.halted = true ∧ r'.builtText = r.builtText ∨ r'.entities = r.entities ∧
      countMarkup r'.builtText + countMarkup r'.input ≤ countMarkup r.builtText + countMarkup r.input := by
  cases h with
  | text h hstops =>
    obtain ⟨hu, hd⟩ := h.countMarkup
    refine .inr ⟨h.entities, ?_⟩
    rw [h.text, h.input, countMarkup_append, countMarkup_append]
    omega
  | @reference u d hinput hu htext hone hlength hframes hentities =>
    have hd := (countMarkup_le_length d).trans hone
    refine .inr ⟨hentities, ?_⟩
    rw [hinput, htext, countMarkup_append, countMarkup_cons_of_mark (.inr rfl), countMarkup_append]
    omega
  | section_ hinput htext hd hentities =>
    refine .inr ⟨hentities, ?_⟩
    rw [hinput, htext]
    simp only [countMarkup_append]
    omega
  | markup hinput htext hentities =>
    refine .inr ⟨hentities, ?_⟩
    rw [hinput, htext, countMarkup_cons_of_mark (.inl rfl), countMarkup_append]
    omega
  | halts hinput htext hhalted => exact .inl ⟨hhalted, htext⟩

theorem Reader.content_of_halted (fuel : Nat) (h : r.halted = true) : Reader.content fuel r = r := by
  cases fuel with
  | zero => rfl
  | succ fuel => rw [Reader.content, if_pos (by simp [h])]

/-- The text of what is read holds no more characters of markup than what it was read from. -/
theorem Reader.countMarkup_content (fuel : Nat) (hentities : r.entities = []) :
    countMarkup (Reader.content fuel r).builtText ≤ countMarkup r.builtText + countMarkup r.input := by
  induction fuel generalizing r with
  | zero => exact Nat.le_add_right _ _
  | succ fuel ih =>
    rw [Reader.content]
    split
    · exact Nat.le_add_right _ _
    · obtain ⟨hhalted, htext⟩ | ⟨hkept, hle⟩ := (Reader.spends_contentStep hentities).countMarkup_le
      · rw [Reader.content_of_halted fuel hhalted, htext]
        exact Nat.le_add_right _ _
      · exact (ih (hkept.trans hentities)).trans hle

/-- A part at the start of a text ends before some place of it or goes beyond. -/
theorem append_eq_append_cons {α : Type} {u v w t : List α} {c : α} (h : u ++ v = w ++ c :: t) :
    (∃ x, w = u ++ x ∧ v = x ++ c :: t) ∨ ∃ x, u = w ++ c :: x ∧ t = x ++ v := by
  obtain ⟨x, hw, hv⟩ | ⟨x, hu, hx⟩ := List.append_eq_append_iff.mp h
  · exact .inl ⟨x, hw, hv⟩
  · cases x with
    | nil => exact .inl ⟨[], by simpa using hu.symm, by simpa using hx.symm⟩
    | cons d x =>
      obtain ⟨rfl, rfl⟩ := List.cons.inj hx
      exact .inr ⟨x, hu, rfl⟩

/-- The end of a section does not go beyond the start of an end tag. -/
theorem section_before {content rest w t : Chars} (ht : ']' ∉ t)
    (h : "<![CDATA[".toList ++ (content ++ ("]]>".toList ++ rest)) = w ++ '<' :: t) :
    ∃ x, w = "<![CDATA[".toList ++ (content ++ ("]]>".toList ++ x)) ∧ rest = x ++ '<' :: t := by
  rw [← List.append_assoc, ← List.append_assoc] at h
  obtain ⟨x, hw, hrest⟩ | ⟨x, hu, hx⟩ := append_eq_append_cons h
  · exact ⟨x, by rw [hw]; simp only [List.append_assoc], hrest⟩
  · -- the end of the section would hold the start of the tag, or the tag a bracket
    exfalso
    obtain ⟨y, -, hy⟩ | ⟨y, -, hy⟩ := append_eq_append_cons hu
    · have hmem : '<' ∈ "]]>".toList := by rw [hy]; simp
      exact absurd hmem (by decide)
    · exact ht (by rw [hx, hy]; simp)

/-- If a tag ends the text that is read, its own characters of markup come to nothing, and if markup begins
before it, other characters of markup are lost. -/
theorem Reader.countMarkup_content_before (fuel : Nat) {w : Chars} (hentities : r.entities = [])
    (hinput : r.input = w ++ '<' :: t) (ht : countMarkup t = 0) (hbracket : ']' ∉ t) :
    countMarkup (Reader.content fuel r).builtText ≤ countMarkup r.builtText + countMarkup w ∧
      ('<' ∈ w → countMarkup (Reader.content fuel r).builtText < countMarkup r.builtText + countMarkup w) := by
  have hstays {q : Reader} {w : Chars} : countMarkup q.builtText ≤ countMarkup q.builtText + countMarkup w ∧
      ('<' ∈ w → countMarkup q.builtText < countMarkup q.builtText + countMarkup w) :=
    ⟨Nat.le_add_right _ _, fun hw => Nat.lt_add_of_pos_right (countMarkup_pos hw)⟩
  induction fuel generalizing r w with
  | zero => exact hstays
  | succ fuel ih =>
    rw [Reader.content]
    split
    · exact hstays
    have hstep := Reader.spends_contentStep hentities
    generalize r.contentStep = r₁ at hstep
    cases hstep with
    | @text u d h hstops =>
      obtain ⟨hu, hd⟩ := h.countMarkup
      have hmem : '<' ∉ u := fun hmem => (h.taken _ hmem).1 rfl
      obtain ⟨x, rfl, hx⟩ | ⟨x, rfl, -⟩ := append_eq_append_cons (h.input.symm.trans hinput)
      · have hrest := ih (h.entities.trans hentities) hx
        rw [h.text, countMarkup_append, hd] at hrest
        rw [countMarkup_append, hu, List.mem_append, or_iff_right hmem]
        exact ⟨by omega, fun hw => by have := hrest.2 hw; omega⟩
      · exact absurd (by simp) hmem
    | @reference u d h hu htext hone hlength hframes hkept =>
      have hd := (countMarkup_le_length d).trans hone
      have hmem : '<' ∉ '&' :: u := by simp [hu]
      obtain ⟨x, rfl, hx⟩ | ⟨x, hbeyond, -⟩ :=
        append_eq_append_cons (u := '&' :: u) (h.symm.trans hinput)
      · have hrest := ih (hkept.trans hentities) hx
        rw [htext, countMarkup_append] at hrest
        rw [countMarkup_append, countMarkup_cons_of_mark (.inr rfl), List.mem_append, or_iff_right hmem]
        exact ⟨by omega, fun hw => by have := hrest.2 hw; omega⟩
      · exact absurd (by rw [hbeyond]; simp) hmem
    | @section_ content d h htext hd hkept =>
      obtain ⟨x, rfl, hx⟩ := section_before hbracket (h.symm.trans hinput)
      have hrest := (ih (hkept.trans hentities) hx).1
      have hstart : countMarkup "<![CDATA[".toList = 1 := by decide
      rw [htext, countMarkup_append] at hrest
      simp only [countMarkup_append, hstart]
      exact ⟨by omega, fun _ => by omega⟩
    | @markup u h htext hkept =>
      obtain ⟨x, rfl, hx⟩ | ⟨x, hbeyond, hx⟩ :=
        append_eq_append_cons (u := '<' :: u) (h.symm.trans hinput)
      · have hrest := (ih (hkept.trans hentities) hx).1
        rw [htext] at hrest
        rw [countMarkup_append, countMarkup_cons_of_mark (.inl rfl)]
        exact ⟨by omega, fun _ => by omega⟩
      · -- the tag is taken with the markup before it
        have hrest := Reader.countMarkup_content fuel (hkept.trans hentities)
        have hzero : countMarkup r₁.input = 0 := by
          rw [hx, countMarkup_append] at ht
          omega
        rw [htext, hzero, Nat.add_zero] at hrest
        exact ⟨by omega, fun hw => by have := countMarkup_pos hw; omega⟩
    | halts h htext hhalted =>
      rw [Reader.content_of_halted fuel hhalted, htext]
      exact hstays

/-! ## Text without markup -/

/-- Before an end tag that closes the last open element, text that is kept in full is verbatim. -/
theorem Reader.content_verbatim (fuel : Nat) {w : Chars} (hentities : r.entities = [])
    (hframes : r.frames.length ≤ 1) (hinput : r.input = w ++ '<' :: '/' :: t) (hw : '<' ∉ w) :
    ∃ d, (Reader.content fuel r).builtText = r.builtText ++ d ∧ d.length ≤ w.length ∧
      (d = w → isVerbatim w = true) := by
  have hstays {q : Reader} {w : Chars} : ∃ d, q.builtText = q.builtText ++ d ∧ d.length ≤ w.length ∧
      (d = w → isVerbatim w = true) :=
    ⟨[], (List.append_nil _).symm, Nat.zero_le _, by rintro rfl; rfl⟩
  induction fuel generalizing r w with
  | zero => exact hstays
  | succ fuel ih =>
    rw [Reader.content]
    split
    · exact hstays
    cases w with
    | nil =>
      -- the end tag ends all reading of content
      have hstep : r.contentStep = r.endTag := by rw [Reader.contentStep, hinput]; rfl
      have hclosed : r.endTag.frames = [] := by
        have hbuilt := r.endTag_closes
        simp only [Reader.built, Prod.mk.injEq] at hbuilt
        rw [hbuilt.2.1, ← List.length_eq_zero_iff, r.length_frames_close]
        omega
      have hend : Reader.content fuel r.endTag = r.endTag := by
        cases fuel with
        | zero => rfl
        | succ fuel => rw [Reader.content, if_pos (by simp [hclosed])]
      rw [hstep, hend, Reader.builtText_congr r.endTag_closes, r.builtText_close]
      exact hstays
    | cons c w =>
      have hstep := Reader.spends_contentStep hentities
      generalize r.contentStep = r₁ at hstep
      have hmarkup {v : Chars} (h : r.input = '<' :: v) : False := by
        rw [hinput] at h
        exact hw (by rw [(List.cons.inj h).1]; exact List.mem_cons_self)
      cases hstep with
      | @text u d h hstops =>
        have hmem : '<' ∉ u := fun hmem => (h.taken _ hmem).1 rfl
        obtain ⟨x, hx, hrest⟩ | ⟨x, rfl, -⟩ := append_eq_append_cons (h.input.symm.trans hinput)
        · rw [hx] at hw ⊢
          obtain ⟨e, htext, hlength, hverbatim⟩ := ih (h.entities.trans hentities) (h.frames.trans_le hframes)
            hrest fun hmem => hw (List.mem_append_right u hmem)
          have hd := h.length
          refine ⟨d ++ e, by rw [htext, h.text, List.append_assoc], ?_, fun heq => ?_⟩
          · rw [List.length_append, List.length_append]
            omega
          · have hlength' := congrArg List.length heq
            rw [List.length_append, List.length_append] at hlength'
            obtain ⟨rfl, rfl⟩ := List.append_inj heq (by omega)
            have hchars := (isVerbatim_iff.mp (hverbatim rfl)).1
            refine isVerbatim_iff.mpr ⟨List.forall_mem_append.mpr ⟨h.delivered, hchars⟩, ?_⟩
            by_contra hstopped
            have hall := spanPlain_append_markup (show AtMarkup ('<' :: '/' :: t) from .inl rfl) (d ++ e)
            have hless := hstops (by rw [hinput, hx, hall]; simpa using hstopped)
            exact Nat.lt_irrefl _ hless
        · exact absurd (by simp) hmem
      | @reference u d h hu htext hone hlength hkeptframes hkept =>
        have hmem : '<' ∉ '&' :: u := by simp [hu]
        obtain ⟨x, hx, hrest⟩ | ⟨x, hbeyond, -⟩ :=
          append_eq_append_cons (u := '&' :: u) (h.symm.trans hinput)
        · rw [hx] at hw ⊢
          obtain ⟨e, htext', hlength', -⟩ := ih (hkept.trans hentities) (hkeptframes.trans_le hframes) hrest
            fun hmem => hw (List.mem_append_right _ hmem)
          refine ⟨d ++ e, by rw [htext', htext, List.append_assoc], ?_, fun heq => ?_⟩
          · rw [List.length_append, List.length_append, List.length_cons]
            omega
          · have hlength'' := congrArg List.length heq
            rw [List.length_append, List.length_append, List.length_cons] at hlength''
            omega
        · exact absurd (by rw [hbeyond]; simp) hmem
      | section_ h => exact (hmarkup h).elim
      | markup h => exact (hmarkup h).elim
      | halts h => exact (hmarkup h).elim

/-! ## Text between the start and the end of a tag -/

theorem Reader.builtText_around (fuel : Nat) (r : Reader) : (Reader.around fuel r).builtText = r.builtText := by
  induction fuel generalizing r with
  | zero => rfl
  | succ fuel ih =>
    rw [Reader.around]
    have hskip := Reader.builtText_congr r.built_skipBlanks
    generalize r.skipBlanks = r₁ at hskip
    split
    · rw [ih, r₁.addsLeaf_instruction.builtText, hskip]
    split
    · rw [ih, r₁.addsLeaf_comment.builtText, hskip]
    · exact hskip

/-- What follows the root builds no text. -/
theorem Reader.builtText_body (h : r.input = '<' :: s) :
    r.body.builtText = (Reader.content (r.input.length + 1) r.startTag).builtText := by
  unfold Reader.body
  split
  · extract_lets r₁ r₂
    have h₂ : r₂.builtText = r₁.builtText := r₁.builtText_around _
    clear_value r₂
    split
    · rfl
    split
    · split <;> rfl
    · split
      · exact h₂
      · exact h₂
  · next hne => exact absurd h (hne s)

/-- Where one element is open and nothing is built, a text before an end tag that is part of what is built
of it is verbatim. -/
theorem Reader.isVerbatim_of_content (fuel : Nat) (hentities : r.entities = []) (hframes : r.frames.length ≤ 1)
    (hempty : r.builtText = []) (hinput : r.input = s ++ '<' :: '/' :: t) (ht : countMarkup t = 0)
    (hbracket : ']' ∉ t) (hs : s.Sublist (Reader.content fuel r).builtText) : isVerbatim s = true := by
  have hlt : '<' ∉ s := by
    intro hmem
    have hlost := (Reader.countMarkup_content_before fuel hentities hinput (t := '/' :: t) ht
      (by simpa using hbracket)).2 hmem
    rw [hempty] at hlost
    have hkept : countMarkup s ≤ countMarkup (Reader.content fuel r).builtText := hs.countP_le
    exact absurd (hlost.trans_le (Nat.zero_add _).le) hkept.not_gt
  obtain ⟨d, hd, hlength, hverbatim⟩ := Reader.content_verbatim fuel hentities hframes hinput hlt
  rw [hd, hempty, List.nil_append] at hs
  exact hverbatim (hs.eq_of_length_le hlength).symm

/-- A text between the start and the end of a tag is verbatim if it is part of the text that is read. -/
theorem isVerbatim_of_read {settings : Settings} (htag : IsReadableTag tag) (ht : countMarkup t = 0)
    (hbracket : ']' ∉ t) {f : Forest}
    (hread : (read settings (writeTag tag ++ '>' :: (s ++ '<' :: '/' :: t)) 0).forest = some f)
    (hs : s.Sublist (textContents f)) : isVerbatim s = true := by
  obtain ⟨r, u, g, hinput, hread', -, hcontent, hframes, htop, hrest, hentities⟩ :=
    read_startTag settings htag (s ++ '<' :: '/' :: t)
  obtain rfl := Option.some.inj (hread.symm.trans hread')
  rw [Reader.textContents_forest, Reader.builtText_body hinput] at hs
  refine Reader.isVerbatim_of_content _ hentities (by rw [hframes]; exact Nat.le_refl 1) ?_ hrest ht hbracket hs
  rw [Reader.builtText_of_frames hframes, htop, hcontent]
  rfl

end MarkupQuery.Xml
