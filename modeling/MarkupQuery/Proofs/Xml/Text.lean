import MarkupQuery.Xml.Writer
import MarkupQuery.Html.Writer
import MarkupQuery.Proofs.Xml.Cuts
import MarkupQuery.Proofs.Xml.References

/-!
# Text read back

Text is read back from its written form, up to the next markup. Reading goes piece by piece: plain
characters as far as they reach, then one reference. References to entities that are always known are
dropped once the markup is not well formed; what is left of a text is `keptText`
(`Reader.reads_writeText`). Where carriage returns are written as they are, line ends become uniform
(`Reader.reads_htmlText`).
-/

namespace MarkupQuery.Xml

open MarkupQuery.Text MarkupQuery.Tree

variable {r r' : Reader} {s t u rest : Chars} {c : Char}

/-! ## Plain characters -/

/-- A character of text that needs no reference. -/
def isFree (c : Char) : Bool := c != '<' && c != '&' && c != '>' && isXmlChar c

/-- A text at which content goes on with markup or a reference. -/
def AtMarkup (s : Chars) : Prop := s.head? = some '<' ∨ s.head? = some '&'

theorem AtMarkup.stops {p : Char → Bool} (h : AtMarkup s) (hlt : p '<' = false)
    (hamp : p '&' = false) : Stops p s := by
  intro c hc
  rcases h with h | h
  · obtain rfl := Option.some.inj (hc.symm.trans h)
    exact hlt
  · obtain rfl := Option.some.inj (hc.symm.trans h)
    exact hamp

theorem AtMarkup.ne_cons (h : AtMarkup s) (hlt : c ≠ '<') (hamp : c ≠ '&') (t : Chars) :
    s ≠ c :: t := by
  rintro rfl
  exact h.elim (fun h => hlt (Option.some.inj h)) fun h => hamp (Option.some.inj h)

/-- Delivered text is put at the end of an open element. -/
theorem Reader.makes_deliver (hr : r.Plain) (hframes : r.frames ≠ []) (s : Chars) :
    r.Makes r.input true (.last s) (r.deliver s) := by
  rw [Reader.deliver]
  split
  · next hs =>
    rw [List.isEmpty_iff] at hs
    rw [hs]
    exact (Reader.Moves.refl r).makes
  rw [if_neg (by simp [hr.settings])]
  split
  · next f fs heq =>
    have hadd := Reader.makes_addText
      { r with frames := { f with blanks := if f.blanks == .unseen then .mixed else f.blanks } :: fs }
      (by simp) s
    obtain ⟨notices, frames, top, hgrown, heq'⟩ := hadd
    refine ⟨notices, frames, top, ?_, heq'⟩
    rw [heq]
    cases hgrown with
    | inside _ _ h => exact .inside _ _ ⟨h.tag, h.label, h.base, h.scope, h.content⟩
  · next hnil => exact absurd hnil hframes

theorem not_mem_of_free {d : Char} (hu : ∀ c ∈ u, isFree c = true) (hd : isFree d = false) :
    d ∉ u := fun h => by simp [hu d h] at hd

/-- No section ends in plain characters before markup. -/
theorem after?_sectionEnd (hu : ∀ c ∈ u, isFree c = true) (hrest : AtMarkup rest) :
    after? "]>".toList (u ++ rest) = none := by
  have hhead (d : Char) (t : Chars) (hlt : d ≠ '<') (hamp : d ≠ '&') :
      after? (d :: t) rest = none := by
    cases hafter : after? (d :: t) rest with
    | none => rfl
    | some x => exact absurd (after?_eq_some.mp hafter) (hrest.ne_cons hlt hamp _)
  cases u with
  | nil => exact hhead _ _ (by decide) (by decide)
  | cons c u =>
    rw [List.forall_mem_cons] at hu
    rw [List.cons_append]
    show (if ']' == c then after? ['>'] (u ++ rest) else none) = none
    split
    · cases u with
      | nil => exact hhead _ _ (by decide) (by decide)
      | cons d u =>
        have hd : ('>' == d) = false := by
          rw [beq_eq_false_iff_ne]
          rintro rfl
          exact absurd (hu.2 '>' (by simp)) (by decide)
        rw [List.cons_append, after?, hd]
        rfl
    · rfl

theorem spanPlain_append (hu : ∀ c ∈ u, isFree c = true) (hrest : AtMarkup rest) :
    spanPlain (u ++ rest) = (u.takeWhile isPlain, u.dropWhile isPlain ++ rest, false) := by
  induction u with
  | nil =>
    cases rest with
    | nil => rfl
    | cons c rest =>
      rcases hrest with h | h
      · obtain rfl := Option.some.inj h
        rfl
      · obtain rfl := Option.some.inj h
        rfl
  | cons c u ih =>
    have hend := after?_sectionEnd (fun d hd => hu d (List.mem_cons_of_mem _ hd)) hrest
    rw [List.cons_append, spanPlain, hend, ih fun d hd => hu d (List.mem_cons_of_mem _ hd)]
    cases hc : isPlain c with
    | true => simp [hc]
    | false => simp [hc]

theorem AtMarkup.head (h : AtMarkup (c :: s)) : (c == '<' || c == '&') = true := by
  rw [Bool.or_eq_true, beq_iff_eq, beq_iff_eq]
  exact h.imp Option.some.inj Option.some.inj

/-- A character of text that is read as it is, if no section ends there. -/
def isTextChar (c : Char) : Bool := c != '<' && c != '&' && isXmlChar c

theorem isTextChar_of_isFree (h : isFree c = true) : isTextChar c = true := by
  simp only [isFree, Bool.and_eq_true] at h
  simp [isTextChar, h]

theorem ne_of_isTextChar (h : isTextChar c = true) : c ≠ '<' ∧ c ≠ '&' := by
  simp only [isTextChar, Bool.and_eq_true, bne_iff_ne] at h
  exact h.1

/-- The step that content takes at text. -/
theorem Reader.contentStep_text (hc : isTextChar c = true) (h : r.input = c :: s) :
    r.contentStep = r.plainText := by
  obtain ⟨hlt, hamp⟩ := ne_of_isTextChar hc
  rw [Reader.contentStep, h]
  split <;> simp_all

/-- Text with characters beyond the plain ones is read up to markup, and is not well formed if a section seems
to end in it. -/
theorem Reader.makes_mixedText (hr : r.Plain) (hframes : r.frames ≠ [])
    (hu : ∀ c ∈ u, isTextChar c = true) (hrest : AtMarkup rest) (hinput : r.input = u ++ rest) :
    r.Makes rest (cutAt "]]>".toList u).isNone (.last (unifyLineEnds u)) r.mixedText := by
  have hstops : Stops (fun c => c != '<' && c != '&' && isXmlChar c) rest :=
    hrest.stops (by decide) (by decide)
  have hall : ∀ c ∈ u, (c != '<' && c != '&' && isXmlChar c) = true := hu
  have htake := takeWhile_append_stops hall hstops
  have hdrop := dropWhile_append_stops hall hstops
  have hdelivers {r₁ : Reader} {ok : Bool} (hmoves : r.Moves rest ok r₁) :
      r.Makes rest ok (.last (unifyLineEnds u)) (r₁.deliver (unifyLineEnds u)) := by
    have hframes₁ : r₁.frames ≠ [] := by
      obtain ⟨notices, rfl⟩ := hmoves
      exact hframes
    have hmakes := Reader.makes_deliver (hmoves.plain hr) hframes₁ (unifyLineEnds u)
    rw [hmoves.input] at hmakes
    have hall := hmoves.trans_makes hmakes
    rwa [Bool.and_true] at hall
  simp only [Reader.mixedText, hinput, htake, hdrop]
  cases hcut : cutAt "]]>".toList u with
  | none =>
    split
    · exact hdelivers (r.moves_at _)
    · rw [if_pos hrest.head]
      exact hdelivers (r.moves_at _)
  | some p =>
    have hmoves : r.Moves rest false { (r.at_ ((u ++ rest).drop p.1.length)).fatal
        "Sequence ']]>' not allowed in content" with input := rest } :=
      ⟨_, by rw [Bool.and_false]; rfl⟩
    split
    · exact hdelivers hmoves
    · rw [if_pos hrest.head]
      exact hdelivers hmoves

/-- No section ends in text without references. -/
theorem cutAt_of_isFree (hu : ∀ c ∈ u, isFree c = true) : cutAt "]]>".toList u = none :=
  cutAt_eq_none (c := '>') (by decide) (not_mem_of_free hu (by decide))

/-- Text without references is read up to markup. -/
theorem Reader.makes_textFrom (hr : r.Plain) (hframes : r.frames ≠ [])
    (hu : ∀ c ∈ u, isFree c = true) (hrest : AtMarkup rest) (hinput : r.input = u ++ rest)
    {fuel : Nat} (hfuel : u.length < fuel) :
    r.Makes rest true (.last (unifyLineEnds u)) (Reader.textFrom fuel r) := by
  induction fuel generalizing r u with
  | zero => exact absurd hfuel (Nat.not_lt_zero _)
  | succ fuel ih =>
    have hsplit := List.takeWhile_append_dropWhile (p := isPlain) (l := u)
    generalize hw : u.takeWhile isPlain = w at hsplit
    generalize hv : u.dropWhile isPlain = v at hsplit
    have hplain : ∀ c ∈ w, isPlain c = true := fun c hc => List.mem_takeWhile_imp (hw ▸ hc)
    have hcr : '\r' ∉ w := fun h => absurd (hplain _ h) (by decide)
    have hfree : ∀ c ∈ v, isFree c = true := fun c hc =>
      hu c (hsplit ▸ List.mem_append_right w hc)
    have hunify : unifyLineEnds u = w ++ unifyLineEnds v := by
      rw [← hsplit, unifyLineEnds_append_of_not_mem hcr]
    have hmoves := r.moves_at (v ++ rest)
    have hdelivers : r.Makes (v ++ rest) true (.last w) ((r.at_ (v ++ rest)).deliver w) :=
      hmoves.trans_makes (Reader.makes_deliver (hmoves.plain hr) hframes w)
    have hconcat (x : Chars) : (Mixed.last w).concat (.last x) = (.last (w ++ x) : Mixed Outline) :=
      rfl
    rw [Reader.textFrom, hinput, spanPlain_append hu hrest, hw, hv, hunify, ← hconcat]
    generalize hd : (r.at_ (v ++ rest)).deliver w = d at hdelivers
    have hdplain := hdelivers.plain hr
    have hdframes : d.frames ≠ [] := by
      rw [← List.length_pos_iff, hdelivers.length_frames, List.length_pos_iff]
      exact hframes
    dsimp only
    rw [if_neg (by simp), hd]
    -- plain text ends at markup, at an odd character or at a line end of two characters
    have hmixed (r₁ : Reader) (t : Chars) (hmoves : d.Moves (t ++ rest) true r₁)
        (ht : ∀ c ∈ t, isFree c = true) (hunify : unifyLineEnds t = unifyLineEnds v) :
        r.Makes rest true ((Mixed.last w).concat (.last (unifyLineEnds v))) r₁.mixedText := by
      have hframes₁ : r₁.frames ≠ [] := by
        obtain ⟨notices, rfl⟩ := hmoves
        exact hdframes
      have hmakes := Reader.makes_mixedText (hmoves.plain hdplain) hframes₁
        (fun c hc => isTextChar_of_isFree (ht c hc)) hrest hmoves.input
      rw [hunify, cutAt_of_isFree ht] at hmakes
      exact hdelivers.trans (hmoves.trans_makes hmakes)
    split
    · next s heq =>
      -- both characters of the line end belong to the text
      obtain ⟨v', rfl, rfl⟩ : ∃ v', v = '\r' :: '\n' :: v' ∧ s = v' ++ rest := by
        rcases v with _ | ⟨c, _ | ⟨c', v'⟩⟩
        · exact absurd heq (hrest.ne_cons (by decide) (by decide) _)
        · exact absurd (List.cons.inj heq).2 (hrest.ne_cons (by decide) (by decide) _)
        · simp only [List.cons_append, List.cons.injEq] at heq
          obtain ⟨rfl, rfl, rfl⟩ := heq
          exact ⟨v', rfl, rfl⟩
      have hline : unifyLineEnds ('\n' :: v') = unifyLineEnds ('\r' :: '\n' :: v') := by
        simp [unifyLineEnds]
      have hmoves := d.moves_at ('\n' :: (v' ++ rest))
      have hfree' : ∀ c ∈ '\n' :: v', isFree c = true := fun c hc =>
        hfree c (List.mem_cons_of_mem _ hc)
      split
      · rw [← hline]
        refine hdelivers.trans (hmoves.trans_makes (ih (hmoves.plain hdplain) hdframes hfree' rfl ?_))
        rw [← hsplit] at hfuel
        simp only [List.length_append, List.length_cons] at hfuel ⊢
        omega
      · exact hmixed _ ('\n' :: v') hmoves hfree' hline
    · next heq =>
      rw [List.append_eq_nil_iff] at heq
      rw [heq.2] at hrest
      rcases hrest with h | h <;> cases h
    · next c s hne heq =>
      cases v with
      | nil =>
        rw [List.nil_append] at heq
        rw [heq] at hrest
        rw [if_pos hrest.head]
        simpa [unifyLineEnds] using hdelivers
      | cons c' v =>
        rw [List.cons_append, List.cons.injEq] at heq
        obtain ⟨rfl, rfl⟩ := heq
        have hc := hfree c' (List.mem_cons_self ..)
        simp only [isFree, Bool.and_eq_true, bne_iff_ne] at hc
        rw [if_neg (by simp [hc])]
        refine hmixed d (c' :: v) ?_ hfree rfl
        rw [← hdelivers.input]
        exact .refl d

/-- Text without references is read up to markup. -/
theorem Reader.reads_plainText (hr : r.Plain) (hframes : r.frames ≠ [])
    (hu : ∀ c ∈ u, isFree c = true) (hnil : u ≠ []) (hrest : AtMarkup rest)
    (hinput : r.input = u ++ rest) :
    r.Reads rest true (.last (unifyLineEnds u)) r.contentStep := by
  have hstep : r.contentStep = r.plainText := by
    obtain ⟨c, v, rfl⟩ := List.exists_cons_of_ne_nil hnil
    exact Reader.contentStep_text (isTextChar_of_isFree (hu c List.mem_cons_self)) hinput
  have hfuel : u.length < r.input.length + 1 := by
    rw [hinput, List.length_append]
    omega
  refine Reader.reads_contentStep hr hframes ?_ ?_
  · rw [hstep]
    exact Reader.makes_textFrom hr hframes hu hrest hinput hfuel
  · rw [hinput, List.length_append]
    exact Nat.lt_add_of_pos_left (List.length_pos_iff.mpr hnil)

/-! ## Written text -/

/-- A text in which the characters of some kind are written as references. -/
def spell (escaped : Char → Bool) (s : Chars) : Chars :=
  s.flatMap fun c => if escaped c then escapeInText c else [c]

/-- A character that XML text does not hold as it is. -/
def isEscaped (c : Char) : Bool := isNamed c || c == '\r'

theorem writeText_eq_spell (s : Chars) : writeText s = spell isEscaped s := by
  rw [writeText, spell]
  congr 1
  funext c
  split
  · rfl
  · next hc =>
    simp only [isEscaped, isNamed, Bool.or_eq_true, not_or, Bool.not_eq_true] at hc
    simp [escapeInText, hc]

theorem htmlWriteText_eq_spell (s : Chars) : Html.writeText s = spell isNamed s := by
  rw [Html.writeText, spell]
  congr 1
  funext c
  cases hc : isNamed c with
  | true =>
    simp only [isNamed, Bool.or_eq_true, beq_iff_eq] at hc
    obtain (rfl | rfl) | rfl := hc <;> rfl
  | false =>
    simp only [isNamed, Bool.or_eq_false_iff] at hc
    simp [Html.escapeInText, hc]

/-- What a text is read as: its line ends are made uniform, unless carriage returns are escaped. -/
def lineEnds (escaped : Char → Bool) (s : Chars) : Chars :=
  if escaped '\r' then s else unifyLineEnds s

variable {escaped : Char → Bool}

theorem lineEnds_cons (hc : escaped c = true) (s : Chars) :
    lineEnds escaped (c :: s) = c :: lineEnds escaped s := by
  rw [lineEnds, lineEnds]
  split
  · rfl
  · next hr =>
    rw [unifyLineEnds]
    · rintro r rfl
      exact absurd hc hr
    · rintro rfl
      exact absurd hc hr

/-- Text up to the next character that is escaped. -/
theorem lineEnds_append (hs : ∀ c ∈ s, escaped c = false)
    (ht : ∀ c, t.head? = some c → escaped c = true) (hnl : escaped '\n' = false) :
    lineEnds escaped (s ++ t) = unifyLineEnds s ++ lineEnds escaped t := by
  rw [lineEnds, lineEnds]
  split
  · next hr =>
    rw [unifyLineEnds_of_not_mem]
    exact fun h => by simp [hs _ h] at hr
  · refine unifyLineEnds_append s fun h => ?_
    simp [ht _ h] at hnl

theorem spell_append (escaped : Char → Bool) (s t : Chars) :
    spell escaped (s ++ t) = spell escaped s ++ spell escaped t := List.flatMap_append ..

theorem spell_of_not_escaped (h : ∀ c ∈ s, escaped c = false) : spell escaped s = s := by
  induction s with
  | nil => rfl
  | cons c s ih =>
    rw [List.forall_mem_cons] at h
    rw [spell, List.flatMap_cons, if_neg (by simp [h.1])]
    exact congrArg (c :: ·) (ih h.2)

/-- A text that starts with an escaped character is written with a reference at its start. -/
theorem atMarkup_spell (hc : isNamed c = true ∨ c = '\r') (hesc : escaped c = true) (s : Chars) :
    AtMarkup (spell escaped (c :: s) ++ rest) := by
  have hhead : (escapeInText c).head? = some '&' := by
    simp only [isNamed, Bool.or_eq_true, beq_iff_eq] at hc
    obtain ((rfl | rfl) | rfl) | rfl := hc <;> rfl
  right
  rw [spell, List.flatMap_cons, if_pos hesc, List.append_assoc, List.head?_append, hhead]
  rfl

/-- A text begins with a run of characters that are not escaped. -/
theorem exists_run (escaped : Char → Bool) (s : Chars) :
    ∃ u v, u ++ v = s ∧ (∀ d ∈ u, escaped d = false) ∧ ∀ d, v.head? = some d → escaped d = true := by
  refine ⟨s.takeWhile (!escaped ·), s.dropWhile (!escaped ·), List.takeWhile_append_dropWhile,
    fun d hd => ?_, fun d hd => ?_⟩
  · have hd := List.mem_takeWhile_imp hd
    simpa using hd
  · simpa using stops_dropWhile (!escaped ·) s d hd

/-- A written text is read back up to the next markup, where at least the characters of markup are
escaped. References by name are dropped once the markup is not well formed. -/
theorem Reader.reads_spell (hnamed : ∀ c, isNamed c = true → escaped c = true)
    (hescaped : ∀ c, escaped c = true → isNamed c = true ∨ c = '\r')
    (hr : r.Plain) (hframes : r.frames ≠ []) (hs : ∀ c ∈ s, isXmlChar c = true)
    (hrest : AtMarkup rest) (hinput : r.input = spell escaped s ++ rest) :
    ∃ r', r.Reads rest true (.last (keptText r.wellFormed (lineEnds escaped s))) r' := by
  induction hlen : s.length using Nat.strong_induction_on generalizing r s with
  | _ len ih =>
  cases s with
  | nil =>
    refine ⟨r, ?_⟩
    have hnil : lineEnds escaped [] = [] := by
      rw [lineEnds]
      split <;> rfl
    rw [hnil, keptText_nil]
    have hrefl := Reader.Reads.refl r
    rwa [hinput] at hrefl
  | cons c s =>
    -- one piece is read, then the rest of the text
    have hgo {piece : Chars} {s' : Chars} {r₁ : Reader} (hshort : s'.length < len)
        (hmem : ∀ c ∈ s', isXmlChar c = true)
        (hread : r.Reads (spell escaped s' ++ rest) true (.last piece) r₁)
        (hpiece : keptText r.wellFormed (lineEnds escaped (c :: s))
          = piece ++ keptText r.wellFormed (lineEnds escaped s')) :
        ∃ r', r.Reads rest true (.last (keptText r.wellFormed (lineEnds escaped (c :: s)))) r' := by
      have hframes₁ : r₁.frames ≠ [] := by
        rw [← List.length_pos_iff, hread.2.length_frames, List.length_pos_iff]
        exact hframes
      obtain ⟨r', hr'⟩ := ih s'.length hshort (hread.2.plain hr) hframes₁ hmem hread.2.input rfl
      rw [hread.2.wellFormed, Bool.and_true] at hr'
      exact ⟨r', by rw [hpiece]; exact hread.trans hr'⟩
    rw [List.forall_mem_cons] at hs
    cases hc : escaped c with
    | true =>
      have hinput' : r.input = escapeInText c ++ (spell escaped s ++ rest) := by
        rw [hinput, spell, List.flatMap_cons, if_pos hc, List.append_assoc]
        rfl
      refine hgo (by simp [← hlen]) hs.2 (Reader.reads_escape hr hframes (hescaped c hc) hinput') ?_
      rw [lineEnds_cons hc, ← keptText_append]
      rfl
    | false =>
      obtain ⟨u, v, hsplit, hplain, hhead⟩ := exists_run escaped (c :: s)
      have hnil : u ≠ [] := by
        rintro rfl
        rw [List.nil_append] at hsplit
        exact absurd (hhead c (by rw [hsplit]; rfl)) (by rw [hc]; exact Bool.false_ne_true)
      have hmem : ∀ d ∈ u ++ v, isXmlChar d = true := by
        rw [hsplit, List.forall_mem_cons]
        exact hs
      have hnot : ∀ d ∈ u, isNamed d = false := fun d hd => by
        cases hd' : isNamed d with
        | false => rfl
        | true => exact absurd (hnamed d hd') (by simp [hplain d hd])
      have hfree : ∀ d ∈ u, isFree d = true := fun d hd => by
        have hd' := hnot d hd
        simp only [isNamed, Bool.or_eq_false_iff, beq_eq_false_iff_ne] at hd'
        simp [isFree, hd', hmem d (List.mem_append_left v hd)]
      have hmarkup : AtMarkup (spell escaped v ++ rest) := by
        cases v with
        | nil => exact hrest
        | cons d v => exact atMarkup_spell (hescaped d (hhead d rfl)) (hhead d rfl) v
      have hinput' : r.input = u ++ (spell escaped v ++ rest) := by
        rw [hinput, ← hsplit, spell_append, spell_of_not_escaped hplain, List.append_assoc]
      have hshort : v.length < len := by
        rw [← hlen, ← hsplit, List.length_append]
        exact Nat.lt_add_of_pos_left (List.length_pos_iff.mpr hnil)
      refine hgo hshort (fun d hd => hmem d (List.mem_append_right u hd))
        (Reader.reads_plainText hr hframes hfree hnil hmarkup hinput') ?_
      have hkept : keptText r.wellFormed (unifyLineEnds u) = unifyLineEnds u := by
        refine keptText_of_not_named _ fun d hd => ?_
        rcases mem_unifyLineEnds hd with hd | rfl
        · exact hnot d hd
        · rfl
      have hnl : escaped '\n' = false := by
        cases hesc : escaped '\n' with
        | false => rfl
        | true => exact absurd (hescaped _ hesc) (by decide)
      rw [← hsplit, lineEnds_append hplain hhead hnl, keptText_append, hkept]

/-- The text of an element is read back as it was, but for what the reader drops. -/
theorem Reader.reads_writeText (hr : r.Plain) (hframes : r.frames ≠ [])
    (hs : ∀ c ∈ s, isXmlChar c = true) (hrest : AtMarkup rest)
    (hinput : r.input = writeText s ++ rest) :
    ∃ r', r.Reads rest true (.last (keptText r.wellFormed s)) r' := by
  rw [writeText_eq_spell] at hinput
  refine Reader.reads_spell (fun c hc => ?_) (fun c hc => ?_) hr hframes hs hrest hinput
  · rw [isEscaped, hc, Bool.true_or]
  · rwa [isEscaped, Bool.or_eq_true, beq_iff_eq] at hc

/-- Text that is written with carriage returns as they are is read with uniform line ends. -/
theorem Reader.reads_htmlWriteText (hr : r.Plain) (hframes : r.frames ≠ [])
    (hs : ∀ c ∈ s, isXmlChar c = true) (hrest : AtMarkup rest)
    (hinput : r.input = Html.writeText s ++ rest) :
    ∃ r', r.Reads rest true (.last (keptText r.wellFormed (unifyLineEnds s))) r' := by
  rw [htmlWriteText_eq_spell] at hinput
  exact Reader.reads_spell (fun c hc => hc) (fun c hc => .inl hc) hr hframes hs hrest hinput

end MarkupQuery.Xml
