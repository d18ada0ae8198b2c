import MarkupQuery.Proofs.Xml.Inner

/-!
# Text without markup

A text that is put between the start and the end of a tag as it is, nothing escaped, is read as the same text
if it is verbatim: it holds no characters of markup, no carriage returns and no characters that XML does not
allow, and the plain characters at its start do not run into the end of a character data section
(`Reader.readsBody_verbatim`). Later on such an end is noted, but the text is kept.
-/

namespace MarkupQuery.Xml

open MarkupQuery.Text MarkupQuery.Tree

variable {r : Reader} {s t rest mark : Chars} {c : Char}

/-! ## Plain characters before markup -/

/-- A text without characters of markup does not go on behind markup. -/
theorem isSome_after?_append (hlt : '<' ∉ mark) (hamp : '&' ∉ mark) (hrest : AtMarkup rest) (s : Chars) :
    (after? mark (s ++ rest)).isSome = (after? mark s).isSome := by
  induction mark generalizing s with
  | nil => cases s <;> rfl
  | cons m mark ih =>
    simp only [List.mem_cons, not_or] at hlt hamp
    cases s with
    | nil =>
      cases hafter : after? (m :: mark) rest with
      | none => rw [List.nil_append, hafter]; rfl
      | some t => exact absurd (after?_eq_some.mp hafter) (hrest.ne_cons (Ne.symm hlt.1) (Ne.symm hamp.1) _)
    | cons c s =>
      rw [List.cons_append, after?, after?]
      split
      · exact ih hlt.2 hamp.2 s
      · rfl

/-- What is read as plain text before markup does not depend on the markup. -/
theorem spanPlain_append_markup (hrest : AtMarkup rest) (s : Chars) :
    spanPlain (s ++ rest) = ((spanPlain s).1, (spanPlain s).2.1 ++ rest, (spanPlain s).2.2) := by
  induction s with
  | nil =>
    cases rest with
    | nil => rcases hrest with h | h <;> cases h
    | cons c rest =>
      rcases hrest with h | h
      · obtain rfl := Option.some.inj h
        rfl
      · obtain rfl := Option.some.inj h
        rfl
  | cons c s ih =>
    have hend := isSome_after?_append (show '<' ∉ "]>".toList by decide) (by decide) hrest s
    rw [List.cons_append, spanPlain, spanPlain, hend, ih]
    split
    · rfl
    · split <;> rfl

/-- Plain text that does not stop at the end of a section takes all plain characters. -/
theorem spanPlain_of_not_stopped (h : (spanPlain s).2.2 = false) :
    spanPlain s = (s.takeWhile isPlain, s.dropWhile isPlain, false) := by
  induction s with
  | nil => rfl
  | cons c s ih =>
    rw [spanPlain] at h ⊢
    split at h
    · cases h
    · next hend =>
      rw [if_neg hend]
      cases hc : isPlain c with
      | true =>
        rw [hc, if_pos rfl] at h
        rw [if_pos rfl, ih h, List.takeWhile_cons_of_pos hc, List.dropWhile_cons_of_pos hc]
      | false => rw [if_neg (by simp), List.takeWhile_cons_of_neg (by simp [hc]),
          List.dropWhile_cons_of_neg (by simp [hc])]

/-! ## Verbatim text -/

/-- Whether a text is read as it is, although nothing in it is escaped. -/
def isVerbatim (s : Chars) : Bool :=
  (s.all fun c => isTextChar c && c != '\r') && !(spanPlain s).2.2

theorem isVerbatim_iff :
    isVerbatim s = true ↔ (∀ c ∈ s, isTextChar c = true ∧ c ≠ '\r') ∧ (spanPlain s).2.2 = false := by
  simp [isVerbatim]

/-- Whether a verbatim text seems to end no section; it is well formed then. -/
def endsNoSection (s : Chars) : Bool := (cutAt "]]>".toList (s.dropWhile isPlain)).isNone

/-- A verbatim text is made text of. -/
theorem Reader.makes_verbatim (hr : r.Plain) (hframes : r.frames ≠ []) (hs : isVerbatim s = true)
    (hrest : AtMarkup rest) (h : r.input = s ++ rest) :
    r.Makes rest (endsNoSection s) (.last s) r.plainText := by
  obtain ⟨hchars, hstopped⟩ := isVerbatim_iff.mp hs
  have hsplit := List.takeWhile_append_dropWhile (p := isPlain) (l := s)
  rw [endsNoSection]
  rw [Reader.plainText, Reader.textFrom, h, spanPlain_append_markup hrest, spanPlain_of_not_stopped hstopped]
  generalize s.takeWhile isPlain = u at hsplit
  generalize s.dropWhile isPlain = v at hsplit
  dsimp only
  rw [if_neg (by simp)]
  have hmoves := r.moves_at (v ++ rest)
  have hdelivers : r.Makes (v ++ rest) true (.last u) ((r.at_ (v ++ rest)).deliver u) :=
    hmoves.trans_makes (Reader.makes_deliver (hmoves.plain hr) hframes u)
  cases v with
  | nil =>
    rw [List.append_nil] at hsplit
    cases rest with
    | nil => rcases hrest with h | h <;> cases h
    | cons c rest =>
      split
      · next heq => exact absurd heq (hrest.ne_cons (by decide) (by decide) _)
      · next heq => cases heq
      · next c' s' _ heq =>
        obtain ⟨rfl, rfl⟩ := List.cons.inj heq
        rw [if_pos hrest.head, ← hsplit]
        exact hdelivers
  | cons c v =>
    -- what is not plain is read in one piece with what follows it
    have hv : ∀ d ∈ c :: v, isTextChar d = true ∧ d ≠ '\r' := fun d hd =>
      hchars d (hsplit ▸ List.mem_append_right u hd)
    obtain ⟨hc, hcr⟩ := hv c List.mem_cons_self
    split
    · next heq => exact absurd (List.cons.inj heq).1 hcr
    · next heq => cases heq
    · next c' s' _ heq =>
      obtain ⟨rfl, rfl⟩ := List.cons.inj heq
      obtain ⟨hlt, hamp⟩ := ne_of_isTextChar hc
      rw [if_neg (by simp [hlt, hamp])]
      have hframes₁ : ((r.at_ (c :: v ++ rest)).deliver u).frames ≠ [] := by
        rw [← List.length_pos_iff, hdelivers.length_frames, List.length_pos_iff]
        exact hframes
      have hmixed := Reader.makes_mixedText (hdelivers.plain hr) hframes₁ (fun d hd => (hv d hd).1) hrest
        hdelivers.input
      rw [unifyLineEnds_of_not_mem fun hr => (hv _ hr).2 rfl] at hmixed
      have hall := hdelivers.trans hmixed
      rw [Bool.true_and, Mixed.concat, Mixed.prepend, hsplit] at hall
      exact hall

/-- A verbatim text is read as the content of an element. -/
theorem Reader.readsBody_verbatim {depth : Nat} (hdepth : 0 < depth) (hs : isVerbatim s = true)
    (scope : List Declaration) (wellFormed : Bool) :
    Reader.ReadsBody depth scope wellFormed s (endsNoSection s) (.last s) := by
  rintro r hr hlen rfl rfl rest hrest h
  have hframes : r.frames ≠ [] := by
    rw [← List.length_pos_iff, hlen]
    exact hdepth
  cases s with
  | nil =>
    rw [List.nil_append] at h
    exact ⟨r, h ▸ Reader.Reads.refl r⟩
  | cons c s =>
    have hstep := Reader.contentStep_text ((isVerbatim_iff.mp hs).1 c List.mem_cons_self).1 h
    have hmakes := Reader.makes_verbatim hr hframes hs hrest h
    rw [← hstep] at hmakes
    refine ⟨_, Reader.reads_contentStep hr hframes hmakes ?_⟩
    rw [h, List.length_append]
    exact Nat.lt_add_of_pos_left (Nat.succ_pos _)

end MarkupQuery.Xml
