import MarkupQuery.Html.Reader
import MarkupQuery.Html.Writer
import MarkupQuery.Proofs.Html.Transcoding

/-!
# Elements that hold text alone

An element without attributes that holds ordinary text is read in three steps: its start tag, its text and its end
tag. The start tag supplies the elements around it (`Reader.startTag_eq_opened`); the text goes up to the end tag in
every mode, and its references are resolved unless it is raw (`Reader.step_text`). So one tree comes out
(`read_inTags`).
-/

namespace MarkupQuery.Html

open MarkupQuery.Text MarkupQuery.Tree

variable {c : Char} {name s t u rest : Chars}

/-! ## Text up to an end tag -/

theorem isEndTagOf_cons_of_ne (hc : c ≠ '<') : isEndTagOf name (c :: s) = false := by
  rw [isEndTagOf]
  exact fun r heq => hc (List.cons.inj heq).1

/-- Raw text goes up to the end tag of its element. -/
theorem spanRaw_append (hs : '<' ∉ s) (hrest : isEndTagOf name rest = true) :
    spanRaw name (s ++ rest) = (s, rest) := by
  induction s with
  | nil =>
    cases rest with
    | nil => cases hrest
    | cons c rest => rw [List.nil_append, spanRaw, if_pos hrest]
  | cons c s ih =>
    rw [List.mem_cons, not_or] at hs
    rw [List.cons_append, spanRaw, isEndTagOf_cons_of_ne (Ne.symm hs.1), if_neg Bool.false_ne_true, ih hs.2]

/-- A script without brackets goes up to its end tag; it opens no comment. -/
theorem spanScript_append (hs : '<' ∉ s) (hrest : isEndTagOf "script".toList rest = true) :
    spanScript .outside (s ++ rest) = (s, rest) := by
  induction s with
  | nil =>
    cases rest with
    | nil => cases hrest
    | cons c rest =>
      rw [List.nil_append, spanScript, hrest]
      rfl
  | cons c s ih =>
    rw [List.mem_cons, not_or] at hs
    have hcomment : "<!--".toList.isPrefixOf (c :: (s ++ rest)) = false := by
      show ('<' == c && _) = false
      rw [beq_false_of_ne hs.1, Bool.false_and]
    rw [List.cons_append, spanScript, isEndTagOf_cons_of_ne (Ne.symm hs.1), hcomment]
    show (c :: (spanScript .outside (s ++ rest)).1, (spanScript .outside (s ++ rest)).2) = _
    rw [ih hs.2]

theorem unify_of_not_mem (hreturn : '\r' ∉ s) (hzero : '\x00' ∉ s) : unify s = s := by
  induction s with
  | nil => rfl
  | cons c s ih =>
    rw [List.mem_cons, not_or] at hreturn hzero
    rw [unify, ih hreturn.2 hzero.2]
    · exact fun r heq _ => hreturn.1 heq.symm
    · exact fun heq => hreturn.1 heq.symm
    · exact fun heq => hzero.1 heq.symm

/-! ## Tags -/

/-- Elements that may hold text and stand in the head or the body of a document. -/
def textHolders : List String := ["div", "p", "span", "b", "title", "textarea", "script", "style"]

/-- The end tag of a name. -/
def endTagOf (name : Chars) : Chars := '<' :: '/' :: (name ++ ['>'])

/-- A text in an element without attributes. -/
def inTags (name s : Chars) : Chars := '<' :: (name ++ '>' :: (s ++ endTagOf name))

/-- The start tag without attributes. -/
def bareTag (name : Chars) : Tag := { name := { base := name } }

/-- The name of the element that an element has to stand in. -/
def sectionOf (name : Chars) : Chars := if isHeadElement name then "head".toList else "body".toList

/-- A name of an element as it is read: letters in lower case. -/
structure IsTagName (name : Chars) : Prop where
  start : ∃ c r, name = c :: r ∧ isAsciiLetter c = true
  ends : ∀ c ∈ name, endsName c = false
  lower : lowerAscii name = name
  unified : unify name = name

theorem isTagName_of_mem {n : String} (hn : n ∈ textHolders) : IsTagName n.toList := by
  have hall : ∀ n ∈ textHolders, n.toList.head?.any isAsciiLetter = true ∧
      (∀ c ∈ n.toList, endsName c = false) ∧ lowerAscii n.toList = n.toList ∧ unify n.toList = n.toList := by
    decide
  obtain ⟨hstart, hends, hlower, hunified⟩ := hall n hn
  obtain ⟨c, hhead, hc⟩ := (Option.any_eq_true ..).mp hstart
  obtain ⟨r, heq⟩ := List.head?_eq_some_iff.mp hhead
  exact ⟨⟨c, r, heq, hc⟩, hends, hlower, hunified⟩

theorem IsTagName.spanTagName (h : IsTagName name) (rest : Chars) :
    spanTagName (name ++ '>' :: rest) = (name, '>' :: rest) := by
  have hends : ∀ c ∈ name, (!endsName c) = true := fun c hc => by rw [h.ends c hc]; rfl
  rw [Html.spanTagName, List.takeWhile_append_of_pos hends, List.dropWhile_append_of_pos hends,
    List.takeWhile_cons_of_neg (by decide), List.dropWhile_cons_of_neg (by decide), List.append_nil, h.lower,
    h.unified]

theorem IsTagName.isEndTagOf (h : IsTagName name) : isEndTagOf name (endTagOf name) = true := by
  rw [endTagOf, Html.isEndTagOf, List.take_left, List.drop_left, h.lower, beq_self_eq_true]
  rfl

/-! ## Elements -/

variable {settings : Settings}

/-- The builder after the start tag of an element that holds text: the two elements around it are supplied. -/
def opened (settings : Settings) (name : Chars) : Builder where
  settings
  frames := [⟨bareTag name, []⟩, ⟨bareTag (sectionOf name), []⟩, ⟨bareTag "html".toList, []⟩]
  sawHead := true
  sawBody := !isHeadElement name

/-- The start tag of an element that holds text is put in the element that it has to stand in. -/
theorem Builder.startTag_eq_opened (settings : Settings) {n : String} (hn : n ∈ textHolders) (unread : Chars) :
    ({ settings } : Builder).startTag (bareTag n.toList) unread = (opened settings n.toList, true) := by
  obtain ⟨dropBlanks, dropComments, deep⟩ := settings
  simp only [textHolders, List.mem_cons, List.not_mem_nil, or_false] at hn
  rcases hn with rfl | rfl | rfl | rfl | rfl | rfl | rfl | rfl
  all_goals cases deep <;> rfl

theorem Reader.startTag_eq_opened {n : String} (hn : n ∈ textHolders) (rest : Chars) :
    Reader.startTag ⟨{ settings }, n.toList ++ '>' :: rest, .markup⟩ =
      ⟨opened settings n.toList, rest, contentMode n.toList⟩ := by
  have hvoid : ∀ n ∈ textHolders, isVoid n.toList = false := by decide
  have hattributes (fuel : Nat) : spanAttributes (fuel + 1) ('>' :: rest) [] [] = ⟨[], [], '>' :: rest⟩ := rfl
  have hopened := Builder.startTag_eq_opened settings hn ('>' :: rest)
  rw [bareTag] at hopened
  simp only [Reader.startTag, (isTagName_of_mem hn).spanTagName, hattributes, List.foldl_nil, hopened, hvoid n hn,
    Bool.not_true, Bool.false_eq_true, if_false]

/-- Text that is not blank is put in the innermost element. -/
theorem deliver_opened (settings : Settings) {n : String} (hn : n ∈ textHolders) (mode : ContentMode)
    (hs : s.all isHtmlBlank = false) (unread : Chars) :
    (opened settings n.toList).deliver mode s unread = (opened settings n.toList).addText s := by
  have hplain : ∀ n ∈ textHolders, n.toList ≠ "html".toList ∧ n.toList ≠ "head".toList := by decide
  have hempty : s.isEmpty = false := by
    cases s with
    | nil => cases hs
    | cons c s => rfl
  have hhtml : (opened settings n.toList).isIn "html" = false := by
    simpa [Builder.isIn, Builder.current?, opened, Frame.name, bareTag] using (hplain n hn).1
  have hhead : (opened settings n.toList).isIn "head" = false := by
    simpa [Builder.isIn, Builder.current?, opened, Frame.name, bareTag] using (hplain n hn).2
  have hframes : (opened settings n.toList).frames.isEmpty = false := rfl
  have hdrops : (opened settings n.toList).dropsBlank s unread = false := by
    simp [Builder.dropsBlank, hs]
  simp [Builder.deliver, hempty, hhtml, hhead, hframes, hdrops]

/-- Text outside of raw text goes up to the next bracket. -/
theorem Reader.step_plainText {r : Reader} (hmode : r.mode = .markup) (hne : s ≠ []) (hs : '<' ∉ s)
    (hinput : r.input = s ++ '<' :: rest) :
    r.step = { r with
      builder := r.builder.deliver .markup (resolve false (s.length + 1) s) ('<' :: rest)
      input := '<' :: rest } := by
  have hsteps : ∀ c ∈ s, (c != '<') = true := fun c hc => bne_iff_ne.mpr fun heq => hs (heq ▸ hc)
  have hplain : r.step = r.plainText := by
    obtain ⟨c, s, rfl⟩ := List.exists_cons_of_ne_nil hne
    have hc : c ≠ '<' := fun heq => hs (heq ▸ List.mem_cons_self ..)
    have hfirst (q : Chars) : c :: s ++ '<' :: rest ≠ '<' :: q := fun heq => hc (List.cons.inj heq).1
    rw [Reader.step, hmode, hinput, if_neg (by decide)]
    split
    all_goals first | rfl | exact absurd ‹_› (hfirst _)
  rw [hplain, Reader.plainText, hinput, List.takeWhile_append_of_pos hsteps, List.dropWhile_append_of_pos hsteps,
    List.takeWhile_cons_of_neg (by decide), List.dropWhile_cons_of_neg (by decide), List.append_nil]

/-- Text without brackets in an element that holds no markup goes up to the end tag of the element. -/
theorem Reader.step_heldText {b : Builder} {mode : ContentMode} (hname : b.current? = some name) (hs : '<' ∉ s)
    (hrest : isEndTagOf name rest = true)
    (hmode : mode = .escapable ∨ mode = .raw ∨ mode = .script ∧ name = "script".toList)
    (hu : (if mode = .escapable then resolve false (s.length + 1) s else unify s) = u) (hne : u ≠ []) :
    Reader.step ⟨b, s ++ rest, mode⟩ = ⟨b.deliver mode u rest, rest, .markup⟩ := by
  have hheld : Reader.step ⟨b, s ++ rest, mode⟩ = Reader.heldText ⟨b, s ++ rest, mode⟩ := by
    rw [Reader.step, if_pos]
    rcases hmode with rfl | rfl | ⟨rfl, -⟩ <;> rfl
  have hempty : u.isEmpty = false := List.isEmpty_eq_false_iff.mpr hne
  rw [hheld]
  rcases hmode with rfl | rfl | ⟨rfl, rfl⟩
  · rw [if_pos rfl] at hu
    simp [Reader.heldText, hname, spanRaw_append hs hrest, hu, hempty]
  · rw [if_neg nofun] at hu
    simp [Reader.heldText, hname, spanRaw_append hs hrest, hu, hempty]
  · rw [if_neg nofun] at hu
    simp [Reader.heldText, spanScript_append hs hrest, hu, hempty]

/-! ## Ordinary text -/

theorem toAscii_ne_nil (hne : t ≠ []) : toAscii (codePoints t) ≠ [] := by
  have hlength := length_le_toAscii t
  have hpos := List.length_pos_iff.mpr hne
  exact List.length_pos_iff.mp (by omega)

theorem not_mem_toAscii (ht : ∀ c ∈ t, isOrdinary c = true) (hc : isOrdinary c = false) (hamp : c ≠ '&') :
    c ∉ toAscii (codePoints t) := by
  intro h
  rcases mem_toAscii ht h with hordinary | heq
  · rw [hc] at hordinary
    cases hordinary
  · exact hamp heq

/-- What is shown of a text in an element: where references are not resolved, its ASCII form. -/
def shownIn (name t : Chars) : Chars := if holdsPlainText name then toAscii (codePoints t) else t

theorem shownIn_ne_nil (name : Chars) (hne : t ≠ []) : shownIn name t ≠ [] := by
  rw [shownIn]
  split
  · exact toAscii_ne_nil hne
  · exact hne

theorem all_isHtmlBlank_shownIn (name : Chars) (hne : t ≠ []) (ht : ∀ c ∈ t, isOrdinary c = true) :
    (shownIn name t).all isHtmlBlank = false := by
  have hblank {d : Char} (hd : isOrdinary d = true) : isHtmlBlank d = false := by
    simp only [isOrdinary, Bool.and_eq_true, Bool.not_eq_true'] at hd
    exact hd.1.1.1.1
  have hall : ∀ d ∈ shownIn name t, isHtmlBlank d = false := by
    intro d hd
    rw [shownIn] at hd
    split at hd
    · rcases mem_toAscii ht hd with hd | rfl
      · exact hblank hd
      · rfl
    · exact hblank (ht d hd)
  obtain ⟨d, s, heq⟩ := List.exists_cons_of_ne_nil (shownIn_ne_nil name hne)
  rw [heq] at hall ⊢
  rw [List.all_cons, hall d (List.mem_cons_self ..), Bool.false_and]

/-- How the elements that hold text are read: those whose text is written as it is resolve no references. -/
theorem contentMode_cases {n : String} (hn : n ∈ textHolders) :
    (contentMode n.toList = .markup ∨ contentMode n.toList = .escapable) ∧ holdsPlainText n.toList = false ∨
      (contentMode n.toList = .raw ∨ contentMode n.toList = .script ∧ n = "script") ∧
        holdsPlainText n.toList = true := by
  revert n
  decide

/-- An ordinary text is read up to the end tag of its element. -/
theorem Reader.step_text {n : String} (hn : n ∈ textHolders) (hne : t ≠ [])
    (ht : ∀ c ∈ t, isOrdinary c = true) :
    Reader.step ⟨opened settings n.toList, toAscii (codePoints t) ++ endTagOf n.toList, contentMode n.toList⟩ =
      ⟨(opened settings n.toList).addText (shownIn n.toList t), endTagOf n.toList, .markup⟩ := by
  have hbracket := not_mem_toAscii ht (c := '<') (by decide) (by decide)
  have hunify := unify_of_not_mem (not_mem_toAscii ht (c := '\r') (by decide) (by decide))
    (not_mem_toAscii ht (c := '\x00') (by decide) (by decide))
  have hresolve := resolve_toAscii ht false (Nat.le_succ_of_le (length_le_toAscii t))
  have hend := (isTagName_of_mem hn).isEndTagOf
  have hdeliver (mode : ContentMode) := deliver_opened settings hn mode (all_isHtmlBlank_shownIn n.toList hne ht)
    (endTagOf n.toList)
  have hnonempty := shownIn_ne_nil n.toList hne
  rcases contentMode_cases hn with ⟨hmode, hplain⟩ | ⟨hmode, hplain⟩
  · have hshown : shownIn n.toList t = t := if_neg (by simp [hplain])
    rw [hshown] at hdeliver hnonempty ⊢
    rcases hmode with hmode | hmode
    · rw [Reader.step_plainText hmode (toAscii_ne_nil hne) hbracket rfl, hmode, hresolve]
      exact congrArg (Reader.mk · (endTagOf n.toList) .markup) (hdeliver .markup)
    · rw [hmode, Reader.step_heldText rfl hbracket hend (.inl rfl) ((if_pos rfl).trans hresolve) hnonempty, hdeliver]
  · have hshown : shownIn n.toList t = toAscii (codePoints t) := if_pos hplain
    rw [hshown] at hdeliver hnonempty ⊢
    have hheld : contentMode n.toList = .escapable ∨ contentMode n.toList = .raw ∨
        contentMode n.toList = .script ∧ n.toList = "script".toList :=
      .inr (hmode.imp_right fun h => ⟨h.1, congrArg String.toList h.2⟩)
    have hraw : contentMode n.toList ≠ .escapable := by
      rcases hmode with hmode | ⟨hmode, -⟩ <;> rw [hmode] <;> nofun
    rw [Reader.step_heldText rfl hbracket hend hheld ((if_neg hraw).trans hunify) hnonempty, hdeliver]

/-! ## Documents -/

/-- The end tag of an element closes it. -/
theorem Reader.step_endTag {n : String} (hn : n ∈ textHolders) (u : Chars) :
    Reader.step ⟨(opened settings n.toList).addText u, endTagOf n.toList, .markup⟩ =
      ⟨((opened settings n.toList).addText u).close, [], .markup⟩ := by
  have hname := isTagName_of_mem hn
  have hattributes : spanAttributes (['>'].length + 1) ['>'] [] [] = ⟨[], [], ['>']⟩ := rfl
  have hclose : ((opened settings n.toList).addText u).endTag n.toList [] =
      ((opened settings n.toList).addText u).close := by
    simp [Builder.endTag, opened, Builder.addText, Builder.hasOpen, reach, Frame.name, bareTag, Builder.closeMany]
  have hstep : Reader.step ⟨(opened settings n.toList).addText u, endTagOf n.toList, .markup⟩ =
      Reader.endTag ⟨(opened settings n.toList).addText u, endTagOf n.toList, .markup⟩ := rfl
  have hinput : (endTagOf n.toList).drop 2 = n.toList ++ ['>'] := rfl
  obtain ⟨c, r, heq, hc⟩ := hname.start
  have hspan := hname.spanTagName []
  rw [hstep, Reader.endTag, hinput]
  rw [heq] at hspan hclose ⊢
  rw [List.cons_append] at hspan ⊢
  have hbracket : c ≠ '>' := by
    rintro rfl
    cases hc
  split
  · next h => cases h
  · next h => exact absurd (List.cons.inj h).1 hbracket
  · next d q _ h =>
    obtain ⟨rfl, rfl⟩ := List.cons.inj h
    simp only [hc, if_true, hspan, hattributes, hclose]

theorem Reader.content_succ {fuel : Nat} {r : Reader} (hbuilder : r.builder.halted = false) (hinput : r.input ≠ []) :
    Reader.content (fuel + 1) r = Reader.content fuel r.step := by
  have hempty : r.input.isEmpty = false := List.isEmpty_eq_false_iff.mpr hinput
  simp [Reader.content, hbuilder, hempty]

theorem ne_of_isAsciiLetter {d : Char} (hc : isAsciiLetter c = true) (hd : isAsciiLetter d = false) : c ≠ d := by
  rintro rfl
  rw [hc] at hd
  cases hd

/-- A text that starts with a tag has no document type, and nothing comes before it. -/
theorem Reader.before_tag {r : Reader} (hc : isAsciiLetter c = true) (hlower : lowerAsciiChar c = c)
    (hinput : r.input = '<' :: c :: s) (fuel : Nat) : Reader.before fuel r = r ∧ r.documentType = r := by
  have hmark : c ≠ '!' := ne_of_isAsciiLetter hc (by decide)
  have hask : c ≠ '?' := ne_of_isAsciiLetter hc (by decide)
  constructor
  · have hskip : skip r.input = r.input := by
      rw [hinput]
      rfl
    cases fuel with
    | zero => rfl
    | succ fuel =>
      rw [Reader.before, hskip, hinput]
      split
      · next heq => exact absurd (List.cons.inj (List.cons.inj heq).2).1 hmark
      · next heq => exact absurd (List.cons.inj (List.cons.inj heq).2).1 hask
      · rw [← hinput]
  · have htype : startsType r.input = false := by
      rw [hinput, startsType, beq_eq_false_iff_ne]
      intro heq
      have hsecond : (lowerAscii (('<' :: c :: s).take 9))[1]? = some '!' := by
        rw [heq]
        decide
      exact hmark (hlower.symm.trans (Option.some.inj hsecond))
    rw [Reader.documentType, htype]
    rfl

/-- A start tag is read after its bracket. -/
theorem Reader.step_tag {b : Builder} (hc : isAsciiLetter c = true) (s : Chars) :
    Reader.step ⟨b, '<' :: c :: s, .markup⟩ = Reader.startTag ⟨b, c :: s, .markup⟩ := by
  have hslash : c ≠ '/' := ne_of_isAsciiLetter hc (by decide)
  have hmark : c ≠ '!' := ne_of_isAsciiLetter hc (by decide)
  have hask : c ≠ '?' := ne_of_isAsciiLetter hc (by decide)
  simp [Reader.step, hc]

/-- An ordinary text between tags is read as an element in the head or the body of a document. -/
theorem read_inTags {n : String} (hn : n ∈ textHolders) (hne : t ≠ []) (ht : ∀ c ∈ t, isOrdinary c = true) :
    (read settings (inTags n.toList (toAscii (codePoints t)))).forest =
      [.element unnumbered (bareTag "html".toList)
        [.element unnumbered (bareTag (sectionOf n.toList))
          [.element unnumbered (bareTag n.toList) [.text (shownIn n.toList t)]]]] := by
  have hname := isTagName_of_mem hn
  obtain ⟨c, r, heq, hc⟩ := hname.start
  have hlower : lowerAsciiChar c = c := by
    have hall := hname.lower
    rw [heq] at hall
    exact (List.cons.inj hall).1
  have hinput : inTags n.toList (toAscii (codePoints t)) =
      '<' :: c :: (r ++ '>' :: (toAscii (codePoints t) ++ endTagOf n.toList)) := by
    rw [inTags, heq, List.cons_append]
  have hfirst : Reader.step ⟨{ settings }, inTags n.toList (toAscii (codePoints t)), .markup⟩ =
      ⟨opened settings n.toList, toAscii (codePoints t) ++ endTagOf n.toList, contentMode n.toList⟩ := by
    rw [← Reader.startTag_eq_opened hn, hinput, Reader.step_tag hc, heq, List.cons_append]
  obtain ⟨k, hk⟩ : ∃ k, 2 * ((inTags n.toList (toAscii (codePoints t))).length + 1) = k + 4 := by
    refine ⟨2 * (inTags n.toList (toAscii (codePoints t))).length - 2, ?_⟩
    rw [inTags, List.length_cons]
    omega
  have hcontent : Reader.content (2 * ((inTags n.toList (toAscii (codePoints t))).length + 1))
      ⟨{ settings }, inTags n.toList (toAscii (codePoints t)), .markup⟩ =
        ⟨((opened settings n.toList).addText (shownIn n.toList t)).close, [], .markup⟩ := by
    rw [hk, Reader.content_succ rfl (List.cons_ne_nil _ _), hfirst,
      Reader.content_succ rfl (by simp [endTagOf]), Reader.step_text hn hne ht,
      Reader.content_succ rfl (List.cons_ne_nil _ _), Reader.step_endTag hn]
    rfl
  have hbefore := Reader.before_tag (r := ⟨{ settings }, inTags n.toList (toAscii (codePoints t)), .markup⟩) hc
    hlower hinput ((inTags n.toList (toAscii (codePoints t))).length + 1)
  simp only [read, hbefore.1, hbefore.2, hcontent]
  rfl

end MarkupQuery.Html
