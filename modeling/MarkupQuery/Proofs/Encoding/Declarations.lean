import MarkupQuery.Encoding.Detection
import MarkupQuery.Proofs.Encoding.Bytes
import MarkupQuery.Proofs.Pattern.Language

/-!
# Declared encodings

What a declaration of an encoding looks like in a text: an instruction on the line that the text
starts with (`Instruction`), or a tag in the head of an HTML document (`MetaTag`). They are looked for
in the bytes, by patterns. Whatever the patterns find in the bytes of a text is there in the text, and
in the bytes no further than they are searched (`Declares`); a text that declares nothing has bytes in
which no encoding is found (`declaredEncoding?_utf8Bytes`).
-/

namespace MarkupQuery.Encoding

open MarkupQuery.Text
open MarkupQuery.Pattern (Node Greed Regex LanguageAll setMatches)

/-! ## Declarations -/

/-- The blanks of ASCII. -/
def isAsciiBlank (c : Char) : Bool := c == ' ' || (9 ≤ c.toNat && c.toNat ≤ 13)

/-- The quotation marks. -/
def quotes : Chars := ['\'', '"']

/-- What ends the name of an encoding in a tag. -/
def nameEnds : Chars := [' ', '/', ';', '\'', '"', '>']

/-- An instruction that sets an encoding. All of it stands on one line, blanks at the start apart. -/
structure Instruction where
  blanks : Chars
  before : Chars
  key : Chars
  opening : Char
  name : Chars
  closing : Char
  after : Chars
  all_blanks : ∀ c ∈ blanks, isAsciiBlank c = true
  lower_key : lowerAscii key = "encoding=".toList
  opening_mem : opening ∈ quotes
  closing_mem : closing ∈ quotes
  not_mem_before : '\n' ∉ before
  not_mem_name : '\n' ∉ name
  not_mem_after : '\n' ∉ after

/-- The text of an instruction. -/
def Instruction.text (i : Instruction) : Chars :=
  (i.blanks ++ ['<', '?']) ++ (i.before ++ ((i.key ++ [i.opening]) ++ (i.name ++ ([i.closing] ++
    (i.after ++ ['?', '>'])))))

/-- A tag that sets an encoding. It may go on after the name. -/
structure MetaTag where
  blanks : Chars
  word : Chars
  inner : Chars
  key : Chars
  keyBlanks : Chars
  valueBlanks : Chars
  quote : Chars
  name : Chars
  ending : Char
  all_blanks : ∀ c ∈ blanks ++ keyBlanks ++ valueBlanks, isAsciiBlank c = true
  lower_word : lowerAscii word = "meta".toList
  lower_key : lowerAscii key = "charset".toList
  length_quote : quote.length ≤ 1
  quote_mem : ∀ c ∈ quote, c ∈ quotes
  ending_mem : ending ∈ nameEnds
  inner_ne : inner ≠ []
  not_mem_inner : '>' ∉ inner
  not_mem_name : '>' ∉ name

/-- The text of a tag as far as the name of the encoding. -/
def MetaTag.text (t : MetaTag) : Chars :=
  (['<'] ++ t.blanks ++ t.word) ++ (t.inner ++ ((t.key ++ t.keyBlanks ++ ['='] ++ t.valueBlanks ++
    t.quote) ++ (t.name ++ [t.ending])))

/-- A text starts with an instruction that sets an encoding, within the first bytes. -/
def DeclaresAtStart (m : Chars) : Prop :=
  ∃ i : Instruction, i.text <+: m ∧ (utf8Chars i.text).length ≤ 1024

/-- A text has a tag that sets an encoding, near the start as bytes are counted. -/
def DeclaresInHead (m : Chars) : Prop :=
  ∃ (before : Chars) (t : MetaTag), before ++ t.text <+: m ∧
    (utf8Chars (before ++ t.text)).length ≤ max 2048 ((utf8Chars m).length / 20)

/-- A text declares an encoding. -/
def Declares (kind : Kind) (m : Chars) : Prop :=
  DeclaresAtStart m ∨ kind = .html ∧ DeclaresInHead m

/-! ## Letters in either case -/

theorem toNat_ofNat {n : Nat} (h : n < 0xd800) : (Char.ofNat n).toNat = n := by
  rw [Char.ofNat, dif_pos (.inl h)]
  rfl

theorem toNat_lowerAsciiChar (c : Char) :
    (lowerAsciiChar c).toNat = if 65 ≤ c.toNat ∧ c.toNat ≤ 90 then c.toNat + 32 else c.toNat := by
  have hletter : ('A' ≤ c && c ≤ 'Z') = decide (65 ≤ c.toNat ∧ c.toNat ≤ 90) :=
    (Bool.decide_and ..).symm
  simp only [lowerAsciiChar, hletter, decide_eq_true_eq]
  split
  · rw [toNat_ofNat (by omega)]
  · rfl

theorem toNat_upperAsciiChar (c : Char) :
    (upperAsciiChar c).toNat = if 97 ≤ c.toNat ∧ c.toNat ≤ 122 then c.toNat - 32 else c.toNat := by
  have hletter : ('a' ≤ c && c ≤ 'z') = decide (97 ≤ c.toNat ∧ c.toNat ≤ 122) :=
    (Bool.decide_and ..).symm
  simp only [upperAsciiChar, hletter, decide_eq_true_eq]
  split
  · rw [toNat_ofNat (by omega)]
  · rfl

/-- A character with a lower case letter as one of its forms has that letter as its lower case. -/
theorem lowerAsciiChar_of_form {c k : Char} (hk : lowerAsciiChar k = k)
    (h : lowerAsciiChar c = k ∨ upperAsciiChar c = k) : lowerAsciiChar c = k := by
  rcases h with h | h
  · exact h
  · have hk := toNat_lowerAsciiChar k
    have hc := toNat_lowerAsciiChar c
    have hup := toNat_upperAsciiChar c
    apply Char.toNat_inj.mp
    rw [h] at hup
    rw [‹lowerAsciiChar k = k›] at hk
    split at hk <;> split at hc <;> split at hup <;> omega

theorem isAscii_of_lowerAsciiChar {c : Char} (h : isAscii (lowerAsciiChar c) = true) :
    isAscii c = true := by
  simp only [isAscii, toNat_lowerAsciiChar, decide_eq_true_eq] at h ⊢
  split at h <;> omega

/-- A character whose lower case is no letter is that character. -/
theorem eq_of_lowerAsciiChar {c k : Char} (h : lowerAsciiChar c = k) (hk : upperAsciiChar k = k) :
    c = k := by
  have hc := toNat_lowerAsciiChar c
  have hk := hk ▸ toNat_upperAsciiChar k
  rw [h] at hc
  apply Char.toNat_inj.mp
  split at hc <;> split at hk <;> omega

/-! ## The patterns -/

/-- One character out of some, letters in either case. -/
def oneOf (negated : Bool) (ks : Chars) : Node :=
  .chars negated (ks.map fun k => .one k.toNat) declarationFlags

/-- A word, letters in either case. -/
def literals (ks : Chars) : List Node := ks.map fun k => oneOf false [k]

/-- Blanks, as many as there are. -/
def anyBlanks : Node := .repeated .greedy 0 none (.chars false [.category .space false] declarationFlags)

/-- Any text on one line. -/
def anyLine (greed : Greed) : Node := .repeated greed 0 none (.anyChar false)

/-- A character matches such a set if its lower case or its upper case is in it. -/
theorem setMatches_oneOf {negated : Bool} {ks : Chars} {c : Char} :
    setMatches negated (ks.map fun k => .one k.toNat) declarationFlags c =
      ((ks.any fun k => lowerAsciiChar c == k || upperAsciiChar c == k) != negated) := by
  have hform (k d : Char) : (d.toNat == k.toNat) = (d == k) := by
    rw [Bool.eq_iff_iff, beq_iff_eq, beq_iff_eq, Char.toNat_inj]
  simp [setMatches, Pattern.caseForms, Pattern.SetItem.holds, declarationFlags, List.any_map,
    Function.comp_def, hform]

section

variable {ks : Chars} (hks : ∀ k ∈ ks, lowerAsciiChar k = k)

include hks

theorem lowerAsciiChar_mem_of_setMatches {c : Char}
    (h : setMatches false (ks.map fun k => .one k.toNat) declarationFlags c = true) :
    lowerAsciiChar c ∈ ks := by
  rw [setMatches_oneOf, Bool.bne_false, List.any_eq_true] at h
  obtain ⟨k, hk, hc⟩ := h
  rw [Bool.or_eq_true, beq_iff_eq, beq_iff_eq] at hc
  exact lowerAsciiChar_of_form (hks k hk) hc ▸ hk

theorem mem_of_setMatches (hupper : ∀ k ∈ ks, upperAsciiChar k = k) {c : Char}
    (h : setMatches false (ks.map fun k => .one k.toNat) declarationFlags c = true) : c ∈ ks := by
  have hmem := lowerAsciiChar_mem_of_setMatches hks h
  exact eq_of_lowerAsciiChar rfl (hupper _ hmem) ▸ hmem

/-- Repeating any other characters leaves those of the set out. -/
theorem not_mem_of_repeated_oneOf {greed : Greed} {least : Nat} {most : Option Nat} {w : Chars}
    (h : (Node.repeated greed least most (oneOf true ks)).Language w) {k : Char} (hk : k ∈ ks) :
    k ∉ w := by
  intro hmem
  have hmatches := (Node.all_of_language_repeated rfl h).1 k hmem
  rw [setMatches_oneOf] at hmatches
  have hany : (ks.any fun k' => lowerAsciiChar k == k' || upperAsciiChar k == k') = true :=
    List.any_eq_true.mpr ⟨k, hk, by simp [hks k hk]⟩
  rw [hany] at hmatches
  cases hmatches

/-- Words come first, letters in either case. -/
theorem languageAll_literals {ns : List Node} {w : Chars} (h : LanguageAll (literals ks ++ ns) w) :
    ∃ u v, w = u ++ v ∧ lowerAscii u = ks ∧ LanguageAll ns v := by
  induction ks generalizing w with
  | nil => exact ⟨[], w, rfl, rfl, h⟩
  | cons k ks ih =>
    obtain ⟨hk, hks⟩ := List.forall_mem_cons.mp hks
    obtain ⟨_, v, rfl, ⟨c, rfl, hc⟩, hv⟩ := h
    have hc : lowerAsciiChar c ∈ [k] := lowerAsciiChar_mem_of_setMatches (by simpa using hk) hc
    obtain ⟨u, v, rfl, hu, hv⟩ := ih hks hv
    refine ⟨c :: u, v, rfl, ?_, hv⟩
    rw [lowerAscii, List.map_cons, List.mem_singleton.mp hc]
    exact congrArg (k :: ·) hu

end

theorem all_blanks_of_anyBlanks {w : Chars} (h : anyBlanks.Language w) :
    ∀ c ∈ w, isAsciiBlank c = true := by
  intro c hc
  have hmatches := (Node.all_of_language_repeated rfl h).1 c hc
  simpa [setMatches, Pattern.SetItem.holds, Pattern.CharClass.holds, declarationFlags,
    isAsciiBlank] using hmatches

theorem not_mem_of_anyLine {greed : Greed} {w : Chars} (h : (anyLine greed).Language w) :
    '\n' ∉ w := fun hmem => by
  simpa using (Node.all_of_language_repeated rfl h).1 _ hmem

/-- The form of an instruction. -/
def instructionNode : Node :=
  .sequence (.anchor (.lineStart false) :: anyBlanks :: (literals ['<', '?'] ++ anyLine .greedy ::
    (literals "encoding=".toList ++ oneOf false quotes :: .group 1 (.sequence [anyLine .reluctant]) ::
      oneOf false quotes :: anyLine .greedy :: literals ['?', '>'])))

/-- The form of a tag. -/
def metaNode : Node :=
  .sequence (literals ['<'] ++ anyBlanks :: (literals "meta".toList ++
    .repeated .greedy 1 none (oneOf true ['>']) :: (literals "charset".toList ++ anyBlanks ::
      (literals ['='] ++ anyBlanks :: .repeated .greedy 0 (some 1) (oneOf false quotes.reverse) ::
        .group 1 (.sequence [.repeated .reluctant 0 none (oneOf true ['>'])]) ::
          [oneOf false nameEnds]))))

theorem xmlDeclaration_body : xmlDeclaration.body = instructionNode :=
  Node.eq_of_isSame _ (by decide +kernel)

theorem metaDeclaration_body : metaDeclaration.body = metaNode :=
  Node.eq_of_isSame _ (by decide +kernel)

/-- Words whose letters have no case are told by their lower case. -/
theorem eq_of_lowerAscii {w ks : Chars} (h : lowerAscii w = ks) (hks : ∀ k ∈ ks, upperAsciiChar k = k) :
    w = ks := by
  subst h
  induction w with
  | nil => rfl
  | cons c w ih =>
    obtain ⟨hc, hw⟩ := List.forall_mem_cons.mp hks
    exact List.cons_eq_cons.mpr ⟨eq_of_lowerAsciiChar rfl hc, ih hw⟩

/-- What has the form of an instruction is an instruction. -/
theorem exists_instruction {w : Chars} (h : instructionNode.Language w) :
    ∃ i : Instruction, i.text = w := by
  obtain ⟨_, _, rfl, rfl, blanks, _, rfl, hblanks, h⟩ := h
  obtain ⟨start, _, rfl, hstart, before, _, rfl, hbefore, h⟩ :=
    languageAll_literals (by decide) h
  obtain ⟨key, _, rfl, hkey, _, _, rfl, ⟨opening, rfl, hopening⟩, _, _, rfl,
    ⟨name, _, rfl, hname, rfl⟩, _, _, rfl, ⟨closing, rfl, hclosing⟩, after, _, rfl, hafter, h⟩ :=
    languageAll_literals (by decide) h
  rw [← List.append_nil (literals _)] at h
  obtain ⟨stop, _, rfl, hstop, rfl⟩ := languageAll_literals (by decide) h
  obtain rfl := eq_of_lowerAscii hstart (by decide)
  obtain rfl := eq_of_lowerAscii hstop (by decide)
  refine ⟨⟨blanks, before, key, opening, name, closing, after, all_blanks_of_anyBlanks hblanks, hkey,
    mem_of_setMatches (by decide) (by decide) hopening,
    mem_of_setMatches (by decide) (by decide) hclosing, not_mem_of_anyLine hbefore, not_mem_of_anyLine hname,
    not_mem_of_anyLine hafter⟩, ?_⟩
  simp [Instruction.text]

/-- What has the form of a tag is a tag. -/
theorem exists_metaTag {w : Chars} (h : metaNode.Language w) : ∃ t : MetaTag, t.text = w := by
  obtain ⟨start, _, rfl, hstart, blanks, _, rfl, hblanks, h⟩ :=
    languageAll_literals (by decide) h
  obtain ⟨word, _, rfl, hword, inner, _, rfl, hinner, h⟩ :=
    languageAll_literals (by decide) h
  obtain ⟨key, _, rfl, hkey, keyBlanks, _, rfl, hkeyBlanks, h⟩ :=
    languageAll_literals (by decide) h
  obtain ⟨sign, _, rfl, hsign, valueBlanks, _, rfl, hvalueBlanks, quote, _, rfl, hquote, _, _, rfl,
    ⟨name, _, rfl, hname, rfl⟩, _, _, rfl, ⟨ending, rfl, hending⟩, rfl⟩ :=
    languageAll_literals (by decide) h
  obtain rfl := eq_of_lowerAscii hstart (by decide)
  obtain rfl := eq_of_lowerAscii hsign (by decide)
  obtain ⟨hquotes, -, hlength⟩ := Node.all_of_language_repeated rfl hquote
  have hne := (Node.all_of_language_repeated rfl hinner).2.1
  refine ⟨{
    blanks, word, inner, key, keyBlanks, valueBlanks, quote, name, ending
    all_blanks := by
      simp only [List.forall_mem_append]
      exact ⟨⟨all_blanks_of_anyBlanks hblanks, all_blanks_of_anyBlanks hkeyBlanks⟩,
        all_blanks_of_anyBlanks hvalueBlanks⟩
    lower_word := hword
    lower_key := hkey
    length_quote := hlength 1 rfl
    quote_mem := fun c hc =>
      List.mem_reverse.mp (mem_of_setMatches (by decide) (by decide) (hquotes c hc))
    ending_mem := mem_of_setMatches (by decide) (by decide) hending
    inner_ne := List.length_pos_iff.mp hne
    not_mem_inner := not_mem_of_repeated_oneOf (by decide) hinner (by decide)
    not_mem_name := not_mem_of_repeated_oneOf (by decide) hname (by decide) }, ?_⟩
  simp [MetaTag.text]

/-! ## From the bytes to the text -/

theorem isAscii_of_isAsciiBlank {c : Char} (h : isAsciiBlank c = true) : isAscii c = true := by
  simp only [isAsciiBlank, isAscii, Bool.or_eq_true, Bool.and_eq_true, beq_iff_eq,
    decide_eq_true_eq] at h ⊢
  rcases h with rfl | h
  · decide
  · omega

theorem isAscii_of_lowerAscii {w : Chars} (h : ∀ c ∈ lowerAscii w, isAscii c = true) :
    ∀ c ∈ w, isAscii c = true :=
  fun _ hc => isAscii_of_lowerAsciiChar (h _ (List.mem_map_of_mem hc))

theorem isAscii_of_mem_quotes {c : Char} (h : c ∈ quotes) : isAscii c = true :=
  (by decide : ∀ c ∈ quotes, isAscii c = true) c h

/-- An instruction in the bytes of a text is there in the text. -/
theorem Instruction.exists_of_utf8Chars {i : Instruction} {cs z : Chars}
    (h : utf8Chars cs = i.text ++ z) :
    ∃ j : Instruction, j.text <+: cs ∧ utf8Chars j.text = i.text := by
  have hkey : ∀ c ∈ i.key ++ [i.opening], isAscii c = true := by
    refine List.forall_mem_append.mpr ⟨isAscii_of_lowerAscii (i.lower_key ▸ by decide), ?_⟩
    simpa using isAscii_of_mem_quotes i.opening_mem
  have hblanks : ∀ c ∈ i.blanks ++ ['<', '?'], isAscii c = true :=
    List.forall_mem_append.mpr ⟨fun c hc => isAscii_of_isAsciiBlank (i.all_blanks c hc), by decide⟩
  have hclosing : ∀ c ∈ [i.closing], isAscii c = true := by
    simpa using isAscii_of_mem_quotes i.closing_mem
  have hline {w v : Chars} (hw : '\n' ∉ w) (hv : utf8Chars v = w) : '\n' ∉ v := fun hmem =>
    hw (hv ▸ mem_utf8Chars (by decide) hmem)
  have hparts : utf8Chars cs = (i.blanks ++ ['<', '?']) ++ (i.before ++ ((i.key ++ [i.opening]) ++
      (i.name ++ ([i.closing] ++ (i.after ++ (['?', '>'] ++ z)))))) := by
    rw [h, Instruction.text]
    simp only [List.append_assoc]
  -- parts in ASCII are their own bytes, so the text falls apart where its bytes do
  obtain ⟨cs, rfl, hcs⟩ := exists_of_utf8Chars_eq_append hblanks hparts
  obtain ⟨before, cs, rfl, hbefore, hcs⟩ := exists_of_utf8Chars_eq hkey (by simp) hcs
  obtain ⟨name, cs, rfl, hname, hcs⟩ := exists_of_utf8Chars_eq hclosing (by simp) hcs
  obtain ⟨after, cs, rfl, hafter, rfl⟩ := exists_of_utf8Chars_eq (by decide) (by simp) hcs
  let j : Instruction := { i with
    before, name, after
    not_mem_before := hline i.not_mem_before hbefore
    not_mem_name := hline i.not_mem_name hname
    not_mem_after := hline i.not_mem_after hafter }
  have hj : j.text ++ cs = (i.blanks ++ ['<', '?']) ++ (before ++ ((i.key ++ [i.opening]) ++ (name ++
      ([i.closing] ++ (after ++ (['?', '>'] ++ cs)))))) := by
    simp only [Instruction.text, List.append_assoc]
    rfl
  rw [← hj] at h ⊢
  refine ⟨j, List.prefix_append _ _, ?_⟩
  rw [utf8Chars_append] at h
  exact List.append_cancel_right h

/-- A tag in the bytes of a text is there in the text. -/
theorem MetaTag.exists_of_utf8Chars {t : MetaTag} {cs x z : Chars}
    (h : utf8Chars cs = x ++ t.text ++ z) :
    ∃ (before : Chars) (u : MetaTag), before ++ u.text <+: cs ∧
      utf8Chars (before ++ u.text) = x ++ t.text := by
  obtain ⟨hblanks, hvalueBlanks⟩ := List.forall_mem_append.mp t.all_blanks
  obtain ⟨hblanks, hkeyBlanks⟩ := List.forall_mem_append.mp hblanks
  have hblank {w : Chars} (hw : ∀ c ∈ w, isAsciiBlank c = true) : ∀ c ∈ w, isAscii c = true :=
    fun c hc => isAscii_of_isAsciiBlank (hw c hc)
  have hword : ∀ c ∈ ['<'] ++ t.blanks ++ t.word, isAscii c = true := by
    simp only [List.forall_mem_append]
    exact ⟨⟨by decide, hblank hblanks⟩, isAscii_of_lowerAscii (t.lower_word ▸ by decide)⟩
  have hkey : ∀ c ∈ t.key ++ t.keyBlanks ++ ['='] ++ t.valueBlanks ++ t.quote, isAscii c = true := by
    simp only [List.forall_mem_append]
    exact ⟨⟨⟨⟨isAscii_of_lowerAscii (t.lower_key ▸ by decide), hblank hkeyBlanks⟩,
      by decide⟩, hblank hvalueBlanks⟩, fun c hc => isAscii_of_mem_quotes (t.quote_mem c hc)⟩
  have hending : ∀ c ∈ [t.ending], isAscii c = true := by
    simpa using (by decide : ∀ c ∈ nameEnds, isAscii c = true) _ t.ending_mem
  have hinside {w v : Chars} (hw : '>' ∉ w) (hv : utf8Chars v = w) : '>' ∉ v := fun hmem =>
    hw (hv ▸ mem_utf8Chars (by decide) hmem)
  have hparts : utf8Chars cs = x ++ ((['<'] ++ t.blanks ++ t.word) ++ (t.inner ++ ((t.key ++
      t.keyBlanks ++ ['='] ++ t.valueBlanks ++ t.quote) ++ (t.name ++ ([t.ending] ++ z))))) := by
    rw [h, MetaTag.text]
    simp only [List.append_assoc]
  -- parts in ASCII are their own bytes, so the text falls apart where its bytes do
  obtain ⟨before, cs, rfl, hbefore, hcs⟩ := exists_of_utf8Chars_eq hword (by simp) hparts
  obtain ⟨inner, cs, rfl, hinner, hcs⟩ := exists_of_utf8Chars_eq hkey (by simp) hcs
  obtain ⟨name, cs, rfl, hname, rfl⟩ := exists_of_utf8Chars_eq hending (by simp) hcs
  let u : MetaTag := { t with
    inner, name
    inner_ne := fun hnil => t.inner_ne (by rw [← hinner, hnil, utf8Chars_nil])
    not_mem_inner := hinside t.not_mem_inner hinner
    not_mem_name := hinside t.not_mem_name hname }
  have hu : before ++ u.text ++ cs = before ++ ((['<'] ++ t.blanks ++ t.word) ++ (inner ++ ((t.key ++
      t.keyBlanks ++ ['='] ++ t.valueBlanks ++ t.quote) ++ (name ++ ([t.ending] ++ cs))))) := by
    simp only [MetaTag.text, List.append_assoc]
    rfl
  rw [← hu] at h ⊢
  refine ⟨before, u, List.prefix_append _ _, ?_⟩
  rw [utf8Chars_append] at h
  exact List.append_cancel_right h

/-! ## Texts that declare nothing -/

/-- Without the sign that gives a value there is no declaration. -/
theorem not_declares_of_not_mem {kind : Kind} {m : Chars} (h : '=' ∉ m) : ¬ Declares kind m := by
  rintro (⟨i, hfirst, -⟩ | ⟨-, before, t, hfirst, -⟩)
  · refine h (hfirst.subset ?_)
    have hkey : '=' ∈ lowerAscii i.key := i.lower_key ▸ by decide
    obtain ⟨c, hc, hlower⟩ := List.mem_map.mp hkey
    rw [eq_of_lowerAsciiChar hlower (by decide)] at hc
    simp [Instruction.text, hc]
  · exact h (hfirst.subset (by simp [MetaTag.text]))

/-- The match of a pattern that has a group takes a word. -/
theorem exists_of_firstGroup? {r : Regex} {n : Node} (hbody : r.body = n) {text name : Chars}
    (h : firstGroup? r text = some name) :
    ∃ gap m q w, r.search text (.atStart text) false [] = some (gap, m, q) ∧
      text = gap ++ w ++ q.rest ∧ n.Language w := by
  rw [firstGroup?] at h
  split at h
  · next gap m q hsearch =>
    obtain ⟨w, htext, hw⟩ := Regex.search_takes hsearch
    exact ⟨gap, m, q, w, hsearch, htext, hbody ▸ hw⟩
  · cases h

/-- What stands in the first part of a text stands in the text. -/
theorem append_of_take_eq {text x y : Chars} {n : Nat} (h : text.take n = x ++ y) :
    text = x ++ (y ++ text.drop n) ∧ x.length ≤ n := by
  refine ⟨by rw [← List.append_assoc, ← h, List.take_append_drop], ?_⟩
  have hlength := congrArg List.length h
  rw [List.length_take, List.length_append] at hlength
  omega

/-- In the bytes of a text that does not start with an instruction none is found. -/
theorem firstGroup?_xmlDeclaration {m : Chars} (h : ¬ DeclaresAtStart m) :
    firstGroup? xmlDeclaration ((utf8Chars m).take 1024) = none := by
  refine Option.eq_none_iff_forall_ne_some.mpr fun name hname => h ?_
  obtain ⟨gap, found, q, w, hsearch, htext, hw⟩ := exists_of_firstGroup? xmlDeclaration_body hname
  obtain rfl := Regex.gap_of_lineStart xmlDeclaration_body hsearch
  obtain ⟨i, rfl⟩ := exists_instruction hw
  obtain ⟨htext, hlength⟩ := append_of_take_eq htext
  obtain ⟨j, hfirst, hj⟩ := Instruction.exists_of_utf8Chars htext
  exact ⟨j, hfirst, hj ▸ hlength⟩

/-- In the bytes of a text without such a tag none is found. -/
theorem firstGroup?_metaDeclaration {m : Chars} (h : ¬ DeclaresInHead m) :
    firstGroup? metaDeclaration
      ((utf8Chars m).take (max 2048 ((utf8Chars m).length / 20))) = none := by
  refine Option.eq_none_iff_forall_ne_some.mpr fun name hname => h ?_
  obtain ⟨gap, found, q, w, -, htext, hw⟩ := exists_of_firstGroup? metaDeclaration_body hname
  obtain ⟨t, rfl⟩ := exists_metaTag hw
  obtain ⟨htext, hlength⟩ := append_of_take_eq htext
  obtain ⟨before, u, hfirst, hu⟩ := MetaTag.exists_of_utf8Chars htext
  exact ⟨before, u, hfirst, hu ▸ hlength⟩

/-- In the bytes of a text that declares nothing no encoding is found. -/
theorem declaredEncoding?_utf8Bytes {kind : Kind} {m : String} (h : ¬ Declares kind m.toList) :
    declaredEncoding? (utf8Bytes m) kind = none := by
  rw [Declares, not_or, not_and] at h
  have htext : (utf8Bytes m).map (fun b => Char.ofNat b.toNat) = utf8Chars m.toList := by
    rw [utf8Chars, ← utf8Bytes_ofList, String.ofList_toList]
  have hhead : (if kind = .html then firstGroup? metaDeclaration
      ((utf8Chars m.toList).take (max 2048 ((utf8Chars m.toList).length / 20))) else none) = none := by
    split
    · next hkind => exact firstGroup?_metaDeclaration (h.2 hkind)
    · rfl
  simp only [declaredEncoding?, htext, firstGroup?_xmlDeclaration h.1, hhead]

end MarkupQuery.Encoding
