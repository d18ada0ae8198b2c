import MarkupQuery.Transcoding
import MarkupQuery.Html.Builder
import MarkupQuery.Html.Reference

/-!
# Reduced to ASCII and resolved

HTML reaches its parser in ASCII, every other character as a numeric reference. Where references are resolved
this is undone, character by character, for every text without markup and without codes that numeric references
cannot name (`resolve_toAscii`). Where they are not, it is seen: only a text in ASCII is left as it is
(`toAscii_codePoints_eq_self_iff`).
-/

namespace MarkupQuery.Html

open MarkupQuery.Text

variable {c d : Char} {n : Nat} {s t : Chars}

/-! ## Ordinary characters -/

/-- A character that is no markup and no blank and that a numeric reference can name. The references to the
codes from 128 to 159 and to zero stand for something else. -/
def isOrdinary (c : Char) : Bool :=
  !isHtmlBlank c && c != '<' && c != '&' && c != '\x00' && !(128 ≤ c.toNat && c.toNat < 160)

theorem le_of_inRanges_alphanumericRanges (h : inRanges alphanumericRanges n = true) : 160 ≤ n := by
  have hall : alphanumericRanges.all (fun r => 160 ≤ r.1) = true := by decide +kernel
  obtain ⟨r, hr, hn⟩ := List.any_eq_true.mp h
  have hfirst := List.all_eq_true.mp hall r hr
  rw [Bool.and_eq_true, decide_eq_true_eq] at hn
  rw [decide_eq_true_eq] at hfirst
  omega

/-- Letters and numbers of every script are ordinary. -/
theorem isOrdinary_of_isAlphanumeric (h : isAlphanumeric c = true) : isOrdinary c = true := by
  have hplain : ∀ d ∈ [' ', '\t', '\n', '\r', '\x0c', '<', '&', '\x00'], c ≠ d := by
    rintro d hd rfl
    revert h
    revert c
    decide
  have hcode : ¬(128 ≤ c.toNat ∧ c.toNat < 160) := by
    rintro ⟨hlow, hhigh⟩
    rw [isAlphanumeric, if_neg (by omega)] at h
    have := le_of_inRanges_alphanumericRanges h
    omega
  simp only [List.forall_mem_cons] at hplain
  simp [isOrdinary, isHtmlBlank, hplain]
  omega

/-! ## Numbers -/

theorem isAsciiDigit_eq_isDigit (c : Char) : isAsciiDigit c = c.isDigit := by
  rfl

theorem getD_hexValue?_of_isDigit (h : c.isDigit = true) : (hexValue? c).getD 0 = c.toNat - '0'.toNat := by
  rw [hexValue?, isAsciiDigit_eq_isDigit, if_pos h]
  rfl

/-- Digits are read as the number they write, up to the bound. -/
theorem foldl_capped (hs : ∀ c ∈ s, c.isDigit = true) (n : Nat) :
    s.foldl (fun n c => min (n * 10 + (hexValue? c).getD 0) 0x110000) (min n 0x110000) =
      min (Nat.ofDigitChars 10 s n) 0x110000 := by
  induction s generalizing n with
  | nil => rfl
  | cons c s ih =>
    rw [List.forall_mem_cons] at hs
    have hstep : min (min n 0x110000 * 10 + (c.toNat - '0'.toNat)) 0x110000 =
        min (10 * n + (c.toNat - '0'.toNat)) 0x110000 := by
      omega
    rw [List.foldl_cons, getD_hexValue?_of_isDigit hs.1, hstep, ih hs.2, Nat.ofDigitChars_cons]

theorem isDigit_of_mem_toDigits (h : c ∈ Nat.toDigits 10 n) : c.isDigit = true :=
  Nat.isDigit_of_mem_toDigits (by decide) (by decide) h

theorem cappedValue_toDigits (n : Nat) : cappedValue 10 (Nat.toDigits 10 n) = min n 0x110000 := by
  have hfold := foldl_capped (s := Nat.toDigits 10 n) (fun _ => isDigit_of_mem_toDigits) 0
  rw [Nat.ofDigitChars_ten_toDigits] at hfold
  exact hfold

/-- A decimal reference is read as its number. -/
theorem numericReference?_toDigits (n : Nat) (s : Chars) :
    numericReference? (Nat.toDigits 10 n ++ ';' :: s) = some (numbered (min n 0x110000), s) := by
  have hall : ∀ c ∈ Nat.toDigits 10 n, isAsciiDigit c = true := fun c hc =>
    (isAsciiDigit_eq_isDigit c).trans (isDigit_of_mem_toDigits hc)
  have htake : (Nat.toDigits 10 n ++ ';' :: s).takeWhile isAsciiDigit = Nat.toDigits 10 n := by
    rw [List.takeWhile_append_of_pos hall, List.takeWhile_cons_of_neg (by decide), List.append_nil]
  have hdrop : (Nat.toDigits 10 n ++ ';' :: s).dropWhile isAsciiDigit = ';' :: s := by
    rw [List.dropWhile_append_of_pos hall, List.dropWhile_cons_of_neg (by decide)]
  have hvalue := cappedValue_toDigits n
  obtain ⟨d, ds, hdigits⟩ := List.exists_cons_of_ne_nil (Nat.toDigits_ne_nil (n := n) (b := 10))
  rw [hdigits] at hall htake hdrop hvalue ⊢
  have hd := hall d (List.mem_cons_self ..)
  rw [numericReference?]
  · simp only [htake, hdrop, hvalue, List.isEmpty_cons, Bool.false_eq_true, if_false]
  -- it is no hexadecimal reference
  · rintro r heq
    obtain ⟨rfl, -⟩ := List.cons.inj heq
    exact absurd hd (by decide)
  · rintro r heq
    obtain ⟨rfl, -⟩ := List.cons.inj heq
    exact absurd hd (by decide)

/-- The number of an ordinary character stands for it. -/
theorem numbered_toNat (h : isOrdinary c = true) : numbered (min c.toNat 0x110000) = c := by
  have hvalid := c.valid
  simp only [isOrdinary, Bool.and_eq_true, Bool.not_eq_true', bne_iff_ne, ne_eq, Bool.and_eq_false_iff,
    decide_eq_false_iff_not] at h
  obtain ⟨⟨-, hzero⟩, hold⟩ := h
  have hzero : c.toNat ≠ 0 := fun heq => hzero (Char.toNat_inj.mp heq)
  have hscalar : c.toNat < 0xd800 ∨ 0xdfff < c.toNat ∧ c.toNat < 0x110000 := hvalid
  have hmin : min c.toNat 0x110000 = c.toNat := by omega
  rw [hmin, numbered, if_neg (by simp; omega), if_neg (by simp; omega), Char.ofNat_toNat]

/-! ## Texts -/

theorem toAscii_codePoints_cons (c : Char) (t : Chars) :
    toAscii (codePoints (c :: t)) = asciiUnit c.toNat ++ toAscii (codePoints t) :=
  List.flatMap_cons

theorem ne_of_isOrdinary (hc : isOrdinary c = true) (hd : isOrdinary d = false) : c ≠ d := by
  rintro rfl
  rw [hc] at hd
  cases hd

/-- An ordinary character is kept where references are resolved. -/
theorem resolve_cons (h : isOrdinary c = true) (inAttribute : Bool) (fuel : Nat) (s : Chars) :
    resolve inAttribute (fuel + 1) (c :: s) = c :: resolve inAttribute fuel s := by
  have hamp : c ≠ '&' := ne_of_isOrdinary h (by decide)
  have hreturn : c ≠ '\r' := ne_of_isOrdinary h (by decide)
  have hzero : c ≠ '\x00' := ne_of_isOrdinary h (by decide)
  rw [resolve]
  · exact fun heq => hamp heq
  · exact fun r heq _ => hreturn heq
  · exact fun heq => hreturn heq
  · exact fun heq => hzero heq

theorem resolve_asciiUnit (h : isOrdinary c = true) (inAttribute : Bool) (fuel : Nat) (s : Chars) :
    resolve inAttribute (fuel + 1) (asciiUnit c.toNat ++ s) = c :: resolve inAttribute fuel s := by
  rw [asciiUnit]
  split
  · rw [Char.ofNat_toNat]
    exact resolve_cons h inAttribute fuel s
  · have hunit : numericReference c.toNat ++ s = '&' :: '#' :: (Nat.toDigits 10 c.toNat ++ ';' :: s) := by
      simp [numericReference]
    rw [hunit, resolve, reference?, numericReference?_toDigits, numbered_toNat h]
    rfl

/-- An ordinary text is what its ASCII form is resolved to. -/
theorem resolve_toAscii (ht : ∀ c ∈ t, isOrdinary c = true) (inAttribute : Bool) {fuel : Nat}
    (hfuel : t.length ≤ fuel) : resolve inAttribute fuel (toAscii (codePoints t)) = t := by
  induction t generalizing fuel with
  | nil => cases fuel <;> rfl
  | cons c t ih =>
    obtain ⟨fuel, rfl⟩ : ∃ k, fuel = k + 1 := ⟨fuel - 1, by rw [List.length_cons] at hfuel; omega⟩
    rw [List.forall_mem_cons] at ht
    rw [toAscii_codePoints_cons, resolve_asciiUnit ht.1, ih ht.2 (Nat.le_of_succ_le_succ hfuel)]

/-! ## Where references are not resolved -/

theorem toNat_lt_of_isDigit (h : c.isDigit = true) : c.toNat < 128 := by
  rw [Char.isDigit, Bool.and_eq_true, decide_eq_true_eq, decide_eq_true_eq] at h
  have hnine : c.toNat ≤ 57 := h.2
  omega

theorem isOrdinary_of_isDigit (h : c.isDigit = true) : isOrdinary c = true := by
  refine isOrdinary_of_isAlphanumeric ?_
  rw [isAlphanumeric, if_pos (toNat_lt_of_isDigit h), isAsciiDigit_eq_isDigit, h, Bool.or_true]

/-- A reference holds no markup but its ampersand, and is in ASCII. -/
theorem mem_numericReference (h : d ∈ numericReference n) :
    (isOrdinary d = true ∨ d = '&') ∧ d.toNat < 128 := by
  simp only [numericReference, List.cons_append, List.mem_cons, List.mem_append, List.not_mem_nil, or_false] at h
  rcases h with rfl | rfl | hd | rfl
  · decide
  · decide
  · have hdigit := isDigit_of_mem_toDigits hd
    exact ⟨.inl (isOrdinary_of_isDigit hdigit), toNat_lt_of_isDigit hdigit⟩
  · decide

/-- The ASCII form of an ordinary text holds no markup but references. -/
theorem mem_toAscii (ht : ∀ c ∈ t, isOrdinary c = true) (h : d ∈ toAscii (codePoints t)) :
    isOrdinary d = true ∨ d = '&' := by
  obtain ⟨n, hn, hd⟩ := List.mem_flatMap.mp h
  obtain ⟨c, hc, rfl⟩ := List.mem_map.mp hn
  rw [asciiUnit] at hd
  split at hd
  · rw [Char.ofNat_toNat, List.mem_singleton] at hd
    exact .inl (hd ▸ ht c hc)
  · exact (mem_numericReference hd).1

theorem toNat_ofNat_of_lt (h : n < 128) : (Char.ofNat n).toNat = n := by
  have hvalid : n.isValidChar := .inl (by omega)
  rw [Char.ofNat, dif_pos hvalid]
  rfl

/-- The ASCII form of markup is in ASCII. -/
theorem toNat_lt_of_mem_toAscii {m : CodePoints} (h : d ∈ toAscii m) : d.toNat < 128 := by
  obtain ⟨n, -, hd⟩ := List.mem_flatMap.mp h
  rw [asciiUnit] at hd
  split at hd
  · next hn =>
    rw [List.mem_singleton] at hd
    rw [hd, toNat_ofNat_of_lt hn]
    exact hn
  · exact (mem_numericReference hd).2

/-- Only a text in ASCII is its own ASCII form. -/
theorem toAscii_codePoints_eq_self_iff : toAscii (codePoints t) = t ↔ ∀ c ∈ t, c.toNat < 128 := by
  constructor
  · intro h c hc
    rw [← h] at hc
    exact toNat_lt_of_mem_toAscii hc
  · intro h
    induction t with
    | nil => rfl
    | cons c t ih =>
      rw [List.forall_mem_cons] at h
      rw [toAscii_codePoints_cons, ih h.2, asciiUnit, if_pos h.1, Char.ofNat_toNat, List.singleton_append]

/-- Every character has a place in the ASCII form. -/
theorem length_le_toAscii (t : Chars) : t.length ≤ (toAscii (codePoints t)).length := by
  induction t with
  | nil => exact Nat.le_refl 0
  | cons c t ih =>
    have hunit : 0 < (asciiUnit c.toNat).length := by
      rw [asciiUnit]
      split <;> simp [numericReference]
    rw [toAscii_codePoints_cons, List.length_append, List.length_cons]
    omega

end MarkupQuery.Html
