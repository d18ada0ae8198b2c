import MarkupQuery.Encoding.Unicode

/-!
# The bytes of a text

A text in UTF-8 is looked at byte by byte, every byte taken for a character of its own. The characters
of ASCII are their own bytes, and the bytes of all others lie beyond ASCII; so whatever is found in
the bytes with ASCII at its ends is there in the text (`exists_of_utf8Chars_eq`). The values 254 and 255
never occur.
-/

namespace MarkupQuery.Encoding

open MarkupQuery.Text

/-! ## Single characters -/

/-- The characters of ASCII. -/
def isAscii (c : Char) : Bool := c.toNat < 128

theorem utf8EncodeChar_of_isAscii {c : Char} (h : isAscii c = true) :
    String.utf8EncodeChar c = [UInt8.ofNat c.toNat] := by
  have hc : c.val.toNat < 128 := of_decide_eq_true h
  rw [String.utf8EncodeChar, if_pos (by omega)]
  rfl

/-- The bytes of a character beyond ASCII. -/
theorem bounds_of_mem_utf8EncodeChar {c : Char} (h : isAscii c = false) {b : UInt8}
    (hb : b ∈ String.utf8EncodeChar c) : 128 ≤ b.toNat ∧ b.toNat < 254 := by
  have hc : 128 ≤ c.val.toNat := Nat.not_lt.mp (of_decide_eq_false h)
  rw [String.utf8EncodeChar, if_neg (by omega)] at hb
  split at hb
  · simp only [List.mem_cons, List.not_mem_nil, or_false] at hb
    rcases hb with rfl | rfl <;> rw [UInt8.toNat_ofNat'] <;> omega
  · split at hb
    · simp only [List.mem_cons, List.not_mem_nil, or_false] at hb
      rcases hb with rfl | rfl | rfl <;> rw [UInt8.toNat_ofNat'] <;> omega
    · simp only [List.mem_cons, List.not_mem_nil, or_false] at hb
      rcases hb with rfl | rfl | rfl | rfl <;> rw [UInt8.toNat_ofNat'] <;> omega

/-- Only the byte order mark starts with the bytes of the byte order mark. -/
theorem eq_of_utf8EncodeChar_append {c : Char} {bs r : Bytes}
    (h : String.utf8EncodeChar c ++ bs = 0xef :: 0xbb :: 0xbf :: r) : c = '\ufeff' := by
  have hbyte {n : Nat} {b : UInt8} (hn : n < 256) (h : UInt8.ofNat n = b) : n = b.toNat := by
    rw [← h, UInt8.toNat_ofNat', Nat.mod_eq_of_lt hn]
  apply Char.ext
  apply UInt32.toNat_inj.mp
  change c.val.toNat = 0xfeff
  have hvalid : c.val.toNat < 0xd800 ∨ 0xdfff < c.val.toNat ∧ c.val.toNat < 0x110000 := c.valid
  rw [String.utf8EncodeChar] at h
  split at h
  · have h₁ : _ = 0xef := hbyte (by omega) (List.cons.inj h).1
    omega
  · split at h
    · have h₁ : _ = 0xef := hbyte (by omega) (List.cons.inj h).1
      omega
    · split at h
      · obtain ⟨h₁, h⟩ := List.cons.inj h
        obtain ⟨h₂, h⟩ := List.cons.inj h
        have h₁ : _ = 0xef := hbyte (by omega) h₁
        have h₂ : _ = 0xbb := hbyte (by omega) h₂
        have h₃ : _ = 0xbf := hbyte (by omega) (List.cons.inj h).1
        omega
      · have h₁ : _ = 0xef := hbyte (by omega) (List.cons.inj h).1
        omega

/-! ## Texts -/

theorem utf8Bytes_ofList (cs : Chars) :
    utf8Bytes (String.ofList cs) = cs.flatMap String.utf8EncodeChar := by
  simp [utf8Bytes, List.utf8Encode]

/-- A text whose bytes are taken for characters. -/
def utf8Chars (cs : Chars) : Chars :=
  (cs.flatMap String.utf8EncodeChar).map fun b => Char.ofNat b.toNat

@[simp] theorem utf8Chars_nil : utf8Chars [] = [] := rfl

@[simp] theorem utf8Chars_append (cs ds : Chars) :
    utf8Chars (cs ++ ds) = utf8Chars cs ++ utf8Chars ds := by
  simp [utf8Chars]

theorem utf8Chars_cons (c : Char) (cs : Chars) :
    utf8Chars (c :: cs) = utf8Chars [c] ++ utf8Chars cs :=
  utf8Chars_append [c] cs

@[simp] theorem utf8Chars_eq_nil {cs : Chars} : utf8Chars cs = [] ↔ cs = [] := by
  cases cs <;> simp [utf8Chars]

theorem utf8Chars_of_isAscii {c : Char} (h : isAscii c = true) : utf8Chars [c] = [c] := by
  have hc : c.toNat < 128 := of_decide_eq_true h
  rw [utf8Chars, List.flatMap_singleton, utf8EncodeChar_of_isAscii h, List.map_singleton,
    UInt8.toNat_ofNat', Nat.mod_eq_of_lt (by omega), Char.ofNat_toNat]

theorem not_isAscii_of_mem_utf8Chars {c d : Char} (h : isAscii c = false) (hd : d ∈ utf8Chars [c]) :
    isAscii d = false := by
  rw [utf8Chars, List.flatMap_singleton] at hd
  obtain ⟨b, hb, rfl⟩ := List.mem_map.mp hd
  have hlow := (bounds_of_mem_utf8EncodeChar h hb).1
  have hhigh := b.toNat_lt
  rw [isAscii, decide_eq_false_iff_not, Char.ofNat, dif_pos (.inl (by omega))]
  exact Nat.not_lt.mpr hlow

/-- A character of ASCII in the bytes stands in the text too. -/
theorem exists_of_utf8Chars_eq_cons {k : Char} (hk : isAscii k = true) {cs x y : Chars}
    (h : utf8Chars cs = x ++ k :: y) :
    ∃ as bs, cs = as ++ k :: bs ∧ utf8Chars as = x ∧ utf8Chars bs = y := by
  induction cs generalizing x with
  | nil => simp at h
  | cons c cs ih =>
    rw [utf8Chars_cons] at h
    rcases List.append_eq_append_iff.mp h with ⟨x', rfl, hcs⟩ | ⟨z, hc, hz⟩
    · obtain ⟨as, bs, rfl, rfl, rfl⟩ := ih hcs
      exact ⟨c :: as, bs, rfl, utf8Chars_cons c as, rfl⟩
    · rcases List.cons_eq_append_iff.mp hz with ⟨rfl, hcs⟩ | ⟨z', rfl, rfl⟩
      · obtain ⟨as, bs, rfl, has, rfl⟩ := ih (x := []) hcs
        refine ⟨c :: as, bs, rfl, ?_, rfl⟩
        rw [utf8Chars_cons, hc, has, List.append_nil, List.append_nil]
      · have hmem : k ∈ utf8Chars [c] := by rw [hc]; simp
        cases hascii : isAscii c with
        | true =>
          rw [utf8Chars_of_isAscii hascii] at hc
          obtain ⟨rfl, heq⟩ := List.append_eq_singleton_iff.mp hc.symm |>.resolve_right (by simp)
          obtain ⟨rfl, rfl⟩ := List.cons.inj heq
          exact ⟨[], cs, rfl, rfl, rfl⟩
        | false => simp [not_isAscii_of_mem_utf8Chars hascii hmem] at hk

theorem exists_of_utf8Chars_eq_append {ks : Chars} (hks : ∀ k ∈ ks, isAscii k = true) {cs y : Chars}
    (h : utf8Chars cs = ks ++ y) : ∃ bs, cs = ks ++ bs ∧ utf8Chars bs = y := by
  induction ks generalizing cs with
  | nil => exact ⟨cs, rfl, h⟩
  | cons k ks ih =>
    obtain ⟨hk, hks⟩ := List.forall_mem_cons.mp hks
    obtain ⟨as, bs, rfl, has, hbs⟩ := exists_of_utf8Chars_eq_cons (x := []) hk h
    obtain rfl := utf8Chars_eq_nil.mp has
    obtain ⟨bs, rfl, rfl⟩ := ih hks hbs
    exact ⟨bs, rfl, rfl⟩

/-- A part of the bytes that is in ASCII stands in the text too. -/
theorem exists_of_utf8Chars_eq {ks : Chars} (hks : ∀ k ∈ ks, isAscii k = true) (hne : ks ≠ [])
    {cs x y : Chars} (h : utf8Chars cs = x ++ (ks ++ y)) :
    ∃ as bs, cs = as ++ (ks ++ bs) ∧ utf8Chars as = x ∧ utf8Chars bs = y := by
  cases ks with
  | nil => exact absurd rfl hne
  | cons k ks =>
    obtain ⟨hk, hks⟩ := List.forall_mem_cons.mp hks
    obtain ⟨as, bs, rfl, rfl, hbs⟩ := exists_of_utf8Chars_eq_cons hk h
    obtain ⟨bs, rfl, rfl⟩ := exists_of_utf8Chars_eq_append hks hbs
    exact ⟨as, bs, rfl, rfl, rfl⟩

theorem mem_utf8Chars {k : Char} (hk : isAscii k = true) {cs : Chars} (h : k ∈ cs) :
    k ∈ utf8Chars cs := by
  obtain ⟨as, bs, rfl⟩ := List.append_of_mem h
  rw [utf8Chars_append, utf8Chars_cons, utf8Chars_of_isAscii hk]
  simp

end MarkupQuery.Encoding
