import MarkupQuery.Proofs.Html.Transcoding

/-!
# The ASCII form loses nothing

Markup that holds no start of a numeric reference is given back by its ASCII form: every decimal reference in
the ASCII form is one that was put there, also where ampersands, digits or semicolons of the markup stand
beside it (`toAscii_lossless`). So different markup has different ASCII forms.
-/

namespace MarkupQuery.Html

open MarkupQuery.Text

variable {c : Char} {n : Nat} {s : Chars} {m : CodePoints}

/-! ## Decimal references -/

/-- The decimal reference at the start of a text: its number, and how many characters it takes. -/
def decimalReference? : Chars → Option (Nat × Nat)
  | '&' :: '#' :: s =>
      let digits := s.takeWhile Char.isDigit
      if !digits.isEmpty && (s.drop digits.length).head? == some ';' then
        some (Nat.ofDigitChars 10 digits 0, digits.length + 3)
      else none
  | _ => none

/-- The code points that a text stands for, where `skip` characters belong to a reference that was read. -/
def restoreFrom : Nat → Chars → CodePoints
  | _, [] => []
  | skip + 1, _ :: s => restoreFrom skip s
  | 0, c :: s =>
      match decimalReference? (c :: s) with
      | some (n, size) => n :: restoreFrom (size - 1) s
      | none => c.toNat :: restoreFrom 0 s

/-- A text with every decimal reference replaced by the code point of its number. -/
def restore (s : Chars) : CodePoints := restoreFrom 0 s

theorem restoreFrom_append (s t : Chars) : restoreFrom s.length (s ++ t) = restore t := by
  induction s with
  | nil => rfl
  | cons c s ih => exact ih

/-- A reference is recognised whatever follows it. -/
theorem decimalReference?_numericReference (n : Nat) (s : Chars) :
    decimalReference? (numericReference n ++ s) = some (n, (numericReference n).length) := by
  have hdigits : ∀ d ∈ Nat.toDigits 10 n, d.isDigit = true := fun d hd => isDigit_of_mem_toDigits hd
  have htext : numericReference n ++ s = '&' :: '#' :: (Nat.toDigits 10 n ++ ';' :: s) := by
    simp [numericReference]
  have htake : (Nat.toDigits 10 n ++ ';' :: s).takeWhile Char.isDigit = Nat.toDigits 10 n := by
    rw [List.takeWhile_append_of_pos hdigits, List.takeWhile_cons_of_neg (by decide), List.append_nil]
  have hsize : (numericReference n).length = (Nat.toDigits 10 n).length + 3 := by
    simp [numericReference]
  rw [htext, decimalReference?]
  rw [htake, List.drop_left, hsize, Nat.ofDigitChars_ten_toDigits, if_pos]
  simp [Nat.toDigits_ne_nil]

theorem restore_numericReference (n : Nat) (s : Chars) :
    restore (numericReference n ++ s) = n :: restore s := by
  have hreference := decimalReference?_numericReference n s
  -- the reference is read at its ampersand; what is left of it is skipped
  rw [← restoreFrom_append (numericReference n).tail s]
  rw [numericReference, List.cons_append, List.cons_append] at hreference ⊢
  rw [restore, restoreFrom, hreference]
  rfl

/-- A character that begins no reference stands for itself. -/
theorem restore_cons (h : c = '&' → s.head? ≠ some '#') : restore (c :: s) = c.toNat :: restore s := by
  have hnone : decimalReference? (c :: s) = none := by
    unfold decimalReference?
    split
    · next heq =>
      obtain ⟨rfl, rfl⟩ := List.cons.inj heq
      exact absurd rfl (h rfl)
    · rfl
  rw [restore, restoreFrom, hnone]
  rfl

example : restore "&&#233;;&#;&#1".toList = [38, 233, 59, 38, 35, 59, 38, 35, 49] := by decide

/-! ## The ASCII form -/

theorem toAscii_cons (n : Nat) (m : CodePoints) : toAscii (n :: m) = asciiUnit n ++ toAscii m :=
  List.flatMap_cons

/-- The ASCII form begins with a number sign only if the markup does. -/
theorem head?_toAscii (h : (toAscii m).head? = some '#') : m.head? = some '#'.toNat := by
  cases m with
  | nil => cases h
  | cons n m =>
    rw [toAscii_cons, asciiUnit] at h
    split at h
    · next hn =>
      rw [List.singleton_append, List.head?_cons, Option.some.injEq] at h
      rw [List.head?_cons, ← h, toNat_ofNat_of_lt hn]
    · rw [numericReference] at h
      exact absurd h (by simp)

/-- The ASCII form of markup without the start of a reference is restored to the markup. -/
theorem restore_toAscii (h : ¬['&'.toNat, '#'.toNat] <:+: m) : restore (toAscii m) = m := by
  induction m with
  | nil => rfl
  | cons n m ih =>
    have hm : restore (toAscii m) = m := ih fun hinfix => h (List.infix_cons hinfix)
    rw [toAscii_cons, asciiUnit]
    split
    · next hn =>
      -- an ampersand is followed by a number sign only if it is so in the markup
      have hbegins : Char.ofNat n = '&' → (toAscii m).head? ≠ some '#' := by
        intro hamp hhead
        have hn' : n = '&'.toNat := by rw [← hamp, toNat_ofNat_of_lt hn]
        obtain ⟨m', rfl⟩ : ∃ m', m = '#'.toNat :: m' := List.head?_eq_some_iff.mp (head?_toAscii hhead)
        exact h ⟨[], m', by rw [hn']; rfl⟩
      rw [List.singleton_append, restore_cons hbegins, hm, toNat_ofNat_of_lt hn]
    · rw [restore_numericReference, hm]

/-- **The ASCII form loses nothing.** Markup that holds no start of a numeric reference, made of whatever code
points, has a form in ASCII that is given back by replacing its decimal references, and that no other such markup
has. -/
theorem toAscii_lossless (h : ¬['&'.toNat, '#'.toNat] <:+: m) :
    (∀ c ∈ toAscii m, c.toNat < 128) ∧ restore (toAscii m) = m ∧
      ∀ m', ¬['&'.toNat, '#'.toNat] <:+: m' → toAscii m' = toAscii m → m' = m := by
  refine ⟨fun c hc => toNat_lt_of_mem_toAscii hc, restore_toAscii h, fun m' h' hsame => ?_⟩
  rw [← restore_toAscii h, ← hsame, restore_toAscii h']

/-- An ampersand before a surrogate, and a semicolon and digits after a character beyond the basic plane. -/
theorem toAscii_lossless_surrogate :
    ¬['&'.toNat, '#'.toNat] <:+: [38, 0xd800, 0x1f600, 59, 49] ∧
      toAscii [38, 0xd800, 0x1f600, 59, 49] = "&&#55296;&#128512;;1".toList ∧
      restore "&&#55296;&#128512;;1".toList = [38, 0xd800, 0x1f600, 59, 49] := by
  have hplain : ¬['&'.toNat, '#'.toNat] <:+: [38, 0xd800, 0x1f600, 59, 49] := by decide
  have hform : toAscii [38, 0xd800, 0x1f600, 59, 49] = "&&#55296;&#128512;;1".toList := by decide
  refine ⟨hplain, hform, ?_⟩
  rw [← hform]
  exact (toAscii_lossless hplain).2.1

end MarkupQuery.Html
