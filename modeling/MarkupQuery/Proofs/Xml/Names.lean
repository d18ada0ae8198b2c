import Mathlib
import MarkupQuery.Xml.StartTag

/-!
# Names read back

A name that was read is read again from its written form, with the same prefix, wherever it is
followed by something that cannot belong to a name (`writtenName?_written`). This holds of names with
stray colons too, which are kept as they were written.
-/

namespace MarkupQuery.Xml

open MarkupQuery.Text

/-! ## Spans -/

/-- A name without a colon. -/
def IsPlainName (s : Chars) : Prop :=
  ∃ c r, s = c :: r ∧ isNameStart c = true ∧ ∀ d ∈ r, isNameChar d = true

/-- A character of a name that may hold colons. -/
def isNameMore (c : Char) : Bool := isNameChar c || c == ':'

/-- A name that may hold colons. -/
def IsAnyName (s : Chars) : Prop :=
  ∃ c r, s = c :: r ∧ (isNameStart c || c == ':') = true ∧ ∀ d ∈ r, isNameMore d = true

/-- Whether a text does not go on with a character of some kind. -/
def Stops (p : Char → Bool) (s : Chars) : Prop := ∀ c, s.head? = some c → p c = false

variable {p : Char → Bool} {s t rest : Chars}

theorem takeWhile_append_stops (hs : ∀ c ∈ s, p c = true) (ht : Stops p t) :
    (s ++ t).takeWhile p = s := by
  rw [List.takeWhile_append_of_pos hs]
  cases t with
  | nil => simp
  | cons c t => simp [ht c rfl]

theorem dropWhile_append_stops (hs : ∀ c ∈ s, p c = true) (ht : Stops p t) :
    (s ++ t).dropWhile p = t := by
  rw [List.dropWhile_append_of_pos hs]
  cases t with
  | nil => rfl
  | cons c t => simp [ht c rfl]

theorem stops_dropWhile (p : Char → Bool) (s : Chars) : Stops p (s.dropWhile p) := by
  intro c hc
  have hhead := List.head?_dropWhile_not p s
  rw [hc] at hhead
  simpa using hhead

theorem Stops.cons {c : Char} (hc : p c = false) (s : Chars) : Stops p (c :: s) := by
  intro d hd
  obtain rfl := Option.some.inj hd
  exact hc

theorem Stops.mono {q : Char → Bool} (h : Stops p s) (hqp : ∀ c, q c = true → p c = true) :
    Stops q s := fun c hc => by
  have hpc := h c hc
  cases hqc : q c with
  | false => rfl
  | true => rw [hqp c hqc] at hpc; cases hpc

theorem isNameChar_of_isNameStart {c : Char} (h : isNameStart c = true) : isNameChar c = true := by
  simp [isNameChar, h]

theorem isNameMore_of_isNameChar {c : Char} (h : isNameChar c = true) : isNameMore c = true := by
  simp [isNameMore, h]

theorem IsPlainName.isNameChar (h : IsPlainName s) : ∀ c ∈ s, isNameChar c = true := by
  obtain ⟨c, r, rfl, hc, hr⟩ := h
  simpa using ⟨isNameChar_of_isNameStart hc, hr⟩

theorem IsAnyName.isNameMore (h : IsAnyName s) : ∀ c ∈ s, isNameMore c = true := by
  obtain ⟨c, r, rfl, hc, hr⟩ := h
  rw [Bool.or_eq_true, beq_iff_eq] at hc
  have hhead : Xml.isNameMore c = true := by
    rcases hc with hc | rfl
    · exact isNameMore_of_isNameChar (isNameChar_of_isNameStart hc)
    · rfl
  simpa using ⟨hhead, hr⟩

theorem IsPlainName.ne_nil (h : IsPlainName s) : s ≠ [] := by
  obtain ⟨c, r, rfl, -⟩ := h
  simp

theorem IsAnyName.ne_nil (h : IsAnyName s) : s ≠ [] := by
  obtain ⟨c, r, rfl, -⟩ := h
  simp

/-- What is taken of a text is a name or nothing, and what follows cannot belong to it. -/
theorem spanPlainName_spec (s : Chars) :
    ((spanPlainName s).1 = [] ∧ (spanPlainName s).2 = s ∧ Stops isNameStart s) ∨
      (IsPlainName (spanPlainName s).1 ∧ Stops isNameChar (spanPlainName s).2 ∧
        (spanPlainName s).1 ++ (spanPlainName s).2 = s) := by
  cases s with
  | nil => exact .inl ⟨rfl, rfl, nofun⟩
  | cons c r =>
    cases hc : isNameStart c with
    | false =>
      left
      rw [spanPlainName, hc]
      exact ⟨rfl, rfl, .cons hc r⟩
    | true =>
      right
      rw [spanPlainName, if_pos hc]
      refine ⟨⟨c, _, rfl, hc, fun d hd => List.mem_takeWhile_imp hd⟩, stops_dropWhile _ r, ?_⟩
      rw [List.cons_append, List.takeWhile_append_dropWhile]

/-- What is taken of a text is a name or nothing, and what follows cannot belong to it. -/
theorem spanName_spec (s : Chars) :
    ((spanName s).1 = [] ∧ (spanName s).2 = s ∧ Stops (fun c => isNameStart c || c == ':') s) ∨
      (IsAnyName (spanName s).1 ∧ Stops isNameMore (spanName s).2 ∧
        (spanName s).1 ++ (spanName s).2 = s) := by
  cases s with
  | nil => exact .inl ⟨rfl, rfl, nofun⟩
  | cons c r =>
    cases hc : isNameStart c || c == ':' with
    | false =>
      left
      rw [spanName, hc]
      exact ⟨rfl, rfl, .cons hc r⟩
    | true =>
      right
      rw [spanName, if_pos hc]
      refine ⟨⟨c, _, rfl, hc, fun d hd => ?_⟩, stops_dropWhile isNameMore r, ?_⟩
      · exact List.mem_takeWhile_imp (p := isNameMore) hd
      · exact congrArg (c :: ·) List.takeWhile_append_dropWhile

theorem spanPlainName_append (hs : IsPlainName s) (ht : Stops isNameChar t) :
    spanPlainName (s ++ t) = (s, t) := by
  obtain ⟨c, r, rfl, hc, hr⟩ := hs
  rw [List.cons_append, spanPlainName, if_pos hc, takeWhile_append_stops hr ht,
    dropWhile_append_stops hr ht]

theorem spanName_append (hs : IsAnyName s) (ht : Stops isNameMore t) :
    spanName (s ++ t) = (s, t) := by
  obtain ⟨c, r, rfl, hc, hr⟩ := hs
  rw [List.cons_append, spanName, if_pos hc]
  exact congrArg₂ (fun a b => (c :: a, b)) (takeWhile_append_stops hr ht)
    (dropWhile_append_stops hr ht)

theorem spanPlainName_of_stops (h : Stops isNameStart s) : spanPlainName s = ([], s) := by
  cases s with
  | nil => rfl
  | cons c r => rw [spanPlainName, h c rfl]; rfl

theorem spanName_of_stops (h : Stops isNameMore s) : spanName s = ([], s) := by
  cases s with
  | nil => rfl
  | cons c r =>
    have hc : (isNameStart c || c == ':') = false := by
      have hmore := h c rfl
      rw [isNameMore, Bool.or_eq_false_iff] at hmore
      rw [Bool.or_eq_false_iff]
      refine ⟨?_, hmore.2⟩
      cases hstart : isNameStart c with
      | false => rfl
      | true => rw [isNameChar_of_isNameStart hstart] at hmore; cases hmore.1
    rw [spanName, hc]
    rfl

/-! ## Written names -/

/-- What a written name is made of: one part, two parts around a colon, or parts around stray
colons. -/
inductive WrittenName.Shape : WrittenName → Prop
  | plain {s r : Chars} (hs : IsPlainName s) : Shape ⟨none, s, r, none⟩
  | prefixed {s t r : Chars} (hs : IsPlainName s) (ht : IsPlainName t) :
      Shape ⟨some s, t, r, none⟩
  /-- A name that starts with a colon. -/
  | leading {s r : Chars} (hs : Stops isNameStart s) (hany : IsAnyName s) :
      Shape ⟨none, s, r, some s⟩
  /-- A prefix that no name follows. -/
  | dangling {s t r : Chars} (hs : IsPlainName s) (hstart : Stops isNameStart t)
      (ht : ∀ c ∈ t, isNameMore c = true) : Shape ⟨none, s ++ ':' :: t, r, some (s ++ [':'])⟩
  /-- A name with a second colon. -/
  | double {s t u r : Chars} (hs : IsPlainName s) (ht : IsPlainName t)
      (hu : u = [] ∨ IsAnyName u) :
      Shape ⟨some s, t ++ ':' :: u, r, some (s ++ ':' :: t ++ [':'])⟩

/-- What is read as a name has one of these shapes. -/
theorem shape_of_writtenName? {w : WrittenName} (h : writtenName? s = some w) :
    w.Shape := by
  rw [writtenName?] at h
  dsimp only at h
  rcases spanPlainName_spec s with ⟨hnil, -, hstops⟩ | ⟨hfirst, -, -⟩
  · -- no plain name stands here, so the name starts with a colon or there is none
    rw [hnil, if_pos (by rfl)] at h
    rcases spanName_spec s with ⟨hnone, -, -⟩ | ⟨hany, -, heq⟩
    · rw [hnone] at h
      cases h
    · rw [if_neg (by simpa using hany.ne_nil)] at h
      obtain rfl := Option.some.inj h
      refine .leading ?_ hany
      obtain ⟨c, r, hcr, -⟩ := hany
      rw [hcr] at heq ⊢
      exact fun d hd => hstops d (by rw [← heq]; exact hd)
  rw [if_neg (by simpa using hfirst.ne_nil)] at h
  split at h
  · next r2 hr2 =>
    rcases spanPlainName_spec r2 with ⟨hnil, -, hstops⟩ | ⟨hsecond, -, -⟩
    · rw [hnil, if_pos (by rfl)] at h
      obtain rfl := Option.some.inj h
      refine .dangling hfirst ?_ fun c hc => List.mem_takeWhile_imp (p := isNameMore) hc
      intro c hc
      apply hstops
      cases r2 with
      | nil => cases hc
      | cons d r =>
        rw [List.takeWhile_cons] at hc
        split at hc
        · exact hc
        · cases hc
    · rw [if_neg (by simpa using hsecond.ne_nil)] at h
      split at h
      · next r4 hr4 =>
        obtain rfl := Option.some.inj h
        refine .double hfirst hsecond ?_
        rcases spanName_spec r4 with ⟨hnil, -, -⟩ | ⟨hthird, -, -⟩
        · exact .inl hnil
        · exact .inr hthird
      · obtain rfl := Option.some.inj h
        exact .prefixed hfirst hsecond
  · obtain rfl := Option.some.inj h
    exact .plain hfirst

theorem isNameChar_colon : isNameChar ':' = false := by decide

theorem Stops.isNameChar (h : Stops isNameMore s) : Stops isNameChar s :=
  h.mono fun _ => isNameMore_of_isNameChar

/-- A name of any shape is read back. -/
theorem WrittenName.Shape.read {w : WrittenName} (h : w.Shape) (hrest : Stops isNameMore rest) :
    writtenName? (w.written ++ rest) = some { w with rest } := by
  have hcolon (t : Chars) : Stops Xml.isNameChar (':' :: t) := .cons isNameChar_colon t
  cases h with
  | @plain s r hs =>
    have hspan := spanPlainName_append hs hrest.isNameChar
    rw [WrittenName.written, joinName, writtenName?, hspan]
    dsimp only
    rw [if_neg (by simpa using hs.ne_nil)]
    split
    · next r2 =>
      have hmore := hrest ':' rfl
      cases hmore
    · rfl
  | @prefixed s t r hs ht =>
    have hfirst := spanPlainName_append hs (hcolon (t ++ rest))
    have hsecond := spanPlainName_append ht hrest.isNameChar
    rw [WrittenName.written, joinName, List.append_assoc, List.cons_append, writtenName?, hfirst]
    dsimp only
    rw [if_neg (by simpa using hs.ne_nil)]
    split
    · next r2 heq =>
      cases heq
      rw [hsecond]
      dsimp only
      rw [if_neg (by simpa using ht.ne_nil)]
      split
      · next r3 =>
        have hmore := hrest ':' rfl
        cases hmore
      · rfl
    · next hne => exact absurd rfl (hne _)
  | @leading s r hs hany =>
    have hspan := spanName_append hany hrest
    have hstops : Stops isNameStart (s ++ rest) := by
      obtain ⟨c, r, rfl, -⟩ := hany
      exact .cons (hs c rfl) _
    rw [WrittenName.written, joinName, writtenName?, spanPlainName_of_stops hstops]
    dsimp only
    rw [if_pos (by rfl), hspan]
    dsimp only
    rw [if_neg (by simpa using hany.ne_nil)]
  | @dangling s t r hs hstart ht =>
    have hfirst := spanPlainName_append hs (hcolon (t ++ rest))
    have hstops : Stops isNameStart (t ++ rest) := by
      cases t with
      | nil => exact hrest.isNameChar.mono fun _ => isNameChar_of_isNameStart
      | cons c t => exact .cons (hstart c rfl) _
    rw [WrittenName.written, joinName, List.append_assoc, List.cons_append, writtenName?, hfirst]
    dsimp only
    rw [if_neg (by simpa using hs.ne_nil)]
    split
    · next r2 heq =>
      cases heq
      rw [spanPlainName_of_stops hstops]
      dsimp only
      rw [if_pos (by rfl)]
      have htake := takeWhile_append_stops (p := isNameMore) ht hrest
      have hdrop := dropWhile_append_stops (p := isNameMore) ht hrest
      exact congrArg₂ (fun a b => some (WrittenName.mk none (s ++ ':' :: a) b (some (s ++ [':']))))
        htake hdrop
    · next hne => exact absurd rfl (hne _)
  | @double s t u r hs ht hu =>
    have hfirst := spanPlainName_append hs (hcolon (t ++ ':' :: (u ++ rest)))
    have hsecond := spanPlainName_append ht (hcolon (u ++ rest))
    have hthird : spanName (u ++ rest) = (u, rest) := by
      rcases hu with rfl | hu
      · exact spanName_of_stops hrest
      · exact spanName_append hu hrest
    rw [WrittenName.written, joinName, List.append_assoc, List.cons_append, List.append_assoc,
      List.cons_append, writtenName?, hfirst]
    dsimp only
    rw [if_neg (by simpa using hs.ne_nil)]
    split
    · next r2 heq =>
      cases heq
      rw [hsecond]
      dsimp only
      rw [if_neg (by simpa using ht.ne_nil)]
      split
      · next r4 heq =>
        cases heq
        rw [hthird]
      · next hne => exact absurd rfl (hne _)
    · next hne => exact absurd rfl (hne _)

/-- What was read as a name is read again from its written form, if something follows that cannot
belong to it. -/
theorem writtenName?_written {w : WrittenName} (h : writtenName? s = some w)
    (hrest : Stops isNameMore rest) :
    writtenName? (w.written ++ rest) = some { w with rest } :=
  (shape_of_writtenName? h).read hrest

/-- A written name is one name that may hold colons. -/
theorem WrittenName.Shape.isAnyName {w : WrittenName} (h : w.Shape) : IsAnyName w.written := by
  have hcolon : isNameMore ':' = true := rfl
  have hplain {s : Chars} (hs : IsPlainName s) : ∀ c ∈ s, isNameMore c = true := fun c hc =>
    isNameMore_of_isNameChar (hs.isNameChar c hc)
  have hstart {s : Chars} (hs : IsPlainName s) (t : Chars)
      (ht : ∀ c ∈ t, isNameMore c = true) : IsAnyName (s ++ t) := by
    obtain ⟨c, r, rfl, hc, hr⟩ := hs
    refine ⟨c, r ++ t, rfl, by simp [hc], ?_⟩
    simpa [or_imp, forall_and] using ⟨fun d hd => isNameMore_of_isNameChar (hr d hd), ht⟩
  cases h with
  | plain hs => simpa [WrittenName.written, joinName] using hstart hs [] (by simp)
  | prefixed hs ht =>
    exact hstart hs _ (by simpa using ⟨hcolon, hplain ht⟩)
  | leading hs hany => exact hany
  | dangling hs hs' ht => exact hstart hs _ (by simpa using ⟨hcolon, ht⟩)
  | @double s t u r hs ht hu =>
    refine hstart hs _ ?_
    have hthird : ∀ c ∈ u, isNameMore c = true := by
      rcases hu with rfl | hu
      · simp
      · exact hu.isNameMore
    simpa [or_imp, forall_and] using ⟨hcolon, hplain ht, hcolon, hthird⟩

end MarkupQuery.Xml
