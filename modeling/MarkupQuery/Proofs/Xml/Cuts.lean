import MarkupQuery.Xml.Content
import MarkupQuery.Proofs.Xml.Names

/-!
# Texts cut at marks

Where a text is cut at the first place of a mark, the three parts put together are the text. A text is
clear of a mark if the mark, written after it, is found there and not before. Line ends made uniform
leave no carriage returns, and do not change what a text is clear of.
-/

namespace MarkupQuery.Xml

open MarkupQuery.Text

variable {mark s t a b : Chars} {c : Char}

/-! ## Marks -/

theorem after?_eq_some : after? mark s = some t ↔ s = mark ++ t := by
  induction mark generalizing s with
  | nil => rw [after?, Option.some.injEq, List.nil_append]
  | cons m mark ih =>
    cases s with
    | nil => simp [after?]
    | cons c s =>
      rw [after?]
      split
      · next heq =>
        rw [beq_iff_eq] at heq
        rw [ih, heq, List.cons_append, List.cons.injEq]
        exact ⟨fun h => ⟨rfl, h⟩, And.right⟩
      · next hne =>
        rw [beq_iff_eq] at hne
        simp only [reduceCtorEq, List.cons_append, List.cons.injEq, false_iff, not_and]
        exact fun h => absurd h.symm hne

theorem cutAt_eq_some (h : cutAt mark s = some (a, b)) : s = a ++ mark ++ b := by
  induction s generalizing a with
  | nil =>
    rw [cutAt] at h
    split at h
    · next hmark =>
      rw [List.isEmpty_iff] at hmark
      obtain ⟨rfl, rfl⟩ := Prod.mk.inj (Option.some.inj h)
      rw [hmark]
      rfl
    · cases h
  | cons c s ih =>
    rw [cutAt] at h
    split at h
    · next rest hrest =>
      obtain ⟨rfl, rfl⟩ := Prod.mk.inj (Option.some.inj h)
      exact after?_eq_some.mp hrest
    · obtain ⟨⟨x, y⟩, hcut, hxy⟩ := Option.map_eq_some_iff.mp h
      obtain ⟨rfl, rfl⟩ := Prod.mk.inj hxy
      rw [ih hcut]
      simp

/-- A text without some character of a mark is not cut. -/
theorem cutAt_eq_none (hc : c ∈ mark) (hs : c ∉ s) : cutAt mark s = none := by
  cases hcut : cutAt mark s with
  | none => rfl
  | some p => exact absurd (by rw [cutAt_eq_some hcut]; simp [hc]) hs

/-! ## Clear texts -/

/-- Whether a mark that is written after a text is not found before its place. -/
def IsClear (mark s : Chars) : Prop := cutAt mark (s ++ mark) = some (s, [])

theorem after?_append (mark s t : Chars) (h : mark.length ≤ s.length) :
    after? mark (s ++ t) = (after? mark s).map (· ++ t) := by
  induction mark generalizing s with
  | nil => rfl
  | cons m mark ih =>
    cases s with
    | nil => simp at h
    | cons c s =>
      rw [List.cons_append, after?, after?]
      split
      · exact ih s (by simpa using h)
      · rfl

/-- A clear text is cut off before its mark, whatever follows. -/
theorem IsClear.cutAt (h : IsClear mark s) (t : Chars) :
    Xml.cutAt mark (s ++ mark ++ t) = some (s, t) := by
  have hgoes (s : Chars) (hlen : mark.length ≤ s.length) (a b : Chars)
      (hcut : Xml.cutAt mark s = some (a, b)) : Xml.cutAt mark (s ++ t) = some (a, b ++ t) := by
    induction s generalizing a with
    | nil =>
      have hnil : mark = [] := List.length_eq_zero_iff.mp (Nat.le_zero.mp hlen)
      subst hnil
      obtain ⟨rfl, rfl⟩ := Prod.mk.inj (Option.some.inj hcut)
      cases t <;> rfl
    | cons c s ih =>
      rw [Xml.cutAt] at hcut
      rw [List.cons_append, Xml.cutAt, ← List.cons_append, after?_append mark (c :: s) t hlen]
      split at hcut
      · next rest hrest =>
        obtain ⟨rfl, rfl⟩ := Prod.mk.inj (Option.some.inj hcut)
        rw [hrest]
        rfl
      · next hnone =>
        obtain ⟨⟨x, y⟩, hfound, hxy⟩ := Option.map_eq_some_iff.mp hcut
        obtain ⟨rfl, rfl⟩ := Prod.mk.inj hxy
        -- the mark is found further on, so it fits in what is left
        have hle : mark.length ≤ s.length := by
          rw [cutAt_eq_some hfound]
          simp
          omega
        rw [hnone, Option.map_none, ih hle x hfound]
        rfl
  have hcut := hgoes (s ++ mark) (by simp) s [] h
  rwa [List.nil_append] at hcut

/-- What is cut off before a mark is clear of it. -/
theorem isClear_of_cutAt (h : cutAt mark s = some (a, b)) : IsClear mark a := by
  induction s generalizing a with
  | nil =>
    rw [cutAt] at h
    split at h
    · next hmark =>
      rw [List.isEmpty_iff] at hmark
      obtain ⟨rfl, rfl⟩ := Prod.mk.inj (Option.some.inj h)
      rw [hmark]
      rfl
    · cases h
  | cons c s ih =>
    rw [cutAt] at h
    split at h
    · next rest hrest =>
      obtain ⟨rfl, rfl⟩ := Prod.mk.inj (Option.some.inj h)
      cases hmark : mark with
      | nil => rfl
      | cons m mark =>
        rw [IsClear, List.nil_append, cutAt, after?_eq_some.mpr (List.append_nil _).symm]
    · next hnone =>
      obtain ⟨⟨x, y⟩, hcut, hxy⟩ := Option.map_eq_some_iff.mp h
      obtain ⟨rfl, rfl⟩ := Prod.mk.inj hxy
      rw [IsClear, List.cons_append, cutAt]
      -- the mark is not at this place of the text, so it is not there before the first mark either
      have hs := cutAt_eq_some hcut
      have happ := after?_append mark (c :: (x ++ mark)) y (by simp; omega)
      rw [List.cons_append, ← hs, hnone] at happ
      rw [Option.map_eq_none_iff.mp happ.symm]
      have hclear := ih hcut
      rw [IsClear] at hclear
      rw [hclear]
      rfl

/-! ## Line ends -/

attribute [local simp] unifyLineEnds

theorem not_mem_unifyLineEnds (s : Chars) : '\r' ∉ unifyLineEnds s := by
  induction s using unifyLineEnds.induct with
  | case1 => simp
  | case2 r ih => simpa using ih
  | case3 r hr ih =>
    rw [unifyLineEnds]
    · simpa using ih
    · exact hr
  | case4 c r hc hr ih =>
    rw [unifyLineEnds]
    · simpa using ⟨fun h => hr h.symm, ih⟩
    · exact hc
    · exact hr

theorem unifyLineEnds_of_not_mem (h : '\r' ∉ s) : unifyLineEnds s = s := by
  induction s with
  | nil => rfl
  | cons c s ih =>
    rw [List.mem_cons, not_or] at h
    rw [unifyLineEnds, ih h.2]
    · rintro r rfl
      exact absurd rfl h.1
    · rintro rfl
      exact absurd rfl h.1

theorem unifyLineEnds_append_of_not_mem (h : '\r' ∉ s) (t : Chars) :
    unifyLineEnds (s ++ t) = s ++ unifyLineEnds t := by
  induction s with
  | nil => rfl
  | cons c s ih =>
    rw [List.mem_cons, not_or] at h
    rw [List.cons_append, unifyLineEnds, ih h.2, List.cons_append]
    · rintro r rfl
      exact absurd rfl h.1
    · rintro rfl
      exact absurd rfl h.1

/-- Line ends are made uniform part by part, unless a line feed stands at the start of the second. -/
theorem unifyLineEnds_append (s : Chars) (ht : t.head? ≠ some '\n') :
    unifyLineEnds (s ++ t) = unifyLineEnds s ++ unifyLineEnds t := by
  induction s using unifyLineEnds.induct with
  | case1 => rfl
  | case2 r ih => simpa using ih
  | case3 r hr ih =>
    rw [List.cons_append, unifyLineEnds, ih, unifyLineEnds, List.cons_append]
    · exact hr
    · intro x hx
      cases r with
      | nil => exact ht (by rw [List.nil_append] at hx; rw [hx]; rfl)
      | cons d r =>
        rw [List.cons_append] at hx
        exact hr r (by rw [(List.cons.inj hx).1])
  | case4 c r hc hr ih =>
    rw [List.cons_append, unifyLineEnds, ih, unifyLineEnds, List.cons_append]
    · exact hc
    · exact hr
    · rintro x rfl
      exact absurd rfl hr
    · exact hr

theorem mem_unifyLineEnds (h : c ∈ unifyLineEnds s) : c ∈ s ∨ c = '\n' := by
  induction s using unifyLineEnds.induct with
  | case1 => cases h
  | case2 r ih =>
    rw [unifyLineEnds, List.mem_cons] at h
    rcases h with rfl | h
    · exact .inr rfl
    · rcases ih h with h | h
      · exact .inl (by simp [h])
      · exact .inr h
  | case3 r hr ih =>
    rw [unifyLineEnds, List.mem_cons] at h
    · rcases h with rfl | h
      · exact .inr rfl
      · rcases ih h with h | h
        · exact .inl (List.mem_cons_of_mem _ h)
        · exact .inr h
    · exact hr
  | case4 d r hd hr ih =>
    rw [unifyLineEnds, List.mem_cons] at h
    · rcases h with rfl | h
      · exact .inl (List.mem_cons_self ..)
      · rcases ih h with h | h
        · exact .inl (List.mem_cons_of_mem _ h)
        · exact .inr h
    · exact hd
    · exact hr

theorem isClear_cons :
    IsClear mark (c :: s) ↔ after? mark (c :: s ++ mark) = none ∧ IsClear mark s := by
  rw [IsClear, List.cons_append, cutAt]
  split
  · next rest hrest => simp [hrest]
  · next hnone =>
    rw [Option.map_eq_some_iff, IsClear, and_iff_right hnone]
    constructor
    · rintro ⟨⟨x, y⟩, hcut, hxy⟩
      obtain ⟨hx, rfl⟩ := Prod.mk.inj hxy
      obtain rfl : x = s := (List.cons.inj hx).2
      exact hcut
    · exact fun h => ⟨_, h, rfl⟩

/-- A mark without line ends is found in a text if it is found once line ends are uniform. -/
theorem isSome_after?_of_unifyLineEnds (hr : '\r' ∉ mark) (hn : '\n' ∉ mark)
    (h : (after? mark (unifyLineEnds s ++ t)).isSome) : (after? mark (s ++ t)).isSome := by
  -- a mark that begins where a line ends is empty
  have hline (u : Chars) (h : (after? mark ('\n' :: u)).isSome) : mark = [] := by
    cases mark with
    | nil => rfl
    | cons m mark =>
      have hm : m ≠ '\n' := fun hm => hn (by simp [hm])
      simp [after?, hm] at h
  induction s using unifyLineEnds.induct generalizing mark with
  | case1 => exact h
  | case2 r ih =>
    rw [unifyLineEnds, List.cons_append] at h
    rw [hline _ h]
    rfl
  | case3 r hr' ih =>
    rw [unifyLineEnds, List.cons_append] at h
    · rw [hline _ h]
      rfl
    · exact hr'
  | case4 c r hc hr' ih =>
    rw [unifyLineEnds, List.cons_append] at h
    · cases mark with
      | nil => rfl
      | cons m mark =>
        rw [List.cons_append, after?] at *
        split at h
        · next heq =>
          rw [if_pos heq]
          refine ih (fun hm => hr (List.mem_cons_of_mem _ hm))
            (fun hm => hn (List.mem_cons_of_mem _ hm)) h fun u hu => ?_
          cases mark with
          | nil => rfl
          | cons m' mark =>
            have hm : m' ≠ '\n' := fun hm => hn (by simp [hm])
            simp [after?, hm] at hu
        · cases h
    · exact hc
    · exact hr'

/-- A text that is clear of a mark without line ends stays so once its line ends are uniform. -/
theorem IsClear.unifyLineEnds (hr : '\r' ∉ mark) (hn : '\n' ∉ mark)
    (h : IsClear mark s) : IsClear mark (unifyLineEnds s) := by
  have hnone {u v : Chars} (hu : after? mark (v ++ mark) = none)
      (huv : (after? mark (u ++ mark)).isSome → (after? mark (v ++ mark)).isSome) :
      after? mark (u ++ mark) = none := by
    cases hafter : after? mark (u ++ mark) with
    | none => rfl
    | some w => simpa [hu] using huv (by rw [hafter]; rfl)
  have hwhole {s : Chars} (h : after? mark (s ++ mark) = none) :
      after? mark (Xml.unifyLineEnds s ++ mark) = none :=
    hnone h (isSome_after?_of_unifyLineEnds hr hn)
  -- where a line ends with two characters, the mark is looked for once instead of twice
  induction s using Xml.unifyLineEnds.induct with
  | case1 => exact h
  | case2 r ih =>
    obtain ⟨hhead, hrest⟩ := isClear_cons.mp h
    have hwhole := hwhole hhead
    rw [Xml.unifyLineEnds] at hwhole ⊢
    exact isClear_cons.mpr ⟨hwhole, ih (isClear_cons.mp hrest).2⟩
  | case3 r hr' ih =>
    obtain ⟨hhead, hrest⟩ := isClear_cons.mp h
    have hwhole := hwhole hhead
    rw [Xml.unifyLineEnds] at hwhole ⊢
    · exact isClear_cons.mpr ⟨hwhole, ih hrest⟩
    · exact hr'
    · exact hr'
  | case4 c r hc hr' ih =>
    obtain ⟨hhead, hrest⟩ := isClear_cons.mp h
    have hwhole := hwhole hhead
    rw [Xml.unifyLineEnds] at hwhole ⊢
    · exact isClear_cons.mpr ⟨hwhole, ih hrest⟩
    · exact hc
    · exact hr'
    · exact hc
    · exact hr'

end MarkupQuery.Xml
