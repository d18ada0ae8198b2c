import MarkupQuery.Proofs.Query.Lexing
import MarkupQuery.Proofs.Selector.Shorthand
import MarkupQuery.Translator

/-!
# Queries that are shorthand too

A query may also be shorthand for another one, although nothing is glued onto a step in it. This happens in two
ways (`IsMistaken`): an attribute is the right operand of an operator that looks like the end of a step, or the
at sign stands in a literal, and a bar after it ends the branch within the literal. All other queries are kept
as they are (`convert_eq_self_iff`).
-/

namespace MarkupQuery.Selector

open MarkupQuery.Text MarkupQuery.Query

variable {b n p s t u w x : Chars}

/-! ## Branches within a selector -/

/-- A branch starts right after a text. -/
def PrecedesBranch (x : Chars) : Prop := x = [] ∨ ∃ y, x = y ++ ['|']

/-- A branch ends right before a text. -/
def FollowsBranch (t : Chars) : Prop := t = [] ∨ ∃ r, t = '|' :: r

/-- A text without bars is a branch of a selector if it stands where one starts and another ends. -/
theorem mem_branches (hx : PrecedesBranch x) (hb : '|' ∉ b) (ht : FollowsBranch t) :
    b ∈ branches (x ++ b ++ t) := by
  have hfirst : b ∈ branches (b ++ t) := by
    rcases ht with rfl | ⟨r, rfl⟩
    · rw [List.append_nil, branches_of_not_mem hb]
      exact List.mem_singleton_self b
    · rw [branches_append_bar, branches_of_not_mem hb]
      exact List.mem_append_left _ (List.mem_singleton_self b)
  rcases hx with rfl | ⟨y, rfl⟩
  · exact hfirst
  · rw [List.append_assoc, List.append_assoc, List.singleton_append, branches_append_bar]
    exact List.mem_append_right _ hfirst

/-- Where a branch stands in the selector. -/
theorem exists_append_of_mem_branches (h : b ∈ branches s) : ∃ x t, s = x ++ b ++ t ∧ FollowsBranch t := by
  obtain ⟨as, cs, hsplit⟩ := List.append_of_mem h
  have hs := joinBranches_branches s
  have hrest : ∃ t, joinBranches (b :: cs) = b ++ t ∧ FollowsBranch t := by
    cases cs with
    | nil => exact ⟨[], (List.append_nil b).symm, .inl rfl⟩
    | cons d ds => exact ⟨'|' :: joinBranches (d :: ds), rfl, .inr ⟨_, rfl⟩⟩
  obtain ⟨t, ht, hfollows⟩ := hrest
  rw [hsplit] at hs
  cases as with
  | nil =>
    refine ⟨[], t, ?_, hfollows⟩
    rw [← hs, List.nil_append, ht, List.nil_append]
  | cons a as =>
    rw [joinBranches_append (List.cons_ne_nil a as) (List.cons_ne_nil b cs), ht] at hs
    refine ⟨joinBranches (a :: as) ++ ['|'], t, ?_, hfollows⟩
    rw [← hs, List.append_assoc, List.append_assoc, List.singleton_append]

/-- Every text ends within a branch. -/
theorem exists_last_branch (u : Chars) : ∃ x p, u = x ++ p ∧ PrecedesBranch x ∧ '|' ∉ p := by
  by_cases hbar : '|' ∈ u
  · obtain ⟨r, l, hreverse, hr⟩ := List.eq_append_cons_of_mem (List.mem_reverse.mpr hbar)
    refine ⟨l.reverse ++ ['|'], r.reverse, ?_, .inr ⟨_, rfl⟩, by simpa using hr⟩
    rw [← List.reverse_reverse u, hreverse]
    simp
  · exact ⟨[], u, rfl, .inl rfl, hbar⟩

/-! ## Mistaken at signs -/

/-- A query in which an attribute's at sign, or one in a literal, is taken for one that is glued onto a step. -/
inductive IsMistaken : Chars → Prop
  /-- An attribute is the right operand of an operator that is written like the end of a step, and the branch
  ends after its name. -/
  | operator {p o n w t : Chars} (hoperator : o ∈ stepLikeOperators) (hquote : openQuote none (p ++ o) = none)
      (hname : n ≠ []) (hchars : n.all isAttributeNameChar = true) (hblanks : w.all isBlank = true)
      (hend : FollowsBranch t) : IsMistaken (p ++ o ++ '@' :: n ++ w ++ t)
  /-- An at sign stands in a literal after a character that may end a step, and a bar in the literal follows
  what looks like the name of an attribute. -/
  | literal {p n w t : Chars} {c q : Char} (hstep : endsStep c = true)
      (hquote : openQuote none (p ++ [c]) = some q) (hname : n ≠ [])
      (hchars : n.all isAttributeNameChar = true) (hblanks : w.all isBlank = true) :
      IsMistaken (p ++ [c] ++ '@' :: n ++ w ++ '|' :: t)

theorem endsStep_of_stepLike : ∀ o ∈ stepLikeOperators, o.getLast?.any endsStep = true := by decide

theorem getLast?_append_of_stepLike (ho : u ∈ stepLikeOperators) (p : Chars) :
    (p ++ u).getLast?.any endsStep = true := by
  have hlast := endsStep_of_stepLike u ho
  rw [List.getLast?_append]
  cases h : u.getLast? with
  | none =>
    rw [h] at hlast
    cases hlast
  | some c =>
    rw [h] at hlast
    exact hlast

/-- An attribute's name and blanks up to the end of a branch are glued onto what ends a step before them. -/
theorem exists_glued (hstep : u.getLast?.any endsStep = true) (hname : n ≠ [])
    (hchars : n.all isAttributeNameChar = true) (hw : w.all isBlank = true) (ht : FollowsBranch t) :
    ∃ b ∈ branches (u ++ '@' :: n ++ w ++ t), ∃ p, IsGlued b p n := by
  obtain ⟨x, p, rfl, hx, hp⟩ := exists_last_branch u
  have hlast : p.getLast?.any endsStep = true := by
    cases p with
    | nil =>
      rw [List.append_nil] at hstep
      rcases hx with rfl | ⟨y, rfl⟩
      · cases hstep
      · rw [List.getLast?_concat] at hstep
        exact absurd hstep (by decide)
    | cons c p =>
      rw [List.getLast?_append, List.getLast?_cons] at hstep
      rw [List.getLast?_cons]
      exact hstep
  have hglued := isGlued_append hlast hname hchars hw
  have hbar : '|' ∉ p ++ '@' :: n ++ w := by
    have hn : '|' ∉ n := fun h => absurd (List.all_eq_true.mp hchars _ h) (by decide)
    have hw' : '|' ∉ w := fun h => absurd (List.all_eq_true.mp hw _ h) (by decide)
    simp [hp, hn, hw']
  refine ⟨_, ?_, p, hglued⟩
  have hmem := mem_branches hx hbar ht
  simpa only [List.append_assoc] using hmem

theorem IsMistaken.expandShorthand_ne (h : IsMistaken s) : expandShorthand s ≠ s := by
  have hglued : ∃ b ∈ branches s, ∃ p n, IsGlued b p n := by
    cases h with
    | operator ho _ hname hchars hw ht =>
      obtain ⟨b, hb, p, hglued⟩ := exists_glued (getLast?_append_of_stepLike ho _) hname hchars hw ht
      exact ⟨b, hb, p, _, hglued⟩
    | @literal p n w t c q hc _ hname hchars hw =>
      have hstep : (p ++ [c]).getLast?.any endsStep = true := by
        rw [List.getLast?_concat]
        exact hc
      obtain ⟨b, hb, p, hglued⟩ := exists_glued hstep hname hchars hw (.inr ⟨t, rfl⟩)
      exact ⟨b, hb, p, n, hglued⟩
  obtain ⟨b, hb, p, n, hglued⟩ := hglued
  exact fun hkept => expandShorthand_eq_self_iff.mp hkept b hb p n hglued

/-! ## Accepted queries -/

theorem isQuote_eq_false_of_nameChar {c : Char} (h : isAttributeNameChar c = true) : isQuote c = false := by
  rw [isQuote, Bool.or_eq_false_iff, beq_eq_false_iff_ne, beq_eq_false_iff_ne]
  constructor <;> rintro rfl <;> exact absurd h (by decide)

theorem isQuote_eq_false_of_isBlank {c : Char} (h : isBlank c = true) : isQuote c = false := by
  rw [isQuote, Bool.or_eq_false_iff, beq_eq_false_iff_ne, beq_eq_false_iff_ne]
  constructor <;> rintro rfl <;> exact absurd h (by decide)

/-- Only quotation marks are open. -/
theorem isQuote_of_openQuote {before : Option Char} {q : Char} (hbefore : ∀ q ∈ before, isQuote q = true)
    (h : openQuote before u = some q) : isQuote q = true := by
  induction u generalizing before with
  | nil =>
    rw [openQuote] at h
    exact hbefore q h
  | cons c u ih =>
    cases before with
    | none =>
      rw [openQuote] at h
      refine ih (fun d hd => ?_) h
      split at hd
      · next hc =>
        obtain rfl := Option.some.inj hd
        exact hc
      · cases hd
    | some d =>
      rw [openQuote] at h
      refine ih (fun e he => ?_) h
      split at he
      · cases he
      · obtain rfl := Option.some.inj he
        exact hbefore d rfl

/-- A literal that holds what looks like a glued attribute does not end there. -/
theorem openQuote_append_name {q : Char} (hquote : openQuote none u = some q)
    (hchars : n.all isAttributeNameChar = true) (hblanks : w.all isBlank = true) :
    openQuote none (u ++ '@' :: n ++ w) = some q := by
  have hq := isQuote_of_openQuote (by simp) hquote
  have hfree : ∀ c ∈ '@' :: n ++ w, isQuote c = false := by
    intro c hc
    rcases List.mem_append.mp hc with hc | hc
    · rcases List.mem_cons.mp hc with rfl | hc
      · rfl
      · exact isQuote_eq_false_of_nameChar (List.all_eq_true.mp hchars c hc)
    · exact isQuote_eq_false_of_isBlank (List.all_eq_true.mp hblanks c hc)
  rw [List.append_assoc, openQuote_append, hquote]
  refine openQuote_of_not_mem fun c hc heq => ?_
  rw [← heq, hfree c hc] at hq
  cases hq

/-- A query is expanded to another one only if an at sign in it is mistaken: its attributes have slashes. -/
theorem isMistaken_of_ne (hlexed : Lexed true s) (h : expandShorthand s ≠ s) : IsMistaken s := by
  rw [Ne, expandShorthand_eq_self_iff] at h
  push Not at h
  obtain ⟨b, hb, p, n, hglued⟩ := h
  obtain ⟨x, t, rfl, ht⟩ := exists_append_of_mem_branches hb
  obtain ⟨w, hw, hblanks⟩ := exists_blanks b
  rw [hglued.trimmed] at hw
  obtain ⟨r, c, rfl, hc⟩ : ∃ r c, p = r ++ [c] ∧ endsStep c = true := by
    have hstep := hglued.step
    rcases List.eq_nil_or_concat p with rfl | ⟨r, c, rfl⟩
    · cases hstep
    · rw [List.concat_eq_append] at hstep ⊢
      rw [List.getLast?_concat] at hstep
      exact ⟨r, c, rfl, hstep⟩
  obtain ⟨u, hu⟩ : ∃ u, u = x ++ r := ⟨_, rfl⟩
  have hs : x ++ b ++ t = u ++ [c] ++ '@' :: n ++ w ++ t := by
    rw [hw, hu]
    simp only [List.append_assoc]
  rw [hs] at hlexed ⊢
  cases hquote : openQuote none (u ++ [c]) with
  | none =>
    -- the attribute is no part of a literal, so an operator stands before it
    obtain ⟨hallows, -⟩ := hlexed.admits (u ++ [c]) (n ++ w ++ t) (by simp) hquote
    rcases hallows with hlast | ⟨o, ho, y, hy⟩
    · rw [List.getLast?_concat, Option.any_some, hc] at hlast
      cases hlast
    · rw [← hy] at hquote ⊢
      exact .operator ho hquote hglued.name hglued.chars hblanks ht
  | some q =>
    rcases ht with rfl | ⟨r, rfl⟩
    · -- the quotation mark has to be closed after the name
      have hclosed := hlexed.closed
      rw [List.append_nil, openQuote_append_name hquote hglued.chars hblanks] at hclosed
      cases hclosed
    · exact .literal hc hquote hglued.name hglued.chars hblanks

/-- A query that is accepted as it is keeps its text as shorthand, unless an at sign in it is mistaken. -/
theorem convert_eq_self_iff (s : String) (h : (Query.read s.toList).isOk = true) :
    Translator.shorthand.convert s = .ok s ↔ ¬ IsMistaken s.toList := by
  have hsame : Translator.shorthand.convert s = .ok s ↔ expandShorthand s.toList = s.toList := by
    rw [Translator.convert, Except.ok.injEq, ← String.toList_inj, String.toList_ofList]
  rw [hsame]
  refine ⟨fun hkept hmistaken => hmistaken.expandShorthand_ne hkept, fun h' => ?_⟩
  by_contra hne
  exact h' (isMistaken_of_ne (lexed_of_read h) hne)

/-- A sum of attributes is kept. -/
theorem convert_sum_of_attributes :
    (Query.read "//a[@x]/@n + @m".toList).isOk = true ∧
      (Translator.shorthand.convert "//a[@x]/@n + @m" = .ok "//a[@x]/@n + @m" ↔
        ¬ IsMistaken "//a[@x]/@n + @m".toList) :=
  have haccepted : (Query.read "//a[@x]/@n + @m".toList).isOk = true := by decide +kernel
  ⟨haccepted, convert_eq_self_iff "//a[@x]/@n + @m" haccepted⟩

/-- A product with an attribute and a literal with a bar are queries, and they are not kept. -/
theorem convert_changes_query :
    ((Query.read "3*@n".toList).isOk = true ∧ Translator.shorthand.convert "3*@n" = .ok "3*/@n") ∧
      ((Query.read "contains(.,'x@y|z')".toList).isOk = true ∧
        Translator.shorthand.convert "contains(.,'x@y|z')" = .ok "contains(.,'x/@y|z')") := by
  refine ⟨⟨by decide +kernel, ?_⟩, by decide +kernel, ?_⟩
  · exact congrArg Except.ok (by decide +kernel)
  · exact congrArg Except.ok (by decide +kernel)

end MarkupQuery.Selector
