import MarkupQuery.Collection
import MarkupQuery.Proofs.Endings
import MarkupQuery.Proofs.Pattern.Language

/-!
# Cutting texts at matches

The scan that finds all matches of a text only moves forward and never runs out of steps
(`Regex.cuts_segments`). So the texts between the matches and the texts of the matches make up the text
(`Regex.weave_texts`). Splitting, choosing and replacing all go by this one scan: there is one piece
more than matches, and what takes the place of the matches stands between the pieces of the split
(`Strings.split_select_replace`).
-/

namespace MarkupQuery

open MarkupQuery.Text

namespace Pattern

/-! ## Texts with others between them -/

/-- Texts one after the other, with further texts between them. -/
def weave : List Chars → List Chars → Chars
  | g :: gs, v :: vs => g ++ v ++ weave gs vs
  | gs, _ => gs.flatten

/-- The texts between the matches, the text before the first and that after the last included. -/
def Segments.gaps (s : Segments) : List Chars := s.pieces.map (·.1) ++ [s.last]

theorem Segments.length_gaps (s : Segments) : s.gaps.length = s.pieces.length + 1 := by
  simp [Segments.gaps]

theorem weave_gaps (pieces : List (Chars × Match)) (last : Chars) (f : Match → Chars) :
    weave (Segments.gaps ⟨pieces, last⟩) (pieces.map fun p => f p.2)
      = pieces.flatMap (fun p => p.1 ++ f p.2) ++ last := by
  induction pieces with
  | nil => simp [Segments.gaps, weave]
  | cons p pieces ih =>
    rw [Segments.gaps] at ih
    rw [Segments.gaps, List.map_cons, List.map_cons, List.cons_append, weave, ih, List.flatMap_cons]
    simp only [List.append_assoc]

/-- Replacing the matches puts the new texts between the gaps. -/
theorem Segments.substitute_eq_weave (s : Segments) (f : Match → Chars) :
    s.substitute f = weave s.gaps (s.pieces.map fun p => f p.2) :=
  (weave_gaps s.pieces s.last f).symm

/-! ## The scan -/

variable {r : Regex} {p q : Place} {advance : Bool} {m : Match} {gap : Chars} {s : Segments}

/-- The text of a match that leads from one place to another is what lies between them. -/
theorem Place.Passes.text_matchOf {w : Chars} (h : p.Passes w q) : (r.matchOf p q).text = w := by
  show p.rest.take (q.position - p.position) = w
  rw [h.position, Nat.add_sub_cancel_left, h.rest, List.take_left]

/-- A search goes over the text that it skips and the text of the match. If the match had to take
something, or some text was skipped, or the match is not empty, then the search has moved on. -/
theorem Regex.passes_of_search (h : r.search p.rest p advance [] = some (gap, m, q)) :
    p.Passes (gap ++ m.text) q ∧ (m.start = m.stop ↔ m.text = []) ∧
      (advance = true → gap ++ m.text ≠ []) := by
  obtain ⟨u, p', rfl, hskip, -, rfl, hmatch⟩ := r.search_finds rfl h
  obtain ⟨w, hpasses, -, htakes⟩ := Regex.matchAt?_takes hmatch
  rw [hpasses.text_matchOf]
  refine ⟨hskip.trans hpasses, ?_, fun hadvance hnil => ?_⟩
  · show p'.position = q.position ↔ w = []
    rw [hpasses.position, Nat.left_eq_add, List.length_eq_zero_iff]
  · obtain ⟨hu, hw⟩ := List.append_eq_nil_iff.mp hnil
    exact htakes (by rw [hadvance, hu]; rfl) hw

/-- A text cut at all matches from a place on. After an empty match the next one may not be empty where
that one was. -/
inductive Regex.Cuts (r : Regex) : Place → Bool → Segments → Prop
  | last {p : Place} {advance : Bool} (h : r.search p.rest p advance [] = none) :
      r.Cuts p advance ⟨[], p.rest⟩
  | next {p q : Place} {advance : Bool} {gap : Chars} {m : Match} {s : Segments}
      (h : r.search p.rest p advance [] = some (gap, m, q)) (hrest : r.Cuts q (m.start == m.stop) s) :
      r.Cuts p advance ⟨(gap, m) :: s.pieces, s.last⟩

/-- How many matches there may be from a place on. -/
def Place.reach (p : Place) (advance : Bool) : Nat := 2 * p.rest.length + if advance then 0 else 1

/-- A match lowers the number of those that there may be after it. -/
theorem Regex.reach_lt_of_search (h : r.search p.rest p advance [] = some (gap, m, q)) :
    q.reach (m.start == m.stop) < p.reach advance := by
  obtain ⟨hpasses, hempty, htakes⟩ := Regex.passes_of_search h
  have hlength : p.rest.length = (gap ++ m.text).length + q.rest.length := by
    rw [hpasses.rest, List.length_append]
  rw [Place.reach, Place.reach, hlength]
  by_cases hstays : gap ++ m.text = []
  · -- the place stays, so the match is empty and need not have taken anything
    have hsame : (m.start == m.stop) = true :=
      beq_iff_eq.mpr (hempty.mpr (List.append_eq_nil_iff.mp hstays).2)
    have hfree : advance = false := by
      rw [Bool.eq_false_iff]
      exact fun hadvance => htakes hadvance hstays
    rw [hstays, hsame, hfree]
    simp
  · have hpositive : 0 < (gap ++ m.text).length := List.length_pos_iff.mpr hstays
    split <;> split <;> omega

theorem Regex.cuts_segmentsFrom {fuel : Nat} (hfuel : p.reach advance < fuel) :
    r.Cuts p advance (r.segmentsFrom fuel p advance) := by
  induction fuel generalizing p advance with
  | zero => exact absurd hfuel (Nat.not_lt_zero _)
  | succ fuel ih =>
    rw [Regex.segmentsFrom]
    split
    · next h => exact .last h
    · next gap m q h => exact .next h (ih (Nat.lt_of_lt_of_le (reach_lt_of_search h) (Nat.le_of_lt_succ hfuel)))

/-- The segments of a text are all there are. -/
theorem Regex.cuts_segments (r : Regex) (text : Chars) :
    r.Cuts (.atStart text) false (r.segments text) :=
  Regex.cuts_segmentsFrom (by
    show 2 * text.length + 1 < 2 * text.length + 2
    omega)

/-- What is between the matches and the texts of the matches make up the rest of the text. -/
theorem Regex.Cuts.substitute_text (h : r.Cuts p advance s) : s.substitute Match.text = p.rest := by
  induction h with
  | last => rfl
  | next h hrest ih =>
    rw [Segments.substitute] at ih
    rw [Segments.substitute, List.flatMap_cons, List.append_assoc, ih,
      (Regex.passes_of_search h).1.rest]

/-- Every match of a pattern without groups has no groups. -/
theorem Regex.Cuts.groups_eq_nil (h : r.Cuts p advance s) (hgroups : r.groups = 0) :
    ∀ g ∈ s.pieces, g.2.groups = [] := by
  induction h with
  | last => exact nofun
  | next h hrest ih =>
    refine List.forall_mem_cons.mpr ⟨?_, ih⟩
    obtain ⟨-, p', -, -, -, rfl, -⟩ := r.search_finds rfl h
    simp [Regex.matchOf, hgroups]

/-! ## Texts -/

/-- Without groups a split gives what is between the matches. -/
theorem Regex.split_eq_gaps (hgroups : r.groups = 0) (text : Chars) :
    r.split text = (r.segments text).gaps.map some := by
  have hnone := (r.cuts_segments text).groups_eq_nil hgroups
  have hpieces : (r.segments text).pieces.flatMap (fun g => some g.1 :: g.2.groups)
      = (r.segments text).pieces.map fun g => some g.1 := by
    rw [List.map_eq_flatMap, List.flatMap_def, List.flatMap_def]
    exact congrArg List.flatten (List.map_congr_left fun g hg => by rw [hnone g hg])
  simp [Regex.split, Segments.gaps, hpieces]

/-- A text is its gaps with the texts of the matches between them. -/
theorem Regex.weave_texts (r : Regex) (text : Chars) :
    weave (r.segments text).gaps ((r.matches text).map Match.text) = text := by
  have h := (r.cuts_segments text).substitute_text
  rw [Segments.substitute_eq_weave] at h
  rw [Regex.matches, List.map_map]
  exact h

end Pattern

open Pattern (Regex Match weave)

/-! ## Collections -/

/-- A function that gives a text for every match. -/
def textFunction (f : Match → Chars) : MatchFunction := fun m => .ok (.text (f m))

theorem overTexts_ofTexts {β : Type} (texts : List Chars) (g : Chars → Except Fault β) :
    (Strings.ofTexts texts).overTexts g = texts.mapM g := by
  rw [Strings.overTexts, Strings.ofTexts, List.mapM_map]
  rfl

/-- A replacement that never fails replaces the matches of every text. -/
theorem substitute_of_prepare {r : Regex} {replacement : Replacement} {f : Match → Chars}
    (hprepare : replacement.prepare r = .ok fun m => .ok (f m)) (text : Chars) :
    substitute r replacement text = .ok ((r.segments text).substitute f) := by
  have hparts :
      (r.segments text).pieces.mapM (fun p => (.ok (p.1 ++ f p.2) : Except Fault Chars))
        = .ok ((r.segments text).pieces.map fun p => p.1 ++ f p.2) :=
    mapM_ok (fun p => p.1 ++ f p.2) (r.segments text).pieces
  rw [substitute, hprepare]
  show (((r.segments text).pieces.mapM fun p => (.ok (p.1 ++ f p.2) : Except Fault Chars)).bind
    fun parts => .ok (parts.flatten ++ (r.segments text).last)) = _
  rw [hparts, Pattern.Segments.substitute, List.flatMap_def]
  rfl

section

variable {p : PatternSource} {r : Regex} (hcompile : p.compile = .ok r) (f : Match → Chars)
  (texts : List Chars)

include hcompile

/-- Splitting goes text by text. -/
theorem Strings.split_ofTexts : (ofTexts texts).split p = .ok (texts.flatMap r.split) := by
  have hparts := mapM_ok (ε := Fault) r.split texts
  rw [Strings.split, hcompile, List.flatMap_def]
  simp only [bind, Except.bind, overTexts_ofTexts, hparts]
  rfl

/-- Choosing from the matches goes text by text; matches of which nothing is kept give nothing. -/
theorem Strings.select_of_extract {arg : SelectorArgument} {choice : MatchSelector} {g : Match → Option Chars}
    (hresolve : arg.resolve = .ok choice) (hcheck : choice.check r = .ok ())
    (hextract : ∀ m, choice.extract m = .ok (g m)) :
    (ofTexts texts).select p arg = .ok (ofTexts (texts.flatMap fun t => (r.matches t).filterMap g)) := by
  have hkept (t : Chars) : (r.matches t).mapM choice.extract = .ok ((r.matches t).map g) := by
    rw [funext hextract]
    exact mapM_ok g (r.matches t)
  have hvalues (t : Chars) : ((r.matches t).map g).filterMap id = (r.matches t).filterMap g := by
    rw [List.filterMap_map]
    rfl
  have hfound := mapM_ok (ε := Fault) (fun t => (r.matches t).filterMap g) texts
  rw [Strings.select, hresolve, hcompile, List.flatMap_def]
  simp only [bind, Except.bind, hcheck, overTexts_ofTexts, hkept, pure, Except.pure, hvalues, hfound]
  rfl

theorem Strings.select_ofTexts : (ofTexts texts).select p (.function (textFunction f))
    = .ok (ofTexts (texts.flatMap fun t => (r.matches t).map f)) := by
  rw [select_of_extract hcompile texts (g := fun m => some (f m)) rfl rfl fun m => rfl]
  simp only [← List.filterMap_eq_map]
  rfl

/-- Replacing the matches goes text by text. -/
theorem Strings.replace_of_prepare {replacement : Replacement}
    (hprepare : replacement.prepare r = .ok fun m => .ok (f m)) :
    (ofTexts texts).replace p replacement = .ok (ofTexts (texts.map fun t => (r.segments t).substitute f)) := by
  have htexts := mapM_ok (ε := Fault) (fun t => (r.segments t).substitute f) texts
  rw [Strings.replace, hcompile]
  simp only [bind, Except.bind, overTexts_ofTexts, funext (substitute_of_prepare hprepare), htexts]
  rfl

theorem Strings.replace_ofTexts : (ofTexts texts).replace p (.function (textFunction f))
    = .ok (ofTexts (texts.map fun t => (r.segments t).substitute f)) :=
  replace_of_prepare hcompile f texts rfl

/-- Splitting, choosing and replacing agree. For a pattern without groups and one text there is one piece
more than values, and replacing puts the values between the pieces; with the texts of the matches
themselves that is the text. For a collection each of the three gives, one after the other, what it
gives for each text. -/
theorem Strings.split_select_replace (hgroups : r.groups = 0) :
    (∀ text, ∃ pieces values,
      (ofTexts [text]).split p = .ok (ofTexts pieces) ∧
      (ofTexts [text]).select p (.function (textFunction f)) = .ok (ofTexts values) ∧
      pieces.length = values.length + 1 ∧
      (ofTexts [text]).replace p (.function (textFunction f)) = .ok (ofTexts [weave pieces values])) ∧
    (∀ text, (ofTexts [text]).replace p (.function (textFunction Match.text)) = .ok (ofTexts [text])) ∧
    (ofTexts texts).split p = (texts.mapM fun t => (ofTexts [t]).split p).map List.flatten ∧
    (ofTexts texts).select p (.function (textFunction f))
      = (texts.mapM fun t => (ofTexts [t]).select p (.function (textFunction f))).map List.flatten ∧
    (ofTexts texts).replace p (.function (textFunction f))
      = (texts.mapM fun t => (ofTexts [t]).replace p (.function (textFunction f))).map List.flatten := by
  have hmatches (g : Match → Chars) (text : Chars) :
      (r.matches text).map g = (r.segments text).pieces.map fun q => g q.2 := List.map_map
  refine ⟨fun text => ⟨(r.segments text).gaps, (r.matches text).map f, ?_, ?_, ?_, ?_⟩,
    fun text => ?_, ?_, ?_, ?_⟩
  · rw [split_ofTexts hcompile, List.flatMap_singleton, r.split_eq_gaps hgroups]
    rfl
  · rw [select_ofTexts hcompile, List.flatMap_singleton]
  · rw [Pattern.Segments.length_gaps, hmatches, List.length_map]
  · rw [replace_ofTexts hcompile, List.map_singleton, hmatches, Pattern.Segments.substitute_eq_weave]
  · rw [replace_ofTexts hcompile, List.map_singleton, (r.cuts_segments text).substitute_text]
    rfl
  · simp only [split_ofTexts hcompile, List.flatMap_singleton, mapM_ok]
    rw [Except.map, List.flatMap_def]
  · simp only [select_ofTexts hcompile, List.flatMap_singleton, mapM_ok]
    rw [Except.map, List.flatMap_def, ofTexts, List.map_flatten, List.map_map]
    rfl
  · simp only [replace_ofTexts hcompile, List.map_singleton, mapM_ok]
    rw [Except.map, ofTexts, ← List.flatMap_def, List.map_eq_flatMap, List.map_eq_flatMap, List.flatMap_assoc]
    rfl

end

/-- What a test finds of the pattern that a text is. -/
theorem exists_compile_of_test (pattern : Chars) (test : Regex → Bool)
    (h : ((PatternSource.text pattern).compile.toOption.any test) = true) :
    ∃ r, (PatternSource.text pattern).compile = .ok r ∧ test r = true := by
  obtain ⟨r, hr, htest⟩ := (Option.any_eq_true ..).mp h
  refine ⟨r, ?_, htest⟩
  cases hcompile : (PatternSource.text pattern).compile with
  | error f =>
    rw [hcompile] at hr
    cases hr
  | ok r' =>
    rw [hcompile] at hr
    exact congrArg _ (Option.some.inj hr)

/-- Empty matches stand next to another one. -/
theorem split_select_replace_empty :
    ∃ r pieces values, (PatternSource.text "b*".toList).compile = .ok r ∧ r.groups = 0 ∧
      (Strings.ofTexts ["abbc".toList]).split (.text "b*".toList) = .ok (Strings.ofTexts pieces) ∧
      pieces = ["".toList, "a".toList, "".toList, "c".toList, "".toList] ∧
      pieces.length = values.length + 1 ∧
      (Strings.ofTexts ["abbc".toList]).replace (.text "b*".toList) (.function (textFunction fun _ => ['-']))
        = .ok (Strings.ofTexts [weave pieces values]) := by
  obtain ⟨r, hcompile, htest⟩ := exists_compile_of_test "b*".toList (fun r => r.groups == 0 &&
      r.split "abbc".toList
        == ["".toList, "a".toList, "".toList, "c".toList, "".toList].map some) (by decide +kernel)
  rw [Bool.and_eq_true, beq_iff_eq, beq_iff_eq] at htest
  obtain ⟨pieces, values, hsplit, -, hlength, hreplace⟩ :=
    (Strings.split_select_replace hcompile (fun _ => ['-']) [] htest.1).1 "abbc".toList
  refine ⟨r, pieces, values, hcompile, htest.1, hsplit, ?_, hlength, hreplace⟩
  rw [Strings.split_ofTexts hcompile, List.flatMap_singleton, htest.2] at hsplit
  exact ((List.map_inj_right fun _ _ h => Option.some.inj h).mp (Except.ok.inj hsplit)).symm

end MarkupQuery
