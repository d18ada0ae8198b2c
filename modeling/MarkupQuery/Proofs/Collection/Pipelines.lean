import Mathlib.Data.List.Induction
import MarkupQuery.Proofs.Pattern.Cutting

/-!
# Pipelines of calls on strings

A collection of strings is worked on by one call after the other. A call that is valid by itself never fails on
strings, and gives strings again unless it splits a text at a match in which a group took no part: there it
leaves a gap (`Call.run_ofTexts`). On a gap every later call fails but the one that drops repetitions, which keeps
it (`Call.run_of_gap`). So a pipeline stays with strings exactly if none of its splits meets such a match
(`Strings.pipeline`).
-/

namespace MarkupQuery

open MarkupQuery.Text
open MarkupQuery.Pattern (Regex Match)

/-! ## Calls -/

/-- A call on a collection of strings. -/
inductive Call where
  | unique
  | strip
  | split (p : PatternSource)
  | replace (p : PatternSource) (template : Chars)
  | select (p : PatternSource) (group : Int)

/-- What a call gives. -/
def Call.run (c : Call) (xs : Strings) : Except Fault Strings :=
  match c with
  | .unique => .ok xs.unique
  | .strip => xs.strip
  | .split p => xs.split p
  | .replace p template => xs.replace p (.template template)
  | .select p group => xs.select p (.value (.int group))

/-- What calls give one after the other. -/
def runCalls (calls : List Call) (xs : Strings) : Except Fault Strings := calls.foldlM (fun xs c => c.run xs) xs

/-- The pattern of a call can be made, its template can be read, and the group that it asks for is there. -/
inductive Call.Valid : Call → Prop
  | unique : Valid .unique
  | strip : Valid .strip
  | split {p : PatternSource} {r : Regex} (h : p.compile = .ok r) : Valid (.split p)
  | replace {p : PatternSource} {r : Regex} {template : Chars} {parts : List Pattern.TemplatePart}
      (h : p.compile = .ok r) (htemplate : Pattern.readTemplate r.groups r.names template = .ok parts) :
      Valid (.replace p template)
  | select {p : PatternSource} {r : Regex} {group : Int} (h : p.compile = .ok r) (hlow : 0 ≤ group)
      (hhigh : group ≤ r.groups) : Valid (.select p group)

/-- A call splits one of some texts at a match in which a group took no part. -/
inductive Call.LeavesGap (texts : List Chars) : Call → Prop
  | split {p : PatternSource} {r : Regex} {t : Chars} {m : Match} (h : p.compile = .ok r) (ht : t ∈ texts)
      (hm : m ∈ r.matches t) (hgroup : none ∈ m.groups) : LeavesGap texts (.split p)

/-- The fault of a call on a collection that has a gap. -/
def Call.gapFault : Call → Option Fault
  | .unique => none
  | .strip => some .missingOperation
  | _ => some .wrongType

variable {xs : Strings} {texts : List Chars} {c : Call} {calls : List Call}

/-! ## Strings and gaps -/

theorem none_notMem_ofTexts (texts : List Chars) : none ∉ Strings.ofTexts texts := by
  simp [Strings.ofTexts]

/-- A collection without gaps holds strings only. -/
theorem exists_ofTexts_of_notMem (h : none ∉ xs) : ∃ texts, xs = Strings.ofTexts texts := by
  refine ⟨xs.filterMap id, ?_⟩
  induction xs with
  | nil => rfl
  | cons x xs ih =>
    cases x with
    | none => exact absurd (List.mem_cons_self ..) h
    | some s =>
      exact congrArg (some s :: ·) (ih fun hxs => h (List.mem_cons_of_mem _ hxs))

/-- Dropping repetitions keeps every item once at least. -/
theorem Strings.mem_unique (x : Option Chars) : x ∈ xs.unique ↔ x ∈ xs := by
  have hseen (xs seen : Strings) :
      x ∈ xs.foldl (fun seen x => if seen.contains x then seen else x :: seen) seen ↔ x ∈ seen ∨ x ∈ xs := by
    induction xs generalizing seen with
    | nil => simp
    | cons y ys ih =>
      rw [List.foldl_cons, ih]
      split
      · next hy =>
        rw [List.contains_iff_mem] at hy
        grind
      · grind
  rw [Strings.unique, List.mem_reverse, hseen]
  simp

/-- A gap has the wrong type for what is done with every string. -/
theorem Strings.overTexts_of_gap {β : Type} {g : Chars → Except Fault β} (hg : ∀ s, ∃ b, g s = .ok b)
    (h : none ∈ xs) : xs.overTexts g = .error .wrongType := by
  refine mapM_eq_error (fun x _ => ?_) ⟨none, h, rfl⟩
  cases x with
  | none => exact .inr rfl
  | some s => exact .inl (hg s)

/-! ## One call -/

theorem prepare_template {r : Regex} {template : Chars} {parts : List Pattern.TemplatePart}
    (h : Pattern.readTemplate r.groups r.names template = .ok parts) :
    (Replacement.template template).prepare r = .ok fun m => .ok (Pattern.expand parts m) := by
  rw [Replacement.prepare, h]

theorem check_group {r : Regex} {group : Int} (hlow : 0 ≤ group) (hhigh : group ≤ r.groups) :
    (MatchSelector.group group).check r = .ok () := by
  rw [MatchSelector.check, if_neg (by simp; omega)]

/-- A split leaves a gap for every group that took no part in a match. -/
theorem none_mem_split (r : Regex) (text : Chars) :
    none ∈ r.split text ↔ ∃ m ∈ r.matches text, none ∈ m.groups := by
  simp only [Regex.split, Regex.matches, List.mem_append, List.mem_flatMap, List.mem_cons, List.mem_map,
    List.not_mem_nil, reduceCtorEq, or_false, false_or]
  constructor
  · rintro ⟨piece, hpiece, hgroup⟩
    exact ⟨piece.2, ⟨piece, hpiece, rfl⟩, hgroup⟩
  · rintro ⟨_, ⟨piece, hpiece, rfl⟩, hgroup⟩
    exact ⟨piece, hpiece, hgroup⟩

/-- A valid call on strings does not fail. There is a gap in what it gives exactly if it is a split at a match in
which a group took no part. -/
theorem Call.run_ofTexts (hc : c.Valid) (texts : List Chars) :
    ∃ ys, c.run (Strings.ofTexts texts) = .ok ys ∧ (none ∈ ys ↔ c.LeavesGap texts) := by
  have hstrings {c : Call} (ts : List Chars) (hc : ¬c.LeavesGap texts) :
      none ∈ Strings.ofTexts ts ↔ c.LeavesGap texts :=
    iff_of_false (none_notMem_ofTexts ts) hc
  cases hc with
  | unique =>
    refine ⟨_, rfl, ?_⟩
    rw [Strings.mem_unique]
    exact hstrings texts fun hgap => by cases hgap
  | strip =>
    refine ⟨Strings.ofTexts (texts.map trim), ?_, hstrings _ fun hgap => by cases hgap⟩
    rw [Call.run, Strings.strip, Strings.ofTexts, List.mapM_map]
    exact (mapM_ok (fun t => some (trim t)) texts).trans (by rw [Strings.ofTexts, List.map_map]; rfl)
  | @split p r h =>
    refine ⟨_, Strings.split_ofTexts h texts, ?_⟩
    simp only [List.mem_flatMap, none_mem_split]
    constructor
    · rintro ⟨t, ht, m, hm, hgroup⟩
      exact .split h ht hm hgroup
    · rintro ⟨h', ht, hm, hgroup⟩
      obtain rfl := Except.ok.inj (h.symm.trans h')
      exact ⟨_, ht, _, hm, hgroup⟩
  | @replace p r template parts h htemplate =>
    have hreplace := Strings.replace_of_prepare h _ texts (prepare_template htemplate)
    exact ⟨_, hreplace, hstrings _ fun hgap => by cases hgap⟩
  | @select p r group h hlow hhigh =>
    exact ⟨_, Strings.select_of_extract h texts rfl (check_group hlow hhigh) fun m => rfl,
      hstrings _ fun hgap => by cases hgap⟩

/-- On a gap a valid call fails, unless it is the one that drops repetitions: that one keeps the gap. -/
theorem Call.run_of_gap (hc : c.Valid) (h : none ∈ xs) :
    (c.gapFault = none → ∃ ys, c.run xs = .ok ys ∧ none ∈ ys) ∧
      ∀ f, c.gapFault = some f → c.run xs = .error f := by
  have hfails {c : Call} {f : Fault} (hfault : c.gapFault = some f) (hrun : c.run xs = .error f) :
      (c.gapFault = none → ∃ ys, c.run xs = .ok ys ∧ none ∈ ys) ∧
        ∀ g, c.gapFault = some g → c.run xs = .error g := by
    refine ⟨fun hnone => ?_, fun g hg => ?_⟩
    · rw [hfault] at hnone
      cases hnone
    · rw [hrun, Option.some.inj (hfault.symm.trans hg)]
  -- only dropping repetitions looks at no string; all other calls fail at the first gap
  cases hc with
  | unique => exact ⟨fun _ => ⟨_, rfl, (Strings.mem_unique none).mpr h⟩, nofun⟩
  | strip =>
    refine hfails rfl (mapM_eq_error (fun x _ => ?_) ⟨none, h, rfl⟩)
    cases x with
    | none => exact .inr rfl
    | some s => exact .inl ⟨_, rfl⟩
  | @split p r hcompile =>
    refine hfails rfl ?_
    rw [Call.run, Strings.split, hcompile]
    simp only [bind, Except.bind, Strings.overTexts_of_gap (fun s => ⟨_, rfl⟩) h]
  | @replace p r template parts hcompile htemplate =>
    have hsubstitute (s : Chars) := substitute_of_prepare (prepare_template htemplate) s
    refine hfails rfl ?_
    rw [Call.run, Strings.replace, hcompile]
    simp only [bind, Except.bind, Strings.overTexts_of_gap (fun s => ⟨_, hsubstitute s⟩) h]
  | @select p r group hcompile hlow hhigh =>
    have hkept (s : Chars) : ∃ ts : List Chars, ((do
        let kept ← (r.matches s).mapM (MatchSelector.group group).extract
        return kept.filterMap id) : Except Fault (List Chars)) = .ok ts := by
      have hextract : (r.matches s).mapM (MatchSelector.group group).extract
          = .ok ((r.matches s).map fun m => m.group group.toNat) := mapM_ok _ _
      rw [hextract]
      exact ⟨_, rfl⟩
    refine hfails rfl ?_
    rw [Call.run, Strings.select, hcompile]
    simp only [SelectorArgument.resolve, bind, Except.bind, check_group hlow hhigh] at hkept ⊢
    rw [Strings.overTexts_of_gap hkept h]

/-! ## Pipelines -/

theorem runCalls_concat (calls : List Call) (c : Call) (xs : Strings) :
    runCalls (calls ++ [c]) xs = (runCalls calls xs).bind c.run := by
  rw [runCalls, List.foldlM_append]
  cases hrun : calls.foldlM (fun xs c => c.run xs) xs with
  | error f =>
    rw [runCalls, hrun]
    rfl
  | ok ys =>
    rw [runCalls, hrun]
    show (c.run ys).bind (fun zs => .ok zs) = c.run ys
    cases c.run ys <;> rfl

/-- **Strings stay strings.** Of a pipeline of valid calls on strings no call fails and every result, also between
the calls, holds strings only, if and only if no call of it splits a text at a match in which a group took no
part. A call that does so does not fail but leaves a gap; with a gap in the result, dropping repetitions keeps it
and every other call fails. -/
theorem Strings.pipeline (texts : List Chars) (h : ∀ c ∈ calls, c.Valid) :
    ((∀ before, before <+: calls → ∃ ts, runCalls before (ofTexts texts) = .ok (ofTexts ts)) ↔
      ∀ before c ts, before ++ [c] <+: calls → runCalls before (ofTexts texts) = .ok (ofTexts ts) →
        ¬c.LeavesGap ts) ∧
    ∀ before c, before ++ [c] <+: calls →
      (∀ ts, runCalls before (ofTexts texts) = .ok (ofTexts ts) → c.LeavesGap ts →
        ∃ xs, runCalls (before ++ [c]) (ofTexts texts) = .ok xs ∧ none ∈ xs) ∧
      ∀ xs, runCalls before (ofTexts texts) = .ok xs → none ∈ xs →
        (c.gapFault = none → ∃ ys, runCalls (before ++ [c]) (ofTexts texts) = .ok ys ∧ none ∈ ys) ∧
        ∀ f, c.gapFault = some f → runCalls (before ++ [c]) (ofTexts texts) = .error f := by
  have hvalid {before : List Call} {c : Call} (hstart : before ++ [c] <+: calls) : c.Valid :=
    h c (hstart.subset (by simp))
  have hleaves {before : List Call} {c : Call} {ts : List Chars} (hstart : before ++ [c] <+: calls)
      (hrun : runCalls before (ofTexts texts) = .ok (ofTexts ts)) (hgap : c.LeavesGap ts) :
      ∃ xs, runCalls (before ++ [c]) (ofTexts texts) = .ok xs ∧ none ∈ xs := by
    obtain ⟨ys, hys, hiff⟩ := Call.run_ofTexts (hvalid hstart) ts
    rw [runCalls_concat, hrun]
    exact ⟨ys, hys, hiff.mpr hgap⟩
  refine ⟨⟨?_, ?_⟩, fun before c hstart => ⟨fun ts hrun hgap => hleaves hstart hrun hgap, ?_⟩⟩
  · intro hstrings before c ts hstart hrun hgap
    obtain ⟨xs, hxs, hnone⟩ := hleaves hstart hrun hgap
    obtain ⟨ts', hts'⟩ := hstrings _ hstart
    obtain rfl := Except.ok.inj (hxs.symm.trans hts')
    exact none_notMem_ofTexts ts' hnone
  · intro hnogap before
    -- from the end: the calls before give strings, and the last one leaves no gap in them
    induction before using List.reverseRecOn with
    | nil => exact fun _ => ⟨texts, rfl⟩
    | append_singleton before c ih =>
      intro hstart
      obtain ⟨ts, hrun⟩ := ih ((List.prefix_append before [c]).trans hstart)
      obtain ⟨ys, hys, hiff⟩ := Call.run_ofTexts (hvalid hstart) ts
      have hnone : none ∉ ys := by
        intro hnone
        exact hnogap before c ts hstart hrun (hiff.mp hnone)
      obtain ⟨us, rfl⟩ := exists_ofTexts_of_notMem hnone
      rw [runCalls_concat, hrun]
      exact ⟨us, hys⟩
  · intro xs hrun hnone
    rw [runCalls_concat, hrun]
    exact Call.run_of_gap (hvalid hstart) hnone

/-- A group that takes part in every match leaves no gap. -/
theorem pipeline_taken : ∃ p : PatternSource, p = .text "(b)".toList ∧
    (∀ c ∈ [Call.split p, .strip], c.Valid) ∧ ∀ before, before <+: [Call.split p, .strip] →
      ∃ ts, runCalls before (Strings.ofTexts ["ab c".toList]) = .ok (Strings.ofTexts ts) := by
  obtain ⟨r, hr, htest⟩ := exists_compile_of_test "(b)".toList
    (fun r => (r.matches "ab c".toList).all fun m => !m.groups.contains none) (by decide +kernel)
  refine ⟨_, rfl, ?_⟩
  generalize PatternSource.text "(b)".toList = p at hr
  generalize "ab c".toList = text at htest
  have hvalid : ∀ c ∈ [Call.split p, .strip], c.Valid := by simpa using ⟨.split hr, .strip⟩
  refine ⟨hvalid, (Strings.pipeline [text] hvalid).1.mpr fun before c ts hstart hrun hgap => ?_⟩
  cases hgap with
  | @split q r' t m h ht hm hgroup =>
    -- the split is the first call, so it works on the text itself
    obtain ⟨rfl, rfl⟩ : before = [] ∧ q = p := by
      obtain ⟨rest, heq⟩ := hstart
      rcases before with _ | ⟨d, _ | ⟨e, before⟩⟩ <;> simp_all
    obtain rfl := Except.ok.inj (hr.symm.trans h)
    have htexts : Strings.ofTexts [text] = Strings.ofTexts ts := Except.ok.inj hrun
    obtain rfl := (List.map_inj_right fun _ _ h => Option.some.inj h).mp htexts
    obtain rfl := List.mem_singleton.mp ht
    have hall := List.all_eq_true.mp htest m hm
    simp [hgroup] at hall

/-- A group that takes no part in a match leaves a gap, and the gap cannot be stripped. -/
theorem pipeline_leaves_gap : ∃ p : PatternSource, p = .text "(a)|b".toList ∧
    (∀ c ∈ [Call.split p, .strip], c.Valid) ∧
      runCalls [.split p] (Strings.ofTexts [['b']]) = .ok [some [], none, some []] ∧
      runCalls [.split p, .strip] (Strings.ofTexts [['b']]) = .error .missingOperation := by
  obtain ⟨r, hr, htest⟩ := exists_compile_of_test "(a)|b".toList
    (fun r => r.split ['b'] == [some [], none, some []]) (by decide +kernel)
  refine ⟨_, rfl, ?_⟩
  generalize PatternSource.text "(a)|b".toList = p at hr
  rw [beq_iff_eq] at htest
  have hsplit : (Call.split p).run (Strings.ofTexts [['b']]) = .ok [some [], none, some []] := by
    rw [Call.run, Strings.split_ofTexts hr, List.flatMap_singleton, htest]
  have hrun : runCalls [.split p] (Strings.ofTexts [['b']]) = .ok [some [], none, some []] :=
    (runCalls_concat [] (.split p) _).trans hsplit
  refine ⟨by simpa using ⟨.split hr, .strip⟩, hrun, ?_⟩
  rw [← List.singleton_append, runCalls_concat, hrun]
  rfl

end MarkupQuery
