import Mathlib.Data.List.Forall2
import MarkupQuery.Selection
import MarkupQuery.Proofs.Pattern.Language
import MarkupQuery.Proofs.Selector.Shorthand

/-!
# The shorthand as a pattern

An attribute that is glued onto a step can be told by a pattern: an at sign right after a character that ends a
step, the name of the attribute, and blanks up to the end. Replacing the matches of this pattern in a branch is
setting its attribute apart (`substitute_gluedRegex`). There is at most one match, because after it nothing is
left, and it takes all the blanks there are.
-/

namespace MarkupQuery.Selector

open MarkupQuery.Text MarkupQuery.Pattern

variable {p q : Place} {k : Continue} {b n s w : Chars} {c : Char}

/-! ## The pattern -/

/-- The pattern of a glued attribute, as text. -/
def gluedSource : Chars := "(?<=[\\w\\])*])@([\\w:.-]+)\\s*$".toList

/-- What takes its place. -/
def apartTemplate : Chars := "/@\\1".toList

/-- One of some characters, or a word character. -/
def wordOr (cs : Chars) : Node := .chars false (.category .word false :: cs.map fun c => .one c.toNat) {}

/-- A blank. -/
def blankNode : Node := .chars false [.category .space false] {}

/-- The pattern of a glued attribute. -/
def gluedNode : Node :=
  .sequence [.look (some 1) false (.sequence [wordOr [']', ')', '*']]), .chars false [.one '@'.toNat] {},
    .group 1 (.sequence [.repeated .greedy 1 none (wordOr [':', '.', '-'])]),
    .repeated .greedy 0 none blankNode, .anchor (.lineEnd false)]

/-- The pattern of a glued attribute, ready for use. -/
def gluedRegex : Regex := ⟨gluedSource, 1, [], gluedNode⟩

/-- Whether a text is read as a pattern that is known. -/
def readsAs (source : Chars) (r : Regex) : Bool :=
  match Regex.read source {} with
  | .ok t => t.source == r.source && t.groups == r.groups && t.names == r.names && t.body.isSame r.body
  | .error _ => false

theorem read_of_readsAs {source : Chars} {r : Regex} (h : readsAs source r = true) :
    Regex.read source {} = .ok r := by
  rw [readsAs] at h
  split at h
  · next t ht =>
    obtain ⟨source, groups, names, body⟩ := t
    simp only [Bool.and_eq_true, beq_iff_eq] at h
    obtain ⟨⟨⟨rfl, rfl⟩, rfl⟩, hbody⟩ := h
    rw [ht, Node.eq_of_isSame _ hbody]
  · cases h

theorem read_gluedSource : Regex.read gluedSource {} = .ok gluedRegex :=
  read_of_readsAs (by decide +kernel)

theorem compile_gluedSource : (PatternSource.text gluedSource).compile = .ok gluedRegex := by
  rw [PatternSource.compile, read_gluedSource]

theorem readTemplate_apartTemplate :
    readTemplate 1 [] apartTemplate = .ok [.text ['/'], .text ['@'], .group 1] := by
  have hparts : (readTemplate 1 [] apartTemplate).toOption = some [.text ['/'], .text ['@'], .group 1] := by
    decide +kernel
  cases hread : readTemplate 1 [] apartTemplate with
  | error e => rw [hread] at hparts; cases hparts
  | ok parts => rw [hread] at hparts; rw [Option.some.inj hparts]

/-! ## Runs of characters -/

/-- The place after some text. -/
def passed (p : Place) (w : Chars) : Place :=
  { p with before := w.reverse ++ p.before, rest := p.rest.drop w.length, position := p.position + w.length }

theorem passed_rest (h : p.rest = w ++ s) : (passed p w).rest = s := by
  rw [passed, h]
  exact List.drop_left

/-- A repetition of single characters first takes all of them. -/
theorem singlesFrom_eq_cons {test : Char → Bool} {least : Nat} {acc : List Place} (hp : p.rest = w ++ s)
    (hw : ∀ c ∈ w, test c = true) (hs : s.head?.any test = false) (hleast : least ≤ w.length) :
    ∃ more, singlesFrom test p.rest p least none acc = passed p w :: more := by
  induction w generalizing p least acc with
  | nil =>
    obtain rfl : least = 0 := Nat.le_zero.mp hleast
    have hpassed : passed p [] = p := rfl
    rw [List.nil_append] at hp
    cases s with
    | nil => rw [hp, singlesFrom, hpassed]; exact ⟨acc, rfl⟩
    | cons c r =>
      have hc : test c = false := by simpa using hs
      rw [hp, singlesFrom, hc, hpassed]
      exact ⟨acc, rfl⟩
  | cons c w ih =>
    obtain ⟨hc, hw⟩ := List.forall_mem_cons.mp hw
    have hpassed : passed p (c :: w)
        = passed { p with before := c :: p.before, rest := w ++ s, position := p.position + 1 } w := by
      simp [passed, hp, Nat.add_assoc, Nat.add_comm 1]
    rw [hp, List.cons_append, singlesFrom, hc, hpassed]
    refine ih (p := { p with before := c :: p.before, rest := w ++ s, position := p.position + 1 }) rfl hw ?_
    rw [List.length_cons] at hleast
    omega

/-- A result that can be reached after all of the characters is reached. -/
theorem firstOf_singlesFrom {test : Char → Bool} {least : Nat} (hp : p.rest = w ++ s)
    (hw : ∀ c ∈ w, test c = true) (hs : s.head?.any test = false) (hleast : least ≤ w.length)
    (hk : k (passed p w) = some q) : firstOf k (singlesFrom test p.rest p least none []) = some q := by
  obtain ⟨more, hmore⟩ : ∃ more, singlesFrom test p.rest p least none [] = passed p w :: more :=
    singlesFrom_eq_cons hp hw hs hleast
  rw [hmore, firstOf, hk]

/-! ## Sets -/

theorem setMatches_wordOr (cs : Chars) (c : Char) :
    setMatches false (.category .word false :: cs.map fun c => .one c.toNat) {} c
      = (isWord c || cs.any fun k => c == k) := by
  have hform (k d : Char) : (d.toNat == k.toNat) = (d == k) := by
    rw [Bool.eq_iff_iff, beq_iff_eq, beq_iff_eq, Char.toNat_inj]
  simp [setMatches, SetItem.holds, CharClass.holds, caseForms, List.any_map, Function.comp_def, hform]

theorem setMatches_stepEnd :
    setMatches false (.category .word false :: [']', ')', '*'].map fun c => .one c.toNat) {} = endsStep := by
  funext c
  rw [setMatches_wordOr]
  simp only [endsStep, List.any_cons, List.any_nil, Bool.or_false, Bool.or_assoc]

theorem setMatches_nameChar :
    setMatches false (.category .word false :: [':', '.', '-'].map fun c => .one c.toNat) {}
      = isAttributeNameChar := by
  funext c
  rw [setMatches_wordOr]
  simp only [isAttributeNameChar, List.any_cons, List.any_nil, Bool.or_false, Bool.or_assoc]

theorem setMatches_at : setMatches false [.one '@'.toNat] {} = (· == '@') := by
  funext c
  have hform : (c.toNat == '@'.toNat) = (c == '@') := by
    rw [Bool.eq_iff_iff, beq_iff_eq, beq_iff_eq, Char.toNat_inj]
  rw [← hform]
  simp [setMatches, SetItem.holds, caseForms]

theorem setMatches_blank : setMatches false [.category .space false] {} = isBlank := by
  funext c
  simp [setMatches, SetItem.holds, CharClass.holds]

/-! ## Parts -/

section Parts

variable {items : List SetItem} {test : Char → Bool} (h : setMatches false items {} = test)

include h

/-- Looking one character behind. -/
theorem run_behind : (Node.look (some 1) false (.sequence [.chars false items {}])).run k p
    = if p.before.head?.any test then k p else none := by
  obtain ⟨before, rest, position, captures⟩ := p
  cases before with
  | nil => simp [Node.run, Place.back?]
  | cons c before =>
    cases hc : test c <;> simp [Node.run, runAll, Place.back?, Place.step?, h, hc]

/-- Going over one character. -/
theorem run_one : (Node.chars false items {}).run k p
    = if p.rest.head?.any test then k (passed p (p.rest.take 1)) else none := by
  obtain ⟨before, rest, position, captures⟩ := p
  cases rest with
  | nil => simp [Node.run, Place.step?]
  | cons c rest => cases hc : test c <;> simp [Node.run, Place.step?, h, hc, passed]

/-- Going over as many characters as there are. -/
theorem run_many {least : Nat} : (Node.repeated .greedy least none (.chars false items {})).run k p
    = firstOf k (singlesFrom test p.rest p least none []) := by
  rw [← h, Node.run]
  rfl

end Parts

/-! ## Matches -/

/-- After the name of an attribute come blanks, and the end. -/
def afterName (k : Continue) (p : Place) : Option Place :=
  firstOf (fun q => if q.rest = [] ∨ q.rest = ['\n'] then k q else none)
    (singlesFrom isBlank p.rest p 0 none [])

/-- After the at sign come the name of an attribute, and what comes after it. -/
def afterAt (k : Continue) (p : Place) : Option Place :=
  firstOf (fun q => afterName k { q with captures :=
      (1, ⟨p.position, q.position, p.rest.take (q.position - p.position)⟩) :: q.captures })
    (singlesFrom isAttributeNameChar p.rest p 1 none [])

/-- The pattern looks at the character before the place, goes over the at sign, and on. -/
theorem run_gluedNode (k : Continue) (p : Place) : gluedNode.run k p =
    if p.before.head?.any endsStep && p.rest.head? == some '@' then afterAt k (passed p ['@']) else none := by
  have hend (k : Continue) (p : Place) : (Node.anchor (.lineEnd false)).run k p
      = if p.rest = [] ∨ p.rest = ['\n'] then k p else none := by
    simp [Node.run, Anchor.holds]
  have hname (k : Continue) (p : Place) :
      (Node.group 1 (.sequence [.repeated .greedy 1 none (wordOr [':', '.', '-'])])).run k p
        = firstOf (fun q => k { q with captures :=
            (1, ⟨p.position, q.position, p.rest.take (q.position - p.position)⟩) :: q.captures })
          (singlesFrom isAttributeNameChar p.rest p 1 none []) := by
    rw [Node.run, if_neg (by decide), Node.run, runAll, wordOr, run_many setMatches_nameChar]
    rfl
  rw [gluedNode, Node.run, runAll, wordOr, run_behind setMatches_stepEnd]
  cases p.before.head?.any endsStep with
  | false => rfl
  | true =>
    rw [if_pos rfl, runAll, run_one setMatches_at]
    cases hrest : p.rest with
    | nil => rfl
    | cons c rest =>
      have hhead : ((c :: rest).head? == some '@') = (c == '@') := by simp
      rw [hhead]
      cases hc : c == '@' with
      | false => simp [hc]
      | true =>
        obtain rfl := beq_iff_eq.mp hc
        simp only [List.head?_cons, Option.any_some, hc, if_true, Bool.and_self, List.take_succ_cons, List.take_zero]
        rw [runAll, hname, afterAt]
        simp only [runAll, blankNode, run_many setMatches_blank, hend, afterName]

theorem head?_isAttributeNameChar (hw : w.all isBlank = true) : w.head?.any isAttributeNameChar = false := by
  cases w with
  | nil => rfl
  | cons d w =>
    rw [List.all_cons, Bool.and_eq_true] at hw
    exact isAttributeNameChar_of_isBlank hw.1

/-- Where the name of an attribute and blanks reach up to the end, the pattern matches up to there. -/
theorem exists_afterAt (hp : p.rest = n ++ w) (hname : n ≠ []) (hchars : n.all isAttributeNameChar = true)
    (hw : w.all isBlank = true) (hk : ∀ q : Place, p.position < q.position → k q = some q) :
    ∃ q, afterAt k p = some q ∧ q.rest = [] ∧ p.position < q.position ∧
      (q.capture? 1).map (·.text) = some n := by
  obtain ⟨named, hnamed⟩ : ∃ named, named = { passed p n with captures :=
      (1, ⟨p.position, (passed p n).position, p.rest.take ((passed p n).position - p.position)⟩) :: p.captures } :=
    ⟨_, rfl⟩
  have hrest : named.rest = w := by rw [hnamed]; exact passed_rest hp
  have hlength : 0 < n.length := List.length_pos_iff.mpr hname
  have hposition : p.position < (passed named w).position := by
    rw [hnamed]
    simp only [passed]
    omega
  have hend : (passed named w).rest = [] := passed_rest (by rw [hrest, List.append_nil])
  have hafter : afterName k named = some (passed named w) := by
    refine firstOf_singlesFrom (by rw [hrest, List.append_nil]) (List.all_eq_true.mp hw) rfl (Nat.zero_le _) ?_
    rw [hend, if_pos (.inl rfl), hk _ hposition]
  refine ⟨passed named w, ?_, hend, hposition, ?_⟩
  · refine firstOf_singlesFrom hp (List.all_eq_true.mp hchars) (head?_isAttributeNameChar hw) hlength ?_
    rw [← hafter, hnamed]
    rfl
  · rw [hnamed]
    have htaken : p.rest.take n.length = n := by rw [hp, List.take_left]
    simp [Place.capture?, passed, htaken]

/-- Where the pattern matches after an at sign, the name of an attribute and blanks follow. -/
theorem isAttributeName_of_afterAt (h : afterAt k p = some q) : isAttributeName p.rest = true := by
  obtain ⟨p₁, hp₁, h⟩ := mem_of_firstOf h
  obtain ⟨p₂, hp₂, h⟩ := mem_of_firstOf h
  rcases mem_singlesFrom rfl hp₁ with hnil | ⟨n, hn, hchars, hlength, -⟩
  · cases hnil
  · rcases mem_singlesFrom rfl hp₂ with hnil | ⟨w, hw, hblanks, -⟩
    · cases hnil
    · have hend : p₂.rest.all isBlank = true := by
        split at h
        · next hend => rcases hend with hend | hend <;> rw [hend] <;> decide
        · cases h
      have hsplit : p.rest = n ++ (w ++ p₂.rest) := by rw [hn.rest, ← hw.rest]
      have hlast : n.getLast?.any isBlank = false := by
        rw [List.getLast?_eq_some_getLast (List.length_pos_iff.mp hlength), Option.any_some, Bool.eq_false_iff]
        intro hblank
        have hchar := hchars _ (List.getLast_mem (List.length_pos_iff.mp hlength))
        rw [isAttributeNameChar_of_isBlank hblank] at hchar
        cases hchar
      rw [isAttributeName_iff, hsplit, trimEnd_append hlast (by simp [hend]; exact hblanks)]
      exact ⟨List.length_pos_iff.mp hlength, List.all_eq_true.mpr hchars⟩

/-! ## Replacing -/

theorem matchAt?_gluedRegex (p : Place) (advance : Bool) : gluedRegex.matchAt? p advance =
    if p.before.head?.any endsStep && p.rest.head? == some '@' then
      afterAt (fun q => if advance && q.position == p.position then none else some q)
        (passed { p with captures := [] } ['@'])
    else none :=
  run_gluedNode _ _

/-- A match leads to the end, and keeps the name of the attribute. -/
theorem exists_match (hp : p.rest = '@' :: s) (hbefore : p.before.head?.any endsStep = true)
    (hs : isAttributeName s = true) (advance : Bool) : ∃ q, gluedRegex.matchAt? p advance = some q ∧
      q.rest = [] ∧ p.position < q.position ∧ (q.capture? 1).map (·.text) = some (trimEnd s) := by
  obtain ⟨w, hw, hblanks⟩ := exists_blanks s
  obtain ⟨hname, hchars⟩ := isAttributeName_iff.mp hs
  have hafter : (passed { p with captures := [] } ['@']).rest = trimEnd s ++ w := by
    rw [← hw]
    exact passed_rest hp
  have hposition : (passed { p with captures := [] } ['@']).position = p.position + 1 := rfl
  have hhere : (p.before.head?.any endsStep && p.rest.head? == some '@') = true := by
    rw [hbefore, hp]
    rfl
  rw [matchAt?_gluedRegex, hhere, if_pos rfl]
  obtain ⟨q, hq, hrest, hlater, hkept⟩ := exists_afterAt hafter hname hchars hblanks (k := fun q =>
    if advance && q.position == p.position then none else some q) fun q hlater => by
      rw [hposition] at hlater
      have hne : (q.position == p.position) = false := by simp; omega
      simp only [hne, Bool.and_false, Bool.false_eq_true, if_false]
  exact ⟨q, hq, hrest, by omega, hkept⟩

/-- Where nothing is glued on, the pattern does not match. -/
theorem matchAt?_eq_none (hp : p.rest = c :: s)
    (h : (c == '@' && p.before.head?.any endsStep && isAttributeName s) = false) (advance : Bool) :
    gluedRegex.matchAt? p advance = none := by
  rw [matchAt?_gluedRegex]
  split
  · next hhere =>
    simp only [hp, List.head?_cons, Bool.and_eq_true, beq_iff_eq, Option.some.injEq] at hhere
    obtain ⟨hbefore, rfl⟩ := hhere
    rw [hbefore, beq_self_eq_true, Bool.and_self, Bool.true_and] at h
    have hafter : (passed { p with captures := [] } ['@']).rest = s := passed_rest hp
    rw [Option.eq_none_iff_forall_ne_some]
    intro q hq
    have hname := isAttributeName_of_afterAt hq
    rw [hafter, h] at hname
    cases hname
  · rfl

/-- What a search finds in the rest of a branch, told by what setting the attribute apart makes of it. -/
inductive Searched (s skipped u : Chars) : Option (Chars × Match × Place) → Prop
  /-- Nothing is found, and nothing is set apart. -/
  | missed (h : u = s) : Searched s skipped u none
  /-- A match up to the end is found. -/
  | found {gap n : Chars} {m : Match} {q : Place} (hrest : q.rest = []) (htaken : (m.start == m.stop) = false)
      (hgroup : m.group 1 = some n) (hu : u = gap ++ '/' :: '@' :: n) :
      Searched s skipped u (some (skipped.reverse ++ gap, m, q))

theorem searched (hp : p.rest = s) (skipped : Chars) :
    Searched s skipped (unglueFrom p.before.head? s) (gluedRegex.search s p false skipped) := by
  induction s generalizing p skipped with
  | nil =>
    have hnone : gluedRegex.matchAt? p false = none := by
      rw [matchAt?_gluedRegex, hp, List.head?_nil, if_neg (by simp)]
    rw [Regex.search, hnone]
    exact .missed rfl
  | cons c s ih =>
    cases hglued : c == '@' && p.before.head?.any endsStep && isAttributeName s with
    | true =>
      rw [unglueFrom, hglued, if_pos rfl]
      simp only [Bool.and_eq_true, beq_iff_eq] at hglued
      obtain ⟨⟨rfl, hbefore⟩, hname⟩ := hglued
      obtain ⟨q, hq, hrest, hlater, hkept⟩ := exists_match hp hbefore hname false
      have hfound : Searched ('@' :: s) skipped ('/' :: '@' :: trimEnd s)
          (some (skipped.reverse ++ [], gluedRegex.matchOf p q, q)) := by
        refine .found hrest ?_ ?_ rfl
        · simp only [Regex.matchOf, beq_eq_false_iff_ne]
          omega
        · rw [Match.group, if_neg (by decide)]
          simp [Regex.matchOf, gluedRegex, hkept]
      rw [List.append_nil] at hfound
      rw [Regex.search, hq]
      exact hfound
    | false =>
      -- nothing is found here, so this character is skipped
      have hnone := matchAt?_eq_none hp hglued false
      rw [unglueFrom, hglued, if_neg Bool.false_ne_true, Regex.search, hnone]
      have hrest := ih (p := { p with before := c :: p.before, rest := s, position := p.position + 1 }) rfl
        (c :: skipped)
      dsimp only [List.head?_cons] at hrest ⊢
      generalize unglueFrom (some c) s = u at hrest ⊢
      generalize gluedRegex.search s _ false (c :: skipped) = result at hrest ⊢
      cases hrest with
      | missed h => exact .missed (by rw [h])
      | @found gap n m q hrest htaken hgroup hu =>
        rw [List.reverse_cons, List.append_assoc]
        exact .found hrest htaken hgroup (by rw [hu]; rfl)

/-- There is at most one match in a branch, and nothing after it. -/
theorem segments_gluedRegex (b : Chars) :
    (unglue b = b ∧ gluedRegex.segments b = ⟨[], b⟩) ∨
    ∃ gap m n, gluedRegex.segments b = ⟨[(gap, m)], []⟩ ∧ m.group 1 = some n ∧
      unglue b = gap ++ '/' :: '@' :: n := by
  have hsearch : Searched b [] (unglue b) (gluedRegex.search b (.atStart b) false []) :=
    searched (p := .atStart b) rfl []
  have hfirst : gluedRegex.segments b
      = gluedRegex.segmentsFrom (2 * b.length + 1 + 1) (.atStart b) false := rfl
  have hrest : (Place.atStart b).rest = b := rfl
  rw [Regex.segmentsFrom, hrest] at hfirst
  generalize gluedRegex.search b (.atStart b) false [] = result at hsearch hfirst
  generalize unglue b = u at hsearch ⊢
  cases hsearch with
  | missed h => exact .inl ⟨h, hfirst⟩
  | @found gap n m q hrest htaken hgroup hu =>
    have hnone : gluedRegex.matchAt? q false = none := by
      rw [matchAt?_gluedRegex, hrest, List.head?_nil, if_neg (by simp)]
    have hlast : gluedRegex.segmentsFrom (2 * b.length + 1) q false = ⟨[], []⟩ := by
      rw [Regex.segmentsFrom, hrest, Regex.search, hnone]
      rfl
    refine .inr ⟨gap, m, n, ?_, hgroup, hu⟩
    rw [hfirst]
    dsimp only
    rw [htaken, hlast]
    rfl

/-- **Replacing the matches of the pattern is setting the attribute apart.** -/
theorem substitute_gluedRegex (b : Chars) :
    substitute gluedRegex (.template apartTemplate) b = .ok (unglue b) := by
  have hprepare : (Replacement.template apartTemplate).prepare gluedRegex
      = .ok fun m => .ok (expand [.text ['/'], .text ['@'], .group 1] m) := by
    rw [Replacement.prepare]
    simp only [gluedRegex, readTemplate_apartTemplate]
  rw [substitute, hprepare]
  rcases segments_gluedRegex b with ⟨hkept, hsegments⟩ | ⟨gap, m, n, hsegments, hgroup, hu⟩
  · rw [hsegments, hkept]
    rfl
  · rw [hsegments, hu]
    simp [Segments.substituteM, expand, hgroup, bind, Except.bind, pure, Except.pure]

/-! ## Selectors -/

/-- The branches of a converted selector, one by one. -/
theorem forall₂_branches (s : Chars) :
    List.Forall₂ (fun b u =>
      ((PatternSource.text gluedSource).compile >>= fun r => substitute r (.template apartTemplate) b) = .ok u ∧
      ((u = b ∧ ∀ p n, ¬ IsGlued b p n) ∨ ∃ p n, IsGlued b p n ∧ '@' ∉ n ∧ u = p ++ '/' :: '@' :: n))
      (branches s) (branches (expandShorthand s)) := by
  rw [branches_expandShorthand, List.forall₂_map_right_iff]
  refine List.forall₂_same.mpr fun b _ => ⟨?_, ?_⟩
  · rw [compile_gluedSource, ← substitute_gluedRegex b]
    exact pure_bind gluedRegex fun r => substitute r (.template apartTemplate) b
  · have hspec := unglue_spec b
    generalize unglue b = u at hspec ⊢
    cases hspec with
    | glued h => exact .inr ⟨_, _, h, not_mem_of_chars h.chars, rfl⟩
    | kept h => exact .inl ⟨rfl, h⟩

/-- Converting twice is converting once; the parts on both sides of a bar are converted on their own; and every
branch is kept, or it loses the blanks at its end and gets one slash, before its last at sign. What becomes of a
branch is what replacing the matches of the pattern gives. -/
theorem convert_by_branch (a b : String) :
    (Translator.shorthand.convert a >>= Translator.shorthand.convert) = Translator.shorthand.convert a ∧
    Translator.shorthand.convert (a ++ "|" ++ b) =
      (do return (← Translator.shorthand.convert a) ++ "|" ++ (← Translator.shorthand.convert b)) ∧
    ∃ out, Translator.shorthand.convert a = .ok out ∧
      List.Forall₂ (fun b u =>
        ((PatternSource.text gluedSource).compile >>= fun r => substitute r (.template apartTemplate) b) = .ok u ∧
        ((u = b ∧ ∀ p n, ¬ IsGlued b p n) ∨ ∃ p n, IsGlued b p n ∧ '@' ∉ n ∧ u = p ++ '/' :: '@' :: n))
        (branches a.toList) (branches out.toList) := by
  refine ⟨?_, ?_, _, rfl, ?_⟩
  · change Translator.shorthand.convert (String.ofList (expandShorthand a.toList)) = _
    rw [Translator.convert, String.toList_ofList, expandShorthand_expandShorthand]
    rfl
  · have hsplit : (a ++ "|" ++ b).toList = a.toList ++ '|' :: b.toList := by simp
    rw [Translator.convert, hsplit, expandShorthand_append_bar]
    refine congrArg Except.ok (String.toList_inj.mp ?_)
    simp
  · rw [String.toList_ofList]
    exact forall₂_branches a.toList

end MarkupQuery.Selector
