import MarkupQuery.Yaml.Token
import MarkupQuery.Proofs.Yaml.Words

/-!
# Reading one token after another

Reading a text is a run of single steps. A run is told from its end (`Reading.Yields`): the tokens that it
comes to are those from the state after a step. Between two tokens blanks and line ends are passed, and
blocks are closed that are indented more than what comes next; where reading has come to after that
(`Point`) is all that the rest of the run depends on, however many characters and lines were before it.
-/

namespace MarkupQuery.Yaml

open MarkupQuery.Text

variable {s t u : Reading} {ts : List Token} {z : Chars}

/-! ## Runs -/

/-- Reading on from a state ends with some tokens. -/
inductive Reading.Yields : Reading → List Token → Prop
  /-- The end is read. -/
  | last {s t : Reading} (h : s.readToken = .ok t) (hdone : t.done = true) : Yields s t.tokens.toList
  /-- A token is read, and reading goes on after it. -/
  | next {s t u : Reading} {ts : List Token} (h : s.readToken = .ok t) (hdone : t.done = false)
      (hstale : t.dropStale = .ok u) (hless : u.cursor.rest.length < s.cursor.rest.length)
      (hrest : Yields u ts) : Yields s ts

theorem Reading.Yields.readTokens (h : s.Yields ts) {fuel : Nat}
    (hfuel : s.cursor.rest.length < fuel) : readTokens fuel s = ts := by
  -- every token passes a character, so that the fuel lasts as long as the text
  induction h generalizing fuel with
  | last h hdone =>
    obtain ⟨fuel, rfl⟩ := Nat.exists_eq_add_of_lt hfuel
    rw [Yaml.readTokens, h]
    dsimp only
    rw [if_pos hdone]
  | next h hdone hstale hless hrest ih =>
    cases fuel with
    | zero => exact absurd hfuel (Nat.not_lt_zero _)
    | succ fuel =>
      rw [Yaml.readTokens, h]
      dsimp only
      rw [if_neg (by simp [hdone]), hstale]
      exact ih (by omega)

/-! ## Going to the next token -/

/-- The cursor is at the next token, and the innermost block holds it. -/
structure Reading.Settled (s : Reading) : Prop where
  here : s.toToken = s
  fresh : s.dropStale = .ok s
  placed : s.unwind s.cursor.column = s

/-- Going to the next token leads to some state. -/
def Reading.Settles (s t : Reading) : Prop :=
  ∃ u, s.toToken.dropStale = .ok u ∧ u.unwind u.cursor.column = t

theorem Reading.Settles.readToken (h : s.Settles t) (ht : t.Settled) : s.readToken = t.readToken := by
  obtain ⟨u, hu, rfl⟩ := h
  unfold Reading.readToken
  rw [hu, ht.here, ht.fresh]
  dsimp only [bind, Except.bind]
  rw [ht.placed]

/-- Where the next token is read does not depend on what was passed before it. -/
theorem Reading.Settles.yields (h : s.Settles t) (ht : t.Settled)
    (hle : t.cursor.rest.length ≤ s.cursor.rest.length) (hyields : t.Yields ts) : s.Yields ts := by
  have heq := h.readToken ht
  cases hyields with
  | last h hdone => exact .last (heq.trans h) hdone
  | next h hdone hstale hless hrest =>
    exact .next (heq.trans h) hdone hstale (Nat.lt_of_lt_of_le hless hle) hrest

theorem Cursor.skipComment_spaces (hz : ∀ c, z.head? = some c → c ≠ ' ' ∧ c ≠ '#') (n i l k : Nat) :
    (⟨spaces n ++ z, i, l, k⟩ : Cursor).skipComment = ⟨z, i + n, l, k + n⟩ := by
  have hspace : z.head? ≠ some ' ' := fun h => (hz _ h).1 rfl
  have hat : (⟨z, i + n, l, k + n⟩ : Cursor).at? '#' = false := by
    cases z with
    | nil => rfl
    | cons c z => simpa [Cursor.at?, Cursor.peek] using (hz c rfl).2
  rw [Cursor.skipComment, Cursor.skipWhile, Cursor.span_spaces hspace]
  dsimp only
  rw [hat, if_neg Bool.false_ne_true]

theorem Opens.head (h : Opens z) : ∀ c, z.head? = some c → c ≠ ' ' ∧ c ≠ '#' := by
  intro c hc
  obtain ⟨hvisible, hcomment⟩ := h c hc
  exact ⟨ne_of_isVisible hvisible (by decide), hcomment⟩

theorem skipToToken_here (hz : Opens z) (n i l k fuel : Nat) (newLine : Bool) :
    skipToToken (fuel + 1) ⟨spaces n ++ z, i, l, k⟩ newLine = (⟨z, i + n, l, k + n⟩, newLine) := by
  have hpeek : (⟨z, i + n, l, k + n⟩ : Cursor).peek.any isBreak = false := by
    cases z with
    | nil => rfl
    | cons c z => exact isBreak_of_isVisible (hz c rfl).1
  rw [skipToToken, Cursor.skipComment_spaces hz.head, hpeek, if_neg Bool.false_ne_true]

theorem skipToToken_line (hz : Opens z) (n i l k fuel : Nat) (newLine : Bool) :
    skipToToken (fuel + 2) ⟨'\n' :: (spaces n ++ z), i, l, k⟩ newLine
      = (⟨z, i + 1 + n, l + 1, n⟩, true) := by
  have hline : ∀ c, ('\n' :: (spaces n ++ z)).head? = some c → c ≠ ' ' ∧ c ≠ '#' := by
    intro c hc
    obtain rfl := Option.some.inj hc
    decide
  have hpassed := Cursor.skipComment_spaces hline 0 i l k
  rw [spaces_zero, List.nil_append] at hpassed
  have hpeek : (⟨'\n' :: (spaces n ++ z), i, l, k⟩ : Cursor).peek.any isBreak = true := rfl
  have hnext : (⟨'\n' :: (spaces n ++ z), i, l, k⟩ : Cursor).next = ⟨spaces n ++ z, i + 1, l + 1, 0⟩ :=
    rfl
  rw [skipToToken, hpassed]
  simp only [Nat.add_zero]
  rw [hpeek, if_pos rfl, hnext, skipToToken_here hz, Nat.zero_add]

theorem Opens.not_byteMark (hz : Opens z) (n i l k : Nat) :
    (⟨spaces n ++ z, i, l, k⟩ : Cursor).at? '\ufeff' = false := by
  cases n with
  | succ n => rfl
  | zero =>
    cases z with
    | nil => rfl
    | cons c z =>
      have hne : c ≠ '\ufeff' := hz.ne (by decide)
      simp [Cursor.at?, Cursor.peek, hne]

theorem Reading.toToken_here (hz : Opens z) {n i l k : Nat} (h : s.cursor = ⟨spaces n ++ z, i, l, k⟩) :
    s.toToken = s.goto ⟨z, i + n, l, k + n⟩ := by
  have hskip : skipToToken s.cursor.steps s.cursor false = (⟨z, i + n, l, k + n⟩, false) := by
    rw [h]
    exact skipToToken_here hz n i l k _ false
  have hmark : s.cursor.at? '\ufeff' = false := by rw [h, hz.not_byteMark]
  rw [Reading.toToken, hmark, Bool.and_false, if_neg Bool.false_ne_true]
  dsimp only
  rw [hskip, Bool.false_and, Bool.or_false]
  rfl

theorem Reading.toToken_line (hz : Opens z) {n i l k : Nat} (hflow : s.flow = 0)
    (h : s.cursor = ⟨'\n' :: (spaces n ++ z), i, l, k⟩) :
    s.toToken = { s.goto ⟨z, i + 1 + n, l + 1, n⟩ with keyAllowed := true } := by
  have hskip : skipToToken s.cursor.steps s.cursor false = (⟨z, i + 1 + n, l + 1, n⟩, true) := by
    rw [h]
    exact skipToToken_line hz n i l k _ false
  have hmark : s.cursor.at? '\ufeff' = false := by
    rw [h]
    rfl
  rw [Reading.toToken, hmark, Bool.and_false, if_neg Bool.false_ne_true]
  dsimp only
  rw [hskip, beq_iff_eq.mpr hflow, Bool.true_and, Bool.or_true]
  rfl

/-! ## Candidates and blocks -/

theorem Reading.dropStale_kept (h : ∀ k ∈ s.candidates, k.line = s.cursor.line ∧
    s.cursor.index ≤ k.index + 1024) : s.dropStale = .ok s := by
  have hstale : ∀ k ∈ s.candidates,
      (k.line != s.cursor.line || decide (1024 < s.cursor.index - k.index)) = false := by
    intro k hk
    obtain ⟨hline, hindex⟩ := h k hk
    have hnear : ¬1024 < s.cursor.index - k.index := by omega
    simp [hline, hnear]
  have hnone : (s.candidates.any fun k =>
      (k.line != s.cursor.line || decide (1024 < s.cursor.index - k.index)) && k.required) = false := by
    rw [List.any_eq_false]
    intro k hk
    rw [hstale k hk]
    exact Bool.false_ne_true
  have hall : (s.candidates.filter fun k =>
      !(k.line != s.cursor.line || decide (1024 < s.cursor.index - k.index))) = s.candidates := by
    rw [List.filter_eq_self]
    intro k hk
    rw [hstale k hk]
    rfl
  unfold Reading.dropStale
  dsimp only
  rw [hnone, if_neg Bool.false_ne_true, hall]

/-- Candidates that need not become keys are forgotten where they are not on the line any more. -/
theorem Reading.dropStale_optional (h : ∀ k ∈ s.candidates, k.required = false) :
    ∃ ks, s.dropStale = .ok { s with candidates := ks } ∧
      ∀ k ∈ ks, k ∈ s.candidates ∧ k.line = s.cursor.line := by
  have hnone : (s.candidates.any fun k =>
      (k.line != s.cursor.line || decide (1024 < s.cursor.index - k.index)) && k.required) = false := by
    rw [List.any_eq_false]
    intro k hk
    rw [h k hk, Bool.and_false]
    exact Bool.false_ne_true
  refine ⟨s.candidates.filter fun k =>
    !(k.line != s.cursor.line || decide (1024 < s.cursor.index - k.index)), ?_, ?_⟩
  · unfold Reading.dropStale
    dsimp only
    rw [hnone, if_neg Bool.false_ne_true]
  · intro k hk
    obtain ⟨hmem, hkept⟩ := List.mem_filter.mp hk
    simp only [Bool.not_eq_true', Bool.or_eq_false_iff, bne_eq_false_iff_eq] at hkept
    exact ⟨hmem, hkept.1⟩

/-- Going back to a column closes blocks: what is left of them, and the marks of their ends. -/
structure Closes (column indent : Int) (outer : List Int) (indent' : Int) (outer' : List Int)
    (ends : List Token) : Prop where
  eq : ∀ ts : List Token,
    closeBlocks column indent outer ts.toArray = (indent', outer', (ts ++ ends).toArray)
  le : indent' ≤ column

variable {column indent indent' : Int} {outer outer' : List Int} {ends : List Token}

theorem Closes.stay (h : indent ≤ column) (outer : List Int) :
    Closes column indent outer indent outer [] where
  eq ts := by
    rw [List.append_nil]
    cases outer with
    | nil => rfl
    | cons o os => rw [closeBlocks, if_neg (by omega)]
  le := h

theorem Closes.leave {inner : Int} (h : column < inner) (hrest : Closes column indent outer indent' outer' ends) :
    Closes column inner (indent :: outer) indent' outer' (.blockEnd :: ends) where
  eq ts := by
    rw [closeBlocks, if_pos h, List.push_toArray, hrest.eq, List.append_assoc, List.singleton_append]
  le := hrest.le

theorem Reading.unwind_closes (hflow : s.flow = 0) (h : Closes column s.indent s.outer indent' outer' ends) :
    s.unwind column = { s with
      indent := indent', outer := outer', tokens := s.tokens ++ ends.toArray } := by
  have heq := h.eq s.tokens.toList
  rw [Array.toArray_toList] at heq
  rw [Reading.unwind, hflow, heq]
  simp

theorem Reading.unwind_of_le (h : s.flow ≠ 0 ∨ s.indent ≤ column) : s.unwind column = s := by
  by_cases hflow : s.flow = 0
  · have hle := h.resolve_left fun hne => hne hflow
    rw [Reading.unwind_closes hflow (Closes.stay hle s.outer)]
    simp
  · rw [Reading.unwind, if_pos (by simpa using hflow)]

/-- A state outside brackets whose cursor is at the next token. -/
theorem Reading.settled_of_opens (hz : Opens s.cursor.rest) (hcandidates : ∀ k ∈ s.candidates,
    k.line = s.cursor.line ∧ s.cursor.index ≤ k.index + 1024)
    (hplaced : s.flow ≠ 0 ∨ s.indent ≤ s.cursor.column) : s.Settled where
  here := by
    have hcursor : s.cursor = ⟨spaces 0 ++ s.cursor.rest, s.cursor.index, s.cursor.line,
      s.cursor.column⟩ := rfl
    exact Reading.toToken_here hz hcursor
  fresh := Reading.dropStale_kept hcandidates
  placed := Reading.unwind_of_le hplaced

/-! ## Points -/

/-- A place outside brackets with no key in question: what is left of the text and the column where it
begins, the tokens before it, the innermost block and those around it, and whether a key may begin. -/
structure Point where
  rest : Chars
  column : Nat
  tokens : List Token
  indent : Int
  outer : List Int
  keyAllowed : Bool

/-- Reading has come to a point, after some characters and lines. -/
def Point.at (p : Point) (index line : Nat) : Reading :=
  ⟨⟨p.rest, index, line, p.column⟩, p.tokens.toArray, 0, p.indent, p.outer, p.keyAllowed, [], false⟩

/-- Reading on from a point ends with some tokens, whatever was before it. -/
def Point.Yields (p : Point) (ts : List Token) : Prop := ∀ index line, (p.at index line).Yields ts

theorem Point.settled {p : Point} (hz : Opens p.rest) (hle : p.indent ≤ p.column) (index line : Nat) :
    (p.at index line).Settled :=
  Reading.settled_of_opens hz (fun _ hk => absurd hk List.not_mem_nil) (.inr hle)

variable {p q : Point} {n i l k : Nat} {T : List Token} {I I' : Int} {O O' : List Int} {a : Bool}

/-- Reading one token leads from a point to another one. -/
theorem Point.Yields.step (h : q.Yields ts)
    (hstep : ∀ i l, ∃ i' l', (p.at i l).readToken = .ok (q.at i' l'))
    (hless : q.rest.length < p.rest.length) : p.Yields ts := by
  intro i l
  obtain ⟨i', l', heq⟩ := hstep i l
  -- no key is in question, so none is forgotten
  have hfresh : (q.at i' l').dropStale = .ok (q.at i' l') :=
    Reading.dropStale_kept fun _ hk => absurd hk List.not_mem_nil
  exact .next heq rfl hfresh hless (h i' l')

/-- Blanks are passed. -/
theorem Point.Yields.blank (h : Point.Yields ⟨z, k + 1, T, I, O, a⟩ ts) (hz : Opens z)
    (hle : I ≤ k + 1) : Point.Yields ⟨' ' :: z, k, T, I, O, a⟩ ts := by
  intro i l
  have hsettled := Point.settled (p := ⟨z, k + 1, T, I, O, a⟩) hz hle (i + 1) l
  refine Reading.Settles.yields ⟨_, ?_, hsettled.placed⟩ hsettled (Nat.le_succ _) (h (i + 1) l)
  have hcursor : (Point.at ⟨' ' :: z, k, T, I, O, a⟩ i l).cursor = ⟨spaces 1 ++ z, i, l, k⟩ := rfl
  rw [Reading.toToken_here hz hcursor]
  exact hsettled.fresh

/-! ## Line ends -/

/-- Candidates of lines before need not become keys, and are forgotten. -/
theorem Reading.dropStale_passed
    (h : ∀ k ∈ s.candidates, k.required = false ∧ k.line ≠ s.cursor.line) :
    s.dropStale = .ok { s with candidates := [] } := by
  obtain ⟨ks, heq, hkept⟩ := Reading.dropStale_optional fun k hk => (h k hk).1
  have hnone : ks = [] := by
    rw [List.eq_nil_iff_forall_not_mem]
    intro k hk
    obtain ⟨hmem, hline⟩ := hkept k hk
    exact (h k hmem).2 hline
  rw [heq, hnone]

/-- The state after a token at the end of a line: the line end was passed with the token, or it is next.
What may have become a key on the line need not be one. -/
structure Reading.EndsLine (s : Reading) (z : Chars) (n : Nat) : Prop where
  flow : s.flow = 0
  running : s.done = false
  optional : ∀ k ∈ s.candidates, k.required = false
  atEnd : (∃ i l, s.cursor = ⟨z, i, l, n⟩ ∧ s.keyAllowed = true ∧ ∀ k ∈ s.candidates, k.line ≠ l) ∨
    ∃ i l k, s.cursor = ⟨'\n' :: (spaces n ++ z), i, l, k⟩ ∧ ∀ k ∈ s.candidates, k.line = l

/-- After the end of a line reading goes on at the start of the next one, where a key may begin. -/
theorem Reading.EndsLine.settles (h : s.EndsLine z n) (hz : Opens z)
    (hcloses : Closes n s.indent s.outer I' O' ends) :
    ∃ u i l, s.dropStale = .ok u ∧ u.cursor = s.cursor ∧ z.length ≤ u.cursor.rest.length ∧
      u.Settles (Point.at ⟨z, n, s.tokens.toList ++ ends, I', O', true⟩ i l) := by
  obtain ⟨cursor, tokens, flow, indent, outer, keyAllowed, candidates, done⟩ := s
  obtain ⟨hflow, hdone, hoptional, hend⟩ := h
  dsimp only at hflow hdone hoptional hend hcloses
  subst hflow hdone
  -- closing blocks at the first token of the next line
  have hclosed (i l : Nat) (a : Bool) :
      (Reading.mk ⟨z, i, l, n⟩ tokens 0 indent outer a [] false).unwind n
        = Point.at ⟨z, n, tokens.toList ++ ends, I', O', a⟩ i l := by
    rw [Reading.unwind_closes rfl hcloses, Point.at]
    simp
  rcases hend with ⟨i, l, rfl, rfl, hline⟩ | ⟨i, l, k, rfl, hline⟩
  · -- the line end was passed, and with it all candidates
    have hpassed := Reading.dropStale_passed
      (s := ⟨⟨z, i, l, n⟩, tokens, 0, indent, outer, true, candidates, false⟩)
      fun k hk => ⟨hoptional k hk, hline k hk⟩
    refine ⟨_, i, l, hpassed, rfl, Nat.le_refl _, _, ?_, hclosed i l true⟩
    have hcursor : (Reading.mk ⟨z, i, l, n⟩ tokens 0 indent outer true [] false).cursor
        = ⟨spaces 0 ++ z, i, l, n⟩ := rfl
    rw [Reading.toToken_here hz hcursor]
    exact Reading.dropStale_kept fun _ hk => absurd hk List.not_mem_nil
  · -- the line end is next; candidates are forgotten behind it
    obtain ⟨ks, heq, hkept⟩ := Reading.dropStale_optional
      (s := ⟨⟨'\n' :: (spaces n ++ z), i, l, k⟩, tokens, 0, indent, outer, keyAllowed, candidates, false⟩)
      hoptional
    refine ⟨_, i + 1 + n, l + 1, heq, rfl, ?_, _, ?_, hclosed (i + 1 + n) (l + 1) true⟩
    · simp only [List.length_cons, List.length_append]
      omega
    · rw [Reading.toToken_line hz rfl rfl]
      apply Reading.dropStale_passed
      intro k hk
      have hmem := (hkept k hk).1
      refine ⟨hoptional k hmem, ?_⟩
      rw [hline k hmem]
      exact Nat.ne_of_lt (Nat.lt_succ_self l)

/-- A token at the end of a line leads to the first one of the next line. -/
theorem Point.Yields.line (h : Point.Yields ⟨z, n, T ++ ends, I', O', true⟩ ts) (hz : Opens z)
    (hcloses : Closes n I O I' O' ends)
    (hstep : ∀ i l, ∃ t, (p.at i l).readToken = .ok t ∧ t.EndsLine z n ∧ t.tokens.toList = T ∧
      t.indent = I ∧ t.outer = O ∧ t.cursor.rest.length < p.rest.length) : p.Yields ts := by
  intro i l
  obtain ⟨t, heq, hline, rfl, rfl, rfl, hless⟩ := hstep i l
  obtain ⟨u, i', l', hstale, hcursor, hle, hsettles⟩ := hline.settles hz hcloses
  have hsettled := Point.settled (p := ⟨z, n, t.tokens.toList ++ ends, I', O', true⟩) hz hcloses.le i' l'
  refine .next heq hline.running hstale ?_ (hsettles.yields hsettled hle (h i' l'))
  rw [hcursor]
  exact hless

/-- After a token at the end of a line with no key in question, reading goes on at the next line. -/
theorem Point.Yields.newLine (h : Point.Yields ⟨z, n, T ++ ends, I', O', true⟩ ts) (hz : Opens z)
    (hcloses : Closes n I O I' O' ends) :
    Point.Yields ⟨'\n' :: (spaces n ++ z), k, T, I, O, a⟩ ts := by
  intro i l
  have hline : Reading.EndsLine (Point.at ⟨'\n' :: (spaces n ++ z), k, T, I, O, a⟩ i l) z n :=
    ⟨rfl, rfl, nofun, .inr ⟨i, l, k, rfl, nofun⟩⟩
  obtain ⟨u, i', l', hstale, hcursor, hle, hsettles⟩ := hline.settles hz hcloses
  have hsettled := Point.settled (p := ⟨z, n, T ++ ends, I', O', true⟩) hz hcloses.le i' l'
  have hsame : u = Point.at ⟨'\n' :: (spaces n ++ z), k, T, I, O, a⟩ i l := by
    have hfresh := Reading.dropStale_kept (s := Point.at ⟨'\n' :: (spaces n ++ z), k, T, I, O, a⟩ i l)
      fun _ hk => absurd hk List.not_mem_nil
    exact Except.ok.inj (hstale.symm.trans hfresh)
  rw [← hsame]
  exact hsettles.yields hsettled hle (h i' l')

end MarkupQuery.Yaml
