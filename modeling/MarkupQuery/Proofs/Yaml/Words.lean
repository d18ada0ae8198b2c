import MarkupQuery.Yaml.Scalar
import MarkupQuery.Yaml.Writer

/-!
# Words of a configuration text

The names and addresses in a configuration are texts of visible ASCII characters (`Solid`). Such a text is
written as it is, or between single quotes where it would be taken for something else
(`writeScalar_solid`), and either way it is read back (`plainScalar_solid`, `quotedScalar_solid`). Plain
text ends where a colon stands before a gap, or where the line ends and the next one is not indented
deeper.
-/

namespace MarkupQuery.Yaml

open MarkupQuery.Text

/-! ## Visible characters -/

/-- The visible characters of ASCII. -/
def isVisible (c : Char) : Bool := '!' ≤ c && c ≤ '~'

/-- A text of visible characters, at least one. -/
structure Solid (s : Chars) : Prop where
  ne_nil : s ≠ []
  visible : ∀ c ∈ s, isVisible c = true

variable {c d : Char} {s z : Chars}

theorem ne_of_isVisible (hc : isVisible c = true) (hd : isVisible d = false) : c ≠ d := by
  rintro rfl
  rw [hc] at hd
  cases hd

theorem isBreak_of_isVisible (h : isVisible c = true) : isBreak c = false := by
  simp only [isBreak, Bool.or_eq_false_iff, beq_eq_false_iff_ne]
  refine ⟨⟨⟨?_, ?_⟩, ?_⟩, ?_⟩ <;> exact ne_of_isVisible h (by decide)

theorem endsWord_of_isVisible (h : isVisible c = true) : endsWord (some c) = false := by
  have hspace : c ≠ ' ' := ne_of_isVisible h (by decide)
  have htab : c ≠ '\t' := ne_of_isVisible h (by decide)
  simp [endsWord, isBreak_of_isVisible h, hspace, htab]

theorem le_of_isVisible (h : isVisible c = true) : 0x21 ≤ c.toNat ∧ c.toNat ≤ 0x7e := by
  simp only [isVisible, Bool.and_eq_true, decide_eq_true_eq] at h
  exact h

/-- Visible characters and spaces: what stands on one line. -/
def isInline (c : Char) : Bool := c == ' ' || isVisible c

theorem isInline_of_isVisible (h : isVisible c = true) : isInline c = true := by
  rw [isInline, h, Bool.or_true]

/-- What stands on one line moves a cursor along the line. -/
theorem Cursor.next_of_isInline {p : Cursor} {r : Chars} (h : p.rest = c :: r)
    (hc : isInline c = true) : p.next = ⟨r, p.index + 1, p.line, p.column + 1⟩ := by
  have hbreak : isBreak c = false := by
    simp only [isInline, Bool.or_eq_true, beq_iff_eq] at hc
    rcases hc with rfl | hc
    · decide
    · exact isBreak_of_isVisible hc
  have hmark : (c == '\ufeff') = false := by
    apply beq_eq_false_iff_ne.mpr
    rintro rfl
    revert hc
    decide
  simp [Cursor.next, h, hbreak, hmark]

theorem Cursor.skip_of_isInline {w : Chars} (hw : ∀ c ∈ w, isInline c = true) {p : Cursor}
    (h : p.rest = w ++ z) :
    Cursor.skip w.length p = ⟨z, p.index + w.length, p.line, p.column + w.length⟩ := by
  induction w generalizing p with
  | nil =>
    obtain ⟨rest, index, line, column⟩ := p
    obtain rfl : rest = z := h
    rfl
  | cons c w ih =>
    obtain ⟨hc, hw⟩ := List.forall_mem_cons.mp hw
    have hnext := Cursor.next_of_isInline h hc
    rw [List.length_cons, Cursor.skip, ih hw (by rw [hnext]; rfl), hnext]
    simp only [Cursor.mk.injEq, true_and]
    omega

theorem Cursor.skip_skip (m n : Nat) (p : Cursor) :
    Cursor.skip n (Cursor.skip m p) = Cursor.skip (m + n) p := by
  induction m generalizing p with
  | zero => rw [Nat.zero_add, Cursor.skip]
  | succ m ih => rw [Cursor.skip, ih, Nat.succ_add, Cursor.skip]

/-! ## Writing -/

/-- Whether a word can stand without quotes. -/
def isPlainWord (s : Chars) : Bool := plainTag s == .str && !hasMarks s

/-- The written form of a word. -/
def writtenWord (s : Chars) : Chars :=
  if isPlainWord s then s else '\'' :: (doubleQuotes s ++ ['\''])

theorem runsOf_solid (h : Solid s) : runsOf s = [.word s] := by
  obtain ⟨hne, hvisible⟩ := h
  induction s with
  | nil => exact absurd rfl hne
  | cons c s ih =>
    obtain ⟨hc, hs⟩ := List.forall_mem_cons.mp hvisible
    have hspace : c ≠ ' ' := ne_of_isVisible hc (by decide)
    have hline : c ≠ '\n' := ne_of_isVisible hc (by decide)
    rw [runsOf, List.foldr_cons, ← runsOf]
    by_cases hnil : s = []
    · subst hnil
      simp [runsOf, addToRuns, hspace, hline]
    · rw [ih hnil hs]
      simp [addToRuns, hspace, hline]

theorem hasPair_eq_false {a b : Char} (ha : isVisible a = false)
    (hs : ∀ c ∈ s, isVisible c = true) : hasPair a b s = false := by
  fun_induction hasPair a b s with
  | case1 x y r ih =>
    obtain ⟨hx, hr⟩ := List.forall_mem_cons.mp hs
    have hne : x ≠ a := ne_of_isVisible hx ha
    simp [hne, ih hr]
  | case2 => rfl

/-- A solid text stands plain or between single quotes, be it a key or not. -/
theorem formOf_solid (h : Solid s) (isKey : Bool) :
    formOf isKey .str s = if isPlainWord s then .plain else .single := by
  have hspecial : hasSpecial s = false := by
    rw [hasSpecial, List.any_eq_false]
    intro c hc
    have hle := le_of_isVisible (h.visible c hc)
    have hlow : ' ' ≤ c := Nat.le_trans (by decide) hle.1
    have hhigh : c ≤ '~' := hle.2
    simp [hlow, hhigh]
  have hline : s.contains '\n' = false := by
    rw [List.contains_eq_mem, decide_eq_false_iff_not]
    intro hmem
    exact absurd (h.visible _ hmem) (by decide)
  have houter : hasOuterBlank s = false := by
    have hmem {o : Option Char} (ho : ∀ c, o = some c → c ∈ s) :
        (o == some ' ' || o == some '\n') = false := by
      simp only [Bool.or_eq_false_iff, beq_eq_false_iff_ne]
      constructor <;> intro heq <;> exact absurd (h.visible _ (ho _ heq)) (by decide)
    rw [hasOuterBlank, Bool.or_eq_false_iff]
    exact ⟨hmem fun c hc => List.mem_of_mem_head? hc, hmem fun c hc => List.mem_of_getLast? hc⟩
  have hempty : s.isEmpty = false := by simpa using h.ne_nil
  have hbefore : hasPair '\n' ' ' s = false := hasPair_eq_false (by decide) h.visible
  have hafter : hasPair ' ' '\n' s = false := hasPair_eq_false (by decide) h.visible
  simp only [formOf, hspecial, hline, houter, hempty, hbefore, hafter, isPlainWord]
  simp

theorem writeScalar_solid {t : String} (h : Solid t.toList) (isKey : Bool) (indent column : Nat) :
    writeScalar isKey indent column (.text t) = writtenWord t.toList := by
  simp only [writeScalar, scalarOf, formOf_solid h, runsOf_solid h, writtenWord]
  by_cases hplain : isPlainWord t.toList
  · simp [hplain, writeRuns]
  · simp [hplain, writeRuns]

/-! ## Reading plain words -/

theorem not_beforeGap (h : isVisible c = true) : beforeGap (some c) = false := by
  have hgaps : ∀ d ∈ [' ', '\t', '\r', '\n', '\x00', '\x85', '\u2028', '\u2029'],
      isVisible d = false := by
    decide
  simp only [beforeGap, Option.all_some, List.contains_eq_mem, decide_eq_false_iff_not]
  intro hmem
  rw [hgaps c hmem] at h
  cases h

/-- A plain word is taken as a whole, if what follows cannot go on with it. -/
theorem plainLength_append {b : Char} (hs : ∀ c ∈ s, isVisible c = true)
    (hmarks : marksInside b s = false) (hz : plainLength false z = 0) :
    plainLength false (s ++ z) = s.length := by
  induction s generalizing b with
  | nil => exact hz
  | cons c s ih =>
    obtain ⟨hc, hs⟩ := List.forall_mem_cons.mp hs
    simp only [marksInside, Bool.or_eq_false_iff] at hmarks
    obtain ⟨⟨hcolon, -⟩, hmarks⟩ := hmarks
    -- a colon goes on with the word, since something visible stands after it
    have hgap : (c == ':' && endsWord (s ++ z).head?) = false := by
      cases s with
      | nil =>
        simp only [List.head?_nil, beforeGap, Option.all_none, Bool.and_true] at hcolon
        rw [hcolon, Bool.false_and]
      | cons d s => simp [endsWord_of_isVisible (hs d List.mem_cons_self)]
    have hword := endsWord_of_isVisible hc
    rw [List.cons_append, plainLength, ih hs hmarks]
    simp only [hword, Bool.false_and, Bool.or_false, hgap]
    simp

theorem ne_of_marksStart {next : Option Char} (h : marksStart c next = false)
    (hd : marksStart d next = true) : c ≠ d := by
  rintro rfl
  rw [h] at hd
  cases hd

/-- A plain word begins with no mark and holds none. -/
theorem Solid.head_plain (h : Solid s) (hplain : isPlainWord s = true) :
    ∃ c r, s = c :: r ∧ marksStart c r.head? = false ∧ marksInside c r = false := by
  cases s with
  | nil => exact absurd rfl h.ne_nil
  | cons c r =>
    simp only [isPlainWord, hasMarks, Bool.and_eq_true, Bool.not_eq_true', Bool.or_eq_false_iff]
      at hplain
    exact ⟨c, r, rfl, hplain.2.2⟩

/-- Text that a new token can begin with: something visible that is no comment, or the end. -/
def Opens (z : Chars) : Prop := ∀ c, z.head? = some c → isVisible c = true ∧ c ≠ '#'

theorem Opens.ne {c d : Char} (h : Opens (c :: z)) (hd : isVisible d = false) : c ≠ d :=
  ne_of_isVisible (h c rfl).1 hd

@[simp] theorem spaces_zero : spaces 0 = [] := rfl

@[simp] theorem length_spaces (n : Nat) : (spaces n).length = n := List.length_replicate

theorem isInline_spaces (n : Nat) : ∀ c ∈ spaces n, isInline c = true := by
  intro c hc
  rw [List.eq_of_mem_replicate hc]
  rfl

theorem Cursor.span_spaces (hz : z.head? ≠ some ' ') (n i l k : Nat) :
    (⟨spaces n ++ z, i, l, k⟩ : Cursor).span (· == ' ') = (spaces n, ⟨z, i + n, l, k + n⟩) := by
  have hpart : (spaces n ++ z).takeWhile (· == ' ') = spaces n := by
    rw [List.takeWhile_append_of_pos (by simp [spaces])]
    cases z with
    | nil => simp
    | cons c z =>
      rw [List.takeWhile_cons_of_neg (by simpa using hz), List.append_nil]
  rw [Cursor.span, hpart, Cursor.skip_of_isInline (isInline_spaces n) rfl, length_spaces]

/-- Before a colon there is no gap. -/
theorem plainGap_colon (i l k : Nat) :
    plainGap ⟨':' :: z, i, l, k⟩ = ⟨[], ⟨':' :: z, i, l, k⟩, false⟩ := by
  have hspan := Cursor.span_spaces (z := ':' :: z) (by simp) 0 i l k
  simp only [spaces_zero, List.nil_append, Nat.add_zero] at hspan
  simp [plainGap, hspan, Cursor.peek, isBreak]

theorem plainEmptyLines_spaces (hz : Opens z) (n i l k fuel : Nat) (empty : Chars) :
    plainEmptyLines (n + fuel + 1) ⟨spaces n ++ z, i, l, k⟩ empty
      = (some empty, ⟨z, i + n, l, k + n⟩) := by
  induction n generalizing i k with
  | zero =>
    rw [spaces_zero, List.nil_append, plainEmptyLines]
    cases z with
    | nil => rfl
    | cons c z =>
      simp [Cursor.at?, Cursor.peek, hz.ne (d := ' ') (by decide), isBreak_of_isVisible (hz c rfl).1]
  | succ n ih =>
    have hnext : (⟨spaces (n + 1) ++ z, i, l, k⟩ : Cursor).next = ⟨spaces n ++ z, i + 1, l, k + 1⟩ :=
      Cursor.next_of_isInline (c := ' ') rfl rfl
    have hat : (⟨spaces (n + 1) ++ z, i, l, k⟩ : Cursor).at? ' ' = true := rfl
    rw [show n + 1 + fuel + 1 = (n + fuel + 1) + 1 by omega, plainEmptyLines, if_pos hat, hnext, ih]
    simp only [Prod.mk.injEq, Cursor.mk.injEq, true_and]
    omega

/-- A line end and the indentation after it fold to a space. -/
theorem plainGap_line (hz : Opens z) {n : Nat} (hsep : startsSeparator (spaces n ++ z) = false)
    (i l k : Nat) :
    plainGap ⟨'\n' :: (spaces n ++ z), i, l, k⟩ = ⟨[' '], ⟨z, i + 1 + n, l + 1, n⟩, true⟩ := by
  have hspan := Cursor.span_spaces (z := '\n' :: (spaces n ++ z)) (by simp) 0 i l k
  rw [spaces_zero, List.nil_append] at hspan
  have hbreak : (⟨'\n' :: (spaces n ++ z), i, l, k⟩ : Cursor).lineBreak
      = (['\n'], ⟨spaces n ++ z, i + 1, l + 1, 0⟩) := rfl
  have hsteps : (⟨spaces n ++ z, i + 1, l + 1, 0⟩ : Cursor).steps = n + z.length + 1 := by
    simp [Cursor.steps]
  have hempty := plainEmptyLines_spaces hz n (i + 1) (l + 1) 0 z.length []
  have hpeek : (⟨'\n' :: (spaces n ++ z), i, l, k⟩ : Cursor).peek.any isBreak = true := rfl
  simp only [plainGap, hspan, Nat.add_zero, hpeek, hbreak, hsep, hsteps, hempty, if_true]
  simp [foldedBreak]

/-- Reading a plain word stops where neither a gap nor a deeper line follows. -/
theorem plainScalar_solid (h : Solid s) (hplain : isPlainWord s = true) {p : Cursor}
    (hp : p.rest = s ++ z) (hz : plainLength false z = 0) {indent : Int} {gap : PlainGap}
    (hgap : plainGap ⟨z, p.index + s.length, p.line, p.column + s.length⟩ = gap)
    (hend : gap.text = [] ∨ (gap.after.column : Int) < indent) :
    plainScalar false indent p = ⟨s, gap.after, gap.newLine⟩ := by
  obtain ⟨c, r, rfl, hstart, hinside⟩ := h.head_plain hplain
  have hmarks : marksInside '!' (c :: r) = false := by
    simp only [marksStart, Bool.or_eq_false_iff, Bool.and_eq_false_iff] at hstart
    rw [marksInside, hinside]
    rcases hstart.2 with hnext | hmark
    · simp [hnext, not_beforeGap (c := '!') rfl]
    · simp [hmark.1.2, not_beforeGap (c := '!') rfl]
  have hlength : plainLength false p.rest = (c :: r).length :=
    hp ▸ plainLength_append h.visible hmarks hz
  have hcomment : p.at? '#' = false := by
    have hne : c ≠ '#' := ne_of_marksStart hstart rfl
    simp [Cursor.at?, Cursor.peek, hp, hne]
  have htake : p.rest.take (c :: r).length = c :: r := by rw [hp]; exact List.take_left
  have hskip := Cursor.skip_of_isInline (fun d hd => isInline_of_isVisible (h.visible d hd)) hp
  have hstop : (gap.text.isEmpty || !false && decide ((gap.after.column : Int) < indent)) = true := by
    rcases hend with hnone | hless
    · simp [hnone]
    · simp [hless]
  rw [plainScalar, Cursor.steps, plainWords]
  simp only [hlength, hcomment, htake, hskip, hgap, hstop]
  simp

/-! ## Reading quoted words -/

/-- The characters that stand for themselves between single quotes and go together. -/
def isUnquoted (c : Char) : Bool := !(c == '\'' || c == '"' || c == '\\' || endsWord (some c))

theorem doubleQuotes_quote (s : Chars) :
    doubleQuotes ('\'' :: s) = '\'' :: '\'' :: doubleQuotes s := rfl

theorem doubleQuotes_cons (h : c ≠ '\'') (s : Chars) :
    doubleQuotes (c :: s) = c :: doubleQuotes s := by
  simp [doubleQuotes, h]

theorem doubleQuotes_append (s t : Chars) :
    doubleQuotes (s ++ t) = doubleQuotes s ++ doubleQuotes t :=
  List.flatMap_append

theorem head?_doubleQuotes (c : Char) (s : Chars) : (doubleQuotes (c :: s)).head? = some c := by
  by_cases h : c = '\''
  · rw [h]
    rfl
  · rw [doubleQuotes_cons h]
    rfl

theorem ne_quote_of_isUnquoted (h : isUnquoted c = true) : c ≠ '\'' := by
  rintro rfl
  cases h

theorem doubleQuotes_of_isUnquoted (h : ∀ c ∈ s, isUnquoted c = true) : doubleQuotes s = s := by
  induction s with
  | nil => rfl
  | cons c s ih =>
    obtain ⟨hc, hs⟩ := List.forall_mem_cons.mp h
    rw [doubleQuotes_cons (ne_quote_of_isUnquoted hc), ih hs]

theorem isVisible_doubleQuotes (h : ∀ c ∈ s, isVisible c = true) :
    ∀ c ∈ doubleQuotes s, isVisible c = true := by
  intro c hc
  obtain ⟨d, hd, hmem⟩ := List.mem_flatMap.mp hc
  split at hmem
  · next hquote =>
    simp only [List.mem_cons, List.not_mem_nil, or_false, or_self] at hmem
    rw [hmem]
    rfl
  · rw [List.mem_singleton.mp hmem]
    exact h d hd

/-- The longest run of characters that go together between quotes. -/
theorem takeWhile_isUnquoted (s z : Chars) :
    (doubleQuotes s ++ '\'' :: z).takeWhile isUnquoted = s.takeWhile isUnquoted := by
  have hrun : ∀ c ∈ s.takeWhile isUnquoted, isUnquoted c = true :=
    List.all_eq_true.mp List.all_takeWhile
  have hsplit : doubleQuotes s = s.takeWhile isUnquoted ++ doubleQuotes (s.dropWhile isUnquoted) := by
    calc doubleQuotes s
        = doubleQuotes (s.takeWhile isUnquoted ++ s.dropWhile isUnquoted) := by
          rw [List.takeWhile_append_dropWhile]
      _ = s.takeWhile isUnquoted ++ doubleQuotes (s.dropWhile isUnquoted) := by
          rw [doubleQuotes_append, doubleQuotes_of_isUnquoted hrun]
  have hstop : (doubleQuotes (s.dropWhile isUnquoted) ++ '\'' :: z).takeWhile isUnquoted = [] := by
    cases hrest : s.dropWhile isUnquoted with
    | nil => rfl
    | cons d t =>
      have hd : isUnquoted d = false := by
        have hhead := List.head?_dropWhile_not isUnquoted s
        rw [hrest] at hhead
        simpa using hhead
      have hhead := head?_doubleQuotes d t
      cases hquoted : doubleQuotes (d :: t) with
      | nil => rw [hquoted] at hhead; cases hhead
      | cons e u =>
        rw [hquoted, List.head?_cons] at hhead
        obtain rfl := Option.some.inj hhead
        exact List.takeWhile_cons_of_neg (by simp [hd])
  rw [hsplit, List.append_assoc, List.takeWhile_append_of_pos hrun, hstop, List.append_nil]

/-- A step inside single quotes takes some characters of the word. -/
theorem quotedWord_step (hc : isVisible c = true) {p : Cursor}
    (hp : p.rest = doubleQuotes (c :: s) ++ '\'' :: z) (fuel : Nat) (text : Chars) :
    ∃ a t, c :: s = a ++ t ∧ a ≠ [] ∧ quotedWord false (fuel + 1) p text
      = quotedWord false fuel (Cursor.skip (doubleQuotes a).length p) (text ++ a) := by
  have hpeek : p.peek = some c := by
    have hhead := head?_doubleQuotes c s
    rw [Cursor.peek, hp, List.head?_append, hhead]
    rfl
  rw [quotedWord, hpeek]
  -- a single quote is written twice; the other marks are taken one by one, all else in one run
  split
  · next heq => cases heq
  · next heq =>
    obtain rfl := Option.some.inj heq
    have hsecond : p.second = some '\'' := by rw [Cursor.second, hp]; rfl
    refine ⟨['\''], s, rfl, List.cons_ne_nil _ _, ?_⟩
    rw [if_neg Bool.false_ne_true, hsecond, if_pos (beq_self_eq_true _)]
    rfl
  · next heq =>
    obtain rfl := Option.some.inj heq
    exact ⟨['"'], s, rfl, List.cons_ne_nil _ _, rfl⟩
  · next heq =>
    obtain rfl := Option.some.inj heq
    exact ⟨['\\'], s, rfl, List.cons_ne_nil _ _, rfl⟩
  · next x hquote hdouble hbackslash heq =>
    obtain rfl := Option.some.inj heq
    have hword := endsWord_of_isVisible hc
    have hunquoted : isUnquoted c = true := by
      simpa [isUnquoted, hword] using ⟨⟨hquote, hdouble⟩, hbackslash⟩
    have hspan : p.span isUnquoted = ((c :: s).takeWhile isUnquoted,
        Cursor.skip ((c :: s).takeWhile isUnquoted).length p) := by
      rw [Cursor.span, hp, takeWhile_isUnquoted]
    have hrun : doubleQuotes ((c :: s).takeWhile isUnquoted) = (c :: s).takeWhile isUnquoted :=
      doubleQuotes_of_isUnquoted (List.all_eq_true.mp List.all_takeWhile)
    refine ⟨(c :: s).takeWhile isUnquoted, (c :: s).dropWhile isUnquoted,
      List.takeWhile_append_dropWhile.symm, ?_, ?_⟩
    · rw [List.takeWhile_cons_of_pos hunquoted]
      exact List.cons_ne_nil _ _
    · rw [if_neg (by simp [hword]), hrun]
      change quotedWord false fuel (p.span isUnquoted).2 (text ++ (p.span isUnquoted).1) = _
      rw [hspan]

theorem quotedWord_doubleQuotes (hs : ∀ c ∈ s, isVisible c = true) (hz : z.head? ≠ some '\'')
    {fuel : Nat} (hfuel : s.length < fuel) {p : Cursor} (hp : p.rest = doubleQuotes s ++ '\'' :: z)
    (text : Chars) :
    quotedWord false fuel p text
      = .ok (text ++ s, Cursor.skip (doubleQuotes s).length p) := by
  induction fuel generalizing s p text with
  | zero => cases hfuel
  | succ fuel ih =>
    cases s with
    | nil =>
      have hpeek : p.peek = some '\'' := by rw [Cursor.peek, hp]; rfl
      have hsecond : (p.second == some '\'') = false := by
        cases z with
        | nil => simp [Cursor.second, hp, doubleQuotes]
        | cons c z => simpa [Cursor.second, hp, doubleQuotes] using hz
      rw [quotedWord, hpeek, List.append_nil]
      simp [hsecond, doubleQuotes, Cursor.skip]
    | cons c s =>
      obtain ⟨a, t, hsplit, hne, hstep⟩ := quotedWord_step (hs c List.mem_cons_self) hp fuel text
      have hlength : t.length < fuel := by
        have h := congrArg List.length hsplit
        have ha := List.length_pos_iff.mpr hne
        rw [List.length_append] at h
        omega
      have hrest : (Cursor.skip (doubleQuotes a).length p).rest = doubleQuotes t ++ '\'' :: z := by
        rw [Cursor.rest_skip, hp, hsplit, doubleQuotes_append, List.append_assoc, List.drop_left]
      rw [hstep, ih (fun d hd => hs d (hsplit ▸ List.mem_append_right a hd)) hlength hrest, hsplit,
        List.append_assoc, doubleQuotes_append, List.length_append, Cursor.skip_skip]

theorem length_le_doubleQuotes (s : Chars) : s.length ≤ (doubleQuotes s).length := by
  induction s with
  | nil => exact Nat.le_refl 0
  | cons c s ih =>
    by_cases h : c = '\''
    · rw [h, doubleQuotes_quote]
      exact Nat.succ_le_succ (Nat.le_succ_of_le ih)
    · rw [doubleQuotes_cons h]
      exact Nat.succ_le_succ ih

/-- A quoted word is read up to its closing quote. -/
theorem quotedScalar_doubleQuotes (hs : ∀ c ∈ s, isVisible c = true) (hz : z.head? ≠ some '\'')
    {p : Cursor} (hp : p.rest = '\'' :: (doubleQuotes s ++ '\'' :: z)) :
    quotedScalar false p = .ok (s, ⟨z, p.index + ((doubleQuotes s).length + 2), p.line,
      p.column + ((doubleQuotes s).length + 2)⟩) := by
  have hnext : p.next = ⟨doubleQuotes s ++ '\'' :: z, p.index + 1, p.line, p.column + 1⟩ :=
    Cursor.next_of_isInline hp rfl
  have hfuel : s.length < p.next.steps := by
    have hle := length_le_doubleQuotes s
    rw [hnext, Cursor.steps, List.length_append]
    omega
  have hword := quotedWord_doubleQuotes hs hz hfuel (congrArg Cursor.rest hnext) []
  have hclose : Cursor.skip (doubleQuotes s).length p.next = ⟨'\'' :: z,
      p.index + 1 + (doubleQuotes s).length, p.line, p.column + 1 + (doubleQuotes s).length⟩ := by
    rw [hnext]
    exact Cursor.skip_of_isInline
      (fun c hc => isInline_of_isVisible (isVisible_doubleQuotes hs c hc)) rfl
  -- the quote after the word is no second one, so it ends it
  have hat : (Cursor.skip (doubleQuotes s).length p.next).at? '\'' = true := by
    rw [hclose]
    rfl
  have hafter := Cursor.next_of_isInline (p := Cursor.skip (doubleQuotes s).length p.next) (c := '\'')
    (congrArg Cursor.rest hclose) rfl
  have hrest (fuel : Nat) :
      quotedRest false (fuel + 1) (Cursor.skip (doubleQuotes s).length p.next) s
        = .ok (s, ⟨z, p.index + ((doubleQuotes s).length + 2), p.line,
            p.column + ((doubleQuotes s).length + 2)⟩) := by
    have hends : (⟨z, p.index + 1 + (doubleQuotes s).length + 1, p.line,
        p.column + 1 + (doubleQuotes s).length + 1⟩ : Cursor)
          = ⟨z, p.index + ((doubleQuotes s).length + 2), p.line,
              p.column + ((doubleQuotes s).length + 2)⟩ := by
      simp only [Cursor.mk.injEq, true_and]
      omega
    rw [quotedRest, if_neg Bool.false_ne_true, if_pos hat, hafter, hclose, hends]
  rw [quotedScalar]
  dsimp only
  rw [hword]
  exact hrest _

end MarkupQuery.Yaml
