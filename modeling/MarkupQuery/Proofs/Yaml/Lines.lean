import MarkupQuery.Proofs.Yaml.Steps

/-!
# Lines of a configuration text

A configuration has few kinds of tokens: words, the colon after a key, the marks of items, keys and values,
the brackets of empty collections. For each of them the tokens of a text that begins with it are told from
those of the text behind it (`Point.Yields.wordLine`, `Point.Yields.key`, `Point.Yields.dash`, ...). A word is
known to be a key only by the colon after it, so that the word and its colon go together.
-/

namespace MarkupQuery.Yaml

open MarkupQuery.Text

variable {s : Reading} {t w z : Chars}

/-! ## Words as tokens -/

/-- Whether a word can begin in a column: at the start of a line it begins with none of the marks there. -/
def Fits (t : Chars) (column : Nat) : Prop :=
  0 < column ∨ ∀ c, t.head? = some c → c ≠ '%' ∧ c ≠ '-' ∧ c ≠ '.'

theorem startsSeparator_eq_false {c : Char} (h : c ≠ '-' ∧ c ≠ '.') (r : Chars) :
    startsSeparator (c :: r) = false := by
  simp [startsSeparator, h.1, h.2]

/-- Which token comes next is told by its first character, unless it is a mark at the start of a line. -/
theorem Reading.Settled.readToken_eq (hs : s.Settled) {x : Char} (hx : s.cursor.peek = some x)
    (hfits : 0 < s.cursor.column ∨ x ≠ '%' ∧ startsSeparator s.cursor.rest = false) :
    s.readToken =
      if x == '[' then s.readOpening .openList
      else if x == '\x7b' then s.readOpening .openMap
      else if x == ']' then s.readClosing .closeList
      else if x == '\x7d' then s.readClosing .closeMap
      else if x == ',' then s.readComma
      else if x == '-' && endsWord s.cursor.second then s.readDash
      else if x == '?' && (s.flow != 0 || endsWord s.cursor.second) then s.readKey
      else if x == ':' && (s.flow != 0 || endsWord s.cursor.second) then s.readColon
      else if x == '*' then s.readAnchor .reference
      else if x == '&' then s.readAnchor .anchor
      else if x == '!' then s.readTag
      else if x == '|' && !(s.flow != 0) then s.readBlock false
      else if x == '>' && !(s.flow != 0) then s.readBlock true
      else if x == '\'' then s.readQuoted false
      else if x == '"' then s.readQuoted true
      else if beginsPlain (s.flow != 0) s.cursor then s.readPlain
      else throw unscannable := by
  -- directives and separators stand in the first column
  have hpercent : (x == '%' && s.cursor.column == 0) = false := by
    rw [Bool.and_eq_false_iff, beq_eq_false_iff_ne, beq_eq_false_iff_ne]
    exact hfits.symm.imp And.left Nat.ne_of_gt
  have hseparator : (s.cursor.column == 0 && startsSeparator s.cursor.rest) = false := by
    rw [Bool.and_eq_false_iff, beq_eq_false_iff_ne]
    exact hfits.imp Nat.ne_of_gt And.right
  unfold Reading.readToken
  rw [hs.here, hs.fresh]
  dsimp only [bind, Except.bind]
  rw [hs.placed, hx]
  dsimp only
  rw [hpercent, Bool.and_assoc, hseparator, Bool.and_false, Bool.and_assoc, hseparator, Bool.and_false]
  rfl

theorem isIndicator_eq_false {c : Char} {next : Option Char} (hstart : marksStart c next = false)
    (h : c ≠ '-' ∧ c ≠ '?' ∧ c ≠ ':') : isIndicator c = false := by
  simp only [marksStart, Bool.or_eq_false_iff] at hstart
  have hlist : ∀ d ∈ "-?:,[]#&*!|>'\"%@".toList,
      d = '-' ∨ d = '?' ∨ d = ':' ∨ "#,[]&*!|>'\"%@".toList.contains d = true := by decide
  have hnot : "-?:,[]#&*!|>'\"%@".toList.contains c = false := by
    rw [← Bool.not_eq_true, List.contains_iff_mem]
    intro hmem
    rcases hlist c hmem with hdash | hquestion | hcolon | hother
    · exact h.1 hdash
    · exact h.2.1 hquestion
    · exact h.2.2 hcolon
    · rw [hstart.1.1.1.1] at hother
      cases hother
  rw [isIndicator, hnot, hstart.1.1.1.2, hstart.1.1.2, hstart.1.2]
  rfl

section

variable {c : Char} {r : Chars} {p : Cursor}

/-- A plain word may begin with a dash, a question mark or a colon only if it goes on after that. -/
theorem Solid.head_of_endsWord (h : Solid (c :: r)) (hstart : marksStart c r.head? = false)
    (hrest : p.rest = c :: r ++ w) (hend : endsWord p.second = true) : c ≠ '-' ∧ c ≠ '?' ∧ c ≠ ':' := by
  have hnil : r = [] := by
    cases r with
    | nil => rfl
    | cons d r =>
      have hd : isVisible d = true := h.visible d (by simp)
      rw [Cursor.second, hrest] at hend
      exact absurd (endsWord_of_isVisible hd) (by simpa using hend)
  rw [hnil] at hstart
  exact ⟨ne_of_marksStart hstart rfl, ne_of_marksStart hstart rfl, ne_of_marksStart hstart rfl⟩

theorem Solid.beginsPlain (h : Solid (c :: r)) (hstart : marksStart c r.head? = false)
    (hrest : p.rest = c :: r ++ w) : beginsPlain false p = true := by
  have hpeek : p.peek = some c := by rw [Cursor.peek, hrest]; rfl
  have hword : endsWord (some c) = false := endsWord_of_isVisible (h.visible c List.mem_cons_self)
  rw [Yaml.beginsPlain, hpeek]
  dsimp only
  rw [hword, Bool.not_false, Bool.true_and, Bool.true_and, Bool.or_eq_true]
  by_cases hindicator : c = '-' ∨ c = '?' ∨ c = ':'
  · have hend : endsWord p.second = false := by
      rw [← Bool.not_eq_true]
      intro hend
      obtain ⟨hdash, hquestion, hcolon⟩ := h.head_of_endsWord hstart hrest hend
      exact hindicator.elim hdash fun h => h.elim hquestion hcolon
    refine .inr ?_
    rw [hend]
    rcases hindicator with rfl | rfl | rfl <;> rfl
  · rw [not_or, not_or] at hindicator
    exact .inl (by rw [isIndicator_eq_false hstart hindicator]; rfl)

end

/-- A plain word is read as one, be it before a colon or at the end of a line. -/
theorem Reading.Settled.readToken_plain (hs : s.Settled) (h : Solid t) (hplain : isPlainWord t = true)
    (hrest : s.cursor.rest = t ++ w) (hfits : Fits t s.cursor.column) (hflow : s.flow = 0) :
    s.readToken = s.readPlain := by
  obtain ⟨c, r, rfl, hstart, -⟩ := h.head_plain hplain
  have hpeek : s.cursor.peek = some c := by rw [Cursor.peek, hrest]; rfl
  have hmark (d : Char) (hd : d = '-' ∨ d = '?' ∨ d = ':') : (c == d && endsWord s.cursor.second) = false := by
    rw [Bool.and_eq_false_iff, beq_eq_false_iff_ne]
    by_cases hend : endsWord s.cursor.second = true
    · obtain ⟨hdash, hquestion, hcolon⟩ := h.head_of_endsWord hstart hrest hend
      rcases hd with rfl | rfl | rfl
      · exact .inl hdash
      · exact .inl hquestion
      · exact .inl hcolon
    · exact .inr (eq_false_of_ne_true hend)
  have hother (d : Char) (hd : marksStart d r.head? = true) : (c == d) = false :=
    beq_eq_false_iff_ne.mpr (ne_of_marksStart hstart hd)
  have hplace : 0 < s.cursor.column ∨ c ≠ '%' ∧ startsSeparator s.cursor.rest = false := by
    refine hfits.imp_right fun hhead => ⟨(hhead c rfl).1, ?_⟩
    rw [hrest]
    exact startsSeparator_eq_false (hhead c rfl).2 _
  rw [hs.readToken_eq hpeek hplace, hflow]
  simp only [hother '[' rfl, hother '\x7b' rfl, hother ']' rfl, hother '\x7d' rfl, hother ',' rfl,
    hother '*' rfl, hother '&' rfl, hother '!' rfl, hother '|' rfl, hother '>' rfl, hother '\'' rfl,
    hother '"' rfl, hmark '-' (.inl rfl)]
  simp [h.beginsPlain hstart hrest, hmark]

theorem writtenWord_plain (h : isPlainWord t = true) : writtenWord t = t := if_pos h

theorem writtenWord_quoted (h : isPlainWord t = false) :
    writtenWord t = '\'' :: (doubleQuotes t ++ ['\'']) := if_neg (by simp [h])

theorem length_writtenWord_pos (h : Solid t) : 0 < (writtenWord t).length := by
  cases hplain : isPlainWord t with
  | true =>
    rw [writtenWord_plain hplain]
    exact List.length_pos_iff.mpr h.ne_nil
  | false =>
    rw [writtenWord_quoted hplain]
    exact Nat.succ_pos _

/-- A written word is something that a token begins with. -/
theorem opens_writtenWord (h : Solid t) (w : Chars) : Opens (writtenWord t ++ w) := by
  intro c hc
  cases hplain : isPlainWord t with
  | true =>
    obtain ⟨d, r, rfl, hstart, -⟩ := h.head_plain hplain
    rw [writtenWord_plain hplain] at hc
    obtain rfl := Option.some.inj hc
    exact ⟨h.visible d List.mem_cons_self, ne_of_marksStart hstart rfl⟩
  | false =>
    rw [writtenWord_quoted hplain] at hc
    obtain rfl := Option.some.inj hc
    decide

variable {p q : Point} {i l n : Nat} {T ts ends : List Token} {I I' : Int} {O O' : List Int} {a : Bool}

/-- The candidate that a token at a point makes. -/
def Point.saved (p : Point) (index line : Nat) : List KeyCandidate :=
  if p.keyAllowed then [⟨0, p.tokens.length, p.indent == p.column, index, line, p.column⟩] else []

theorem Point.saveCandidate_at (p : Point) (i l : Nat) :
    (p.at i l).saveCandidate = .ok { p.at i l with candidates := p.saved i l } := by
  rw [Reading.saveCandidate, Point.saved]
  cases h : p.keyAllowed with
  | true =>
    have hallowed : (p.at i l).keyAllowed = true := h
    rw [if_pos hallowed]
    simp [Reading.dropCandidate, Point.at, bind, Except.bind, pure, Except.pure]
  | false =>
    have hallowed : ¬(p.at i l).keyAllowed = true := by
      show ¬p.keyAllowed = true
      rw [h]
      exact Bool.false_ne_true
    rw [if_neg hallowed]
    rfl

theorem Point.of_mem_saved {k : KeyCandidate} (h : k ∈ p.saved i l) :
    k.line = l ∧ k.required = (p.indent == p.column) := by
  rw [Point.saved] at h
  split at h
  · obtain rfl := List.mem_singleton.mp h
    exact ⟨rfl, rfl⟩
  · cases h

/-- The token of a word. -/
def wordToken (t : Chars) : Token := .scalar t (isPlainWord t)

/-- A word at a point is read as a scalar. -/
theorem Point.readToken_word (h : Solid t) (hrest : p.rest = writtenWord t ++ w)
    (hle : p.indent ≤ p.column) (hfits : Fits t p.column) (hw : plainLength false w = 0)
    (hquote : w.head? ≠ some '\'') {gap : PlainGap}
    (hgap : plainGap ⟨w, i + t.length, l, p.column + t.length⟩ = gap)
    (hend : gap.text = [] ∨ (gap.after.column : Int) < p.indent + 1) :
    (p.at i l).readToken = .ok
      ⟨if isPlainWord t then gap.after
        else ⟨w, i + (writtenWord t).length, l, p.column + (writtenWord t).length⟩,
        (p.tokens ++ [wordToken t]).toArray, 0, p.indent, p.outer,
        isPlainWord t && gap.newLine, p.saved i l, false⟩ := by
  have hsettled := Point.settled (p := p) (hrest ▸ opens_writtenWord h w) hle i l
  have hsaved := p.saveCandidate_at i l
  cases hplain : isPlainWord t with
  | true =>
    -- what follows a plain word is read with it, as far as it is a gap
    rw [writtenWord_plain hplain] at hrest
    have hscalar : plainScalar false (p.indent + 1) (p.at i l).cursor = ⟨t, gap.after, gap.newLine⟩ :=
      plainScalar_solid h hplain hrest hw hgap hend
    rw [hsettled.readToken_plain h hplain hrest hfits rfl, Reading.readPlain, hsaved]
    dsimp only [bind, Except.bind, pure, Except.pure]
    have hsame : plainScalar ((p.at i l).flow != 0) ((p.at i l).indent + 1) (p.at i l).cursor
        = ⟨t, gap.after, gap.newLine⟩ := hscalar
    rw [hsame]
    simp [Reading.push, Reading.goto, Point.at, wordToken, hplain]
  | false =>
    rw [writtenWord_quoted hplain] at hrest ⊢
    have hrest' : (p.at i l).cursor.rest = '\'' :: (doubleQuotes t ++ '\'' :: w) := by
      show p.rest = _
      rw [hrest]
      simp
    have hpeek : (p.at i l).cursor.peek = some '\'' := by rw [Cursor.peek, hrest']; rfl
    have hscalar := quotedScalar_doubleQuotes h.visible hquote hrest'
    have hplace : startsSeparator (p.at i l).cursor.rest = false := by
      rw [hrest']
      exact startsSeparator_eq_false (by decide) _
    rw [hsettled.readToken_eq hpeek (.inr ⟨by decide, hplace⟩)]
    have hsame : (p.at i l).readQuoted false = .ok ⟨⟨w, i + ((doubleQuotes t).length + 2), l,
        p.column + ((doubleQuotes t).length + 2)⟩, (p.tokens ++ [wordToken t]).toArray, 0, p.indent, p.outer,
        false, p.saved i l, false⟩ := by
      rw [Reading.readQuoted, hsaved]
      dsimp only [bind, Except.bind, pure, Except.pure]
      rw [hscalar]
      simp [Reading.push, Reading.goto, Point.at, wordToken, hplain]
    have hlength : ('\'' :: (doubleQuotes t ++ ['\''])).length = (doubleQuotes t).length + 2 := by simp
    rw [hlength]
    exact hsame

/-! ## Words at the end of a line -/

/-- After a word at the end of a line reading goes on at the start of the next line. -/
theorem Point.Yields.wordLine {c : Nat}
    (h : Point.Yields ⟨z, n, T ++ [wordToken t] ++ ends, I', O', true⟩ ts) (ht : Solid t) (hz : Opens z)
    (hsep : startsSeparator (spaces n ++ z) = false) (hcloses : Closes n I O I' O' ends)
    (hn : (n : Int) ≤ I) (hc : I < c) :
    Point.Yields ⟨writtenWord t ++ '\n' :: (spaces n ++ z), c, T, I, O, a⟩ ts := by
  refine h.line hz hcloses fun i l => ?_
  have hcolumn : 0 < c := by omega
  have hread := Point.readToken_word (p := ⟨writtenWord t ++ '\n' :: (spaces n ++ z), c, T, I, O, a⟩)
    (i := i) (l := l) ht rfl (Int.le_of_lt hc) (.inl hcolumn) rfl (by simp)
    (plainGap_line hz hsep (i + t.length) l (c + t.length)) (.inr (by dsimp only; omega))
  refine ⟨_, hread, ⟨rfl, rfl, ?_, ?_⟩, rfl, rfl, rfl, ?_⟩
  · -- the column of the block is not that of the word
    intro k hk
    rw [(Point.of_mem_saved hk).2]
    exact beq_eq_false_iff_ne.mpr (Int.ne_of_lt hc)
  · cases hplain : isPlainWord t with
    | true =>
      refine .inl ⟨_, l + 1, rfl, rfl, fun k hk => ?_⟩
      rw [(Point.of_mem_saved hk).1]
      exact Nat.ne_of_lt (Nat.lt_succ_self l)
    | false => exact .inr ⟨_, l, _, rfl, fun k hk => (Point.of_mem_saved hk).1⟩
  · have hpos := length_writtenWord_pos ht
    cases isPlainWord t <;> simp <;> omega

/-! ## Keys -/

theorem insertIdx_length_append {α : Type} (xs ys : List α) (y : α) :
    (xs ++ ys).insertIdx xs.length y = xs ++ y :: ys := by
  induction xs with
  | nil => rfl
  | cons x xs ih => rw [List.cons_append, List.length_cons, List.insertIdx_succ_cons, ih, List.cons_append]

/-- What a key in a column does to the innermost block: it stands in it, or begins one of its own. -/
inductive OpensBlock (column : Nat) (indent : Int) (outer : List Int) : Int → List Int → List Token → Prop
  | inside (h : indent = column) : OpensBlock column indent outer indent outer []
  | deeper (h : indent < column) : OpensBlock column indent outer column (indent :: outer) [.blockMapping]

variable {c : Nat} {opening : List Token}

/-- The state after a word that began at some index of a line: a colon is next. -/
def atColon (z : Chars) (T : List Token) (x : Token) (I : Int) (O : List Int) (c n i l : Nat) : Reading :=
  ⟨⟨':' :: z, i + n, l, c + n⟩, (T ++ [x]).toArray, 0, I, O, false, [⟨0, T.length, I == c, i, l, c⟩], false⟩

theorem atColon_fresh (x : Token) (hshort : n ≤ 1024) :
    (atColon z T x I O c n i l).dropStale = .ok (atColon z T x I O c n i l) := by
  refine Reading.dropStale_kept fun k hk => ?_
  obtain rfl := List.mem_singleton.mp hk
  exact ⟨rfl, Nat.add_le_add_left hshort i⟩

theorem atColon_readToken_eq (x : Token) (hle : I ≤ c) (hz : endsWord z.head? = true) (hn : 0 < n)
    (hshort : n ≤ 1024) : (atColon z T x I O c n i l).readToken = (atColon z T x I O c n i l).readColon := by
  have hsettled : (atColon z T x I O c n i l).Settled := by
    refine Reading.settled_of_opens ?_ ?_ (.inr ?_)
    · intro d hd
      obtain rfl := Option.some.inj hd
      decide
    · intro k hk
      obtain rfl := List.mem_singleton.mp hk
      exact ⟨rfl, Nat.add_le_add_left hshort i⟩
    · show I ≤ ((c + n : Nat) : Int)
      omega
  have hsecond : endsWord (atColon z T x I O c n i l).cursor.second = true := by
    have hhead : (atColon z T x I O c n i l).cursor.second = z.head? := by
      cases z <;> rfl
    rw [hhead, hz]
  have hcolumn : 0 < (atColon z T x I O c n i l).cursor.column := Nat.add_pos_right c hn
  rw [hsettled.readToken_eq (x := ':') rfl (.inl hcolumn), hsecond]
  simp

/-- The colon after a word makes it a key. -/
theorem atColon_readColon (x : Token) (hopens : OpensBlock c I O I' O' opening) :
    (atColon z T x I O c n i l).readColon = .ok
      (Point.at ⟨z, c + n + 1, T ++ opening ++ [.key, x, .value], I', O', false⟩ (i + n + 1) l) := by
  -- the key goes in front of the word, and the mark of a block in front of both
  have hkey : (atColon z T x I O c n i l).tokens.insertIdxIfInBounds T.length .key
      = (T ++ [.key, x]).toArray := by
    rw [atColon, List.insertIdxIfInBounds_toArray, insertIdx_length_append]
  have hfind : (atColon z T x I O c n i l).candidates.find? (fun k => k.flow == (atColon z T x I O c n i l).flow)
      = some ⟨0, T.length, I == c, i, l, c⟩ := rfl
  have hdrop : (atColon z T x I O c n i l).candidates.filter (fun k => k.flow != (atColon z T x I O c n i l).flow)
      = [] := rfl
  unfold Reading.readColon
  rw [hfind]
  dsimp only
  rw [hkey, hdrop]
  have hdeeper : (0 == 0 && (atColon z T x I O c n i l).deeper c) = decide (I < (c : Int)) := Bool.true_and _
  cases hopens with
  | inside h =>
    have hno : decide (I < (c : Int)) = false := by simp [h]
    rw [hno] at hdeeper
    split
    · next hif => exact absurd (hdeeper.symm.trans hif) Bool.false_ne_true
    · simp [Reading.goto, Reading.push, Point.at, atColon, Cursor.next, isBreak]
      rfl
  | deeper h =>
    have hyes : decide (I < (c : Int)) = true := by simp [h]
    rw [hyes] at hdeeper
    split
    · simp [Reading.goto, Reading.push, Reading.indentTo, Point.at, atColon, Cursor.next, isBreak,
        List.insertIdxIfInBounds_toArray, insertIdx_length_append]
      rfl
    · next hif => exact absurd hdeeper hif

/-- After a key reading goes on behind its colon. -/
theorem Point.Yields.key (h : Point.Yields ⟨z, c + (writtenWord t).length + 1,
      T ++ opening ++ [.key, wordToken t, .value], I', O', false⟩ ts) (ht : Solid t)
    (hshort : (writtenWord t).length ≤ 1024) (hopens : OpensBlock c I O I' O' opening)
    (hz : endsWord z.head? = true) (hfits : Fits t c) :
    Point.Yields ⟨writtenWord t ++ ':' :: z, c, T, I, O, true⟩ ts := by
  intro i l
  have hle : I ≤ c := by cases hopens <;> omega
  have hword : plainLength false (':' :: z) = 0 := by
    rw [plainLength, hz]
    rfl
  have hpos := length_writtenWord_pos ht
  have hread : (Point.at ⟨writtenWord t ++ ':' :: z, c, T, I, O, true⟩ i l).readToken
      = .ok (atColon z T (wordToken t) I O c (writtenWord t).length i l) := by
    rw [Point.readToken_word (p := ⟨writtenWord t ++ ':' :: z, c, T, I, O, true⟩) ht rfl hle hfits hword
      (by simp) (plainGap_colon (i + t.length) l (c + t.length)) (.inl rfl)]
    cases hplain : isPlainWord t with
    | true => rw [writtenWord_plain hplain]; rfl
    | false => rfl
  have hcolon := (atColon_readToken_eq (wordToken t) (T := T) (O := O) (i := i) (l := l) hle hz hpos hshort).trans
    (atColon_readColon (wordToken t) hopens)
  have hfresh : (Point.at ⟨z, c + (writtenWord t).length + 1, T ++ opening ++ [.key, wordToken t, .value],
      I', O', false⟩ (i + (writtenWord t).length + 1) l).dropStale = .ok _ :=
    Reading.dropStale_kept fun _ hk => absurd hk List.not_mem_nil
  refine .next hread rfl (atColon_fresh _ hshort) ?_ (.next hcolon rfl hfresh ?_ (h _ l))
  · show (':' :: z).length < (writtenWord t ++ ':' :: z).length
    rw [List.length_append]
    omega
  · exact Nat.lt_succ_self _

/-! ## Marks -/

theorem opens_cons {x : Char} (hx : isVisible x = true ∧ x ≠ '#') (z : Chars) : Opens (x :: z) := by
  intro d hd
  obtain rfl := Option.some.inj hd
  exact hx

theorem second_at (x : Char) (z : Chars) (c : Nat) (T : List Token) (I : Int) (O : List Int) (a : Bool)
    (i l : Nat) : (Point.at ⟨x :: z, c, T, I, O, a⟩ i l).cursor.second = z.head? := by
  cases z <;> rfl

/-- The dash of an item of a list that is not indented deeper than the key before it. -/
theorem Point.Yields.dash (h : Point.Yields ⟨z, c + 1, T ++ [.blockEntry], c, O, true⟩ ts)
    (hz : endsWord z.head? = true) (hplace : startsSeparator ('-' :: z) = false) :
    Point.Yields ⟨'-' :: z, c, T, c, O, true⟩ ts := by
  refine h.step (fun i l => ⟨i + 1, l, ?_⟩) (Nat.lt_succ_self _)
  have hsettled := Point.settled (p := ⟨'-' :: z, c, T, c, O, true⟩) (opens_cons (by decide) z)
    (Int.le_refl _) i l
  rw [hsettled.readToken_eq (x := '-') rfl (.inr ⟨by decide, hplace⟩), second_at, hz]
  simp [Reading.readDash, Reading.openBlock, Reading.deeper, Reading.dropCandidate, Reading.goto,
    Reading.push, Point.at, Cursor.next, isBreak, bind, Except.bind, pure, Except.pure]

theorem Point.openBlock_at (hopens : OpensBlock c I O I' O' opening) (z : Chars) (T : List Token) (a : Bool)
    (i l : Nat) : (Point.at ⟨z, c, T, I, O, a⟩ i l).openBlock .blockMapping
      = Point.at ⟨z, c, T ++ opening, I', O', a⟩ i l := by
  cases hopens with
  | inside h => simp [Reading.openBlock, Reading.deeper, Point.at, h]
  | deeper h => simp [Reading.openBlock, Reading.deeper, Reading.indentTo, Reading.push, Point.at, h]

/-- The mark of a key that does not stand before its colon. -/
theorem Point.Yields.keyMark (h : Point.Yields ⟨z, c + 1, T ++ opening ++ [.key], I', O', true⟩ ts)
    (hopens : OpensBlock c I O I' O' opening) (hz : endsWord z.head? = true) :
    Point.Yields ⟨'?' :: z, c, T, I, O, true⟩ ts := by
  refine h.step (fun i l => ⟨i + 1, l, ?_⟩) (Nat.lt_succ_self _)
  have hle : I ≤ c := by cases hopens <;> omega
  have hsettled := Point.settled (p := ⟨'?' :: z, c, T, I, O, true⟩) (opens_cons (by decide) z) hle i l
  have hplace : startsSeparator ('?' :: z) = false := startsSeparator_eq_false (by decide) z
  rw [hsettled.readToken_eq (x := '?') rfl (.inr ⟨by decide, hplace⟩), second_at, hz]
  have hread : (Point.at ⟨'?' :: z, c, T, I, O, true⟩ i l).readKey
      = .ok (Point.at ⟨z, c + 1, T ++ opening ++ [.key], I', O', true⟩ (i + 1) l) := by
    have hflow : (Point.at ⟨'?' :: z, c, T, I, O, true⟩ i l).flow = 0 := rfl
    have hallowed : (Point.at ⟨'?' :: z, c, T, I, O, true⟩ i l).keyAllowed = true := rfl
    rw [Reading.readKey, hflow, hallowed, Point.openBlock_at hopens]
    simp [Reading.dropCandidate, Reading.goto, Reading.push, Point.at, Cursor.next, isBreak, bind,
      Except.bind, pure, Except.pure]
  simpa using hread

/-- The colon of a value that stands on a line of its own. -/
theorem Point.Yields.valueMark (h : Point.Yields ⟨z, c + 1, T ++ [.value], c, O, true⟩ ts)
    (hz : endsWord z.head? = true) : Point.Yields ⟨':' :: z, c, T, c, O, true⟩ ts := by
  refine h.step (fun i l => ⟨i + 1, l, ?_⟩) (Nat.lt_succ_self _)
  have hsettled := Point.settled (p := ⟨':' :: z, c, T, c, O, true⟩) (opens_cons (by decide) z)
    (Int.le_refl _) i l
  have hplace : startsSeparator (':' :: z) = false := startsSeparator_eq_false (by decide) z
  rw [hsettled.readToken_eq (x := ':') rfl (.inr ⟨by decide, hplace⟩), second_at, hz]
  simp [Reading.readColon, Reading.openBlock, Reading.deeper, Reading.dropCandidate, Reading.goto,
    Reading.push, Point.at, Cursor.next, isBreak, bind, Except.bind, pure, Except.pure]

/-! ## Empty collections -/

/-- Brackets with nothing between them: the tokens of both. -/
inductive Brackets : Char → Char → Token → Token → Prop
  | list : Brackets '[' ']' .openList .closeList
  | map : Brackets '\x7b' '\x7d' .openMap .closeMap

variable {x y : Char} {X Y : Token}

theorem Brackets.visible (h : Brackets x y X Y) :
    (isVisible x = true ∧ x ≠ '#') ∧ isVisible y = true ∧ y ≠ '#' := by
  cases h <;> decide

/-- The state between brackets. -/
def inBrackets (z : Chars) (T : List Token) (I : Int) (O : List Int) (c i l : Nat) : Reading :=
  ⟨⟨z, i, l, c⟩, T.toArray, 1, I, O, true, [], false⟩

theorem Point.readToken_opening (hbrackets : Brackets x y X Y) (hle : I ≤ c) (r : Chars) :
    (Point.at ⟨x :: r, c, T, I, O, false⟩ i l).readToken = .ok (inBrackets r (T ++ [X]) I O (c + 1) (i + 1) l) := by
  have hsettled := Point.settled (p := ⟨x :: r, c, T, I, O, false⟩) (opens_cons hbrackets.visible.1 r) hle i l
  have hplace : startsSeparator (x :: r) = false := by
    refine startsSeparator_eq_false ?_ r
    cases hbrackets <;> decide
  rw [hsettled.readToken_eq (x := x) rfl (.inr ⟨by cases hbrackets <;> decide, hplace⟩)]
  cases hbrackets <;>
    simp [Reading.readOpening, Reading.saveCandidate, Reading.goto, Reading.push, Point.at, inBrackets,
      Cursor.next, isBreak, bind, Except.bind, pure, Except.pure]

theorem inBrackets_readToken (hbrackets : Brackets x y X Y) (hc : 0 < c) :
    (inBrackets (y :: z) T I O c i l).readToken = .ok (Point.at ⟨z, c + 1, T ++ [Y], I, O, false⟩ (i + 1) l) := by
  have hsettled : (inBrackets (y :: z) T I O c i l).Settled :=
    Reading.settled_of_opens (opens_cons hbrackets.visible.2 z) (fun _ hk => absurd hk List.not_mem_nil)
      (.inl Nat.one_ne_zero)
  rw [hsettled.readToken_eq (x := y) rfl (.inl hc)]
  cases hbrackets <;>
    simp [Reading.readClosing, Reading.dropCandidate, Reading.goto, Reading.push, Point.at, inBrackets,
      Cursor.next, isBreak, bind, Except.bind, pure, Except.pure]

/-- Brackets with nothing between them are passed. -/
theorem Point.Yields.brackets (h : Point.Yields ⟨z, c + 2, T ++ [X, Y], I, O, false⟩ ts)
    (hbrackets : Brackets x y X Y) (hle : I ≤ c) : Point.Yields ⟨x :: y :: z, c, T, I, O, false⟩ ts := by
  intro i l
  have hfresh (s : Reading) (hs : s.candidates = []) : s.dropStale = .ok s :=
    Reading.dropStale_kept fun k hk => absurd hk (by simp [hs])
  have hclosing := inBrackets_readToken (z := z) (T := T ++ [X]) (I := I) (O := O) (i := i + 1) (l := l)
    hbrackets (Nat.succ_pos c)
  rw [List.append_assoc] at hclosing
  exact .next (Point.readToken_opening hbrackets hle (y :: z)) rfl (hfresh _ rfl) (Nat.lt_succ_self _)
    (.next hclosing rfl (hfresh _ rfl) (Nat.lt_succ_self _) (h (i + 2) l))

/-! ## The end -/

/-- The end of a text closes its only block. -/
theorem Point.Yields.finish (h : ts = T ++ [.blockEnd, .streamEnd]) :
    Point.Yields ⟨[], 0, T, 0, [-1], a⟩ ts := by
  intro i l
  subst h
  have hsettled := Point.settled (p := ⟨[], 0, T, 0, [-1], a⟩) nofun (Int.le_refl _) i l
  have hcloses : Closes (-1) 0 [-1] (-1) [] [.blockEnd] := .leave (by decide) (.stay (Int.le_refl _) [])
  have hread : (Point.at ⟨[], 0, T, 0, [-1], a⟩ i l).readToken
      = (Point.at ⟨[], 0, T, 0, [-1], a⟩ i l).readEnd := by
    unfold Reading.readToken
    rw [hsettled.here, hsettled.fresh]
    dsimp only [bind, Except.bind]
    rw [hsettled.placed]
    rfl
  have hunwound : (Point.at ⟨[], 0, T, 0, [-1], a⟩ i l).unwind (-1) = _ :=
    Reading.unwind_closes rfl hcloses
  have hend : (Point.at ⟨[], 0, T, 0, [-1], a⟩ i l).readEnd = .ok
      ⟨⟨[], i, l, 0⟩, (T ++ [Token.blockEnd, Token.streamEnd]).toArray, 0, -1, [], false, [], true⟩ := by
    rw [Reading.readEnd, hunwound]
    simp [Reading.dropCandidate, Reading.push, Point.at, bind, Except.bind, pure, Except.pure]
  exact .last (hread.trans hend) rfl

end MarkupQuery.Yaml
