import MarkupQuery.Console.Tagged

/-!
# Escaped texts are shown

An escaped text can always be shown, whatever its characters (`shows_escapeTags`): no bracket of it begins
a tag that would close something. The same holds with a label in front of it, and between the two ends of
a tag. The text of a tag holds no brackets, so that a tag in what escaping makes is one of the tags that
were escaped, with an odd number of backslashes before it.
-/

namespace MarkupQuery.Console

open MarkupQuery.Text

variable {s t r tail : Chars} {tags : List Chars} {ps : List Piece} {n held : Nat} {c : Char}

/-! ## Where tags begin -/

/-- Whether a character begins the text of a tag. -/
def beginsTag (c : Char) : Bool := ('a' ≤ c && c ≤ 'z') || c == '#' || c == '/' || c == '@'

/-- Whether a character is no bracket. -/
def isInTag (c : Char) : Bool := c != ']' && c != '['

/-- The first bracket of a text. -/
def bracket? (s : Chars) : Option Char := s.find? fun c => !isInTag c

theorem bracket?_append (s t : Chars) : bracket? (s ++ t) = (bracket? s).or (bracket? t) :=
  List.find?_append

theorem bracket?_cons_of_isInTag (h : isInTag c = true) (s : Chars) :
    bracket? (c :: s) = bracket? s :=
  List.find?_cons_of_neg (by simp [h])

theorem bracket?_cons_of_bracket (h : isInTag c = false) (s : Chars) :
    bracket? (c :: s) = some c :=
  List.find?_cons_of_pos (by simp [h])

theorem bracket?_eq_none (h : ∀ x ∈ s, isInTag x = true) : bracket? s = none :=
  List.find?_eq_none.mpr fun x hx => by simp [h x hx]

theorem head?_dropWhile_isInTag (s : Chars) : (s.dropWhile isInTag).head? = bracket? s := by
  induction s with
  | nil => rfl
  | cons c s ih =>
    cases h : isInTag c with
    | true => rw [List.dropWhile_cons_of_pos h, bracket?_cons_of_isInTag h, ih]
    | false =>
      rw [List.dropWhile_cons_of_neg (by simp [h]), bracket?_cons_of_bracket h, List.head?_cons]

/-- A tag begins after a bracket if the next bracket closes it. -/
theorem tagAt?_cons (c : Char) (s : Chars) : tagAt? ('[' :: c :: s) =
    if beginsTag c && bracket? s == some ']' then some (c :: s.takeWhile isInTag) else none := by
  have hdrop : s.drop (s.takeWhile fun x => x != ']' && x != '[').length = s.dropWhile isInTag :=
    calc s.drop (s.takeWhile isInTag).length
        = (s.takeWhile isInTag ++ s.dropWhile isInTag).drop (s.takeWhile isInTag).length := by
          rw [List.takeWhile_append_dropWhile]
      _ = s.dropWhile isInTag := List.drop_left
  change (if beginsTag c then _ else none) = _
  rw [hdrop, ← head?_dropWhile_isInTag]
  cases beginsTag c with
  | false => rfl
  | true =>
    rw [Bool.true_and, if_pos rfl]
    cases s.dropWhile isInTag with
    | nil => rfl
    | cons x xs =>
      by_cases hx : x = ']'
      · subst hx
        rfl
      · rw [if_neg (by simpa using hx)]
        split
        · next h => exact absurd (List.cons.inj h).1 hx
        · rfl

/-- Text without brackets before a closing one is all of a tag. -/
theorem tagAt?_closed (hc : beginsTag c = true) (hs : ∀ x ∈ s, isInTag x = true) (r : Chars) :
    tagAt? ('[' :: c :: (s ++ ']' :: r)) = some (c :: s) := by
  have hbracket : bracket? (s ++ ']' :: r) = some ']' := by
    rw [bracket?_append, bracket?_eq_none hs, bracket?_cons_of_bracket rfl, Option.none_or]
  have hinner : (s ++ ']' :: r).takeWhile isInTag = s := by
    rw [List.takeWhile_append_of_pos hs, List.takeWhile_cons_of_neg (by decide), List.append_nil]
  rw [tagAt?_cons, hc, hbracket, hinner]
  rfl

/-- Only an opening bracket begins a tag, and nothing but the text of the tag matters. -/
theorem tagAt?_eq_some (h : tagAt? (c :: s) = some t) :
    c = '[' ∧ ∀ r, tagAt? ('[' :: (t ++ ']' :: r)) = some t := by
  have hopen : c = '[' := by
    unfold tagAt? at h
    split at h
    · next heq => exact (List.cons.inj heq).1
    · cases h
  subst hopen
  refine ⟨rfl, fun r => ?_⟩
  cases s with
  | nil => cases h
  | cons c s =>
    rw [tagAt?_cons] at h
    split at h
    · next hbegins =>
      obtain rfl := Option.some.inj h
      rw [Bool.and_eq_true] at hbegins
      exact tagAt?_closed hbegins.1 (List.all_eq_true.mp List.all_takeWhile) r
    · cases h

theorem tagAt?_none_of_ne (hc : c ≠ '[') (s : Chars) : tagAt? (c :: s) = none := by
  unfold tagAt?
  split
  · next heq => exact absurd (List.cons.inj heq).1 hc
  · rfl

/-- After a bracket that begins no tag, the next bracket does not close or the text is none of a tag. -/
theorem tagAt?_eq_none_iff : tagAt? ('[' :: s) = none ↔
    ∀ c r, s = c :: r → beginsTag c = true → bracket? r ≠ some ']' := by
  cases s with
  | nil =>
    refine ⟨fun _ _ _ h => ?_, fun _ => rfl⟩
    cases h
  | cons c r =>
    rw [tagAt?_cons]
    constructor
    · intro h c' r' heq hbegins hbracket
      cases heq
      rw [hbegins, hbracket] at h
      cases h
    · intro h
      rw [if_neg]
      rw [Bool.and_eq_true, beq_iff_eq]
      exact fun hand => h c r rfl hand.1 hand.2

/-! ## Pieces -/

theorem piecesFrom_backslash (held : Nat) (s : Chars) :
    piecesFrom 0 held ('\\' :: s) = piecesFrom 0 (held + 1) s := by
  rw [piecesFrom]
  rfl

theorem piecesFrom_replicate (n held : Nat) (s : Chars) :
    piecesFrom 0 held (List.replicate n '\\' ++ s) = piecesFrom 0 (held + n) s := by
  induction n generalizing held with
  | zero => rfl
  | succ n ih =>
    rw [List.replicate_succ, List.cons_append, piecesFrom_backslash, ih, Nat.add_right_comm,
      Nat.add_assoc]

/-- The characters of a tag are passed. -/
theorem piecesFrom_skip (held : Nat) (s r : Chars) :
    piecesFrom s.length held (s ++ r) = piecesFrom 0 held r := by
  induction s with
  | nil => rfl
  | cons c s ih => exact ih

theorem piecesFrom_tag (h : tagAt? ('[' :: (t ++ ']' :: r)) = some t) (held : Nat) :
    piecesFrom 0 held ('[' :: (t ++ ']' :: r)) = .tag held t :: piecesFrom 0 0 r := by
  have hskip : piecesFrom (t.length + 1) 0 (t ++ ']' :: r) = piecesFrom 0 0 r := by
    have hpassed := piecesFrom_skip 0 (t ++ [']']) r
    rwa [List.length_append, List.append_assoc] at hpassed
  rw [piecesFrom]
  simp only [h, hskip]
  rfl

theorem piecesFrom_plain (hc : c ≠ '\\') (h : tagAt? (c :: s) = none) (held : Nat) :
    piecesFrom 0 held (c :: s)
      = addPlain (List.replicate held '\\' ++ [c]) (piecesFrom 0 0 s) := by
  rw [piecesFrom]
  simp only [h, beq_eq_false_iff_ne.mpr hc]
  rfl

/-! ## What can be shown -/

/-- Pieces that can be shown while some tags are open. -/
def Shows (ps : List Piece) (tags : List Chars) : Prop := ∃ s, showPieces ps tags = .ok s

theorem shows_nil : Shows [] tags := ⟨[], rfl⟩

theorem Shows.plain (h : Shows ps tags) (s : Chars) : Shows (.plain s :: ps) tags := by
  obtain ⟨shown, hshown⟩ := h
  exact ⟨plainShown s ++ shown, by rw [showPieces, hshown]; rfl⟩

theorem Shows.of_plain (h : Shows (.plain s :: ps) tags) : Shows ps tags := by
  obtain ⟨shown, hshown⟩ := h
  rw [showPieces] at hshown
  cases hrest : showPieces ps tags with
  | ok rest => exact ⟨rest, hrest⟩
  | error f => rw [hrest] at hshown; cases hshown

theorem Shows.addPlain (h : Shows ps tags) (s : Chars) : Shows (addPlain s ps) tags := by
  unfold Console.addPlain
  split
  · exact h
  · split
    · exact h.of_plain.plain _
    · exact h.plain _

/-- An odd number of backslashes before a tag makes it plain. -/
theorem Shows.escaped (h : Shows ps tags) (n : Nat) (t : Chars) :
    Shows (.tag (2 * n + 1) t :: ps) tags := by
  obtain ⟨shown, hshown⟩ := h
  have hodd : ((2 * n + 1) % 2 == 1) = true := by rw [beq_iff_eq]; omega
  rw [Shows, showPieces]
  simp only [hodd, if_true, hshown]
  exact ⟨_, rfl⟩

/-! ## Escaped texts -/

/-- What escaping makes of a text, where some backslashes were read before it. -/
def escapedFrom (skip held : Nat) (s : Chars) : Chars :=
  (piecesFrom skip held s).flatMap Piece.escaped

theorem flatMap_addPlain (s : Chars) (ps : List Piece) :
    (addPlain s ps).flatMap Piece.escaped = s ++ ps.flatMap Piece.escaped := by
  unfold Console.addPlain
  split
  · next h => rw [List.isEmpty_iff.mp h, List.nil_append]
  · split
    · simp [Piece.escaped]
    · simp [Piece.escaped]

theorem escapedFrom_nil (held : Nat) : escapedFrom 0 held [] = List.replicate held '\\' := by
  rw [escapedFrom, piecesFrom, flatMap_addPlain]
  exact List.append_nil _

theorem escapedFrom_backslash (held : Nat) (s : Chars) :
    escapedFrom 0 held ('\\' :: s) = escapedFrom 0 (held + 1) s := by
  rw [escapedFrom, piecesFrom_backslash, escapedFrom]

theorem escapedFrom_tag (h : tagAt? (c :: s) = some t) (held : Nat) :
    escapedFrom 0 held (c :: s)
      = List.replicate (2 * held + 1) '\\' ++ '[' :: (t ++ ']' :: escapedFrom (t.length + 1) 0 s) := by
  obtain ⟨rfl, -⟩ := tagAt?_eq_some h
  have hpieces : piecesFrom 0 held ('[' :: s) = .tag held t :: piecesFrom (t.length + 1) 0 s := by
    rw [piecesFrom]
    simp only [h]
    rfl
  rw [escapedFrom, hpieces, List.flatMap_cons, Piece.escaped, escapedFrom]
  simp

theorem escapedFrom_plain (hc : c ≠ '\\') (h : tagAt? (c :: s) = none) (held : Nat) :
    escapedFrom 0 held (c :: s) = List.replicate held '\\' ++ c :: escapedFrom 0 0 s := by
  rw [escapedFrom, piecesFrom_plain hc h, flatMap_addPlain, escapedFrom]
  simp

/-- Backslashes that were read before a text come first. -/
theorem escapedFrom_held (held : Nat) (s : Chars) :
    ∃ r, escapedFrom 0 held s = List.replicate held '\\' ++ r := by
  induction s generalizing held with
  | nil => exact ⟨[], by rw [escapedFrom_nil, List.append_nil]⟩
  | cons c s ih =>
    by_cases hc : c = '\\'
    · subst hc
      obtain ⟨r, hr⟩ := ih (held + 1)
      refine ⟨'\\' :: r, ?_⟩
      rw [escapedFrom_backslash, hr, List.replicate_succ', List.append_assoc]
      rfl
    · cases htag : tagAt? (c :: s) with
      | some t =>
        have hcount : 2 * held + 1 = held + (held + 1) := by omega
        exact ⟨_, by
          rw [escapedFrom_tag htag, hcount, ← List.replicate_append_replicate, List.append_assoc]⟩
      | none => exact ⟨_, escapedFrom_plain hc htag held⟩

/-- Escaping keeps the first bracket of a text. -/
theorem bracket?_escapedFrom (held : Nat) (s : Chars) :
    bracket? (escapedFrom 0 held s) = bracket? s := by
  have hbackslashes (n : Nat) : bracket? (List.replicate n '\\') = none :=
    bracket?_eq_none fun x hx => List.eq_of_mem_replicate hx ▸ rfl
  induction s generalizing held with
  | nil => rw [escapedFrom_nil, hbackslashes]; rfl
  | cons c s ih =>
    by_cases hc : c = '\\'
    · subst hc
      rw [escapedFrom_backslash, ih, bracket?_cons_of_isInTag rfl]
    · cases htag : tagAt? (c :: s) with
      | some t =>
        obtain ⟨rfl, -⟩ := tagAt?_eq_some htag
        rw [escapedFrom_tag htag, bracket?_append, hbackslashes, bracket?_cons_of_bracket rfl,
          bracket?_cons_of_bracket rfl, Option.none_or]
      | none =>
        rw [escapedFrom_plain hc htag, bracket?_append, hbackslashes, Option.none_or]
        cases hin : isInTag c with
        | true => rw [bracket?_cons_of_isInTag hin, bracket?_cons_of_isInTag hin, ih]
        | false => rw [bracket?_cons_of_bracket hin, bracket?_cons_of_bracket hin]

/-! ## Showing escaped texts -/

/-- A text that completes no tag before it. -/
structure CompletesNoTag (tail : Chars) : Prop where
  bracket : bracket? tail ≠ some ']'
  head : ∀ c r, tail = c :: r → beginsTag c = false

/-- A bracket that begins no tag begins none after escaping. -/
theorem tagAt?_escapedFrom (h : tagAt? ('[' :: s) = none) (ht : CompletesNoTag tail) :
    tagAt? ('[' :: (escapedFrom 0 0 s ++ tail)) = none := by
  have hbackslash : beginsTag '\\' = false := by decide
  rw [tagAt?_eq_none_iff] at h ⊢
  intro c r heq hbegins hbracket
  -- the character after the bracket is that of the text, unless a backslash was put there
  cases s with
  | nil => exact absurd (ht.head c r heq) (by simp [hbegins])
  | cons d s =>
    by_cases hd : d = '\\'
    · subst hd
      obtain ⟨q, hq⟩ := escapedFrom_held 1 s
      rw [escapedFrom_backslash, hq] at heq
      obtain ⟨rfl, -⟩ := List.cons.inj heq
      exact absurd hbegins (by simp [hbackslash])
    · cases htag : tagAt? (d :: s) with
      | some t =>
        rw [escapedFrom_tag htag] at heq
        obtain ⟨rfl, -⟩ := List.cons.inj heq
        exact absurd hbegins (by simp [hbackslash])
      | none =>
        rw [escapedFrom_plain hd htag, List.replicate_zero, List.nil_append, List.cons_append] at heq
        obtain ⟨rfl, rfl⟩ := List.cons.inj heq
        have hs := h d s rfl hbegins
        rw [bracket?_append, bracket?_escapedFrom, Option.or_eq_some_iff] at hbracket
        rcases hbracket with hin | ⟨-, hafter⟩
        · exact hs hin
        · exact ht.bracket hafter

/-- An escaped text can be shown before everything that can be shown and completes no tag. -/
theorem shows_escapedFrom (ht : CompletesNoTag tail)
    (htail : ∀ held, Shows (piecesFrom 0 held tail) tags) (skip held : Nat) (s : Chars) :
    Shows (piecesFrom 0 0 (escapedFrom skip held s ++ tail)) tags := by
  induction s generalizing skip held with
  | nil =>
    have hnil : escapedFrom skip held [] = List.replicate held '\\' := by
      cases skip with
      | zero => exact escapedFrom_nil held
      | succ n => exact escapedFrom_nil held
    rw [hnil, piecesFrom_replicate]
    exact htail _
  | cons c s ih =>
    cases skip with
    | succ n => exact ih n held
    | zero =>
      -- backslashes are held back until it is known whether a tag follows them
      by_cases hc : c = '\\'
      · subst hc
        rw [escapedFrom_backslash]
        exact ih 0 (held + 1)
      · cases htag : tagAt? (c :: s) with
        | some t =>
          obtain ⟨-, hclosed⟩ := tagAt?_eq_some htag
          rw [escapedFrom_tag htag, List.append_assoc, piecesFrom_replicate, List.cons_append,
            List.append_assoc, List.cons_append, piecesFrom_tag (hclosed _), Nat.zero_add]
          exact (ih _ _).escaped _ _
        | none =>
          rw [escapedFrom_plain hc htag, List.append_assoc, piecesFrom_replicate, List.cons_append]
          have hnone : tagAt? (c :: (escapedFrom 0 0 s ++ tail)) = none := by
            by_cases hopen : c = '['
            · subst hopen
              exact tagAt?_escapedFrom htag ht
            · exact tagAt?_none_of_ne hopen _
          rw [piecesFrom_plain hc hnone]
          exact (ih 0 0).addPlain _

/-- An escaped text can be shown, whatever comes after it. -/
theorem shows_escapeTags (ht : CompletesNoTag tail)
    (htail : ∀ held, Shows (piecesFrom 0 held tail) tags) (s : Chars) :
    Shows (pieces (escapeTags s ++ tail)) tags := by
  unfold escapeTags
  dsimp only
  split
  · rw [List.append_assoc]
    have ht' : CompletesNoTag ('\\' :: tail) :=
      ⟨by rw [bracket?_cons_of_isInTag rfl]; exact ht.bracket, by
        rintro c r heq
        obtain ⟨rfl, -⟩ := List.cons.inj heq
        decide⟩
    exact shows_escapedFrom ht' (fun held => by rw [piecesFrom_backslash]; exact htail _) 0 0 s
  · exact shows_escapedFrom ht htail 0 0 s

/-! ## Labels -/

/-- Text without brackets and backslashes can be shown before everything that can be shown. -/
theorem shows_append_plain (hs : ∀ x ∈ s, x ≠ '[' ∧ x ≠ '\\') (h : Shows (piecesFrom 0 0 r) tags) :
    Shows (piecesFrom 0 0 (s ++ r)) tags := by
  induction s with
  | nil => exact h
  | cons c s ih =>
    rw [List.forall_mem_cons] at hs
    rw [List.cons_append, piecesFrom_plain hs.1.2 (tagAt?_none_of_ne hs.1.1 _)]
    exact (ih hs.2).addPlain _

/-- The tag for red text. -/
def redTag : Chars := canonicalStyle "red".toList

theorem Shows.red (h : Shows ps (redTag :: tags)) : Shows (.tag 0 "red".toList :: ps) tags := by
  obtain ⟨shown, hshown⟩ := h
  have hname : (tagOfText "red".toList).name = ['r', 'e', 'd'] := by decide
  have hred : showPieces ps (canonicalStyle ['r', 'e', 'd'] :: tags) = .ok shown := hshown
  rw [Shows, showPieces, if_neg (by decide)]
  simp only [hname, pure_bind]
  split
  · next heq => cases heq
  · rw [hred]
    exact ⟨_, rfl⟩

/-- The end of red text, plain or not. -/
theorem Shows.endRed (h : Shows ps (redTag :: tags)) (h' : Shows ps tags) (n : Nat) :
    Shows (.tag n "/red".toList :: ps) (redTag :: tags) := by
  obtain ⟨shown, hshown⟩ := h
  obtain ⟨shown', hshown'⟩ := h'
  have hname : (tagOfText "/red".toList).name = ['/', 'r', 'e', 'd'] := by decide
  have htrim : trim ['r', 'e', 'd'] = ['r', 'e', 'd'] := by decide
  have hclose : closeNamed? (canonicalStyle ['r', 'e', 'd']) (redTag :: tags) = some tags :=
    if_pos (beq_self_eq_true _)
  rw [Shows, showPieces]
  split
  · simp only [hshown]
    exact ⟨_, rfl⟩
  · simp only [hname, htrim, List.isEmpty_cons, hclose, pure_bind, hshown']
    exact ⟨_, rfl⟩

theorem red_tagAt (r : Chars) : tagAt? ('[' :: ("red".toList ++ ']' :: r)) = some "red".toList :=
  tagAt?_closed (c := 'r') (s := ['e', 'd']) (by decide) (by decide) r

theorem endRed_tagAt (r : Chars) :
    tagAt? ('[' :: ("/red".toList ++ ']' :: r)) = some "/red".toList :=
  tagAt?_closed (c := '/') (s := ['r', 'e', 'd']) (by decide) (by decide) r

/-- An escaped text can be shown on its own. -/
theorem shows_escaped (s : Chars) (tags : List Chars) : Shows (piecesFrom 0 0 (escapeTags s)) tags := by
  have hend : CompletesNoTag [] := ⟨nofun, nofun⟩
  have h : Shows (pieces (escapeTags s ++ [])) tags :=
    shows_escapeTags hend (fun held => shows_nil.addPlain _) s
  rwa [List.append_nil] at h

/-- A label in red before an escaped text. -/
theorem shows_labelled {label : Chars} (hlabel : ∀ x ∈ label, x ≠ '[' ∧ x ≠ '\\') (s : Chars) :
    Shows (pieces ("[red]".toList ++ label ++ "[/red] ".toList ++ escapeTags s)) [] := by
  have hspace (tags : List Chars) : Shows (piecesFrom 0 0 (' ' :: escapeTags s)) tags :=
    shows_append_plain (s := [' ']) (by decide) (shows_escaped s tags)
  have htext : "[red]".toList ++ label ++ "[/red] ".toList ++ escapeTags s
      = '[' :: ("red".toList ++ ']' :: (label ++ '[' :: ("/red".toList ++ ']' :: (' ' ::
        escapeTags s)))) := by
    simp
  rw [pieces, htext, piecesFrom_tag (red_tagAt _)]
  refine (shows_append_plain hlabel ?_).red
  rw [piecesFrom_tag (endRed_tagAt _)]
  exact (hspace _).endRed (hspace _) 0

/-- An escaped text in red. -/
theorem shows_inRed (s : Chars) :
    Shows (pieces ("[red]".toList ++ escapeTags s ++ "[/red]".toList)) [] := by
  have hend : CompletesNoTag ('[' :: ("/red".toList ++ [']'])) :=
    ⟨by decide, by
      rintro c r heq
      obtain ⟨rfl, -⟩ := List.cons.inj heq
      decide⟩
  have htext : "[red]".toList ++ escapeTags s ++ "[/red]".toList
      = '[' :: ("red".toList ++ ']' :: (escapeTags s ++ '[' :: ("/red".toList ++ [']']))) := by
    simp
  rw [pieces, htext, piecesFrom_tag (red_tagAt _)]
  refine (shows_escapeTags hend (fun held => ?_) s).red
  rw [piecesFrom_tag (endRed_tagAt _)]
  exact shows_nil.endRed shows_nil held

theorem showTagged_of_shows (h : Shows (pieces s) []) : ∃ t, showTagged s = .ok t := by
  unfold showTagged
  split
  · obtain ⟨shown, hshown⟩ := h
    exact ⟨_, by rw [hshown]; rfl⟩
  · exact ⟨_, rfl⟩

end MarkupQuery.Console
