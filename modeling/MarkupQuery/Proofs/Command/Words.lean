import MarkupQuery.Command.Run

/-!
# Matching words

Words that are no flags are for the arguments without flags, in order (`matchWords_operands`); a flag is met
with the word after it (`matchWords_flag`). The tool hands all words after the one that names a command to
that command, whatever they are, so that they are read by its grammar (`readCommand_of_read`).
-/

namespace MarkupQuery.Command

variable {g : Grammar} {b : Argument} {w t : String} {f : Flag} {words : List String} {ws cs : List Word}
  {m : Matched}

/-! ## Classifying -/

/-- A word that may be a flag. -/
def wordOf (w : String) : Option Flag → Word
  | some f => .flag w f
  | none => .plain w

theorem classify_cons {o : Option Flag} (hw : w ≠ "--") (hflag : g.flagOf w = .ok o)
    (hrest : g.classify words = .ok ws) : g.classify (w :: words) = .ok (wordOf w o :: ws) := by
  rw [Grammar.classify, if_neg (by simpa using hw)]
  simp only [hflag, hrest]
  cases o <;> rfl

/-- Words are kept when they are classified. -/
theorem map_text_classify (h : g.classify words = .ok cs) : cs.map Word.text = words := by
  induction words generalizing cs with
  | nil => cases h; rfl
  | cons w words ih =>
    by_cases hw : w = "--"
    · -- all words behind the separator are plain
      subst hw
      cases h
      simp [Word.text, Function.comp_def]
    · rw [Grammar.classify, if_neg (by simpa using hw)] at h
      cases hflag : g.flagOf w with
      | error r => rw [hflag] at h; cases h
      | ok o =>
        cases hrest : g.classify words with
        | error r => rw [hflag, hrest] at h; cases h
        | ok rest =>
          rw [hflag, hrest] at h
          cases h
          rw [List.map_cons, ih hrest]
          cases o <;> rfl

/-! ## Meeting arguments -/

/-- What was found, with one more argument. -/
def Matched.add (m : Matched) (b : Argument) (words : List String) : Matched :=
  { m with given := m.given ++ [⟨b.name, words⟩], met := m.met ++ [b.name] }

/-- Words for some arguments, in turn. -/
def Matched.addAll (m : Matched) (operands : List (Argument × String)) : Matched :=
  operands.foldl (fun m o => m.add o.1 [o.2]) m

/-- An argument that takes one word, with a word that may be given for it. -/
structure Fits (o : Argument × String) : Prop where
  takes : o.1.takes = .word
  separates : o.2 ≠ "--"
  check : o.1.check o.2 = .ok ()

/-- An argument that takes one word is met with a word that may be given for it. -/
theorem meet_word (h : Fits (b, w)) (m : Matched) : m.meet b [w] = .ok (m.add b [w]) := by
  have htakes : b.takes = .word := h.takes
  have hcheck : b.check w = .ok () := h.check
  have herase : [w].erase "--" = [w] := List.erase_of_not_mem (by simpa using h.separates.symm)
  have htake : b.take [w] = .ok [⟨b.name, [w]⟩] := by
    rw [Argument.take, htakes, herase]
    simp only [hcheck]
    rfl
  rw [Matched.meet, htake]
  rfl

theorem meetAll_operands {operands : List (Argument × String)} (h : ∀ o ∈ operands, Fits o)
    (m : Matched) : m.meetAll (operands.map fun o => (o.1, [o.2])) = .ok (m.addAll operands) := by
  induction operands generalizing m with
  | nil => rfl
  | cons o operands ih =>
    rw [List.forall_mem_cons] at h
    rw [List.map_cons, Matched.meetAll, meet_word h.1]
    exact ih h.2 _

/-! ## Runs of the matcher -/

/-- Arguments without flags are served with the words at their places. -/
theorem serve_operands {operands : List (Argument × String)} (h : ∀ o ∈ operands, Fits o)
    (hrest : separators ws = 0) :
    serve (operands.map Prod.fst) (operands.map (fun o => .plain o.2) ++ ws)
      = (operands.map fun o => (o.1, [.plain o.2]), ws) := by
  induction operands with
  | nil => rfl
  | cons o operands ih =>
    rw [List.forall_mem_cons] at h
    have hafter : separators (operands.map (fun o => .plain o.2) ++ ws) = 0 := by
      cases operands with
      | nil => exact hrest
      | cons p operands => rfl
    -- a word takes along the separators behind it, and there are none
    have hcount : o.1.takes.count (.plain o.2 :: (operands.map (fun o => .plain o.2) ++ ws))
        = some 1 := by
      simp [Takes.count, h.1.takes, separators, hafter]
    rw [List.map_cons, List.map_cons, List.cons_append, serve]
    simp only [hcount, List.drop_succ_cons, List.drop_zero, ih h.2]
    rfl

/-- Words before a flag are for the arguments without flags. -/
theorem matchWords_operands {o : Argument × String} {operands : List (Argument × String)}
    (h : ∀ p ∈ o :: operands, Fits p) (fuel : Nat) (m : Matched) :
    g.matchWords (fuel + 1) ((o :: operands).map Prod.fst)
        ((o :: operands).map (fun p => .plain p.2) ++ .flag t f :: ws) m
      = g.matchWords fuel [] (.flag t f :: ws) (m.addAll (o :: operands)) := by
  have hflag : separators (.flag t f :: ws) = 0 := rfl
  have hserve := serve_operands h hflag
  have hmeet : m.serveAll ((o :: operands).map fun p => (p.1, [.plain p.2]))
      = .ok (m.addAll (o :: operands)) := by
    rw [Matched.serveAll, List.map_map]
    exact meetAll_operands h m
  have hleft : (operands.map Prod.fst).drop operands.length = [] := by simp
  simp only [List.map_cons, List.cons_append] at hserve hmeet ⊢
  rw [Grammar.matchWords, if_neg (by simp [Word.isFlag])]
  · simp only [hserve, hmeet, bind, Except.bind, List.isEmpty_cons, Bool.false_eq_true, if_false,
      List.length_cons, List.length_map, List.drop_succ_cons, hleft]
  · exact fun _ _ _ heq => Word.noConfusion (List.cons.inj heq).1

/-- A flag is met with the word after it. -/
theorem matchWords_flag (hb : f.argument = some b) (hf : f.attached = none) (h : Fits (b, w))
    (fuel : Nat) (places : List Argument) (m : Matched) :
    g.matchWords (fuel + 1) places (.flag t f :: .plain w :: ws) m
      = g.matchWords fuel places ws (m.add b [w]) := by
  have htakes : b.takes = .word := h.takes
  have hannounced : g.announced (t.length + 1) b f.flag f.attached (.plain w :: ws)
      = .ok ([(b, [w])], ws) := by
    simp only [Grammar.announced, htakes, hf]
  have hmeet : m.meetAll [(b, [w])] = .ok (m.add b [w]) := by
    simp only [Matched.meetAll, meet_word h]
    rfl
  rw [Grammar.matchWords, if_neg (by simp [Word.isFlag])]
  simp only [hb, hannounced, bind, Except.bind, hmeet]

theorem matchWords_nil (fuel : Nat) (m : Matched) : g.matchWords fuel [] [] m = .ok m := by
  have hextras : m.extras ++ [] = m.extras := List.append_nil _
  cases fuel with
  | zero => rfl
  | succ fuel =>
    rw [Grammar.matchWords, if_pos (by simp)]
    · simp only [serve, Matched.serveAll, List.map_nil, Matched.meetAll, pure, Except.pure, bind,
        Except.bind, hextras]
    · exact fun _ _ _ heq => List.cons_ne_nil _ _ heq.symm

/-- An argument that takes everything is met with all words, flags or not. -/
theorem matchWords_rest (htakes : b.takes = .rest) (hcheck : b.check w = .ok ()) (fuel : Nat)
    (m : Matched) : g.matchWords (fuel + 2) [b] (.plain w :: ws) m
      = .ok (m.add b (w :: ws.map Word.text)) := by
  have hserve : serve [b] (.plain w :: ws) = ([(b, .plain w :: ws)], []) := by
    simp [serve, htakes, Takes.count, separators, Nat.add_comm 1]
  have htake : b.take (w :: ws.map Word.text) = .ok [⟨b.name, w :: ws.map Word.text⟩] := by
    rw [Argument.take, htakes]
    simp only [List.headD_cons, hcheck]
    rfl
  have hmeet : m.serveAll [(b, .plain w :: ws)] = .ok (m.add b (w :: ws.map Word.text)) := by
    simp only [Matched.serveAll, List.map_cons, List.map_nil, Matched.meetAll, Word.text,
      Matched.meet, htake]
    rfl
  have hextras : m.extras ++ [] = m.extras := List.append_nil _
  -- the argument is served at once, whether or not there are flags among the words
  rw [Grammar.matchWords]
  · split
    · simp only [hserve, hmeet, pure, Except.pure, bind, Except.bind, List.map_nil, Matched.add, hextras]
    · simp only [hserve, hmeet, bind, Except.bind, List.isEmpty_cons, Bool.false_eq_true, if_false,
        List.length_singleton, List.drop_succ_cons, List.drop_zero, matchWords_nil]
  · exact fun _ _ _ heq => Word.noConfusion (List.cons.inj heq).1

/-! ## The words for a command -/

/-- The argument for the command and its words. -/
def commandArgument : Argument :=
  { name := "command", takes := .rest, choices := Action.all.map Action.word, required := true }

/-- The words for a command belong to the command, whatever they are. -/
theorem read_tool (a : Action) (h : toolGrammar.classify words = .ok ws) :
    toolGrammar.read (a.word :: words)
      = .ok { given := [⟨"command", a.word :: words⟩], met := ["command"] } := by
  -- the word for the command is plain, and one of the choices
  have hplain : toolGrammar.flagOf a.word = .ok none := by cases a <;> rfl
  have hword : a.word ≠ "--" := by cases a <;> decide
  have hcheck : commandArgument.check a.word = .ok () := by cases a <;> rfl
  have hplaces : (toolGrammar.filter fun a => a.flags.isEmpty) = [commandArgument] := by rfl
  have hmatched : toolGrammar.matchWords (2 * (Word.plain a.word :: ws).length + 2) [commandArgument]
      (.plain a.word :: ws) {} = .ok (Matched.add {} commandArgument (a.word :: words)) := by
    rw [matchWords_rest rfl hcheck, map_text_classify h]
  have hmissing : (toolGrammar.filter fun b => b.required &&
      !(Matched.add {} commandArgument (a.word :: words)).met.contains b.name) = [] := by rfl
  simp only [Grammar.read, classify_cons hword hplain h, hplaces, wordOf, bind, Except.bind, hmatched,
    hmissing]
  rfl

/-- Words are the arguments of the command before them if the command reads them all. -/
theorem readCommand_of_read {a : Action} (h : toolGrammar.classify words = .ok ws)
    (hread : a.grammar.read words = .ok m) (hextras : m.extras = []) :
    readCommand (a.word :: words) = .ok (a, m.given) := by
  have hwords : allWords [⟨"command", a.word :: words⟩] "command" = a.word :: words := by
    simp [allWords]
  rw [readCommand, read_tool a h]
  simp only [hwords, Action.ofWord?_word, hread, List.nil_append, hextras]
  rfl

end MarkupQuery.Command
