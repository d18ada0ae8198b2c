import MarkupQuery.Proofs.Xml.Cuts
import MarkupQuery.Proofs.Xml.Tags

/-!
# Comments, instructions and references read back

Nodes that hold no others are read back from their written forms. The markup is well formed unless a
comment holds two hyphens in a row, an instruction is named like the declaration of the version, or an
entity is referred to, of which nothing is known any more.
-/

namespace MarkupQuery.Xml

open MarkupQuery.Text MarkupQuery.Tree

variable {r r' : Reader} {s t rest : Chars} {c : Char}

/-! ## Written forms -/

theorem writeNode_comment (i : NodeId) (s : Chars) :
    writeNode (.comment i s) = "<!--".toList ++ s ++ "-->".toList := by rw [writeNode.eq_def]

theorem writeNode_instruction_none (i : NodeId) (t : Chars) :
    writeNode (.instruction i t none) = "<?".toList ++ t ++ "?>".toList := by
  rw [writeNode.eq_def]

theorem writeNode_instruction_some (i : NodeId) (t d : Chars) :
    writeNode (.instruction i t (some d)) = "<?".toList ++ t ++ ' ' :: d ++ "?>".toList := by
  rw [writeNode.eq_def]

theorem writeNode_reference (i : NodeId) (n s : Chars) :
    writeNode (.reference i n s) = '&' :: n ++ [';'] := by rw [writeNode.eq_def]

/-! ## What can be read back -/

/-- A comment, an instruction or a reference that can be read back. -/
def IsReadableLeaf : Node → Prop
  | .comment _ s => (∀ c ∈ s, isXmlChar c = true) ∧ IsClear "-->".toList s ∧ '\r' ∉ s
  | .instruction _ t none => IsAnyName t
  | .instruction _ t (some d) => IsAnyName t ∧ (∀ c ∈ d, isXmlChar c = true) ∧
      IsClear "?>".toList d ∧ '\r' ∉ d ∧ Stops isMarkupBlank d
  | .reference _ n _ => IsAnyName n ∧ predefined? n = none
  | _ => False

/-- What a node that holds nothing is read as: nothing is known of the entity of a reference. -/
def rereadLeaf : Node → Node
  | .reference _ n _ => .reference unnumbered n []
  | n => n.bare

/-- Whether an instruction may have a target. -/
def isSoundTarget (t : Chars) : Bool :=
  !((t.take 3).map Reader.checkTarget.lowerAsciiLetter == "xml".toList && t.length == 3)

/-- Whether a node that holds nothing is well formed. -/
def isSoundLeaf : Node → Bool
  | .comment _ s => !holdsHyphens s
  | .instruction _ t _ => isSoundTarget t
  | .reference .. => false
  | _ => true

/-! ## Reading -/

theorem badCharacter?_eq_none (hs : ∀ c ∈ s, isXmlChar c = true) : badCharacter? s = none := by
  rw [badCharacter?, List.dropWhile_eq_nil_iff.mpr hs]

/-- A comment is read back. -/
theorem Reader.makes_comment (hr : r.Plain) (hs : ∀ c ∈ s, isXmlChar c = true)
    (hclear : IsClear "-->".toList s) (hcr : '\r' ∉ s)
    (h : r.input = "<!--".toList ++ s ++ "-->".toList ++ rest) :
    r.Makes rest (!holdsHyphens s) (outlineAll [.comment unnumbered s]) r.comment := by
  have hbody : r.input.drop 4 = s ++ "-->".toList ++ rest := by
    rw [h]
    rfl
  have hadd (r₁ : Reader) (hsettings : r₁.settings = r.settings) :
      r₁.Makes r₁.input true (outlineAll [.comment unnumbered s]) (r₁.addComment s) := by
    rw [Reader.addComment, hsettings, hr.settings]
    exact r₁.makes_add _
  rw [Reader.comment, hbody]
  dsimp only
  rw [hclear.cutAt rest]
  dsimp only
  rw [badCharacter?_eq_none hs, unifyLineEnds_of_not_mem hcr]
  dsimp only
  cases holdsHyphens s with
  | true =>
    have hmoves := (r.moves_at rest).trans ((r.at_ rest).moves_fatal
      ("Double hyphen within comment: <!--" ++ String.ofList (s.take 50)))
    exact hmoves.trans_makes (hadd _ rfl)
  | false => exact (r.moves_at rest).trans_makes (hadd _ rfl)

theorem Reader.moves_checkTarget (r : Reader) (target : Chars) :
    r.Moves r.input (isSoundTarget target) (r.checkTarget target) := by
  -- the start of the name is checked first, then whether it holds a colon
  have hfirst : ∃ r₁, r.Moves r.input (isSoundTarget target) r₁ ∧
      r.checkTarget target = if target.contains ':' then
        r₁.error ("colons are forbidden from PI names '" ++ String.ofList target ++ "'") else r₁ := by
    refine ⟨_, ?_, rfl⟩
    rw [isSoundTarget]
    split
    · next hxml =>
      rw [hxml, Bool.true_and]
      split
      · next heq =>
        rw [beq_iff_eq] at heq
        rw [heq]
        exact r.moves_fatal _
      split
      · next hlen =>
        rw [hlen]
        exact r.moves_fatal _
      · next hlen =>
        rw [Bool.not_eq_true] at hlen
        rw [hlen]
        split
        · exact .refl r
        · exact r.moves_note _ _
    · next hxml =>
      rw [Bool.not_eq_true] at hxml
      rw [hxml, Bool.false_and]
      exact .refl r
  obtain ⟨r₁, hmoves, heq⟩ := hfirst
  rw [heq]
  split
  · have hnote := hmoves.trans (r₁.moves_note .error
      ("colons are forbidden from PI names '" ++ String.ofList target ++ "'"))
    rwa [hmoves.input, Bool.and_true] at hnote
  · exact hmoves

/-- An instruction without data is read back. -/
theorem Reader.makes_instruction_none (hname : IsAnyName t)
    (h : r.input = "<?".toList ++ t ++ "?>".toList ++ rest) :
    r.Makes rest (isSoundTarget t) (outlineAll [.instruction unnumbered t none]) r.instruction := by
  have hspan : spanName (r.input.drop 2) = (t, '?' :: '>' :: rest) := by
    have hdrop : r.input.drop 2 = t ++ '?' :: '>' :: rest := by
      rw [h]
      simp
    rw [hdrop]
    exact spanName_append hname (.cons (by decide) _)
  have hmoves := (r.moves_at ('?' :: '>' :: rest)).trans
    ((r.at_ ('?' :: '>' :: rest)).moves_checkTarget t)
  generalize hr₁ : (r.at_ ('?' :: '>' :: rest)).checkTarget t = r₁ at hmoves
  have hinput : r₁.input = '?' :: '>' :: rest := hmoves.input
  rw [Reader.instruction, hspan]
  dsimp only
  rw [if_neg (by simpa using hname.ne_nil), hr₁]
  split
  · next u heq =>
    rw [hinput] at heq
    simp only [List.cons.injEq, true_and] at heq
    subst heq
    have hadd := Reader.makes_add (r₁.at_ rest) (.instruction unnumbered t none)
    have hmakes := (hmoves.trans (r₁.moves_at rest)).trans_makes hadd
    rw [Bool.true_and, Bool.and_true, Bool.and_true] at hmakes
    exact hmakes
  · next hne => exact absurd hinput (hne _)

/-- An instruction with data is read back. -/
theorem Reader.makes_instruction_some {d : Chars} (hname : IsAnyName t)
    (hd : ∀ c ∈ d, isXmlChar c = true) (hclear : IsClear "?>".toList d) (hcr : '\r' ∉ d)
    (hstops : Stops isMarkupBlank d)
    (h : r.input = "<?".toList ++ t ++ ' ' :: d ++ "?>".toList ++ rest) :
    r.Makes rest (isSoundTarget t) (outlineAll [.instruction unnumbered t (some d)])
      r.instruction := by
  obtain ⟨body, hbody⟩ : ∃ body, body = d ++ "?>".toList ++ rest := ⟨_, rfl⟩
  have hspan : spanName (r.input.drop 2) = (t, ' ' :: body) := by
    have hdrop : r.input.drop 2 = t ++ ' ' :: body := by
      rw [h, hbody]
      simp
    rw [hdrop]
    exact spanName_append hname (.cons (by decide) _)
  -- the data does not begin with a blank, so only the one before it is skipped
  have hskip : (' ' :: body).dropWhile isMarkupBlank = body := by
    rw [List.dropWhile_cons_of_pos (by rfl), hbody]
    cases d with
    | nil => rfl
    | cons c d => exact dropWhile_blank_of_head (hstops c rfl) _
  have hmoves := (r.moves_at (' ' :: body)).trans ((r.at_ (' ' :: body)).moves_checkTarget t)
  generalize hr₁ : (r.at_ (' ' :: body)).checkTarget t = r₁ at hmoves
  have hinput : r₁.input = ' ' :: body := hmoves.input
  have hblank : r₁.atBlank = true := by
    rw [Reader.atBlank, hinput]
    rfl
  have hnext : r₁.skipBlanks.input = body := by
    rw [r₁.moves_skipBlanks.input, hinput, hskip]
  rw [Reader.instruction, hspan]
  dsimp only
  rw [if_neg (by simpa using hname.ne_nil), hr₁]
  split
  · next u heq =>
    rw [hinput] at heq
    cases heq
  · rw [if_pos hblank, hnext, hbody, hclear.cutAt rest]
    dsimp only
    rw [badCharacter?_eq_none hd, unifyLineEnds_of_not_mem hcr]
    have hadd := Reader.makes_add (r₁.skipBlanks.at_ rest) (.instruction unnumbered t (some d))
    have hmakes := ((hmoves.trans r₁.moves_skipBlanks).trans
      (r₁.skipBlanks.moves_at rest)).trans_makes hadd
    rw [Bool.true_and, Bool.and_true, Bool.and_true, Bool.and_true] at hmakes
    exact hmakes

/-- A comment, an instruction or a reference is read back. -/
theorem Reader.reads_leaf {n : Node} (hr : r.Plain) (hframes : r.frames ≠ [])
    (hn : IsReadableLeaf n) (h : r.input = writeNode n ++ rest) :
    r.Reads rest (isSoundLeaf n) (.next [] (.leaf (rereadLeaf n)) (.last [])) r.contentStep := by
  have hstep {s : Chars} {n : Node} {r₁ : Reader} {ok : Bool} (hs : r.input = '<' :: s ++ rest)
      (hcontent : r.contentStep = r₁) (hmakes : r.Makes rest ok (outlineAll [n]) r₁) :
      r.Reads rest ok (outlineAll [n]) r.contentStep := by
    refine Reader.reads_contentStep hr hframes (hcontent ▸ hmakes) ?_
    rw [hs, List.length_append]
    exact Nat.lt_add_of_pos_left (Nat.succ_pos _)
  cases n with
  | comment i s =>
    obtain ⟨hs, hclear, hcr⟩ := hn
    rw [writeNode_comment] at h
    exact hstep h (by rw [Reader.contentStep, h]; rfl) (Reader.makes_comment hr hs hclear hcr h)
  | instruction i t d =>
    cases d with
    | none =>
      rw [writeNode_instruction_none] at h
      exact hstep h (by rw [Reader.contentStep, h]; rfl) (Reader.makes_instruction_none hn h)
    | some d =>
      obtain ⟨hname, hd, hclear, hcr, hstops⟩ := hn
      rw [writeNode_instruction_some] at h
      exact hstep h (by rw [Reader.contentStep, h]; rfl)
        (Reader.makes_instruction_some hname hd hclear hcr hstops h)
  | reference i n content =>
    rw [writeNode_reference, List.append_assoc, List.singleton_append] at h
    exact Reader.reads_reference hr hframes hn.1 hn.2 h
  | _ => exact hn.elim

end MarkupQuery.Xml
