import MarkupQuery.Yaml.Token
import MarkupQuery.Proofs.Endings

/-!
# Faults of the tokens of a configuration text

Where a configuration text has no tokens the fault is one of a configuration (`IsConfigFault`), for every
text: no other fault arises between its characters (`tokensOf_sound`). Each reader of a scalar or of a
mark fails in this way only; one token read keeps all tokens before it unbroken
(`Reading.Unbroken.readToken`), and so do all of them.
-/

namespace MarkupQuery

/-- The faults of configurations that nobody is told of: a text without structure, and values that have
no meaning where they stand. -/
def Fault.isUnread : Fault → Bool
  | .yaml _ | .noFirstCharacter | .unknownWord _ | .missingOperation | .overflow | .wrongType => true
  | _ => false

/-- The reported faults that refuse a value, as opposed to failures of an open document. -/
def Fault.isOfValue : Fault → Bool
  | .unpaired .. | .stale .. | .unparsable .. => false
  | f => f.isReported

/-- The faults of a configuration, reported or not. -/
def IsConfigFault (f : Fault) : Prop := (f.isOfValue || f.isUnread) = true

namespace Yaml

open MarkupQuery.Text

/-! ## Quoted scalars -/

theorem characterOf_fails (n : Nat) : FailsOnly IsConfigFault (characterOf n) := by
  unfold characterOf
  split
  · exact failsOnly_ok
  · split <;> exact .error rfl

theorem quotedBreaks_fails (fuel : Nat) (c : Cursor) (breaks : Chars) :
    FailsOnly IsConfigFault (quotedBreaks fuel c breaks) := by
  induction fuel generalizing c breaks with
  | zero => exact failsOnly_ok
  | succ fuel ih =>
    rw [quotedBreaks]
    split
    · exact .error rfl
    · dsimp only
      split
      · exact ih _ _
      · exact failsOnly_ok

theorem quotedEscape_fails (c : Cursor) : FailsOnly IsConfigFault (quotedEscape c) := by
  unfold quotedEscape
  split
  · exact .error rfl
  · split
    · exact failsOnly_ok
    · dsimp only
      split
      · exact (characterOf_fails _).bind_any fun _ => failsOnly_pure
      · exact .error rfl
    · split
      · exact quotedBreaks_fails _ _ _
      · exact .error rfl

theorem quotedWord_fails (double : Bool) (fuel : Nat) (c : Cursor) (text : Chars) :
    FailsOnly IsConfigFault (quotedWord double fuel c text) := by
  induction fuel generalizing c text with
  | zero => exact failsOnly_ok
  | succ fuel ih =>
    rw [quotedWord]
    repeat' split
    all_goals first
      | exact failsOnly_ok
      | exact ih _ _
      | exact (quotedEscape_fails _).bind_any fun _ => ih _ _

theorem quotedBlanks_fails (c : Cursor) : FailsOnly IsConfigFault (quotedBlanks c) := by
  unfold quotedBlanks
  dsimp only
  split
  · exact .error rfl
  · split
    · exact (quotedBreaks_fails _ _ _).bind_any fun _ => failsOnly_pure
    · exact failsOnly_pure

theorem quotedRest_fails (double : Bool) (fuel : Nat) (c : Cursor) (text : Chars) :
    FailsOnly IsConfigFault (quotedRest double fuel c text) := by
  induction fuel generalizing c text with
  | zero => exact .error rfl
  | succ fuel ih =>
    rw [quotedRest]
    refine ends_ite failsOnly_ok ?_
    exact (quotedBlanks_fails _).bind_any fun _ => (quotedWord_fails _ _ _ _).bind_any fun _ => ih _ _

theorem quotedScalar_fails (double : Bool) (c : Cursor) :
    FailsOnly IsConfigFault (quotedScalar double c) :=
  (quotedWord_fails _ _ _ _).bind_any fun _ => quotedRest_fails _ _ _ _

/-! ## Block scalars -/

theorem indentOf_fails (c : Option Char) : FailsOnly IsConfigFault (indentOf? c) := by
  unfold indentOf?
  split
  · split
    · exact .error rfl
    · split <;> exact failsOnly_ok
  · exact failsOnly_ok

theorem blockIndicators_fails (c : Cursor) : FailsOnly IsConfigFault (blockIndicators c) := by
  have hend (k : Chomping) (n : Option Nat) (c : Cursor) : FailsOnly IsConfigFault
      (if endsPart c.peek then pure (k, n, c) else throw unscannable) :=
    ends_ite failsOnly_pure (.error rfl)
  unfold blockIndicators
  simp only [pure_bind]
  split
  · refine (indentOf_fails _).bind_any fun n => ?_
    split <;> exact hend _ _ _
  · refine (indentOf_fails _).bind_any fun n => ?_
    split
    · exact hend _ _ _
    · split <;> exact hend _ _ _

theorem restOfLine_fails (c : Cursor) : FailsOnly IsConfigFault (restOfLine c) := by
  unfold restOfLine
  dsimp only
  split
  · exact failsOnly_ok
  · exact .error rfl

theorem blockScalar_fails (folded : Bool) (outer : Int) (c : Cursor) :
    FailsOnly IsConfigFault (blockScalar folded outer c) :=
  (blockIndicators_fails _).bind_any fun _ => (restOfLine_fails _).bind_any fun _ => failsOnly_pure

/-! ## Tags, anchors and directives -/

theorem tagEscapes_fails (fuel : Nat) (c : Cursor) (bytes : Encoding.Bytes) :
    FailsOnly IsConfigFault (tagEscapes fuel c bytes) := by
  induction fuel generalizing c bytes with
  | zero => exact failsOnly_ok
  | succ fuel ih =>
    rw [tagEscapes]
    split
    · split
      · exact ih _ _
      · exact .error rfl
    · exact failsOnly_ok

theorem tagText_fails (fuel : Nat) (c : Cursor) (text : Chars) :
    FailsOnly IsConfigFault (tagText fuel c text) := by
  induction fuel generalizing c text with
  | zero => exact failsOnly_ok
  | succ fuel ih =>
    rw [tagText]
    split
    · refine (tagEscapes_fails _ _ _).bind_any fun _ => ?_
      dsimp only
      split
      · exact ih _ _
      · exact .error rfl
    · split
      · split
        · exact ih _ _
        · exact failsOnly_ok
      · exact failsOnly_ok

theorem tagUri_fails (c : Cursor) : FailsOnly IsConfigFault (tagUri c) := by
  unfold tagUri
  refine (tagText_fails _ _ _).bind_any fun _ => ?_
  dsimp only
  split
  · exact .error rfl
  · exact failsOnly_pure

theorem tagHandle_fails (c : Cursor) : FailsOnly IsConfigFault (tagHandle c) := by
  unfold tagHandle
  split
  · exact .error rfl
  · split
    · exact failsOnly_ok
    · dsimp only
      split
      · exact failsOnly_ok
      · exact .error rfl

theorem tagOf_fails (c : Cursor) : FailsOnly IsConfigFault (tagOf c) := by
  have hend (t : Option Chars × Chars) (c : Cursor) : FailsOnly IsConfigFault
      (if endsPart c.peek then pure (t, c) else throw unscannable) :=
    ends_ite failsOnly_pure (.error rfl)
  unfold tagOf
  simp only [pure_bind]
  split
  · refine (tagUri_fails _).bind_any fun _ => ?_
    split
    · exact hend _ _
    · exact .error rfl
  · split
    · exact hend _ _
    · split
      · exact (tagHandle_fails _).bind_any fun _ => (tagUri_fails _).bind_any fun _ => hend _ _
      · exact (tagUri_fails _).bind_any fun _ => hend _ _

theorem anchorName_fails (c : Cursor) : FailsOnly IsConfigFault (anchorName c) := by
  unfold anchorName
  dsimp only
  split
  · exact .error rfl
  · exact failsOnly_ok

theorem versionNumber_fails (c : Cursor) : FailsOnly IsConfigFault (versionNumber c) := by
  unfold versionNumber
  dsimp only
  split
  · exact .error rfl
  · exact failsOnly_ok

theorem directive_fails (c : Cursor) : FailsOnly IsConfigFault (directive c) := by
  have hend (d : Directive) (c : Cursor) : FailsOnly IsConfigFault
      (restOfLine c >>= fun c => pure (d, c)) :=
    (restOfLine_fails c).bind_any fun _ => failsOnly_pure
  unfold directive
  simp only [pure_bind]
  refine ends_ite (.error rfl) ?_
  split
  · refine (versionNumber_fails _).bind_any fun _ => ends_ite (.error rfl) ?_
    exact (versionNumber_fails _).bind_any fun _ => ends_ite (.error rfl) (hend _ _)
  · split
    · refine (tagHandle_fails _).bind_any fun _ => ends_ite (.error rfl) ?_
      exact (tagUri_fails _).bind_any fun _ => ends_ite (.error rfl) (hend _ _)
    · exact hend _ _

/-! ## Tokens -/

/-- Some tokens of which none is broken. -/
def Reading.Unbroken (s : Reading) : Prop := ∀ f, Token.broken f ∉ s.tokens

variable {s : Reading}

/-- Reading goes on with unbroken tokens or fails with a fault of a configuration. -/
abbrev ReadsOn (x : Except Fault Reading) : Prop := Ends IsConfigFault Reading.Unbroken x

theorem Reading.Unbroken.push (h : s.Unbroken) {t : Token} (ht : ∀ f, t ≠ .broken f) :
    (s.push t).Unbroken := by
  intro f hf
  rcases Array.mem_push.mp hf with hf | hf
  · exact h f hf
  · exact ht f hf.symm

theorem insert_unbroken {ts : Array Token} (h : ∀ f, Token.broken f ∉ ts) (n : Nat) {t : Token}
    (ht : ∀ f, t ≠ .broken f) : ∀ f, Token.broken f ∉ ts.insertIdxIfInBounds n t := by
  intro f hf
  rw [Array.insertIdxIfInBounds] at hf
  split at hf
  · rcases Array.mem_insertIdx.mp hf with hf | hf
    · exact ht f hf.symm
    · exact h f hf
  · exact h f hf

theorem Reading.Unbroken.dropCandidate (h : s.Unbroken) : ReadsOn s.dropCandidate :=
  ends_ite (.error rfl) (.ok h)

theorem Reading.Unbroken.saveCandidate (h : s.Unbroken) : ReadsOn s.saveCandidate :=
  ends_ite (h.dropCandidate.bind fun _ hs => ends_pure.mpr hs) (.ok h)

theorem Reading.Unbroken.dropStale (h : s.Unbroken) : ReadsOn s.dropStale :=
  ends_ite (.error rfl) (.ok h)

theorem closeBlocks_unbroken {column indent : Int} {outer : List Int} {ts : Array Token}
    (h : ∀ f, Token.broken f ∉ ts) : ∀ f, Token.broken f ∉ (closeBlocks column indent outer ts).2.2 := by
  induction outer generalizing indent ts with
  | nil => exact h
  | cons o os ih =>
    rw [closeBlocks]
    split
    · refine ih fun f hf => ?_
      rcases Array.mem_push.mp hf with hf | hf
      · exact h f hf
      · cases hf
    · exact h

theorem Reading.Unbroken.unwind (h : s.Unbroken) (column : Int) : (s.unwind column).Unbroken := by
  unfold Reading.unwind
  split
  · exact h
  · exact closeBlocks_unbroken h

theorem Reading.Unbroken.openBlock (h : s.Unbroken) {t : Token} (ht : ∀ f, t ≠ .broken f) :
    (s.openBlock t).Unbroken := by
  unfold Reading.openBlock
  split
  · exact Reading.Unbroken.push (s := s.indentTo _) h ht
  · exact h

/-! ## Reading tokens -/

theorem Reading.Unbroken.readEnd (h : s.Unbroken) : ReadsOn s.readEnd :=
  (h.unwind _).dropCandidate.bind fun _ hs => ends_pure.mpr (hs.push (t := .streamEnd) nofun)

theorem Reading.Unbroken.readDirective (h : s.Unbroken) : ReadsOn s.readDirective :=
  (h.unwind _).dropCandidate.bind fun _ hs => (directive_fails _).bind_any fun d =>
    ends_pure.mpr (hs.push (t := .directive d.1) nofun)

theorem Reading.Unbroken.readSeparator (h : s.Unbroken) {t : Token} (ht : ∀ f, t ≠ .broken f) :
    ReadsOn (s.readSeparator t) :=
  (h.unwind _).dropCandidate.bind fun _ hs => ends_pure.mpr (hs.push ht)

theorem Reading.Unbroken.readOpening (h : s.Unbroken) {t : Token} (ht : ∀ f, t ≠ .broken f) :
    ReadsOn (s.readOpening t) :=
  h.saveCandidate.bind fun _ hs => ends_pure.mpr (hs.push ht)

theorem Reading.Unbroken.readClosing (h : s.Unbroken) {t : Token} (ht : ∀ f, t ≠ .broken f) :
    ReadsOn (s.readClosing t) :=
  h.dropCandidate.bind fun _ hs => ends_pure.mpr (hs.push ht)

theorem Reading.Unbroken.readComma (h : s.Unbroken) : ReadsOn s.readComma :=
  h.dropCandidate.bind fun _ hs => ends_pure.mpr (hs.push (t := .flowEntry) nofun)

/-- A block is opened outside of brackets only. -/
theorem Reading.Unbroken.openOutside (h : s.Unbroken) {t : Token} (ht : ∀ f, t ≠ .broken f) :
    (if s.flow == 0 then s.openBlock t else s).Unbroken := by
  split
  · exact h.openBlock ht
  · exact h

theorem Reading.Unbroken.readDash (h : s.Unbroken) : ReadsOn s.readDash :=
  ends_ite (.error rfl) ((h.openOutside (t := .blockSequence) nofun).dropCandidate.bind fun _ hs =>
    ends_pure.mpr (hs.push (t := .blockEntry) nofun))

theorem Reading.Unbroken.readKey (h : s.Unbroken) : ReadsOn s.readKey :=
  ends_ite (.error rfl) ((h.openOutside (t := .blockMapping) nofun).dropCandidate.bind fun _ hs =>
    ends_pure.mpr (hs.push (t := .key) nofun))

theorem Reading.Unbroken.readColon (h : s.Unbroken) : ReadsOn s.readColon := by
  unfold Reading.readColon
  split
  · next k hk =>
    have hkey := insert_unbroken h k.number (t := .key) nofun
    refine ends_pure.mpr (Reading.Unbroken.push (t := .value) ?_ nofun)
    split
    · exact insert_unbroken hkey k.number (t := .blockMapping) nofun
    · exact hkey
  · refine ends_ite (.error rfl) (Ends.bind (q := Reading.Unbroken) ?_ fun _ hs =>
      ends_pure.mpr (hs.push (t := .value) nofun))
    exact Reading.Unbroken.dropCandidate (h.openOutside (t := .blockMapping) nofun)

theorem Reading.Unbroken.readAnchor (h : s.Unbroken) {t : Chars → Token}
    (ht : ∀ n f, t n ≠ .broken f) : ReadsOn (s.readAnchor t) :=
  h.saveCandidate.bind fun _ hs => (anchorName_fails _).bind_any fun n =>
    ends_pure.mpr (hs.push (ht n.1))

theorem Reading.Unbroken.readTag (h : s.Unbroken) : ReadsOn s.readTag :=
  h.saveCandidate.bind fun _ hs => (tagOf_fails _).bind_any fun t =>
    ends_pure.mpr (hs.push (t := .tag t.1.1 t.1.2) nofun)

theorem Reading.Unbroken.readBlock (h : s.Unbroken) (folded : Bool) :
    ReadsOn (s.readBlock folded) :=
  h.dropCandidate.bind fun _ hs => (blockScalar_fails _ _ _).bind_any fun t =>
    ends_pure.mpr (hs.push (t := .scalar t.1 false) nofun)

theorem Reading.Unbroken.readQuoted (h : s.Unbroken) (double : Bool) :
    ReadsOn (s.readQuoted double) :=
  h.saveCandidate.bind fun _ hs => (quotedScalar_fails _ _).bind_any fun t =>
    ends_pure.mpr (hs.push (t := .scalar t.1 false) nofun)

theorem Reading.Unbroken.readPlain (h : s.Unbroken) : ReadsOn s.readPlain :=
  h.saveCandidate.bind fun _ hs => ends_pure.mpr (hs.push (t := .scalar _ true) nofun)

/-- One more token is read, or reading fails with a fault of a configuration. -/
theorem Reading.Unbroken.readToken (h : s.Unbroken) : ReadsOn s.readToken := by
  unfold Reading.readToken
  refine (Reading.Unbroken.dropStale (s := s.toToken) h).bind fun t ht => ?_
  have hu := ht.unwind t.cursor.column
  dsimp only
  generalize t.unwind t.cursor.column = u at hu
  split
  · exact hu.readEnd
  · refine ends_ite hu.readDirective ?_
    refine ends_ite (hu.readSeparator nofun) ?_
    refine ends_ite (hu.readSeparator nofun) ?_
    refine ends_ite (hu.readOpening nofun) ?_
    refine ends_ite (hu.readOpening nofun) ?_
    refine ends_ite (hu.readClosing nofun) ?_
    refine ends_ite (hu.readClosing nofun) ?_
    refine ends_ite hu.readComma ?_
    refine ends_ite hu.readDash ?_
    refine ends_ite hu.readKey ?_
    refine ends_ite hu.readColon ?_
    refine ends_ite (hu.readAnchor nofun) ?_
    refine ends_ite (hu.readAnchor nofun) ?_
    refine ends_ite hu.readTag ?_
    refine ends_ite (hu.readBlock false) ?_
    refine ends_ite (hu.readBlock true) ?_
    refine ends_ite (hu.readQuoted false) ?_
    refine ends_ite (hu.readQuoted true) ?_
    exact ends_ite hu.readPlain (.error rfl)

/-! ## All tokens -/

/-- Tokens of which a broken one tells of a fault of a configuration. -/
def SoundTokens (ts : List Token) : Prop := ∀ f, .broken f ∈ ts → IsConfigFault f

theorem Reading.Unbroken.sound (h : s.Unbroken) : SoundTokens s.tokens.toList :=
  fun f hf => absurd (Array.mem_toList_iff.mp hf) (h f)

theorem Reading.Unbroken.upTo (h : s.Unbroken) (n : Nat) {f : Fault} (hf : IsConfigFault f) :
    SoundTokens (s.upTo n f) := by
  intro g hg
  rcases List.mem_append.mp hg with hg | hg
  · exact h.sound g (List.mem_of_mem_take hg)
  · cases List.mem_singleton.mp hg
    exact hf

theorem Reading.Unbroken.readTokens (h : s.Unbroken) (fuel : Nat) :
    SoundTokens (readTokens fuel s) := by
  induction fuel generalizing s with
  | zero => exact h.sound
  | succ fuel ih =>
    rw [Yaml.readTokens]
    split
    · next f hf => exact h.upTo _ (h.readToken.fault hf)
    · next t ht =>
      have hunbroken := h.readToken.value ht
      split
      · exact hunbroken.sound
      · split
        · next f hf => exact hunbroken.upTo _ (hunbroken.dropStale.fault hf)
        · next u hu => exact ih (hunbroken.dropStale.value hu)

/-- Where the tokens of a text break off, the fault is one of a configuration. -/
theorem tokensOf_sound (text : Chars) : SoundTokens (tokensOf text) :=
  Reading.Unbroken.readTokens (s := .start text) (fun _ hf => nomatch hf) _

end Yaml

end MarkupQuery
