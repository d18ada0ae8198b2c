import MarkupQuery.Yaml.Node
import MarkupQuery.Proofs.Yaml.Scanning

/-!
# Faults of the structure of a configuration text

Where tokens have no structure the fault is one of a configuration (`readDocument_fails`). The readers of
nodes call each other with less and less fuel; one step of each is shown from all of them with less fuel
(`ReadersWith.succ`), and the tokens that are left stay sound.
-/

namespace MarkupQuery.Yaml

open MarkupQuery.Text

/-! ## Sources -/

/-- A source with sound tokens. -/
def Source.Sound (s : Source) : Prop := SoundTokens s.tokens

/-- Something is read and a sound source is left, or the fault is one of a configuration. -/
abbrev Leaves {α : Type} (x : Except Fault (α × Source)) : Prop :=
  Ends IsConfigFault (fun r => r.2.Sound) x

variable {s : Source} {handles : Handles}

theorem Source.Sound.peek (h : s.Sound) : FailsOnly IsConfigFault s.peek := by
  unfold Source.peek
  split
  · next f ts heq => exact .error (h f (heq ▸ List.mem_cons_self))
  · exact failsOnly_ok
  · exact failsOnly_ok

theorem Source.Sound.pop (h : s.Sound) : s.pop.Sound := fun f hf => h f (List.mem_of_mem_tail hf)

theorem Source.Sound.name (h : s.Sound) (anchor : Option Chars) (what : Node ⊕ Bool) :
    (s.name anchor what).Sound := by
  cases anchor <;> exact h

theorem Source.fresh_fails (s : Source) (anchor : Option Chars) :
    FailsOnly IsConfigFault (s.fresh anchor) :=
  ends_ite (.error rfl) failsOnly_ok

theorem fullTag_fails (tag : Option Chars × Chars) :
    FailsOnly IsConfigFault (fullTag handles tag) := by
  unfold fullTag
  split
  · exact failsOnly_ok
  · split
    · exact failsOnly_ok
    · exact .error rfl

theorem Source.Sound.properties (h : s.Sound) :
    Ends IsConfigFault (fun r => r.2.2.Sound) (properties s) := by
  unfold Yaml.properties
  refine h.peek.bind_any fun t => ?_
  split
  · refine h.pop.peek.bind_any fun t => ?_
    split
    · exact ends_pure.mpr h.pop.pop
    · exact ends_pure.mpr h.pop
  · refine h.pop.peek.bind_any fun t => ?_
    split
    · exact ends_pure.mpr h.pop.pop
    · exact ends_pure.mpr h.pop
  · exact ends_pure.mpr h

/-! ## Readers of nodes -/

/-- All readers of nodes with some fuel. -/
structure ReadersWith (fuel : Nat) : Prop where
  node : ∀ {handles place s}, s.Sound → Leaves (readNode handles place fuel s)
  optional : ∀ {handles place enders s}, s.Sound → Leaves (readOptional handles place enders fuel s)
  items : ∀ {handles s}, s.Sound → Leaves (readItems handles fuel s)
  bareItems : ∀ {handles s}, s.Sound → Leaves (readBareItems handles fuel s)
  entries : ∀ {handles s}, s.Sound → Leaves (readEntries handles fuel s)
  blockValue : ∀ {handles s}, s.Sound → Leaves (readBlockValue handles fuel s)
  flowItems : ∀ {handles first s}, s.Sound → Leaves (readFlowItems handles first fuel s)
  flowEntries : ∀ {handles first s}, s.Sound → Leaves (readFlowEntries handles first fuel s)
  flowValue : ∀ {handles enders s}, s.Sound → Leaves (readFlowValue handles enders fuel s)

namespace ReadersWith

variable {fuel : Nat}

theorem zero : ReadersWith 0 := by
  constructor <;> intros <;> exact .error rfl

/-- A collection is named after it was read. -/
theorem leaves_collection {α : Type} {x : Except Fault (α × Source)} (hx : Leaves x)
    (u : Source) (anchor : Option Chars) (make : α → Node) :
    Leaves (do
      u.fresh anchor
      let (a, v) ← x
      return (make a, v.name anchor (.inl (make a)))) :=
  (u.fresh_fails anchor).bind_any fun _ => hx.bind fun _ hv => ends_pure.mpr (hv.name _ _)

theorem succ_node (h : ReadersWith fuel) {place : Place} (hs : s.Sound) :
    Leaves (readNode handles place (fuel + 1) s) := by
  rw [readNode]
  refine hs.peek.bind_any fun t => ?_
  split
  · split
    · exact ends_pure.mpr hs.pop
    · exact ends_pure.mpr hs.pop
    · exact .error rfl
  · refine hs.properties.bind fun ⟨anchor, tag, u⟩ hu => ?_
    have htag : FailsOnly IsConfigFault (tag.mapM (fullTag handles)) := by
      cases tag with
      | none => exact failsOnly_pure
      | some t => exact (fullTag_fails t).bind_any fun _ => failsOnly_pure
    have hscalar (n : Node) (v : Source) (hv : v.Sound) : Leaves (do
        u.fresh anchor
        return (n, v.name anchor (.inl n))) :=
      (u.fresh_fails anchor).bind_any fun _ => ends_pure.mpr (hv.name _ _)
    refine htag.bind_any fun tag => hu.peek.bind_any fun t => ?_
    dsimp only
    split
    · exact hscalar _ _ hu.pop
    · exact leaves_collection (h.flowItems (hu.pop.name _ _)) u anchor _
    · exact leaves_collection (h.flowEntries (hu.pop.name _ _)) u anchor _
    · refine ends_ite (leaves_collection (h.bareItems (hu.name _ _)) u anchor _) ?_
      refine ends_ite (leaves_collection (h.items (hu.pop.name _ _)) u anchor _) ?_
      refine ends_ite (leaves_collection (h.entries (hu.pop.name _ _)) u anchor _) ?_
      exact ends_ite (hscalar _ _ hu) (.error rfl)

theorem succ_optional (h : ReadersWith fuel) {place : Place} {enders : List String}
    (hs : s.Sound) : Leaves (readOptional handles place enders (fuel + 1) s) := by
  rw [readOptional]
  exact hs.peek.bind_any fun _ => ends_ite (ends_pure.mpr hs) (h.node hs)

theorem succ_items (h : ReadersWith fuel) (hs : s.Sound) :
    Leaves (readItems handles (fuel + 1) s) := by
  rw [readItems]
  refine hs.peek.bind_any fun t => ?_
  split
  · exact (h.optional hs.pop).bind fun _ hu => (h.items hu).bind fun _ hv => ends_pure.mpr hv
  · exact ends_pure.mpr hs.pop
  · exact .error rfl

theorem succ_bareItems (h : ReadersWith fuel) (hs : s.Sound) :
    Leaves (readBareItems handles (fuel + 1) s) := by
  rw [readBareItems]
  refine hs.peek.bind_any fun t => ?_
  split
  · exact (h.optional hs.pop).bind fun _ hu => (h.bareItems hu).bind fun _ hv => ends_pure.mpr hv
  · exact ends_pure.mpr hs

theorem succ_entries (h : ReadersWith fuel) (hs : s.Sound) :
    Leaves (readEntries handles (fuel + 1) s) := by
  rw [readEntries]
  refine hs.peek.bind_any fun t => ?_
  split
  · exact (h.optional hs.pop).bind fun _ hu => (h.blockValue hu).bind fun _ hv =>
      (h.entries hv).bind fun _ hw => ends_pure.mpr hw
  · exact ends_pure.mpr hs.pop
  · exact .error rfl

theorem succ_blockValue (h : ReadersWith fuel) (hs : s.Sound) :
    Leaves (readBlockValue handles (fuel + 1) s) := by
  rw [readBlockValue]
  refine hs.peek.bind_any fun t => ?_
  split
  · exact h.optional hs.pop
  · exact ends_pure.mpr hs

theorem succ_flowValue (h : ReadersWith fuel) {enders : List String} (hs : s.Sound) :
    Leaves (readFlowValue handles enders (fuel + 1) s) := by
  rw [readFlowValue]
  refine hs.peek.bind_any fun t => ?_
  split
  · exact h.optional hs.pop
  · exact ends_pure.mpr hs

/-- Between brackets a comma stands before each part but the first. -/
theorem leaves_afterComma {α : Type} {k : Source → Except Fault (α × Source)}
    (hk : ∀ u, u.Sound → Leaves (k u)) (first : Bool) (t : Token) (hs : s.Sound) :
    Leaves (match first, t with
      | true, _ => pure s >>= k
      | false, .flowEntry => pure s.pop >>= k
      | false, _ => throw illFormed >>= k) := by
  split
  · exact hk s hs
  · exact hk s.pop hs.pop
  · exact .error rfl

theorem succ_flowItems (h : ReadersWith fuel) {first : Bool} (hs : s.Sound) :
    Leaves (readFlowItems handles first (fuel + 1) s) := by
  rw [readFlowItems]
  refine hs.peek.bind_any fun t => ?_
  split
  · exact ends_pure.mpr hs.pop
  · refine leaves_afterComma (fun u hu => hu.peek.bind_any fun t => ?_) first _ hs
    split
    · exact ends_pure.mpr hu.pop
    · exact (h.optional hu.pop).bind fun _ hv => (h.flowValue hv).bind fun _ hw =>
        (h.flowItems hw).bind fun _ hx => ends_pure.mpr hx
    · exact (h.node hu).bind fun _ hv => (h.flowItems hv).bind fun _ hw => ends_pure.mpr hw

theorem succ_flowEntries (h : ReadersWith fuel) {first : Bool} (hs : s.Sound) :
    Leaves (readFlowEntries handles first (fuel + 1) s) := by
  rw [readFlowEntries]
  refine hs.peek.bind_any fun t => ?_
  split
  · exact ends_pure.mpr hs.pop
  · refine leaves_afterComma (fun u hu => hu.peek.bind_any fun t => ?_) first _ hs
    split
    · exact ends_pure.mpr hu.pop
    · exact (h.optional hu.pop).bind fun _ hv => (h.flowValue hv).bind fun _ hw =>
        (h.flowEntries hw).bind fun _ hx => ends_pure.mpr hx
    · exact (h.node hu).bind fun _ hv => (h.flowEntries hv).bind fun _ hw => ends_pure.mpr hw

/-- One step of each reader. -/
theorem succ (h : ReadersWith fuel) : ReadersWith (fuel + 1) where
  node := h.succ_node
  optional := h.succ_optional
  items := h.succ_items
  bareItems := h.succ_bareItems
  entries := h.succ_entries
  blockValue := h.succ_blockValue
  flowItems := h.succ_flowItems
  flowEntries := h.succ_flowEntries
  flowValue := h.succ_flowValue

theorem all (fuel : Nat) : ReadersWith fuel := by
  induction fuel with
  | zero => exact zero
  | succ fuel ih => exact ih.succ

end ReadersWith

/-! ## Documents -/

variable {ts : List Token}

theorem SoundTokens.tail {t : Token} (h : SoundTokens (t :: ts)) : SoundTokens ts :=
  fun f hf => h f (List.mem_cons_of_mem t hf)

theorem SoundTokens.readDirectives (h : SoundTokens ts) (versioned : Bool) :
    Ends IsConfigFault (fun r => SoundTokens r.2) (readDirectives ts versioned handles) := by
  fun_induction Yaml.readDirectives ts versioned handles with
  | case1 => exact .error rfl
  | case2 _ _ _ _ _ ih => exact ih h.tail
  | case3 => exact .error rfl
  | case4 _ _ _ _ _ _ ih => exact ih h.tail
  | case5 _ _ _ ih => exact ih h.tail
  | case6 => exact .error (h _ List.mem_cons_self)
  | case7 => exact .ok h

theorem SoundTokens.skipEnds (h : SoundTokens ts) : SoundTokens (skipEnds ts) := by
  fun_induction Yaml.skipEnds ts with
  | case1 _ ih => exact ih h.tail
  | case2 => exact h

/-- The tokens of a document, if there is one. -/
theorem SoundTokens.readStart (h : SoundTokens ts) :
    Ends IsConfigFault (fun r => ∀ d ∈ r, SoundTokens d.2) (readStart ts) := by
  unfold Yaml.readStart
  have hrest := h.skipEnds
  split
  · next f r heq => exact .error (hrest f (heq ▸ List.mem_cons_self))
  · exact .ok nofun
  · exact .ok nofun
  · refine (hrest.readDirectives false).bind fun d hd => ?_
    obtain ⟨handles, r⟩ := d
    dsimp only at hd ⊢
    split
    · exact ends_pure.mpr fun d hsome => Option.some.inj hsome ▸ hd.tail
    · exact .error (hd _ List.mem_cons_self)
    · exact .error rfl

theorem SoundTokens.readContent (h : SoundTokens ts) : Leaves (readContent handles ts) := by
  unfold Yaml.readContent
  dsimp only
  split
  all_goals first
    | exact ends_ok.mpr h
    | exact (ReadersWith.all _).node h

/-- Nothing but the end may follow a document. -/
theorem SoundTokens.readEnd {α : Type} (h : SoundTokens ts) (a : α) :
    FailsOnly IsConfigFault (do
      match ← Yaml.readStart ts with
      | none => return some a
      | some _ => throw (.yaml .composer)) := by
  refine h.readStart.failsOnly.bind_any fun d => ?_
  cases d with
  | none => exact failsOnly_pure
  | some d => exact .error rfl

/-- Where there is no document, the fault is one of a configuration. -/
theorem SoundTokens.readDocument (h : SoundTokens ts) :
    FailsOnly IsConfigFault (readDocument ts) := by
  unfold Yaml.readDocument
  dsimp only
  split
  case h_1 => exact .error (h _ List.mem_cons_self)
  case h_6 =>
    refine ((ReadersWith.all _).node (s := ⟨ts, []⟩) h).bind fun c hc => hc.peek.bind_any fun t => ?_
    split
    · exact hc.pop.readEnd c.1
    · exact hc.readEnd c.1
  -- directives, marks and the end come before an explicit document or before none
  all_goals
    refine h.readStart.bind fun d hd => ?_
    cases d with
    | none => exact failsOnly_pure
    | some d =>
      refine (hd d rfl).readContent.bind fun c hc => hc.peek.bind_any fun t => ?_
      split
      · exact hc.pop.readEnd c.1
      · exact hc.readEnd c.1

end MarkupQuery.Yaml
