import MarkupQuery.Proofs.Document.Soundness

/-!
# Coherent documents

As long as all prefixes and namespaces that a document is given are usable, its root, its query
context and its epoch belong together: there is a context exactly if there is a root, the context
starts at the root and has all namespaces of the document, and within one epoch there is only one
root. The root can be lost within an epoch, by removing it, but it is never exchanged.
-/

namespace MarkupQuery

open MarkupQuery.Text MarkupQuery.Tree MarkupQuery.Query

/-! ## Coherence -/

/-- A document whose root and query context belong together. -/
structure Document.Coherent (d : Document) : Prop where
  usable : ∀ s ∈ d.namespaces, isUsable s = true
  context : (d.root = none ∧ d.context = none) ∨ ∃ r spaces,
    d.root = some r ∧ d.context = some ⟨r, spaces⟩ ∧ d.namespaces = spaces.map spaceEntry

/-- A document and what it can become: a later epoch, or the same one with the same root or none. -/
structure Document.Precedes (d d' : Document) : Prop where
  epoch : d.epoch ≤ d'.epoch
  root : d'.epoch = d.epoch → d'.root = d.root ∨ d'.root = none

variable {d d' : Document}

theorem Document.Coherent.context_eq_none_iff (hd : d.Coherent) :
    d.context = none ↔ d.root = none := by
  rcases hd.context with ⟨hroot, hcontext⟩ | ⟨r, spaces, hroot, hcontext, -⟩ <;>
    simp [hroot, hcontext]

theorem Document.Coherent.of_context (hd : d.Coherent) {c : QueryContext}
    (hc : d.context = some c) :
    d.root = some c.root ∧ d.namespaces = c.spaces.map spaceEntry := by
  rcases hd.context with ⟨-, hcontext⟩ | ⟨r, spaces, hroot, hcontext, hspaces⟩
  · cases hc.symm.trans hcontext
  · obtain rfl := Option.some.inj (hc.symm.trans hcontext)
    exact ⟨hroot, hspaces⟩

theorem Document.Precedes.refl (d : Document) : d.Precedes d := ⟨le_rfl, fun _ => .inl rfl⟩

theorem Document.Precedes.trans {d'' : Document} (h : d.Precedes d') (h' : d'.Precedes d'') :
    d.Precedes d'' where
  epoch := h.epoch.trans h'.epoch
  root heq := by
    have hmid : d'.epoch = d.epoch := le_antisymm (heq ▸ h'.epoch) h.epoch
    rcases h'.root (heq.trans hmid.symm) with hroot | hroot
    · exact hroot ▸ h.root hmid
    · exact .inr hroot

/-- The prefix and the namespace that an operation gives to a document, if any. -/
def Operation.registration? : Operation → Option (Datum × Datum)
  | .registerNamespace label name => some (label, name)
  | _ => none

/-- Whether what an operation gives to a document is usable. -/
def Operation.isUsable (op : Operation) : Bool := op.registration?.all MarkupQuery.isUsable

/-- The namespaces of a document after an operation, failed or not. -/
def Operation.namespaces (es : List (Datum × Datum)) : Operation → List (Datum × Datum)
  | .registerNamespace label name => if label.isKey then Datum.put label name es else es
  | _ => es

/-- Putting a usable prefix among usable ones leaves usable ones. -/
theorem isUsable_put {label name : Datum} {es : List (Datum × Datum)}
    (hes : ∀ s ∈ es, isUsable s = true) (hnew : isUsable (label, name) = true) :
    ∀ s ∈ Datum.put label name es, isUsable s = true := by
  induction es with
  | nil => simpa [Datum.put] using hnew
  | cons e es ih =>
    obtain ⟨k, v⟩ := e
    rw [List.forall_mem_cons] at hes
    rw [Datum.put]
    split
    · rw [List.forall_mem_cons]
      refine ⟨?_, hes.2⟩
      rw [isUsable, Bool.and_eq_true] at hnew hes ⊢
      exact ⟨hes.1.1, hnew.2⟩
    · exact List.forall_mem_cons.mpr ⟨hes.1, ih hes.2⟩

/-! ## Operations -/

/-- Only registering changes the namespaces of a document. -/
theorem Document.namespaces_perform (d : Document) (op : Operation) :
    (d.perform op).document.namespaces = op.namespaces d.namespaces := by
  have hchanges := d.perform_changes op
  generalize (d.perform op).document = d' at hchanges
  cases hchanges with
  | same op hclose hreplace hregister =>
    cases op with
    | registerNamespace label name => exact absurd rfl (hregister label name)
    | _ => rfl
  | translated => rfl
  | registered label name out h =>
    cases h with
    | noKey h => simp [Operation.namespaces, h]
    | empty h => simp [Operation.namespaces, h]
    | done c s h => simp [Operation.namespaces, h]
    | refused c f h => simp [Operation.namespaces, h]
  | removed s ss =>
    obtain ⟨trees, h | h⟩ := d.detachAll_document ss <;> rw [h] <;> rfl
  | detached h =>
    obtain ⟨trees, h | h⟩ := d.detach_document h.selected <;> rw [h] <;> rfl
  | replaced p r out hout h =>
    cases h with
    | failed => rfl
    | done parsed => exact d.namespaces_take parsed
    | refused parsed => exact d.namespaces_take parsed
  | closed => rfl

/-- Usable prefixes leave all namespaces of a document usable. -/
theorem Operation.isUsable_namespaces {op : Operation} (hop : op.isUsable = true)
    {es : List (Datum × Datum)} (hes : ∀ s ∈ es, MarkupQuery.isUsable s = true) :
    ∀ s ∈ op.namespaces es, MarkupQuery.isUsable s = true := by
  cases op with
  | registerNamespace label name =>
    rw [Operation.namespaces]
    split
    · exact isUsable_put hes hop
    · exact hes
  | _ => exact hes

/-- What is emptied has neither root nor context. -/
theorem Document.Coherent.emptied (hd : d.Coherent) (trees : List Forest) :
    ({ d with trees, root := none, context := none } : Document).Coherent ∧
      d.Precedes { d with trees, root := none, context := none } :=
  ⟨⟨hd.usable, .inl ⟨rfl, rfl⟩⟩, le_rfl, fun _ => .inr rfl⟩

theorem Document.Coherent.trees (hd : d.Coherent) (trees : List Forest) :
    ({ d with trees } : Document).Coherent ∧ d.Precedes { d with trees } :=
  ⟨⟨hd.usable, hd.context⟩, le_rfl, fun _ => .inl rfl⟩

/-- Every operation that gives nothing unusable to a document keeps it coherent, and exchanges its
root in a new epoch only. -/
theorem Document.Coherent.perform (hd : d.Coherent) {op : Operation} (hop : op.isUsable = true) :
    (d.perform op).document.Coherent ∧ d.Precedes (d.perform op).document := by
  have husable : ∀ s ∈ (d.perform op).document.namespaces, isUsable s = true := by
    rw [d.namespaces_perform]
    exact op.isUsable_namespaces hop hd.usable
  have hchanges := d.perform_changes op
  generalize (d.perform op).document = d' at hchanges husable
  cases hchanges with
  | same => exact ⟨hd, .refl d⟩
  | translated => exact ⟨⟨hd.usable, hd.context⟩, le_rfl, fun _ => .inl rfl⟩
  | registered label name out h =>
    cases h with
    | noKey => exact ⟨hd, .refl d⟩
    | empty h hcontext =>
      refine ⟨⟨husable, .inl ⟨?_, hcontext⟩⟩, le_rfl, fun _ => .inl rfl⟩
      rcases hd.context with ⟨hroot, -⟩ | ⟨r, spaces, -, hsome, -⟩
      · exact hroot
      · cases hcontext.symm.trans hsome
    | done c s h hcontext hpair =>
      refine ⟨⟨husable, .inr ?_⟩, le_rfl, fun _ => .inl rfl⟩
      rcases hd.context with ⟨-, hnone⟩ | ⟨r, spaces, hroot, hsome, hspaces⟩
      · cases hcontext.symm.trans hnone
      · obtain rfl := Option.some.inj (hcontext.symm.trans hsome)
        refine ⟨r, putPair s.1 s.2 spaces, hroot, rfl, ?_⟩
        have hentry := (contextPair_eq_ok.mp hpair).1
        rw [map_putPair, ← hspaces, ← hentry]
    | refused c f h hcontext hpair =>
      -- a usable prefix is never refused
      obtain ⟨s, hs⟩ := (contextSpace_ok_iff label name).mpr hop
      rw [contextSpace] at hs
      split at hs
      · cases hs
      · cases hpair.symm.trans hs
  | removed s ss =>
    obtain ⟨trees, h | h⟩ := d.detachAll_document ss <;> rw [h]
    · exact hd.trees trees
    · exact hd.emptied trees
  | detached h =>
    obtain ⟨trees, h | h⟩ := d.detach_document h.selected <;> rw [h]
    · exact hd.trees trees
    · exact hd.emptied trees
  | replaced p r out hout h =>
    cases h with
    | failed => exact ⟨hd, .refl d⟩
    | done parsed r spaces log h hspaces =>
      refine ⟨⟨husable, .inr ⟨r, spaces, rfl, rfl, ?_⟩⟩, Nat.le_succ _, fun h => ?_⟩
      · exact (d.namespaces_take parsed).trans (eq_map_of_contextSpaces hspaces)
      · exact absurd h (Nat.succ_ne_self _)
    | refused parsed r f log h hspaces =>
      -- all namespaces are usable, so they allow a context
      obtain ⟨spaces, hok⟩ := (contextSpaces_ok_iff d.namespaces).mpr hd.usable
      cases hspaces.symm.trans hok
  | closed =>
    refine ⟨⟨hd.usable, .inl ⟨rfl, rfl⟩⟩, Nat.le_succ _, fun h => ?_⟩
    exact absurd h (Nat.succ_ne_self _)

theorem Document.Coherent.run (hd : d.Coherent) {ops : List Operation}
    (hops : ∀ op ∈ ops, op.isUsable = true) : (d.run ops).Coherent ∧ d.Precedes (d.run ops) := by
  induction ops generalizing d with
  | nil => exact ⟨hd, .refl d⟩
  | cons op ops ih =>
    rw [List.forall_mem_cons] at hops
    obtain ⟨hnext, hprecedes⟩ := hd.perform hops.1
    obtain ⟨hlast, hprecedes'⟩ := ih hnext hops.2
    exact ⟨hlast, hprecedes.trans hprecedes'⟩

theorem Document.namespaces_run (d : Document) (ops : List Operation) :
    (d.run ops).namespaces = ops.foldl Operation.namespaces d.namespaces := by
  induction ops generalizing d with
  | nil => rfl
  | cons op ops ih =>
    rw [List.foldl_cons, ← d.namespaces_perform op]
    exact ih _

/-! ## Opened documents -/

/-- An opened document has the namespaces that it was opened with, and its root and context belong
together. -/
theorem Opening.coherent {o : Opening} (h : o.run.1 = .ok d) :
    mappingOf o.namespaces = .ok d.namespaces ∧
      ((∀ s ∈ d.namespaces, isUsable s = true) → d.Coherent) := by
  obtain ⟨d₀, m, hsettle, hinstalls⟩ := Opening.run_ok h
  have hnamespaces : d.namespaces = d₀.namespaces := by
    rw [← d₀.namespaces_take (d₀.parse m)]
    generalize (d₀.parse m).tree.map (·.2) = root at hinstalls
    cases hinstalls <;> rfl
  refine ⟨hnamespaces ▸ (Opening.settles_of_settle hsettle).namespaces, fun husable => ⟨husable, ?_⟩⟩
  generalize (d₀.parse m).tree.map (·.2) = root at hinstalls
  cases hinstalls with
  | empty => exact .inl ⟨rfl, rfl⟩
  | full r spaces hspaces => exact .inr ⟨r, spaces, rfl, rfl, eq_map_of_contextSpaces hspaces⟩

/-- A nested document has the namespaces of the document that it was taken from. -/
theorem Document.namespaces_spawn {markup : Chars} (h : (d.spawn markup).1 = .ok d') :
    d'.namespaces = d.namespaces := by
  have hmapping := (Opening.coherent h).1
  dsimp only [mappingOf] at hmapping
  split at hmapping
  · next hempty =>
    obtain hnil := Except.ok.inj hmapping
    have hes : d.namespaces = [] := by simpa [Datum.isTruthy] using hempty
    rw [← hnil, hes]
  · exact (Except.ok.inj hmapping).symm

/-- Documents nested in a coherent document are coherent, with the same namespaces. -/
theorem Document.Coherent.nested (hd : d.Coherent) {selector : String} {outer : Bool}
    {ns : List Document} (h : (d.nested selector outer).1 = .ok ns) :
    ∀ n ∈ ns, n.Coherent ∧ n.namespaces = d.namespaces := by
  intro n hn
  obtain ⟨m, hspawn⟩ := Document.mem_nested h n hn
  have hnamespaces := Document.namespaces_spawn hspawn
  exact ⟨(Opening.coherent hspawn).2 (hnamespaces ▸ hd.usable), hnamespaces⟩

/-! ## Histories -/

/-- A document that is only ever given usable prefixes and namespaces stays coherent: at every point
it has a query context exactly if it has a root, and then the context starts at the root and has
exactly the namespaces that the document was given, as have all documents nested in it; two points
of one epoch that both have a root have the same; and a handle that is not stale is of the tree that
is installed, unless the document was emptied. -/
theorem Document.coherent_of_usable {o : Opening} {d₀ : Document} (hopen : o.run.1 = .ok d₀)
    (hopened : ∀ s ∈ d₀.namespaces, isUsable s = true) (before after : List Operation)
    (husable : ∀ op ∈ before ++ after, op.isUsable = true) :
    ((d₀.run before).context = none ↔ (d₀.run before).root = none) ∧
    (∀ c, (d₀.run before).context = some c → (d₀.run before).root = some c.root ∧
      (d₀.run before).namespaces = c.spaces.map spaceEntry) ∧
    (d₀.run before).namespaces = before.foldl Operation.namespaces d₀.namespaces ∧
    (∀ selector outer ns, ((d₀.run before).nested selector outer).1 = .ok ns → ∀ n ∈ ns,
      n.namespaces = (d₀.run before).namespaces ∧ (n.context = none ↔ n.root = none) ∧
      ∀ c, n.context = some c → n.root = some c.root ∧ n.namespaces = c.spaces.map spaceEntry) ∧
    (∀ r r', ((d₀.run before).run after).epoch = (d₀.run before).epoch →
      (d₀.run before).root = some r → ((d₀.run before).run after).root = some r' → r' = r) ∧
    ∀ selector hs, (d₀.run before).elements selector = .ok hs → ∀ h ∈ hs,
      h.isStale ((d₀.run before).run after) = false →
      ((d₀.run before).run after).root = (d₀.run before).root ∨
        ((d₀.run before).run after).root = none := by
  obtain ⟨hd, -⟩ := ((Opening.coherent hopen).2 hopened).run
    fun op hop => husable op (List.mem_append_left after hop)
  obtain ⟨-, hprecedes⟩ := hd.run fun op hop => husable op (List.mem_append_right before hop)
  refine ⟨hd.context_eq_none_iff, fun c hc => hd.of_context hc, d₀.namespaces_run before,
    ?_, ?_, ?_⟩
  · intro selector outer ns hnested n hn
    obtain ⟨hn, hnamespaces⟩ := hd.nested hnested n hn
    exact ⟨hnamespaces, hn.context_eq_none_iff, fun c hc => hn.of_context hc⟩
  · intro r r' hepoch hroot hroot'
    rcases hprecedes.root hepoch with hsame | hnone
    · exact Option.some.inj ((hroot'.symm.trans hsame).trans hroot)
    · cases hroot'.symm.trans hnone
  · intro selector hs helements h hh hlive
    refine hprecedes.root ?_
    obtain ⟨found, -, hmap⟩ := bind_eq_ok.mp helements
    obtain rfl := Except.ok.inj hmap
    obtain ⟨f, -, rfl⟩ := List.mem_map.mp hh
    simpa [Handle.isStale] using hlive

/-- A prefix registered after the root was removed, before a rewrite. -/
theorem coherent_of_usable_registered :
    ∃ d₀, (Opening.run { markup := .text (codePoints "<r><a>1</a></r>".toList), kind := .int 1
                         namespaces := .dict [(.text "p", .text "urn:p")] }).1 = .ok d₀ ∧
      (∀ s ∈ d₀.namespaces, isUsable s = true) ∧
      ((d₀.run [.remove "/r", .registerNamespace (.text "q") (.text "urn:q")]).context = none ↔
        (d₀.run [.remove "/r", .registerNamespace (.text "q") (.text "urn:q")]).root = none) := by
  obtain ⟨d₀, hopen, htest⟩ : ∃ d₀,
      (Opening.run { markup := .text (codePoints "<r><a>1</a></r>".toList), kind := .int 1
                     namespaces := .dict [(.text "p", .text "urn:p")] }).1 = .ok d₀ ∧
      d₀.namespaces.all isUsable = true :=
    Opening.exists_of_gives (by decide +kernel)
  have hopened : ∀ s ∈ d₀.namespaces, isUsable s = true := List.all_eq_true.mp htest
  have hcoherent := Document.coherent_of_usable hopen hopened
    [.remove "/r", .registerNamespace (.text "q") (.text "urn:q")]
    [.replace (.text ['1']) (.template ['2']), .close] (by decide +kernel)
  exact ⟨d₀, hopen, hopened, hcoherent.1⟩

end MarkupQuery
