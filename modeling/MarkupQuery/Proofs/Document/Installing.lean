import MarkupQuery.Document.Rewriting
import MarkupQuery.Proofs.Tree.Identity

/-!
# Installing trees

Trees come into a document when it is opened and when it is rewritten. Both parse markup, take in
what was parsed and install its root; both go one of a few ways, which depend on whether the parse
gave a tree and on whether the namespaces allow a query context (`Document.Installs`,
`Document.Replaces`).
-/

namespace MarkupQuery

open MarkupQuery.Text MarkupQuery.Tree MarkupQuery.Query

/-- Two steps give what the second gives, if none of them fails. -/
theorem bind_eq_ok {ε α β : Type} {x : Except ε α} {f : α → Except ε β} {b : β} :
    x >>= f = .ok b ↔ ∃ a, x = .ok a ∧ f a = .ok b := by
  cases x with
  | error e => simp [bind, Except.bind]
  | ok a => simp [bind, Except.bind]

theorem eq_ok_of_toOption {ε α : Type} {x : Except ε α} {a : α} (h : x.toOption = some a) : x = .ok a := by
  cases x with
  | error e => cases h
  | ok b => exact congrArg Except.ok (Option.some.inj h)

theorem exists_of_isOk {ε α : Type} {x : Except ε α} (h : x.isOk = true) : ∃ a, x = .ok a := by
  cases x with
  | error e => cases h
  | ok a => exact ⟨a, rfl⟩

/-! ## Parsing -/

/-- A parse numbers its tree from the next free id on, and its root is at the top. -/
theorem parseMarkup_tree {kind : Kind} {options : Options} {next : NodeId} {m : CodePoints}
    {f : Forest} {r : NodeId} (h : (parseMarkup kind options next m).tree = some (f, r)) :
    ∃ ns, numberAll next ns = (f, (parseMarkup kind options next m).nextId) ∧
      ∃ n ∈ f, n.id? = some r := by
  have hroot {g : Forest} (hg : withRoot g = some (f, r)) : g = f ∧ ∃ n ∈ f, n.id? = some r := by
    rw [withRoot, Option.map_eq_some_iff] at hg
    obtain ⟨i, hi, hgf⟩ := hg
    obtain ⟨rfl, rfl⟩ := Prod.mk.inj hgf
    obtain ⟨n, hn, hid⟩ := Option.bind_eq_some_iff.mp hi
    exact ⟨rfl, n, List.mem_of_find?_eq_some hn, hid⟩
  cases kind with
  | html =>
    rw [parseMarkup, parseHtml] at h ⊢
    dsimp only at h ⊢
    obtain ⟨hf, htop⟩ := hroot h
    exact ⟨_, by rw [← hf], htop⟩
  | xml =>
    rw [parseMarkup, parseXml] at h ⊢
    dsimp only at h ⊢
    split at h
    · cases h
    · obtain ⟨hf, htop⟩ := hroot h
      exact ⟨_, by rw [← hf], htop⟩

variable {d : Document}

/-- Markup parsed with the settings of a document and fresh ids. -/
def Document.parse (d : Document) (m : CodePoints) : Parsed :=
  parseMarkup d.kind d.options d.nextId m

/-- The root of what is parsed has a fresh id, and stands at the top of what is taken in. -/
theorem Document.root_parse {m : CodePoints} {f : Forest} {r : NodeId}
    (h : (d.parse m).tree = some (f, r)) :
    d.nextId ≤ r ∧ ∃ n ∈ (d.take (d.parse m)).trees.flatten, n.id? = some r := by
  obtain ⟨ns, hns, n, hn, hid⟩ := parseMarkup_tree h
  constructor
  · have hf : (numberAll d.nextId ns).1 = f := congrArg Prod.fst hns
    have hmem : r ∈ idsAll (numberAll d.nextId ns).1 :=
      mem_idsAll.mpr ⟨n, hf ▸ hn, Node.mem_ids_of_id? hid⟩
    exact (mem_idsAll_numberAll hmem).1
  · refine ⟨n, ?_, hid⟩
    rw [Document.take, h]
    exact List.mem_flatten.mpr ⟨f, by simp, hn⟩

/-! ## Installing -/

/-- What installing a root comes to. -/
inductive Document.Installs (d : Document) : Option NodeId → Outcome Unit → Prop
  | empty : d.Installs none ⟨.ok (), { d with root := none, context := none }, []⟩
  | full (r : NodeId) (spaces : List (Chars × Chars))
      (h : contextSpaces d.namespaces = .ok spaces) :
      d.Installs (some r) ⟨.ok (), { d with root := some r, context := some ⟨r, spaces⟩ }, []⟩
  | refused (r : NodeId) (f : Fault) (h : contextSpaces d.namespaces = .error f) :
      d.Installs (some r) ⟨.error f, { d with root := some r }, []⟩

theorem Document.installs (d : Document) (root : Option NodeId) :
    d.Installs root (d.install root) := by
  cases root with
  | none => exact .empty
  | some r =>
    unfold Document.install
    dsimp only
    split
    · next spaces h => exact .full r spaces h
    · next f h => exact .refused r f h

/-- Installing logs nothing. -/
theorem Document.Installs.eta {root : Option NodeId} {out : Outcome Unit}
    (h : d.Installs root out) :
    out = ⟨out.result, out.document, []⟩ := by
  cases h <;> rfl

/-! ## Opening -/

/-- A document is opened with what it is given, and without any tree. -/
structure Opening.Settles (o : Opening) (d : Document) : Prop where
  kind : Kind.ofDatum o.kind = .ok d.kind
  options : Options.ofDatum o.options = .ok d.options
  translator : (o.translator.getD (.translator .path)).resolve = .ok d.translator
  namespaces : mappingOf o.namespaces = .ok d.namespaces
  eq : d = { d with trees := [], root := none, context := none, epoch := 0, nextId := 1 }

theorem Opening.settles_of_settle {o : Opening} (h : o.settle = .ok d) : o.Settles d := by
  rw [Opening.settle] at h
  split at h
  · cases h
  · obtain ⟨kind, hkind, h⟩ := bind_eq_ok.mp h
    obtain ⟨options, hoptions, h⟩ := bind_eq_ok.mp h
    obtain ⟨translator, htranslator, h⟩ := bind_eq_ok.mp h
    obtain ⟨namespaces, hnamespaces, h⟩ := bind_eq_ok.mp h
    cases h
    exact ⟨hkind, hoptions, htranslator, hnamespaces, rfl⟩

/-- The document of an outcome, if nothing failed. -/
def Outcome.success {α : Type} (out : Outcome α) : Except Fault Document :=
  out.result.map fun _ => out.document

/-- A document is opened by installing what is parsed. -/
theorem Opening.run_eq {o : Opening} (h : o.settle = .ok d) :
    let p := d.parse (o.markup.read d.kind)
    o.run = (((d.take p).install (p.tree.map (·.2))).success, p.log) := by
  rw [Opening.run, h]
  dsimp only
  rw [Document.parse]
  split
  · next u heq => rw [Outcome.success, heq]; rfl
  · next f heq => rw [Outcome.success, heq]; rfl

/-- An opened document is one without tree in which what was parsed is installed. -/
theorem Opening.run_ok {o : Opening} (h : o.run.1 = .ok d) :
    ∃ d₀ m, o.settle = .ok d₀ ∧ (d₀.take (d₀.parse m)).Installs ((d₀.parse m).tree.map (·.2))
      ⟨.ok (), d, []⟩ := by
  rw [Opening.run] at h
  split at h
  · cases h
  · next d₀ hsettle =>
    have hinstalls := (d₀.take (d₀.parse (o.markup.read d₀.kind))).installs
      ((d₀.parse (o.markup.read d₀.kind)).tree.map (·.2))
    refine ⟨d₀, o.markup.read d₀.kind, hsettle, ?_⟩
    rw [Document.parse] at hinstalls ⊢
    dsimp only at h
    split at h
    · next hresult =>
      have hdocument := Except.ok.inj h
      have heta := hinstalls.eta
      rw [hresult, hdocument] at heta
      rwa [heta] at hinstalls
    · cases h

theorem Document.mem_spawnAll {ms : List Chars} {ns : List Document}
    (h : (d.spawnAll ms).1 = .ok ns) : ∀ n ∈ ns, ∃ m, (d.spawn m).1 = .ok n := by
  induction ms generalizing ns with
  | nil =>
    obtain rfl := Except.ok.inj h
    simp
  | cons m ms ih =>
    rw [Document.spawnAll] at h
    split at h
    · cases h
    · next n log hspawn =>
      rcases hrest : d.spawnAll ms with ⟨_ | rest, more⟩
      · rw [hrest] at h
        cases h
      · rw [hrest] at h
        obtain rfl := Except.ok.inj h
        rw [List.forall_mem_cons]
        exact ⟨⟨m, by rw [hspawn]⟩, ih (by rw [hrest])⟩

/-- Nested documents are opened one by one. -/
theorem Document.mem_nested {selector : String} {outer : Bool} {ns : List Document}
    (h : (d.nested selector outer).1 = .ok ns) : ∀ n ∈ ns, ∃ m, (d.spawn m).1 = .ok n := by
  rw [Document.nested] at h
  split at h
  · cases h
  · exact Document.mem_spawnAll h

/-- Whether a document is opened and passes a test. -/
def Opening.gives (o : Opening) (test : Document → Bool) : Bool :=
  match o.run.1 with
  | .ok d => test d
  | .error _ => false

theorem Opening.exists_of_gives {o : Opening} {test : Document → Bool} (h : o.gives test = true) :
    ∃ d, o.run.1 = .ok d ∧ test d = true := by
  rw [Opening.gives] at h
  split at h
  · next d hd => exact ⟨d, hd, h⟩
  · cases h

/-! ## Rewriting -/

/-- The tree that a rewrite gives, with its root, and what is parsed along with it; none if the
rewrite fails or no root comes out. -/
def Document.reparsed (d : Document) (p : PatternSource) (replacement : Replacement) :
    Option (Parsed × NodeId) :=
  match d.rewritten p replacement with
  | .error _ => none
  | .ok (_, s) =>
      let parsed := d.parse (codePoints (if isAllBlank s then emptyMarkup else s))
      parsed.tree.map fun tree => (parsed, tree.2)

theorem Document.reparsed_some {p : PatternSource} {replacement : Replacement} {parsed : Parsed}
    {r : NodeId} (h : d.reparsed p replacement = some (parsed, r)) :
    ∃ m f, parsed = d.parse m ∧ (d.parse m).tree = some (f, r) := by
  rw [Document.reparsed] at h
  split at h
  · cases h
  · obtain ⟨⟨f, root⟩, htree, heq⟩ := Option.map_eq_some_iff.mp h
    obtain ⟨rfl, rfl⟩ := Prod.mk.inj heq
    exact ⟨_, f, rfl, htree⟩

/-- What rewriting comes to. -/
inductive Document.Replaces (d : Document) (p : PatternSource) (replacement : Replacement) :
    Outcome Unit → Prop
  | failed (f : Fault) (log : List LogLine) (h : d.reparsed p replacement = none) :
      d.Replaces p replacement ⟨.error f, d, log⟩
  | done (parsed : Parsed) (r : NodeId) (spaces : List (Chars × Chars)) (log : List LogLine)
      (h : d.reparsed p replacement = some (parsed, r))
      (hspaces : contextSpaces d.namespaces = .ok spaces) :
      d.Replaces p replacement
        ⟨.ok (), { d.take parsed with
          root := some r, context := some ⟨r, spaces⟩, epoch := d.epoch + 1 }, log⟩
  | refused (parsed : Parsed) (r : NodeId) (f : Fault) (log : List LogLine)
      (h : d.reparsed p replacement = some (parsed, r))
      (hspaces : contextSpaces d.namespaces = .error f) :
      d.Replaces p replacement ⟨.error f, { d.take parsed with root := some r }, log⟩

theorem Document.namespaces_take (d : Document) (p : Parsed) :
    (d.take p).namespaces = d.namespaces := by
  rw [Document.take]
  split <;> rfl

theorem Document.translator_take (d : Document) (p : Parsed) :
    (d.take p).translator = d.translator := by
  rw [Document.take]
  split <;> rfl

theorem Document.replaces (d : Document) (p : PatternSource) (replacement : Replacement) :
    d.Replaces p replacement (d.replace p replacement) := by
  rw [Document.replace]
  cases hrewritten : d.rewritten p replacement with
  | error f => exact .failed f [] (by rw [Document.reparsed, hrewritten])
  | ok result =>
    obtain ⟨r, s⟩ := result
    have hreparsed : d.reparsed p replacement
        = (d.parse (codePoints (if isAllBlank s then emptyMarkup else s))).tree.map fun tree =>
            (d.parse (codePoints (if isAllBlank s then emptyMarkup else s)), tree.2) := by
      rw [Document.reparsed, hrewritten]
    rw [Document.parse] at hreparsed
    dsimp only
    generalize parseMarkup d.kind d.options d.nextId
      (codePoints (if isAllBlank s then emptyMarkup else s)) = parsed at hreparsed ⊢
    cases htree : parsed.tree with
    | none => exact .failed _ _ (by rw [hreparsed, htree]; rfl)
    | some tree =>
      obtain ⟨f, root⟩ := tree
      rw [htree, Option.map_some] at hreparsed
      have hinstalls := (d.take parsed).installs (some root)
      dsimp only
      generalize (d.take parsed).install (some root) = out at hinstalls ⊢
      cases hinstalls with
      | full _ spaces h => exact .done parsed root spaces _ hreparsed (d.namespaces_take parsed ▸ h)
      | refused _ f h => exact .refused parsed root f _ hreparsed (d.namespaces_take parsed ▸ h)

end MarkupQuery
