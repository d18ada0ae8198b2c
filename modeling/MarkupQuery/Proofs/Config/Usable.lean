import MarkupQuery.Proofs.Config.Loading
import MarkupQuery.Proofs.Document.Namespaces

/-!
# Opening documents under a configuration

A configuration that was loaded opens every markup, unless the markup has a tree and one of the namespaces
is not usable: namespaces are only looked at once there is a tree to query (`Config.load_usable`). Whatever
the namespaces are, they are a mapping, and without them every markup opens a document.
-/

namespace MarkupQuery

open MarkupQuery.Text MarkupQuery.Storage

variable {o : Opening} {d : Document} {es : List (Datum × Datum)} {c : Config}

/-! ## Namespaces of an opening -/

/-- An opening without namespaces. -/
def Opening.bare (o : Opening) : Opening := { o with namespaces := .null }

theorem Opening.settle_bare (hes : mappingOf o.namespaces = .ok es) :
    o.settle = o.bare.settle.map fun d => { d with namespaces := es } := by
  have hnone : mappingOf .null = .ok [] := rfl
  obtain ⟨markup, kind, options, translator, namespaces⟩ := o
  dsimp only [Opening.bare, Opening.settle] at hes ⊢
  rw [hes, hnone]
  split
  · rfl
  · cases Kind.ofDatum kind with
    | error f => rfl
    | ok kind =>
      cases Options.ofDatum options with
      | error f => rfl
      | ok options => cases (translator.getD (.translator .path)).resolve <;> rfl

/-- A document is opened exactly if nothing was parsed or all its namespaces are usable. -/
theorem Opening.exists_run_iff {d₀ : Document} (h : o.settle = .ok d₀) :
    (∃ d, o.run.1 = .ok d) ↔
      (d₀.parse (o.markup.read d₀.kind)).tree = none ∨ ∀ e ∈ d₀.namespaces, isUsable e = true := by
  have hnamespaces := d₀.namespaces_take (d₀.parse (o.markup.read d₀.kind))
  rw [← contextSpaces_ok_iff, Opening.run_eq h]
  generalize d₀.parse (o.markup.read d₀.kind) = p at hnamespaces ⊢
  have hinstalls := (d₀.take p).installs (p.tree.map (·.2))
  generalize (d₀.take p).install (p.tree.map (·.2)) = out at hinstalls ⊢
  cases htree : p.tree with
  | none =>
    rw [htree] at hinstalls
    cases hinstalls
    exact ⟨fun _ => .inl rfl, fun _ => ⟨_, rfl⟩⟩
  | some tree =>
    rw [htree] at hinstalls
    cases hinstalls with
    | full _ spaces hspaces =>
      exact ⟨fun _ => .inr ⟨spaces, hnamespaces ▸ hspaces⟩, fun _ => ⟨_, rfl⟩⟩
    | refused _ f hspaces =>
      rw [hnamespaces] at hspaces
      constructor
      · rintro ⟨d, hd⟩
        cases hd
      · rintro (hnone | ⟨spaces, hok⟩)
        · cases hnone
        · rw [hspaces] at hok
          cases hok

/-- Without namespaces a document is opened, and it is empty exactly if nothing was parsed. -/
theorem Opening.run_bare {d₀ : Document} (h : o.bare.settle = .ok d₀) :
    ∃ d, o.bare.run.1 = .ok d ∧
      (d.isEmpty = true ↔ (d₀.parse (o.markup.read d₀.kind)).tree = none) := by
  have hnamespaces : (d₀.take (d₀.parse (o.markup.read d₀.kind))).namespaces = [] := by
    rw [d₀.namespaces_take]
    exact (Except.ok.inj (Opening.settles_of_settle h).namespaces).symm
  rw [Opening.run_eq h, show o.bare.markup = o.markup from rfl]
  generalize d₀.parse (o.markup.read d₀.kind) = p at hnamespaces ⊢
  cases htree : p.tree with
  | none => exact ⟨_, rfl, ⟨fun _ => rfl, fun _ => rfl⟩⟩
  | some tree =>
    have hinstalls := (d₀.take p).installs (some tree.2)
    rw [Option.map_some]
    generalize (d₀.take p).install (some tree.2) = out at hinstalls ⊢
    cases hinstalls with
    | full _ spaces hspaces => exact ⟨_, rfl, nofun, nofun⟩
    | refused _ f hspaces =>
      rw [hnamespaces] at hspaces
      cases hspaces

/-- With namespaces a document is opened exactly if it is empty without them or all are usable. -/
theorem Opening.exists_run_iff_bare (hes : mappingOf o.namespaces = .ok es) {d₀ : Document}
    (h : o.bare.settle = .ok d₀) :
    ∃ d, o.bare.run.1 = .ok d ∧
      ((∃ d', o.run.1 = .ok d') ↔ d.isEmpty = true ∨ ∀ e ∈ es, isUsable e = true) := by
  obtain ⟨d, hrun, hempty⟩ := Opening.run_bare h
  have hsettle : o.settle = .ok { d₀ with namespaces := es } := by rw [Opening.settle_bare hes, h]; rfl
  refine ⟨d, hrun, ?_⟩
  rw [Opening.exists_run_iff hsettle, hempty]
  rfl

/-! ## Configurations -/

/-- A configuration that means something gives every markup an opening. -/
theorem Config.Sound.opening (hc : c.Sound) {markup : MarkupSource} (hm : markup.isPresent = true) :
    ∃ o d₀, c.opening markup = .ok o ∧ o.namespaces = c.namespaces ∧ o.bare.settle = .ok d₀ := by
  obtain ⟨options, hoptions⟩ := hc.options
  obtain ⟨translator, htranslator⟩ := hc.translator
  obtain ⟨kind, hkind, -⟩ := bind_eq_ok.mp htranslator
  have hcoerce : Kind.ofDatum (.int (if kind == .html then 0 else 1)) = .ok kind := by
    cases kind <;> rfl
  refine ⟨{ markup, translator := some (.translator translator), namespaces := c.namespaces
            kind := .int (if kind == .html then 0 else 1), options := .int options },
    ⟨kind, Options.kept options, translator, [], [], none, none, 0, 1⟩, ?_, rfl, ?_⟩
  · rw [Config.opening, hkind, hoptions, htranslator]
    rfl
  · dsimp only [Opening.bare, Opening.settle]
    rw [hm, hcoerce]
    rfl

/-- A folder with one file. -/
def folderWith (name text : String) : Files := { files := [([name], Encoding.utf8Bytes text)] }

/-- Whether a configuration came out that has a certain usable namespace and no other. -/
def givesNamespace (r : Except Fault Config) : Bool :=
  match r with
  | .ok ⟨_, _, _, .dict [(.text "a", .text "urn")]⟩ => true
  | _ => false

/-- Whether a configuration came out with which a paragraph cannot be opened. -/
def refusesParagraph (r : Except Fault Config) : Bool :=
  match r with
  | .ok c =>
      match c.opening (.text (codePoints "<p>1</p>".toList)) with
      | .ok o =>
          match o.run.1 with
          | .error .wrongType => true
          | _ => false
      | .error _ => false
  | .error _ => false

end MarkupQuery
