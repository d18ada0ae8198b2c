import MarkupQuery.Proofs.Document.Isolation

/-!
# Laws of trees

A law that holds of whatever is parsed, and that is kept by taking nodes out of a tree and by clearing texts
and attributes, holds of all trees of a reachable document: nothing else is ever done to a tree
(`TreeLaw.reachable`).
-/

namespace MarkupQuery

open MarkupQuery.Text MarkupQuery.Tree

/-- A law of nodes at the top of trees that is kept whatever is done to the trees. -/
structure TreeLaw (P : Node → Prop) : Prop where
  takeOut (i : NodeId) (n : Node) (hn : P n) : P (n.changeAround i (Tree.takeOut i))
  clearBefore (i : NodeId) (n : Node) (hn : P n) : P (n.changeAround i (Tree.clearBefore i))
  clearAfter (i : NodeId) (n : Node) (hn : P n) : P (n.changeAround i (Tree.clearAfter i))
  clearText (i : NodeId) (n : Node) (hn : P n) : P (n.change i Node.clearText)
  clearAttribute (i : NodeId) (name : Chars) (n : Node) (hn : P n) :
    P (n.change i (Node.clearAttribute name))
  /-- What stands in an element is a tree of its own once it is taken out. -/
  independent (h : Hole) (cs : List Node) (hfill : ∀ n ∈ h.fill cs, P n) (n : Node) (hn : n ∈ cs) :
    P n.independent

namespace TreeLaw

variable {P : Node → Prop} {d d' : Document}

theorem changeAround {i : NodeId} {f : List Node → List Node} (hf : ∀ n, P n → P (n.changeAround i f))
    {ns : List Node} (hns : ∀ n ∈ ns, P n) : ∀ n ∈ changeAroundAll i f ns, P n := by
  rw [changeAroundAll_eq_map, List.forall_mem_map]
  exact fun n hn => hf n (hns n hn)

theorem changeTrees {g : Node → Node} (hg : ∀ n, P n → P (g n)) (hd : ∀ n ∈ d.forest, P n) :
    ∀ n ∈ (d.changeTrees (List.map g)).forest, P n := by
  rw [Document.forest_changeTrees, List.forall_mem_map]
  exact fun n hn => hg n (hd n hn)

/-- Taking a node out of its tree keeps a law of trees. -/
theorem takeOutNode (hP : TreeLaw P) (hsound : d.Sound) (hd : ∀ n ∈ d.forest, P n) (i : NodeId) :
    ∀ n ∈ (d.takeOutNode i).document.forest, P n := by
  have htakes := d.takesOut hsound.distinct i
  generalize d.takeOutNode i = out at htakes
  cases htakes with
  | top hi => exact hd
  | out h cs n trees hfill hn hi hjoins htrees =>
    rw [Document.forest, htrees, List.forall_mem_append, List.forall_mem_singleton]
    exact ⟨changeAround (hP.takeOut i) hd, hP.independent h cs (hfill ▸ hd) n hn⟩
  | stuck h cs n trees hfill hn hi hjoins htrees =>
    rw [Document.forest, htrees]
    exact changeAround (hP.clearBefore i) hd

theorem detach (hP : TreeLaw P) (hsound : d.Sound) (hd : ∀ n ∈ d.forest, P n) (s : Selected) :
    ∀ n ∈ (d.detach s).document.forest, P n := by
  match s with
  | .node i =>
    rw [Document.detach]
    split
    · exact hd
    · exact hP.takeOutNode hsound hd i
  | .text owner true _ =>
    show ∀ n ∈ (d.changeTrees (changeAroundAll owner (Tree.clearAfter owner))).forest, P n
    rw [changeAroundAll_eq_map]
    exact changeTrees (hP.clearAfter owner) hd
  | .text owner false _ =>
    show ∀ n ∈ (d.changeTrees (changeAll owner Node.clearText)).forest, P n
    rw [changeAll_eq_map]
    exact changeTrees (hP.clearText owner) hd
  | .attribute owner name _ =>
    show ∀ n ∈ (d.changeTrees (changeAll owner (Node.clearAttribute name))).forest, P n
    rw [changeAll_eq_map]
    exact changeTrees (hP.clearAttribute owner name) hd
  | .space .. | .scalar _ | .loose _ => exact hd

theorem detachAll (hP : TreeLaw P) (hsound : d.Sound) (hd : ∀ n ∈ d.forest, P n) (ss : List Selected) :
    ∀ n ∈ (d.detachAll ss).document.forest, P n := by
  induction ss generalizing d with
  | nil => exact hd
  | cons s ss ih =>
    rw [Document.detachAll]
    split
    · exact ih (hsound.detach s) (hP.detach hsound hd s)
    · exact hP.detach hsound hd s

/-! ## Histories -/

section

variable {kind : Kind} {options : Options}
  (hparse : ∀ next m f r, (parseMarkup kind options next m).tree = some (f, r) → ∀ n ∈ f, P n)

include hparse

/-- Taking in what was parsed keeps a law of everything that is parsed. -/
theorem take (hkind : d.kind = kind) (hoptions : d.options = options) (hd : ∀ n ∈ d.forest, P n)
    (m : CodePoints) : ∀ n ∈ (d.take (d.parse m)).forest, P n := by
  rw [Document.take]
  split
  · next f r h =>
    rw [Document.parse, hkind, hoptions] at h
    rw [Document.forest, List.flatten_append, List.flatten_singleton, List.forall_mem_append]
    exact ⟨hd, hparse _ m f r h⟩
  · exact hd

/-- Every operation keeps a law of trees. -/
theorem perform (hP : TreeLaw P) (hkind : d.kind = kind) (hoptions : d.options = options)
    (hsound : d.Sound) (hd : ∀ n ∈ d.forest, P n) (op : Operation) :
    ∀ n ∈ (d.perform op).document.forest, P n := by
  have htake {p : PatternSource} {replacement : Replacement} {parsed : Parsed} {r : NodeId}
      (h : d.reparsed p replacement = some (parsed, r)) : ∀ n ∈ (d.take parsed).forest, P n := by
    obtain ⟨m, f, rfl, -⟩ := Document.reparsed_some h
    exact take hparse hkind hoptions hd m
  have hchanges := d.perform_changes op
  generalize (d.perform op).document = d' at hchanges
  cases hchanges with
  | same => exact hd
  | translated => exact hd
  | registered label name out h => cases h <;> exact hd
  | removed s ss => exact hP.detachAll hsound hd ss
  | detached h => exact hP.detach hsound hd h.selected
  | replaced p r out hout h =>
    cases h with
    | failed f log h => exact hd
    | done parsed r spaces log h hspaces => exact htake h
    | refused parsed r f log h hspaces => exact htake h
  | closed => exact hd

/-- A law of whatever is parsed with the settings of a document holds of all its trees. -/
theorem reachable (hP : TreeLaw P) (hd : d.Reachable) (hkind : d.kind = kind)
    (hoptions : d.options = options) : ∀ n ∈ d.forest, P n := by
  induction hd with
  | @opened o d h =>
    obtain ⟨d₀, m, hsettle, hinstalls⟩ := Opening.run_ok h
    have hfixed := d₀.fixed_take (d₀.parse m)
    have hsame : d.trees = (d₀.take (d₀.parse m)).trees ∧ d.kind = d₀.kind ∧
        d.options = d₀.options := by
      rw [← hfixed.1, ← hfixed.2]
      generalize (d₀.parse m).tree.map (·.2) = root at hinstalls
      cases hinstalls <;> exact ⟨rfl, rfl, rfl⟩
    have hd₀ : ∀ n ∈ d₀.forest, P n := by
      rw [(Opening.settles_of_settle hsettle).eq]
      exact nofun
    rw [Document.forest, hsame.1]
    exact take hparse (hsame.2.1.symm.trans hkind) (hsame.2.2.symm.trans hoptions) hd₀ m
  | @step d h op ih =>
    have hfixed := d.fixed_perform op
    have hkind := hfixed.1.symm.trans hkind
    have hoptions := hfixed.2.symm.trans hoptions
    exact perform hparse hP hkind hoptions h.sound (ih hkind hoptions) op

end

end TreeLaw

end MarkupQuery
