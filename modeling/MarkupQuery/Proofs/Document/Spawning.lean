import Mathlib.Data.List.Forall2
import MarkupQuery.Proofs.Document.Isolation

/-!
# Opening nested documents

A document whose namespaces allow a query context opens one with the same settings for any markup that gives
a tree (`Document.spawn_of_tree`), and one for everything that it finds (`Document.nested_of_find`).
-/

namespace MarkupQuery

open MarkupQuery.Text MarkupQuery.Tree

variable {d : Document}

theorem codePoints_isEmpty {s : Chars} (hs : s ≠ []) : (codePoints s).isEmpty = false := by
  cases s with
  | nil => exact absurd rfl hs
  | cons c s => rfl

/-- Markup that gives a tree is opened with the settings of the document that it was taken from. -/
theorem Document.spawn_of_tree (hkept : Options.kept d.options = d.options) {markup : Chars}
    (hmarkup : markup ≠ []) {spaces : List (Chars × Chars)}
    (hspaces : contextSpaces d.namespaces = .ok spaces) {g : Forest} {r : NodeId}
    (htree : (parseMarkup d.kind d.options 1 (codePoints markup)).tree = some (g, r)) :
    (d.spawn markup).1 = .ok { d with
      trees := [g], root := some r, context := some ⟨r, spaces⟩, epoch := 0
      nextId := (parseMarkup d.kind d.options 1 (codePoints markup)).nextId } := by
  have hsettle : Opening.settle
      { markup := .text (codePoints markup)
        kind := .text d.kind.name
        options := .int d.options
        translator := some (.translator d.translator)
        namespaces := .dict d.namespaces } = .ok
      { d with trees := [], root := none, context := none, epoch := 0, nextId := 1 } := by
    rw [Opening.settle, MarkupSource.isPresent, codePoints_isEmpty hmarkup]
    dsimp only
    rw [Kind.ofDatum_name, Options.ofDatum, hkept, mappingOf_dict]
    rfl
  rw [Document.spawn, Opening.run, hsettle]
  dsimp only [MarkupSource.read]
  rw [Document.take, htree]
  dsimp only [Option.map_some, Document.install, List.nil_append]
  rw [hspaces]

/-- Documents are opened one by one. -/
theorem Document.spawnAll_of_forall {α : Type} {source : α → Chars} {P : α → Document → Prop}
    {xs : List α} (h : ∀ x ∈ xs, ∃ e, (d.spawn (source x)).1 = .ok e ∧ P x e) :
    ∃ es, (d.spawnAll (xs.map source)).1 = .ok es ∧ List.Forall₂ P xs es := by
  induction xs with
  | nil => exact ⟨[], rfl, .nil⟩
  | cons x xs ih =>
    rw [List.forall_mem_cons] at h
    obtain ⟨e, hspawn, he⟩ := h.1
    obtain ⟨es, hspawnAll, hes⟩ := ih h.2
    refine ⟨e :: es, ?_, .cons he hes⟩
    rw [List.map_cons, Document.spawnAll]
    generalize d.spawn (source x) = out at hspawn
    obtain ⟨result, log⟩ := out
    obtain rfl : result = .ok e := hspawn
    show ((d.spawnAll (xs.map source)).1.map (e :: ·)) = _
    rw [hspawnAll]
    rfl

/-- One document is opened for everything that is found, if its inner markup can be opened. -/
theorem Document.nested_of_find {selector : String} {found : List Found}
    (hfind : d.find selector = .ok found) {P : Found → Document → Prop}
    (h : ∀ x ∈ found, ∃ e, (d.spawn (d.nestedSource false (x.inner d.kind))).1 = .ok e ∧ P x e) :
    ∃ es, (d.nested selector false).1 = .ok es ∧ List.Forall₂ P found es := by
  obtain ⟨es, hspawn, hes⟩ := Document.spawnAll_of_forall h
  refine ⟨es, ?_, hes⟩
  have hhtml : d.html selector false = .ok (found.map (Found.inner d.kind)) := by
    rw [Document.html, hfind]
    rfl
  have hsources : (found.map (Found.inner d.kind)).map (d.nestedSource false)
      = found.map fun x => d.nestedSource false (x.inner d.kind) := List.map_map
  rw [Document.nested, hhtml]
  dsimp only
  rw [hsources, hspawn]

end MarkupQuery
