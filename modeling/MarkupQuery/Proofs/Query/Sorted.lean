import MarkupQuery.Proofs.Query.Within
import Mathlib.Data.List.Sort

/-!
# Queries and document order

Whatever a query gives stands in document order, without repetition (`Value.Sorted.evaluate`): where spots
of several origins come together they are put in order, and everything else keeps the order that there is.
-/

namespace MarkupQuery.Query

open MarkupQuery.Text MarkupQuery.Tree

/-- A value whose spots stand in document order. -/
def Value.Sorted (v : Value) : Prop := ∀ ss, v = .spots ss → ss.Pairwise Spot.Before

variable {v : Value} {c : Context}

theorem Value.Sorted.spots {ss : List Spot} : Value.Sorted (.spots ss) ↔ ss.Pairwise Spot.Before :=
  ⟨fun h => h ss rfl, fun h _ heq => Value.spots.inj heq ▸ h⟩

/-! ## Putting spots in order -/

theorem comparePositions_trans {a b c : List Offset} (hab : comparePositions a b = .lt)
    (hbc : comparePositions b c = .lt) : comparePositions a c = .lt := by
  rw [comparePositions_eq_lt] at hab hbc ⊢
  exact hab.trans hbc

theorem comparePositions_lt_of_ne {a b : List Offset} (hle : (comparePositions a b != .gt) = true)
    (hne : a ≠ b) : comparePositions a b = .lt := by
  rw [comparePositions_ne_gt] at hle
  rw [comparePositions_eq_lt]
  exact lt_of_le_of_ne hle fun h => hne (Offset.key_injective.list_map h)

/-- A sorted list without its repetitions is strictly sorted. -/
theorem sorted_dropRepeated {es : List (List Offset × Spot)}
    (h : es.Pairwise fun e f => (comparePositions e.1 f.1 != .gt) = true) :
    (inOrder.dropRepeated es).Pairwise fun e f => comparePositions e.1 f.1 = .lt := by
  induction es with
  | nil => exact .nil
  | cons a es ih =>
    rw [List.pairwise_cons] at h
    have hrest := ih h.2
    have hmem : ∀ e ∈ inOrder.dropRepeated es, e ∈ es := fun e => mem_dropRepeated
    rw [inOrder.dropRepeated]
    cases hes : inOrder.dropRepeated es with
    | nil => exact List.pairwise_singleton _ a
    | cons b q =>
      rw [hes] at hrest hmem
      obtain ⟨hb, hq⟩ := List.pairwise_cons.mp hrest
      dsimp only
      split
      · next hab => exact List.pairwise_cons.mpr ⟨fun e he => beq_iff_eq.mp hab ▸ hb e he, hq⟩
      · next hab =>
        have hlt : comparePositions a.1 b.1 = .lt :=
          comparePositions_lt_of_ne (h.1 b (hmem b List.mem_cons_self)) fun heq => hab (beq_iff_eq.mpr heq)
        refine List.pairwise_cons.mpr ⟨List.forall_mem_cons.mpr ⟨hlt, fun e he => ?_⟩, hrest⟩
        exact comparePositions_trans hlt (hb e he)

/-- Spots that are put in order stand in order. -/
theorem sorted_inOrder (ss : List Spot) : (inOrder ss).Pairwise Spot.Before := by
  let keyed := ss.map fun s => (s.position, s)
  have hkeyed : ∀ e ∈ inOrder.dropRepeated (keyed.mergeSort fun a b => comparePositions a.1 b.1 != .gt),
      e.1 = e.2.position := by
    intro e he
    obtain ⟨s, -, rfl⟩ := List.mem_map.mp ((List.mergeSort_perm _ _).mem_iff.mp (mem_dropRepeated he))
    rfl
  refine List.pairwise_map.mpr ((sorted_dropRepeated (pairwise_mergeSort_positions _)).imp_of_mem fun {e f} he hf hlt => ?_)
  rw [Spot.Before, ← hkeyed e he, ← hkeyed f hf]
  exact hlt

theorem sorted_childSpots (offsets : List Offset) (above : List Target) (i : Nat) (ns : List Node) :
    (childSpots offsets above i ns).Pairwise Spot.Before := by
  induction ns generalizing i with
  | nil => exact .nil
  | cons n ns ih =>
    refine List.pairwise_cons.mpr ⟨fun s hs => ?_, ih (i + 1)⟩
    obtain ⟨k, m, -, rfl⟩ := mem_childSpots hs
    have hlt : i < i + 1 + k := Nat.lt_of_lt_of_le (Nat.lt_succ_self i) (Nat.le_add_right _ k)
    have hoffsets (j : Nat) (o : Node) :
        (⟨.node o, .child j :: offsets, above⟩ : Spot).offsets = [] ++ .child j :: offsets := rfl
    exact .of_siblings hlt (hoffsets i n) (hoffsets _ m)

theorem sorted_madeSpots (texts : List Chars) : (madeSpots texts).Pairwise Spot.Before :=
  sorted_childSpots _ _ _ _

/-! ## Sorted spots among others -/

instance : Std.Irrefl Spot.Before where
  irrefl _ h := lt_irrefl _ ((comparePositions_eq_lt _ _).mp h)

instance : Std.Antisymm Spot.Before where
  antisymm s _ hst hts := absurd (comparePositions_trans hst hts) (irrefl (r := Spot.Before) s)

/-- Sorted spots among sorted spots are some of them in the same order. -/
theorem sublist_of_sorted {ss ts : List Spot} (hs : ss.Pairwise Spot.Before)
    (ht : ts.Pairwise Spot.Before) (h : ss ⊆ ts) : ss.Sublist ts :=
  List.sublist_of_subperm_of_pairwise (List.subperm_of_subset hs.nodup h) hs ht

/-! ## Expressions -/

theorem Value.Sorted.call {label : Option Chars} {name : Chars} {arguments : List Value}
    (h : call label name c arguments = .ok v) : v.Sorted := by
  rintro ss rfl
  rcases call_spots h with ⟨ids, rfl⟩ | ⟨⟨texts, -, rfl⟩, -⟩
  · exact sorted_inOrder _
  · exact sorted_madeSpots texts

/-- Whatever an expression gives stands in document order. -/
theorem Value.Sorted.evaluate {c : Context} {v : Value} (e : Expression) (h : evaluate e c = .ok v) :
    v.Sorted := by
  rintro ss rfl
  match e, evaluate_spots h with
  | .call .., .call h => exact Value.Sorted.call h _ rfl
  | .union a b, .union _ _ => exact sorted_inOrder _
  | .here, .here => exact List.pairwise_singleton _ _
  | .root, .root => exact List.pairwise_singleton _ _
  | .filter a p, .filter ha hkept =>
    exact (Value.Sorted.evaluate a ha _ rfl).sublist (sublist_of_keepByPlace hkept)
  | .step a axis test predicates, .step _ _ => exact sorted_inOrder _

end MarkupQuery.Query
