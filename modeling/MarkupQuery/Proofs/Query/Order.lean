import Mathlib
import MarkupQuery.Query.Evaluate

/-!
# Document order

Positions are ordered linearly, and the spots below a spot stand in this order without repetition
(`Spot.sorted_descendants`). Putting spots in order is therefore a search for the one sorted list with
the same members (`inOrder_of_perm`).
-/

namespace MarkupQuery.Query

open MarkupQuery.Text MarkupQuery.Tree

/-! ## Positions -/

/-- An offset as a member of a linear order: first the rank counts, then the index. -/
def Offset.key (o : Offset) : Nat ×ₗ Nat := toLex (o.rank, o.index)

theorem Offset.key_injective : Function.Injective Offset.key := by
  rintro ⟨r, i⟩ ⟨s, j⟩ h
  obtain ⟨rfl, rfl⟩ := Prod.mk.inj (toLex.injective h)
  rfl

theorem comparePositions_cons (o p : Offset) (a b : List Offset) :
    comparePositions (o :: a) (p :: b) =
      if o.key < p.key then .lt else if p.key < o.key then .gt else comparePositions a b := by
  rw [comparePositions]
  obtain ⟨r, i⟩ := o
  obtain ⟨s, j⟩ := p
  simp only [Offset.key, Prod.Lex.toLex_lt_toLex]
  rcases lt_trichotomy r s with hr | rfl | hr
  · rw [compare_lt_iff_lt.mpr hr]
    simp [hr]
  · rw [compare_eq_iff_eq.mpr rfl]
    rcases lt_trichotomy i j with hi | rfl | hi
    · rw [compare_lt_iff_lt.mpr hi]
      simp [hi]
    · rw [compare_eq_iff_eq.mpr rfl]
      simp
    · rw [compare_gt_iff_gt.mpr hi]
      simp [hi, hi.not_gt]
  · rw [compare_gt_iff_gt.mpr hr]
    simp [hr, hr.not_gt, hr.ne']

/-- Positions are compared like lists of offsets, offset by offset. -/
theorem comparePositions_eq_lt (a b : List Offset) :
    comparePositions a b = .lt ↔ a.map Offset.key < b.map Offset.key := by
  induction a generalizing b with
  | nil => cases b <;> simp [comparePositions]
  | cons o a ih =>
    cases b with
    | nil => simp [comparePositions]
    | cons p b =>
      rw [comparePositions_cons, List.map_cons, List.map_cons, List.cons_lt_cons_iff, ← ih]
      rcases lt_trichotomy o.key p.key with h | h | h
      · simp [h]
      · simp [h]
      · simp [h, h.not_gt, h.ne']

theorem comparePositions_swap (a b : List Offset) :
    comparePositions b a = (comparePositions a b).swap := by
  induction a generalizing b with
  | nil => cases b <;> rfl
  | cons o a ih =>
    cases b with
    | nil => rfl
    | cons p b =>
      rw [comparePositions_cons, comparePositions_cons, ih]
      rcases lt_trichotomy o.key p.key with h | h | h
      · simp [h, h.not_gt]
      · simp [h]
      · simp [h, h.not_gt]

theorem comparePositions_ne_gt (a b : List Offset) :
    (comparePositions a b != .gt) = true ↔ a.map Offset.key ≤ b.map Offset.key := by
  rw [bne_iff_ne, ne_eq, comparePositions_swap b a, Ordering.swap_eq_gt, comparePositions_eq_lt, not_lt]

/-- What stands above comes first. -/
theorem comparePositions_append_cons (a : List Offset) (o : Offset) (b : List Offset) :
    comparePositions a (a ++ o :: b) = .lt := by
  induction a with
  | nil => rfl
  | cons p a ih => rw [List.cons_append, comparePositions_cons, if_neg (lt_irrefl _),
      if_neg (lt_irrefl _), ih]

/-- Of two children the first one comes first, and all that stands below it. -/
theorem comparePositions_append_child (a : List Offset) {i j : Nat} (h : i < j)
    (b c : List Offset) :
    comparePositions (a ++ .child i :: b) (a ++ .child j :: c) = .lt := by
  induction a with
  | nil =>
    have hkey : (Offset.child i).key < (Offset.child j).key := by
      simp [Offset.key, Offset.child, Prod.Lex.toLex_lt_toLex, h]
    rw [List.nil_append, List.nil_append, comparePositions_cons, if_pos hkey]
  | cons p a ih => rw [List.cons_append, List.cons_append, comparePositions_cons,
      if_neg (lt_irrefl _), if_neg (lt_irrefl _), ih]

/-! ## Sorted spots -/

/-- Whether a spot comes before another one. -/
def Spot.Before (s t : Spot) : Prop := comparePositions s.position t.position = .lt

theorem Spot.Before.of_below {s t : Spot} {o : Offset} {below : List Offset}
    (h : t.offsets = below ++ o :: s.offsets) : s.Before t := by
  rw [Spot.Before, Spot.position, Spot.position, h, List.reverse_append, List.reverse_cons,
    List.append_assoc]
  exact comparePositions_append_cons _ _ _

theorem Spot.Before.of_siblings {s t : Spot} {offsets below below' : List Offset} {i j : Nat}
    (h : i < j) (hs : s.offsets = below ++ .child i :: offsets)
    (ht : t.offsets = below' ++ .child j :: offsets) : s.Before t := by
  rw [Spot.Before, Spot.position, Spot.position, hs, ht]
  simp only [List.reverse_append, List.reverse_cons, List.append_assoc, List.singleton_append]
  exact comparePositions_append_child _ h _ _

mutual

/-- The spots of a subtree stand at its top or below. -/
theorem offsets_of_mem_subtreeSpots {offsets : List Offset} {above : List Target} {n : Node}
    {s : Spot} (hs : s ∈ subtreeSpots offsets above n) : ∃ below, s.offsets = below ++ offsets := by
  cases n with
  | element i t cs =>
    rw [subtreeSpots, List.mem_cons] at hs
    rcases hs with rfl | hs
    · exact ⟨[], rfl⟩
    · obtain ⟨j, below, -, hbelow⟩ := offsets_of_mem_subtreesSpots hs
      exact ⟨below ++ [.child j], by rw [hbelow, List.append_assoc]; rfl⟩
  | _ =>
    rw [subtreeSpots, List.mem_singleton] at hs
    · exact ⟨[], by rw [hs]; rfl⟩
    · simp

/-- The spots of several subtrees stand in or below one of the places. -/
theorem offsets_of_mem_subtreesSpots {offsets : List Offset} {above : List Target} {i : Nat}
    {ns : List Node} {s : Spot} (hs : s ∈ subtreesSpots offsets above i ns) :
    ∃ j below, i ≤ j ∧ s.offsets = below ++ .child j :: offsets := by
  cases ns with
  | nil => simp [subtreesSpots] at hs
  | cons n ns =>
    rw [subtreesSpots, List.mem_append] at hs
    rcases hs with hs | hs
    · obtain ⟨below, hbelow⟩ := offsets_of_mem_subtreeSpots hs
      exact ⟨i, below, le_rfl, hbelow⟩
    · obtain ⟨j, below, hj, hbelow⟩ := offsets_of_mem_subtreesSpots hs
      exact ⟨j, below, Nat.le_of_succ_le hj, hbelow⟩

end

mutual

/-- The spots of a subtree stand in document order. -/
theorem sorted_subtreeSpots (offsets : List Offset) (above : List Target) (n : Node) :
    (subtreeSpots offsets above n).Pairwise Spot.Before := by
  cases n with
  | element i t cs =>
    rw [subtreeSpots, List.pairwise_cons]
    refine ⟨fun s hs => ?_, sorted_subtreesSpots offsets _ 0 cs⟩
    obtain ⟨j, below, -, hbelow⟩ := offsets_of_mem_subtreesSpots hs
    exact .of_below hbelow
  | _ =>
    rw [subtreeSpots]
    · exact List.pairwise_singleton _ _
    · simp

/-- The spots of several subtrees stand in document order. -/
theorem sorted_subtreesSpots (offsets : List Offset) (above : List Target) (i : Nat)
    (ns : List Node) : (subtreesSpots offsets above i ns).Pairwise Spot.Before := by
  cases ns with
  | nil => exact .nil
  | cons n ns =>
    rw [subtreesSpots, List.pairwise_append]
    refine ⟨sorted_subtreeSpots _ above n, sorted_subtreesSpots offsets above (i + 1) ns, ?_⟩
    intro s hs t ht
    obtain ⟨below, hbelow⟩ := offsets_of_mem_subtreeSpots hs
    obtain ⟨j, below', hj, hbelow'⟩ := offsets_of_mem_subtreesSpots ht
    exact .of_siblings hj hbelow hbelow'

end

/-- The spots below a spot stand in document order. -/
theorem Spot.sorted_descendants (s : Spot) : s.descendants.Pairwise Spot.Before :=
  sorted_subtreesSpots _ _ 0 _

/-- A spot and the spots below it stand in document order. -/
theorem Spot.sorted_subtree (s : Spot) : s.subtree.Pairwise Spot.Before := by
  rw [Spot.subtree, List.pairwise_cons]
  refine ⟨fun t ht => ?_, s.sorted_descendants⟩
  obtain ⟨j, below, -, hbelow⟩ := offsets_of_mem_subtreesSpots ht
  exact .of_below hbelow

/-! ## Putting spots in order -/

theorem mem_dropRepeated {e : List Offset × Spot} {es : List (List Offset × Spot)}
    (h : e ∈ inOrder.dropRepeated es) : e ∈ es := by
  induction es with
  | nil => exact h
  | cons a es ih =>
    rw [inOrder.dropRepeated] at h
    split at h
    · exact List.mem_cons.mpr (.inl (List.mem_singleton.mp h))
    · next b q hq =>
      rw [hq] at ih
      split at h <;> grind

theorem dropRepeated_of_nodup {es : List (List Offset × Spot)} (h : (es.map (·.1)).Nodup) :
    inOrder.dropRepeated es = es := by
  induction es with
  | nil => rfl
  | cons a es ih =>
    rw [List.map_cons, List.nodup_cons] at h
    rw [inOrder.dropRepeated, ih h.2]
    cases es with
    | nil => rfl
    | cons b q => exact if_neg (by grind)

/-- Putting spots in order brings none in. -/
theorem mem_of_mem_inOrder {s : Spot} {ss : List Spot} (h : s ∈ inOrder ss) : s ∈ ss := by
  rw [inOrder, List.mem_map] at h
  obtain ⟨e, he, rfl⟩ := h
  have hmem := (List.mergeSort_perm _ _).mem_iff.mp (mem_dropRepeated he)
  obtain ⟨t, ht, rfl⟩ := List.mem_map.mp hmem
  exact ht

theorem pairwise_mergeSort_positions (es : List (List Offset × Spot)) :
    (es.mergeSort fun a b => comparePositions a.1 b.1 != .gt).Pairwise
      fun e f => (comparePositions e.1 f.1 != .gt) = true := by
  refine List.pairwise_mergeSort (fun e f g hef hfg => ?_) (fun e f => ?_) _
  · exact (comparePositions_ne_gt _ _).mpr
      (((comparePositions_ne_gt _ _).mp hef).trans ((comparePositions_ne_gt _ _).mp hfg))
  · rw [Bool.or_eq_true, comparePositions_ne_gt, comparePositions_ne_gt]
    exact le_total _ _

/-- If some spots are those of a sorted list, that list is what putting them in order gives. -/
theorem inOrder_of_perm {ss ts : List Spot} (hperm : ss.Perm ts) (hsorted : ts.Pairwise Spot.Before) :
    inOrder ss = ts := by
  let keyed (s : Spot) : List Offset × Spot := (s.position, s)
  let atMost (e f : List Offset × Spot) : Bool := comparePositions e.1 f.1 != .gt
  have hkeyed : (ts.map keyed).Pairwise fun e f => comparePositions e.1 f.1 = .lt :=
    List.pairwise_map.mpr hsorted
  have hnodup : ((ts.map keyed).map (·.1)).Nodup := by
    refine List.pairwise_map.mpr (hkeyed.imp fun {e f} h heq => ?_)
    rw [heq, comparePositions_eq_lt] at h
    exact lt_irrefl _ h
  have hsort : (ss.map keyed).mergeSort atMost = ts.map keyed := by
    refine List.Perm.eq_of_pairwise (fun e f he hf hef hfe => ?_) (pairwise_mergeSort_positions _)
      (hkeyed.imp fun {e f} h => show atMost e f = true by simp [atMost, h])
      ((List.mergeSort_perm _ _).trans (hperm.map keyed))
    -- members of one position are the same, as positions are distinct
    have hkeys := le_antisymm ((comparePositions_ne_gt _ _).mp hef) ((comparePositions_ne_gt _ _).mp hfe)
    have he : e ∈ ts.map keyed :=
      (hperm.map keyed).mem_iff.mp ((List.mergeSort_perm _ _).mem_iff.mp he)
    exact List.inj_on_of_nodup_map hnodup he hf (Offset.key_injective.list_map hkeys)
  show (inOrder.dropRepeated ((ss.map keyed).mergeSort atMost)).map (·.2) = ts
  rw [hsort, dropRepeated_of_nodup hnodup, List.map_map]
  exact List.map_id ts

end MarkupQuery.Query
