import MarkupQuery.Document.Found
import MarkupQuery.Proofs.Query.Order
import MarkupQuery.Proofs.Query.Within
import MarkupQuery.Proofs.Tree.Leftover

/-!
# Marks of spots

Every spot below an element has the mark that detaching it acts on (`Spot.mark?`), and the spots stand in the
order of their marks (`marked_subtreesSpots`). What is left of the text when marks are detached in document
order is the text of those spots that are not lost (`textsLeft_eq_textOfKept`).
-/

namespace MarkupQuery.Query

open MarkupQuery.Text MarkupQuery.Tree

/-! ## Marks -/

/-- The id of a node. -/
def Target.id? : Target → Option NodeId
  | .node n => n.id?
  | _ => none

/-- The mark of a node or of character data; all character data of one run has the same. -/
def Spot.mark? (s : Spot) : Option Mark :=
  match s.target with
  | .node n =>
      match n.id? with
      | some i => some (.node i)
      | none => s.textOwner.map fun o => if o.2 then .tail o.1 else .lead o.1
  | _ => none

theorem Spot.mark?_eq_node {s : Spot} {i : NodeId} : s.mark? = some (.node i) ↔ s.target.id? = some i := by
  rw [Spot.mark?]
  cases ht : s.target with
  | node n =>
    cases hn : n.id? with
    | some j => simp [Target.id?, hn]
    | none =>
      have howner (o : Option (NodeId × Bool)) :
          (o.map fun o => if o.2 then Mark.tail o.1 else .lead o.1) ≠ some (.node i) := by
        rw [ne_eq, Option.map_eq_some_iff]
        rintro ⟨⟨j, _ | _⟩, -, h⟩ <;> cases h
      simp [Target.id?, hn, howner s.textOwner]
  | _ => simp [Target.id?]

/-- The text that a spot adds to the text content of what is above it. -/
def Target.ownText : Target → Chars
  | .node (.reference _ _ s) => s
  | .node n => n.ownText
  | _ => []

/-- Whether detaching all marks of some kind in document order takes the text of a spot away: it stands in a
node that goes, or its run of character data is cleared. -/
def Spot.isLost (p : Mark → Bool) (s : Spot) : Bool :=
  ((s.target :: s.above).any fun a => a.id?.any fun i => p (.node i)) || s.mark?.any (Mark.isCleared p)

/-- The mark of character data after some children of an element. -/
def markAfter (j : NodeId) (before : List Node) : Mark :=
  match before.reverse.findSome? Node.id? with
  | some i => .tail i
  | none => .lead j

theorem markAfter_append_text {n : Node} (h : n.id? = none) (j : NodeId) (before : List Node) :
    markAfter j (before ++ [n]) = markAfter j before := by
  rw [markAfter, List.reverse_append, List.reverse_singleton, List.singleton_append,
    List.findSome?_cons_of_isNone (by rw [h]; rfl)]
  rfl

theorem markAfter_append_node {n : Node} {i : NodeId} (h : n.id? = some i) (j : NodeId)
    (before : List Node) : markAfter j (before ++ [n]) = .tail i := by
  rw [markAfter, List.reverse_append, List.reverse_singleton, List.singleton_append,
    List.findSome?_cons_of_isSome (by rw [h]; rfl), h]

variable {p : Mark → Bool} {offsets : List Offset} {above : List Target}

theorem map_target_childSpots (offsets : List Offset) (above : List Target) (i : Nat) (ns : List Node) :
    (childSpots offsets above i ns).map Spot.target = ns.map .node := by
  induction ns generalizing i with
  | nil => rfl
  | cons n ns ih => rw [childSpots, List.map_cons, List.map_cons, ih]

theorem Spot.textOwner_eq (s : Spot) :
    s.textOwner = match (s.siblings.1.map Spot.target).findSome? Target.id? with
      | some i => some (i, true)
      | none => s.above.head?.bind fun a => a.id?.map fun i => (i, false) := by
  rw [Spot.textOwner]
  generalize hid : s.siblings.1.findSome? _ = id
  have hsame : (s.siblings.1.map Spot.target).findSome? Target.id? = id := by
    rw [List.findSome?_map, ← hid]
    refine congrArg (List.findSome? · s.siblings.1) (funext fun t => ?_)
    cases h : t.target <;> simp [Target.id?, h]
  rw [hsame]
  cases id with
  | some i => rfl
  | none =>
    cases s.above with
    | nil => rfl
    | cons a as => cases a <;> rfl

/-- Character data is named by the node before it, or by the element that it stands in. -/
theorem mark?_of_text {n : Node} (hn : n.id? = none) {j : NodeId} {t : Tag} (before after : List Node) :
    Spot.mark? ⟨.node n, .child before.length :: offsets, .node (.element j t (before ++ after)) :: above⟩
      = some (markAfter j before) := by
  have hsiblings : (Spot.siblings ⟨.node n, .child before.length :: offsets,
      .node (.element j t (before ++ after)) :: above⟩).1.map Spot.target = before.reverse.map .node := by
    have hleft : (Spot.siblings ⟨.node n, .child before.length :: offsets,
        .node (.element j t (before ++ after)) :: above⟩).1
        = ((childSpots offsets (.node (.element j t (before ++ after)) :: above) 0
          (before ++ after)).take before.length).reverse := rfl
    rw [hleft, List.map_reverse, List.map_take, map_target_childSpots, ← List.map_take, List.take_left,
      List.map_reverse]
  have hid : (List.map Target.node before.reverse).findSome? Target.id?
      = before.reverse.findSome? Node.id? := by
    rw [List.findSome?_map]
    rfl
  simp only [Spot.mark?, hn]
  rw [Spot.textOwner_eq, hsiblings, hid, markAfter]
  cases before.reverse.findSome? Node.id? <;> rfl

theorem subtreeSpots_of_text {n : Node} (hn : n.id? = none) :
    subtreeSpots offsets above n = [⟨.node n, offsets, above⟩] := by
  cases n <;> first | rfl | cases hn

/-! ## Order -/

/-- Whether spots have marks, and stand in the order of these marks. -/
structure MarkedBy (marks : List Mark) (ss : List Spot) : Prop where
  marked : ∀ s ∈ ss, ∃ m ∈ marks, s.mark? = some m
  sorted : ss.Pairwise fun s t => ∀ a b, s.mark? = some a → t.mark? = some b →
    a = b ∨ [a, b].Sublist marks

theorem MarkedBy.append {left right marks : List Mark} {ss ts : List Spot} (hs : MarkedBy left ss)
    (ht : MarkedBy right ts) (h : (left ++ right).Sublist marks) : MarkedBy marks (ss ++ ts) where
  marked := by
    rw [List.forall_mem_append]
    constructor
    · intro s hmem
      obtain ⟨m, hm, hsm⟩ := hs.marked s hmem
      exact ⟨m, h.subset (List.mem_append_left _ hm), hsm⟩
    · intro t hmem
      obtain ⟨m, hm, htm⟩ := ht.marked t hmem
      exact ⟨m, h.subset (List.mem_append_right _ hm), htm⟩
  sorted := by
    rw [List.pairwise_append]
    refine ⟨hs.sorted.imp fun hab a b ha hb => (hab a b ha hb).imp_right fun hsub =>
        (hsub.trans (List.sublist_append_left _ _)).trans h,
      ht.sorted.imp fun hab a b ha hb => (hab a b ha hb).imp_right fun hsub =>
        (hsub.trans (List.sublist_append_right _ _)).trans h, fun s hmem t hmem' a b ha hb => .inr ?_⟩
    obtain ⟨m, hm, hsm⟩ := hs.marked s hmem
    obtain ⟨m', hm', htm⟩ := ht.marked t hmem'
    obtain rfl := Option.some.inj (hsm.symm.trans ha)
    obtain rfl := Option.some.inj (htm.symm.trans hb)
    exact ((List.singleton_sublist.mpr hm).append (List.singleton_sublist.mpr hm')).trans h

/-- A spot in front that has the first mark. -/
theorem MarkedBy.cons {m : Mark} {marks : List Mark} {s : Spot} {ss : List Spot}
    (hs : s.mark? = some m) (hss : MarkedBy (m :: marks) ss) : MarkedBy (m :: marks) (s :: ss) where
  marked := List.forall_mem_cons.mpr ⟨⟨m, List.mem_cons_self, hs⟩, hss.marked⟩
  sorted := by
    refine List.pairwise_cons.mpr ⟨fun t ht a b ha hb => ?_, hss.sorted⟩
    obtain ⟨m', hm', htm⟩ := hss.marked t ht
    obtain rfl := Option.some.inj (hs.symm.trans ha)
    obtain rfl := Option.some.inj (htm.symm.trans hb)
    rcases List.mem_cons.mp hm' with rfl | hm'
    · exact .inl rfl
    · exact .inr ((List.singleton_sublist.mpr hm').cons_cons _)

theorem MarkedBy.mono {marks marks' : List Mark} {ss : List Spot} (hss : MarkedBy marks ss)
    (h : marks.Sublist marks') : MarkedBy marks' ss := by
  have hnone : MarkedBy [] [] := ⟨nofun, .nil⟩
  simpa using hss.append hnone (by simpa using h)

mutual

/-- The spots of a node that is no character data have its marks, in order. -/
theorem marked_subtreeSpots {n : Node} {i : NodeId} (hi : n.id? = some i) (offsets : List Offset)
    (above : List Target) : MarkedBy n.marks (subtreeSpots offsets above n) := by
  cases n with
  | element j t cs =>
    have hcs := marked_subtreesSpots offsets above j t [] cs
    rw [subtreeSpots, Node.marks]
    exact .cons rfl (hcs.mono (List.sublist_cons_self _ _))
  | text s | section_ s => cases hi
  | comment j s | instruction j s d | reference j s t =>
    exact ⟨List.forall_mem_singleton.mpr ⟨.node j, List.mem_singleton_self _, rfl⟩,
      List.pairwise_singleton _ _⟩

/-- The spots of children have their marks, in order; character data at the start has the mark after the
children before. -/
theorem marked_subtreesSpots (offsets : List Offset) (above : List Target) (j : NodeId) (t : Tag)
    (before ns : List Node) : MarkedBy (markAfter j before :: marksAll ns)
      (subtreesSpots offsets (.node (.element j t (before ++ ns)) :: above) before.length ns) := by
  cases ns with
  | nil => exact ⟨nofun, .nil⟩
  | cons n ns =>
    have hns := marked_subtreesSpots offsets above j t (before ++ [n]) ns
    rw [List.append_assoc, List.singleton_append, List.length_append, List.length_singleton] at hns
    rw [subtreesSpots]
    cases hn : n.id? with
    | none =>
      have hmarks : marksAll (n :: ns) = marksAll ns := by
        cases n <;> first | rfl | cases hn
      rw [markAfter_append_text hn] at hns
      rw [subtreeSpots_of_text hn, hmarks, List.singleton_append]
      exact .cons (mark?_of_text hn before (n :: ns)) hns
    | some i =>
      rw [markAfter_append_node hn] at hns
      refine (marked_subtreeSpots hn _ _).append hns (.cons _ ?_)
      rw [marksAll_cons, hn, List.append_assoc]
      rfl

end

/-- The spots below an element have its marks, apart from its own, in order. -/
theorem marked_descendants {j : NodeId} {t : Tag} {cs : List Node} {s : Spot}
    (hs : s.target = .node (.element j t cs)) :
    MarkedBy (.lead j :: marksAll cs) s.descendants := by
  have h := marked_subtreesSpots s.offsets s.above j t [] cs
  rw [Spot.descendants, hs]
  exact h

/-! ## Text -/

mutual

theorem above_of_mem_subtreeSpots {offsets : List Offset} {above : List Target} {n : Node} {s : Spot}
    (hs : s ∈ subtreeSpots offsets above n) : ∀ a ∈ above, a ∈ s.above := by
  cases n with
  | element i t cs =>
    rw [subtreeSpots, List.mem_cons] at hs
    rcases hs with rfl | hs
    · exact fun a ha => ha
    · exact fun a ha => above_of_mem_subtreesSpots hs a (List.mem_cons_of_mem _ ha)
  | _ =>
    rw [subtreeSpots, List.mem_singleton] at hs
    · rw [hs]
      exact fun a ha => ha
    · simp

/-- What is above some children is above all spots below. -/
theorem above_of_mem_subtreesSpots {offsets : List Offset} {above : List Target} {k : Nat}
    {ns : List Node} {s : Spot} (hs : s ∈ subtreesSpots offsets above k ns) :
    ∀ a ∈ above, a ∈ s.above := by
  cases ns with
  | nil => cases hs
  | cons n ns =>
    rw [subtreesSpots, List.mem_append] at hs
    rcases hs with hs | hs
    · exact above_of_mem_subtreeSpots hs
    · exact above_of_mem_subtreesSpots hs

end

/-- The text of spots that are not lost. -/
def textOfKept (p : Mark → Bool) (ss : List Spot) : Chars :=
  (ss.filter fun s => !s.isLost p).flatMap fun s => s.target.ownText

theorem textOfKept_append (ss ts : List Spot) :
    textOfKept p (ss ++ ts) = textOfKept p ss ++ textOfKept p ts := by
  rw [textOfKept, List.filter_append, List.flatMap_append]
  rfl

theorem textOfKept_cons (s : Spot) (ss : List Spot) : textOfKept p (s :: ss) =
    (if s.isLost p then [] else s.target.ownText) ++ textOfKept p ss := by
  rw [textOfKept, List.filter_cons]
  cases s.isLost p <;> rfl

@[simp] theorem textOfKept_nil : textOfKept p [] = [] := rfl

/-- Nothing is kept below a node that goes. -/
theorem textOfKept_of_lost {ss : List Spot} (h : ∀ s ∈ ss, s.isLost p = true) : textOfKept p ss = [] := by
  rw [textOfKept, List.filter_eq_nil_iff.mpr fun s hs => by rw [h s hs]; exact Bool.false_ne_true]
  rfl

mutual

theorem textLeft_eq_textOfKept {n : Node} {i : NodeId} (hi : n.id? = some i) (offsets : List Offset)
    {above : List Target} (habove : (above.any fun a => a.id?.any fun i => p (.node i)) = false) :
    n.textLeft p = textOfKept p (subtreeSpots offsets above n) := by
  cases n with
  | element j t cs =>
    rw [subtreeSpots, textOfKept_cons, Node.textLeft]
    have hown : (Target.node (.element j t cs)).ownText = [] := rfl
    rw [hown, ite_self, List.nil_append]
    split
    · next hgone =>
      refine (textOfKept_of_lost fun s hs => ?_).symm
      have hmem := above_of_mem_subtreesSpots hs (.node (.element j t cs)) List.mem_cons_self
      rw [Spot.isLost, List.any_cons, Bool.or_eq_true, Bool.or_eq_true]
      exact .inl (.inr (List.any_eq_true.mpr ⟨_, hmem, hgone⟩))
    · next hgone =>
      refine textsLeft_eq_textOfKept offsets j t [] cs ?_
      rw [List.any_cons, habove, Bool.or_false]
      exact eq_false_of_ne_true hgone
  | text s | section_ s => cases hi
  | comment j s | instruction j s d =>
    rw [subtreeSpots, textOfKept_cons]
    · simp [Node.textLeft, Target.ownText, Node.ownText]
    · simp
  | reference j s t =>
    have hlost : Spot.isLost p ⟨.node (.reference j s t), offsets, above⟩ = p (.node j) := by
      rw [Spot.isLost, List.any_cons, habove, Bool.or_false]
      exact Bool.or_false _
    rw [subtreeSpots, textOfKept_cons, hlost, Node.textLeft]
    · exact (List.append_nil _).symm
    · simp

/-- What is left of the text of children is that of the spots that are not lost. -/
theorem textsLeft_eq_textOfKept (offsets : List Offset) {above : List Target} (j : NodeId) (t : Tag)
    (before ns : List Node)
    (habove : ((Target.node (.element j t (before ++ ns)) :: above).any fun a =>
      a.id?.any fun i => p (.node i)) = false) :
    textsLeft p (Mark.isCleared p (markAfter j before)) ns = textOfKept p
      (subtreesSpots offsets (.node (.element j t (before ++ ns)) :: above) before.length ns) := by
  cases ns with
  | nil => rfl
  | cons n ns =>
    have hns := textsLeft_eq_textOfKept offsets j t (before ++ [n]) ns
      (by rw [List.append_assoc]; exact habove)
    rw [List.append_assoc, List.singleton_append, List.length_append, List.length_singleton] at hns
    rw [subtreesSpots, textOfKept_append]
    cases hn : n.id? with
    | none =>
      rw [markAfter_append_text hn] at hns
      have hlost : Spot.isLost p ⟨.node n, .child before.length :: offsets,
          .node (.element j t (before ++ n :: ns)) :: above⟩ = Mark.isCleared p (markAfter j before) := by
        rw [Spot.isLost, mark?_of_text hn before (n :: ns), List.any_cons, habove, Target.id?, hn]
        rfl
      have hown : (Target.node n).ownText = n.ownText := by cases n <;> first | rfl | cases hn
      rw [subtreeSpots_of_text hn, textOfKept_cons, textsLeft_cons_text hn, hns, hlost, hown]
      rw [textOfKept_nil, List.append_nil]
    | some i =>
      rw [markAfter_append_node hn] at hns
      rw [textsLeft_cons_node hn, hns, textLeft_eq_textOfKept hn _ habove]

end

/-- What is left of the text of an element that stays is that of the spots below it that are not lost. -/
theorem textLeft_eq_textOfKept_descendants {j : NodeId} {t : Tag} {cs : List Node} {s : Spot}
    (hs : s.target = .node (.element j t cs))
    (hstays : ((s.target :: s.above).any fun a => a.id?.any fun i => p (.node i)) = false) :
    (Node.element j t cs).textLeft p = textOfKept p s.descendants := by
  rw [hs] at hstays
  have hj : p (.node j) = false := by
    rw [List.any_cons, Bool.or_eq_false_iff] at hstays
    exact hstays.1
  have h := textsLeft_eq_textOfKept s.offsets j t [] cs hstays
  rw [Node.textLeft, hj, if_neg Bool.false_ne_true, Spot.descendants, hs]
  exact h

/-! ## Spots inside others -/

mutual

theorem filterMap_id?_subtreeSpots (offsets : List Offset) (above : List Target) (n : Node) :
    (subtreeSpots offsets above n).filterMap (fun s => s.target.id?) = n.ids := by
  cases n with
  | element i t cs =>
    have hid : Target.id? (.node (.element i t cs)) = some i := rfl
    rw [subtreeSpots, List.filterMap_cons_some (f := fun s : Spot => s.target.id?) hid,
      filterMap_id?_subtreesSpots, Node.ids]
  | _ => rfl

/-- The ids of the nodes at the spots of some subtrees. -/
theorem filterMap_id?_subtreesSpots (offsets : List Offset) (above : List Target) (k : Nat)
    (ns : List Node) :
    (subtreesSpots offsets above k ns).filterMap (fun s => s.target.id?) = idsAll ns := by
  cases ns with
  | nil => rfl
  | cons n ns =>
    rw [subtreesSpots, List.filterMap_append, filterMap_id?_subtreeSpots, filterMap_id?_subtreesSpots,
      idsAll_cons]

end

/-- If ids are distinct, a node stands at one spot only. -/
theorem eq_of_id?_descendants {s t u : Spot} {i : NodeId} (hnodup : (idsAll s.target.children).Nodup)
    (ht : t ∈ s.descendants) (hu : u ∈ s.descendants) (hti : t.target.id? = some i)
    (hui : u.target.id? = some i) : t = u := by
  have : Std.Symm fun a b : Spot =>
      ∀ i, a.target.id? = some i → ∀ j, b.target.id? = some j → i ≠ j :=
    ⟨fun a b hab i hi j hj hij => hab j hj i hi hij.symm⟩
  rw [← filterMap_id?_subtreesSpots s.offsets (s.target :: s.above) 0] at hnodup
  by_contra hne
  exact (List.pairwise_filterMap.mp hnodup).forall ht hu hne i hti i hui rfl

mutual

theorem inside_of_mem_subtreeSpots {offsets : List Offset} {above : List Target} {n : Node} {t : Spot}
    (ht : t ∈ subtreeSpots offsets above n) {a : Target} (ha : a ∈ t.above) :
    a ∈ above ∨ ∃ u ∈ subtreeSpots offsets above n, u.target = a ∧ t ∈ u.descendants := by
  cases n with
  | element i tag cs =>
    rw [subtreeSpots, List.mem_cons] at ht
    rcases ht with rfl | ht
    · exact .inl ha
    · rcases inside_of_mem_subtreesSpots ht ha with ha | ⟨u, hu, hua, htu⟩
      · rcases List.mem_cons.mp ha with rfl | ha
        · exact .inr ⟨_, List.mem_cons_self, rfl, ht⟩
        · exact .inl ha
      · exact .inr ⟨u, List.mem_cons_of_mem _ hu, hua, htu⟩
  | _ =>
    rw [subtreeSpots, List.mem_singleton] at ht
    · rw [ht] at ha
      exact .inl ha
    · simp

/-- What is above a spot is above all spots, or a spot that it stands in. -/
theorem inside_of_mem_subtreesSpots {offsets : List Offset} {above : List Target} {k : Nat}
    {ns : List Node} {t : Spot} (ht : t ∈ subtreesSpots offsets above k ns) {a : Target}
    (ha : a ∈ t.above) :
    a ∈ above ∨ ∃ u ∈ subtreesSpots offsets above k ns, u.target = a ∧ t ∈ u.descendants := by
  cases ns with
  | nil => cases ht
  | cons n ns =>
    rw [subtreesSpots, List.mem_append] at ht
    rcases ht with ht | ht
    · refine (inside_of_mem_subtreeSpots ht ha).imp_right fun ⟨u, hu, h⟩ => ⟨u, ?_, h⟩
      exact List.mem_append_left _ hu
    · refine (inside_of_mem_subtreesSpots ht ha).imp_right fun ⟨u, hu, h⟩ => ⟨u, ?_, h⟩
      exact List.mem_append_right _ hu

end

end MarkupQuery.Query
