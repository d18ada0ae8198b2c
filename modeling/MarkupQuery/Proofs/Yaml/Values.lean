import MarkupQuery.Yaml.Value
import MarkupQuery.Proofs.Yaml.Structure

/-!
# Faults of the values of a configuration text

A configuration text has a value or a fault of a configuration (`read_ends`); if the value is a mapping,
no key stands in it twice. Where several parts of a value have faults, one of them is the fault of the
whole, so that it is enough to look at each part.
-/

namespace MarkupQuery

open MarkupQuery.Text

/-! ## Keys -/

/-- No key of some entries equals a later one. -/
def KeysOnce (es : List (Datum × Datum)) : Prop :=
  (es.map (·.1)).Pairwise fun a b => a.same b = false

/-- If a value is a mapping, no key stands in it twice. -/
def Datum.KeysOnce : Datum → Prop
  | .dict es => MarkupQuery.KeysOnce es
  | _ => True

variable {es : List (Datum × Datum)}

theorem mem_keys_put {key value a : Datum} (h : a ∈ (Datum.put key value es).map (·.1)) :
    a ∈ es.map (·.1) ∨ a = key := by
  fun_induction Datum.put key value es with
  | case1 => simpa using h
  | case2 => exact .inl h
  | case3 k v es _ ih =>
    rw [List.map_cons, List.mem_cons] at h ⊢
    rcases h with h | h
    · exact .inl (.inl h)
    · exact (ih h).imp_left .inr

/-- A value is put under a key that is there, or under a new one at the end. -/
theorem KeysOnce.put (h : KeysOnce es) (key value : Datum) : KeysOnce (Datum.put key value es) := by
  fun_induction Datum.put key value es with
  | case1 => exact List.pairwise_singleton _ _
  | case2 => exact h
  | case3 k v es hk ih =>
    obtain ⟨hfirst, hrest⟩ := List.pairwise_cons.mp h
    refine List.pairwise_cons.mpr ⟨fun a ha => ?_, ih hrest⟩
    rcases mem_keys_put ha with ha | rfl
    · exact hfirst a ha
    · exact eq_false_of_ne_true hk

namespace Yaml

theorem keysOnce_mappingValue (fs : List (Datum × Datum)) : (mappingValue fs).KeysOnce := by
  suffices hfold : ∀ es, KeysOnce es → KeysOnce (fs.foldl (fun d e => Datum.put e.1 e.2 d) es) from
    hfold [] .nil
  induction fs with
  | nil => exact fun es h => h
  | cons f fs ih => exact fun es h => ih _ (h.put f.1 f.2)

theorem keysOnce_enclosingValue (m : Bool) : (enclosingValue m).KeysOnce := by
  cases m
  · exact trivial
  · exact .nil

/-! ## Scalars -/

theorem truthOf_fails (t : Chars) : FailsOnly IsConfigFault (truthOf t) := by
  unfold truthOf
  dsimp only
  split
  · exact failsOnly_ok
  · exact .error rfl

theorem digitsIn_fails (base : Nat) (t : Chars) : FailsOnly IsConfigFault (digitsIn base t) :=
  ends_ite (.error rfl) failsOnly_ok

theorem decimalInteger_fails (t : Chars) : FailsOnly IsConfigFault (decimalInteger t) := by
  unfold decimalInteger
  split
  · exact failsOnly_ok
  · exact .error rfl

theorem integerOf_fails (t : Chars) : FailsOnly IsConfigFault (integerOf t) := by
  unfold integerOf
  dsimp only
  split
  · exact .error rfl
  · split
    · exact failsOnly_pure
    · exact (digitsIn_fails _ _).bind_any fun _ => failsOnly_pure
    · exact (digitsIn_fails _ _).bind_any fun _ => failsOnly_pure
    · exact (digitsIn_fails _ _).bind_any fun _ => failsOnly_pure
    · exact .error rfl
    · refine ends_ite ?_ ?_
      · exact (FailsOnly.mapM fun p _ => decimalInteger_fails p).bind_any fun _ => failsOnly_pure
      · exact (decimalInteger_fails _).bind_any fun _ => failsOnly_pure

theorem decimalNumber_fails (t : Chars) : FailsOnly IsConfigFault (decimalNumber t) := by
  unfold decimalNumber
  split
  · exact failsOnly_ok
  · exact .error rfl

theorem fractionOf_fails (t : Chars) : FailsOnly IsConfigFault (fractionOf t) := by
  unfold fractionOf
  dsimp only
  split
  · exact .error rfl
  · refine ends_ite failsOnly_pure (ends_ite failsOnly_pure (ends_ite ?_ ?_))
    · exact (FailsOnly.mapM fun p _ => decimalNumber_fails p).bind_any fun _ => failsOnly_pure
    · exact (decimalNumber_fails _).bind_any fun _ => failsOnly_pure

theorem dayOf_fails (year month day : Nat) : FailsOnly IsConfigFault (dayOf year month day) :=
  ends_ite (.error rfl) (ends_ite (.error rfl) (ends_ite (.error rfl) failsOnly_ok))

theorem dateOf_ends (t : Chars) : Ends IsConfigFault Datum.KeysOnce (dateOf t) := by
  have htime (hour minute second : Nat) (d : Datum) (hd : d.KeysOnce) :
      Ends IsConfigFault Datum.KeysOnce (do
        if 23 < hour then throw (.badDate "hour must be in 0..23")
        if 59 < minute then throw (.badDate "minute must be in 0..59")
        if 59 < second then throw (.badDate "second must be in 0..59")
        return d) :=
    ends_ite (.error rfl) (ends_ite (.error rfl) (ends_ite (.error rfl) (.ok hd)))
  unfold dateOf
  dsimp only
  split
  · exact .error rfl
  · split
    · exact (dayOf_fails _ _ _).bind_any fun _ => .ok trivial
    · simp only [pure_bind]
      split
      · exact (dayOf_fails _ _ _).bind_any fun _ => htime _ _ _ _ trivial
      · exact (dayOf_fails _ _ _).bind_any fun _ => htime _ _ _ _ trivial
      · exact ends_ite (.error rfl) ((dayOf_fails _ _ _).bind_any fun _ => htime _ _ _ _ trivial)

theorem scalarText_fails (fuel : Nat) (n : Node) : FailsOnly IsConfigFault (scalarText fuel n) := by
  induction fuel generalizing n with
  | zero => cases n <;> first | exact failsOnly_ok | exact .error rfl
  | succ fuel ih =>
    unfold scalarText
    split
    · exact failsOnly_ok
    · next m es heq =>
      split
      · cases heq
        exact ih _
      · exact .error rfl
    · exact .error rfl

/-- A scalar has a value of its kind or a fault of a configuration. -/
theorem scalarValue_ends (tag : Tag) (t : Chars) :
    Ends IsConfigFault Datum.KeysOnce (scalarValue tag t) := by
  unfold scalarValue
  split
  · exact .ok trivial
  · exact ends_map.mpr (truthOf_fails t)
  · exact ends_map.mpr (integerOf_fails t)
  · exact ends_map.mpr (fractionOf_fails t)
  · exact dateOf_ends t
  · exact .ok trivial
  · refine ends_ite (.error rfl) ?_
    split
    · exact .ok trivial
    · exact .error rfl
  · exact .error rfl

/-! ## Merging -/

mutual

theorem splitMerges_fails (es : List (Node × Node)) : FailsOnly IsConfigFault (splitMerges es) := by
  match es with
  | [] => exact failsOnly_ok
  | (k, v) :: es =>
    unfold splitMerges
    split
    · exact failsOnly_ok
    · next heq =>
      cases heq
      exact (entriesToMerge_fails v).bind_any fun _ => (splitMerges_fails es).bind_any fun _ => failsOnly_pure
    · next heq =>
      cases heq
      exact (splitMerges_fails es).bind_any fun _ => failsOnly_pure
    · next heq =>
      cases heq
      exact (splitMerges_fails es).bind_any fun _ => failsOnly_pure

theorem entriesToMerge_fails (n : Node) : FailsOnly IsConfigFault (entriesToMerge n) := by
  match n with
  | .mapping t es =>
    rw [entriesToMerge]
    exact (splitMerges_fails es).bind_any fun _ => failsOnly_pure
  | .sequence t ns =>
    rw [entriesToMerge]
    exact entriesOfEach_fails ns
  | .scalar .. | .enclosing _ => exact .error rfl

theorem entriesOfEach_fails (ns : List Node) : FailsOnly IsConfigFault (entriesOfEach ns) := by
  match ns with
  | [] => exact failsOnly_ok
  | .mapping t es :: ns =>
    rw [entriesOfEach]
    exact (splitMerges_fails es).bind_any fun _ => (entriesOfEach_fails ns).bind_any fun _ => failsOnly_pure
  | .sequence .. :: _ | .scalar .. :: _ | .enclosing _ :: _ => exact .error rfl

end

theorem mergedEntries_fails (es : List (Node × Node)) :
    FailsOnly IsConfigFault (mergedEntries es) := by
  rw [mergedEntries]
  exact (splitMerges_fails es).bind_any fun _ => failsOnly_pure

theorem singleEntries_fails (ns : List Node) : FailsOnly IsConfigFault (singleEntries ns) := by
  fun_induction singleEntries ns with
  | case1 => exact failsOnly_ok
  | case2 _ _ _ ih => exact ends_map.mpr ih
  | case3 => exact .error rfl

/-! ## Values of nodes -/

/-- A value is built or there is a fault of a configuration, at whatever level. -/
abbrev Builds {α : Type} (q : α → Prop) (x : Built α) : Prop := Ends (fun e => IsConfigFault e.2) q x

variable {α β : Type} {q : α → Prop} {x : Built α} {y : Built β}

theorem builds_lift {level : Nat} {x : Except Fault α} (h : Ends IsConfigFault q x) :
    Builds q (Built.lift level x) := by
  cases h with
  | ok h => exact .ok h
  | error h => exact .error h

/-- The fault of one of two parts is that of both. -/
theorem Builds.both (hx : Builds (fun _ => True) x) (hy : Builds (fun _ => True) y) :
    Builds (fun _ => True) (x.both y) := by
  rcases hx with - | hx
  · rcases hy with - | hy
    · exact failsOnly_ok
    · exact .error hy
  · rcases hy with - | hy
    · exact .error hx
    · refine .error ?_
      split
      · exact hy
      · exact hx

section

variable {make : Node → Built Datum} (hmake : ∀ n, Builds (fun _ => True) (make n))

include hmake

theorem buildAll_fails (ns : List Node) : Builds (fun _ => True) (buildAll make ns) := by
  induction ns with
  | nil => exact failsOnly_ok
  | cons n ns ih => exact ends_map.mpr ((hmake n).both ih)

theorem buildEntries_fails (level : Nat) (es : List (Node × Node)) :
    Builds (fun _ => True) (buildEntries make level es) := by
  induction es with
  | nil => exact failsOnly_ok
  | cons e es ih =>
    obtain ⟨k, v⟩ := e
    rw [buildEntries]
    refine ends_map.mpr (Builds.both (.both ?_ (hmake v)) ih)
    have hkey := hmake k
    split
    · exact ends_ite failsOnly_ok (.error rfl)
    · next e he => exact ends_ite (.error (hkey.fault he)) (.error rfl)

end

/-- A node has a value or a fault of a configuration. -/
theorem build_ends (fuel level : Nat) (n : Node) : Builds Datum.KeysOnce (build fuel level n) := by
  induction fuel generalizing level n with
  | zero => exact .error rfl
  | succ fuel ih =>
    have hinner (n : Node) : Builds (fun _ => True) (build fuel (level + 1) n) :=
      (ih (level + 1) n).failsOnly
    have hscalar (t : Tag) : Builds Datum.KeysOnce (if t.isDeferred then .fail (level + 1) unbuildable
        else Built.lift level ((scalarText fuel n).bind (scalarValue t)) : Built Datum) :=
      ends_ite (.error rfl)
        (builds_lift ((scalarText_fails fuel n).bind_any fun text => scalarValue_ends t text))
    cases n with
    | enclosing m => exact .ok (keysOnce_enclosingValue m)
    | scalar t text =>
      have hdefault := hscalar t
      cases t <;> exact hdefault
    | sequence t ns =>
      have hdefault := hscalar t
      cases t with
      | seq => exact ends_map.mpr (buildAll_fails hinner ns)
      | omap | pairs =>
        exact (builds_lift (singleEntries_fails ns)).bind_any fun _ =>
          ends_map.mpr (buildAll_fails hinner _)
      | _ => exact hdefault
    | mapping t es =>
      have hdefault := hscalar t
      cases t with
      | map =>
        exact (builds_lift (mergedEntries_fails es)).bind_any fun _ =>
          ends_map.mpr ((buildEntries_fails hinner _ _).mono (fun _ h => h)
            fun vs _ => keysOnce_mappingValue vs)
      | set =>
        exact (builds_lift (mergedEntries_fails es)).bind_any fun _ =>
          ends_map.mpr (buildEntries_fails hinner _ _)
      | _ => exact hdefault

/-! ## Texts -/

/-- A configuration text has a value, none, or a fault of a configuration. -/
theorem read_ends (text : Chars) :
    Ends IsConfigFault (fun v => ∀ d ∈ v, Datum.KeysOnce d) (read text) := by
  unfold read
  refine ends_ite (.error rfl) ((tokensOf_sound _).readDocument.bind_any fun n => ?_)
  cases n with
  | none => exact ends_pure.mpr nofun
  | some n =>
    have hbuild := build_ends (4 * (tokensOf (unifyLineEnds text)).length + 4) 0 n
    dsimp only
    split
    · next v hv => exact ends_pure.mpr fun d hd => Option.some.inj hd ▸ hbuild.value hv
    · next level f hf => exact .error (hbuild.fault hf)

end Yaml

end MarkupQuery
