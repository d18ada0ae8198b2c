/-!
# How computations end

A computation that may fail ends with a value or with a fault. `Ends p q` tells that a fault has the
property `p` and a value the property `q`. What is known of the parts of a computation gives what is
known of the whole: of one step after the other (`Ends.bind`) and of a step for every item of a list
(`Ends.mapM`, `FailsOnly.filterMapM`). A step that tests its item fails at the first one that does not
pass (`mapM_tested`).
-/

namespace MarkupQuery

variable {ε α β : Type} {p p' : ε → Prop} {q q' : α → Prop} {r : β → Prop} {x y : Except ε α}

/-- A fault of a computation has one property, a value another. -/
inductive Ends (p : ε → Prop) (q : α → Prop) : Except ε α → Prop
  | ok {a : α} (h : q a) : Ends p q (.ok a)
  | error {e : ε} (h : p e) : Ends p q (.error e)

/-- Whatever fault a computation ends with has a property. -/
abbrev FailsOnly (p : ε → Prop) (x : Except ε α) : Prop := Ends p (fun _ => True) x

/-! ## Single steps -/

@[simp] theorem ends_ok {a : α} : Ends p q (.ok a) ↔ q a :=
  ⟨fun | .ok h => h, .ok⟩

@[simp] theorem ends_error {e : ε} : Ends p q (.error e) ↔ p e :=
  ⟨fun | .error h => h, .error⟩

theorem ends_pure {a : α} : Ends p q (pure a) ↔ q a := ends_ok

theorem failsOnly_ok {a : α} : FailsOnly p (.ok a) := .ok trivial

theorem failsOnly_pure {a : α} : FailsOnly p (pure a) := .ok trivial

theorem Ends.value (h : Ends p q x) {a : α} (hx : x = .ok a) : q a := by
  subst hx
  exact ends_ok.mp h

theorem Ends.fault (h : Ends p q x) {e : ε} (hx : x = .error e) : p e := by
  subst hx
  exact ends_error.mp h

theorem ends_iff : Ends p q x ↔ (∀ a, x = .ok a → q a) ∧ ∀ e, x = .error e → p e := by
  cases x <;> simp

theorem Ends.mono (h : Ends p q x) (hp : ∀ e, p e → p' e) (hq : ∀ a, q a → q' a) :
    Ends p' q' x := by
  cases h with
  | ok h => exact .ok (hq _ h)
  | error h => exact .error (hp _ h)

theorem Ends.failsOnly (h : Ends p q x) : FailsOnly p x :=
  h.mono (fun _ hp => hp) fun _ _ => trivial

theorem Ends.mono_fault (h : Ends p q x) (hp : ∀ e, p e → p' e) : Ends p' q x :=
  h.mono hp fun _ hq => hq

/-- A computation ends with the value that it gives. -/
theorem Ends.value_eq (h : FailsOnly p x) : Ends p (fun a => x = .ok a) x := by
  cases h with
  | ok => exact .ok rfl
  | error h => exact .error h

theorem ends_ite {c : Prop} [Decidable c] (hx : Ends p q x) (hy : Ends p q y) :
    Ends p q (if c then x else y) := by
  split
  · exact hx
  · exact hy

/-! ## One step after the other -/

theorem Ends.bind {f : α → Except ε β} (hx : Ends p q x) (hf : ∀ a, q a → Ends p r (f a)) :
    Ends p r (x >>= f) := by
  cases hx with
  | ok h => exact hf _ h
  | error h => exact .error h

/-- Whatever value the first step gives, the rest ends well. -/
theorem Ends.bind_any {f : α → Except ε β} (hx : Ends p q x) (hf : ∀ a, Ends p r (f a)) :
    Ends p r (x >>= f) :=
  hx.bind fun a _ => hf a

theorem ends_map {f : α → β} : Ends p r (x.map f) ↔ Ends p (fun a => r (f a)) x := by
  cases x <;> simp [Except.map]

/-! ## A step for every item -/

theorem Ends.mapM {ι : Type} {g : ι → Except ε α} {is : List ι} (h : ∀ i ∈ is, Ends p q (g i)) :
    Ends p (fun as => ∀ a ∈ as, q a) (is.mapM g) := by
  induction is with
  | nil => exact .ok nofun
  | cons i is ih =>
    rw [List.forall_mem_cons] at h
    rw [List.mapM_cons]
    exact h.1.bind fun a ha => (ih h.2).bind fun as has =>
      ends_pure.mpr (List.forall_mem_cons.mpr ⟨ha, has⟩)

theorem FailsOnly.mapM {ι : Type} {g : ι → Except ε α} {is : List ι}
    (h : ∀ i ∈ is, FailsOnly p (g i)) : FailsOnly p (is.mapM g) :=
  (Ends.mapM h).failsOnly

theorem mapM_ok (g : α → β) (as : List α) :
    (as.mapM fun a => (.ok (g a) : Except ε β)) = .ok (as.map g) :=
  List.mapM_pure

/-- A computation for every item that can only fail in one way fails so if it does for an item. -/
theorem mapM_eq_error {g : α → Except ε β} {e : ε} {as : List α}
    (hother : ∀ a ∈ as, (∃ b, g a = .ok b) ∨ g a = .error e) (hfails : ∃ a ∈ as, g a = .error e) :
    as.mapM g = .error e := by
  induction as with
  | nil => simp at hfails
  | cons a as ih =>
    rw [List.forall_mem_cons] at hother
    rw [List.mapM_cons]
    -- the first item either fails in the one way, or gives something and leaves the failure to the rest
    rcases hother.1 with ⟨b, hb⟩ | ha
    · have hrest : ∃ a ∈ as, g a = .error e := by
        obtain ⟨a', ha', hg⟩ := hfails
        rcases List.mem_cons.mp ha' with rfl | hmem
        · rw [hb] at hg
          cases hg
        · exact ⟨a', hmem, hg⟩
      rw [hb, ih hother.2 hrest]
      rfl
    · rw [ha]
      rfl

/-- A step that tests its item fails at the first item that does not pass. -/
theorem mapM_tested {ι : Type} (c : ι → Prop) [DecidablePred c] (f : ι → α) (e : ι → ε) (is : List ι) :
    (is.mapM fun i => if c i then Except.ok (f i) else .error (e i)) =
      match is.find? fun i => !decide (c i) with
      | none => .ok (is.map f)
      | some i => .error (e i) := by
  induction is with
  | nil => rfl
  | cons i is ih =>
    rw [List.mapM_cons, ih, List.find?_cons]
    -- an item that passes leaves the search to the rest, another one ends it
    by_cases hi : c i
    · rw [if_pos hi, decide_eq_true hi]
      cases is.find? fun i => !decide (c i) <;> rfl
    · rw [if_neg hi, decide_eq_false hi]
      rfl

theorem FailsOnly.filterMapM {ι : Type} {g : ι → Except ε (Option α)} {is : List ι}
    (h : ∀ i ∈ is, FailsOnly p (g i)) : FailsOnly p (is.filterMapM g) := by
  induction is with
  | nil => exact failsOnly_ok
  | cons i is ih =>
    rw [List.forall_mem_cons] at h
    rw [List.filterMapM_cons]
    refine h.1.bind_any fun o => ?_
    cases o with
    | none => exact ih h.2
    | some a => exact (ih h.2).bind_any fun as => failsOnly_pure

end MarkupQuery
