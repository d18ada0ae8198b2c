import MarkupQuery.Query.Evaluate
import MarkupQuery.Proofs.Endings

/-!
# What stops a query

A query is carried out or stopped for a reason of its own. The only faults of functions are those of the
functions on regular expressions, which can be called only through a prefix of their namespace
(`run_stops`); a text that they make may also be none that can stand in a document.
-/

namespace MarkupQuery

/-- The faults of the functions on regular expressions that nobody is told of. -/
def Fault.isRegular : Fault → Bool
  | .pattern _ | .unknownGroupName _ | .wrongType | .overflow => true
  | _ => false

namespace Query

open MarkupQuery.Text MarkupQuery.Tree

/-- A fault of a function on regular expressions. -/
def IsRegularFault (f : Fault) : Prop := (f.isReported || f.isRegular) = true

/-- A reason of a query, or a fault of a function on regular expressions that a prefix allows to call. -/
def Trouble.Among (spaces : List (Chars × Chars)) : Trouble → Prop
  | .reason _ => True
  | .fault f => IsRegularFault f ∧ ∃ s ∈ spaces, s.2 = regularSpace

/-! ## Functions -/

theorem compileWith_fails (flags : Pattern.Flags) (s : Chars) :
    FailsOnly IsRegularFault (compileWith flags s) := by
  unfold compileWith
  split
  · exact failsOnly_ok
  all_goals exact .error rfl

/-- A template that is made ready for a pattern expands every match. -/
theorem prepare_fails (t : Chars) (r : Pattern.Regex) :
    Ends IsRegularFault (fun f => ∀ m, FailsOnly IsRegularFault (f m))
      ((Replacement.template t).prepare r) := by
  rw [Replacement.prepare]
  split
  · exact .ok fun m => failsOnly_ok
  · exact .error rfl
  · exact .error rfl

theorem substituteM_fails {f : Pattern.Match → Except Fault Chars} {q : Fault → Prop}
    (h : ∀ m, FailsOnly q (f m)) (s : Pattern.Segments) : FailsOnly q (s.substituteM f) :=
  (FailsOnly.mapM fun p _ => (h p.2).bind_any fun _ => failsOnly_pure).bind_any fun _ =>
    failsOnly_pure

variable {p : Trouble → Prop}

section

/-- A fault of a regular expression, as the trouble of the call that ran it. -/
def asTrouble {α : Type} : Except Fault α → Except Trouble α
  | .ok v => .ok v
  | .error f => .error (.fault f)

variable (hreason : ∀ r, p (.reason r)) (hfault : ∀ f, IsRegularFault f → p (.fault f))

include hreason hfault

theorem callRegular_fails (name : String) (arguments : List Value) :
    FailsOnly p (callRegular name arguments) := by
  have hlift {α : Type} {q : α → Prop} {x : Except Fault α} : Ends IsRegularFault q x →
      Ends p q (asTrouble x) := by
    rintro (h | h)
    · exact .ok h
    · exact .error (hfault _ h)
  have hcompile (flags : Pattern.Flags) (s : Chars) := hlift (compileWith_fails flags s)
  unfold callRegular
  dsimp only
  split
  · exact (hcompile _ _).bind fun _ _ => failsOnly_pure
  · exact (hcompile _ _).bind fun _ _ => failsOnly_pure
  · exact (hcompile _ _).bind fun _ _ => ends_ite failsOnly_pure (.error (hfault _ rfl))
  · exact (hcompile _ _).bind fun _ _ => ends_ite failsOnly_pure (.error (hfault _ rfl))
  · refine (hcompile _ _).bind fun r _ => ?_
    refine (hlift (prepare_fails _ r)).bind fun expand hexpand => ?_
    exact (hlift (substituteM_fails hexpand _)).bind fun _ _ => failsOnly_pure
  · exact .error (hfault _ rfl)
  · exact .error (hfault _ rfl)
  · exact .error (hfault _ rfl)
  · exact .error (hreason _)

end

theorem callCore_fails (hreason : ∀ r, p (.reason r)) (name : String) (c : Context)
    (arguments : List Value) : FailsOnly p (callCore name c arguments) := by
  unfold callCore
  dsimp only
  split
  all_goals repeat' split
  all_goals first
    | exact failsOnly_ok
    | exact .error (hreason _)

variable {c : Context}

theorem space_of_space? {l u : Chars} (h : c.space? l = some u) (hne : u ≠ xmlSpace) :
    ∃ s ∈ c.spaces, s.2 = u := by
  rw [Context.space?] at h
  split at h
  · exact absurd (Option.some.inj h).symm hne
  · obtain ⟨s, hs, hu⟩ := Option.map_eq_some_iff.mp h
    exact ⟨s, List.mem_of_find?_eq_some hs, hu⟩

/-- The functions on regular expressions are called through a prefix of their namespace. -/
theorem call_fails (label : Option Chars) (name : Chars) (c : Context) (arguments : List Value) :
    FailsOnly (Trouble.Among c.spaces) (call label name c arguments) := by
  unfold call
  split
  · exact callCore_fails (fun _ => trivial) _ c arguments
  · split
    · exact .error trivial
    · next u hu =>
      split
      · next heq =>
        have hspace := space_of_space? hu (beq_iff_eq.mp heq ▸ by decide)
        rw [beq_iff_eq.mp heq] at hspace
        exact callRegular_fails (fun _ => trivial) (fun f hf => ⟨hf, hspace⟩) _ arguments
      · exact .error trivial

/-! ## Expressions -/

theorem spots?_fails (v : Value) : FailsOnly (Trouble.Among c.spaces) v.spots? := by
  cases v with
  | spots ss => exact failsOnly_ok
  | _ => exact .error trivial

theorem testSpace_fails (c : Context) (t : NodeTest) :
    FailsOnly (Trouble.Among c.spaces) (c.testSpace t) := by
  unfold Context.testSpace
  split
  · exact failsOnly_ok
  · split
    · exact failsOnly_ok
    · exact .error trivial

theorem keepByPlace_fails {ask : Spot → Nat × Nat → Except Trouble Value}
    (h : ∀ s place, FailsOnly p (ask s place)) (ss : List Spot) :
    FailsOnly p (keepByPlace ask ss) := by
  unfold keepByPlace
  refine FailsOnly.filterMapM fun s _ => ?_
  exact (h s.1 (s.2 + 1, ss.length)).bind_any fun _ => failsOnly_pure

mutual

/-- An expression has a value, or a reason against it, or a function on regular expressions fails. -/
theorem evaluate_fails (e : Expression) (c : Context) :
    FailsOnly (Trouble.Among c.spaces) (evaluate e c) := by
  match e with
  | .number x | .literal s | .here | .root =>
    rw [evaluate]
    exact failsOnly_ok
  | .variable_ l n =>
    rw [evaluate]
    exact .error trivial
  | .call l n arguments =>
    rw [evaluate]
    exact (evaluateAll_fails arguments c).bind_any fun vs => call_fails l n c vs
  | .binary op a b =>
    have ha := evaluate_fails a c
    have hb := evaluate_fails b c
    cases op
    case or =>
      rw [evaluate]
      exact ha.bind_any fun _ => ends_ite failsOnly_pure (hb.bind_any fun _ => failsOnly_pure)
    case and =>
      rw [evaluate]
      exact ha.bind_any fun _ => ends_ite (hb.bind_any fun _ => failsOnly_pure) failsOnly_pure
    all_goals
      rw [evaluate]
      · exact ha.bind_any fun _ => hb.bind_any fun _ => failsOnly_pure
      · exact nofun
      · exact nofun
  | .negate a | .toNumber a =>
    rw [evaluate]
    exact (evaluate_fails a c).bind_any fun _ => failsOnly_pure
  | .union a b =>
    rw [evaluate]
    exact (evaluate_fails a c).bind_any fun x => (evaluate_fails b c).bind_any fun y =>
      (spots?_fails x).bind_any fun _ => (spots?_fails y).bind_any fun _ => failsOnly_pure
  | .filter a q =>
    rw [evaluate]
    exact (evaluate_fails a c).bind_any fun x => (spots?_fails x).bind_any fun ss =>
      (keepByPlace_fails (fun s place => evaluate_fails q { c with spot := s, place := some place })
        ss).bind_any fun _ => failsOnly_pure
  | .step a axis test predicates =>
    rw [evaluate]
    exact (evaluate_fails a c).bind_any fun x => (spots?_fails x).bind_any fun ss =>
      (testSpace_fails c test).bind_any fun _ =>
        (FailsOnly.mapM fun s _ => keepAll_fails predicates c _).bind_any fun _ => failsOnly_pure

theorem evaluateAll_fails (es : List Expression) (c : Context) :
    FailsOnly (Trouble.Among c.spaces) (evaluateAll es c) := by
  match es with
  | [] =>
    rw [evaluateAll]
    exact failsOnly_ok
  | e :: es =>
    rw [evaluateAll]
    exact (evaluate_fails e c).bind_any fun _ =>
      (evaluateAll_fails es c).bind_any fun _ => failsOnly_pure

theorem keepAll_fails (es : List Expression) (c : Context) (ss : List Spot) :
    FailsOnly (Trouble.Among c.spaces) (keepAll es c ss) := by
  match es with
  | [] =>
    rw [keepAll]
    exact failsOnly_ok
  | e :: es =>
    rw [keepAll]
    exact (keepByPlace_fails
      (fun s place => evaluate_fails e { c with spot := s, place := some place }) ss).bind_any
      fun kept => keepAll_fails es c kept

end

/-- A query is stopped for a reason, unless a function on regular expressions fails. -/
theorem run_fails (kind : Kind) (spaces : List (Chars × Chars)) (s : Spot) (query : Chars) :
    FailsOnly (Trouble.Among spaces) (run kind spaces s query) := by
  unfold run
  split
  · exact .error trivial
  · next e _ => exact evaluate_fails e { spot := s, spaces, kind }

end Query

end MarkupQuery
