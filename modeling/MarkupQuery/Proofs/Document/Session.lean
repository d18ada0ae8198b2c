import MarkupQuery.Proofs.Document.Detaching
import MarkupQuery.Proofs.Document.Operation

/-!
# Sessions

Several documents are open at once; documents are opened, and operations are carried out on any of
them, in any order. Nested documents join the others. Documents are counted from the first, and a
handle is always used with the document that it was taken from.

The epoch of a document counts what ended an epoch of it, closing it and rewriting it with success,
and nothing else (`Session.epoch_run`). So a handle is stale exactly if something ended the epoch
that it was taken in.
-/

namespace MarkupQuery

open MarkupQuery.Text MarkupQuery.Tree MarkupQuery.Query

/-! ## Sessions -/

/-- The documents that are open. -/
structure Session where
  documents : List Document

/-- No documents. -/
def Session.empty : Session := ⟨[]⟩

/-- What can happen in a session. -/
inductive Event where
  /-- A document is opened. -/
  | opening (o : Opening)
  /-- An operation is carried out on a document. -/
  | on (k : Nat) (op : Operation)

/-- The documents that an operation gives. -/
def documentsIn : Except Fault Answer → List Document
  | .ok (.documents ds) => ds
  | _ => []

/-- A session after an event, whether what was tried failed or not. -/
def Session.step (s : Session) : Event → Session
  | .opening o =>
      match o.run.1 with
      | .ok d => ⟨s.documents ++ [d]⟩
      | .error _ => s
  | .on k op =>
      match s.documents[k]? with
      | none => s
      | some d =>
          let out := d.perform op
          ⟨s.documents.set k out.document ++ documentsIn out.result⟩

/-- A session after some events. -/
def Session.run (s : Session) (es : List Event) : Session := es.foldl Session.step s

@[simp] theorem Session.run_cons (s : Session) (e : Event) (es : List Event) :
    s.run (e :: es) = (s.step e).run es := rfl

/-! ## Ends of epochs -/

/-- Whether an operation ends the epoch of a document: it closes it, or rewrites it and does not
fail. -/
def Operation.endsEpoch (d : Document) : Operation → Bool
  | .close => true
  | .replace p replacement => ((d.replace p replacement).result matches .ok _)
  | _ => false

/-- How many epochs of a document an event ends. -/
def Session.ends (s : Session) (k : Nat) : Event → Nat
  | .opening _ => 0
  | .on j op =>
      if j = k then
        match s.documents[k]? with
        | some d => if op.endsEpoch d then 1 else 0
        | none => 0
      else 0

/-- How many epochs of a document some events end. -/
def Session.bumps (s : Session) (k : Nat) : List Event → Nat
  | [] => 0
  | e :: es => s.ends k e + (s.step e).bumps k es

/-! ## One operation -/

variable {d : Document}

theorem Document.epoch_take (d : Document) (p : Parsed) : (d.take p).epoch = d.epoch := by
  rw [Document.take]
  split <;> rfl

/-- An operation raises the epoch by one if it ends it, and leaves it alone otherwise. -/
theorem Document.epoch_perform (d : Document) (op : Operation) :
    (d.perform op).document.epoch = d.epoch + if op.endsEpoch d then 1 else 0 := by
  have hchanges := d.perform_changes op
  generalize (d.perform op).document = d' at hchanges
  cases hchanges with
  | same op hclose hreplace hregister =>
    cases op with
    | close => exact absurd rfl hclose
    | replace p r => exact absurd rfl (hreplace p r)
    | _ => rfl
  | translated => rfl
  | registered label name out h => cases h <;> rfl
  | removed s ss =>
    obtain ⟨trees, h | h⟩ := d.detachAll_document ss <;> rw [h] <;> rfl
  | detached h =>
    obtain ⟨trees, h | h⟩ := d.detach_document h.selected <;> rw [h] <;> rfl
  | replaced p r out hout h =>
    rw [Operation.endsEpoch, hout]
    cases h with
    | failed => rfl
    | done => rfl
    | refused parsed => exact d.epoch_take parsed
  | closed => rfl

/-- Documents are opened in epoch zero. -/
theorem Opening.epoch_eq_zero {o : Opening} (h : o.run.1 = .ok d) : d.epoch = 0 := by
  obtain ⟨d₀, m, hsettle, hinstalls⟩ := Opening.run_ok h
  have hzero : d₀.epoch = 0 := by rw [(Opening.settles_of_settle hsettle).eq]
  rw [← hzero, ← d₀.epoch_take (d₀.parse m)]
  generalize (d₀.parse m).tree.map (·.2) = root at hinstalls
  cases hinstalls <;> rfl

theorem documentsIn_map {α : Type} {x : Except Fault α} {f : α → Answer}
    (hf : ∀ a, documentsIn (.ok (f a)) = []) : documentsIn (x.map f) = [] := by
  cases x with
  | error e => rfl
  | ok a => exact hf a

theorem Handle.documentsIn_perform (h : Handle) (d : Document) (call : HandleCall) :
    documentsIn (h.perform d call).result = [] := by
  cases call <;> exact documentsIn_map fun _ => rfl

/-- The documents that an operation gives were opened with the settings of its own. -/
theorem Document.mem_documentsIn (d : Document) (op : Operation) :
    ∀ n ∈ documentsIn (d.perform op).result, ∃ m, (d.spawn m).1 = .ok n := by
  have hnone (h : documentsIn (d.perform op).result = []) :
      ∀ n ∈ documentsIn (d.perform op).result, ∃ m, (d.spawn m).1 = .ok n := by simp [h]
  cases op with
  | nested s outer =>
    intro n hn
    cases hnested : (d.nested s outer).1 with
    | error f => simp [Document.perform, hnested, documentsIn, Except.map] at hn
    | ok ns =>
      have hmem : n ∈ ns := by simpa [Document.perform, hnested, documentsIn, Except.map] using hn
      exact Document.mem_nested hnested n hmem
  | handle h call => exact hnone (h.documentsIn_perform d call)
  | markup => exact hnone rfl
  | close => exact hnone rfl
  | _ => exact hnone (documentsIn_map fun _ => rfl)

theorem Document.epoch_documentsIn (d : Document) (op : Operation) :
    ∀ n ∈ documentsIn (d.perform op).result, n.epoch = 0 := by
  intro n hn
  obtain ⟨m, hspawn⟩ := d.mem_documentsIn op n hn
  exact Opening.epoch_eq_zero hspawn

/-! ## Histories -/

/-- An event raises the epoch of a document by the number of its epochs that it ends. -/
theorem Session.epoch_step {s : Session} {k : Nat} (h : s.documents[k]? = some d) (e : Event) :
    ∃ d', (s.step e).documents[k]? = some d' ∧ d'.epoch = d.epoch + s.ends k e := by
  obtain ⟨hlt, -⟩ := List.getElem?_eq_some_iff.mp h
  cases e with
  | opening o =>
    refine ⟨d, ?_, rfl⟩
    rw [Session.step]
    split
    · rwa [List.getElem?_append_left hlt]
    · exact h
  | on j op =>
    rw [Session.step, Session.ends]
    -- an operation on another document leaves this one in its place
    by_cases hjk : j = k
    · subst hjk
      rw [h, if_pos rfl]
      refine ⟨(d.perform op).document, ?_, d.epoch_perform op⟩
      dsimp only
      rw [List.getElem?_append_left (by simpa using hlt), List.getElem?_set_self hlt]
    · rw [if_neg hjk]
      refine ⟨d, ?_, rfl⟩
      split
      · exact h
      · dsimp only
        rw [List.getElem?_append_left (by simpa using hlt), List.getElem?_set_ne hjk, h]

/-- A document that an event adds is in epoch zero. -/
theorem Session.epoch_step_new {s : Session} {k : Nat} (hnone : s.documents[k]? = none) (e : Event)
    (h : (s.step e).documents[k]? = some d) : d.epoch = 0 := by
  have hlen : s.documents.length ≤ k := List.getElem?_eq_none_iff.mp hnone
  have hnew {ds es : List Document} (hlen : ds.length ≤ k) (hes : ∀ n ∈ es, n.epoch = 0)
      (h : (ds ++ es)[k]? = some d) : d.epoch = 0 := by
    rw [List.getElem?_append_right hlen] at h
    exact hes d (List.mem_of_getElem? h)
  cases e with
  | opening o =>
    rw [Session.step] at h
    split at h
    · next n hopen => exact hnew hlen (by simpa using Opening.epoch_eq_zero hopen) h
    · cases hnone.symm.trans h
  | on j op =>
    rw [Session.step] at h
    split at h
    · cases hnone.symm.trans h
    · next n hn => exact hnew (by simpa using hlen) (n.epoch_documentsIn op) h

/-- Some events later the epoch of a document has gone up by the number of its epochs that they
ended. -/
theorem Session.epoch_run {s : Session} {k : Nat} (h : s.documents[k]? = some d) (es : List Event) :
    ∃ d', (s.run es).documents[k]? = some d' ∧ d'.epoch = d.epoch + s.bumps k es := by
  induction es generalizing s d with
  | nil => exact ⟨d, h, rfl⟩
  | cons e es ih =>
    obtain ⟨d₁, h₁, hepoch₁⟩ := Session.epoch_step h e
    obtain ⟨d', h', hepoch'⟩ := ih h₁
    exact ⟨d', h', by rw [hepoch', hepoch₁, Session.bumps, Nat.add_assoc]⟩

/-- A document that was not there at first has the epoch that the events since then make. -/
theorem Session.epoch_run_new {s : Session} {k : Nat} (hnone : s.documents[k]? = none)
    (es : List Event) (h : (s.run es).documents[k]? = some d) : d.epoch = s.bumps k es := by
  induction es generalizing s with
  | nil => cases hnone.symm.trans h
  | cons e es ih =>
    -- nothing can end an epoch of a document that is not there yet
    have hends : s.ends k e = 0 := by
      cases e with
      | opening o => rfl
      | on j op =>
        rw [Session.ends]
        split <;> simp [hnone]
    rw [Session.bumps, hends, Nat.zero_add]
    cases hstep : (s.step e).documents[k]? with
    | none => exact ih hstep h
    | some d₁ =>
      obtain ⟨d', hd', hepoch⟩ := Session.epoch_run hstep es
      obtain rfl := Option.some.inj (hd'.symm.trans h)
      rw [hepoch, Session.epoch_step_new hnone e hstep, Nat.zero_add]

end MarkupQuery
