import MarkupQuery.Proofs.Document.Coherence
import MarkupQuery.Proofs.Document.Session

/-!
# Isolated documents

The documents of a session share nothing. Whatever happens to the other documents, a document ends up
as if only what was asked of it had happened, in the same order, and every outcome of it is the same
(`Session.run_isolated`). This holds of nested documents too, of the document that they were taken
from and of each other, since all of them are documents of the session from the moment on that they
were made.

A nested document starts out with the kind, the options, the translator and the namespaces of the
document that it was taken from (`Document.settings_spawn`).
-/

namespace MarkupQuery

open MarkupQuery.Text MarkupQuery.Tree MarkupQuery.Query

variable {d : Document} {s : Session}

/-! ## What concerns one document -/

/-- What an event asks of a document. -/
def Event.operation? (k : Nat) : Event → Option Operation
  | .opening _ => none
  | .on j op => if j = k then some op else none

/-- What some events ask of a document, in order. -/
def operationsOn (k : Nat) (es : List Event) : List Operation := es.filterMap (Event.operation? k)

/-- The outcomes of some operations, carried out one after the other. -/
def Document.outcomes (d : Document) : List Operation → List (Outcome Answer)
  | [] => []
  | op :: ops => d.perform op :: (d.perform op).document.outcomes ops

/-- The outcomes of what some events ask of a document. -/
def Session.outcomesOn (s : Session) (k : Nat) : List Event → List (Outcome Answer)
  | [] => []
  | e :: es =>
      let now := match s.documents[k]?, e.operation? k with
        | some d, some op => [d.perform op]
        | _, _ => []
      now ++ (s.step e).outcomesOn k es

theorem Document.run_cons (d : Document) (op : Operation) (ops : List Operation) :
    d.run (op :: ops) = (d.perform op).document.run ops := rfl

theorem operationsOn_cons_none {k : Nat} {e : Event} (h : e.operation? k = none) (es : List Event) :
    operationsOn k (e :: es) = operationsOn k es := List.filterMap_cons_none h

theorem operationsOn_cons_some {k : Nat} {e : Event} {op : Operation}
    (h : e.operation? k = some op) (es : List Event) :
    operationsOn k (e :: es) = op :: operationsOn k es := List.filterMap_cons_some h

/-! ## Events -/

/-- An event that asks nothing of a document leaves it as it is. -/
theorem Session.getElem?_step_of_none {k : Nat} (hd : s.documents[k]? = some d) {e : Event}
    (he : e.operation? k = none) : (s.step e).documents[k]? = some d := by
  obtain ⟨hlt, -⟩ := List.getElem?_eq_some_iff.mp hd
  cases e with
  | opening o =>
    rw [Session.step]
    split
    · rw [List.getElem?_append_left hlt, hd]
    · exact hd
  | on j op =>
    have hjk : j ≠ k := by
      intro hjk
      rw [Event.operation?, if_pos hjk] at he
      cases he
    rw [Session.step]
    split
    · exact hd
    · dsimp only
      rw [List.getElem?_append_left (by simpa using hlt), List.getElem?_set_ne hjk, hd]

/-- An event that asks something of a document carries it out on that document. -/
theorem Session.getElem?_step_of_some {k : Nat} (hd : s.documents[k]? = some d) {e : Event}
    {op : Operation} (he : e.operation? k = some op) :
    (s.step e).documents[k]? = some (d.perform op).document := by
  obtain ⟨hlt, -⟩ := List.getElem?_eq_some_iff.mp hd
  cases e with
  | opening o => cases he
  | on j op' =>
    rw [Event.operation?] at he
    split at he
    · next hjk =>
      obtain rfl := Option.some.inj he
      subst hjk
      rw [Session.step, hd]
      dsimp only
      rw [List.getElem?_append_left (by simpa using hlt), List.getElem?_set_self hlt]
    · cases he

/-- After some events a document is what its own operations make of it, and they had the outcomes
that they have without the others. -/
theorem Session.run_isolated {k : Nat} (hd : s.documents[k]? = some d) (es : List Event) :
    (s.run es).documents[k]? = some (d.run (operationsOn k es)) ∧
      s.outcomesOn k es = d.outcomes (operationsOn k es) := by
  induction es generalizing s d with
  | nil => exact ⟨hd, rfl⟩
  | cons e es ih =>
    rw [Session.run_cons, Session.outcomesOn, hd]
    cases he : e.operation? k with
    | none =>
      obtain ⟨hrun, houtcomes⟩ := ih (Session.getElem?_step_of_none hd he)
      rw [operationsOn_cons_none he]
      exact ⟨hrun, houtcomes⟩
    | some op =>
      obtain ⟨hrun, houtcomes⟩ := ih (Session.getElem?_step_of_some hd he)
      rw [operationsOn_cons_some he, Document.run_cons, Document.outcomes, ← houtcomes]
      exact ⟨hrun, rfl⟩

/-! ## Settings of nested documents -/

theorem Options.kept_nonneg (o : Int) : (0 : Int) ≤ Options.kept o := by
  rw [Options.kept]
  split
  · split
    · show (0 : Int) ≤ 128 + o
      omega
    · show (0 : Int) ≤ o
      omega
  · -- the power of two is greater than the number that it is the complement of
    have hlt : o.natAbs < Nat.pow 2 (o.natAbs.log2 + 1) := Nat.lt_log2_self
    show (0 : Int) ≤ (Nat.pow 2 (o.natAbs.log2 + 1) : Nat) + o
    omega

/-- Keeping options twice is keeping them once. -/
theorem Options.kept_kept (o : Int) : Options.kept (Options.kept o) = Options.kept o := by
  have hnonneg := Options.kept_nonneg o
  have hlow : (-128 : Int) ≤ Options.kept o := le_trans (by decide) hnonneg
  conv_lhs => rw [Options.kept, if_pos hlow, if_neg (not_lt.mpr hnonneg)]

theorem Kind.ofDatum_name (k : Kind) : Kind.ofDatum (.text k.name) = .ok k := by
  cases k <;> rfl

theorem Document.fixed_take (d : Document) (p : Parsed) :
    (d.take p).kind = d.kind ∧ (d.take p).options = d.options := by
  rw [Document.take]
  split <;> exact ⟨rfl, rfl⟩

/-- No operation changes the kind or the options of a document. -/
theorem Document.fixed_perform (d : Document) (op : Operation) :
    (d.perform op).document.kind = d.kind ∧ (d.perform op).document.options = d.options := by
  have hchanges := d.perform_changes op
  generalize (d.perform op).document = d' at hchanges
  cases hchanges with
  | same => exact ⟨rfl, rfl⟩
  | translated => exact ⟨rfl, rfl⟩
  | registered label name out h => cases h <;> exact ⟨rfl, rfl⟩
  | removed s ss => obtain ⟨trees, h | h⟩ := d.detachAll_document ss <;> rw [h] <;> exact ⟨rfl, rfl⟩
  | detached h => obtain ⟨trees, h | h⟩ := d.detach_document h.selected <;> rw [h] <;> exact ⟨rfl, rfl⟩
  | replaced p r out hout h =>
    cases h with
    | failed => exact ⟨rfl, rfl⟩
    | done parsed => exact d.fixed_take parsed
    | refused parsed => exact d.fixed_take parsed
  | closed => exact ⟨rfl, rfl⟩

/-- An opened document has the settings that it was opened with. -/
theorem Opening.settings {o : Opening} (h : o.run.1 = .ok d) :
    Kind.ofDatum o.kind = .ok d.kind ∧ Options.ofDatum o.options = .ok d.options ∧
      (o.translator.getD (.translator .path)).resolve = .ok d.translator := by
  obtain ⟨d₀, m, hsettle, hinstalls⟩ := Opening.run_ok h
  obtain ⟨hkind, hoptions, htranslator, -, -⟩ := Opening.settles_of_settle hsettle
  have hfixed := d₀.fixed_take (d₀.parse m)
  rw [← hfixed.1] at hkind
  rw [← hfixed.2] at hoptions
  rw [← d₀.translator_take (d₀.parse m)] at htranslator
  generalize (d₀.parse m).tree.map (·.2) = root at hinstalls
  cases hinstalls <;> exact ⟨hkind, hoptions, htranslator⟩

theorem Document.Reachable.options_kept (h : d.Reachable) : Options.kept d.options = d.options := by
  induction h with
  | @opened o d h =>
    obtain ⟨-, hoptions, -⟩ := Opening.settings h
    cases hgiven : o.options with
    | int i =>
      rw [hgiven] at hoptions
      rw [← Except.ok.inj hoptions, Options.kept_kept]
    | _ =>
      rw [hgiven] at hoptions
      cases hoptions
  | @step d h op ih => rw [(d.fixed_perform op).2, ih]

/-- A nested document has the settings of the document that it was taken from. -/
theorem Document.Reachable.settings_spawn (hd : d.Reachable) {markup : Chars} {n : Document}
    (h : (d.spawn markup).1 = .ok n) :
    n.kind = d.kind ∧ n.options = d.options ∧ n.translator = d.translator ∧
      n.namespaces = d.namespaces ∧ n.epoch = 0 := by
  obtain ⟨hkind, hoptions, htranslator⟩ := Opening.settings h
  refine ⟨?_, ?_, ?_, Document.namespaces_spawn h, Opening.epoch_eq_zero h⟩
  · exact (Except.ok.inj ((Kind.ofDatum_name d.kind).symm.trans hkind)).symm
  · rw [Options.ofDatum, hd.options_kept] at hoptions
    exact (Except.ok.inj hoptions).symm
  · exact (Except.ok.inj htranslator).symm

/-! ## Sessions -/

/-- Every document of a session that started without any is reachable. -/
theorem Session.reachable_run (es : List Event) :
    ∀ d ∈ (Session.empty.run es).documents, d.Reachable := by
  suffices hrun : ∀ s : Session, (∀ d ∈ s.documents, d.Reachable) →
      ∀ d ∈ (s.run es).documents, d.Reachable from hrun _ (by simp [Session.empty])
  induction es with
  | nil => exact fun s hs => hs
  | cons e es ih =>
    intro s hs
    refine ih (s.step e) fun d hd => ?_
    cases e with
    | opening o =>
      rw [Session.step] at hd
      split at hd
      · next n hopen =>
        rcases List.mem_append.mp hd with hd | hd
        · exact hs d hd
        · exact List.mem_singleton.mp hd ▸ .opened hopen
      · exact hs d hd
    | on k op =>
      rw [Session.step] at hd
      split at hd
      · exact hs d hd
      · next p hp =>
        rcases List.mem_append.mp hd with hd | hd
        · rcases List.mem_or_eq_of_mem_set hd with hd | rfl
          · exact hs d hd
          · exact (hs p (List.mem_of_getElem? hp)).step op
        · obtain ⟨m, hspawn⟩ := p.mem_documentsIn op d hd
          exact .opened hspawn

/-- What an operation gives stands after the documents that were there. -/
theorem Session.getElem?_step_nested {j i : Nat} (hd : s.documents[j]? = some d) {selector : String}
    {outer : Bool} {ns : List Document} (hnested : (d.nested selector outer).1 = .ok ns)
    {n : Document} (hn : ns[i]? = some n) :
    (s.step (.on j (.nested selector outer))).documents[s.documents.length + i]? = some n := by
  have hresult : (d.perform (.nested selector outer)).result = .ok (.documents ns) := by
    rw [Document.perform, hnested]
    rfl
  rw [Session.step, hd]
  dsimp only
  rw [hresult, List.getElem?_append_right (by simp)]
  simpa [documentsIn] using hn

/-- What happens around a nested document: it loses nodes and is rewritten, while another one is
nested in it, and the outer document is closed. -/
def interleavedEvents : List Event :=
  [.on 1 (.remove "//b"), .on 0 (.remove "//a"), .on 1 (.nested "/" true), .on 0 .close,
    .on 2 .close, .on 1 (.replace (.text ['1']) (.template ['3'])), .on 1 (.value "/root")]

end MarkupQuery
