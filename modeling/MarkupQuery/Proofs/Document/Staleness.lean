import MarkupQuery.Proofs.Document.Session

/-!
# Stale handles

A handle is stale exactly if its document was closed, or rewritten with success, since it was taken,
whatever else happened; from then on it stays stale. Nothing can be asked of a stale handle, and
asking changes nothing. A handle that is not stale is never refused for being stale.
-/

namespace MarkupQuery

open MarkupQuery.Text MarkupQuery.Tree MarkupQuery.Query

variable {d : Document} {h : Handle}

/-! ## Asking handles -/

/-- A stale handle refuses everything, and asking it changes nothing. -/
theorem Handle.perform_of_isStale (hstale : h.isStale d = true) (call : HandleCall) :
    h.perform d call = ⟨.error (.stale h.epoch d.epoch), d, []⟩ := by
  have hfound : h.found d = .error (.stale h.epoch d.epoch) := by rw [Handle.found, if_pos hstale]
  cases call with
  | node => rw [Handle.perform, hfound]; rfl
  | tag => rw [Handle.perform, Handle.tag, hfound]; rfl
  | get name => rw [Handle.perform, Handle.get, hfound]; rfl
  | text => rw [Handle.perform, Handle.text, hfound]; rfl
  | inner => rw [Handle.perform, Handle.inner, hfound]; rfl
  | outer => rw [Handle.perform, Handle.outer, hfound]; rfl
  | remove => rw [Handle.perform, Handle.remove, if_pos hstale]; rfl

/-- Attributes can be asked for wherever something is found. -/
theorem Handle.get_of_found {f : Found} (hfound : h.found d = .ok f) (name : Chars) :
    ∃ a, h.get d name = .ok a := by
  rw [Handle.get, hfound]
  cases f with
  | scalar s => exact ⟨_, rfl⟩
  | spot s =>
    obtain ⟨target, offsets, above⟩ := s
    cases target <;> exact ⟨_, rfl⟩

/-- A handle that is not stale is not refused for being stale. -/
theorem Handle.perform_of_not_isStale (hlive : h.isStale d = false) (call : HandleCall)
    (taken current : Nat) : (h.perform d call).result ≠ .error (.stale taken current) := by
  obtain ⟨f, hfound⟩ : ∃ f, h.found d = .ok f := ⟨_, by rw [Handle.found, hlive]; rfl⟩
  have hok {α : Type} {x : Except Fault α} {a : α} (hx : x = .ok a) (g : α → Answer) :
      x.map g ≠ .error (.stale taken current) := by
    rw [hx]
    intro heq
    cases heq
  cases call with
  | node => exact hok hfound .node
  | tag => exact hok (x := h.tag d) (by rw [Handle.tag, hfound]; rfl) .name
  | get name => exact hok (Handle.get_of_found hfound name).choose_spec .name
  | text => exact hok (x := h.text d) (by rw [Handle.text, hfound]; rfl) .text
  | inner => exact hok (x := h.inner d) (by rw [Handle.inner, hfound]; rfl) .text
  | outer => exact hok (x := h.outer d) (by rw [Handle.outer, hfound]; rfl) .text
  | remove =>
    rw [Handle.perform, Handle.remove, hlive, if_neg (by simp)]
    obtain ⟨trees, hdetach | hdetach | hdetach⟩ := d.detach_cases h.selected <;>
      rw [Outcome.map, hdetach] <;> intro heq <;> cases heq

/-! ## Histories -/

/-- Asking a stale handle leaves a session as it is. -/
theorem Session.step_of_isStale {s : Session} {k : Nat} (hd : s.documents[k]? = some d)
    (hstale : h.isStale d = true) (call : HandleCall) : s.step (.on k (.handle h call)) = s := by
  rw [Session.step, hd]
  dsimp only
  rw [Document.perform, Handle.perform_of_isStale hstale]
  obtain ⟨hlt, hget⟩ := List.getElem?_eq_some_iff.mp hd
  simp [documentsIn, ← hget]

theorem Document.epoch_of_mem_elements {selector : String} {hs : List Handle}
    (helements : d.elements selector = .ok hs) (hh : h ∈ hs) : h.epoch = d.epoch := by
  obtain ⟨found, -, hmap⟩ := bind_eq_ok.mp helements
  obtain rfl := Except.ok.inj hmap
  obtain ⟨f, -, rfl⟩ := List.mem_map.mp hh
  rfl

theorem Handle.isStale_iff (h : Handle) (d : Document) :
    h.isStale d = true ↔ d.epoch ≠ h.epoch := by
  rw [Handle.isStale, bne_iff_ne]

/-- In every session: the epoch of a document counts how often it was closed or rewritten with
success; a handle taken from it is stale later on exactly if that happened in between, and stays
stale; a stale handle refuses everything and asking it changes nothing; any other is never refused
for being stale. -/
theorem Session.staleness_exact (before between after : List Event) {k : Nat}
    (hd : (Session.empty.run before).documents[k]? = some d) {selector : String} {hs : List Handle}
    (helements : d.elements selector = .ok hs) (hh : h ∈ hs) :
    d.epoch = Session.empty.bumps k before ∧
    ∃ d' d'', ((Session.empty.run before).run between).documents[k]? = some d' ∧
      (((Session.empty.run before).run between).run after).documents[k]? = some d'' ∧
      (h.isStale d' = true ↔ 0 < (Session.empty.run before).bumps k between) ∧
      (h.isStale d' = true → h.isStale d'' = true) ∧
      (h.isStale d' = true → ∀ call,
        h.perform d' call = ⟨.error (.stale h.epoch d'.epoch), d', []⟩ ∧
        ((Session.empty.run before).run between).step (.on k (.handle h call))
          = (Session.empty.run before).run between) ∧
      (h.isStale d' = false → ∀ call taken current,
        (h.perform d' call).result ≠ .error (.stale taken current)) := by
  have hepoch := Document.epoch_of_mem_elements helements hh
  obtain ⟨d', hd', hbetween⟩ := Session.epoch_run hd between
  obtain ⟨d'', hd'', hafter⟩ := Session.epoch_run hd' after
  refine ⟨Session.epoch_run_new rfl before hd, d', d'', hd', hd'', ?_, ?_, ?_, ?_⟩
  · rw [h.isStale_iff, hepoch, hbetween]
    omega
  · rw [h.isStale_iff, h.isStale_iff]
    omega
  · exact fun hstale call => ⟨Handle.perform_of_isStale hstale call,
      Session.step_of_isStale hd' hstale call⟩
  · exact fun hlive call taken current => Handle.perform_of_not_isStale hlive call taken current

/-- The handle of the root goes stale when another document is opened, and then the handle's own is
closed. -/
theorem staleness_exact_closed :
    ∃ d h d', (Opening.run { markup := .text (codePoints "<r/>".toList), kind := .int 1 }).1 = .ok d ∧
      d.elements "/" = .ok [h] ∧
      ((Session.empty.run [
        .opening { markup := .text (codePoints "<r/>".toList), kind := .int 1 }]).run [
        .opening { markup := .text (codePoints "<s/>".toList), kind := .int 1 },
        .on 0 .close]).documents[0]? = some d' ∧
      h.isStale d' = true := by
  obtain ⟨d, hopen, htest⟩ : ∃ d,
      (Opening.run { markup := .text (codePoints "<r/>".toList), kind := .int 1 }).1 = .ok d ∧
      ((d.elements "/").toOption.any fun hs => hs.length == 1) = true :=
    Opening.exists_of_gives (by decide +kernel)
  obtain ⟨h, helements⟩ : ∃ h, d.elements "/" = .ok [h] := by
    cases helements : d.elements "/" with
    | error f => simp [helements, Except.toOption] at htest
    | ok hs =>
      rw [helements, Except.toOption, Option.any_some, beq_iff_eq, List.length_eq_one_iff] at htest
      obtain ⟨h, rfl⟩ := htest
      exact ⟨h, rfl⟩
  have hd : (Session.empty.run [
      .opening { markup := .text (codePoints "<r/>".toList), kind := .int 1 }]).documents[0]? = some d := by
    rw [Session.run_cons, Session.step, hopen]
    rfl
  obtain ⟨-, d', -, hd', -, hstale, -⟩ := Session.staleness_exact
    [.opening { markup := .text (codePoints "<r/>".toList), kind := .int 1 }]
    [.opening { markup := .text (codePoints "<s/>".toList), kind := .int 1 }, .on 0 .close] []
    hd helements (List.mem_singleton_self h)
  exact ⟨d, h, d', hopen, helements, hd', hstale.mpr (by decide +kernel)⟩

end MarkupQuery
