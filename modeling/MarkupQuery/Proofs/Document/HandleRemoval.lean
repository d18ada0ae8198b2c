import MarkupQuery.Proofs.Document.Staleness

/-!
# Removing through handles

The handles of all that a selector finds can be asked one after the other to remove what they name. Only
a new tree ends an epoch, and removing makes none, not even where it comes to the root: so no handle is
stale when its turn comes, and the document ends up as if all had been removed by the selector
(`Document.removeEach_elements`).
-/

namespace MarkupQuery

open MarkupQuery.Text MarkupQuery.Tree MarkupQuery.Query

/-- Removes what handles name, one after the other, up to the first failure. -/
def Document.removeEach (d : Document) : List Handle → Outcome Unit
  | [] => ⟨.ok (), d, []⟩
  | h :: hs =>
      let out := h.remove d
      match out.result with
      | .ok _ => out.document.removeEach hs
      | .error f => ⟨.error f, out.document, []⟩

/-- Asking handles one after the other to remove what they name, as operations. -/
def removals (hs : List Handle) : List Operation := hs.map fun h => .handle h .remove

variable {d : Document} {h : Handle} {hs : List Handle}

/-! ## One handle -/

theorem Document.epoch_detach (d : Document) (s : Selected) : (d.detach s).document.epoch = d.epoch := by
  obtain ⟨trees, h | h⟩ := d.detach_document s <;> rw [h]

theorem Handle.remove_of_epoch (h : Handle) (hepoch : h.epoch = d.epoch) :
    h.remove d = d.detach h.selected := by
  have hlive : h.isStale d = false := by
    rw [Handle.isStale, hepoch, bne_self_eq_false]
  rw [Handle.remove, hlive, if_neg Bool.false_ne_true]

/-! ## All handles -/

/-- Handles of the present epoch remove what they name as if it were named directly. -/
theorem Document.removeEach_of_epoch (hepoch : ∀ h ∈ hs, h.epoch = d.epoch) :
    d.removeEach hs = d.detachAll (hs.map Handle.selected) := by
  -- a step may empty the document, but the epoch of the handles after it goes on
  induction hs generalizing d with
  | nil => rfl
  | cons h hs ih =>
    obtain ⟨hh, hhs⟩ := List.forall_mem_cons.mp hepoch
    rw [Document.removeEach, List.map_cons, Document.detachAll, h.remove_of_epoch hh]
    cases hstep : (d.detach h.selected).result with
    | ok _ => exact ih fun k hk => (hhs k hk).trans (d.epoch_detach h.selected).symm
    | error f => rfl

theorem Document.epoch_removeEach (hepoch : ∀ h ∈ hs, h.epoch = d.epoch) :
    (d.removeEach hs).document.epoch = d.epoch := by
  rw [Document.removeEach_of_epoch hepoch]
  obtain ⟨trees, h | h⟩ := d.detachAll_document (hs.map Handle.selected) <;> rw [h]

theorem Document.epoch_run_removals (d : Document) (hs : List Handle) :
    (d.run (removals hs)).epoch = d.epoch := by
  induction hs generalizing d with
  | nil => rfl
  | cons h hs ih =>
    have hstep : ((d.perform (.handle h .remove)).document).epoch = d.epoch := by
      show (h.remove d).document.epoch = d.epoch
      rw [Handle.remove]
      split
      · rfl
      · exact d.epoch_detach h.selected
    exact (ih _).trans hstep

/-- Where nothing fails it does not matter whether one would go on after a failure. -/
theorem Document.run_removals (hok : (d.removeEach hs).result = .ok ()) :
    d.run (removals hs) = (d.removeEach hs).document := by
  induction hs generalizing d with
  | nil => rfl
  | cons h hs ih =>
    rw [Document.removeEach] at hok ⊢
    show ((h.remove d).document).run (removals hs) = _
    split at hok
    · exact ih hok
    · cases hok

theorem Handle.remove_not_stale (h : Handle) (hepoch : h.epoch = d.epoch) (taken current : Nat) :
    (h.remove d).result ≠ .error (.stale taken current) := by
  rw [h.remove_of_epoch hepoch]
  obtain ⟨trees, hdetach | hdetach | hdetach⟩ := d.detach_cases h.selected <;> rw [hdetach] <;> nofun

/-- Removing through the handles of all that a selector finds gives the same result and leaves the same
document as removing by the selector. No handle is refused for being stale when its turn comes, whether
one stops at the first failure or goes on after it; without failures going on makes no difference. -/
theorem Document.removeEach_elements (d : Document) {selector : String} {found : List Found}
    (hfind : d.find selector = .ok found) :
    ∃ hs, d.elements selector = .ok hs ∧
      (d.removeEach hs).result = (d.remove selector).result ∧
      (d.removeEach hs).document = (d.remove selector).document ∧
      (∀ before h after, hs = before ++ h :: after → ∀ taken current,
        (h.remove (d.removeEach before).document).result ≠ .error (.stale taken current) ∧
        (h.remove (d.run (removals before))).result ≠ .error (.stale taken current)) ∧
      ((d.remove selector).result = .ok () →
        d.run (removals hs) = (d.remove selector).document) := by
  have helements : d.elements selector = .ok (found.map fun f => ⟨f.name, d.epoch, f.shown⟩) := by
    rw [Document.elements, hfind]
    rfl
  refine ⟨_, helements, ?_⟩
  have hepoch := fun h hh => Document.epoch_of_mem_elements (h := h) helements hh
  have hselected : (found.map fun f => (⟨f.name, d.epoch, f.shown⟩ : Handle)).map Handle.selected
      = found.map Found.name := by
    rw [List.map_map]
    rfl
  obtain ⟨hresult, hdocument⟩ := Document.remove_of_find hfind
  have heach := Document.removeEach_of_epoch hepoch
  rw [hselected] at heach
  rw [hresult, hdocument, ← heach]
  refine ⟨rfl, rfl, fun before h after hsplit taken current => ?_, Document.run_removals⟩
  have hh : h.epoch = d.epoch := hepoch h (by rw [hsplit]; simp)
  have hbefore : ∀ k ∈ before, k.epoch = d.epoch := fun k hk => hepoch k (by rw [hsplit]; simp [hk])
  exact ⟨h.remove_not_stale (hh.trans (Document.epoch_removeEach hbefore).symm) taken current,
    h.remove_not_stale (hh.trans (d.epoch_run_removals before).symm) taken current⟩

/-- The handle of the root empties the document, as removing the root by the selector does. -/
theorem removeEach_elements_root :
    ∃ d found hs,
      (Opening.run { markup := .text (codePoints "<r>1<a/>2</r>".toList), kind := .int 1 }).1 = .ok d ∧
      d.find "/" = .ok found ∧ d.elements "/" = .ok hs ∧ hs.length = 1 ∧
      (d.removeEach hs).document = (d.remove "/").document ∧ (d.remove "/").document.isEmpty = true := by
  obtain ⟨d, hopen, htest⟩ : ∃ d,
      (Opening.run { markup := .text (codePoints "<r>1<a/>2</r>".toList), kind := .int 1 }).1 = .ok d ∧
      ((d.find "/").toOption.any fun found => found.length == 1 && (d.remove "/").document.isEmpty) = true :=
    Opening.exists_of_gives (by decide +kernel)
  obtain ⟨found, hfound, htest⟩ := (Option.any_eq_true ..).mp htest
  rw [Bool.and_eq_true, beq_iff_eq] at htest
  have hfind : d.find "/" = .ok found := by
    cases h : d.find "/" with
    | error f => rw [h] at hfound; cases hfound
    | ok fs => rw [h] at hfound; exact congrArg _ (Option.some.inj hfound)
  obtain ⟨hs, helements, -, hdocument, -⟩ := d.removeEach_elements hfind
  have hlength : hs.length = found.length := by
    rw [Document.elements, hfind] at helements
    obtain rfl := Except.ok.inj helements
    exact List.length_map _
  exact ⟨d, found, hs, hopen, hfind, helements, hlength.trans htest.1, hdocument, htest.2⟩

end MarkupQuery
