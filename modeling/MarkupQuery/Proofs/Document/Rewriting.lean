import MarkupQuery.Proofs.Document.Soundness

/-!
# Rewriting documents

A rewrite that fails leaves its document as it was, unless it fails at the very end: if a tree came
out of it but the namespaces allow no query context, the new root is installed already, while the
context and the epoch are still those of the old tree.
-/

namespace MarkupQuery

open MarkupQuery.Text MarkupQuery.Tree MarkupQuery.Query

variable {d : Document} {p : PatternSource} {replacement : Replacement} {f : Fault}

/-- A failed rewrite leaves its document as it was exactly if no tree came out of it or all
namespaces are usable. In the other case the document has a root that is new to it, and still the
same query context and epoch. -/
theorem Document.Reachable.replace_atomic (hd : d.Reachable)
    (herror : (d.replace p replacement).result = .error f) :
    ((d.replace p replacement).document = d ↔
      d.reparsed p replacement = none ∨ ∀ s ∈ d.namespaces, isUsable s = true) ∧
    ((d.replace p replacement).document ≠ d → ∃ r trees nextId,
      (d.replace p replacement).document = { d with root := some r, trees, nextId } ∧
      r ∉ d.ids) := by
  have hreplaces := d.replaces p replacement
  generalize d.replace p replacement = out at hreplaces herror ⊢
  cases hreplaces with
  | failed f log h => exact ⟨⟨fun _ => .inl h, fun _ => rfl⟩, fun h => absurd rfl h⟩
  | done parsed r spaces log h hspaces => cases herror
  | refused parsed r f log h hspaces =>
    obtain ⟨m, g, rfl, htree⟩ := Document.reparsed_some h
    -- parsing hands out ids from the next free one on, so the new root is not among the old nodes
    have hfresh : r ∉ d.ids := fun hr =>
      Nat.not_lt.mpr (Document.root_parse htree).1 (hd.sound.fresh r hr)
    have hunusable : ¬∀ s ∈ d.namespaces, isUsable s = true := by
      rw [← contextSpaces_ok_iff, hspaces]
      rintro ⟨spaces, hspaces⟩
      cases hspaces
    have htake : d.take (d.parse m)
        = { d with trees := d.trees ++ [g], nextId := (d.parse m).nextId } := by
      rw [Document.take, htree]
    rw [htake, h]
    refine ⟨⟨fun heq => ?_, fun hor => ?_⟩, fun _ => ⟨r, _, _, rfl, hfresh⟩⟩
    · obtain ⟨n, hn, hid⟩ := hd.sound.rooted r (congrArg Document.root heq).symm
      exact absurd (mem_idsAll.mpr ⟨n, hn, Node.mem_ids_of_id? hid⟩) hfresh
    · exact absurd (hor.resolve_left (by simp)) hunusable

/-- A pattern that cannot be read leaves a document with a usable namespace as it was. -/
theorem replace_atomic_unreadable :
    ∃ d f, (Opening.run { markup := .text (codePoints "<r><a>1</a></r>".toList), kind := .int 1
                          namespaces := .dict [(.text "p", .text "urn:x")] }).1 = .ok d ∧
      (d.replace (.text ['(']) (.template ['2'])).result = .error f ∧
      (∀ s ∈ d.namespaces, isUsable s = true) ∧
      (d.replace (.text ['(']) (.template ['2'])).document = d := by
  obtain ⟨d, hopen, htest⟩ : ∃ d,
      (Opening.run { markup := .text (codePoints "<r><a>1</a></r>".toList), kind := .int 1
                     namespaces := .dict [(.text "p", .text "urn:x")] }).1 = .ok d ∧
      (!(d.replace (.text ['(']) (.template ['2'])).result.isOk &&
        d.namespaces.all isUsable) = true :=
    Opening.exists_of_gives (by decide +kernel)
  rw [Bool.and_eq_true, List.all_eq_true] at htest
  cases herror : (d.replace (.text ['(']) (.template ['2'])).result with
  | ok u => simp [herror, Except.isOk, Except.toBool] at htest
  | error f =>
    have hatomic := (Document.Reachable.opened hopen).replace_atomic herror
    exact ⟨d, f, hopen, herror, htest.2, hatomic.1.mpr (.inr htest.2)⟩

/-- After a prefix was registered for the empty namespace, a rewrite fails and yet changes the
markup, while the epoch and the query context stay. -/
theorem replace_changes_markup :
    Opening.gives { markup := .text (codePoints "<r><a>1</a></r>".toList), kind := .int 1 } (fun d =>
      let poisoned := (d.registerNamespace (.text "p") (.text "")).document
      let out := poisoned.replace (.text ['1']) (.template ['2'])
      poisoned.markup == "<r><a>1</a></r>".toList && !out.result.isOk &&
        out.document.markup == "<r><a>2</a></r>".toList &&
        out.document.epoch == poisoned.epoch &&
        out.document.context == poisoned.context) = true := by
  decide +kernel

end MarkupQuery
