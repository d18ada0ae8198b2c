import MarkupQuery.Proofs.Document.Remarks
import MarkupQuery.Proofs.Pairs

/-!
# Pairing keys and values

Two selections below a common one are paired in order. If they are not equally many, the pairing fails and
tells both numbers; otherwise every key is kept once, where it comes first, with the value that stands where
it comes last (`Document.keyValue_pairs`).
-/

namespace MarkupQuery

open MarkupQuery.Text MarkupQuery.Tree MarkupQuery.Query

/-! ## Pairs of texts -/

theorem putPair_eq_putKey (key value : Chars) (es : List (Chars × Chars)) :
    putPair key value es = putKey key value es := by
  induction es with
  | nil => rfl
  | cons e es ih => rw [putPair, putKey, ih]

theorem pairUp_eq_ofPairs (ks vs : List Chars) : pairUp ks vs = ofPairs (ks.zip vs) := by
  simp only [pairUp, ofPairs, putPair_eq_putKey]

/-- Every key is kept once, where it comes first. -/
theorem map_fst_pairUp {ks vs : List Chars} (h : ks.length = vs.length) :
    (pairUp ks vs).map Prod.fst = ks.eraseDups := by
  rw [pairUp_eq_ofPairs, map_fst_ofPairs, List.map_fst_zip (Nat.le_of_eq h)]

/-- A key has the value that stands where it comes last. -/
theorem lookup_pairUp {ks vs : List Chars} {j : Nat} (hk : j < ks.length) (hv : j < vs.length)
    (hlast : ∀ i (hi : i < ks.length), j < i → ks[i] ≠ ks[j]) : (pairUp ks vs).lookup ks[j] = some vs[j] := by
  have hj : j < (ks.zip vs).length := by
    rw [List.length_zip]
    omega
  have hpair : (ks.zip vs)[j] = (ks[j], vs[j]) := List.getElem_zip
  -- the pairs are cut at the one whose key does not come again
  have hcut : ks.zip vs = (ks.zip vs).take j ++ (ks[j], vs[j]) :: (ks.zip vs).drop (j + 1) := by
    rw [← hpair, List.getElem_cons_drop, List.take_append_drop]
  have hafter : ∀ q ∈ (ks.zip vs).drop (j + 1), q.1 ≠ (ks[j], vs[j]).1 := by
    intro q hq
    obtain ⟨i, hi, rfl⟩ := List.getElem_of_mem hq
    rw [List.length_drop, List.length_zip] at hi
    rw [List.getElem_drop, List.getElem_zip]
    exact hlast (j + 1 + i) (by omega) (by omega)
  rw [pairUp_eq_ofPairs, hcut]
  exact lookup_ofPairs_of_last hafter

/-! ## Selections -/

/-- The texts of a selection are those of what its selector finds. -/
theorem Document.find_of_value {d : Document} {selector : String} {texts : List Chars}
    (h : d.value selector = .ok texts) : ∃ found, d.find selector = .ok found ∧ found.map Found.text = texts := by
  rw [Document.value] at h
  cases hfind : d.find selector with
  | error f =>
    rw [hfind] at h
    cases h
  | ok found =>
    rw [hfind] at h
    exact ⟨found, rfl, Except.ok.inj h⟩

/-- Equally many keys and values are paired up; otherwise both numbers are told. -/
theorem Document.keyValue_eq {d : Document} {base key value : String} {ks vs : List Chars}
    (hks : d.value (base ++ key) = .ok ks) (hvs : d.value (base ++ value) = .ok vs) :
    d.keyValue base key value =
      if ks.length = vs.length then .ok (pairUp ks vs) else .error (.unpaired ks.length vs.length) := by
  obtain ⟨keys, hkeys, rfl⟩ := Document.find_of_value hks
  obtain ⟨values, hvalues, rfl⟩ := Document.find_of_value hvs
  have hpaired : d.keyValue base key value =
      if keys.length != values.length then .error (.unpaired keys.length values.length)
      else .ok (pairUp (keys.map Found.text) (values.map Found.text)) := by
    rw [Document.keyValue, hkeys, hvalues]
    rfl
  rw [hpaired, List.length_map, List.length_map]
  by_cases hlength : keys.length = values.length
  · rw [if_pos hlength, if_neg (by simpa using hlength)]
  · rw [if_neg hlength, if_pos (by simpa using hlength)]

/-- **What pairing gives.** It fails, telling how many keys and values there are, if and only if these are not
equally many. Otherwise the keys are those that were found, each once and where it comes first, and every key
has the value that stands where the key comes last. -/
theorem Document.keyValue_pairs (d : Document) {base key value : String} {ks vs : List Chars}
    (hks : d.value (base ++ key) = .ok ks) (hvs : d.value (base ++ value) = .ok vs) :
    (d.keyValue base key value = .error (.unpaired ks.length vs.length) ↔ ks.length ≠ vs.length) ∧
    (ks.length = vs.length →
      ∃ pairs, d.keyValue base key value = .ok pairs ∧ pairs.map Prod.fst = ks.eraseDups ∧
        ∀ j (hk : j < ks.length) (hv : j < vs.length),
          (∀ i (hi : i < ks.length), j < i → ks[i] ≠ ks[j]) → pairs.lookup ks[j] = some vs[j]) := by
  rw [Document.keyValue_eq hks hvs]
  by_cases hlength : ks.length = vs.length
  · rw [if_pos hlength]
    refine ⟨by simp [hlength], fun _ => ⟨pairUp ks vs, rfl, map_fst_pairUp hlength, ?_⟩⟩
    intro j hk hv hlast
    exact lookup_pairUp hk hv hlast
  · rw [if_neg hlength]
    exact ⟨by simp [hlength], fun h => absurd h hlength⟩

/-- Comments as keys of instructions: one that comes twice keeps its first place and takes its last value. -/
theorem keyValue_pairs_repeated :
    ∃ d pairs,
      (Opening.run { markup := .text (codePoints "<r><!--a--><?p 1?><!--b--><?p 2?><!--a--><?p 3?></r>".toList)
                     kind := .int 1 }).1 = .ok d ∧
      d.value ("//" ++ "comment()") = .ok [['a'], ['b'], ['a']] ∧
      d.value ("//" ++ "processing-instruction()") = .ok [['1'], ['2'], ['3']] ∧
      d.keyValue "//" "comment()" "processing-instruction()" = .ok pairs ∧
      pairs.map Prod.fst = [['a'], ['b']] ∧ pairs.lookup ['a'] = some ['3'] ∧ pairs.lookup ['b'] = some ['2'] := by
  obtain ⟨d, hopen, htest⟩ : ∃ d, (Opening.run
      { markup := .text (codePoints "<r><!--a--><?p 1?><!--b--><?p 2?><!--a--><?p 3?></r>".toList)
        kind := .int 1 }).1 = .ok d ∧
      (d.findsRemarks .comment [['a'], ['b'], ['a']] &&
        d.findsRemarks .instruction [['1'], ['2'], ['3']]) = true := Opening.exists_of_gives (by decide +kernel)
  rw [Bool.and_eq_true] at htest
  have hks : d.value ("//" ++ "comment()") = .ok [['a'], ['b'], ['a']] := Document.value_of_findsRemarks htest.1
  have hvs : d.value ("//" ++ "processing-instruction()") = .ok [['1'], ['2'], ['3']] :=
    Document.value_of_findsRemarks htest.2
  obtain ⟨pairs, hpairs, hkeys, hlast⟩ := (d.keyValue_pairs hks hvs).2 rfl
  exact ⟨d, pairs, hopen, hks, hvs, hpairs, hkeys, hlast 2 (by decide) (by decide) (by decide),
    hlast 1 (by decide) (by decide) (by decide)⟩

end MarkupQuery
