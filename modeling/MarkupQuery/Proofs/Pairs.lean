import Mathlib.Data.List.Induction
import Mathlib.Data.List.Nodup
import MarkupQuery.Field

/-!
# Pairs by key

Pairs that are put under their keys one after the other leave every key once, in the order in which the keys
come first (`map_fst_ofPairs`), and under each key the value that came last (`lookup_ofPairs_of_last`). Pairs
whose keys differ stay as they are (`ofPairs_eq_self`).
-/

namespace MarkupQuery

variable {α β : Type} [BEq α]

/-! ## One pair -/

/-- A new key goes last, and an old one stays in its place. -/
theorem map_fst_putKey [LawfulBEq α] (key : α) (value : β) (es : List (α × β)) :
    (putKey key value es).map Prod.fst =
      if key ∈ es.map Prod.fst then es.map Prod.fst else es.map Prod.fst ++ [key] := by
  induction es with
  | nil => simp [putKey]
  | cons e es ih =>
    obtain ⟨k, v⟩ := e
    rw [putKey]
    by_cases hk : k = key
    · simp [hk]
    · rw [if_neg (by simpa using hk), List.map_cons, List.map_cons, ih]
      simp only [List.mem_cons, Ne.symm hk, false_or]
      split <;> rfl

/-- A pair with a new key goes last. -/
theorem putKey_of_new [LawfulBEq α] {key : α} (value : β) {es : List (α × β)} (h : key ∉ es.map Prod.fst) :
    putKey key value es = es ++ [(key, value)] := by
  induction es with
  | nil => rfl
  | cons e es ih =>
    rw [List.map_cons, List.mem_cons, not_or] at h
    rw [putKey, if_neg (by simpa using Ne.symm h.1), ih h.2]
    rfl

/-- What is there after a pair was put is this pair or was there before. -/
theorem mem_putKey [LawfulBEq α] {key : α} {value : β} {es : List (α × β)} {e : α × β}
    (he : e ∈ putKey key value es) : e = (key, value) ∨ e ∈ es := by
  induction es with
  | nil => exact .inl (List.mem_singleton.mp he)
  | cons d es ih =>
    obtain ⟨k, v⟩ := d
    rw [putKey] at he
    by_cases hk : k = key
    · rw [if_pos (by simpa using hk), List.mem_cons, hk] at he
      exact he.imp_right (List.mem_cons_of_mem _)
    · rw [if_neg (by simpa using hk), List.mem_cons] at he
      obtain rfl | hrest := he
      · exact .inr List.mem_cons_self
      · exact (ih hrest).imp_right (List.mem_cons_of_mem _)

theorem lookup_cons_eq_ite (k : α) (e : α × β) (es : List (α × β)) :
    (e :: es).lookup k = if k == e.1 then some e.2 else es.lookup k := by
  obtain ⟨a, b⟩ := e
  rw [List.lookup_cons]
  cases k == a <;> rfl

/-- The value that was put last is found under its key, and what is under other keys stays. -/
theorem lookup_putKey [LawfulBEq α] (k key : α) (value : β) (es : List (α × β)) :
    (putKey key value es).lookup k = if k == key then some value else es.lookup k := by
  induction es with
  | nil => exact lookup_cons_eq_ite ..
  | cons e es ih =>
    obtain ⟨l, v⟩ := e
    rw [putKey, lookup_cons_eq_ite]
    by_cases hl : l = key
    · subst hl
      rw [if_pos (beq_self_eq_true l), lookup_cons_eq_ite]
      split <;> rfl
    · rw [if_neg (by simpa using hl), lookup_cons_eq_ite, ih]
      by_cases hk : k = l
      · subst hk
        simp [hl]
      · simp [hk]

/-! ## Many pairs -/

theorem ofPairs_concat (ps : List (α × β)) (p : α × β) : ofPairs (ps ++ [p]) = putKey p.1 p.2 (ofPairs ps) := by
  rw [ofPairs, ofPairs, List.foldl_append]
  rfl

/-- The keys are those of the pairs, each where it comes first. -/
theorem map_fst_ofPairs [LawfulBEq α] (ps : List (α × β)) : (ofPairs ps).map Prod.fst = (ps.map Prod.fst).eraseDups := by
  induction ps using List.reverseRecOn with
  | nil => rfl
  | append_singleton ps p ih =>
    rw [ofPairs_concat, map_fst_putKey, ih, List.map_append, List.eraseDups_append]
    -- both sides keep the earlier keys, and take the last one only if it is new
    by_cases hp : p.1 ∈ ps.map Prod.fst
    · rw [if_pos (List.mem_eraseDups.mpr hp)]
      simp [List.removeAll, hp]
    · rw [if_neg (mt List.mem_eraseDups.mp hp)]
      simp [List.removeAll, hp, List.eraseDups_cons]

/-- No key comes twice. -/
theorem nodup_ofPairs [LawfulBEq α] (ps : List (α × β)) : ((ofPairs ps).map Prod.fst).Nodup := by
  induction ps using List.reverseRecOn with
  | nil => exact List.nodup_nil
  | append_singleton ps p ih =>
    rw [ofPairs_concat, map_fst_putKey]
    split
    · exact ih
    · next hnew => exact ih.append (List.nodup_singleton _) (List.disjoint_singleton.mpr hnew)

/-- Pairs with different keys stay as they are. -/
theorem ofPairs_eq_self [LawfulBEq α] {ps : List (α × β)} (h : (ps.map Prod.fst).Nodup) : ofPairs ps = ps := by
  induction ps using List.reverseRecOn with
  | nil => rfl
  | append_singleton ps p ih =>
    rw [List.map_append, List.nodup_append'] at h
    obtain ⟨hps, -, hnew⟩ := h
    rw [ofPairs_concat, ih hps, putKey_of_new p.2 (List.disjoint_singleton.mp hnew)]

theorem mem_of_mem_ofPairs [LawfulBEq α] {ps : List (α × β)} {e : α × β} (he : e ∈ ofPairs ps) : e ∈ ps := by
  induction ps using List.reverseRecOn with
  | nil => exact he
  | append_singleton ps p ih =>
    rw [ofPairs_concat] at he
    rw [List.mem_append, List.mem_singleton]
    exact (mem_putKey he).symm.imp_left ih

/-- Under a key is what the last pair with that key has. -/
theorem lookup_ofPairs [LawfulBEq α] (ps : List (α × β)) (k : α) : (ofPairs ps).lookup k = ps.reverse.lookup k := by
  induction ps using List.reverseRecOn with
  | nil => rfl
  | append_singleton ps p ih =>
    rw [ofPairs_concat, lookup_putKey, ih, List.reverse_append, List.reverse_singleton,
      List.singleton_append, lookup_cons_eq_ite]

theorem lookup_ofPairs_of_last [LawfulBEq α] {before after : List (α × β)} {p : α × β} (h : ∀ q ∈ after, q.1 ≠ p.1) :
    (ofPairs (before ++ p :: after)).lookup p.1 = some p.2 := by
  have hafter : after.reverse.lookup p.1 = none :=
    List.lookup_eq_none_iff.mpr fun q hq => by simpa using (h q (List.mem_reverse.mp hq)).symm
  rw [lookup_ofPairs, List.reverse_append, List.reverse_cons, List.append_assoc, List.lookup_append, hafter,
    Option.none_or, List.singleton_append, List.lookup_cons_self]

end MarkupQuery
