import MarkupQuery.Selection

/-!
# Collections of results

Results come as lists in document order. `item?` looks an item up by a position that may count from
the end and never fails. Collections of strings can be searched, split, rewritten, trimmed and freed
of repetitions; each of these works item by item and keeps the order.
-/

namespace MarkupQuery

open MarkupQuery.Text

/-! ## Looking up -/

/-- The item at a position; negative positions count from the end. -/
def item? {α : Type} (xs : List α) (i : Int) : Option α :=
  if 0 ≤ i then xs[i.toNat]?
  else if -i ≤ xs.length then xs[xs.length - i.natAbs]? else none

/-- The first item is at position zero. -/
theorem item?_zero {α : Type} (xs : List α) : item? xs 0 = xs.head? := by
  cases xs <;> rfl

/-- The last item is at position minus one. -/
theorem item?_neg_one {α : Type} (xs : List α) : item? xs (-1) = xs.getLast? := by
  cases xs with
  | nil => rfl
  | cons x r =>
      have h : -(-1 : Int) ≤ ((x :: r).length : Int) := by
        rw [List.length_cons]
        omega
      rw [item?, if_neg (by decide), if_pos h, List.getLast?_eq_getElem?]
      rfl

/-! ## Strings -/

/-- A collection of strings. Splitting leaves gaps for groups that took no part. -/
abbrev Strings := List (Option Chars)

/-- The strings of a collection without gaps. -/
def Strings.ofTexts (ts : List Chars) : Strings := ts.map some

/-- An operation on every string; gaps have the wrong type for it. -/
def Strings.overTexts {β : Type} (xs : Strings) (f : Chars → Except Fault β) :
    Except Fault (List β) :=
  xs.mapM fun
    | some s => f s
    | none => .error .wrongType

/-- Every string with the matches of a pattern replaced. -/
def Strings.replace (xs : Strings) (p : PatternSource) (replacement : Replacement) :
    Except Fault Strings := do
  let r ← p.compile
  let ys ← xs.overTexts (substitute r replacement)
  return ys.map some

/-- What is chosen from the matches of a pattern in all strings. -/
def Strings.select (xs : Strings) (p : PatternSource) (arg : SelectorArgument) :
    Except Fault Strings := do
  let s ← arg.resolve
  let r ← p.compile
  s.check r
  let found ← xs.overTexts fun t => do
    let kept ← (r.matches t).mapM s.extract
    return kept.filterMap id
  return found.flatten.map some

/-- Every string split at the matches of a pattern. -/
def Strings.split (xs : Strings) (p : PatternSource) : Except Fault Strings := do
  let r ← p.compile
  let parts ← xs.overTexts fun t => .ok (r.split t)
  return parts.flatten

/-- The items without those that occurred before. -/
def Strings.unique (xs : Strings) : Strings :=
  (xs.foldl (fun seen x => if seen.contains x then seen else x :: seen) []).reverse

/-- Every string trimmed; a gap lacks the operation. -/
def Strings.strip (xs : Strings) : Except Fault Strings :=
  xs.mapM fun
    | some s => .ok (some (trim s))
    | none => .error .missingOperation

end MarkupQuery
