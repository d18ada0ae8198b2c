import MarkupQuery.Fault

/-!
# Fields of an item

The fields of an item are given as `NAME=SELECTOR`. The name is everything before the first equals
sign, the selector everything after it; both are trimmed and neither may be blank. A repeated name
keeps its first place and takes the last selector.
-/

namespace MarkupQuery

open MarkupQuery.Text

/-- The parts of a text before and after its first equals sign. -/
def splitAtEquals : Chars → Option (Chars × Chars)
  | [] => none
  | c :: r =>
      if c == '=' then some ([], r)
      else (splitAtEquals r).map fun p => (c :: p.1, p.2)

/-- The name and the selector of one field. -/
def readField (raw : Chars) : Option (Chars × Chars) :=
  match splitAtEquals raw with
  | none => none
  | some (name, selector) =>
      if (trim name).isEmpty || (trim selector).isEmpty then none
      else some (trim name, trim selector)

/-- Sets the value under a key: a new key goes last, an old one keeps its place. -/
def putKey {α β : Type} [BEq α] (key : α) (value : β) : List (α × β) → List (α × β)
  | [] => [(key, value)]
  | (k, v) :: es => if k == key then (k, value) :: es else (k, v) :: putKey key value es

/-- The pairs in order, later values replacing earlier ones under the same key. -/
def ofPairs {α β : Type} [BEq α] (ps : List (α × β)) : List (α × β) :=
  ps.foldl (fun es p => putKey p.1 p.2 es) []

/-- The fields that some texts give. -/
def readFields (raws : List Chars) : Except Fault (List (Chars × Chars)) := do
  let pairs ← raws.mapM fun raw =>
    match readField raw with
    | some p => .ok p
    | none => .error (.badField (String.ofList raw))
  return ofPairs pairs

end MarkupQuery
