import MarkupQuery.Yaml.Node

/-!
# Values of configuration nodes

A node is built into a data value. Collections are built level by level, outer ones first, so that of
several faults the one at the outermost level is reported, and on one level the first. Main statement:
of two parts the fault at the outer level wins.
-/

namespace MarkupQuery.Yaml

open MarkupQuery.Text

/-! ## Levels of faults -/

/-- A value, or a fault with the level at which it is found. -/
abbrev Built (α : Type) := Except (Nat × Fault) α

/-- Two parts of a value; a fault at an outer level wins, and of two on one level the first. -/
def Built.both {α β : Type} : Built α → Built β → Built (α × β)
  | .ok a, .ok b => .ok (a, b)
  | .error e, .ok _ => .error e
  | .ok _, .error e => .error e
  | .error e, .error g => .error (if g.1 < e.1 then g else e)

/-- The outer fault wins. -/
theorem Built.both_error {α β : Type} {n m : Nat} {f g : Fault} (h : n ≤ m) :
    Built.both (.error (n, f) : Built α) (.error (m, g) : Built β) = .error (n, f) := by
  have : ¬ m < n := by omega
  simp [Built.both, this]

/-- A fault at a level. -/
def Built.fail {α : Type} (level : Nat) (f : Fault) : Built α := .error (level, f)

/-- A value that may fail at a level. -/
def Built.lift {α : Type} (level : Nat) : Except Fault α → Built α
  | .ok a => .ok a
  | .error f => .error (level, f)

/-- A node that cannot become a value. -/
def unbuildable : Fault := .yaml .constructor

/-! ## Merging -/

mutual

/-- The entries of a mapping after merging: what is merged comes first. Only mappings and sequences of
mappings can be merged. -/
def mergedEntries : List (Node × Node) → Except Fault (List (Node × Node))
  | es => do
      let (merged, own) ← splitMerges es
      return merged ++ own

/-- The entries that are merged into a mapping, and its own ones. -/
def splitMerges : List (Node × Node) → Except Fault (List (Node × Node) × List (Node × Node))
  | [] => .ok ([], [])
  | (.scalar .merge _, v) :: es => do
      let here ← entriesToMerge v
      let (merged, own) ← splitMerges es
      return (here ++ merged, own)
  | (.scalar .value t, v) :: es => do
      let (merged, own) ← splitMerges es
      return (merged, (.scalar .str t, v) :: own)
  | e :: es => do
      let (merged, own) ← splitMerges es
      return (merged, e :: own)

/-- The entries that a node contributes when it is merged. -/
def entriesToMerge : Node → Except Fault (List (Node × Node))
  | .mapping _ es => do
      let (merged, own) ← splitMerges es
      return merged ++ own
  | .sequence _ ns => entriesOfEach ns
  | _ => .error unbuildable

/-- The entries of several mappings, those of later ones first. -/
def entriesOfEach : List Node → Except Fault (List (Node × Node))
  | [] => .ok []
  | .mapping _ es :: ns => do
      let (merged, own) ← splitMerges es
      let later ← entriesOfEach ns
      return later ++ (merged ++ own)
  | _ :: _ => .error unbuildable

end

/-! ## Scalars -/

/-- The text that stands for a node: that of a scalar, or that of the value which a mapping gives under
its value mark. -/
def scalarText : Nat → Node → Except Fault Chars
  | _, .scalar _ t => .ok t
  | fuel + 1, .mapping _ es =>
      match es.find? fun e => e.1 matches .scalar .value _ with
      | some e => scalarText fuel e.2
      | none => .error unbuildable
  | _, _ => .error unbuildable

/-- The value of a scalar of some kind. -/
def scalarValue (tag : Tag) (t : Chars) : Except Fault Datum :=
  match tag with
  | .null => .ok .null
  | .bool => (truthOf t).map .bool
  | .int => (integerOf t).map .int
  | .float => (fractionOf t).map .float
  | .timestamp => dateOf t
  | .str => .ok (.text (String.ofList t))
  | .binary =>
      if t.any (fun c => 127 < c.toNat) then .error unbuildable
      else match base64Bytes t [] 0 with
        | some bytes => .ok (.bytes bytes)
        | none => .error unbuildable
  | _ => .error unbuildable

/-- Whether a kind is one of collections, which are built a level deeper than they stand. -/
def Tag.isDeferred : Tag → Bool
  | .omap | .pairs | .set | .seq | .map => true
  | _ => false

/-! ## Collections -/

/-- The value of a mapping from the values of its entries; later entries replace earlier ones. -/
def mappingValue (es : List (Datum × Datum)) : Datum :=
  .dict (es.foldl (fun d e => Datum.put e.1 e.2 d) [])

/-- The value of a collection that holds itself, as far as it is known. -/
def enclosingValue (mapping : Bool) : Datum := if mapping then .dict [] else .list []

/-- The values of a list of nodes in turn. -/
def buildAll (build : Node → Built Datum) : List Node → Built (List Datum)
  | [] => .ok []
  | n :: ns => ((build n).both (buildAll build ns)).map fun (v, vs) => v :: vs

/-- The values of entries in turn; a collection is no key. -/
def buildEntries (build : Node → Built Datum) (level : Nat) :
    List (Node × Node) → Built (List (Datum × Datum))
  | [] => .ok []
  | (k, v) :: es =>
      let key : Built Datum := match build k with
        | .ok d => if d.isKey then .ok d else .fail level unbuildable
        | .error e =>
            if e.1 ≤ level then .error e else .fail level unbuildable
      ((key.both (build v)).both (buildEntries build level es)).map fun (e, vs) => e :: vs

/-- The only entry of each mapping in a list. -/
def singleEntries : List Node → Except Fault (List (Node × Node))
  | [] => .ok []
  | .mapping _ [e] :: ns => (singleEntries ns).map (e :: ·)
  | _ :: _ => .error unbuildable

/-- The value of a node. Its own faults arise at the given level, those of what it holds a level
deeper. -/
def build : Nat → Nat → Node → Built Datum
  | 0, level, _ => .fail level unbuildable
  | _ + 1, _, .enclosing m => .ok (enclosingValue m)
  | fuel + 1, level, node =>
      let inner := build fuel (level + 1)
      let tag := match node with
        | .scalar t _ | .sequence t _ | .mapping t _ => t
        | .enclosing _ => .unknown
      match tag, node with
      | .seq, .sequence _ ns => (buildAll inner ns).map .list
      | .map, .mapping _ es =>
          (Built.lift (level + 1) (mergedEntries es)).bind fun es =>
            (buildEntries inner (level + 1) es).map mappingValue
      | .set, .mapping _ es =>
          (Built.lift (level + 1) (mergedEntries es)).bind fun es =>
            (buildEntries inner (level + 1) es).map fun vs =>
              .set ((vs.foldl (fun d e => Datum.put e.1 e.2 d) []).map (·.1))
      | .omap, .sequence _ ns | .pairs, .sequence _ ns =>
          (Built.lift (level + 1) (singleEntries ns)).bind fun es =>
            (buildAll inner (es.flatMap fun e => [e.1, e.2])).map fun vs =>
              .list (pairUp vs)
      | t, n =>
          if t.isDeferred then .fail (level + 1) unbuildable
          else Built.lift level ((scalarText fuel n).bind (scalarValue t))
where
  /-- Neighbours as pairs. -/
  pairUp : List Datum → List Datum
    | a :: b :: r => .tuple [a, b] :: pairUp r
    | _ => []

/-! ## Texts -/

/-- The value that a configuration text describes; nothing if the text is empty. -/
def read (text : Chars) : Except Fault (Option Datum) := do
  let text := unifyLineEnds text
  if !text.all isAllowed then throw (.yaml .reader)
  let tokens := tokensOf text
  match ← readDocument tokens with
  | none => return none
  | some n =>
      match build (4 * tokens.length + 4) 0 n with
      | .ok v => return some v
      | .error (_, f) => throw f

end MarkupQuery.Yaml
