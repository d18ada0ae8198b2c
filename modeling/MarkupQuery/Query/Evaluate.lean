import MarkupQuery.Query.Reader
import MarkupQuery.Query.Function

/-!
# Carrying out queries

An expression has a value in a context, or there is trouble. A step goes from every spot along its axis,
keeps what passes the test and then asks the predicates one after the other; places are counted along
the axis. Sets of spots are always in document order.
-/

namespace MarkupQuery.Query

open MarkupQuery.Text MarkupQuery.Tree

/-! ## Steps -/

/-- The spots along an axis, the nearest first. -/
def Axis.spots (a : Axis) (s : Spot) : List Spot :=
  match a with
  | .ancestor => s.ancestors
  | .ancestorOrSelf => s :: s.ancestors
  | .label => s.attributes
  | .child => s.children
  | .descendant => s.descendants
  | .descendantOrSelf => s.subtree
  | .following => s.following
  | .followingSibling => s.siblings.2
  | .space => s.spaces
  | .parent => s.parent?.toList
  | .preceding => s.preceding
  | .precedingSibling => s.siblings.1
  | .self => [s]

/-- Whether a node has a kind. References have none. -/
def NodeKind.holds (k : NodeKind) (t : Target) : Bool :=
  match k, t with
  | .node, .node (.reference ..) => false
  | .node, _ => true
  | .text, .node n => n.isText
  | .comment, .node (.comment ..) => true
  | .instruction, .node (.instruction ..) => true
  | _, _ => false

/-- Whether a target's name passes a test on an axis: `space` is the namespace of the test's prefix,
if it has one. Without a prefix an element's name must have no namespace, and an attribute's no
prefix. -/
def NodeTest.holds (test : NodeTest) (axis : Axis) (space : Option Chars) (t : Target) : Bool :=
  let inSpace (n : Name) : Bool :=
    match space with
    | none => true
    | some u => n.space == some u
  match test, t with
  | .kind k, _ => k.holds t
  | .target x, .node (.instruction _ y _) => x == y
  | .any _, .attribute _ a => axis == .label && inSpace a.name
  | .any _, .space .. => axis == .space
  | .any _, .node (.element _ tag _) => axis != .label && axis != .space && inSpace tag.name
  | .name _ base, .attribute _ a =>
      axis == .label && a.name.base == base &&
        (if space.isNone then a.name.label.isNone else inSpace a.name)
  | .name _ base, .space l _ => axis == .space && l == some base
  | .name _ base, .node (.element _ tag _) =>
      axis != .label && axis != .space && tag.name.base == base &&
        (if space.isNone then tag.name.space.isNone else inSpace tag.name)
  | _, _ => false

/-- The prefix that a test uses. -/
def NodeTest.label? : NodeTest → Option Chars
  | .any l => l
  | .name l _ => l
  | _ => none

/-- The namespace that a test's prefix stands for, if it uses one. -/
def Context.testSpace (c : Context) (test : NodeTest) : Except Trouble (Option Chars) :=
  match test.label? with
  | none => .ok none
  | some l =>
      match c.space? l with
      | some u => .ok (some u)
      | none => .error (.reason .undefinedLabel)

/-- The value of a predicate for a spot at a place: a number asks for that place. -/
def predicateHolds (v : Value) (place : Nat) : Bool :=
  match v with
  | .number x => x == Float.ofNat place
  | v => v.toTruth

/-- The spots that a test keeps, each with its place among some. -/
def keepByPlace (ask : Spot → Nat × Nat → Except Trouble Value) (ss : List Spot) :
    Except Trouble (List Spot) := do
  let kept ← ss.zipIdx.filterMapM fun (s, i) => do
    let v ← ask s (i + 1, ss.length)
    return if predicateHolds v (i + 1) then some s else none
  return kept

/-! ## Expressions -/

/-- Only sets of spots have spots. -/
def Value.spots? : Value → Except Trouble (List Spot)
  | .spots ss => .ok ss
  | _ => .error (.reason .type)

mutual

/-- The value of an expression. -/
def evaluate : Expression → Context → Except Trouble Value
  | .number x, _ => .ok (.number x)
  | .literal s, _ => .ok (.text s)
  | .variable_ .., _ => .error (.reason .undefinedVariable)
  | .call label name arguments, c => do
      call label name c (← evaluateAll arguments c)
  | .binary .or a b, c => do
      if (← evaluate a c).toTruth then return .truth true
      else return .truth (← evaluate b c).toTruth
  | .binary .and a b, c => do
      if (← evaluate a c).toTruth then return .truth (← evaluate b c).toTruth
      else return .truth false
  | .binary op a b, c => do
      let x ← evaluate a c
      let y ← evaluate b c
      return applyOperator op x y
  | .negate a, c => do return .number (-(← evaluate a c).toNumber)
  | .toNumber a, c => do return .number (← evaluate a c).toNumber
  | .union a b, c => do
      let x ← evaluate a c
      let y ← evaluate b c
      return .spots (inOrder ((← x.spots?) ++ (← y.spots?)))
  | .here, c => .ok (.spots [c.spot])
  | .root, c => .ok (.spots [c.spot.root])
  | .filter a p, c => do
      let ss ← (← evaluate a c).spots?
      let kept ← keepByPlace (fun s place => evaluate p { c with spot := s, place := some place }) ss
      return .spots kept
  | .step a axis test predicates, c => do
      let ss ← (← evaluate a c).spots?
      let space ← c.testSpace test
      let found ← ss.mapM fun s =>
        keepAll predicates c ((axis.spots s).filter fun t => test.holds axis space t.target)
      return .spots (inOrder found.flatten)

/-- The values of some expressions. -/
def evaluateAll : List Expression → Context → Except Trouble (List Value)
  | [], _ => .ok []
  | e :: es, c => do
      let v ← evaluate e c
      return v :: (← evaluateAll es c)

/-- The spots that pass some predicates one after the other. -/
def keepAll : List Expression → Context → List Spot → Except Trouble (List Spot)
  | [], _, ss => .ok ss
  | p :: ps, c, ss => do
      let kept ← keepByPlace (fun s place => evaluate p { c with spot := s, place := some place }) ss
      keepAll ps c kept

end

/-- The value of a query that starts from a spot. -/
def run (kind : Kind) (spaces : List (Chars × Chars)) (s : Spot) (query : Chars) :
    Except Trouble Value := do
  match read query with
  | .error r => throw (.reason r)
  | .ok e => evaluate e { spot := s, spaces, kind }

end MarkupQuery.Query
