import MarkupQuery.Query.Expression
import MarkupQuery.Query.Numeral

/-!
# Reading queries

A query is read character by character; blanks may stand between the parts. Operators are found by
their letters alone, without regard to where a word ends. The reading functions take a bound on their
nesting, which a text of some length cannot exceed.
-/

namespace MarkupQuery.Query

open MarkupQuery.Text MarkupQuery.Xml

/-! ## Tokens -/

/-- A text without the blanks at its start. -/
def skip (s : Chars) : Chars := s.dropWhile isMarkupBlank

/-- A name with an optional prefix at the start of a text; empty if there is none. -/
def spanQualified (s : Chars) : Option Chars × Chars × Chars :=
  let (first, rest) := spanPlainName s
  match first, rest with
  | [], _ => (none, [], s)
  | _, ':' :: r =>
      let (second, rest) := spanPlainName r
      (some first, second, rest)
  | _, _ => (none, first, rest)

/-- A text between quotes at the start of a text, and what follows it. -/
def spanLiteral (s : Chars) : Except Reason (Chars × Chars) :=
  match s with
  | q :: r =>
      if q == '"' || q == '\'' then
        let body := r.takeWhile fun c => c != q && isXmlChar c
        match r.dropWhile fun c => c != q && isXmlChar c with
        | c :: rest => if c == q then .ok (body, rest) else .error .unfinishedLiteral
        | [] => .error .unfinishedLiteral
      else .error .missingLiteral
  | [] => .error .missingLiteral

/-- The operators by level, from the loosest to the tightest, and how they are written. -/
def operatorLevels : List (List (String × Operator)) := [
  [("or", .or)],
  [("and", .and)],
  [("=", .equal), ("!=", .unequal)],
  [("<=", .lessOrEqual), ("<", .less), (">=", .greaterOrEqual), (">", .greater)],
  [("+", .plus), ("-", .minus)],
  [("*", .times), ("div", .divide), ("mod", .remainder)]]

/-- An operator of a level at the start of a text, and what follows it. -/
def operatorAt? (level : Nat) (s : Chars) : Option (Operator × Chars) :=
  ((operatorLevels[level]?).getD []).findSome? fun (w, op) =>
    if w.toList.isPrefixOf s then some (op, s.drop w.length) else none

/-- Whether two colons in a row stand in a text. -/
def holdsAxisMark : Chars → Bool
  | ':' :: ':' :: _ => true
  | _ :: r => holdsAxisMark r
  | [] => false

/-- Whether a path, and not another kind of operand, starts here; none if nothing can. -/
def startsPath? (s : Chars) : Option Bool :=
  match s with
  | '.' :: c :: _ => some (!isAsciiDigit c)
  | c :: _ =>
      if c == '$' || c == '(' || isAsciiDigit c || c == '\'' || c == '"' then some false
      else if c == '*' || c == '/' || c == '@' || c == '.' then some true
      else
        let (name, rest) := spanName s
        if name.isEmpty then none
        else if holdsAxisMark name then some true
        else match skip rest with
          | '(' :: _ => some (NodeKind.ofName? name).isSome
          | _ => some true
  | [] => none

/-- The step that leads to everything at or below a node. -/
def anywhere (e : Expression) : Expression := .step e .descendantOrSelf (.kind .node) []

/-- Reads what a step asks for after its axis, the name being read already if it is not empty. -/
def readTest (name s : Chars) : Except Reason (NodeTest × Chars) :=
  let s := skip s
  match name, s with
  | [], '*' :: r => .ok (.any none, r)
  | _, _ =>
      let (name, s) := if name.isEmpty then spanPlainName s else (name, s)
      if name.isEmpty then .error .expression
      else
        let blank := s.head?.any isMarkupBlank
        match skip s with
        | '(' :: r =>
            match NodeKind.ofName? name with
            | none => .error .expression
            | some k => do
                let r := skip r
                let (test, r) ← match k, r with
                  | .instruction, ')' :: _ => .ok (NodeTest.kind k, r)
                  | .instruction, _ => (spanLiteral r).map fun p => (NodeTest.target p.1, skip p.2)
                  | _, _ => .ok (NodeTest.kind k, r)
                match r with
                | ')' :: r => return (test, r)
                | _ => throw .unclosed
        | ':' :: r =>
            if blank then .ok (.name none name, ':' :: r)
            else match r with
              | '*' :: r => .ok (.any (some name), r)
              | _ =>
                  let (base, r) := spanPlainName r
                  if base.isEmpty then .error .expression else .ok (.name (some name) base, r)
        | r => .ok (.name none name, r)

/-- Reads the axis of a step, and the name that stands in its place if no axis is given. -/
def readAxis (s : Chars) : Axis × Chars × Chars :=
  match s with
  | '*' :: _ => (.child, [], s)
  | '@' :: r => (.label, [], skip r)
  | _ =>
      let (name, rest) := spanPlainName s
      match Axis.ofName? name with
      | none => (.child, name, rest)
      | some axis =>
          match skip rest with
          | ':' :: ':' :: r => (axis, [], r)
          | r => (.child, name, r)

/-! ## Expressions -/

/-- The greatest depth of expressions within expressions. -/
def deepest : Nat := 500

mutual

/-- Reads an expression of a level of operators. -/
def readLevel (depth : Nat) : Nat → Nat → Chars → Except Reason (Expression × Chars)
  | 0, _, _ => .error .nesting
  | fuel + 1, level, s =>
      if level < operatorLevels.length then do
        let (a, r) ← readLevel depth fuel (level + 1) s
        readOperands depth fuel level a (skip r)
      else readSigned depth fuel s

/-- Reads the operators of a level and their right operands. -/
def readOperands (depth : Nat) : Nat → Nat → Expression → Chars →
    Except Reason (Expression × Chars)
  | 0, _, _, _ => .error .nesting
  | fuel + 1, level, a, s =>
      match operatorAt? level s with
      | none => .ok (a, s)
      | some (op, r) => do
          let (b, r) ← readLevel depth fuel (level + 1) (skip r)
          readOperands depth fuel level (.binary op a b) (skip r)

/-- Reads minus signs and what they stand before. -/
def readSigned (depth : Nat) : Nat → Chars → Except Reason (Expression × Chars)
  | 0, _ => .error .nesting
  | fuel + 1, s => do
      let isSign (c : Char) : Bool := c == '-' || isMarkupBlank c
      let signs := (s.takeWhile isSign).count '-'
      let (a, r) ← readPath depth fuel (s.dropWhile isSign)
      let (a, r) ← readUnion depth fuel a (skip r)
      if signs == 0 then return (a, r)
      else if signs % 2 == 1 then return (.negate a, r)
      else return (.toNumber a, r)

/-- Reads the further paths of a union. -/
def readUnion (depth : Nat) : Nat → Expression → Chars → Except Reason (Expression × Chars)
  | 0, _, _ => .error .nesting
  | fuel + 1, a, s =>
      match s with
      | '|' :: r => do
          let (b, r) ← readPath depth fuel (skip r)
          readUnion depth fuel (.union a b) (skip r)
      | _ => .ok (a, s)

/-- Reads a path, or an operand of another kind and a path from there. -/
def readPath (depth : Nat) : Nat → Chars → Except Reason (Expression × Chars)
  | 0, _ => .error .nesting
  | fuel + 1, s =>
      match startsPath? s with
      | none => .error .expression
      | some true =>
          match s with
          | '/' :: _ => readFromTop depth fuel .root s
          | _ => readSteps depth fuel .here s
      | some false => do
          let (a, r) ← readOperand depth fuel s
          let (a, r) ← readFilters depth fuel a (skip r)
          match r with
          | '/' :: _ => readSteps depth fuel a r
          | _ => return (a, r)

/-- Reads what follows a slash at the start of a path. -/
def readFromTop (depth : Nat) : Nat → Expression → Chars → Except Reason (Expression × Chars)
  | 0, _, _ => .error .nesting
  | fuel + 1, a, s =>
      match s with
      | '/' :: '/' :: r => do
          let (a, r) ← readSteps depth fuel (anywhere a) (skip r)
          readFromTop depth fuel a r
      | '/' :: r => do
          let r := skip r
          let starts (c : Char) : Bool :=
            isAsciiLetter c || c == '_' || c == '.' || c == '@' || c == '*'
          if r.head?.any starts then do
            let (a, r) ← readSteps depth fuel a r
            readFromTop depth fuel a r
          else readFromTop depth fuel a r
      | _ => .ok (a, s)

/-- Reads steps; slashes may stand before the first one too. -/
def readSteps (depth : Nat) : Nat → Expression → Chars → Except Reason (Expression × Chars)
  | 0, _, _ => .error .nesting
  | fuel + 1, a, s => do
      let (a, s) := match s with
        | '/' :: '/' :: r => (anywhere a, skip r)
        | '/' :: r => (a, skip r)
        | r => (a, r)
      let (a, r) ← readStep depth fuel a s
      match skip r with
      | '/' :: r => readSteps depth fuel a ('/' :: r)
      | r => return (a, r)

/-- Reads one step. -/
def readStep (depth : Nat) : Nat → Expression → Chars → Except Reason (Expression × Chars)
  | 0, _, _ => .error .nesting
  | fuel + 1, a, s =>
      match s with
      | '.' :: '.' :: r => .ok (.step a .parent (.kind .node) [], skip r)
      | '.' :: r => .ok (a, skip r)
      | _ => do
          let (axis, name, r) := readAxis s
          let (test, r) ← readTest name r
          let (predicates, r) ← readPredicates depth fuel (skip r)
          return (.step a axis test predicates, r)

/-- Reads the predicates of a step. -/
def readPredicates (depth : Nat) : Nat → Chars → Except Reason (List Expression × Chars)
  | 0, _ => .error .nesting
  | fuel + 1, s =>
      match s with
      | '[' :: r => do
          let (p, r) ← readNested depth fuel (skip r)
          match r with
          | ']' :: r => do
              let (ps, r) ← readPredicates depth fuel (skip r)
              return (p :: ps, r)
          | _ => throw .predicate
      | _ => .ok ([], s)

/-- Reads the predicates of an operand that is no step. -/
def readFilters (depth : Nat) : Nat → Expression → Chars → Except Reason (Expression × Chars)
  | 0, _, _ => .error .nesting
  | fuel + 1, a, s =>
      match s with
      | '[' :: r => do
          let (p, r) ← readNested depth fuel (skip r)
          match r with
          | ']' :: r => readFilters depth fuel (.filter a p) (skip r)
          | _ => throw .predicate
      | _ => .ok (a, s)

/-- Reads an expression within another one. -/
def readNested (depth : Nat) : Nat → Chars → Except Reason (Expression × Chars)
  | 0, _ => .error .nesting
  | fuel + 1, s =>
      if deepest ≤ depth + 1 then .error .nesting else readLevel (depth + 1) fuel 0 s

/-- Reads an operand that is no path. -/
def readOperand (depth : Nat) : Nat → Chars → Except Reason (Expression × Chars)
  | 0, _ => .error .nesting
  | fuel + 1, s =>
      match s with
      | '$' :: r =>
          let (label, name, r) := spanQualified r
          if name.isEmpty then .error .variableName else .ok (.variable_ label name, skip r)
      | '(' :: r => do
          let (a, r) ← readNested depth fuel (skip r)
          match r with
          | ')' :: r => return (a, skip r)
          | _ => throw .expression
      | c :: _ =>
          if c == '\'' || c == '"' then do
            let (t, r) ← spanLiteral s
            return (.literal t, skip r)
          else if isAsciiDigit c || c == '.' then
            match spanNumber s with
            | some (x, r) => .ok (.number x, skip r)
            | none => .error .number
          else
            let (label, name, r) := spanQualified s
            match name, skip r with
            | _ :: _, '(' :: r => do
                let r := skip r
                match r with
                | ')' :: r => return (.call label name [], skip r)
                | _ => do
                    let (arguments, r) ← readArguments depth fuel r
                    return (.call label name arguments, skip (r.drop 1))
            | _, _ => .error .expression
      | [] => .error .expression

/-- Reads the arguments of a call; the end of the text ends them too. -/
def readArguments (depth : Nat) : Nat → Chars → Except Reason (List Expression × Chars)
  | 0, _ => .error .nesting
  | fuel + 1, s =>
      match s with
      | [] => .ok ([], [])
      | _ => do
          let (a, r) ← readNested depth fuel s
          match r with
          | ')' :: _ => return ([a], r)
          | ',' :: r => do
              let (as, r) ← readArguments depth fuel (skip r)
              return (a :: as, r)
          | _ => throw .expression

end

/-- Reads a query. -/
def read (s : Chars) : Except Reason Expression := do
  let (e, r) ← readLevel 0 (16 * (s.length + 2)) 0 (skip s)
  if r.isEmpty then return e else throw .expression

end MarkupQuery.Query
