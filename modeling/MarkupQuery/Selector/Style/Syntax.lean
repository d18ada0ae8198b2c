import MarkupQuery.Selector.Style.Token

/-!
# The structure of style selectors

A style selector tests an element: its name, attributes and position, and by combinators the
elements around it. A text holds a list of selectors separated by commas.
-/

namespace MarkupQuery.Selector.Style

open MarkupQuery.Text

/-! ## Selectors -/

/-- The namespace that a name is looked for in. -/
inductive Space where
  /-- None is given. -/
  | unnamed
  /-- Any namespace. -/
  | any
  | named (label : Chars)
  deriving DecidableEq, Repr, Inhabited

/-- The ways in which two elements can be related. -/
inductive Combinator where
  | descendant
  | child
  | nextSibling
  | laterSibling
  deriving DecidableEq, Repr

/-- The tests on an attribute. -/
inductive AttributeTest where
  | exists
  | equals
  | differs
  | includes
  | dashMatch
  | startsWith
  | endsWith
  | contains
  deriving DecidableEq, Repr

/-- The selectors. Every test is put onto the selector that it narrows. -/
inductive Selector where
  /-- An element by name, any if there is none. -/
  | element (space : Space) (name : Option Chars)
  | hash (of_ : Selector) (id : Chars)
  | classed (of_ : Selector) (name : Chars)
  | attribute (of_ : Selector) (space : Space) (name : Chars) (test : AttributeTest) (value : Chars)
      (anyCase : Bool)
  | pseudo (of_ : Selector) (name : Chars)
  | function (of_ : Selector) (name : Chars) (arguments : List Token)
  | negation (of_ : Selector) (argument : Selector)
  | relation (of_ : Selector) (combinator : Combinator) (argument : Selector)
  | matching (of_ : Selector) (arguments : List Selector)
  | combined (left : Selector) (combinator : Combinator) (right : Selector)
  deriving Repr

instance : Inhabited Selector := ⟨.element .unnamed none⟩

/-- A selector and the pseudo-element that it ends with. -/
structure Branch where
  selector : Selector
  pseudoElement : Option Chars
  deriving Repr

/-! ## Reading -/

/-- The tokens ahead, and those taken already, the last first. -/
structure ReadState where
  ahead : List Token
  taken : List Token

/-- Reading with errors in words. -/
abbrev Read := StateT ReadState (Except String)

/-- The token ahead; at the end it is the end. -/
def peek : Read Token := do
  return ((← get).ahead.head?).getD ⟨.endOfText, [], 0⟩

/-- Takes the token ahead. -/
def next : Read Token := do
  let t ← peek
  modify fun s =>
    { ahead := match s.ahead with
        | [t] => [t]
        | _ :: r => r
        | [] => []
      taken := t :: s.taken }
  return t

/-- Skips a blank. -/
def skipBlank : Read Unit := do
  if (← peek).kind == .blank then
    let _ ← next

/-- Takes a name. -/
def nextIdent : Read Chars := do
  let t ← next
  if t.kind == .ident then return t.value else throw s!"Expected ident, got {t.shown}"

/-- Takes a name, or a star for none. -/
def nextIdentOrStar : Read (Option Chars) := do
  let t ← next
  if t.kind == .ident then return some t.value
  else if t.isMark '*' then return none
  else throw s!"Expected ident or '*', got {t.shown}"

/-- The combinator that a mark stands for. -/
def combinatorOf? (t : Token) : Option Combinator :=
  if t.isMark '>' then some .child
  else if t.isMark '+' then some .nextSibling
  else if t.isMark '~' then some .laterSibling
  else none

/-- The test that the mark before an equals sign stands for. -/
def testOf? (t : Token) : Option AttributeTest :=
  if t.isMark '^' then some .startsWith
  else if t.isMark '$' then some .endsWith
  else if t.isMark '*' then some .contains
  else if t.isMark '~' then some .includes
  else if t.isMark '|' then some .dashMatch
  else if t.isMark '!' then some .differs
  else none

/-- The value of an attribute test, and the closing bracket. -/
def attributeValue (of_ : Selector) (space : Space) (name : Chars) (test : AttributeTest) :
    Read Selector := do
  skipBlank
  let value ← next
  if value.kind != .ident && value.kind != .string then
    throw s!"Expected string or ident, got {value.shown}"
  skipBlank
  let flag ← peek
  let anyCase ← if flag.kind == .ident && (flag.value == ['i'] || flag.value == ['I'] ||
      flag.value == ['s'] || flag.value == ['S']) then do
      let _ ← next
      skipBlank
      pure (flag.value == ['i'] || flag.value == ['I'])
    else pure false
  let close ← next
  if !close.isMark ']' then throw s!"Expected ']', got {close.shown}"
  return .attribute of_ space name test value.value anyCase

/-- What stands between the brackets of an attribute test. -/
def readAttribute (of_ : Selector) : Read Selector := do
  skipBlank
  let first ← nextIdentOrStar
  let test (space : Space) (name : Chars) : Read Selector := do
    skipBlank
    let t ← next
    if t.isMark ']' then return .attribute of_ space name .exists [] false
    else if t.isMark '=' then attributeValue of_ space name .equals
    else
      match testOf? t with
      | some k =>
          if (← peek).isMark '=' then
            let _ ← next
            attributeValue of_ space name k
          else throw s!"Operator expected, got {t.shown}"
      | none => throw s!"Operator expected, got {t.shown}"
  if (← peek).isMark '|' then
    let _ ← next
    if (← peek).isMark '=' then
      let _ ← next
      attributeValue of_ .unnamed (first.getD ['*']) .dashMatch
    else
      let space := match first with
        | some label => .named label
        | none => .any
      test space (← nextIdent)
  else
    match first with
    | some name => test .unnamed name
    | none => throw s!"Expected '|', got {(← peek).shown}"

/-- The arguments of a function, up to the closing parenthesis. -/
def readArguments : Nat → Read (List Token)
  | 0 => return []
  | fuel + 1 => do
      skipBlank
      let t ← next
      if t.kind == .ident || t.kind == .string || t.kind == .number || t.isOneOf ['+', '-'] then
        return t :: (← readArguments fuel)
      else if t.isMark ')' then return []
      else throw s!"Expected an argument, got {t.shown}"

/-- Whether the scope test just taken stands at the start of a selector. -/
def scopeIsFirst (taken : List Token) : Bool :=
  match taken with
  | [_, _] => true
  | [_, _, t] => t.kind == .blank || t.isMark ','
  | _ :: _ :: t :: u :: _ => t.isMark ',' || (t.kind == .blank && u.isMark ',')
  | _ => false

/-- The pseudo-elements that may be written with one colon. -/
def oldPseudoElements : List String := ["first-line", "first-letter", "before", "after"]

mutual

/-- Tests on one element, put onto the selector read so far. -/
def readTests : Nat → Bool → Selector → Option Chars → Read Branch
  | 0, _, s, p => return ⟨s, p⟩
  | fuel + 1, inside, s, pseudo => do
      let t ← peek
      if t.kind == .blank || t.kind == .endOfText || t.isOneOf [',', '+', '>', '~'] ||
          (inside && t.isMark ')') then
        return ⟨s, pseudo⟩
      match pseudo with
      | some p =>
          throw s!"Got pseudo-element ::{String.ofList p} not at the end of a selector"
      | none =>
      if t.kind == .hash then
        let _ ← next
        readTests fuel inside (.hash s t.value) none
      else if t.isMark '.' then
        let _ ← next
        readTests fuel inside (.classed s (← nextIdent)) none
      else if t.isMark '|' then
        let _ ← next
        readTests fuel inside (.element .unnamed (some (← nextIdent))) none
      else if t.isMark '[' then
        let _ ← next
        readTests fuel inside (← readAttribute s) none
      else if t.isMark ':' then
        let _ ← next
        if (← peek).isMark ':' then
          let _ ← next
          let name ← nextIdent
          if (← peek).isMark '(' then
            let _ ← next
            let _ ← readArguments fuel
          readTests fuel inside s (some name)
        else
          let ident ← nextIdent
          let name := lower ident
          if oldPseudoElements.contains (String.ofList name) then
            readTests fuel inside s (some ident)
          else if !(← peek).isMark '(' then
            if name == "scope".toList then
              match s with
              | .element .unnamed none =>
                  if !scopeIsFirst (← get).taken then
                    throw "Got pseudo-class \":scope\" not at the start of a selector"
              | _ => pure ()
            readTests fuel inside (.pseudo s name) none
          else
            let _ ← next
            skipBlank
            match String.ofList name with
            | "not" =>
                if inside then throw "Got nested :not()"
                let argument ← readNegated fuel
                readTests fuel inside (.negation s argument) none
            | "has" =>
                let mark ← peek
                let combinator ← match combinatorOf? mark with
                  | some c => do
                      let _ ← next
                      skipBlank
                      pure c
                  | none => pure .descendant
                let argument ← readInner fuel true
                readTests fuel inside (.relation s combinator argument) none
            | "is" =>
                let arguments ← readAlternatives fuel
                readTests fuel inside (.matching s arguments) none
            | "matches" =>
                let arguments ← readAlternatives fuel
                readTests fuel inside (.matching s arguments) none
            | "where" =>
                let arguments ← readAlternatives fuel
                readTests fuel inside (.matching s arguments) none
            | _ =>
                let arguments ← readArguments fuel
                readTests fuel inside (.function s name arguments) none
      else throw s!"Expected selector, got {t.shown}"

/-- The tests on one element. `inside` tells whether a closing parenthesis may end them. -/
def readCompound : Nat → Bool → Read Branch
  | 0, _ => return ⟨.element .unnamed none, none⟩
  | fuel + 1, inside => do
      skipBlank
      let before := (← get).taken.length
      let t ← peek
      let start ← if t.kind == .ident || t.isMark '*' then do
          let _ ← next
          let first : Option Chars := if t.kind == .ident then some t.value else none
          if (← peek).isMark '|' then
            let _ ← next
            let name ← nextIdentOrStar
            pure (Selector.element (match first with
              | some label => .named label
              | none => .any) name)
          else pure (Selector.element .unnamed first)
        else pure (Selector.element .unnamed none)
      let result ← readTests fuel inside start none
      if (← get).taken.length == before then
        throw s!"Expected selector, got {(← peek).shown}"
      return result

/-- A selector with combinators inside parentheses, up to the closing one. -/
def readInner : Nat → Bool → Read Selector
  | 0, _ => return .element .unnamed none
  | fuel + 1, _ => do
      let first ← readCompound fuel true
      readInnerFrom fuel first

/-- More of a selector inside parentheses. -/
def readInnerFrom : Nat → Branch → Read Selector
  | 0, b => return b.selector
  | fuel + 1, b => do
      skipBlank
      let t ← peek
      if t.isMark ')' || t.isMark ',' || t.kind == .endOfText then
        let close ← next
        match b.pseudoElement with
        | some p => throw s!"Got pseudo-element ::{String.ofList p} inside :not() at {close.position}"
        | none =>
            if close.isMark ')' then return b.selector
            else throw s!"Expected ')', got {close.shown}"
      else
        match b.pseudoElement with
        | some p =>
            throw s!"Got pseudo-element ::{String.ofList p} not at the end of a selector"
        | none =>
            let combinator ← match combinatorOf? t with
              | some c => do
                  let _ ← next
                  skipBlank
                  pure c
              | none => pure .descendant
            let right ← readCompound fuel true
            readInnerFrom fuel ⟨.combined b.selector combinator right.selector, right.pseudoElement⟩

/-- The argument of a negation, up to the closing parenthesis. -/
def readNegated : Nat → Read Selector
  | 0 => return .element .unnamed none
  | fuel + 1 => readInner fuel true

/-- The alternatives of a matching test, up to the closing parenthesis. -/
def readAlternatives : Nat → Read (List Selector)
  | 0 => return []
  | fuel + 1 => do
      let b ← readCompound fuel true
      match b.pseudoElement with
      | some p => throw s!"Got pseudo-element ::{String.ofList p} inside function"
      | none =>
          skipBlank
          let t ← next
          if t.isMark ',' then
            skipBlank
            return b.selector :: (← readAlternatives fuel)
          else if t.isMark ')' then return [b.selector]
          else throw s!"Expected an argument, got {t.shown}"

end

/-- More of a selector up to a comma or the end. -/
def readBranchFrom : Nat → Branch → Read Branch
  | 0, b => return b
  | fuel + 1, b => do
      skipBlank
      let t ← peek
      if t.kind == .endOfText || t.isMark ',' then return b
      match b.pseudoElement with
      | some p => throw s!"Got pseudo-element ::{String.ofList p} not at the end of a selector"
      | none =>
          let combinator ← match combinatorOf? t with
            | some c => do
                let _ ← next
                skipBlank
                pure c
            | none => pure .descendant
          let right ← readCompound fuel false
          readBranchFrom fuel ⟨.combined b.selector combinator right.selector, right.pseudoElement⟩

/-- Selectors separated by commas. -/
def readBranches : Nat → Read (List Branch)
  | 0 => return []
  | fuel + 1 => do
      let b ← readBranchFrom fuel (← readCompound fuel false)
      if (← peek).isMark ',' then
        let _ ← next
        skipBlank
        return b :: (← readBranches fuel)
      else return [b]

/-- The selectors that a text holds. -/
def readSelectors (s : Chars) : Except String (List Branch) := do
  let ts ← tokens s
  let fuel := 4 * ts.length + 8
  let (branches, _) ← (do skipBlank; readBranches fuel : Read (List Branch)).run ⟨ts, []⟩
  return branches

end MarkupQuery.Selector.Style
