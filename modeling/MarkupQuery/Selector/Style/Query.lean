import MarkupQuery.Selector.Style.Syntax
import MarkupQuery.Number.Integer

/-!
# Path queries for style selectors

Every style selector means a path query: a path, the name of an element and a condition on it.
In HTML, element and attribute names are matched in lower case, and a few tests on the state of form
elements and on languages have a meaning of their own.
-/

namespace MarkupQuery.Selector.Style

open MarkupQuery.Text

/-! ## Queries in parts -/

/-- A path query in parts: what leads to an element, its name, and a condition on it. -/
structure Query where
  path : String := ""
  element : String := "*"
  condition : String := ""
  deriving DecidableEq, Repr

/-- The query as text. -/
def Query.text (q : Query) : String :=
  q.path ++ q.element ++ (if q.condition.isEmpty then "" else "[" ++ q.condition ++ "]")

/-- The query with one more condition. -/
def Query.and (q : Query) (condition : String) : Query :=
  { q with condition :=
      if q.condition.isEmpty then condition else "(" ++ q.condition ++ ") and (" ++ condition ++ ")" }

/-- The name of the element as a condition. -/
def Query.named (q : Query) : Query :=
  if q.element == "*" then q else { q.and ("self::" ++ q.element) with element := "*" }

/-- Two queries one after the other. -/
def Query.join (q : Query) (between : String) (r : Query) : Query :=
  { r with path := q.text ++ between ++ r.path }

/-! ## Literals and names -/

/-- The parts of a text that consist of apostrophes only or hold none. -/
def apostropheRuns (s : Chars) : List Chars := s.splitBy fun a b => (a == '\'') == (b == '\'')

/-- A text as a literal of a query. -/
def literal (s : Chars) : String :=
  let quote (q : String) (s : Chars) : String := q ++ String.ofList s ++ q
  if !s.contains '\'' then quote "'" s
  else if !s.contains '"' then quote "\"" s
  else
    let parts := (apostropheRuns s).map fun p => quote (if p.contains '\'' then "\"" else "'") p
    "concat(" ++ String.intercalate "," parts ++ ")"

/-- Whether a name can stand in a query as it is. -/
def isSafeName (s : Chars) : Bool :=
  match s with
  | [] => false
  | c :: r =>
      (isAsciiLetter c || c == '_') && r.all fun c => isAsciiWord c || c == '.' || c == '-'

/-- The letters in upper case, for translations. -/
def upperLetters : String := "'ABCDEFGHIJKLMNOPQRSTUVWXYZ'"

/-- The letters in lower case, for translations. -/
def lowerLetters : String := "'abcdefghijklmnopqrstuvwxyz'"

/-- A value in lower case, as a query. -/
def lowered (value : String) : String :=
  "translate(" ++ value ++ ", " ++ upperLetters ++ ", " ++ lowerLetters ++ ")"

/-- Some text in a query. -/
def str (s : Chars) : String := String.ofList s

/-! ## Elements and attributes -/

/-- The query for an element of a given name. -/
def elementQuery (html : Bool) (space : Space) (name : Option Chars) : Query :=
  match name with
  | none =>
      match space with
      | .named label => { element := str label ++ ":*" }
      | _ => {}
  | some name =>
      let lowName := if html then lower name else name
      match space with
      | .any => ({} : Query).and ("local-name() = " ++ literal lowName)
      | .unnamed =>
          if isSafeName name then { element := str lowName }
          else ({} : Query).and ("name() = " ++ literal lowName)
      | .named label =>
          let full := label ++ ':' :: lowName
          if isSafeName name && isSafeName label then { element := str full }
          else ({} : Query).and ("name() = " ++ literal full)

/-- The query for an attribute of a given name. -/
def attributeQuery (html : Bool) (space : Space) (name : Chars) : String :=
  let name := if html then lower name else name
  match space with
  | .any => "attribute::*[local-name() = " ++ literal name ++ "]"
  | .unnamed =>
      if isSafeName name then "@" ++ str name else "attribute::*[name() = " ++ literal name ++ "]"
  | .named label =>
      let full := label ++ ':' :: name
      if isSafeName name && isSafeName label then "@" ++ str full
      else "attribute::*[name() = " ++ literal full ++ "]"

/-- The condition that a value holds a word. -/
def includesWord (source : String) (word : Chars) : String :=
  if word.isEmpty || word.any isStyleBlank then "0"
  else source ++ " and contains(" ++ source ++ ", " ++ literal word ++
    ") and contains(concat(' ', normalize-space(" ++ source ++ "), ' '), " ++
    literal (' ' :: word ++ [' ']) ++ ")"

/-- The condition that an attribute passes a test. -/
def attributeCondition (source : String) (test : AttributeTest) (value : Chars)
    (anyCase : Bool) : String :=
  let a := if anyCase then lowered source else source
  let v := if anyCase then lowerAscii value else value
  let nonEmpty (s : String) : String := if v.isEmpty then "0" else s
  match test with
  | .exists => source
  | .equals => a ++ " = " ++ literal v
  | .differs =>
      if v.isEmpty then a ++ " != " ++ literal v
      else "not(" ++ source ++ ") or " ++ a ++ " != " ++ literal v
  | .includes => includesWord a v
  | .dashMatch =>
      source ++ " and (" ++ a ++ " = " ++ literal v ++ " or starts-with(" ++ a ++ ", " ++
        literal (v ++ ['-']) ++ "))"
  | .startsWith => nonEmpty (source ++ " and starts-with(" ++ a ++ ", " ++ literal v ++ ")")
  | .endsWith =>
      nonEmpty (source ++ " and substring(" ++ a ++ ", string-length(" ++ a ++ ")-" ++
        toString (v.length - 1) ++ ") = " ++ literal v)
  | .contains => nonEmpty (source ++ " and contains(" ++ a ++ ", " ++ literal v ++ ")")

/-! ## Positions -/

/-- The two numbers of a series `an+b`. -/
def seriesOf? (arguments : List Token) : Option (Int × Int) :=
  if arguments.any fun t => t.kind == .string then none
  else
    let s := trim (arguments.flatMap (·.value))
    if s == "odd".toList then some (2, 1)
    else if s == "even".toList then some (2, 0)
    else if s == ['n'] then some (1, 0)
    else if !s.contains 'n' then (Number.readInt? s).map fun b => (0, b)
    else
      let a := s.takeWhile (· != 'n')
      let b := (s.dropWhile (· != 'n')).drop 1
      let a? : Option Int :=
        if a.isEmpty then some 1
        else if a == ['-'] || a == ['+'] then Number.readInt? (a ++ ['1'])
        else Number.readInt? a
      let b? : Option Int := if b.isEmpty then some 0 else Number.readInt? b
      match a?, b? with
      | some a, some b => some (a, b)
      | _, _ => none

/-- The condition that the number of siblings on one side is `an+b-1` for some `n`. -/
def seriesCondition (q : Query) (count : String) (a b : Int) : Query :=
  let c := b - 1
  if a == 1 && c ≤ 0 then q
  else if a < 0 && c < 0 then q.and "0"
  else if a == 0 then q.and (count ++ " = " ++ toString c)
  else
    let bound :=
      if 0 < a then (if 0 < c then [count ++ " >= " ++ toString c] else [])
      else [count ++ " <= " ++ toString c]
    let remainder :=
      if a.natAbs == 1 then []
      else
        let shift := Int.emod (-c) a.natAbs
        let left := if shift == 0 then count else "(" ++ count ++ " +" ++ toString shift ++ ")"
        [left ++ " mod " ++ toString a ++ " = 0"]
    match bound ++ remainder with
    | [one] => q.and one
    | all => q.and (String.intercalate " and " (all.map fun e => "(" ++ e ++ ")"))

/-- The count of siblings on one side that pass a test on their name. -/
def siblingCount (last : Bool) (test : String) : String :=
  "count(" ++ (if last then "following" else "preceding") ++ "-sibling::" ++ test ++ ")"

/-- The condition that a count is zero. -/
def isZero (count : String) : String := count ++ " = 0"

/-! ## States of form elements -/

/-- Tests whether the element has one of some names. -/
def hasName (names : List String) (separator : String) : String :=
  String.intercalate separator (names.map fun n => "name(.) = '" ++ n ++ "'")

/-- The condition that an element belongs to a disabled group of fields. -/
def inDisabledFields : String :=
  "ancestor::fieldset[@disabled] and not(count(ancestor::legend | " ++
    "ancestor::fieldset[@disabled]/legend[1]) < count(ancestor::legend) + " ++
    "count(ancestor::fieldset[@disabled]/legend[1]))"

/-- The condition that a form element is disabled. -/
def disabledCondition : String :=
  "\n        (\n            @disabled and\n            (\n                " ++
    hasName ["input", "button", "select", "textarea", "fieldset", "optgroup", "option"]
      " or\n                " ++
    "\n            )\n        ) or (\n            (\n                " ++
    hasName ["input", "button", "select", "textarea"] " or\n                " ++
    "\n            )\n            and " ++ inDisabledFields ++
    "\n        ) or (\n            name(.) = 'option' and ancestor::optgroup[@disabled]" ++
    "\n        )\n        "

/-- The condition that a form element is enabled. -/
def enabledCondition : String :=
  "\n        (\n            (\n                " ++
    hasName ["fieldset", "optgroup"] " or\n                " ++
    "\n            )\n            and not(@disabled)\n        ) or (\n            (" ++
    "\n                " ++
    hasName ["input", "button", "select", "textarea"] " or\n                " ++
    "\n            )\n            and not(@disabled) and not(" ++ inDisabledFields ++ ")" ++
    "\n        ) or (\n            name(.) = 'option' and not(" ++
    "\n                @disabled or ancestor::optgroup[@disabled]\n            )" ++
    "\n        )\n        "

/-- The condition that a form element is checked. -/
def checkedCondition : String :=
  "(@selected and name(.) = 'option') or (@checked and (name(.) = 'input' or " ++
    "name(.) = 'command')and (@type = 'checkbox' or @type = 'radio'))"

/-! ## Pseudo-classes -/

/-- A name with hyphens and underscores not told apart. -/
def plainName (s : Chars) : String := str (s.map fun c => if c == '_' then '-' else c)

/-- A query narrowed by a pseudo-class without arguments. -/
def pseudoQuery (html : Bool) (q : Query) (name : Chars) : Except String Query :=
  let never : Except String Query := .ok (q.and "0")
  let before (test : String) : String := siblingCount false test
  let after (test : String) : String := siblingCount true test
  let typed (label : String) (condition : String) : Except String Query :=
    if q.element == "*" then .error s!"*:{label} is not implemented" else .ok (q.and condition)
  match plainName name with
  | "root" => .ok (q.and "not(parent::*)")
  | "scope" => .ok (q.and "position() = 1")
  | "first-child" => .ok (q.and (isZero (before "*")))
  | "last-child" => .ok (q.and (isZero (after "*")))
  | "only-child" => .ok (q.and (isZero (before "*") ++ " and " ++ isZero (after "*")))
  | "first-of-type" => typed "first-of-type" (isZero (before q.element))
  | "last-of-type" => typed "last-of-type" (isZero (after q.element))
  | "only-of-type" =>
      typed "only-of-type" (isZero (before q.element) ++ " and " ++ isZero (after q.element))
  | "empty" => .ok (q.and "not(*) and not(string-length())")
  | "link" =>
      if html then .ok (q.and ("@href and (" ++ hasName ["a", "link", "area"] " or " ++ ")"))
      else never
  | "visited" => never
  | "hover" => never
  | "active" => never
  | "focus" => never
  | "target" => never
  | "enabled" => if html then .ok (q.and enabledCondition) else never
  | "disabled" => if html then .ok (q.and disabledCondition) else never
  | "checked" => if html then .ok (q.and checkedCondition) else never
  | _ => .error s!"The pseudo-class :{str name} is unknown"

/-- The tokens of an argument list in messages. -/
def shownTokens (ts : List Token) : String :=
  "[" ++ String.intercalate ", " (ts.map Token.shown) ++ "]"

/-- The only argument of a function, if it is a string or a name. -/
def singleArgument (name : String) (arguments : List Token) : Except String Chars :=
  match arguments with
  | [t] =>
      if t.kind == .string || t.kind == .ident then .ok t.value
      else .error s!"Expected a single string or ident for :{name}(), got {shownTokens arguments}"
  | _ => .error s!"Expected a single string or ident for :{name}(), got {shownTokens arguments}"

/-- A query narrowed by a pseudo-class with arguments. -/
def functionQuery (html : Bool) (q : Query) (name : Chars) (arguments : List Token) :
    Except String Query :=
  let series (last typed : Bool) : Except String Query :=
    if typed && q.element == "*" then .error "*:nth-of-type() is not implemented"
    else match seriesOf? arguments with
      | none => .error ("Invalid series: '" ++ shownTokens arguments ++ "'")
      | some (a, b) =>
          .ok (seriesCondition q (siblingCount last (if typed then q.element else "*")) a b)
  match plainName name with
  | "nth-child" => series false false
  | "nth-last-child" => series true false
  | "nth-of-type" => series false true
  | "nth-last-of-type" => series true true
  | "contains" => do
      let s ← singleArgument "contains" arguments
      return q.and ("contains(., " ++ literal s ++ ")")
  | "lang" => do
      let s ← singleArgument "lang" arguments
      if html then
        return q.and ("ancestor-or-self::*[@lang][1][starts-with(concat(" ++ lowered "@lang" ++
          ", '-'), " ++ literal (lower s ++ ['-']) ++ ")]")
      else return q.and ("lang(" ++ literal s ++ ")")
  | _ => .error s!"The pseudo-class :{str name}() is unknown"

/-! ## Whole selectors -/

/-- The condition on an element that stands for the left side of a combinator. -/
def leftCondition (combinator : Combinator) (left : Query) : String :=
  let c := left.named.condition
  let test := if c.isEmpty then "" else "[" ++ c ++ "]"
  match combinator with
  | .descendant => "ancestor::*" ++ test
  | .child => "parent::*" ++ test
  | .nextSibling => "preceding-sibling::*[1]" ++ test
  | .laterSibling => "preceding-sibling::*" ++ test

/-- Two queries joined by a combinator. -/
def combineQueries (combinator : Combinator) (left right : Query) : Query :=
  match combinator with
  | .descendant => left.join "/descendant::" right
  | .child => left.join "/" right
  | .laterSibling => left.join "/following-sibling::" right
  | .nextSibling => (left.join "/following-sibling::" right).named.and "position() = 1"

mutual

/-- The query that a selector means. -/
def Selector.query (html : Bool) : Selector → Except String Query
  | .element space name => .ok (elementQuery html space name)
  | .hash s id => do return (← s.query html).and ("@id = " ++ literal id)
  | .classed s name => do return (← s.query html).and (includesWord "@class" name)
  | .attribute s space name test value anyCase => do
      let a := attributeQuery html space name
      return (← s.query html).and (attributeCondition a test value anyCase)
  | .pseudo s name => do pseudoQuery html (← s.query html) name
  | .function s name arguments => do functionQuery html (← s.query html) name arguments
  | .negation s argument => do
      let q ← s.query html
      let c ← argument.condition html
      return q.and (if c.isEmpty then "0" else "not(" ++ c ++ ")")
  | .relation s combinator argument => do
      let q ← s.query html
      let r ← argument.query html
      return q.and (match combinator with
        | .descendant => "descendant::" ++ r.text
        | .child => "./" ++ r.text
        | .laterSibling => "following-sibling::" ++ r.text
        | .nextSibling => "following-sibling::*[1]/self::" ++ r.text)
  | .matching s arguments => do
      let q ← s.query html
      let cs ← alternatives html arguments
      match cs.filter (!·.isEmpty) with
      | [] => return q
      | [c] => return if cs.length == 1 then q.and c else q.and c
      | cs => return q.and (String.intercalate " or " (cs.map fun c => "(" ++ c ++ ")"))
  | .combined left combinator right => do
      return combineQueries combinator (← left.query html) (← right.query html)

/-- The condition that an element matches a selector, empty if every element does. -/
def Selector.condition (html : Bool) : Selector → Except String String
  | .combined left combinator right => do
      let l ← left.condition html
      let r ← right.condition html
      let c := leftCondition combinator { condition := l }
      return if r.isEmpty then c else r ++ " and " ++ c
  | s => do return ((← s.query html).named).condition

/-- The conditions of several selectors. -/
def alternatives (html : Bool) : List Selector → Except String (List String)
  | [] => .ok []
  | s :: ss => do
      let q ← s.query html
      return q.named.condition :: (← alternatives html ss)

end

/-- The query that a text of style selectors means. -/
def pathQuery (html : Bool) (leading : String) (selectors : Chars) : Except String String := do
  let branches ← readSelectors selectors
  let queries ← branches.mapM fun b => do
    let q ← b.selector.query html
    if b.pseudoElement.isSome then throw "Pseudo-elements are not supported."
    return leading ++ q.text
  return String.intercalate " | " queries

end MarkupQuery.Selector.Style
