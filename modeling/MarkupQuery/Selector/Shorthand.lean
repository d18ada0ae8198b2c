import MarkupQuery.Text.Word

/-!
# The attribute shorthand

In the shorthand an attribute may be glued onto the last step of a path: `//a@href` means
`//a/@href`. A selector is a union of branches separated by bars, and each branch is rewritten on its
own. The attribute has to follow a word character, a closing bracket or parenthesis, or a star, and
only blanks may come after its name.
-/

namespace MarkupQuery.Selector

open MarkupQuery.Text

/-! ## Branches -/

/-- The parts of a text between bars. -/
def branches : Chars → List Chars
  | [] => [[]]
  | c :: r =>
      if c == '|' then [] :: branches r
      else match branches r with
        | [] => [[c]]
        | b :: bs => (c :: b) :: bs

/-- Texts joined by bars. -/
def joinBranches : List Chars → Chars
  | [] => []
  | [b] => b
  | b :: bs => b ++ '|' :: joinBranches bs

/-! ## Glued attributes -/

/-- A character that an attribute may be glued to. -/
def endsStep (c : Char) : Bool := isWord c || c == ']' || c == ')' || c == '*'

/-- A character of an attribute's name. -/
def isAttributeNameChar (c : Char) : Bool := isWord c || c == ':' || c == '.' || c == '-'

/-- Whether a text is an attribute's name, perhaps with blanks after it. -/
def isAttributeName (s : Chars) : Bool :=
  let name := trimEnd s
  !name.isEmpty && name.all isAttributeNameChar

/-- Puts a slash before the attribute glued onto a branch and drops the blanks after it. `before` is
the character before the rest of the branch. -/
def unglueFrom (before : Option Char) : Chars → Chars
  | [] => []
  | c :: r =>
      if c == '@' && before.any endsStep && isAttributeName r then '/' :: '@' :: trimEnd r
      else c :: unglueFrom (some c) r

/-- A branch with its glued attribute set apart. -/
def unglue (branch : Chars) : Chars := unglueFrom none branch

/-- The path that a selector in shorthand means. -/
def expandShorthand (selector : Chars) : Chars :=
  joinBranches ((branches selector).map unglue)

end MarkupQuery.Selector
