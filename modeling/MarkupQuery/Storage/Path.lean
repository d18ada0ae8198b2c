/-!
# Paths

A path leads from the current folder, or from the top, through the names between its slashes. Empty
names and single dots lead nowhere and are left out; two dots lead to the folder around.
-/

namespace MarkupQuery.Storage

/-- A path. -/
structure Path where
  /-- The slashes in front of a path that starts at the top. -/
  top : String
  names : List String
  deriving DecidableEq, Repr

/-- The slashes that a path starts with: two are kept, more are one. -/
def topOf (text : List Char) : String :=
  let slashes := (text.takeWhile (· == '/')).length
  if slashes == 0 then "" else if slashes == 2 then "//" else "/"

/-- The names between the slashes of a text. -/
def namesOf (text : List Char) : List String :=
  ((text.splitOn '/').map String.ofList).filter fun n => n != "" && n != "."

/-- The path that a text writes. -/
def Path.ofText (text : String) : Path := ⟨topOf text.toList, namesOf text.toList⟩

/-- The text of a path. The path that leads nowhere is a dot. -/
def Path.text (p : Path) : String :=
  if p.top == "" && p.names.isEmpty then "." else p.top ++ String.intercalate "/" p.names

/-- Whether there is a null character in a path; no file has such a name. -/
def Path.hasNull (p : Path) : Bool := p.names.any fun n => n.toList.contains (Char.ofNat 0)

/-- The path without its last name. -/
def Path.around (p : Path) : Path := { p with names := p.names.dropLast }

end MarkupQuery.Storage
