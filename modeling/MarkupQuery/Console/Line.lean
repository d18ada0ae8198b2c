import MarkupQuery.Console.Cell
import MarkupQuery.Text.Blank

/-!
# Lines on the console

Texts are shown line by line. Tabs go to the next column that is a multiple of eight. Lines that may be
as long as they are stay whole; others are broken between words, and a line that is still too long is cut
with an ellipsis.
-/

namespace MarkupQuery.Console

open MarkupQuery.Text

/-! ## Lines and tabs -/

/-- The lines of a text. -/
def linesOf (s : Chars) : List Chars := s.splitOn '\n'

/-- The distance between tab stops. -/
def tabSize : Nat := 8

/-- The parts of a line after its first tab: each is put where the tab before it ends. -/
def expandFrom : Nat → List Chars → Chars
  | _, [] => []
  | _, [last] => last
  | column, part :: rest =>
      let stop := column + cells (part ++ [' '])
      let fill := (tabSize - stop % tabSize) % tabSize
      part ++ List.replicate (fill + 1) ' ' ++ expandFrom (stop + fill) rest

/-- A line with spaces in place of tabs. -/
def expandTabs (line : Chars) : Chars := expandFrom 0 (line.splitOn '\t')

/-- A text shown in lines of any length, with the end of the last one. -/
def looseText (s : Chars) : Chars :=
  List.intercalate ['\n'] ((linesOf s).map expandTabs) ++ ['\n']

/-! ## Words -/

/-- The first word of a text with the blanks around it, and the rest; nothing if there is no word. -/
def nextWord? (s : Chars) : Option (Chars × Chars) :=
  let lead := s.takeWhile isBlank
  let word := (s.drop lead.length).takeWhile fun c => !isBlank c
  let tail := (s.drop (lead.length + word.length)).takeWhile isBlank
  if word.isEmpty then none
  else
    let n := lead.length + word.length + tail.length
    some (s.take n, s.drop n)

/-- The words of a text with the blanks around them. -/
def spacedWords : Nat → Chars → List Chars
  | 0, _ => []
  | fuel + 1, s =>
      match nextWord? s with
      | some (w, r) => w :: spacedWords fuel r
      | none => []

/-- Where a line of a certain width is broken: `done` characters of it lie before the words, and the words
since the last break take some cells. -/
def breaksAt (width : Nat) : Nat → Nat → List Chars → List Nat
  | _, _, [] => []
  | done, taken, w :: ws =>
      let needed := cells (trimEnd w)
      if needed + taken ≤ width then
        breaksAt width (done + w.length) (taken + cells w) ws
      else if width < needed then
        (if done == 0 then [] else [done]) ++ breaksAt width (done + w.length) (cells w) ws
      else if taken != 0 && done != 0 then
        done :: breaksAt width (done + w.length) (cells w) ws
      else breaksAt width (done + w.length) taken ws

/-- A text cut at some places; `done` characters were before it. -/
def cutAt : Nat → List Nat → Chars → List Chars
  | _, [], s => [s]
  | done, n :: ns, s => s.take (n - done) :: cutAt n ns (s.drop (n - done))

/-! ## Fitting -/

/-- How the lines of a cell are aligned. -/
inductive Alignment where
  | left
  | right
  deriving DecidableEq, Repr

/-- Drops blanks at the end of a line that is too long, as few as are needed. -/
def dropOuterBlanks (width : Nat) (s : Chars) : Chars :=
  let excess := s.length - width
  let blanks := s.length - (trimEnd s).length
  s.take (s.length - min blanks excess)

/-- A line that is no wider than told; what is cut off is marked. -/
def cutLine (width : Nat) (s : Chars) : Chars :=
  if width < cells s then toCells s ((width : Int) - 1) ++ ['…'] else s

/-- A line cut and filled to a width. -/
def alignLine (a : Alignment) (width : Nat) (s : Chars) : Chars :=
  match a with
  | .left =>
      let s := cutLine width s
      s ++ List.replicate (width - cells s) ' '
  | .right =>
      let s := cutLine width (trimEnd s)
      List.replicate (width - cells s) ' ' ++ s

/-- One line in lines of a width. -/
def wrapLine (a : Alignment) (width : Nat) (line : Chars) : List Chars :=
  let line := expandTabs line
  let breaks := breaksAt width 0 0 (spacedWords (line.length + 1) line)
  (cutAt 0 breaks line).map fun s => cutLine width (alignLine a width (dropOuterBlanks width s))

/-- A text in lines of a width. -/
def wrapText (a : Alignment) (width : Nat) (s : Chars) : List Chars :=
  ((linesOf s).flatMap (wrapLine a width)).map fun l => toCells l width

/-- The cells that a text takes if no line is broken. -/
def widestLine (s : Chars) : Nat :=
  ((s.splitOnP isLineEnd).map cells).foldl max 0
where
  /-- The characters that end lines where a text is measured. -/
  isLineEnd (c : Char) : Bool :=
    c == '\n' || c == '\r' || c == '\x0b' || c == '\x0c' || c == '\x1c' || c == '\x1d' ||
      c == '\x1e' || c == '\x85' || c == '\u2028' || c == '\u2029'

end MarkupQuery.Console
