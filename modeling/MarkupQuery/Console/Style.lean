import MarkupQuery.Text.LetterCase
import MarkupQuery.Number.Integer

/-!
# Names of styles

A style is written as words: attributes, colours, a background and a link. Two ways to write one style
have the same canonical text, in which attributes come first and in a fixed order. What is no style is
only trimmed and put into lower case.
-/

namespace MarkupQuery.Console

open MarkupQuery.Text

/-! ## Words -/

/-- The attributes, in the order of the canonical text, with their short names. -/
def attributeNames : List (String × List String) := [
  ("bold", ["b"]), ("dim", ["d"]), ("italic", ["i"]), ("underline", ["u"]), ("blink", []),
  ("blink2", []), ("reverse", ["r"]), ("conceal", ["c"]), ("strike", ["s"]),
  ("underline2", ["uu"]), ("frame", []), ("encircle", []), ("overline", ["o"])]

/-- The attribute that a word names. -/
def attributeOf? (word : String) : Option String :=
  (attributeNames.find? fun a => a.1 == word || a.2.contains word).map (·.1)

/-- The lines of the table of colours. -/
def colourLines : List String := [
  "default black red green yellow blue magenta cyan white bright_black bright_red",
  "bright_green bright_yellow bright_blue bright_magenta bright_cyan bright_white grey0",
  "gray0 navy_blue dark_blue blue3 blue1 dark_green deep_sky_blue4 dodger_blue3",
  "dodger_blue2 green4 spring_green4 turquoise4 deep_sky_blue3 dodger_blue1 green3",
  "spring_green3 dark_cyan light_sea_green deep_sky_blue2 deep_sky_blue1 spring_green2",
  "cyan3 dark_turquoise turquoise2 green1 spring_green1 medium_spring_green cyan2 cyan1",
  "dark_red deep_pink4 purple4 purple3 blue_violet orange4 grey37 gray37 medium_purple4",
  "slate_blue3 royal_blue1 chartreuse4 dark_sea_green4 pale_turquoise4 steel_blue",
  "steel_blue3 cornflower_blue chartreuse3 cadet_blue sky_blue3 steel_blue1 pale_green3",
  "sea_green3 aquamarine3 medium_turquoise chartreuse2 sea_green2 sea_green1 aquamarine1",
  "dark_slate_gray2 dark_magenta dark_violet purple light_pink4 plum4 medium_purple3",
  "slate_blue1 yellow4 wheat4 grey53 gray53 light_slate_grey light_slate_gray",
  "medium_purple light_slate_blue dark_olive_green3 dark_sea_green light_sky_blue3",
  "sky_blue2 dark_sea_green3 dark_slate_gray3 sky_blue1 chartreuse1 light_green",
  "pale_green1 dark_slate_gray1 red3 medium_violet_red magenta3 dark_orange3 indian_red",
  "hot_pink3 medium_orchid3 medium_orchid medium_purple2 dark_goldenrod light_salmon3",
  "rosy_brown grey63 gray63 medium_purple1 gold3 dark_khaki navajo_white3 grey69 gray69",
  "light_steel_blue3 light_steel_blue yellow3 dark_sea_green2 light_cyan3 light_sky_blue1",
  "green_yellow dark_olive_green2 dark_sea_green1 pale_turquoise1 deep_pink3 magenta2",
  "hot_pink2 orchid medium_orchid1 orange3 light_pink3 pink3 plum3 violet",
  "light_goldenrod3 tan misty_rose3 thistle3 plum2 khaki3 light_goldenrod2 light_yellow3",
  "grey84 gray84 light_steel_blue1 yellow2 dark_olive_green1 honeydew2 light_cyan1 red1",
  "deep_pink2 deep_pink1 magenta1 orange_red1 indian_red1 hot_pink dark_orange salmon1",
  "light_coral pale_violet_red1 orchid2 orchid1 orange1 sandy_brown light_salmon1",
  "light_pink1 pink1 plum1 gold1 navajo_white1 misty_rose1 thistle1 yellow1",
  "light_goldenrod1 khaki1 wheat1 cornsilk1 grey100 gray100 grey3 gray3 grey7 gray7",
  "grey11 gray11 grey15 gray15 grey19 gray19 grey23 gray23 grey27 gray27 grey30 gray30",
  "grey35 gray35 grey39 gray39 grey42 gray42 grey46 gray46 grey50 gray50 grey54 gray54",
  "grey58 gray58 grey62 gray62 grey66 gray66 grey70 gray70 grey74 gray74 grey78 gray78",
  "grey82 gray82 grey85 gray85 grey89 gray89 grey93 gray93"]

/-- Whether a colour has a name. -/
def isColourName (word : String) : Bool := colourLines.any fun l => (l.splitOn " ").contains word

/-- Whether a word is a colour: a name, six hexadecimal digits, a number, or three parts. -/
def isColour (word : String) : Bool :=
  let s := word.toList
  isColourName word ||
    (s.length == 7 && s.head? == some '#' && s.tail.all fun c => c.isDigit || ('a' ≤ c && c ≤ 'f')) ||
    isCall "color(" 3 (fun c => c.isDigit) s && (Number.readInt? (argument s)).any (· ≤ 255) ||
    isCall "rgb(" s.length (fun c => isDecimal c || isBlank c || c == ',') s && isTriple (argument s)
where
  /-- What stands between the brackets of a call. -/
  argument (s : Chars) : Chars := (s.dropWhile (· != '(')).drop 1 |>.dropLast
  /-- A name, a bracket, some characters, and a bracket. -/
  isCall (start : String) (most : Nat) (fits : Char → Bool) (s : Chars) : Bool :=
    start.toList.isPrefixOf s && s.getLast? == some ')' &&
      !(argument s).isEmpty && (argument s).length ≤ most && (argument s).all fits
  /-- Three numbers up to 255. -/
  isTriple (s : Chars) : Bool :=
    let parts := s.splitOn ','
    parts.length == 3 && parts.all fun p => (Number.readInt? p).any (· ≤ 255)

/-! ## Styles -/

/-- A style. -/
structure Style where
  /-- Attributes that are set or taken off. -/
  attributes : List (String × Bool) := []
  colour : Option String := none
  background : Option String := none
  link : Option String := none

/-- Sets an attribute. -/
def Style.setAttribute (s : Style) (name : String) (value : Bool) : Style :=
  { s with attributes := s.attributes.filter (·.1 != name) ++ [(name, value)] }

/-- The style that words write. -/
def Style.ofWords? : List String → Style → Option Style
  | [], s => some s
  | word :: rest, s =>
      match lowerString word, rest with
      | "on", c :: r => if isColour (lowerString c) then
          Style.ofWords? r { s with background := some (lowerString c) } else none
      | "on", [] => none
      | "not", a :: r => (attributeOf? a).bind fun a => Style.ofWords? r (s.setAttribute a false)
      | "not", [] => none
      | "link", u :: r => Style.ofWords? r { s with link := some u }
      | "link", [] => none
      | w, r =>
          match attributeOf? w with
          | some a => Style.ofWords? r (s.setAttribute a true)
          | none =>
              if isColour w then Style.ofWords? r { s with colour := some w } else none

/-- The canonical text of a style. -/
def Style.text (s : Style) : String :=
  let set := attributeNames.filterMap fun a =>
    (s.attributes.lookup a.1).map fun on => if on then a.1 else "not " ++ a.1
  let part (lead : String) (v : Option String) : List String :=
    match v with
    | some v => [lead ++ v]
    | none => []
  let words := set ++ part "" s.colour ++ part "on " s.background ++ part "link " s.link
  if words.isEmpty then "none" else String.intercalate " " words

/-- The words of a text, separated by blanks. -/
def wordsOf (s : Chars) : List Chars :=
  ((s.splitOnP isBlank).filter fun w => !w.isEmpty)

/-- The canonical text of what may be a style. -/
def canonicalStyle (s : Chars) : Chars :=
  if trim s == "none".toList || (trim s).isEmpty then "none".toList
  else match Style.ofWords? ((wordsOf s).map String.ofList) {} with
    | some style => style.text.toList
    | none => lower (trim s)

end MarkupQuery.Console
