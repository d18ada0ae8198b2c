import MarkupQuery.Encoding.Codec
import MarkupQuery.Pattern.Reader
import MarkupQuery.Pattern.Segments
import MarkupQuery.Kind

/-!
# Finding out an encoding

Bytes become text in the first encoding that fits: the one told by a mark at the start, the one that
the document declares, UTF-8, and last a western code page. If none fits, the first of them decodes
tolerantly. A declaration is looked for near the start only.
-/

namespace MarkupQuery.Encoding

open MarkupQuery.Text
open MarkupQuery.Pattern (Regex)

/-! ## Marks -/

/-- A byte order mark taken off, with the encoding that it tells. -/
def splitMark (bs : Bytes) : Option String × Bytes :=
  let wide := 4 ≤ bs.length && (bs.drop 2).take 2 != [0, 0]
  if wide && bs.take 2 == [0xfe, 0xff] then (some "utf-16be", bs.drop 2)
  else if wide && bs.take 2 == [0xff, 0xfe] then (some "utf-16le", bs.drop 2)
  else if bs.take 3 == [0xef, 0xbb, 0xbf] then (some "utf-8", bs.drop 3)
  else if bs.take 4 == [0, 0, 0xfe, 0xff] then (some "utf-32be", bs.drop 4)
  else if bs.take 4 == [0xff, 0xfe, 0, 0] then (some "utf-32le", bs.drop 4)
  else (none, bs)

/-! ## Declarations -/

/-- The flags under which declarations are looked for. -/
def declarationFlags : Pattern.Flags := { ignoreCase := true, ascii := true }

/-- A pattern that is known to be well formed. -/
def declarationPattern (source : String) : Regex :=
  match Regex.read source.toList declarationFlags with
  | .ok r => r
  | .error _ => ⟨[], 0, [], .choice []⟩

/-- The declaration at the start of an XML document. -/
def xmlDeclaration : Regex :=
  declarationPattern "^\\s*<\\?.*encoding=['\"](.*?)['\"].*\\?>"

/-- The declaration in the head of an HTML document. -/
def metaDeclaration : Regex :=
  declarationPattern "<\\s*meta[^>]+charset\\s*=\\s*[\"']?([^>]*?)[ /;'\">]"

/-- The first group of the first match of a pattern. -/
def firstGroup? (r : Regex) (text : Chars) : Option Chars :=
  match r.search text (Pattern.Place.atStart text) false [] with
  | some (_, m, _) => m.group 1
  | none => none

/-- The encoding that a document declares. -/
def declaredEncoding? (bs : Bytes) (kind : Kind) : Option String :=
  let text := bs.map fun b => Char.ofNat b.toNat
  let found :=
    match firstGroup? xmlDeclaration (text.take 1024) with
    | some name => some name
    | none =>
        if kind = Kind.html then
          firstGroup? metaDeclaration (text.take (max 2048 (text.length / 20)))
        else none
  match found with
  | some [] => none
  | some name => some (String.ofList (lowerAscii (name.map fun (c : Char) =>
      if c.toNat < 128 then c else replacement)))
  | none => none

/-! ## Decoding -/

/-- The encodings to try, in order. -/
def candidates (mark : Option String) (declared : Option String) : List String :=
  mark.toList ++ declared.toList ++ ["utf-8", "windows-1252"]

/-- The text of bytes of unknown encoding. -/
def decode (bs : Bytes) (kind : Kind) : String :=
  let (mark, bs) := splitMark bs
  let codecs := (candidates mark (declaredEncoding? bs kind)).filterMap codec?
  match codecs.findSome? fun c => c.decode? bs with
  | some text => text
  | none =>
      match codecs with
      | c :: _ => c.decodeTolerant bs
      | [] => ""

end MarkupQuery.Encoding
