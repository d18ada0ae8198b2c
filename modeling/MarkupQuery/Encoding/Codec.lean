import MarkupQuery.Encoding.Unicode
import MarkupQuery.Encoding.CodePage
import MarkupQuery.Encoding.Kanji
import MarkupQuery.Text.LetterCase
import MarkupQuery.Text.Word

/-!
# Encodings by name

The encodings that a document can declare, found by name. A name is looked up in lower case with its
punctuation written as underscores, and again without hyphens. Decoding gives a character or nothing
for each part of the bytes: strict decoding fails where tolerant decoding replaces.
-/

namespace MarkupQuery.Encoding

open MarkupQuery.Text

/-! ## Codecs -/

/-- The ways of decoding bytes. -/
inductive Codec where
  | ascii
  | latin1
  | utf8
  /-- UTF-8 after an optional mark. -/
  | utf8Marked
  | utf16
  | utf16In (order : ByteOrder)
  | utf32
  | utf32In (order : ByteOrder)
  /-- A single-byte page, by its upper half. -/
  | page (upper : List Nat)
  | shiftJis
  | eucJp

/-- One byte of a single-byte page. -/
def pageChar (upper : List Nat) (b : UInt8) : Option Char :=
  if b.toNat < 128 then some (Char.ofNat b.toNat)
  else match upper[b.toNat - 128]? with
    | some n => if n == 0 then none else some (Char.ofNat n)
    | none => none

/-- Half-width characters of the Japanese encodings. -/
def halfWidth? (n : Nat) : Option Char :=
  if 0xa1 ≤ n && n ≤ 0xdf then some (Char.ofNat (0xff61 + (n - 0xa1))) else none

/-- The character of a pair of bytes in the shifted Japanese encoding. -/
def shiftedPair? (lead trail : Nat) : Option Char :=
  let row := 2 * (if lead < 0xa0 then lead - 0x81 else lead - 0xc1)
  if trail < 0x40 || trail == 0x7f || 0xfc < trail then none
  else if trail < 0x9f then kanji? row (trail - 0x40 - (if 0x7f < trail then 1 else 0))
  else kanji? (row + 1) (trail - 0x9f)

/-- The character of a pair of bytes in the extended Japanese encoding. -/
def extendedPair? (lead trail : Nat) : Option Char :=
  if lead == 0x8e then halfWidth? trail
  else if 0xa1 ≤ lead && 0xa1 ≤ trail then kanji? (lead - 0xa1) (trail - 0xa1)
  else none

/-- The characters of an encoding in which some bytes lead pairs: `lead` is such a byte when its
partner is awaited. A byte that fits no pair is read again on its own. -/
def pairedChars (single : Nat → Option Char) (leads : Nat → Bool)
    (pair : Nat → Nat → Option Char) : Bytes → Option Nat → List (Option Char)
  | [], lead => if lead.isSome then [none] else []
  | b :: r, lead =>
      let n := b.toNat
      let alone (r : Option Nat → List (Option Char)) : List (Option Char) :=
        if leads n then r (some n)
        else (if n < 0x80 then some (Char.ofNat n) else single n) :: r none
      match lead with
      | none => alone (pairedChars single leads pair r)
      | some l =>
          match pair l n with
          | some c => some c :: pairedChars single leads pair r none
          | none => none :: alone (pairedChars single leads pair r)

/-- The characters of the shifted Japanese encoding. -/
def shiftJisChars (bs : Bytes) : List (Option Char) :=
  pairedChars halfWidth? (fun n => (0x81 ≤ n && n ≤ 0x9f) || (0xe0 ≤ n && n ≤ 0xea)) shiftedPair?
    bs none

/-- The characters of the extended Japanese encoding. -/
def eucJpChars (bs : Bytes) : List (Option Char) :=
  pairedChars (fun _ => none) (fun n => n == 0x8e || (0xa1 ≤ n && n ≤ 0xf4)) extendedPair? bs none

/-- The parts of a byte string, nothing for the malformed ones. For UTF-8 see `Codec.decode?`. -/
def Codec.parts (c : Codec) (bs : Bytes) : List (Option Char) :=
  match c with
  | .ascii => bs.map fun b => if b.toNat < 128 then some (Char.ofNat b.toNat) else none
  | .latin1 => bs.map fun b => some (Char.ofNat b.toNat)
  | .utf8 | .utf8Marked => (utf8Tolerant bs).map some
  | .utf16 => withMark 2 (fun o bs => utf16Chars (utf16Units o bs)) bs
  | .utf16In o => utf16Chars (utf16Units o bs)
  | .utf32 => withMark 4 utf32Chars bs
  | .utf32In o => utf32Chars o bs
  | .page upper => bs.map (pageChar upper)
  | .shiftJis => shiftJisChars bs
  | .eucJp => eucJpChars bs

/-- The bytes after the mark of UTF-8. -/
def dropUtf8Mark : Bytes → Bytes
  | 0xef :: 0xbb :: 0xbf :: r => r
  | bs => bs

/-- Strict decoding: nothing if any part is malformed. -/
def Codec.decode? (c : Codec) (bs : Bytes) : Option String :=
  match c with
  | .utf8 => utf8? bs
  | .utf8Marked => utf8? (dropUtf8Mark bs)
  | c => ((c.parts bs).mapM id).map String.ofList

/-- Tolerant decoding: malformed parts are replaced. -/
def Codec.decodeTolerant (c : Codec) (bs : Bytes) : String :=
  match c with
  | .utf8Marked => String.ofList (utf8Tolerant (dropUtf8Mark bs))
  | c => String.ofList ((c.parts bs).map fun o => o.getD replacement)

/-! ## Names -/

/-- A name with every run of punctuation written as one underscore, none at the ends. -/
def plainName : Chars → Bool → Chars
  | [], _ => []
  | c :: r, gap =>
      if isAsciiLetter c || isAsciiDigit c || c == '.' then
        (if gap then ['_', c] else [c]) ++ plainName r false
      else plainName r true

/-- The codec with a plain name. -/
def codecOfPlain? (name : String) : Option Codec :=
  if ["ascii", "646", "ansi_x3.4_1968", "ansi_x3.4_1986", "ansi_x3_4_1968", "cp367", "csascii",
      "ibm367", "iso646_us", "iso_646.irv_1991", "iso_ir_6", "us", "us_ascii"].contains name then
    some .ascii
  else if ["latin_1", "8859", "cp819", "csisolatin1", "ibm819", "iso8859", "iso8859_1",
      "iso_8859_1", "iso_8859_1_1987", "iso_ir_100", "l1", "latin", "latin1"].contains name then
    some .latin1
  else if ["utf_8", "u8", "utf", "utf8", "utf8_ucs2", "utf8_ucs4", "cp65001"].contains name then
    some .utf8
  else if name == "utf_8_sig" then some .utf8Marked
  else if ["utf_16", "u16", "utf16"].contains name then some .utf16
  else if ["utf_16_le", "utf_16le", "unicodelittleunmarked"].contains name then
    some (.utf16In .little)
  else if ["utf_16_be", "utf_16be", "unicodebigunmarked"].contains name then some (.utf16In .big)
  else if ["utf_32", "u32", "utf32"].contains name then some .utf32
  else if ["utf_32_le", "utf_32le"].contains name then some (.utf32In .little)
  else if ["utf_32_be", "utf_32be"].contains name then some (.utf32In .big)
  else if ["shift_jis", "csshiftjis", "shiftjis", "sjis", "s_jis",
      "x_mac_japanese"].contains name then
    some .shiftJis
  else if ["euc_jp", "eucjp", "ujis", "u_jis"].contains name then some .eucJp
  else (codePage? name).map .page

/-- The codec with exactly this name, up to case and punctuation. -/
def codecNamed? (name : String) : Option Codec :=
  let plain := match plainName (lowerAscii name.toList) false with
    | '_' :: r => r
    | r => r
  codecOfPlain? (String.ofList plain)

/-- The codec that a declared name stands for. -/
def codec? (name : String) : Option Codec :=
  let name := match name with
    | "macintosh" => "mac-roman"
    | "x-sjis" => "shift-jis"
    | n => n
  match codecNamed? name with
  | some c => some c
  | none => codecNamed? (String.ofList (name.toList.filter (· != '-')))

end MarkupQuery.Encoding
