import MarkupQuery.Text.Blank

/-!
# Unicode encodings

Decoding UTF-8, UTF-16 and UTF-32. Strict decoding gives nothing on malformed input; the tolerant
forms put the replacement character in place of every malformed part.
-/

namespace MarkupQuery.Encoding

open MarkupQuery.Text

/-- A string of bytes. -/
abbrev Bytes := List UInt8

/-- The replacement character. -/
def replacement : Char := '\ufffd'

/-- Bytes as the machine stores them. -/
def Bytes.toArray (bs : Bytes) : ByteArray := ⟨List.toArray bs⟩

/-! ## UTF-8 -/

/-- Strict decoding of UTF-8. -/
def utf8? (bs : Bytes) : Option String := String.fromUTF8? bs.toArray

/-- The bytes of a text in UTF-8. -/
def utf8Bytes (s : String) : Bytes := s.toUTF8.data.toList

/-- Strict decoding undoes encoding. -/
theorem utf8?_utf8Bytes (s : String) : utf8? (utf8Bytes s) = some s := by
  have h : Bytes.toArray (utf8Bytes s) = s.toUTF8 := by
    simp [Bytes.toArray, utf8Bytes]
  rw [utf8?, h]
  simp [String.fromUTF8?, s.isValidUTF8, String.fromUTF8]

/-- What may follow a lead byte: the number of further bytes, the range of the first of them and the
bits of the lead byte itself. -/
def leadByte? (b : Nat) : Option (Nat × Nat × Nat × Nat) :=
  if 0xc2 ≤ b && b ≤ 0xdf then some (1, 0x80, 0xbf, b - 0xc0)
  else if b == 0xe0 then some (2, 0xa0, 0xbf, 0)
  else if b == 0xed then some (2, 0x80, 0x9f, 0xd)
  else if 0xe1 ≤ b && b ≤ 0xef then some (2, 0x80, 0xbf, b - 0xe0)
  else if b == 0xf0 then some (3, 0x90, 0xbf, 0)
  else if 0xf1 ≤ b && b ≤ 0xf3 then some (3, 0x80, 0xbf, b - 0xf0)
  else if b == 0xf4 then some (3, 0x80, 0x8f, 4)
  else none

/-- What the tolerant decoder is in the middle of. -/
structure Utf8Pending where
  /-- How many bytes are missing. -/
  missing : Nat
  /-- The range of the next one. -/
  low : Nat
  high : Nat
  /-- The bits read so far. -/
  bits : Nat

/-- Tolerant decoding of UTF-8: every longest malformed part is replaced once. -/
def utf8TolerantFrom : Bytes → Option Utf8Pending → Chars
  | [], none => []
  | [], some _ => [replacement]
  | b :: r, pending =>
      let n := b.toNat
      let fresh : Chars × Option Utf8Pending :=
        if n < 0x80 then ([Char.ofNat n], none)
        else match leadByte? n with
          | some (missing, low, high, bits) => ([], some ⟨missing, low, high, bits⟩)
          | none => ([replacement], none)
      match pending with
      | none => fresh.1 ++ utf8TolerantFrom r fresh.2
      | some p =>
          if p.low ≤ n && n ≤ p.high then
            let bits := 64 * p.bits + (n - 0x80)
            if p.missing == 1 then Char.ofNat bits :: utf8TolerantFrom r none
            else utf8TolerantFrom r (some ⟨p.missing - 1, 0x80, 0xbf, bits⟩)
          else replacement :: fresh.1 ++ utf8TolerantFrom r fresh.2

/-- Tolerant decoding of UTF-8. -/
def utf8Tolerant (bs : Bytes) : Chars := utf8TolerantFrom bs none

/-! ## UTF-16 and UTF-32 -/

/-- The byte orders. -/
inductive ByteOrder where
  | little
  | big
  deriving DecidableEq, Repr

/-- The number that bytes write in an order. -/
def ByteOrder.number (o : ByteOrder) (bs : Bytes) : Nat :=
  let big := match o with
    | .big => bs
    | .little => bs.reverse
  big.foldl (fun n b => 256 * n + b.toNat) 0

/-- The units of UTF-16; a last odd byte is malformed. -/
def utf16Units (o : ByteOrder) : Bytes → List (Option Nat)
  | a :: b :: r => some (o.number [a, b]) :: utf16Units o r
  | [_] => [none]
  | [] => []

/-- The characters of UTF-16 units, none for each malformed part; `lead` is the first half of a pair
whose second half is awaited. -/
def utf16CharsFrom : List (Option Nat) → Option Nat → List (Option Char)
  | [], lead => if lead.isSome then [none] else []
  | u :: r, lead =>
      let lost : List (Option Char) := if lead.isSome then [none] else []
      match u with
      | none => lost ++ none :: utf16CharsFrom r none
      | some n =>
          if 0xd800 ≤ n && n < 0xdc00 then lost ++ utf16CharsFrom r (some n)
          else if 0xdc00 ≤ n && n < 0xe000 then
            (lead.map fun h => Char.ofNat (0x10000 + (h - 0xd800) * 1024 + (n - 0xdc00))) ::
              utf16CharsFrom r none
          else lost ++ some (Char.ofNat n) :: utf16CharsFrom r none

/-- The characters of UTF-16 units, none for each malformed part. -/
def utf16Chars (units : List (Option Nat)) : List (Option Char) := utf16CharsFrom units none

/-- The characters of UTF-32, none for each malformed part. -/
def utf32Chars (o : ByteOrder) : Bytes → List (Option Char)
  | a :: b :: c :: d :: r =>
      let n := o.number [a, b, c, d]
      (if n < 0xd800 || (0xe000 ≤ n && n < 0x110000) then some (Char.ofNat n) else none) ::
        utf32Chars o r
  | [] => []
  | _ => [none]

/-- UTF-16 or UTF-32 text whose byte order is told by a mark; without one it is little. -/
def withMark (width : Nat) (decode : ByteOrder → Bytes → List (Option Char)) (bs : Bytes) :
    List (Option Char) :=
  let mark := bs.take width
  if mark == (List.replicate (width - 2) 0 ++ [0xfe, 0xff]) then decode .big (bs.drop width)
  else if mark == ([0xff, 0xfe] ++ List.replicate (width - 2) 0) then
    decode .little (bs.drop width)
  else decode .little bs

end MarkupQuery.Encoding
