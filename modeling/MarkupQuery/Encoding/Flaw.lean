import MarkupQuery.Encoding.Unicode
import MarkupQuery.Text.Quoted

/-!
# Flaws of UTF-8

Where bytes stop being UTF-8, and why. A lead byte may be followed by fewer bytes than it announces
because the bytes end, or because one does not fit.
-/

namespace MarkupQuery.Encoding

open MarkupQuery.Text

/-- Why bytes are not UTF-8. -/
inductive FlawReason where
  | badLead
  | badContinuation
  | endOfData
  deriving DecidableEq, Repr

/-- A part of some bytes that is not UTF-8. -/
structure Flaw where
  start : Nat
  size : Nat
  reason : FlawReason
  deriving DecidableEq, Repr

/-- How many bytes after a lead byte fit, the first in a range of its own. -/
def fittingBytes : Nat → Nat → Nat → Bytes → Nat
  | 0, _, _, _ => 0
  | _, _, _, [] => 0
  | missing + 1, low, high, b :: r =>
      if low ≤ b.toNat && b.toNat ≤ high then fittingBytes missing 0x80 0xbf r + 1 else 0

/-- The first flaw, with the number of bytes before the given ones. -/
def firstFlaw : Nat → Nat → Bytes → Option Flaw
  | 0, _, _ => none
  | _, _, [] => none
  | fuel + 1, start, b :: r =>
      if b.toNat < 0x80 then firstFlaw fuel (start + 1) r
      else match leadByte? b.toNat with
        | none => some ⟨start, 1, .badLead⟩
        | some (missing, low, high, _) =>
            let n := fittingBytes missing low high r
            if n == missing then firstFlaw fuel (start + 1 + missing) (r.drop missing)
            else if n == r.length then some ⟨start, n + 1, .endOfData⟩
            else some ⟨start, n + 1, .badContinuation⟩

/-- The wording of a flaw. The bytes that are missing at the end are counted from the lead byte, since
all before it was taken already. -/
def Flaw.message (f : Flaw) (bs : Bytes) : String :=
  let reason := match f.reason with
    | .badLead => "invalid start byte"
    | .badContinuation => "invalid continuation byte"
    | .endOfData => "unexpected end of data"
  let start := if f.reason == .endOfData then 0 else f.start
  let place :=
    if f.size == 1 then
      let byte := String.ofList (hexDigits 2 ((bs.drop f.start).headD 0).toNat)
      s!"byte 0x{byte} in position {start}"
    else s!"bytes in position {start}-{start + f.size - 1}"
  s!"'utf-8' codec can't decode {place}: {reason}"

/-- The text that bytes write in UTF-8, or what is wrong with them. -/
def readUtf8 (bs : Bytes) : Except String String :=
  match utf8? bs with
  | some s => .ok s
  | none =>
      match firstFlaw (bs.length + 1) 0 bs with
      | some f => .error (f.message bs)
      | none => .error ""

/-- Text in UTF-8 is read back. -/
theorem readUtf8_utf8Bytes (s : String) : readUtf8 (utf8Bytes s) = .ok s := by
  simp [readUtf8, utf8?_utf8Bytes]

end MarkupQuery.Encoding
