import MarkupQuery.Proofs.Document.Installing
import MarkupQuery.Proofs.Encoding.Declarations

/-!
# Bytes and text

Markup is given as text or as bytes. Bytes in UTF-8 give back the text that they write, unless a mark at
the start or a declared encoding is tried first (`decode_utf8Bytes`); a document is then the same
whether it is opened with the bytes or with the text (`Opening.run_utf8Bytes`). What counts as declared
is decided by the bytes near the start alone, wherever in the markup they stand
(`decode_misled`).
-/

namespace MarkupQuery

open MarkupQuery.Text

namespace Encoding

/-! ## Marks -/

/-- Bytes of UTF-8 are less than those of the wide marks. -/
theorem lt_of_mem_utf8Bytes {m : String} {b : UInt8} (hb : b ∈ utf8Bytes m) : b.toNat < 254 := by
  rw [← String.ofList_toList (s := m), utf8Bytes_ofList] at hb
  obtain ⟨c, -, hb⟩ := List.mem_flatMap.mp hb
  cases hc : isAscii c with
  | true =>
    rw [utf8EncodeChar_of_isAscii hc, List.mem_singleton] at hb
    have hlt : c.toNat < 128 := of_decide_eq_true hc
    rw [hb, UInt8.toNat_ofNat']
    omega
  | false => exact (bounds_of_mem_utf8EncodeChar hc hb).2

/-- The bytes of a text without mark have none. -/
theorem splitMark_utf8Bytes {m : String} (h : m.toList.head? ≠ some '\ufeff') :
    splitMark (utf8Bytes m) = (none, utf8Bytes m) := by
  have hwide (n : Nat) {mark : Bytes} (b : UInt8) (hb : b ∈ mark) (hlt : 254 ≤ b.toNat) :
      ((utf8Bytes m).take n == mark) = false := by
    refine beq_eq_false_iff_ne.mpr fun heq => ?_
    have hmem := List.mem_of_mem_take (heq ▸ hb)
    exact absurd (lt_of_mem_utf8Bytes hmem) (by omega)
  have hnarrow : ((utf8Bytes m).take 3 == [0xef, 0xbb, 0xbf]) = false := by
    refine beq_eq_false_iff_ne.mpr fun heq => h ?_
    have hbytes := List.take_append_drop 3 (utf8Bytes m)
    rw [heq, ← String.ofList_toList (s := m), utf8Bytes_ofList] at hbytes
    cases hm : m.toList with
    | nil =>
      rw [hm] at hbytes
      cases hbytes
    | cons c cs =>
      rw [hm, List.flatMap_cons] at hbytes
      rw [eq_of_utf8EncodeChar_append hbytes.symm, List.head?_cons]
  have hbig : ((utf8Bytes m).take 2 == [0xfe, 0xff]) = false := hwide 2 0xfe (by decide) (by decide)
  have hlittle : ((utf8Bytes m).take 2 == [0xff, 0xfe]) = false :=
    hwide 2 0xff (by decide) (by decide)
  have hbigger : ((utf8Bytes m).take 4 == [0, 0, 0xfe, 0xff]) = false :=
    hwide 4 0xfe (by decide) (by decide)
  have hlittler : ((utf8Bytes m).take 4 == [0xff, 0xfe, 0, 0]) = false :=
    hwide 4 0xff (by decide) (by decide)
  simp only [splitMark, hnarrow, hbig, hlittle, hbigger, hlittler, Bool.and_false,
    Bool.false_eq_true, if_false]

/-! ## Decoding -/

deriving instance DecidableEq for Codec

/-- Bytes in UTF-8 without mark and declaration are decoded as such. -/
theorem decode_utf8Bytes {kind : Kind} {m : String} (hmark : m.toList.head? ≠ some '\ufeff')
    (h : ¬ Declares kind m.toList) : decode (utf8Bytes m) kind = m := by
  have hcodecs : (candidates none none).filterMap codec? = .utf8 :: ["windows-1252"].filterMap codec? :=
    List.filterMap_cons_some (by decide +kernel)
  rw [decode, splitMark_utf8Bytes hmark]
  dsimp only
  rw [declaredEncoding?_utf8Bytes h, hcodecs, List.findSome?_cons, Codec.decode?, utf8?_utf8Bytes]

/-- What is written like a declaration near the start counts as one, whatever it stands in. -/
theorem decode_misled :
    let m := "<?p?><r encoding=\"latin-1\">é</r><?x?>"
    ¬ "<?xml".toList <+: m.toList ∧ decode (utf8Bytes m) .xml ≠ m := by
  decide +kernel

end Encoding

/-! ## Documents -/

open Encoding

/-- Two openings with the same settings, both with markup or both without, are settled alike. -/
theorem Opening.settle_congr {o : Opening} {s t : MarkupSource} (h : s.isPresent = t.isPresent) :
    { o with markup := s }.settle = { o with markup := t }.settle := by
  simp only [Opening.settle, h]

theorem Opening.kind_of_settle {o : Opening} {d : Document} (h : o.settle = .ok d) :
    Kind.ofDatum? o.kind = some d.kind := by
  have hkind := (Opening.settles_of_settle h).kind
  rw [Kind.ofDatum] at hkind
  split at hkind
  · next k hk =>
    cases hkind
    exact hk
  · cases hkind

/-- A text has bytes if it has characters. -/
theorem isPresent_utf8Bytes (m : String) :
    (MarkupSource.bytes (utf8Bytes m)).isPresent =
      (MarkupSource.text (codePoints m.toList)).isPresent := by
  rw [← String.ofList_toList (s := m), utf8Bytes_ofList, String.toList_ofList]
  cases m.toList with
  | nil => rfl
  | cons c cs => simp [MarkupSource.isPresent, codePoints]

/-- Markup that declares no encoding opens the same document, and logs the same, whether it is given as
text or as bytes in UTF-8, which are read as the text that they write. -/
theorem Opening.run_utf8Bytes {kind : Kind} {m : String} (hmark : m.toList.head? ≠ some '\ufeff')
    (h : ¬ Declares kind m.toList) :
    decode (utf8Bytes m) kind = m ∧
      ∀ o : Opening, Kind.ofDatum? o.kind = some kind →
        { o with markup := .bytes (utf8Bytes m) }.run =
          { o with markup := .text (codePoints m.toList) }.run := by
  have hdecode := decode_utf8Bytes hmark h
  refine ⟨hdecode, fun o hkind => ?_⟩
  have hsettle := Opening.settle_congr (o := o) (isPresent_utf8Bytes m)
  cases hd : { o with markup := .text (codePoints m.toList) }.settle with
  | error f => rw [Opening.run, Opening.run, hsettle, hd]
  | ok d =>
    have hread : (MarkupSource.bytes (utf8Bytes m)).read d.kind = codePoints m.toList := by
      obtain rfl := Option.some.inj ((Opening.kind_of_settle hd).symm.trans hkind)
      rw [MarkupSource.read, hdecode]
    rw [Opening.run_eq hd, Opening.run_eq (hsettle.trans hd)]
    dsimp only
    rw [hread, MarkupSource.read]

theorem Opening.run_utf8Bytes_accented :
    let m := "<p>é</p>"
    (m.toList.head? ≠ some '\ufeff' ∧ ¬ Declares .html m.toList) ∧
      decode (utf8Bytes m) .html = m ∧
      ∀ o : Opening, Kind.ofDatum? o.kind = some .html →
        { o with markup := .bytes (utf8Bytes m) }.run =
          { o with markup := .text (codePoints m.toList) }.run := by
  have hmark : "<p>é</p>".toList.head? ≠ some '\ufeff' := by decide
  have hdeclares : ¬ Declares .html "<p>é</p>".toList := not_declares_of_not_mem (by decide)
  exact ⟨⟨hmark, hdeclares⟩, Opening.run_utf8Bytes hmark hdeclares⟩

end MarkupQuery
