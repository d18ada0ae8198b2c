import MarkupQuery.Text.LetterCase
import MarkupQuery.Console.PictureNames

/-!
# Pictures by name

A name between colons is replaced by the picture that it names, if there is one. The name may end in the
form that is wanted: as a picture or as text. What is between colons has no blanks in it. Main statement:
a text without colons stays as it is.
-/

namespace MarkupQuery.Console

open MarkupQuery.Text

/-! ## The table -/

/-- A name with its characters, and whether a tone of skin may be added. -/
structure PictureEntry where
  name : Chars
  picture : Chars
  toned : Bool

/-- An entry of the table. -/
def entryOf (entry : Chars) : PictureEntry :=
  let name := entry.takeWhile (· != '=')
  ⟨name.filter (· != '~'), entry.drop (name.length + 1), name.contains '~'⟩

/-- The picture that the table has under a name. -/
def lookupPicture (name : Chars) : Option PictureEntry :=
  pictureLines.findSome? fun line =>
    ((line.toList.splitOn ':').find? fun e => (entryOf e).name == name).map entryOf

/-- The tones of skin and the characters that stand for them. -/
def tones : List (String × Char) := [
  ("_light_skin_tone", Char.ofNat 0x1f3fb), ("_medium-light_skin_tone", Char.ofNat 0x1f3fc),
  ("_medium_skin_tone", Char.ofNat 0x1f3fd), ("_medium-dark_skin_tone", Char.ofNat 0x1f3fe),
  ("_dark_skin_tone", Char.ofNat 0x1f3ff)]

/-- A text without a certain end. -/
def withoutEnd? (s ending : Chars) : Option Chars :=
  if ending.length < s.length && s.drop (s.length - ending.length) == ending then
    some (s.take (s.length - ending.length))
  else none

/-- A picture with a tone after its first character, in place of a selector. -/
def addTone (picture : Chars) (tone : Char) : Chars :=
  picture.take 1 ++ tone :: (picture.drop 1).dropWhile (· == '\ufe0f')

/-- The picture that a name stands for. -/
def picture? (name : Chars) : Option Chars :=
  match lookupPicture name with
  | some e => some e.picture
  | none => tones.findSome? fun (ending, tone) =>
      (withoutEnd? name ending.toList).bind fun base =>
        (lookupPicture base).bind fun e => if e.toned then some (addTone e.picture tone) else none

/-! ## Replacing names -/

/-- A name between colons. -/
structure NamedPicture where
  name : Chars
  /-- The selector of the form that is asked for. -/
  form : Chars
  /-- How many characters it takes after the first colon. -/
  size : Nat

/-- A form and a colon at the start of a text: what the form selects, and the length of both. -/
def formAt (s : Chars) : Option (Chars × Nat) :=
  if s.take 7 == "-emoji:".toList then some (['\ufe0f'], 7)
  else if s.take 6 == "-text:".toList then some (['\ufe0e'], 6)
  else if s.head? == some ':' then some ([], 1)
  else none

/-- The name at the start of a text, up to the first colon. -/
def nameAt : Chars → Option NamedPicture
  | [] => none
  | c :: r =>
      match formAt (c :: r) with
      | some (form, size) => some ⟨[], form, size⟩
      | none =>
          if isBlank c then none
          else (nameAt r).map fun n => { n with name := c :: n.name, size := n.size + 1 }

/-- Replaces names, where `skip` characters belong to a name that was dealt with. -/
def replaceNames : Nat → Chars → Chars
  | _, [] => []
  | skip + 1, _ :: r => replaceNames skip r
  | 0, c :: r =>
      if c == ':' then
        match nameAt r with
        | none => ':' :: replaceNames 0 r
        | some n =>
            (match picture? (lower n.name) with
              | some p => p ++ n.form
              | none => ':' :: r.take n.size) ++ replaceNames n.size r
      else c :: replaceNames 0 r

/-- A text with pictures in place of their names. -/
def withPictures (s : Chars) : Chars := replaceNames 0 s

/-- A text without colons stays as it is. -/
theorem withPictures_eq_self {s : Chars} (h : ':' ∉ s) : withPictures s = s := by
  unfold withPictures
  induction s with
  | nil => rfl
  | cons c r ih =>
    have hc : (c == ':') = false := by
      rw [beq_eq_false_iff_ne]
      exact fun e => h (e ▸ List.mem_cons_self)
    have hr : ':' ∉ r := fun m => h (List.mem_cons_of_mem _ m)
    simp [replaceNames, hc, ih hr]

end MarkupQuery.Console
