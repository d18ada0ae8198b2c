import MarkupQuery.Fault
import MarkupQuery.Console.Picture
import MarkupQuery.Console.Style

/-!
# Tagged texts

A text for the console may hold tags in square brackets that style what they enclose. Since nothing is
coloured here, showing a text drops its tags; a closing tag still has to close something. A backslash
before a bracket makes it plain, and escaping a text puts one before each bracket that would begin a tag.
Main statement: escaping leaves a text without brackets and backslashes alone.
-/

namespace MarkupQuery.Console

open MarkupQuery.Text

/-! ## Finding tags -/

/-- The text of the tag at the start of a text, brackets left out: it begins with a letter in lower case or
one of three marks and holds no opening bracket. -/
def tagAt? : Chars → Option Chars
  | '[' :: c :: r =>
      if ('a' ≤ c && c ≤ 'z') || c == '#' || c == '/' || c == '@' then
        let inner := r.takeWhile fun x => x != ']' && x != '['
        match r.drop inner.length with
        | ']' :: _ => some (c :: inner)
        | _ => none
      else none
  | _ => none

/-- A part of a tagged text. -/
inductive Piece where
  /-- Backslashes and the tag after them, brackets left out. -/
  | tag (backslashes : Nat) (text : Chars)
  /-- Plain text. -/
  | plain (text : Chars)
  deriving DecidableEq, Repr

/-- Plain text before other pieces. -/
def addPlain (s : Chars) (ps : List Piece) : List Piece :=
  if s.isEmpty then ps
  else match ps with
    | .plain t :: r => .plain (s ++ t) :: r
    | ps => .plain s :: ps

/-- The pieces of a text, where `held` backslashes were read before it and `skip` characters belong to a
tag that was found. -/
def piecesFrom : Nat → Nat → Chars → List Piece
  | _, held, [] => addPlain (List.replicate held '\\') []
  | skip + 1, held, _ :: r => piecesFrom skip held r
  | 0, held, c :: r =>
      if c == '\\' then piecesFrom 0 (held + 1) r
      else match tagAt? (c :: r) with
        | some t => .tag held t :: piecesFrom (t.length + 1) 0 r
        | none => addPlain (List.replicate held '\\' ++ [c]) (piecesFrom 0 0 r)

/-- The pieces of a text. -/
def pieces (s : Chars) : List Piece := piecesFrom 0 0 s

/-! ## Escaping -/

/-- A piece in which no tag is left. -/
def Piece.escaped : Piece → Chars
  | .plain s => s
  | .tag n t => List.replicate (2 * n + 1) '\\' ++ '[' :: t ++ [']']

/-- A text whose brackets stand for themselves. A single backslash at the end is doubled. -/
def escapeTags (s : Chars) : Chars :=
  let s := (pieces s).flatMap Piece.escaped
  if s.getLast? == some '\\' && s.dropLast.getLast? != some '\\' then s ++ ['\\'] else s

/-- Without brackets and backslashes a text is one plain piece. -/
theorem pieces_plain {s : Chars} (hb : '[' ∉ s) (hs : '\\' ∉ s) : pieces s = addPlain s [] := by
  unfold pieces
  induction s with
  | nil => rfl
  | cons c r ih =>
    have h1 : c ≠ '[' := fun e => hb (e ▸ List.mem_cons_self)
    have h2 : (c == '\\') = false := by
      rw [beq_eq_false_iff_ne]
      exact fun e => hs (e ▸ List.mem_cons_self)
    have ht : tagAt? (c :: r) = none := by
      unfold tagAt?
      split
      · rename_i h
        simp only [List.cons.injEq] at h
        exact absurd h.1 h1
      · rfl
    have hr := ih (fun m => hb (List.mem_cons_of_mem _ m)) (fun m => hs (List.mem_cons_of_mem _ m))
    simp only [piecesFrom, h2, Bool.false_eq_true, if_false, ht, hr, List.replicate_zero,
      List.nil_append]
    cases r with
    | nil => rfl
    | cons x xs => rfl

/-- Such a text is left alone. -/
theorem escapeTags_eq_self {s : Chars} (hb : '[' ∉ s) (hs : '\\' ∉ s) : escapeTags s = s := by
  have hp : (pieces s).flatMap Piece.escaped = s := by
    rw [pieces_plain hb hs]
    cases s with
    | nil => rfl
    | cons c r => simp [addPlain, Piece.escaped]
  have hl : (s.getLast? == some '\\') = false := by
    rw [beq_eq_false_iff_ne]
    intro h
    exact hs (List.mem_of_getLast? h)
  simp [escapeTags, hp, hl]

/-! ## Showing -/

/-- A tag: its name in canonical form and whether it has parameters. -/
structure OpenTag where
  name : Chars
  parameters : Option Chars

/-- The tag that a text writes; the name is before the first equals sign. -/
def tagOfText (t : Chars) : OpenTag :=
  let name := t.takeWhile (· != '=')
  ⟨name, if t.contains '=' then some (t.drop (name.length + 1)) else none⟩

/-- Backslashes before brackets that begin no tag. -/
def dropEscapes : Chars → Chars
  | '\\' :: '[' :: r => '[' :: dropEscapes r
  | c :: r => c :: dropEscapes r
  | [] => []

/-- Plain text as it is shown. -/
def plainShown (s : Chars) : Chars := withPictures (dropEscapes s)

/-- Takes the tag that was opened last under a name off the open ones. -/
def closeNamed? (name : Chars) : List Chars → Option (List Chars)
  | [] => none
  | n :: ns => if n == name then some ns else (closeNamed? name ns).map (n :: ·)

/-- What pieces show while some tags are open, the last one first. -/
def showPieces : List Piece → List Chars → Except Fault Chars
  | [], _ => .ok []
  | .plain s :: ps, tags => do return plainShown s ++ (← showPieces ps tags)
  | .tag n t :: ps, tags => do
      let slashes := plainShown (List.replicate (n / 2) '\\')
      if n % 2 == 1 then
        return slashes ++ plainShown ('[' :: t ++ [']']) ++ (← showPieces ps tags)
      else
        let tag := tagOfText t
        let tags ← match tag.name with
          | '/' :: name =>
              let name := trim name
              if name.isEmpty then
                match tags with
                | _ :: rest => pure rest
                | [] => throw .unmatchedTag
              else match closeNamed? (canonicalStyle name) tags with
                | some rest => pure rest
                | none => throw .unmatchedTag
          | name => pure (canonicalStyle name :: tags)
        return slashes ++ (← showPieces ps tags)

/-- The control characters that are not shown. -/
def isUnshown (c : Char) : Bool :=
  c == '\x07' || c == '\x08' || c == '\x0b' || c == '\x0c' || c == '\r'

/-- A text without control characters. -/
def withoutControls (s : Chars) : Chars := s.filter fun c => !isUnshown c

/-- What a tagged text shows. -/
def showTagged (s : Chars) : Except Fault Chars :=
  if s.contains '[' then (showPieces (pieces s) []).map withoutControls
  else .ok (withoutControls (withPictures s))

/-- What a text shows that has no tags. -/
def showPlain (s : Chars) : Chars := withoutControls (withPictures s)

end MarkupQuery.Console
