import MarkupQuery.Fault
import MarkupQuery.Storage.Path
import MarkupQuery.Encoding.Unicode

/-!
# Files

Files and folders by the places where they are. Main statement: a file that was put at a place is found
there with what it holds.
-/

namespace MarkupQuery.Storage

open MarkupQuery.Encoding

/-- The names that lead to a file or a folder from the current folder, or from the top after a slash. Two
dots stand only in front: they lead to the folders around the current one. -/
abbrev Place := List String

/-- Files with what they hold, and folders. The current folder, those around it and the top are always
there. -/
structure Files where
  files : List (Place × Bytes) := []
  folders : List Place := []

/-- What a path leads to. -/
inductive Entry where
  | file (place : Place) (bytes : Bytes)
  | folder (place : Place)
  /-- Nothing; if the folder around it exists, the place where something could be. -/
  | missing (place : Option Place)
  /-- The way goes through a file. -/
  | blocked

/-- The top, from which paths with a slash in front lead. -/
def topPlace : Place := ["/"]

/-- Whether a place is the current folder or one around it. -/
def isAround (p : Place) : Bool := p.all (· == "..")

/-- Whether a place is a folder: one that is always there, a known one, or one around something known. -/
def Files.isFolder (s : Files) (p : Place) : Bool :=
  isAround p || p == topPlace || s.folders.any (p.isPrefixOf ·) ||
    s.files.any fun f => p.isPrefixOf f.1 && p != f.1

/-- What is at a place. -/
def Files.at? (s : Files) (p : Place) : Entry :=
  match s.files.lookup p with
  | some b => .file p b
  | none => if s.isFolder p then .folder p else .missing (some p)

/-- The folder around a folder; the top is its own. -/
def placeAround (p : Place) : Place :=
  if p == topPlace then p else if isAround p then p ++ [".."] else p.dropLast

/-- Where names lead from a folder. -/
def Files.follow (s : Files) : Place → List String → Entry
  | p, [] => s.at? p
  | p, n :: ns =>
      if n == ".." then s.follow (placeAround p) ns
      else
        match s.at? (p ++ [n]), ns with
        | .file q b, [] => .file q b
        | .file .., _ => .blocked
        | .missing q, [] => .missing q
        | .missing _, _ => .missing none
        | _, _ => s.follow (p ++ [n]) ns

/-- The folder that a path starts in. -/
def Path.start (p : Path) : Place := if p.top == "" then [] else topPlace

/-- The path that leads to a place. -/
def Path.ofPlace (p : Place) : Path := if p.take 1 == topPlace then ⟨"/", p.drop 1⟩ else ⟨"", p⟩

/-- What a path leads to. -/
def Files.find (s : Files) (p : Path) : Entry := s.follow p.start p.names

/-- Whether a path leads to something. -/
def Files.contains (s : Files) (p : Path) : Bool :=
  match s.find p with
  | .file .. | .folder _ => true
  | .missing _ | .blocked => false

/-- What the file at a path holds. -/
def Files.read (s : Files) (p : Path) : Except Fault Bytes :=
  if p.hasNull then .error .nullInPath
  else match s.find p with
    | .file _ b => .ok b
    | .folder _ => .error (.isDirectory p.text)
    | .missing _ => .error (.fileNotFound p.text)
    | .blocked => .error (.notDirectory p.text)

/-! ## Writing -/

/-- Replaces the file at a place or adds one. -/
def Files.put (s : Files) (place : Place) (bytes : Bytes) : Files :=
  if (s.files.lookup place).isSome then
    { s with files := s.files.map fun f => if f.1 == place then (place, bytes) else f }
  else { s with files := s.files ++ [(place, bytes)] }

/-- Makes the folders that names lead through, where they are missing. -/
def Files.makeFolders (s : Files) (top : String) : List String → List String → Except Fault Files
  | _, [] => .ok s
  | done, n :: ns =>
      let path : Path := ⟨top, done ++ [n]⟩
      match s.find path with
      | .folder _ => s.makeFolders top (done ++ [n]) ns
      | .missing (some p) =>
          { s with folders := s.folders ++ [p] }.makeFolders top (done ++ [n]) ns
      | .missing none => .error (.fileNotFound path.text)
      | .file .. => .error (if ns.isEmpty then .fileExists path.text else .notDirectory path.text)
      | .blocked => .error (.notDirectory path.text)

/-- Writes a file, making the folders around it. -/
def Files.write (s : Files) (p : Path) (bytes : Bytes) : Except Fault Files := do
  if p.hasNull then throw .nullInPath
  let s ← s.makeFolders p.top [] p.around.names
  match s.find p with
  | .file place _ | .missing (some place) => return s.put place bytes
  | .folder _ => throw (.isDirectory p.text)
  | .missing none => throw (.fileNotFound p.text)
  | .blocked => throw (.notDirectory p.text)

/-- A file that was put is there. -/
theorem Files.lookup_put_self (s : Files) (place : Place) (bytes : Bytes) :
    (s.put place bytes).files.lookup place = some bytes := by
  unfold Files.put
  cases h : s.files.lookup place with
  | none =>
    simp only [Option.isSome_none, Bool.false_eq_true, if_false]
    generalize s.files = fs at h
    induction fs with
    | nil => simp
    | cons f r ih =>
      obtain ⟨k, b⟩ := f
      rw [List.cons_append, List.lookup_cons]
      rw [List.lookup_cons] at h
      cases hb : place == k with
      | true => simp [hb] at h
      | false =>
        simp only [hb] at h ⊢
        exact ih h
  | some old =>
    simp only [Option.isSome_some, if_true]
    generalize s.files = fs at h
    induction fs with
    | nil => simp at h
    | cons f r ih =>
      obtain ⟨k, b⟩ := f
      rw [List.map_cons]
      rw [List.lookup_cons] at h
      cases hb : place == k with
      | true =>
        have he : k = place := (beq_iff_eq.mp hb).symm
        simp [he]
      | false =>
        simp only [hb] at h
        have hne : (k == place) = false := by
          rw [beq_eq_false_iff_ne] at hb ⊢
          exact fun e => hb e.symm
        simp only [hne, Bool.false_eq_true, if_false, List.lookup_cons, hb]
        exact ih h

end MarkupQuery.Storage
