import MarkupQuery.Storage.Files
import MarkupQuery.Proofs.Endings

/-!
# Reading and writing files

A file that was written is read back through the same path (`Files.read_of_write`), whatever folders the
path goes through: writing puts something at one place, which was no folder, and every folder stays one.
What is written has no part in whether that can be done (`Files.exists_write`). Reading fails because there
is nothing at the path, because the path cannot be one, or because a folder or a file stands in the way.
-/

namespace MarkupQuery

/-- The faults of folders that stand where a file should be, and of files where a folder should be. -/
def Fault.isObstruction : Fault → Bool
  | .isDirectory _ | .notDirectory _ | .fileExists _ => true
  | _ => false

namespace Storage

open MarkupQuery.Encoding

variable {s : Files} {place q : Place} {bytes : Bytes} {p : Path}

/-! ## Faults -/

/-- The faults of files. -/
def IsFileFault (f : Fault) : Prop :=
  f = .nullInPath ∨ (∃ path, f = .fileNotFound path) ∨ f.isObstruction = true

theorem Files.read_fails (s : Files) (p : Path) : FailsOnly IsFileFault (s.read p) := by
  unfold Files.read
  refine ends_ite (.error (.inl rfl)) ?_
  split
  · exact failsOnly_ok
  · exact .error (.inr (.inr rfl))
  · exact .error (.inr (.inl ⟨_, rfl⟩))
  · exact .error (.inr (.inr rfl))

theorem Files.makeFolders_fails (s : Files) (top : String) (done names : List String) :
    FailsOnly IsFileFault (s.makeFolders top done names) := by
  induction names generalizing s done with
  | nil => exact failsOnly_ok
  | cons n ns ih =>
    rw [Files.makeFolders]
    split
    · exact ih _ _
    · exact ih _ _
    · exact .error (.inr (.inl ⟨_, rfl⟩))
    · refine .error (.inr (.inr ?_))
      split <;> rfl
    · exact .error (.inr (.inr rfl))

theorem Files.write_fails (s : Files) (p : Path) (bytes : Bytes) :
    FailsOnly IsFileFault (s.write p bytes) := by
  unfold Files.write
  refine ends_ite (.error (.inl rfl)) ?_
  refine (s.makeFolders_fails p.top [] p.around.names).bind_any fun s => ?_
  split
  · exact failsOnly_pure
  · exact failsOnly_pure
  · exact .error (.inr (.inr rfl))
  · exact .error (.inr (.inl ⟨_, rfl⟩))
  · exact .error (.inr (.inr rfl))

/-- What can be read is there. -/
theorem Files.contains_of_read (h : s.read p = .ok bytes) : s.contains p = true := by
  unfold Files.read at h
  unfold Files.contains
  split at h
  · cases h
  · split at h
    · rfl
    all_goals cases h

/-! ## Places -/

/-- Something can be put at a place: a file is there, or nothing. -/
def Entry.IsAt (place : Place) : Entry → Prop
  | .file q _ | .missing (some q) => q = place
  | _ => False

theorem Files.not_isFolder_of_isAt (h : (s.at? q).IsAt place) :
    q = place ∧ s.at? place ≠ .folder place := by
  unfold Files.at? at h
  split at h
  · next b heq =>
    obtain rfl : q = place := h
    exact ⟨rfl, by unfold Files.at?; rw [heq]; exact nofun⟩
  · next heq =>
    split at h
    · cases h
    · next hfolder =>
      obtain rfl : q = place := h
      exact ⟨rfl, by unfold Files.at?; rw [heq, if_neg hfolder]; exact nofun⟩

theorem Files.at?_put_self (s : Files) (place : Place) (bytes : Bytes) :
    (s.put place bytes).at? place = .file place bytes := by
  unfold Files.at?
  rw [s.lookup_put_self place bytes]

theorem Files.lookup_put_of_ne (s : Files) (h : q ≠ place) (bytes : Bytes) :
    (s.put place bytes).files.lookup q = s.files.lookup q := by
  have hne : (q == place) = false := beq_eq_false_iff_ne.mpr h
  unfold Files.put
  split
  · dsimp only
    generalize s.files = fs
    induction fs with
    | nil => rfl
    | cons f fs ih =>
      obtain ⟨k, b⟩ := f
      rw [List.map_cons]
      split
      · next hk =>
        obtain rfl : k = place := beq_iff_eq.mp hk
        rw [List.lookup_cons, List.lookup_cons, hne, ih]
      · rw [List.lookup_cons, List.lookup_cons, ih]
  · dsimp only
    generalize s.files = fs
    induction fs with
    | nil => rw [List.nil_append, List.lookup_cons, hne]
    | cons f fs ih => rw [List.cons_append, List.lookup_cons, List.lookup_cons, ih]

theorem Files.isFolder_put (h : s.isFolder q = true) (place : Place) (bytes : Bytes) :
    (s.put place bytes).isFolder q = true := by
  have hfiles (b : List (Place × Bytes)) (hb : ∀ f ∈ s.files, ∃ g ∈ b, g.1 = f.1)
      (hany : (s.files.any fun f => q.isPrefixOf f.1 && q != f.1) = true) :
      (b.any fun f => q.isPrefixOf f.1 && q != f.1) = true := by
    obtain ⟨f, hf, hinside⟩ := List.any_eq_true.mp hany
    obtain ⟨g, hg, heq⟩ := hb f hf
    exact List.any_eq_true.mpr ⟨g, hg, by rw [heq]; exact hinside⟩
  unfold Files.isFolder at h ⊢
  rw [Bool.or_eq_true] at h ⊢
  unfold Files.put
  split
  · refine h.imp_right (hfiles _ fun f hf => ⟨_, List.mem_map_of_mem hf, ?_⟩)
    split
    · next hk => exact (beq_iff_eq.mp hk).symm
    · rfl
  · exact h.imp_right (hfiles _ fun f hf => ⟨f, List.mem_append_left _ hf, rfl⟩)

/-- Every folder but the place itself stays one. -/
theorem Files.at?_put_of_folder (h : s.at? q = .folder q) (hne : q ≠ place) (bytes : Bytes) :
    (s.put place bytes).at? q = .folder q := by
  unfold Files.at? at h ⊢
  rw [s.lookup_put_of_ne hne]
  split at h
  · cases h
  · split at h
    · next hfolder => exact if_pos (s.isFolder_put hfolder place bytes)
    · cases h

/-! ## Following names -/

theorem Files.at?_cases (s : Files) (q : Place) : s.at? q = .folder q ∨ (s.at? q).IsAt q := by
  unfold Files.at?
  split
  · exact .inr rfl
  · split
    · exact .inl rfl
    · exact .inr rfl

theorem Files.follow_up (s : Files) (q : Place) (ns : List String) :
    s.follow q (".." :: ns) = s.follow (placeAround q) ns := rfl

/-- A name leads into a folder, or to what is there if it is the last one. -/
theorem Files.follow_cons {n : String} (hup : n ≠ "..") (ns : List String) :
    s.follow q (n :: ns) =
      match s.at? (q ++ [n]), ns with
      | .file q b, [] => .file q b
      | .file .., _ => .blocked
      | .missing q, [] => .missing q
      | .missing _, _ => .missing none
      | _, _ => s.follow (q ++ [n]) ns := by
  rw [Files.follow.eq_def]
  exact if_neg (by simpa using hup)

theorem Files.follow_folder {n : String} (hup : n ≠ "..") (h : s.at? (q ++ [n]) = .folder (q ++ [n]))
    (ns : List String) : s.follow q (n :: ns) = s.follow (q ++ [n]) ns := by
  rw [Files.follow_cons hup, h]

/-- Names lead to a place through the folder around, to the place itself, or through a folder. -/
theorem Files.isAt_follow_cons {n : String} {ns : List String}
    (h : (s.follow q (n :: ns)).IsAt place) :
    (n = ".." ∧ (s.follow (placeAround q) ns).IsAt place) ∨
      (n ≠ ".." ∧ ns = [] ∧ (s.at? (q ++ [n])).IsAt place) ∨
        n ≠ ".." ∧ s.at? (q ++ [n]) = .folder (q ++ [n]) ∧ (s.follow (q ++ [n]) ns).IsAt place := by
  by_cases hup : n = ".."
  · subst hup
    exact .inl ⟨rfl, h⟩
  · rcases s.at?_cases (q ++ [n]) with hfolder | hat
    · exact .inr (.inr ⟨hup, hfolder, by rwa [Files.follow_folder hup hfolder] at h⟩)
    · rw [Files.follow_cons hup] at h
      cases hentry : s.at? (q ++ [n]) with
      | folder r => rw [hentry] at hat; cases hat
      | blocked => rw [hentry] at hat; cases hat
      | file r b =>
        rw [hentry] at h
        cases ns with
        | nil => exact .inr (.inl ⟨hup, rfl, h⟩)
        | cons m ns => cases h
      | missing r =>
        rw [hentry] at h
        cases ns with
        | nil => exact .inr (.inl ⟨hup, rfl, h⟩)
        | cons m ns => cases h

theorem Files.at?_of_isAt_follow {ns : List String} (h : (s.follow q ns).IsAt place) :
    s.at? place ≠ .folder place := by
  induction ns generalizing q with
  | nil => exact (Files.not_isFolder_of_isAt h).2
  | cons n ns ih =>
    rcases Files.isAt_follow_cons h with ⟨-, h⟩ | ⟨-, -, h⟩ | ⟨-, -, h⟩
    · exact ih h
    · exact (Files.not_isFolder_of_isAt h).2
    · exact ih h

/-- Names that lead to a place lead to what was put there. -/
theorem Files.follow_put {ns : List String} (h : (s.follow q ns).IsAt place) (bytes : Bytes) :
    (s.put place bytes).follow q ns = .file place bytes := by
  induction ns generalizing q with
  | nil =>
    obtain ⟨rfl, -⟩ := Files.not_isFolder_of_isAt h
    exact s.at?_put_self q bytes
  | cons n ns ih =>
    have hplace := Files.at?_of_isAt_follow h
    rcases Files.isAt_follow_cons h with ⟨rfl, hrest⟩ | ⟨hup, rfl, hat⟩ | ⟨hup, hfolder, hrest⟩
    · exact ih hrest
    · rw [Files.follow_cons hup, (Files.not_isFolder_of_isAt hat).1, s.at?_put_self]
    · have hne : q ++ [n] ≠ place := fun heq => hplace (heq ▸ hfolder)
      rw [Files.follow_folder hup (Files.at?_put_of_folder hfolder hne bytes)]
      exact ih hrest

/-! ## Writing -/

/-- A file that was written is read back. -/
theorem Files.read_of_write {t : Files} (h : s.write p bytes = .ok t) : t.read p = .ok bytes := by
  have hread {r : Files} {place : Place} (hnull : ¬p.hasNull = true) (hfind : (r.find p).IsAt place) :
      (r.put place bytes).read p = .ok bytes := by
    have hfound : (r.put place bytes).find p = .file place bytes := Files.follow_put hfind bytes
    rw [Files.read, if_neg hnull, hfound]
  unfold Files.write at h
  split at h
  · cases h
  · next hnull =>
    cases hfolders : s.makeFolders p.top [] p.around.names with
    | error f => rw [hfolders] at h; cases h
    | ok r =>
      rw [hfolders] at h
      dsimp only [bind, Except.bind] at h
      split at h
      · next heq =>
        obtain rfl := Except.ok.inj h
        exact hread hnull (by rw [heq]; rfl)
      · next heq =>
        obtain rfl := Except.ok.inj h
        exact hread hnull (by rw [heq]; rfl)
      all_goals cases h

/-- Whether a file can be written does not depend on what it is to hold. -/
theorem Files.exists_write {t : Files} (h : s.write p bytes = .ok t) (others : Bytes) :
    ∃ u, s.write p others = .ok u := by
  unfold Files.write at h ⊢
  split at h
  · cases h
  · next hnull =>
    rw [if_neg hnull]
    cases hfolders : s.makeFolders p.top [] p.around.names with
    | error f => rw [hfolders] at h; cases h
    | ok r =>
      rw [hfolders] at h
      dsimp only [bind, Except.bind, pure, Except.pure] at h ⊢
      split at h
      · exact ⟨_, rfl⟩
      · exact ⟨_, rfl⟩
      all_goals cases h

end Storage

end MarkupQuery
