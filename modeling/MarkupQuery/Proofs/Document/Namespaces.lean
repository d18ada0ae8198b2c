import MarkupQuery.Proofs.Document.Installing

/-!
# Namespaces of documents

A prefix and its namespace are usable if both are texts, not empty, that may stand in markup. The
namespaces of a document allow a query context exactly if all of them are usable
(`contextSpaces_ok_iff`), and then the context has the very same prefixes and namespaces. Making one
more prefix usable keeps it that way.
-/

namespace MarkupQuery

open MarkupQuery.Text MarkupQuery.Tree MarkupQuery.Query

/-! ## Usable namespaces -/

/-- Whether a value is a text, not empty, that may stand in markup. -/
def isSpaceText : Datum → Bool
  | .text s => !s.isEmpty && isMarkupText s.toList
  | _ => false

/-- Whether a prefix and its namespace may stand in a query context. -/
def isUsable (s : Datum × Datum) : Bool := isSpaceText s.1 && isSpaceText s.2

/-- A prefix and its namespace as they are given to a document. -/
def spaceEntry (s : Chars × Chars) : Datum × Datum :=
  (.text (String.ofList s.1), .text (String.ofList s.2))

theorem contextText_eq_ok {v : Datum} {s : Chars} :
    contextText v = .ok s ↔ v = .text (String.ofList s) ∧ isMarkupText s = true := by
  cases v with
  | text t =>
    rw [contextText]
    constructor
    · intro h
      split at h
      · next ht =>
        obtain rfl := Except.ok.inj h
        exact ⟨by rw [String.ofList_toList], ht⟩
      · cases h
    · rintro ⟨ht, hs⟩
      obtain rfl := Datum.text.inj ht
      rw [String.toList_ofList, if_pos hs]
  | _ => simp [contextText]

theorem contextPair_eq_ok {label name : Datum} {s : Chars × Chars} :
    contextPair label name = .ok s ↔
      (label, name) = spaceEntry s ∧ isMarkupText s.1 = true ∧ isMarkupText s.2 = true := by
  obtain ⟨l, n⟩ := s
  simp only [contextPair, bind_eq_ok, contextText_eq_ok, spaceEntry, pure, Except.pure,
    Except.ok.injEq, Prod.mk.injEq]
  constructor
  · rintro ⟨_, ⟨hlabel, hl⟩, _, ⟨hname, hn⟩, rfl, rfl⟩
    exact ⟨⟨hlabel, hname⟩, hl, hn⟩
  · rintro ⟨⟨hlabel, hname⟩, hl, hn⟩
    exact ⟨l, ⟨hlabel, hl⟩, n, ⟨hname, hn⟩, rfl, rfl⟩

theorem isSpaceText_iff {v : Datum} :
    isSpaceText v = true ↔ v.isTruthy = true ∧ ∃ s, contextText v = .ok s := by
  cases v with
  | text t =>
    rw [isSpaceText, Datum.isTruthy, contextText, Bool.and_eq_true]
    split <;> simp_all
  | _ => simp [isSpaceText, contextText]

/-- A prefix and its namespace may stand in a query context exactly if they are usable. -/
theorem contextSpace_ok_iff (label name : Datum) :
    (∃ s, contextSpace label name = .ok s) ↔ isUsable (label, name) = true := by
  rw [isUsable, Bool.and_eq_true, isSpaceText_iff, isSpaceText_iff, contextSpace]
  cases hlabel : label.isTruthy with
  | false => simp
  | true =>
    cases hname : name.isTruthy with
    | false => simp
    | true =>
      simp only [Bool.not_true, Bool.or_self, Bool.false_eq_true, if_false, contextPair, bind_eq_ok,
        pure, Except.pure, Except.ok.injEq, true_and]
      constructor
      · rintro ⟨_, l, hl, n, hn, rfl⟩
        exact ⟨⟨l, hl⟩, n, hn⟩
      · rintro ⟨⟨l, hl⟩, n, hn⟩
        exact ⟨(l, n), l, hl, n, hn, rfl⟩

theorem contextSpaces_cons (s : Datum × Datum) (namespaces : List (Datum × Datum)) :
    contextSpaces (s :: namespaces) = (do
      let space ← contextSpace s.1 s.2
      let spaces ← contextSpaces namespaces
      return space :: spaces) :=
  List.mapM_cons

/-- The prefixes of a query context are those that the document was given. -/
theorem eq_map_of_contextSpaces {namespaces : List (Datum × Datum)} {spaces : List (Chars × Chars)}
    (h : contextSpaces namespaces = .ok spaces) : namespaces = spaces.map spaceEntry := by
  induction namespaces generalizing spaces with
  | nil =>
    obtain rfl := Except.ok.inj h
    rfl
  | cons s namespaces ih =>
    rw [contextSpaces_cons] at h
    obtain ⟨space, hspace, h⟩ := bind_eq_ok.mp h
    obtain ⟨rest, hrest, h⟩ := bind_eq_ok.mp h
    obtain rfl := Except.ok.inj h
    rw [List.map_cons, ← ih hrest]
    rw [contextSpace] at hspace
    split at hspace
    · cases hspace
    · rw [← (contextPair_eq_ok.mp hspace).1]

/-- Namespaces allow a query context exactly if all of them are usable. -/
theorem contextSpaces_ok_iff (namespaces : List (Datum × Datum)) :
    (∃ spaces, contextSpaces namespaces = .ok spaces) ↔ ∀ s ∈ namespaces, isUsable s = true := by
  induction namespaces with
  | nil => exact ⟨fun _ => by simp, fun _ => ⟨[], rfl⟩⟩
  | cons s namespaces ih =>
    have hspace := contextSpace_ok_iff s.1 s.2
    rw [List.forall_mem_cons, ← ih, ← hspace, contextSpaces_cons]
    simp only [bind_eq_ok, pure, Except.pure, Except.ok.injEq]
    constructor
    · rintro ⟨_, space, hs, spaces, hrest, rfl⟩
      exact ⟨⟨space, hs⟩, spaces, hrest⟩
    · rintro ⟨⟨space, hs⟩, spaces, hrest⟩
      exact ⟨space :: spaces, space, hs, spaces, hrest, rfl⟩

/-! ## One more prefix -/

/-- What making a prefix usable comes to. -/
inductive Document.Registers (d : Document) (label name : Datum) : Outcome Unit → Prop
  | noKey (h : label.isKey = false) : d.Registers label name ⟨.error .wrongType, d, []⟩
  | empty (h : label.isKey = true) (hcontext : d.context = none) :
      d.Registers label name
        ⟨.ok (), { d with namespaces := Datum.put label name d.namespaces }, []⟩
  | done (c : QueryContext) (s : Chars × Chars) (h : label.isKey = true)
      (hcontext : d.context = some c) (hpair : contextPair label name = .ok s) :
      d.Registers label name
        ⟨.ok (), { d with
          namespaces := Datum.put label name d.namespaces
          context := some { c with spaces := putPair s.1 s.2 c.spaces } }, []⟩
  | refused (c : QueryContext) (f : Fault) (h : label.isKey = true) (hcontext : d.context = some c)
      (hpair : contextPair label name = .error f) :
      d.Registers label name
        ⟨.error f, { d with namespaces := Datum.put label name d.namespaces }, []⟩

theorem Document.registers (d : Document) (label name : Datum) :
    d.Registers label name (d.registerNamespace label name) := by
  rw [Document.registerNamespace]
  cases hkey : label.isKey with
  | false => exact .noKey hkey
  | true =>
    rw [Bool.not_true, if_neg (by simp)]
    dsimp only
    split
    · next hcontext => exact .empty hkey hcontext
    · next c hcontext =>
      split
      · next l n hpair => exact .done c (l, n) hkey hcontext hpair
      · next f hpair => exact .refused c f hkey hcontext hpair

/-- Setting a prefix in a query context is setting it among what the document was given. -/
theorem map_putPair (s : Chars × Chars) (spaces : List (Chars × Chars)) :
    (putPair s.1 s.2 spaces).map spaceEntry
      = Datum.put (spaceEntry s).1 (spaceEntry s).2 (spaces.map spaceEntry) := by
  induction spaces with
  | nil => rfl
  | cons t spaces ih =>
    have hsame : (spaceEntry t).1.same (spaceEntry s).1 = (t.1 == s.1) := by
      rw [spaceEntry, spaceEntry, Datum.same, Bool.eq_iff_iff, beq_iff_eq, beq_iff_eq,
        String.ofList_inj]
    have hput : Datum.put (spaceEntry s).1 (spaceEntry s).2 ((t :: spaces).map spaceEntry)
        = if t.1 == s.1 then ((spaceEntry t).1, (spaceEntry s).2) :: spaces.map spaceEntry
          else spaceEntry t ::
            Datum.put (spaceEntry s).1 (spaceEntry s).2 (spaces.map spaceEntry) := by
      rw [List.map_cons, ← hsame]
      rfl
    rw [hput, putPair]
    split
    · rfl
    · rw [List.map_cons, ih]

end MarkupQuery
