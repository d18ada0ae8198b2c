import MarkupQuery.Proofs.Document.Installing
import MarkupQuery.Proofs.Document.Namespaces
import MarkupQuery.Proofs.Pattern.Templates
import MarkupQuery.Proofs.Query.Calls

/-!
# Patterns and templates that are refused

Whether a rewrite is refused depends on its pattern and its template alone, not on the document or on what
matches in it (`refusal`). Most of what can be wrong with them is reported as a refused argument; the exceptions
stand in their texts (`Escapes`). A rewrite that is not refused succeeds or leaves nothing that parses
(`Document.replace_refused`).
-/

namespace MarkupQuery

open MarkupQuery.Text
open MarkupQuery.Pattern

variable {d : Document} {pattern template : Chars} {f : Fault}

/-! ## Refusals -/

/-- The fault that a pattern and a template are refused with. -/
def refusal (pattern template : Chars) : Option Fault :=
  match (PatternSource.text pattern).compile with
  | .error f => some f
  | .ok r =>
      match readTemplate r.groups r.names template with
      | .ok _ => none
      | .error (.malformed e) => some (.badReplacement (Replacement.template template).shown e.message)
      | .error (.unknownName n) => some (.unknownGroupName n)

/-- The faults of patterns and templates that are not reported as refused arguments, with their causes. -/
inductive Escapes (pattern template : Chars) : Fault → Prop
  /-- A bound of a repeat is too large. -/
  | repeats {ds : Chars} (h : IsBound pattern ds) (hlarge : repeatLimit ≤ decimalNumber ds) :
      Escapes pattern template .overflow
  /-- A bound of a repeat has too many digits. -/
  | digits {ds : Chars} (h : IsBound pattern ds) (hlong : digitLimit < ds.length) :
      Escapes pattern template (.tooManyDigits ds.length)
  /-- Flags for the whole pattern ask for two kinds of characters. -/
  | flags (hascii : AsksFor pattern .ascii) (hunicode : AsksFor pattern .unicode) :
      Escapes pattern template .mixedFlags
  /-- The template refers to a group by a name that the pattern does not have. -/
  | name {r : Regex} {n : String} (hread : Regex.read pattern {} = .ok r)
      (hname : RefersWrongly r.names template n) : Escapes pattern template (.unknownGroupName n)

theorem source_of_read {r : Regex} {flags : Flags} (h : Regex.read pattern flags = .ok r) :
    r.source = pattern := by
  unfold Regex.read at h
  split at h
  · cases h
  · split at h
    · cases h
    · split at h
      · cases h
      · rw [← Except.ok.inj h]

theorem read_of_compile {r : Regex} (h : (PatternSource.text pattern).compile = .ok r) :
    Regex.read pattern {} = .ok r := by
  rw [PatternSource.compile] at h
  split at h <;> cases h
  assumption

/-- Making a pattern is refused, or one of the causes stands in its text. -/
theorem compile_fails (pattern template : Chars) :
    FailsOnly (fun f => f.rejects = true ∨ Escapes pattern template f) (PatternSource.text pattern).compile := by
  have hstops := read_stops pattern
  rw [PatternSource.compile]
  cases hread : Regex.read pattern {} with
  | ok r => exact failsOnly_ok
  | error e =>
    cases hstops.fault hread with
    | malformed e => exact .error (.inl rfl)
    | tooManyRepeats h hlarge => exact .error (.inr (.repeats h hlarge))
    | tooManyDigits h hlong => exact .error (.inr (.digits h hlong))
    | mixedFlags hascii hunicode => exact .error (.inr (.flags hascii hunicode))

theorem rejects_or_escapes (h : refusal pattern template = some f) :
    f.rejects = true ∨ Escapes pattern template f := by
  unfold refusal at h
  split at h
  · next g hg =>
    obtain rfl := Option.some.inj h
    exact (compile_fails pattern template).fault hg
  · next r hr =>
    split at h
    · cases h
    · obtain rfl := Option.some.inj h
      exact .inl rfl
    · next hname =>
      obtain rfl := Option.some.inj h
      exact .inr (.name (read_of_compile hr) (readTemplate_unknownName hname))

/-! ## Rewriting -/

/-- A template that can be read expands every match. -/
theorem exists_substitute {r : Regex} {parts : List TemplatePart}
    (h : readTemplate r.groups r.names template = .ok parts) (text : Chars) :
    ∃ s, substitute r (.template template) text = .ok s := by
  have hfails : FailsOnly (fun _ => False) ((r.segments text).substituteM fun m =>
      (.ok (expand parts m) : Except Fault Chars)) := Query.substituteM_fails (fun _ => failsOnly_ok) _
  rw [substitute, Replacement.prepare, h]
  change ∃ s, (r.segments text).substituteM (fun m => .ok (expand parts m)) = .ok s
  generalize (r.segments text).substituteM (fun m => .ok (expand parts m)) = result at hfails ⊢
  cases hfails with
  | ok _ => exact ⟨_, rfl⟩
  | error h => exact h.elim

theorem rewritten_of_refused (h : refusal pattern template = some f) (d : Document) :
    d.rewritten (.text pattern) (.template template) = .error f := by
  unfold refusal at h
  rw [Document.rewritten]
  cases hcompile : (PatternSource.text pattern).compile with
  | error g =>
    rw [hcompile] at h
    rw [← Option.some.inj h]
    rfl
  | ok r =>
    rw [hcompile] at h
    dsimp only at h
    simp only [bind, Except.bind]
    rw [substitute, Replacement.prepare]
    cases htemplate : readTemplate r.groups r.names template with
    | ok parts =>
      rw [htemplate] at h
      cases h
    | error e =>
      rw [htemplate] at h
      cases e with
      | malformed e =>
        rw [← Option.some.inj h]
        rfl
      | unknownName n =>
        rw [← Option.some.inj h]
        rfl

theorem rewritten_of_not_refused (h : refusal pattern template = none) (d : Document) :
    ∃ r s, d.rewritten (.text pattern) (.template template) = .ok (r, s) ∧ r.source = pattern := by
  unfold refusal at h
  rw [Document.rewritten]
  cases hcompile : (PatternSource.text pattern).compile with
  | error g =>
    rw [hcompile] at h
    cases h
  | ok r =>
    rw [hcompile] at h
    dsimp only at h
    split at h
    · next parts hparts =>
      obtain ⟨s, hs⟩ := exists_substitute hparts d.markup
      refine ⟨r, s, ?_, source_of_read (read_of_compile hcompile)⟩
      simp only [bind, Except.bind]
      rw [hs]
      rfl
    · cases h
    · cases h

end MarkupQuery
