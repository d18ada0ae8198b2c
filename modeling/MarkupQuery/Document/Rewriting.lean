import MarkupQuery.Document.Extraction

/-!
# Rewriting documents

The markup of a document is rewritten with a pattern and parsed again. The new tree is parsed before the
old one is given up, so markup that leaves no tree changes nothing. Every rewrite starts a new epoch.
-/

namespace MarkupQuery

open MarkupQuery.Text MarkupQuery.Tree

/-- The markup of a document with every match of a pattern replaced. -/
def Document.rewritten (d : Document) (p : PatternSource) (replacement : Replacement) :
    Except Fault (Pattern.Regex × Chars) := do
  let r ← p.compile
  match substitute r replacement d.markup with
  | .ok s => return (r, s)
  | .error (.pattern e) => throw (.badReplacement replacement.shown e.message)
  | .error f => throw f

/-- Replaces every match of a pattern in the markup and parses what comes out. -/
def Document.replace (d : Document) (p : PatternSource) (replacement : Replacement) : Outcome Unit :=
  match d.rewritten p replacement with
  | .error f => ⟨.error f, d, []⟩
  | .ok (r, s) =>
      let markup := if isAllBlank s then emptyMarkup else s
      let parsed := parseMarkup d.kind d.options d.nextId (codePoints markup)
      match parsed.tree with
      | none => ⟨.error (.unparsable r.source d.kind), d, parsed.log⟩
      | some (_, root) =>
          let out := (d.take parsed).install (some root)
          match out.result with
          | .error f => ⟨.error f, out.document, parsed.log⟩
          | .ok _ =>
              let epoch := d.epoch + 1
              let shown := quotedString (String.ofList r.source)
              let message := s!"Reparsed document after replacing {shown} (epoch {epoch})"
              ⟨.ok (), { out.document with epoch }, parsed.log ++ [⟨"DEBUG", message⟩]⟩

end MarkupQuery
