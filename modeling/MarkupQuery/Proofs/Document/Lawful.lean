import MarkupQuery.Proofs.Document.Laws
import MarkupQuery.Proofs.Xml.Building
import MarkupQuery.Proofs.Xml.Scopes

/-!
# Trees of documents can be read back

All trees of a reachable XML document with default options are lawful: they came out of a parse, or out of
such a tree by taking nodes out and clearing texts and attributes, and neither makes anything that cannot
be written and read back (`Document.Reachable.lawful`). In the same way the prefixes of names stay declared
around them (`Document.Reachable.isScoped`).
-/

namespace MarkupQuery

open MarkupQuery.Text MarkupQuery.Tree MarkupQuery.Xml

/-- Whether a document is XML read with default options. -/
def Document.isPlainXml (d : Document) : Bool := d.kind == .xml && d.options == Options.default

variable {d : Document}

/-! ## Parsing -/

theorem settings_default : Settings.ofOptions Options.default = { keepSections := false } := by
  decide

/-- Parsing XML numbers what was read. -/
theorem parseXml_tree {options : Options} {next : NodeId} {m : CodePoints} {f : Forest} {r : NodeId}
    (h : (parseXml options next m).tree = some (f, r)) :
    ∃ g, (Xml.read (Settings.ofOptions options) (seenInUtf8 m) (malformedFrom m)).forest = some g ∧
      f = (numberAll next g).1 := by
  rw [parseXml] at h
  dsimp only at h
  split at h
  · cases h
  · next g hg =>
    obtain ⟨i, -, hi⟩ := Option.map_eq_some_iff.mp h
    exact ⟨g, hg, (Prod.mk.inj hi).1.symm⟩

/-- Parsing with default options gives lawful trees. -/
theorem lawful_parse {next : NodeId} {m : CodePoints} {f : Forest} {r : NodeId}
    (h : (parseMarkup .xml Options.default next m).tree = some (f, r)) : LawfulNodes 257 f := by
  obtain ⟨g, hg, rfl⟩ := parseXml_tree h
  rw [settings_default] at hg
  exact LawfulNodes.number _ _ (read_lawful hg)

/-! ## Histories -/

/-- Being lawful is a law of trees. -/
theorem treeLaw_lawfulNode : TreeLaw (LawfulNode 257) where
  takeOut i _ hn := hn.changeAround i (fun _ _ h => h.takeOut i) _
  clearBefore i _ hn := hn.changeAround i (fun _ _ h => h.clearBefore i) _
  clearAfter i _ hn := hn.changeAround i (fun _ _ h => h.clearAfter i) _
  clearText i _ hn := hn.change i (fun _ _ h => h.clearText) _
  clearAttribute i name _ hn := hn.change i (fun _ _ h => h.clearAttribute name) _
  independent h cs hfill n hn := by
    have hcs := LawfulNodes.of_fill h (lawfulNodes_iff.mpr hfill)
    exact (lawfulNodes_iff.mp hcs n hn).independent

/-- All trees of a reachable XML document with default options can be written and read back, but for
namespaces. -/
theorem Document.Reachable.lawful (h : d.Reachable) (hplain : d.isPlainXml = true) :
    LawfulNodes 257 d.forest := by
  rw [Document.isPlainXml, Bool.and_eq_true, beq_iff_eq, beq_iff_eq] at hplain
  refine lawfulNodes_iff.mpr (treeLaw_lawfulNode.reachable (fun next m f r hparse => ?_) h hplain.1 hplain.2)
  exact lawfulNodes_iff.mp (lawful_parse hparse)

/-- Being scoped is a law of trees. -/
theorem treeLaw_isScoped : TreeLaw (IsScoped []) where
  takeOut i n hn := hn.changeAround i (fun _ _ h => h.of_mem fun _ => mem_takeOut) n
  clearBefore i n hn := hn.changeAround i
    (fun _ ns h => h.of_mem fun _ hm => .inl (clearBefore_subset i ns hm)) n
  clearAfter i n hn := hn.changeAround i
    (fun _ ns h => h.of_mem fun _ hm => .inl (clearAfter_subset i ns hm)) n
  clearText i n hn := hn.change i (fun _ _ h => h.clearText) n
  clearAttribute i name n hn := hn.change i (fun _ _ h => h.clearAttribute name) n
  independent _ _ _ n _ := isScoped_independent n

/-- The names of all trees of an XML document have prefixes that are declared around them. -/
theorem Document.Reachable.isScoped (h : d.Reachable) (hkind : d.kind = .xml) :
    ∀ n ∈ d.forest, IsScoped [] n := by
  refine treeLaw_isScoped.reachable (fun next m f r hparse => ?_) h hkind rfl
  obtain ⟨g, hg, rfl⟩ := parseXml_tree hparse
  exact areScoped_iff.mp ((read_scoped hg).number _ g)

end MarkupQuery
