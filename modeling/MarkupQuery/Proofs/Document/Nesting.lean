import MarkupQuery.Proofs.Document.Records
import MarkupQuery.Proofs.Xml.RootTag

/-!
# Nested documents of inner markup

Inner markup is put between the start and the end of a tag before it is opened as a document of its own,
and blank markup is replaced by a placeholder. Whatever the markup holds, the document that is opened has
the element of this tag as its root: markup that ends the element early or is not well formed changes what
stands in it and after it only (`Document.Reachable.nested_rooted`).
-/

namespace MarkupQuery

open MarkupQuery.Text MarkupQuery.Tree MarkupQuery.Xml

variable {d : Document} {tag : Tag}

/-- Markup that begins with a start tag is parsed into a tree whose root has this tag. -/
theorem parseMarkup_startTag (options : Options) (htag : IsReadableTag tag) (hreread : rereadTagIn [] tag = tag)
    (s : Chars) :
    ∃ f i cs, (read (Settings.ofOptions options) (writeTag tag ++ '>' :: s) 0).forest = some f ∧
      (numberAll 1 f).1.filterMap elementTag? = [tag] ∧
      rootOf (numberAll 1 f).1 = some (.element i tag cs) ∧
      (parseMarkup .xml options 1 (codePoints (writeTag tag ++ '>' :: s))).tree
        = some ((numberAll 1 f).1, i) := by
  obtain ⟨f, hread, htags⟩ := exists_root_of_startTag (Settings.ofOptions options) htag hreread s
  rw [← filterMap_elementTag?_numberAll 1] at htags
  obtain ⟨i, cs, hroot⟩ := rootOf_of_elementTag? htags
  refine ⟨f, i, cs, hread, htags, hroot, ?_⟩
  dsimp only [parseMarkup, parseXml]
  rw [seenInUtf8_codePoints, malformedFrom_codePoints, hread]
  dsimp only
  rw [withRoot, hroot]
  rfl

/-- Markup that begins with a start tag is opened as a document whose root has this tag. -/
theorem Document.Reachable.spawn_startTag (hd : d.Reachable) (hkind : d.kind = .xml)
    {spaces : List (Chars × Chars)} (hspaces : contextSpaces d.namespaces = .ok spaces)
    (htag : IsReadableTag tag) (hreread : rereadTagIn [] tag = tag) (s : Chars) :
    ∃ e, (d.spawn (writeTag tag ++ '>' :: s)).1 = .ok e ∧ e.isEmpty = false ∧
      e.context = e.root.map (⟨·, spaces⟩) ∧ ∃ i cs, e.rootNode? = some (.element i tag cs) := by
  obtain ⟨f, i, cs, -, -, hroot, htree⟩ := parseMarkup_startTag d.options htag hreread s
  rw [← hkind] at htree
  have hspawn := Document.spawn_of_tree hd.options_kept (by simp) hspaces htree
  refine ⟨_, hspawn, rfl, rfl, i, cs, ?_⟩
  refine ((Document.Reachable.opened hspawn).sound.rootNode?_eq_some rfl).mpr ⟨?_, rfl⟩
  rw [Document.forest, List.flatten_singleton]
  exact List.mem_of_find?_eq_some hroot

/-- The element around the inner markup of something found in a document of its own. -/
def Found.wrapper (x : Found) : Tag := if isAllBlank (x.inner .xml) then emptyTag else nestedTag

theorem Found.exists_nestedSource (hkind : d.kind = .xml) (x : Found) :
    ∃ s, d.nestedSource false (x.inner .xml) = writeTag x.wrapper ++ '>' :: s := by
  rw [Document.nestedSource, Found.wrapper]
  cases isAllBlank (x.inner .xml) with
  | true => exact ⟨innerOf (.last []) ++ ("</".toList ++ emptyTag.name.base ++ ['>']), emptyMarkup_eq⟩
  | false =>
    rw [hkind]
    exact ⟨x.inner .xml ++ "</root>".toList, nestedMarkup_start _⟩

/-- An XML document whose namespaces allow a query context opens one document for everything that a selector
finds, in order, and none of them is empty: the root is the placeholder if the inner markup is blank, and
the element around it otherwise, whatever the markup holds. -/
theorem Document.Reachable.nested_rooted (hd : d.Reachable) (hkind : d.kind = .xml)
    (husable : ∀ s ∈ d.namespaces, isUsable s = true) {selector : String} {found : List Found}
    (hfind : d.find selector = .ok found) :
    ∃ es, (d.nested selector false).1 = .ok es ∧ List.Forall₂ (fun x e =>
      e.isEmpty = false ∧ e.context.isSome = true ∧ ∃ i cs, e.rootNode? = some (.element i x.wrapper cs))
      found es := by
  obtain ⟨spaces, hspaces⟩ := (contextSpaces_ok_iff d.namespaces).mpr husable
  refine Document.nested_of_find hfind fun x _ => ?_
  have hlocal : IsLocalTag x.wrapper ∧ rereadTag x.wrapper = x.wrapper := by
    rw [Found.wrapper]
    split
    · exact ⟨isLocalTag_emptyTag, by decide⟩
    · exact ⟨isLocalTag_nestedTag, by decide⟩
  obtain ⟨s, hs⟩ := x.exists_nestedSource hkind
  obtain ⟨e, hspawn, hempty, hcontext, hroot⟩ := hd.spawn_startTag hkind hspaces
    hlocal.1.isReadableTag (hlocal.1.rereadTagIn_nil.trans hlocal.2) s
  rw [hkind, hs]
  refine ⟨e, hspawn, hempty, ?_, hroot⟩
  rw [hcontext, Option.isSome_map]
  simpa [Document.isEmpty, Option.isSome_iff_ne_none] using hempty

/-- A text that ends the element around it and begins another one. -/
theorem nested_rooted_broken :
    ∃ (d : Document) (x : Found) (e : Document), d.Reachable ∧ d.kind = .xml ∧
      (∀ s ∈ d.namespaces, isUsable s = true) ∧ d.find "'</root><b a=&'" = .ok [x] ∧
      x.inner .xml = "</root><b a=&".toList ∧ (d.nested "'</root><b a=&'" false).1 = .ok [e] ∧
      e.isEmpty = false ∧ ∃ i cs, e.rootNode? = some (.element i nestedTag cs) := by
  obtain ⟨d, hopen, htest⟩ : ∃ d, (Opening.run
      { markup := .text (codePoints "<r/>".toList), kind := .int 1 }).1 = .ok d ∧
      (d.kind == .xml && d.namespaces.all isUsable &&
        (d.find "'</root><b a=&'").toOption.any fun found => found.length == 1 &&
          found.all fun x => x.inner .xml == "</root><b a=&".toList && x.wrapper == nestedTag) = true :=
    Opening.exists_of_gives (by decide +kernel)
  have hd : d.Reachable := .opened hopen
  cases hfind : d.find "'</root><b a=&'" with
  | error f => simp [hfind, Except.toOption] at htest
  | ok found =>
    simp only [hfind, Except.toOption, Option.any_some, Bool.and_eq_true, beq_iff_eq, List.all_eq_true]
      at htest
    obtain ⟨⟨hkind, husable⟩, hone, hfound⟩ := htest
    obtain ⟨x, rfl⟩ := List.length_eq_one_iff.mp hone
    obtain ⟨hinner, hwrapper⟩ := hfound x (List.mem_singleton_self x)
    obtain ⟨es, hnested, hes⟩ := hd.nested_rooted hkind husable hfind
    obtain ⟨e, es, ⟨hempty, -, hroot⟩, hnil, rfl⟩ := List.forall₂_cons_left_iff.mp hes
    obtain rfl := List.forall₂_nil_left_iff.mp hnil
    exact ⟨d, x, e, hd, hkind, husable, hfind, hinner, hnested, hempty, hwrapper ▸ hroot⟩

end MarkupQuery
