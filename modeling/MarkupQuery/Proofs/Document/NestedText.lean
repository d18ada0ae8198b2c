import MarkupQuery.Proofs.Document.Finding
import MarkupQuery.Proofs.Document.Losing
import MarkupQuery.Proofs.Document.Nesting
import MarkupQuery.Proofs.Tree.Marks
import MarkupQuery.Proofs.Query.Made
import MarkupQuery.Proofs.Xml.Losses

/-!
# The text of nested documents

Markup in an element of its own is opened as a document, and the path to its root gives one text
(`Document.Reachable.spawn_nestedMarkup`). For an element this is read of its inner markup, in which characters of
markup are escaped. Attributes, texts and scalars are put in the markup as they are. So what comes through is
told in two ways: of an element, by what reading back loses of a tree; of everything else, by whether the text
is verbatim (`Document.Reachable.nested_text`).
-/

namespace MarkupQuery

open MarkupQuery.Text MarkupQuery.Tree MarkupQuery.Xml MarkupQuery.Query

variable {d : Document} {tag : Tag} {m : Mixed Outline} {s t : Chars} {i : NodeId} {cs : List Node}

theorem rereadTagIn_nestedTag : rereadTagIn [] nestedTag = nestedTag :=
  isLocalTag_nestedTag.rereadTagIn_nil.trans (by decide)

/-! ## The text of the root -/

/-- The element at the top that has the only tag there is the only child of its name. -/
theorem filter_isNamed_childSpots {ns : List Node} (htags : ns.filterMap elementTag? = [tag])
    (hspace : tag.name.space = none) (hroot : rootOf ns = some (.element i tag cs)) (offsets : List Offset)
    (above : List Target) (k : Nat) :
    ∃ u : Spot, (childSpots offsets above k ns).filter (fun u => u.target.isNamed tag.name.base) = [u] ∧
      u.target = .node (.element i tag cs) := by
  induction ns generalizing k with
  | nil => cases htags
  | cons n ns ih =>
    rw [childSpots]
    cases n with
    | element j v ds =>
      obtain ⟨rfl, hnone⟩ := List.cons.inj htags
      obtain ⟨rfl, -, rfl⟩ := Node.element.inj (Option.some.inj hroot)
      refine ⟨⟨.node (.element j v ds), .child k :: offsets, above⟩, ?_, rfl⟩
      rw [List.filter_cons_of_pos (by simp [Target.isNamed, Target.tag?, hspace]), List.cons.injEq,
        and_iff_right rfl, List.filter_eq_nil_iff]
      intro u hu
      obtain ⟨l, m, hm, rfl⟩ := mem_childSpots hu
      have htag := List.filterMap_eq_nil_iff.mp hnone m (List.mem_of_getElem? hm)
      cases m with
      | element => cases htag
      | _ => exact Bool.false_ne_true
    | _ =>
      obtain ⟨u, hu, htarget⟩ := ih htags hroot (k + 1)
      exact ⟨u, hu, htarget⟩

/-- The text of the root of what was read, if that is one element. -/
theorem textContents_root {f : Forest} {rest : Mixed Outline} {j : NodeId} {u : Tag} (next : NodeId)
    (hroot : rootOf (numberAll next f).1 = some (.element i tag cs))
    (houtline : outlineAll f = .next s (.element j u m) rest) : textContents cs = textIn m := by
  have hbare := bare_outlineAll_number next f
  generalize (numberAll next f).1 = g at hroot hbare
  rw [houtline, bareContent, Outline.bare] at hbare
  cases hg : outlineAll g with
  | last t =>
    rw [hg] at hbare
    cases hbare
  | next t o more =>
    rw [hg, bareContent, Mixed.next.injEq] at hbare
    cases o with
    | leaf n => cases hbare.2.1
    | element k v content =>
      obtain ⟨n, hn, hcontent⟩ := rootOf_of_outlineAll hg
      obtain rfl := Option.some.inj (hroot.symm.trans hn)
      obtain ⟨-, -, rfl⟩ := Outline.element.inj hcontent
      have hm := (Outline.element.inj hbare.2.1).2.2
      rw [← textIn_outlineAll, ← textIn_bareContent, hm, textIn_bareContent]

/-- The name of the only element at the top finds it. -/
theorem Document.Reachable.value_fromTop {e : Document} (he : e.Reachable) {f : Forest} (htrees : e.trees = [f])
    (htags : f.filterMap elementTag? = [tag]) (hroot : rootOf f = some (.element i tag cs))
    (hid : e.root = some i) {c : QueryContext} (hcontext : e.context = some c) (hc : c.root = i)
    (hname : IsPlainName tag.name.base) (hspace : tag.name.space = none)
    (hstart : tag.name.base.head?.any isAsciiLetter = true) (selector : String)
    (hselector : selector.toList = '/' :: tag.name.base)
    (hconvert : e.translator.convert selector = .ok selector) : e.value selector = .ok [textContents cs] := by
  have hnode : e.rootNode? = some (.element i tag cs) := by
    refine (he.sound.rootNode?_eq_some hid).mpr ⟨?_, rfl⟩
    rw [Document.forest, htrees, List.flatten_singleton]
    exact List.mem_of_find?_eq_some hroot
  obtain ⟨g, hg, -, j, u, hj, hu, hin⟩ := he.tree_of_root hnode
  rw [htrees, List.mem_singleton] at hg
  obtain rfl := Option.some.inj (hid.symm.trans hj)
  rw [← hc] at hu
  have hfind := Document.find_fromTop (isChildStep_name hname) rfl hstart (isMarkupText_of_isPlainName hname)
    hselector hconvert hcontext hu hin
  obtain ⟨v, hv, htarget⟩ := filter_isNamed_childSpots htags hspace hroot [] [.document f] 0
  have hchildren : (Spot.top g).children.filter (fun w =>
      (NodeTest.name none tag.name.base).holds .child none w.target) = [v] := by
    simp only [holds_name, hg]
    exact hv
  rw [hchildren, inOrder_of_perm (.refl [v]) (List.pairwise_singleton _ _)] at hfind
  rw [Document.value, hfind]
  show Except.ok [(Found.spot v).text] = _
  rw [Found.text, htarget]
  rfl

/-- XML markup in an element of its own is opened as a document with one root, whose text is some of the text
that is read. -/
theorem Document.Reachable.spawn_nestedMarkup (hd : d.Reachable) (hplain : d.isPlainXml = true)
    (husable : ∀ s ∈ d.namespaces, isUsable s = true)
    (hconvert : d.translator.convert "/root" = .ok "/root") (s : Chars) :
    ∃ e f t, (d.spawn (nestedMarkup s)).1 = .ok e ∧ e.value "/root" = .ok [t] ∧
      (read { keepSections := false } (nestedMarkup s) 0).forest = some f ∧ t.Sublist (textContents f) ∧
      ∀ m, outlineAll f = .next [] (.element unnumbered nestedTag m) (.last []) → t = textIn m := by
  obtain ⟨spaces, hspaces⟩ := (contextSpaces_ok_iff d.namespaces).mpr husable
  rw [Document.isPlainXml, Bool.and_eq_true, beq_iff_eq, beq_iff_eq] at hplain
  obtain ⟨f, i, cs, hread, htags, hroot, htree⟩ := parseMarkup_startTag d.options
    isLocalTag_nestedTag.isReadableTag rereadTagIn_nestedTag (s ++ "</root>".toList)
  rw [← nestedMarkup_start] at hread htree
  rw [hplain.2, settings_default] at hread
  rw [← hplain.1] at htree
  have hnonempty : nestedMarkup s ≠ [] := by
    rw [nestedMarkup_start]
    exact List.append_ne_nil_of_right_ne_nil _ (List.cons_ne_nil _ _)
  have hspawn := Document.spawn_of_tree hd.options_kept hnonempty hspaces htree
  have hvalue := Document.Reachable.value_fromTop (.opened hspawn) rfl htags hroot rfl rfl rfl
    (isPlainName_of_span (by decide) (by decide)) rfl (by decide) "/root" (by decide) hconvert
  refine ⟨_, f, textContents cs, hspawn, hvalue, hread, ?_, fun m hm => textContents_root 1 hroot hm⟩
  rw [← textContents_numberAll 1 f]
  exact textContent_sublist_of_mem (List.mem_of_find?_eq_some hroot)

/-! ## Reading nested markup -/

/-- What is read as the content of an element is that of the root if it is put in an element of its own. -/
theorem read_nestedMarkup {ok : Bool} (hbody : Reader.ReadsBody 1 [] true s ok m) :
    ∃ f, (read { keepSections := false } (nestedMarkup s) 0).forest = some f ∧
      outlineAll f = .next [] (.element unnumbered nestedTag m) (.last []) := by
  have hlocal := isLocalTag_nestedTag
  have hsound : isSoundTagIn [] nestedTag = true := hlocal.isSoundTagIn_nil.trans (by decide)
  have hend : "</root>".toList = "</".toList ++ nestedTag.name.written ++ ['>'] := by decide
  have hinner : Reader.ReadsBody 1 (innerScope [] nestedTag) (isSoundTagIn [] nestedTag) s ok m := by
    rw [hlocal.innerScope_nil, hsound]
    exact hbody
  have hread := read_tagged hlocal.isReadableTag hinner
  rw [rereadTagIn_nestedTag] at hread
  rw [nestedMarkup_start, hend]
  exact hread

/-- A text comes through as it is exactly if it is verbatim. -/
theorem eq_iff_isVerbatim {f : Forest}
    (hread : (read { keepSections := false } (nestedMarkup s) 0).forest = some f)
    (htext : t.Sublist (textContents f))
    (hroot : ∀ m, outlineAll f = .next [] (.element unnumbered nestedTag m) (.last []) → t = textIn m) :
    t = s ↔ isVerbatim s = true := by
  constructor
  · rintro rfl
    rw [nestedMarkup_start] at hread
    exact isVerbatim_of_read (t := "root>".toList) isLocalTag_nestedTag.isReadableTag (by decide) (by decide)
      hread htext
  · intro hs
    obtain ⟨g, hg, houtline⟩ := read_nestedMarkup (Reader.readsBody_verbatim Nat.one_pos hs [] true)
    obtain rfl := Option.some.inj (hread.symm.trans hg)
    exact hroot _ houtline

/-- Inner markup without carriage returns in the text at its start comes through as it is exactly if all of
its parts do. -/
theorem eq_iff_keepTextIn {f : Forest} (hm : IsReadableTrees 256 m) (hreturn : '\r' ∉ m.text)
    (hread : (read { keepSections := false } (nestedMarkup (innerTrees m)) 0).forest = some f)
    (hroot : ∀ m, outlineAll f = .next [] (.element unnumbered nestedTag m) (.last []) → t = textIn m) :
    t = textIn m ↔ keepTextIn [] true m = true := by
  obtain ⟨g, hg, houtline⟩ :=
    read_nestedMarkup (Reader.readsBody_innerTrees Nat.one_pos (Nat.le_refl 257) hm [] true)
  obtain rfl := Option.some.inj (hread.symm.trans hg)
  have hunified : unified m = m := by
    rw [unified, unifyLineEnds_of_not_mem hreturn]
    cases m <;> rfl
  rw [hroot _ houtline, hunified, textIn_rereadContentIn_eq_iff]

/-! ## What was found -/

/-- What an element that was found holds, every child by itself. -/
def Found.holding? : Found → Option (List Node)
  | .scalar _ => none
  | .spot s =>
      match s.target with
      | .node (.element _ t cs) => some (cs.map (selfContained (t :: s.tagsAbove)))
      | _ => none

/-- Whether the declarations in an element that was found can be read back, and the text at its start holds no
carriage return. -/
def Found.isReadable (x : Found) : Bool :=
  x.holding?.all fun ns => declareReadably ns && !((leadingText ns).getD []).contains '\r'

/-- Whether the text of something found comes through in a document of its own. -/
def Found.keepsText (x : Found) : Bool :=
  match x.holding? with
  | some ns => keepTextIn [] true (outlineAll ns)
  | none => isVerbatim x.text

variable {x : Found} {ns : List Node}

/-- The inner markup of anything but an element is its text. -/
theorem Found.inner_of_holding?_eq_none (h : x.holding? = none) (kind : Kind) : x.inner kind = x.text := by
  cases x with
  | scalar u => rfl
  | spot s =>
    rw [Found.inner]
    split
    · next i t cs htarget => simp [Found.holding?, htarget] at h
    · rfl

theorem Found.exists_of_holding?_eq_some (h : x.holding? = some ns) :
    ∃ s i t cs, x = .spot s ∧ s.target = .node (.element i t cs) ∧
      ns = cs.map (selfContained (t :: s.tagsAbove)) ∧ x.inner .xml = writeInner .xml s.tagsAbove t cs ∧
      x.text = textIn (outlineAll ns) := by
  cases x with
  | scalar u => cases h
  | spot s =>
    rw [Found.holding?] at h
    split at h
    · next i t cs htarget =>
      obtain rfl := Option.some.inj h
      refine ⟨s, i, t, cs, rfl, htarget, rfl, ?_, ?_⟩
      · rw [Found.inner, htarget]
      · rw [Found.text, htarget, textIn_outlineAll, textContents_map_selfContained]
        rfl
    · cases h

/-- The children of an element that is found in a plain XML document are lawful, unless a function made it. -/
theorem Document.Reachable.lawfulNodes_of_find (hd : d.Reachable) (hplain : d.isPlainXml = true) {selector : String}
    {found : List Found} (hfind : d.find selector = .ok found) {s : Spot} (hs : .spot s ∈ found) {t : Tag}
    (htarget : s.target = .node (.element i t cs)) : s.Made ∨ LawfulNodes 256 cs := by
  refine (d.in_or_made_of_find hfind hs).imp_right ?_
  rintro ⟨f, hf, -, hin⟩
  have hall := hin.all (P := LawfulNode 257) (fun n hn m hm => ?_) fun n hn =>
    lawfulNodes_iff.mp (hd.lawful hplain) n (List.mem_flatten.mpr ⟨f, hf, hn⟩)
  · rw [htarget] at hall
    exact hall.1.2.2
  · cases n with
    | element j u ds => exact (lawfulNodes_iff.mp hn.2.2 m hm).mono (by omega)
    | _ => cases hm

/-- The text of an element that a function made comes through as it is. -/
theorem eq_iff_of_made {s : Spot} (hmade : s.Made) {u : Tag} (htarget : s.target = .node (.element i u cs))
    (hreturn : '\r' ∉ (outlineAll (cs.map (selfContained (u :: s.tagsAbove)))).text) {f : Forest}
    (hread : (read { keepSections := false } (nestedMarkup (writeInner .xml s.tagsAbove u cs)) 0).forest = some f)
    (hroot : ∀ m, outlineAll f = .next [] (.element unnumbered nestedTag m) (.last []) → t = textIn m) :
    t = textIn (outlineAll (cs.map (selfContained (u :: s.tagsAbove)))) ↔
      keepTextIn [] true (outlineAll (cs.map (selfContained (u :: s.tagsAbove)))) = true := by
  have habove := hmade.declarations htarget
  have hhere := hmade.all.1
  rw [htarget] at hhere
  cases hhere with
  | one hn =>
    obtain ⟨j, v, hv, heq⟩ := hn
    obtain ⟨rfl, rfl, rfl⟩ := Node.element.inj heq
    have hcontent : outlineAll ([Node.text v].map (selfContained (matchTag :: s.tagsAbove))) = .last v :=
      congrArg Mixed.last (List.append_nil v)
    -- one text, as if the element had been read
    rw [hcontent] at hreturn ⊢
    rw [writeInner_of_text] at hread
    exact eq_iff_keepTextIn (isXmlChar_of_isMarkupText hv) hreturn hread hroot
  | all hcs =>
    -- all texts are read back, so both sides hold
    rw [map_selfContained_of_matches hcs habove, keepTextIn_matches hcs, iff_true_right rfl]
    rw [writeInner_of_matches hcs habove] at hread
    obtain ⟨g, hg, houtline⟩ := read_nestedMarkup (Reader.readsBody_matches hcs)
    obtain rfl := Option.some.inj (hread.symm.trans hg)
    rw [hroot _ houtline, textIn_bareContent]

/-- The text of something found comes through as it is exactly if it is kept. -/
theorem Document.Reachable.eq_text_iff (hd : d.Reachable) (hplain : d.isPlainXml = true) {selector : String}
    {found : List Found} (hfind : d.find selector = .ok found) (hx : x ∈ found) (hreadable : x.isReadable = true)
    {f : Forest} (hread : (read { keepSections := false } (nestedMarkup (x.inner .xml)) 0).forest = some f)
    (htext : t.Sublist (textContents f))
    (hroot : ∀ m, outlineAll f = .next [] (.element unnumbered nestedTag m) (.last []) → t = textIn m) :
    t = x.text ↔ x.keepsText = true := by
  rw [Found.isReadable] at hreadable
  rw [Found.keepsText]
  cases hholding : x.holding? with
  | none =>
    rw [x.inner_of_holding?_eq_none hholding] at hread
    exact eq_iff_isVerbatim hread htext hroot
  | some ns =>
    rw [hholding, Option.all_some, Bool.and_eq_true, ← text_outlineAll] at hreadable
    obtain ⟨hdeclare, hreturn⟩ := hreadable
    have hreturn : '\r' ∉ (outlineAll ns).text := by simpa using hreturn
    obtain ⟨s, i, u, cs, rfl, htarget, rfl, hinner, hcontent⟩ := Found.exists_of_holding?_eq_some hholding
    rw [hinner] at hread
    rw [hcontent]
    rcases hd.lawfulNodes_of_find hplain hfind hx htarget with hmade | hcs
    · exact eq_iff_of_made hmade htarget hreturn hread hroot
    · rw [writeInner_eq_innerTrees _ _ hcs] at hread
      refine eq_iff_keepTextIn (LawfulNodes.isReadableTrees _ ?_ hdeclare) hreturn hread hroot
      refine lawfulNodes_iff.mpr fun n hn => ?_
      obtain ⟨m, hm, rfl⟩ := List.mem_map.mp hn
      exact (lawfulNodes_iff.mp hcs m hm).selfContained _

/-! ## Nested documents -/

/-- The placeholder for blank markup is opened as a document. -/
theorem Document.Reachable.spawn_emptyMarkup (hd : d.Reachable) (hkind : d.kind = .xml)
    (husable : ∀ s ∈ d.namespaces, isUsable s = true) : ∃ e, (d.spawn emptyMarkup).1 = .ok e := by
  obtain ⟨spaces, hspaces⟩ := (contextSpaces_ok_iff d.namespaces).mpr husable
  have hreread : rereadTagIn [] emptyTag = emptyTag := isLocalTag_emptyTag.rereadTagIn_nil.trans (by decide)
  obtain ⟨e, hspawn, -⟩ := hd.spawn_startTag hkind hspaces isLocalTag_emptyTag.isReadableTag hreread
    (innerOf (.last []) ++ ("</".toList ++ emptyTag.name.base ++ ['>']))
  exact ⟨e, emptyMarkup_eq ▸ hspawn⟩

/-- In a plain XML document whose namespaces allow a query context, a document is opened for everything that is
found. If its inner markup is not blank, the path to the root gives one text there. This is the text of what
was found exactly if that is kept. -/
theorem Document.Reachable.nested_text (hd : d.Reachable) (hplain : d.isPlainXml = true)
    (husable : ∀ s ∈ d.namespaces, isUsable s = true)
    (hconvert : d.translator.convert "/root" = .ok "/root") {selector : String} {found : List Found}
    (hfind : d.find selector = .ok found) :
    d.value selector = .ok (found.map Found.text) ∧
      ∃ es, (d.nested selector false).1 = .ok es ∧ List.Forall₂ (fun x e =>
        isAllBlank (x.inner .xml) = false → ∃ t, e.value "/root" = .ok [t] ∧
          (x.isReadable = true → (t = x.text ↔ x.keepsText = true))) found es := by
  have hkind : d.kind = .xml := by
    rw [Document.isPlainXml, Bool.and_eq_true, beq_iff_eq] at hplain
    exact hplain.1
  refine ⟨by rw [Document.value, hfind]; rfl, Document.nested_of_find hfind fun x hx => ?_⟩
  rw [Document.nestedSource, hkind]
  cases hblank : isAllBlank (x.inner .xml) with
  | true =>
    obtain ⟨e, hspawn⟩ := hd.spawn_emptyMarkup hkind husable
    exact ⟨e, hspawn, fun hfilled => absurd hfilled.symm Bool.false_ne_true⟩
  | false =>
    obtain ⟨e, f, t, hspawn, hvalue, hread, htext, hroot⟩ :=
      hd.spawn_nestedMarkup hplain husable hconvert (x.inner .xml)
    exact ⟨e, hspawn, fun _ => ⟨t, hvalue, fun hreadable =>
      hd.eq_text_iff hplain hfind hx hreadable hread htext hroot⟩⟩

/-- An element with characters of markup in its text and in that of a child. -/
theorem nested_text_element :
    ∃ (d : Document) (x : Found) (e : Document), d.Reachable ∧ d.isPlainXml = true ∧
      (∀ s ∈ d.namespaces, isUsable s = true) ∧ d.translator.convert "/root" = .ok "/root" ∧
      d.find "c" = .ok [x] ∧ isAllBlank (x.inner .xml) = false ∧ x.isReadable = true ∧
      x.keepsText = true ∧ x.text = "a&b<]]>".toList ∧ (d.nested "c" false).1 = .ok [e] ∧
      e.value "/root" = .ok ["a&b<]]>".toList] := by
  obtain ⟨d, hopen, htest⟩ : ∃ d, (Opening.run
      { markup := .text (codePoints "<r><c>a&amp;b<d>&lt;</d>]]&gt;</c></r>".toList)
        kind := .int 1 }).1 = .ok d ∧
      (d.isPlainXml && d.namespaces.all isUsable && (d.translator.convert "/root").toOption == some "/root" &&
        (d.find "c").toOption.any fun found => found.length == 1 && found.all fun x =>
          !isAllBlank (x.inner .xml) && x.isReadable && x.keepsText && x.text == "a&b<]]>".toList) = true :=
    Opening.exists_of_gives (by decide +kernel)
  have hd : d.Reachable := .opened hopen
  simp only [Bool.and_eq_true, beq_iff_eq, List.all_eq_true] at htest
  obtain ⟨⟨⟨hplain, husable⟩, hconvert⟩, hfound⟩ := htest
  have hconvert := eq_ok_of_toOption hconvert
  obtain ⟨found, hfind, hfound⟩ := (Option.any_eq_true ..).mp hfound
  have hfind := eq_ok_of_toOption hfind
  rw [Bool.and_eq_true, beq_iff_eq] at hfound
  obtain ⟨x, rfl⟩ := List.length_eq_one_iff.mp hfound.1
  simp only [List.all_cons, List.all_nil, Bool.and_eq_true, Bool.not_eq_true', beq_iff_eq] at hfound
  obtain ⟨-, ⟨⟨⟨hblank, hreadable⟩, hkept⟩, htext⟩, -⟩ := hfound
  obtain ⟨-, es, hnested, hes⟩ := hd.nested_text hplain husable hconvert hfind
  obtain ⟨e, es, hvalue, hnil, rfl⟩ := List.forall₂_cons_left_iff.mp hes
  obtain rfl := List.forall₂_nil_left_iff.mp hnil
  obtain ⟨t, ht, hiff⟩ := hvalue hblank
  refine ⟨d, x, e, hd, hplain, husable, hconvert, hfind, hblank, hreadable, hkept, htext, hnested, ?_⟩
  rw [ht, (hiff hreadable).mpr hkept, htext]

/-- An attribute with a bare character of markup, which is lost. -/
theorem nested_loses_ampersand :
    ∃ (d : Document) (e : Document), d.Reachable ∧ d.isPlainXml = true ∧
      (∀ s ∈ d.namespaces, isUsable s = true) ∧ d.translator.convert "/root" = .ok "/root" ∧
      d.html "@a" false = .ok ["x & y".toList] ∧ d.value "@a" = .ok ["x & y".toList] ∧
      (d.nested "@a" false).1 = .ok [e] ∧ e.value "/root" = .ok ["x  y".toList] := by
  obtain ⟨d, hopen, htest⟩ : ∃ d, (Opening.run
      { markup := .text (codePoints "<r a=\"x &amp; y\"/>".toList), kind := .int 1 }).1 = .ok d ∧
      (d.isPlainXml && d.namespaces.all isUsable && (d.translator.convert "/root").toOption == some "/root" &&
        (d.html "@a" false).toOption == some ["x & y".toList] &&
        (d.value "@a").toOption == some ["x & y".toList] &&
        (d.nested "@a" false).1.toOption.any fun es => es.length == 1 && es.all fun e =>
          (e.value "/root").toOption == some ["x  y".toList]) = true :=
    Opening.exists_of_gives (by decide +kernel)
  simp only [Bool.and_eq_true, beq_iff_eq, List.all_eq_true] at htest
  obtain ⟨⟨⟨⟨⟨hplain, husable⟩, hconvert⟩, hinner⟩, hvalue⟩, hnested⟩ := htest
  obtain ⟨es, hnested, hes⟩ := (Option.any_eq_true ..).mp hnested
  rw [Bool.and_eq_true, beq_iff_eq] at hes
  obtain ⟨e, rfl⟩ := List.length_eq_one_iff.mp hes.1
  simp only [List.all_cons, List.all_nil, Bool.and_true, beq_iff_eq] at hes
  exact ⟨d, e, .opened hopen, hplain, husable, eq_ok_of_toOption hconvert, eq_ok_of_toOption hinner,
    eq_ok_of_toOption hvalue, eq_ok_of_toOption hnested, eq_ok_of_toOption hes.2⟩

end MarkupQuery
