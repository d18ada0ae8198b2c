import MarkupQuery.Proofs.Document.Finding
import MarkupQuery.Proofs.Document.Spawning

/-!
# Records of named fields

A record asks for the first element of a name in a document of its own that is opened for an item: the
inner markup of the item between a start and an end tag, or a placeholder if that is blank. What the
field finds is told exactly (`Document.Reachable.records_named`): for a steady item it is the inner markup
of the first element of that name in the item, unless the name is that of the element around it.
-/

namespace MarkupQuery

open MarkupQuery.Text MarkupQuery.Tree MarkupQuery.Xml MarkupQuery.Query

variable {d : Document} {n : Chars} {m : Mixed Outline}

/-! ## The markup of nested documents -/

/-- The element that stands for blank markup. -/
def emptyTag : Tag where
  name := { base := "html".toList }
  attributes := [{ name := { base := "data-document-is-empty".toList }, parts := [.text []] }]

/-- The element that markup is put in. -/
def nestedTag : Tag where
  name := { base := "root".toList }
  attributes := [{ name := { base := "data-document-is-nested".toList }, parts := [.text []] }]

/-- The element around the content of an item in a document of its own. -/
def itemTag (m : Mixed Outline) : Tag := if isAllBlank (innerOf m) then emptyTag else nestedTag

/-- What is read of the content of an item in a document of its own. -/
def itemContent (m : Mixed Outline) : Mixed Outline :=
  if isAllBlank (innerOf m) then .last [] else rereadContent true (unified m)

theorem isLocalTag_of_plain {name label : Chars} (hname : IsPlainName name)
    (hlabel : IsPlainName label) (hxmlns : label ≠ "xmlns".toList) :
    IsLocalTag { name := { base := name }
                 attributes := [{ name := { base := label }, parts := [.text []] }] } where
  name := ⟨rfl, rfl, ⟨none, name, [], none⟩, .plain hname, rfl, nofun⟩
  declarations := rfl
  attributes := by
    rw [List.forall_mem_singleton]
    refine ⟨⟨rfl, rfl, ⟨⟨none, label, [], none⟩, .plain hlabel, rfl, nofun, nofun⟩, hxmlns⟩, ?_⟩
    rw [List.forall_mem_singleton]
    exact nofun

/-- A text that is one name. -/
theorem isPlainName_of_span {s : Chars} (hne : s ≠ []) (h : spanPlainName s = (s, [])) :
    IsPlainName s := by
  rcases spanPlainName_spec s with ⟨hnil, -⟩ | ⟨hname, -⟩
  · rw [h] at hnil
    exact absurd hnil hne
  · rwa [h] at hname

theorem isLocalTag_emptyTag : IsLocalTag emptyTag :=
  isLocalTag_of_plain (isPlainName_of_span (by decide) (by decide))
    (isPlainName_of_span (by decide) (by decide)) (by decide)

theorem isLocalTag_nestedTag : IsLocalTag nestedTag :=
  isLocalTag_of_plain (isPlainName_of_span (by decide) (by decide))
    (isPlainName_of_span (by decide) (by decide)) (by decide)

theorem isLocalTag_itemTag (m : Mixed Outline) : IsLocalTag (itemTag m) ∧ isSoundTag (itemTag m) = true ∧
    rereadTag (itemTag m) = itemTag m := by
  rw [itemTag]
  split
  · exact ⟨isLocalTag_emptyTag, by decide, by decide⟩
  · exact ⟨isLocalTag_nestedTag, by decide, by decide⟩

theorem emptyMarkup_eq : emptyMarkup = wrapped emptyTag (.last []) := by
  decide +kernel

/-- The start of nested markup is a start tag. -/
theorem nestedMarkup_start (s : Chars) :
    nestedMarkup s = writeTag nestedTag ++ '>' :: (s ++ "</root>".toList) := by
  have hstart : "<root data-document-is-nested=\"\">".toList = writeTag nestedTag ++ ['>'] := by
    decide +kernel
  unfold nestedMarkup
  generalize "</root>".toList = last
  rw [hstart, List.append_assoc, List.append_assoc, List.singleton_append]

theorem nestedMarkup_eq (m : Mixed Outline) : nestedMarkup (innerOf m) = wrapped nestedTag m := by
  have hend : "</root>".toList = "</".toList ++ nestedTag.name.base ++ ['>'] := by
    decide +kernel
  rw [nestedMarkup_start, hend, wrapped]

/-- The document of an item is opened for its content in an element. -/
theorem Document.nestedSource_innerOf (hkind : d.kind = .xml) (m : Mixed Outline) :
    d.nestedSource false (innerOf m) =
      wrapped (itemTag m) (if isAllBlank (innerOf m) then .last [] else m) := by
  rw [Document.nestedSource, itemTag, hkind]
  cases isAllBlank (innerOf m) with
  | true => exact emptyMarkup_eq
  | false => exact nestedMarkup_eq m

/-! ## Opening nested documents -/

/-- An XML document with default options and without namespaces opens one like itself. -/
theorem Document.spawn_of_parse (hplain : d.isPlainXml = true) (hnil : d.namespaces = [])
    {markup : Chars} (hmarkup : markup ≠ []) {g : Forest} {r : NodeId}
    (htree : (parseXml Options.default 1 (codePoints markup)).tree = some (g, r)) :
    ∃ e, (d.spawn markup).1 = .ok e ∧ e.kind = .xml ∧ e.translator = d.translator ∧
      e.trees = [g] ∧ e.context = some ⟨r, []⟩ := by
  rw [Document.isPlainXml, Bool.and_eq_true, beq_iff_eq, beq_iff_eq] at hplain
  have hkept : Options.kept d.options = d.options := by
    rw [hplain.2]
    decide
  rw [← hplain.2] at htree
  exact ⟨_, Document.spawn_of_tree hkept hmarkup (by rw [hnil]; rfl) (by rw [hplain.1]; exact htree),
    hplain.1, rfl, rfl, rfl⟩

theorem isBareTag_of_isLocalTag {t : Tag} (ht : IsLocalTag t) : isBareTag t = true := by
  rw [isBareTag, isBareName, ht.name.label, ht.name.space, ht.declarations]
  refine List.all_eq_true.mpr fun a ha => ?_
  rw [isBareName, (ht.attributes a ha).name.label, (ht.attributes a ha).name.space]
  rfl

theorem contentLacksSpaces_withText (s : Chars) (m : Mixed Outline) :
    contentLacksSpaces (m.withText s) = contentLacksSpaces m := by
  cases m <;> rfl

/-- The document of an item has the element around its content and what is read of the content. -/
theorem parseXml_wrapped {t : Tag} (ht : IsLocalTag t) (hsound : isSoundTag t = true)
    (hm : IsReadableContent 256 m) (hspaces : contentLacksSpaces m = true) (next : NodeId) :
    ∃ g r s, (parseXml Options.default next (codePoints (wrapped t m))).tree = some (g, r) ∧
      bareContent (outlineAll g) = .next []
        (.element unnumbered (rereadTag t) (rereadContent true (unified m))) (.last []) ∧
      spotIn g r = some s ∧ LawfulNodes 257 g ∧ haveNoSpaces g = true := by
  obtain ⟨g₀, hread, houtline⟩ := read_wrapped ht hsound hm
  have hbare : bareContent (outlineAll g₀) = .next []
      (.element unnumbered (rereadTag t) (rereadContent true (unified m))) (.last []) := by
    rw [houtline, bareContent, Outline.bare, bareContent_reread]
    rfl
  obtain ⟨r, e, htree, he, hid, -⟩ := parseXml_of_read next hread houtline
  have hnumbered := bare_outlineAll_number next g₀
  rw [hbare] at hnumbered
  have hlawful := LawfulNodes.number next g₀ (read_lawful hread)
  have hbareSpaces : haveNoSpaces (numberAll next g₀).1 = true := by
    rw [← contentLacksSpaces_outlineAll, ← contentLacksSpaces_bare, hnumbered, contentLacksSpaces,
      lacksSpaces, isBareTag_rereadTag, isBareTag_of_isLocalTag ht, contentLacksSpaces_reread, unified,
      contentLacksSpaces_withText, hspaces]
    rfl
  cases hspot : spotIn (numberAll next g₀).1 r with
  | none => exact absurd (mem_idsAll.mpr ⟨e, he, Node.mem_ids_of_id? hid⟩) (spotIn_eq_none hspot)
  | some s => exact ⟨_, r, s, htree, hnumbered, hspot, hlawful, hbareSpaces⟩

/-! ## Records -/

/-- A document that is opened for content in an element finds the first element of a name there, or the
element itself. -/
theorem Document.record_wrapped (hplain : d.isPlainXml = true) (hnil : d.namespaces = []) {t : Tag}
    (ht : IsLocalTag t) (hsound : isSoundTag t = true) (hm : IsReadableContent 256 m)
    (hspaces : contentLacksSpaces m = true) (hn : IsPlainName n)
    (hconvert : d.translator.convert (nameSelector n) = .ok (nameSelector n)) (k : String) :
    ∃ e, (d.spawn (wrapped t m)).1 = .ok e ∧ e.record [(k, nameSelector n)] = .ok [(k,
      (seek n (.element unnumbered (rereadTag t) (rereadContent true (unified m)))).map innerOf)] := by
  obtain ⟨g, r, s, htree, hbare, hspot, hlawful, hg⟩ := parseXml_wrapped ht hsound hm hspaces 1
  have hne : wrapped t m ≠ [] := by simp [wrapped]
  obtain ⟨e, hspawn, hkind, htranslator, htrees, hcontext⟩ :=
    Document.spawn_of_parse hplain hnil hne htree
  have hs : e.spot? r = some s := by
    rw [Document.spot?, htrees, List.findSome?_cons, hspot]
  have hin : s.In g := Spot.In.top.descendants s (List.mem_of_find?_eq_some hspot)
  have hfind := Document.find_nameSelector hn (htranslator ▸ hconvert) hcontext hs hin
  have hfirst := (Spot.In.top (f := g)).find_isNamed hlawful hg n
  -- ids do not matter to what is found by a name
  have hseek : (seekIn n (outlineAll g)).map innerOf
      = (seek n (.element unnumbered (rereadTag t) (rereadContent true (unified m)))).map innerOf := by
    have hmap : (seekIn n (bareContent (outlineAll g))).map innerOf
        = (seekIn n (outlineAll g)).map innerOf := by
      rw [seekIn_bare, Option.map_map]
      exact congrArg (Option.map · _) (funext innerOf_bare)
    rw [← hmap, hbare, seekIn, seekIn, Option.or_none]
  refine ⟨e, hspawn, ?_⟩
  have hhtml : e.html (nameSelector n) false = .ok
      (((Spot.top g).descendants.filter fun t => t.target.isNamed n).map fun t =>
        (Found.spot t).inner .xml) := by
    rw [Document.html, hfind, hkind]
    simp only [bind, Except.bind, List.map_map]
    rfl
  rw [Document.record, List.mapM_cons, List.mapM_nil]
  dsimp only
  rw [hhtml]
  show Except.ok [(k, List.head? _)] = _
  rw [List.head?_map, List.head?_filter, hfirst]
  exact congrArg (fun v => Except.ok [(k, v)]) hseek

/-- The document that is opened for an item finds the first element of a name in what is read of its
content, or the element around it. -/
theorem Document.record_item (hplain : d.isPlainXml = true) (hnil : d.namespaces = [])
    (hm : IsReadableContent 256 m) (hspaces : contentLacksSpaces m = true) (hn : IsPlainName n)
    (hconvert : d.translator.convert (nameSelector n) = .ok (nameSelector n)) (k : String) :
    ∃ e, (d.spawn (d.nestedSource false (innerOf m))).1 = .ok e ∧
      e.record [(k, nameSelector n)] = .ok [(k,
        (seek n (.element unnumbered (itemTag m) (itemContent m))).map innerOf)] := by
  have hkind : d.kind = .xml := by
    rw [Document.isPlainXml, Bool.and_eq_true, beq_iff_eq] at hplain
    exact hplain.1
  obtain ⟨htag, hsound, hreread⟩ := isLocalTag_itemTag m
  rw [Document.nestedSource_innerOf hkind]
  cases hblank : isAllBlank (innerOf m) with
  | true =>
    have hempty : IsReadableContent 256 (.last []) := fun c hc => absurd hc List.not_mem_nil
    have hrecord := Document.record_wrapped hplain hnil htag hsound hempty rfl hn hconvert k
    rw [hreread] at hrecord
    rw [itemContent, hblank]
    exact hrecord
  | false =>
    have hrecord := Document.record_wrapped hplain hnil htag hsound hm hspaces hn hconvert k
    rw [hreread] at hrecord
    rw [itemContent, hblank]
    exact hrecord

/-- Records are made item by item. -/
theorem mapM_record {α : Type} {fields : List (String × String)}
    {record : α → List (String × Option Chars)} {xs : List α} {es : List Document}
    (h : List.Forall₂ (fun x e => e.record fields = .ok (record x)) xs es) :
    es.mapM (fun e => e.record fields) = .ok (xs.map record) := by
  induction h with
  | nil => rfl
  | cons hrecord _ ih =>
    rw [List.mapM_cons, hrecord, ih]
    rfl

/-- The content of something found. -/
def Found.content : Found → Mixed Outline
  | .spot s => outlineAll s.target.children
  | .scalar _ => .last []

/-- What a field that asks for a name finds in the document that is opened for something found. -/
def Found.field (n : Chars) (x : Found) : Option Chars :=
  (seek n (.element unnumbered (itemTag x.content) (itemContent x.content))).map innerOf

/-- The inner markup of the first element of a name below something found. -/
def Found.first (n : Chars) : Found → Option Chars
  | .spot s => (s.descendants.find? fun t => t.target.isNamed n).map fun t => (Found.spot t).inner .xml
  | .scalar _ => none

/-- Whether the content of something found is read back as it is. -/
def Found.isSteady (x : Found) : Bool := isSteadyContent true x.content

/-- Steady content is read back as it is, but for line ends in the text at its start. -/
theorem rereadContent_unified (hsteady : isSteadyContent true m = true) :
    rereadContent true (unified m) = bareContent (unified m) :=
  (rereadContent_eq_bare_iff true _).mpr ((isSteadyContent_withText _ m).trans hsteady)

theorem seekIn_unified (hsteady : isSteadyContent true m = true) (n : Chars) :
    (seekIn n (rereadContent true (unified m))).map innerOf = (seekIn n m).map innerOf := by
  rw [rereadContent_unified hsteady, seekIn_bare, unified, seekIn_withText, Option.map_map]
  exact congrArg (Option.map · _) (funext innerOf_bare)

/-- A field finds what is first in the item, if this is steady, unless it asks for the element around
it. -/
theorem field_eq_iff (hsteady : isSteadyContent true m = true) :
    (seek n (.element unnumbered (itemTag m) (itemContent m))).map innerOf = (seekIn n m).map innerOf ↔
      n ≠ (itemTag m).name.base := by
  rw [seek]
  by_cases hname : (itemTag m).name.base = n
  · rw [if_pos (beq_iff_eq.mpr hname), Option.map_some]
    refine iff_of_false (fun h => ?_) fun hne => hne hname.symm
    obtain ⟨c, hseek, hinner⟩ := Option.map_eq_some_iff.mp h.symm
    cases hblank : isAllBlank (innerOf m) with
    | true =>
      rw [seekIn_of_isAllBlank hblank] at hseek
      cases hseek
    | false =>
      -- what stands in the item is shorter than the item
      rw [itemContent, hblank, if_neg Bool.false_ne_true, rereadContent_unified hsteady, innerOf_bare] at hinner
      rw [← seekIn_withText (unifyLineEnds m.text), ← unified] at hseek
      have hlt := length_innerOf_of_seekIn hseek
      rw [hinner] at hlt
      exact absurd hlt (lt_irrefl _)
  · rw [if_neg (by simpa using hname)]
    refine iff_of_true ?_ fun hn => hname hn.symm
    cases hblank : isAllBlank (innerOf m) with
    | true =>
      rw [itemContent, hblank, if_pos rfl, seekIn_of_isAllBlank hblank]
      rfl
    | false =>
      rw [itemContent, hblank, if_neg Bool.false_ne_true]
      exact seekIn_unified hsteady n

/-- What an element that was found in a tree holds, and its inner markup. -/
theorem Found.readable {f : Forest} {s : Spot} (hs : s.In f) (hf : LawfulNodes 257 f)
    (hspaces : haveNoSpaces f = true) (helement : (Found.spot s).isElement = true) :
    IsReadableContent 256 (Found.spot s).content ∧ contentLacksSpaces (Found.spot s).content = true ∧
      (Found.spot s).inner .xml = innerOf (Found.spot s).content := by
  obtain ⟨hlawful, habove⟩ := hs.lawful hf hspaces
  match htarget : s.target with
  | .node (.element i t cs) =>
    have hinner := Query.Spot.inner_eq htarget hlawful habove
    rw [htarget] at hlawful
    have hbare := hlawful.2
    rw [hasNoSpaces, Bool.and_eq_true] at hbare
    have hcontent : (Found.spot s).content = outlineAll cs := by
      rw [Found.content, htarget]
      rfl
    rw [hcontent]
    exact ⟨LawfulNodes.isReadable cs hlawful.1.2.2 hbare.2,
      by rw [contentLacksSpaces_outlineAll, hbare.2], hinner⟩
  | .node (.text _) | .node (.section_ _) | .node (.comment _ _) | .node (.instruction _ _ _)
  | .node (.reference _ _ _) | .document _ | .attribute _ _ | .space _ _ =>
    rw [Found.isElement, htarget] at helement
    cases helement

/-- Whatever an XML document without namespaces finds is in a tree that can be written and read back. -/
theorem Document.Reachable.lawful_of_find (hd : d.Reachable) (hplain : d.isPlainXml = true)
    (hnil : d.namespaces = []) (hspaces : d.hasNoSpaces = true) {base : String} {found : List Found}
    (hfind : d.find base = .ok found) {s : Spot} (hs : .spot s ∈ found) :
    ∃ f, s.In f ∧ LawfulNodes 257 f ∧ haveNoSpaces f = true := by
  obtain ⟨f, hf, r, hr, hspot, hin⟩ := hd.in_of_find hnil hfind hs
  refine ⟨f, hin, (hd.lawful hplain).subset fun m hm => List.mem_flatten.mpr ⟨f, hf, hm⟩, ?_⟩
  rw [Document.hasNoSpaces, hr, Option.all_some, List.all_eq_true] at hspaces
  simpa [Option.isNone_iff_eq_none, Option.isSome_iff_ne_none.mp hspot] using hspaces f hf

/-- One record is made for every element that is found. -/
theorem Document.Reachable.records_eq (hd : d.Reachable) (hplain : d.isPlainXml = true)
    (hnil : d.namespaces = []) (hspaces : d.hasNoSpaces = true) {base : String} {found : List Found}
    (hfind : d.find base = .ok found) (helements : ∀ x ∈ found, x.isElement = true)
    (hn : IsPlainName n) (hconvert : d.translator.convert (nameSelector n) = .ok (nameSelector n))
    (k : String) :
    (d.records base [(k, nameSelector n)]).1 = .ok (found.map fun x => [(k, x.field n)]) := by
  have hkind : d.kind = .xml := by
    rw [Document.isPlainXml, Bool.and_eq_true, beq_iff_eq] at hplain
    exact hplain.1
  have hspawned : ∀ x ∈ found, ∃ e, (d.spawn (d.nestedSource false (x.inner d.kind))).1 = .ok e ∧
      e.record [(k, nameSelector n)] = .ok [(k, x.field n)] := by
    intro x hx
    cases x with
    | spot s =>
      obtain ⟨f, hs, hf, hbare⟩ := hd.lawful_of_find hplain hnil hspaces hfind hx
      obtain ⟨hreadable, hlacks, hinner⟩ := Found.readable hs hf hbare (helements _ hx)
      rw [hkind, hinner]
      exact Document.record_item hplain hnil hreadable hlacks hn hconvert k
    | scalar t => cases helements _ hx
  obtain ⟨es, hnested, hrecords⟩ := Document.nested_of_find hfind hspawned
  rw [Document.records]
  generalize d.nested base false = out at hnested
  obtain ⟨result, log⟩ := out
  obtain rfl : result = .ok es := hnested
  exact mapM_record hrecords

/-- An XML document with default options and without namespaces makes one record for every element that
a selector finds. A field that asks for a name finds what the document of the item has of that name: the
inner markup of the first such element in the item, if this is steady, unless the name is that of the
element around the item. -/
theorem Document.Reachable.records_named (hd : d.Reachable) (hplain : d.isPlainXml = true)
    (hnil : d.namespaces = []) (hspaces : d.hasNoSpaces = true) {base : String} {found : List Found}
    (hfind : d.find base = .ok found) (helements : ∀ x ∈ found, x.isElement = true)
    (hn : IsPlainName n) (hconvert : d.translator.convert (nameSelector n) = .ok (nameSelector n))
    (k : String) :
    (d.records base [(k, nameSelector n)]).1 = .ok (found.map fun x => [(k, x.field n)]) ∧
      ∀ x ∈ found, x.isSteady = true →
        (x.field n = x.first n ↔ n ≠ (itemTag x.content).name.base) := by
  refine ⟨hd.records_eq hplain hnil hspaces hfind helements hn hconvert k, fun x hx hsteady => ?_⟩
  match x with
  | .spot s =>
    obtain ⟨f, hs, hf, hbare⟩ := hd.lawful_of_find hplain hnil hspaces hfind hx
    rw [Found.first, hs.find_isNamed hf hbare, Found.field, Found.content]
    exact field_eq_iff hsteady
  | .scalar t => cases helements _ hx

/-- A single slash finds the root. -/
theorem Document.find_slash (htranslator : d.translator = .path) (hcontext : d.context.isSome = true)
    {s : Spot} (hs : d.rootSpot? = some s) : d.find "/" = .ok [.spot s] := by
  obtain ⟨c, hc⟩ := Option.isSome_iff_exists.mp hcontext
  have hslash : (trimString "/" == "/") = true := by decide
  rw [Document.find, htranslator, Translator.convert]
  simp only [bind, Except.bind, hc, hslash, if_true, hs]
  rfl

/-- A field that asks for a name in the item finds what it holds there. -/
theorem records_named_root :
    ∃ (d : Document) (s : Spot), d.Reachable ∧ d.isPlainXml = true ∧ d.namespaces = [] ∧
      d.hasNoSpaces = true ∧ d.find "/" = .ok [.spot s] ∧ (Found.spot s).isElement = true ∧
      IsPlainName ['b'] ∧ d.translator.convert (nameSelector ['b']) = .ok (nameSelector ['b']) ∧
      (Found.spot s).isSteady = true ∧ (Found.spot s).first ['b'] = some "1 &amp; <i/>".toList ∧
      (d.records "/" [("k", nameSelector ['b'])]).1
        = .ok [[("k", some "1 &amp; <i/>".toList)]] := by
  obtain ⟨d, hopen, htest⟩ : ∃ d, (Opening.run
      { markup := .text (codePoints "<r>s<a><b>1 &amp; <i/></b></a><b/></r>".toList)
        kind := .int 1 }).1 = .ok d ∧
      (d.isPlainXml && d.namespaces.isEmpty && d.hasNoSpaces && d.context.isSome &&
        d.translator == .path && d.rootSpot?.any fun s =>
          (Found.spot s).isElement && (Found.spot s).isSteady &&
            (Found.spot s).first ['b'] == some "1 &amp; <i/>".toList &&
            (itemTag (Found.spot s).content).name.base != ['b']) = true :=
    Opening.exists_of_gives (by decide +kernel)
  have hd : d.Reachable := .opened hopen
  simp only [Bool.and_eq_true, List.isEmpty_iff, beq_iff_eq, bne_iff_ne, Option.any_eq_true] at htest
  obtain ⟨⟨⟨⟨⟨hplain, hnil⟩, hspaces⟩, hcontext⟩, htranslator⟩, s, hs, ⟨⟨helement, hsteady⟩, hfirst⟩,
    hname⟩ := htest
  have hfind := Document.find_slash htranslator hcontext hs
  have hb : IsPlainName ['b'] := isPlainName_of_span (by decide) (by decide)
  have hconvert : d.translator.convert (nameSelector ['b']) = .ok (nameSelector ['b']) := by
    rw [htranslator]
    rfl
  obtain ⟨hrecords, hfield⟩ := hd.records_named hplain hnil hspaces hfind
    (List.forall_mem_singleton.mpr helement) hb hconvert "k"
  have hfield := (hfield _ (List.mem_singleton_self _) hsteady).mpr hname.symm
  rw [List.map_singleton, hfield, hfirst] at hrecords
  exact ⟨d, s, hd, hplain, hnil, hspaces, hfind, helement, hb, hconvert, hsteady, hfirst, hrecords⟩

/-- A field that asks for the name of the element around the item finds this element, even if nothing in
the item has that name. -/
theorem records_named_around :
    ∃ (d : Document) (s : Spot), d.Reachable ∧ d.isPlainXml = true ∧ d.namespaces = [] ∧
      d.hasNoSpaces = true ∧ d.find "/" = .ok [.spot s] ∧ (Found.spot s).isElement = true ∧
      (Found.spot s).first "root".toList = none ∧
      (d.records "/" [("k", nameSelector "root".toList)]).1 = .ok [[("k", some "<b>1</b>".toList)]] := by
  obtain ⟨d, hopen, htest⟩ : ∃ d, (Opening.run
      { markup := .text (codePoints "<r><b>1</b></r>".toList), kind := .int 1 }).1 = .ok d ∧
      (d.isPlainXml && d.namespaces.isEmpty && d.hasNoSpaces && d.context.isSome &&
        d.translator == .path && d.rootSpot?.any fun s =>
          (Found.spot s).isElement && (Found.spot s).first "root".toList == none &&
            (Found.spot s).field "root".toList == some "<b>1</b>".toList) = true :=
    Opening.exists_of_gives (by decide +kernel)
  have hd : d.Reachable := .opened hopen
  simp only [Bool.and_eq_true, List.isEmpty_iff, beq_iff_eq, Option.any_eq_true] at htest
  obtain ⟨⟨⟨⟨⟨hplain, hnil⟩, hspaces⟩, hcontext⟩, htranslator⟩, s, hs, ⟨helement, hfirst⟩, hfield⟩ :=
    htest
  have hfind := Document.find_slash htranslator hcontext hs
  have hrecords := hd.records_eq hplain hnil hspaces hfind (List.forall_mem_singleton.mpr helement)
    (isPlainName_of_span (s := "root".toList) (by decide) (by decide))
    (by rw [htranslator]; rfl) "k"
  rw [List.map_singleton, hfield] at hrecords
  exact ⟨d, s, hd, hplain, hnil, hspaces, hfind, helement, hfirst, hrecords⟩

end MarkupQuery
