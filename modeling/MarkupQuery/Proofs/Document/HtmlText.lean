import MarkupQuery.Proofs.Document.Records
import MarkupQuery.Proofs.Html.TextElements

/-!
# Text of HTML documents

A document is opened as HTML from one element that holds letters and digits of any script. Queries see the text
as it was written, unless the element is one whose text is raw: there the references that stand for everything
beyond ASCII are not resolved, and are seen themselves (`Document.value_transcoded`).
-/

namespace MarkupQuery

open MarkupQuery.Text MarkupQuery.Tree MarkupQuery.Xml MarkupQuery.Query MarkupQuery.Html

variable {n : String} {s t : Chars} {options : Options} {d : Document}

/-! ## Opening -/

theorem toAscii_codePoints_append (s t : Chars) :
    toAscii (codePoints (s ++ t)) = toAscii (codePoints s) ++ toAscii (codePoints t) := by
  rw [toAscii, codePoints, List.map_append, List.flatMap_append]
  rfl

/-- Tags are in ASCII. -/
theorem toAscii_inTags (hn : n ∈ textHolders) (t : Chars) :
    toAscii (codePoints (inTags n.toList t)) = inTags n.toList (toAscii (codePoints t)) := by
  have hascii : ∀ n ∈ textHolders, toAscii (codePoints ('<' :: n.toList ++ ['>'])) = '<' :: n.toList ++ ['>'] ∧
      toAscii (codePoints (endTagOf n.toList)) = endTagOf n.toList := by
    decide
  have hparts (s : Chars) : inTags n.toList s = ('<' :: n.toList ++ ['>']) ++ s ++ endTagOf n.toList := by
    simp [inTags]
  rw [hparts, hparts, toAscii_codePoints_append, toAscii_codePoints_append, (hascii n hn).1, (hascii n hn).2]

/-- The numbered tree of a document with one element that holds text. -/
def textTree (name text : Chars) : Forest :=
  [.element 1 (bareTag "html".toList)
    [.element 2 (bareTag (sectionOf name)) [.element 3 (bareTag name) [.text text]]]]

theorem parseHtml_inTags (hn : n ∈ textHolders) (hne : t ≠ []) (ht : ∀ c ∈ t, isOrdinary c = true) :
    (parseHtml options 1 (codePoints (inTags n.toList t))).tree =
      some (textTree n.toList (shownIn n.toList t), 1) := by
  rw [parseHtml, toAscii_inTags hn]
  dsimp only
  rw [read_inTags hn hne ht]
  rfl

/-- An element that holds text is opened as a document. -/
theorem open_inTags (hn : n ∈ textHolders) (hne : t ≠ []) (ht : ∀ c ∈ t, isOrdinary c = true)
    (options : Options) :
    ∃ d, (Opening.run { markup := .text (codePoints (inTags n.toList t)), options := .int options }).1 = .ok d ∧
      d.kind = .html ∧ d.translator = .path ∧ d.trees = [textTree n.toList (shownIn n.toList t)] ∧
      d.context = some ⟨1, []⟩ := by
  have hsettle : Opening.settle
      { markup := .text (codePoints (inTags n.toList t)), options := .int options } = .ok
      { kind := .html, options := Options.kept options, translator := .path, namespaces := [], trees := [],
        root := none, context := none, epoch := 0, nextId := 1 } := by
    have hpresent : inTags n.toList t ≠ [] := List.cons_ne_nil _ _
    rw [Opening.settle, MarkupSource.isPresent, codePoints_isEmpty hpresent]
    rfl
  rw [Opening.run, hsettle]
  dsimp only [MarkupSource.read, parseMarkup]
  rw [Document.take, parseHtml_inTags hn hne ht]
  exact ⟨_, rfl, rfl, rfl, rfl, rfl⟩

/-! ## Asking -/

/-- What the elements of a name hold, told by what stands at the spots below. -/
theorem map_text_filter (ss : List Spot) (name : Chars) :
    ((ss.filter fun u => u.target.isNamed name).map .spot).map Found.text =
      ((ss.map Spot.target).filter (Target.isNamed name)).map fun u => (Found.spot ⟨u, [], []⟩).text := by
  rw [List.filter_map, List.map_map, List.map_map]
  rfl

theorem isNamed_bareTag (i : NodeId) (name : Chars) (cs : List Node) (x : Chars) :
    (Target.node (.element i (bareTag name) cs)).isNamed x = (name == x) := by
  simp [Target.isNamed, Target.tag?, bareTag]

/-- The name of an element that holds text finds its text. -/
theorem value_textTree (hn : n ∈ textHolders) (htranslator : d.translator = .path)
    (htrees : d.trees = [textTree n.toList s]) (hcontext : d.context = some ⟨1, []⟩) :
    d.value ("//" ++ n) = .ok [s] := by
  have hname : IsPlainName n.toList := by
    have hall : ∀ n ∈ textHolders, n.toList ≠ [] ∧ spanPlainName n.toList = (n.toList, []) := by
      decide
    exact isPlainName_of_span (hall n hn).1 (hall n hn).2
  have hselector : "//" ++ n = nameSelector n.toList :=
    String.toList_injective (String.toList_append.trans String.toList_ofList.symm)
  have hbelow : (Spot.top (textTree n.toList s)).descendants.map Spot.target =
      [.node (.element 1 (bareTag "html".toList)
          [.element 2 (bareTag (sectionOf n.toList)) [.element 3 (bareTag n.toList) [.text s]]]),
        .node (.element 2 (bareTag (sectionOf n.toList)) [.element 3 (bareTag n.toList) [.text s]]),
        .node (.element 3 (bareTag n.toList) [.text s]), .node (.text s)] := rfl
  obtain ⟨u, hu, hin⟩ : ∃ u, d.spot? 1 = some u ∧ u.In (textTree n.toList s) := by
    rw [Document.spot?, htrees]
    exact ⟨_, rfl, Spot.In.top.descendants _ (List.mem_cons_self ..)⟩
  have hfind := Document.find_nameSelector hname (by rw [htranslator]; rfl) hcontext hu hin
  rw [Document.value, hselector, hfind]
  show Except.ok (List.map Found.text _) = _
  have houter : ∀ n ∈ textHolders, "html".toList ≠ n.toList ∧ sectionOf n.toList ≠ n.toList := by
    decide
  obtain ⟨hhtml, hsection⟩ := houter n hn
  rw [map_text_filter, hbelow, List.filter_cons_of_neg (by simpa [isNamed_bareTag] using hhtml),
    List.filter_cons_of_neg (by simpa [isNamed_bareTag] using hsection),
    List.filter_cons_of_pos (by simp [isNamed_bareTag]), List.filter_cons_of_neg Bool.false_ne_true]
  show Except.ok [s ++ []] = _
  rw [List.append_nil]

/-! ## Letters and digits -/

/-- Letters and digits of any script in an element of HTML are found as they were written, unless the element is
one whose text is raw: there their ASCII form is found, which is the same only in ASCII. -/
theorem Document.value_transcoded {name : String} (hname : name ∈ textHolders) {t : Chars} (hne : t ≠ [])
    (ht : ∀ c ∈ t, isAlphanumeric c = true) (options : Options) :
    ∃ d, (Opening.run
        { markup := .text (codePoints (inTags name.toList t)), options := .int options }).1 = .ok d ∧
      d.kind = .html ∧
      d.value ("//" ++ name) =
        .ok [if Html.holdsPlainText name.toList then toAscii (codePoints t) else t] ∧
      (d.value ("//" ++ name) = .ok [t] ↔
        Html.holdsPlainText name.toList = true → ∀ c ∈ t, c.toNat < 128) := by
  have hordinary : ∀ c ∈ t, isOrdinary c = true := fun c hc => isOrdinary_of_isAlphanumeric (ht c hc)
  obtain ⟨d, hopen, hkind, htranslator, htrees, hcontext⟩ := open_inTags hname hne hordinary options
  have hvalue := value_textTree hname htranslator htrees hcontext
  refine ⟨d, hopen, hkind, hvalue, ?_⟩
  rw [hvalue, shownIn]
  cases Html.holdsPlainText name.toList with
  | true => simpa using toAscii_codePoints_eq_self_iff
  | false => simp

/-- A title in three scripts, one of them beyond the basic plane. -/
theorem value_transcoded_title :
    "title" ∈ textHolders ∧ "é٣𝒳".toList ≠ [] ∧ (∀ c ∈ "é٣𝒳".toList, isAlphanumeric c = true) ∧
      ∃ d, (Opening.run { markup := .text (codePoints "<title>é٣𝒳</title>".toList) }).1 = .ok d ∧
        d.value "//title" = .ok ["é٣𝒳".toList] := by
  have hname : "title" ∈ textHolders := by decide
  have hne : "é٣𝒳".toList ≠ [] := by decide
  have ht : ∀ c ∈ "é٣𝒳".toList, isAlphanumeric c = true := by decide +kernel
  obtain ⟨d, hopen, -, hvalue, -⟩ := Document.value_transcoded hname hne ht Options.default
  have hmarkup : inTags "title".toList "é٣𝒳".toList = "<title>é٣𝒳</title>".toList := by decide
  have hplain : Html.holdsPlainText "title".toList = false := by decide
  have hselector : "//" ++ "title" = "//title" := by decide
  rw [hmarkup] at hopen
  rw [hselector, if_neg (by rw [hplain]; exact Bool.false_ne_true)] at hvalue
  exact ⟨hname, hne, ht, d, hopen, hvalue⟩

/-- In a style sheet one letter is found as the reference that stands for it. -/
theorem value_style_unresolved :
    ¬ ∀ name ∈ textHolders, ∀ t : Chars, t ≠ [] → (∀ c ∈ t, isAlphanumeric c = true) →
      ∃ d, (Opening.run { markup := .text (codePoints (inTags name.toList t)) }).1 = .ok d ∧
        d.value ("//" ++ name) = .ok [t] := by
  intro h
  have hname : "style" ∈ textHolders := by decide
  obtain ⟨d, hopen, hvalue⟩ := h "style" hname ['é'] (by decide) (by decide)
  obtain ⟨e, hopen', -, htranslator, htrees, hcontext⟩ :=
    open_inTags hname (t := ['é']) (by decide) (by decide) Options.default
  obtain rfl := Except.ok.inj (hopen.symm.trans hopen')
  have hshown : shownIn "style".toList ['é'] = "&#233;".toList := by decide
  rw [value_textTree hname htranslator htrees hcontext, hshown] at hvalue
  exact absurd (Except.ok.inj hvalue) (by decide)

end MarkupQuery
