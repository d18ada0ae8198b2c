import MarkupQuery.Proofs.Document.Lawful
import MarkupQuery.Proofs.Document.Rooted
import MarkupQuery.Proofs.Xml.Inner

/-!
# Rewriting nothing

A pattern that matches nothing leaves the markup as it is, and the markup is parsed once more. For an XML
document without namespaces the new tree is told exactly (`Document.Reachable.replace_unmatched`): it is
the old one exactly if that is steady.
-/

namespace MarkupQuery

open MarkupQuery.Text MarkupQuery.Tree MarkupQuery.Xml

variable {d : Document} {n : Node}

/-! ## Markup of the root -/

/-- The root of a plain XML document is an element that can be written and read back. -/
theorem Document.Reachable.lawful_root (h : d.Reachable) (hplain : d.isPlainXml = true)
    (hroot : d.rootNode? = some n) : n.isElement = true ∧ LawfulNode 257 n := by
  obtain ⟨r, hr⟩ := Document.root_of_rootNode? hroot
  obtain ⟨hn, -⟩ := (h.sound.rootNode?_eq_some hr).mp hroot
  exact ⟨(h.rootSpot hroot).1, lawfulNodes_iff.mp (h.lawful hplain) n hn⟩

theorem isText_of_isElement (h : n.isElement = true) : n.isText = false := by
  cases n <;> first | rfl | cases h

/-- The markup of a plain XML document is the written form of its root. -/
theorem Document.Reachable.markup_eq_writeTree (h : d.Reachable) (hplain : d.isPlainXml = true)
    (hroot : d.rootNode? = some n) : d.markup = writeTree n.outline := by
  obtain ⟨helement, s, f, hs, htarget, habove⟩ := h.rootSpot hroot
  have htext := isText_of_isElement helement
  have htags : s.tagsAbove = [] := by rw [Query.Spot.tagsAbove, habove]; rfl
  have hkind : d.kind = .xml := by
    rw [Document.isPlainXml, Bool.and_eq_true, beq_iff_eq] at hplain
    exact hplain.1
  obtain ⟨r, hr⟩ := Document.root_of_rootNode? hroot
  have hscoped := h.isScoped hkind n ((h.sound.rootNode?_eq_some hr).mp hroot).1
  rw [← LawfulNode.writeNode_eq n (h.lawful_root hplain hroot).2 htext, ← writeAlone_of_isScoped hscoped,
    Document.markup, hs]
  simp only [Found.outer, htarget, htext, htags, Bool.false_eq_true, if_false, hkind,
    MarkupQuery.writeAlone]

/-- Without namespaces the prefixes of names play no part in it. -/
theorem Document.Reachable.markup_eq (h : d.Reachable) (hplain : d.isPlainXml = true)
    (hroot : d.rootNode? = some n) (hspaces : hasNoSpaces n = true) :
    d.markup = writeOutline n.outline := by
  obtain ⟨helement, hlawful⟩ := h.lawful_root hplain hroot
  rw [h.markup_eq_writeTree hplain hroot,
    (LawfulNode.isReadable n hlawful hspaces (isText_of_isElement helement)).tree.2.1]

/-! ## Texts without surrogates -/

theorem isSurrogate_toNat (c : Char) : isSurrogate c.toNat = false := by
  have hvalid : c.toNat < 0xd800 ∨ 0xdfff < c.toNat ∧ c.toNat < 0x110000 := c.valid
  rw [isSurrogate, Bool.and_eq_false_iff, decide_eq_false_iff_not, decide_eq_false_iff_not]
  omega

theorem seenInUtf8_codePoints (s : Chars) : seenInUtf8 (codePoints s) = s := by
  induction s with
  | nil => rfl
  | cons c s ih =>
    rw [codePoints, List.map_cons, seenInUtf8, List.flatMap_cons, isSurrogate_toNat,
      if_neg (by simp), Char.ofNat_toNat]
    exact congrArg (c :: ·) ih

theorem malformedFrom_codePoints (s : Chars) : malformedFrom (codePoints s) = 0 := by
  have hnone : (codePoints s).dropWhile (fun n => !isSurrogate n) = [] := by
    rw [List.dropWhile_eq_nil_iff]
    intro n hn
    obtain ⟨c, -, rfl⟩ := List.mem_map.mp hn
    rw [isSurrogate_toNat, Bool.not_false]
  rw [malformedFrom, hnone]
  rfl

/-! ## Substituting nothing -/

/-- Without a match nothing is replaced. -/
theorem substitute_unmatched {r : Pattern.Regex} {replacement : Replacement} {s : Chars}
    (hvalid : ∃ f, replacement.prepare r = .ok f) (hnone : r.matches s = []) :
    substitute r replacement s = .ok s := by
  obtain ⟨f, hf⟩ := hvalid
  have hsegments : r.segments s = ⟨[], s⟩ := by
    have hpieces := List.map_eq_nil_iff.mp hnone
    rw [Pattern.Regex.segments, Pattern.Regex.segmentsFrom] at hpieces ⊢
    cases hsearch : r.search (Pattern.Place.atStart s).rest (Pattern.Place.atStart s) false [] with
    | none => rfl
    | some found =>
      rw [hsearch] at hpieces
      cases hpieces
  rw [substitute, hf, hsegments]
  rfl

theorem Document.rewritten_unmatched {p : PatternSource} {r : Pattern.Regex}
    (hp : p.compile = .ok r) (hnone : r.matches d.markup = []) {replacement : Replacement}
    (hvalid : ∃ f, replacement.prepare r = .ok f) :
    d.rewritten p replacement = .ok (r, d.markup) := by
  simp only [Document.rewritten, hp, bind, Except.bind, substitute_unmatched hvalid hnone]
  rfl

/-! ## Parsing what was written -/

/-- If something was read whose outline is one element, its numbered root is that element. -/
theorem withRoot_numberAll (next : NodeId) {g : Forest} {i : NodeId} {t : Tag} {c : Mixed Outline}
    (hg : bareContent (outlineAll g) = .next [] (.element i t c) (.last [])) :
    ∃ r m, withRoot (numberAll next g).1 = some ((numberAll next g).1, r) ∧
      m ∈ (numberAll next g).1 ∧ m.id? = some r ∧ m.outline.bare = .element i t c := by
  rw [← bare_outlineAll_number next g] at hg
  generalize (numberAll next g).1 = f at hg ⊢
  cases hf : outlineAll f with
  | last s =>
    rw [hf] at hg
    cases hg
  | next s o rest =>
    rw [hf, bareContent, Mixed.next.injEq] at hg
    obtain ⟨-, ho, -⟩ := hg
    cases o with
    | leaf n => cases ho
    | element j u content =>
      obtain ⟨m, hroot, houtline⟩ := rootOf_of_outlineAll hf
      cases m with
      | element k v cs =>
        refine ⟨k, _, ?_, List.mem_of_find?_eq_some hroot, rfl, houtline ▸ ho⟩
        rw [withRoot, hroot]
        rfl
      | _ => cases houtline

/-- Markup that is read as one element is parsed into its numbered tree. -/
theorem parseXml_of_read (next : NodeId) {text : Chars} {g : Forest} {i : NodeId} {t : Tag}
    {c : Mixed Outline} (hread : (Xml.read { keepSections := false } text 0).forest = some g)
    (houtline : outlineAll g = .next [] (.element i t c) (.last [])) :
    ∃ r m, (parseXml Options.default next (codePoints text)).tree = some ((numberAll next g).1, r) ∧
      m ∈ (numberAll next g).1 ∧ m.id? = some r ∧ m.outline.bare = (Outline.element i t c).bare := by
  obtain ⟨r, m, htree, hm, hid, hbare⟩ := withRoot_numberAll next (congrArg bareContent houtline)
  refine ⟨r, m, ?_, hm, hid, hbare⟩
  rw [parseXml, seenInUtf8_codePoints, malformedFrom_codePoints, settings_default]
  dsimp only
  rw [hread]
  exact htree

/-- The written form of an element is parsed into what is read back of it. -/
theorem Document.parse_writeTree (hplain : d.isPlainXml = true) (hlawful : LawfulNode 257 n)
    (helement : n.isElement = true) (hdeclares : declaresReadably n = true) :
    ∃ g r m, (d.parse (codePoints (writeTree n.outline))).tree = some ((numberAll d.nextId g).1, r) ∧
      outlineAll g = .next [] (rereadIn [] true n.outline) (.last []) ∧
      m ∈ (numberAll d.nextId g).1 ∧ m.id? = some r ∧
      m.outline.bare = (rereadIn [] true n.outline).bare := by
  have hreadable := LawfulNode.isReadableTree n hlawful hdeclares (isText_of_isElement helement)
  cases n with
  | element i t cs =>
    obtain ⟨g, hg, houtline⟩ := read_writeTree hreadable
    obtain ⟨r, m, htree, hm, hid, hbare⟩ := parseXml_of_read d.nextId hg houtline
    refine ⟨g, r, m, ?_, houtline, hm, hid, hbare⟩
    rw [Document.isPlainXml, Bool.and_eq_true, beq_iff_eq, beq_iff_eq] at hplain
    rw [Document.parse, hplain.1, hplain.2]
    exact htree
  | _ => cases helement

/-- Markup of an element is not blank. -/
theorem isAllBlank_writeTree (hlawful : LawfulNode 257 n) (helement : n.isElement = true)
    (hdeclares : declaresReadably n = true) : isAllBlank (writeTree n.outline) = false := by
  cases n with
  | element i t cs =>
    rw [declaresReadably, Bool.and_eq_true] at hdeclares
    obtain ⟨c, u, hu, -⟩ := writeTree_element (hlawful.2.1.isReadableTag hdeclares.1) i (outlineAll cs)
    rw [Node.outline, hu]
    rfl
  | _ => cases helement

/-! ## Rewriting nothing -/

/-- A rewrite of a pattern without a match parses the markup once more. -/
theorem Document.Reachable.reparsed_unmatched (hd : d.Reachable) (hplain : d.isPlainXml = true)
    (hroot : d.rootNode? = some n) (hdeclares : declaresReadably n = true) {p : PatternSource}
    {r : Pattern.Regex} (hp : p.compile = .ok r) (hnone : r.matches d.markup = [])
    {replacement : Replacement} (hvalid : ∃ f, replacement.prepare r = .ok f) :
    ∃ g i m, d.reparsed p replacement = some (d.parse (codePoints d.markup), i) ∧
      (d.take (d.parse (codePoints d.markup))).trees = d.trees ++ [(numberAll d.nextId g).1] ∧
      outlineAll g = .next [] (rereadIn [] true n.outline) (.last []) ∧
      m ∈ (numberAll d.nextId g).1 ∧ m.id? = some i ∧
      m.outline.bare = (rereadIn [] true n.outline).bare := by
  obtain ⟨helement, hlawful⟩ := hd.lawful_root hplain hroot
  have hmarkup := hd.markup_eq_writeTree hplain hroot
  have hblank := isAllBlank_writeTree hlawful helement hdeclares
  obtain ⟨g, i, m, htree, houtline, hm, hid, hreread⟩ :=
    d.parse_writeTree hplain hlawful helement hdeclares
  refine ⟨g, i, m, ?_, ?_, houtline, hm, hid, hreread⟩
  · rw [Document.reparsed, Document.rewritten_unmatched hp hnone hvalid, hmarkup]
    simp only [hblank, Bool.false_eq_true, if_false, htree, Option.map_some]
  · rw [Document.take, hmarkup, htree]

theorem Document.perform_replace (d : Document) (p : PatternSource) (replacement : Replacement) :
    (d.perform (.replace p replacement)).document = (d.replace p replacement).document := rfl

/-- A pattern without a match rewrites an XML document without namespaces to what is read back of its
root. This is the old tree exactly if that is steady, and then the markup stays. -/
theorem Document.Reachable.replace_unmatched (hd : d.Reachable) (hplain : d.isPlainXml = true)
    (hroot : d.rootNode? = some n) (hspaces : hasNoSpaces n = true)
    (husable : ∀ s ∈ d.namespaces, isUsable s = true) {p : PatternSource} {r : Pattern.Regex}
    (hp : p.compile = .ok r) (hnone : r.matches d.markup = []) {replacement : Replacement}
    (hvalid : ∃ f, replacement.prepare r = .ok f) :
    ∃ n', (d.replace p replacement).result = .ok () ∧
      (d.replace p replacement).document.epoch = d.epoch + 1 ∧
      (d.replace p replacement).document.rootNode? = some n' ∧
      n'.outline.bare = reread true n.outline ∧
      (d.replace p replacement).document.markup = writeOutline (reread true n.outline) ∧
      (n'.outline.bare = n.outline.bare ↔ isSteady true n.outline = true) ∧
      (isSteady true n.outline = true →
        (d.replace p replacement).document.markup = d.markup) := by
  obtain ⟨helement, hlawful⟩ := hd.lawful_root hplain hroot
  have hreadable := LawfulNode.isReadable n hlawful hspaces (isText_of_isElement helement)
  obtain ⟨g, i, m, hreparsed, htrees, -, hm, hid, hreread⟩ := hd.reparsed_unmatched hplain hroot
    (declaresReadably_of_hasNoSpaces n hspaces) hp hnone hvalid
  rw [hreadable.tree.2.2.2, bare_reread] at hreread
  obtain ⟨spaces, hcontext⟩ := (contextSpaces_ok_iff d.namespaces).mpr husable
  have hreplaces := d.replaces p replacement
  have hreachable := hd.step (.replace p replacement)
  have hfixed := d.fixed_perform (.replace p replacement)
  rw [Document.perform_replace] at hreachable hfixed
  have hplain' : (d.replace p replacement).document.isPlainXml = true := by
    rwa [Document.isPlainXml, hfixed.1, hfixed.2]
  generalize d.replace p replacement = out at hreplaces hreachable hplain' ⊢
  cases hreplaces with
  | failed fault log h => rw [hreparsed] at h; cases h
  | refused parsed j fault log h hfailed => rw [hcontext] at hfailed; cases hfailed
  | done parsed j spaces' log h hspaces' =>
    obtain ⟨rfl, rfl⟩ := Prod.mk.inj (Option.some.inj (hreparsed.symm.trans h))
    have hroot' := (hreachable.sound.rootNode?_eq_some rfl).mpr
      ⟨List.mem_flatten.mpr ⟨_, by rw [htrees]; simp, hm⟩, hid⟩
    have hspaces' : hasNoSpaces m = true := by
      rw [← lacksSpaces_outline, ← lacksSpaces_bare, hreread, lacksSpaces_reread,
        lacksSpaces_outline, hspaces]
    have hmarkup' := hreachable.markup_eq hplain' hroot' hspaces'
    rw [← writeOutline_bare, hreread] at hmarkup'
    refine ⟨m, rfl, rfl, hroot', hreread, hmarkup', ?_, fun hsteady => ?_⟩
    · rw [hreread]
      exact reread_eq_bare_iff true n.outline
    · rw [hmarkup', (reread_eq_bare_iff true n.outline).mpr hsteady, writeOutline_bare,
        hd.markup_eq hplain hroot hspaces]

/-- A node is taken out of markup with a line feed in a value and escaped characters; then nothing is
rewritten, and the tree stays as it was. -/
theorem replace_unmatched_removed :
    ∃ (d : Document) (n : Node) (r : Pattern.Regex), d.Reachable ∧ d.isPlainXml = true ∧
      d.rootNode? = some n ∧ hasNoSpaces n = true ∧ (∀ s ∈ d.namespaces, isUsable s = true) ∧
      (PatternSource.text "z+".toList).compile = .ok r ∧ r.matches d.markup = [] ∧
      (∃ f, (Replacement.template ['y']).prepare r = .ok f) ∧
      d.markup = "<r a=\"x&#10;y\">st &amp; <c>&lt;</c></r>".toList ∧
      ∃ n', (d.replace (.text "z+".toList) (.template ['y'])).document.rootNode? = some n' ∧
        n'.outline.bare = n.outline.bare := by
  obtain ⟨d₀, hopen, htest⟩ : ∃ d₀, (Opening.run
      { markup := .text (codePoints "<r a='x&#10;y'>s<b>gone</b>t &amp; <c>&lt;</c></r>".toList)
        kind := .int 1, namespaces := .dict [(.text "p", .text "urn:x")] }).1 = .ok d₀ ∧ (
      let d := d₀.run [.handle ⟨.node 2, 0, []⟩ .remove]
      d.isPlainXml && (d.rootNode?.any fun n => hasNoSpaces n && isSteady true n.outline) &&
        d.namespaces.all isUsable &&
        ((PatternSource.text "z+".toList).compile.toOption.any fun r =>
          (r.matches d.markup).isEmpty && ((Replacement.template ['y']).prepare r).isOk) &&
        d.markup == "<r a=\"x&#10;y\">st &amp; <c>&lt;</c></r>".toList) = true :=
    Opening.exists_of_gives (by decide +kernel)
  have hd : (d₀.run [.handle ⟨.node 2, 0, []⟩ .remove]).Reachable :=
    (Document.Reachable.opened hopen).run _
  generalize d₀.run [.handle ⟨.node 2, 0, []⟩ .remove] = d at hd htest
  simp only [Bool.and_eq_true, List.all_eq_true, beq_iff_eq, Option.any_eq_true,
    List.isEmpty_iff] at htest
  obtain ⟨⟨⟨⟨hplain, n, hroot, hspaces, hsteady⟩, husable⟩, r, hp, hnone, hvalid⟩, hmarkup⟩ := htest
  have hp : (PatternSource.text "z+".toList).compile = .ok r := by
    cases hcompile : (PatternSource.text "z+".toList).compile with
    | error f => rw [hcompile] at hp; cases hp
    | ok r' => rw [hcompile] at hp; exact congrArg Except.ok (Option.some.inj hp)
  have hvalid : ∃ f, (Replacement.template ['y']).prepare r = .ok f := by
    cases hprepare : (Replacement.template ['y']).prepare r with
    | error f => rw [hprepare] at hvalid; cases hvalid
    | ok f => exact ⟨f, rfl⟩
  obtain ⟨n', -, -, hroot', -, -, hsame, -⟩ :=
    hd.replace_unmatched hplain hroot hspaces husable hp hnone hvalid
  exact ⟨d, n, r, hd, hplain, hroot, hspaces, husable, hp, hnone, hvalid, hmarkup, n', hroot',
    hsame.mpr hsteady⟩

/-- After an attribute that occurs twice, rewriting nothing loses the characters of markup. -/
theorem replace_unmatched_loses :
    Opening.gives { markup := .text (codePoints "<r a=\"1\" a=\"2\">&#38;</r>".toList)
                    kind := .int 1 } (fun d =>
      let p : PatternSource := .text "zzz".toList
      let out := d.replace p (.template [])
      d.isPlainXml && d.namespaces.isEmpty && d.rootNode?.any hasNoSpaces &&
        d.markup == "<r a=\"1\" a=\"2\">&amp;</r>".toList &&
        (p.compile.toOption.any fun r => (r.matches d.markup).isEmpty) &&
        out.result.isOk && out.document.markup == "<r a=\"1\" a=\"2\"/>".toList) = true := by
  decide +kernel

end MarkupQuery
