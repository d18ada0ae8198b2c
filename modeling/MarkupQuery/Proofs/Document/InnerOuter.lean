import MarkupQuery.Proofs.Document.Lawful
import MarkupQuery.Proofs.Document.Losing
import MarkupQuery.Proofs.Xml.Scopes

/-!
# Inner and outer markup

The outer markup of an element that declares nothing is its start tag, its children as they are written in
the tree, and its end tag. The inner markup is put together otherwise: the character data at its start is
taken as one text and escaped anew, what follows it is written. So the two agree exactly if the character
data at the start is written as it is escaped, that is, if there are no character data sections and no
carriage returns in it (`Document.Reachable.outer_eq_inner_iff`).
-/

namespace MarkupQuery

open MarkupQuery.Text MarkupQuery.Tree MarkupQuery.Xml MarkupQuery.Query

variable {d : Document} {cs run : List Node} {s : Chars} {c : Char} {escaped : Char → Bool}

/-! ## Two ways to write a text -/

/-- What stands in a text that was spelled stands in a reference, or was not escaped. -/
theorem mem_spell (h : c ∈ spell escaped s) :
    (∃ x ∈ s, escaped x = true ∧ c ∈ escapeInText x) ∨ c ∈ s ∧ escaped c = false := by
  obtain ⟨x, hx, hc⟩ := List.mem_flatMap.mp h
  split at hc
  · next hescaped => exact .inl ⟨x, hx, hescaped, hc⟩
  · next hescaped =>
    obtain rfl := List.mem_singleton.mp hc
    exact .inr ⟨hx, by simpa using hescaped⟩

theorem isEscaped_cases (h : isEscaped c = true) : c = '&' ∨ c = '<' ∨ c = '>' ∨ c = '\r' := by
  simpa [isEscaped, isNamed, or_assoc] using h

/-- A text is written in the same way as markup of either kind unless it holds a carriage return. -/
theorem writeText_eq_htmlWriteText_iff : writeText s = Html.writeText s ↔ '\r' ∉ s := by
  rw [writeText_eq_spell, htmlWriteText_eq_spell]
  constructor
  · intro h hs
    have hkept : '\r' ∈ spell isNamed s := List.mem_flatMap.mpr ⟨'\r', hs, by decide⟩
    rw [← h] at hkept
    obtain ⟨x, -, hx, hmem⟩ | ⟨-, hr⟩ := mem_spell hkept
    · obtain rfl | rfl | rfl | rfl := isEscaped_cases hx <;> exact absurd hmem (by decide)
    · exact absurd hr (by decide)
  · intro h
    refine List.flatMap_congr fun c hc => ?_
    have hr : (c == '\r') = false := beq_eq_false_iff_ne.mpr fun heq => h (heq ▸ hc)
    rw [isEscaped, hr, Bool.or_false]

theorem not_mem_htmlWriteText (s : Chars) : '<' ∉ Html.writeText s := by
  rw [htmlWriteText_eq_spell]
  intro h
  obtain ⟨x, -, hx, hmem⟩ | ⟨-, hlt⟩ := mem_spell h
  · have hescaped : isEscaped x = true := by rw [isEscaped, hx, Bool.true_or]
    obtain rfl | rfl | rfl | rfl := isEscaped_cases hescaped <;> exact absurd hmem (by decide)
  · exact absurd hlt (by decide)

/-! ## Character data at the start -/

theorem leadingText_eq (ns : List Node) :
    (leadingText ns).getD [] = (textRun ns).flatMap Node.ownText := by
  induction ns with
  | nil => rfl
  | cons n ns ih =>
    rw [leadingText, textRun, List.takeWhile_cons, ← textRun]
    split
    · rw [Option.getD_some, ih, List.flatMap_cons]
    · rfl

theorem writeNodes_append (ns ms : List Node) : writeNodes (ns ++ ms) = writeNodes ns ++ writeNodes ms := by
  induction ns with
  | nil => rfl
  | cons n ns ih => rw [List.cons_append, writeNodes, writeNodes, ih, List.append_assoc]

/-- The written form of a list of nodes begins with that of the character data at its start. -/
theorem writeNodes_eq_run (ns : List Node) :
    writeNodes ns = writeNodes (textRun ns) ++ writeNodes (afterText ns) := by
  rw [← writeNodes_append, textRun, afterText, List.takeWhile_append_dropWhile]

theorem writeNodes_of_texts (h : ∀ n ∈ run, ∃ u, n = .text u) :
    writeNodes run = writeText (run.flatMap Node.ownText) := by
  induction run with
  | nil => rfl
  | cons n run ih =>
    rw [List.forall_mem_cons] at h
    obtain ⟨⟨u, rfl⟩, hrun⟩ := h
    rw [writeNodes, writeNode_text, ih hrun, List.flatMap_cons, writeText, writeText, writeText,
      List.flatMap_append]
    rfl

/-- Character data is written as it is escaped exactly if it is text without carriage returns. -/
theorem writeNodes_eq_htmlWriteText_iff (hrun : ∀ n ∈ run, n.isText = true) :
    writeNodes run = Html.writeText (run.flatMap Node.ownText) ↔
      (∀ n ∈ run, ∃ u, n = .text u) ∧ '\r' ∉ run.flatMap Node.ownText := by
  constructor
  · intro h
    have htexts : ∀ n ∈ run, ∃ u, n = .text u := by
      intro n hn
      cases n with
      | text u => exact ⟨u, rfl⟩
      | section_ u =>
        -- the start of a section would be escaped
        obtain ⟨before, after, rfl⟩ := List.append_of_mem hn
        have hmem : '<' ∈ writeNodes (before ++ .section_ u :: after) := by
          rw [writeNodes_append, writeNodes, writeNode.eq_def]
          simp
        rw [h] at hmem
        exact absurd hmem (not_mem_htmlWriteText _)
      | _ => cases hrun _ hn
    rw [writeNodes_of_texts htexts, writeText_eq_htmlWriteText_iff] at h
    exact ⟨htexts, h⟩
  · rintro ⟨htexts, hr⟩
    rw [writeNodes_of_texts htexts, writeText_eq_htmlWriteText_iff]
    exact hr

/-! ## Elements that declare nothing -/

section Elements

variable {s : Spot} {i : NodeId} {t : Tag} (htarget : s.target = .node (.element i t cs))
  (hhere : s.target.All DeclaresNothing) (habove : ∀ u ∈ s.above, u.All DeclaresNothing)

include habove in
theorem declarations_above : ∀ u ∈ s.tagsAbove, u.declarations = [] := by
  intro u hu
  obtain ⟨v, hv, htag⟩ := List.mem_filterMap.mp hu
  match v with
  | .node (.element j w cs) =>
    obtain rfl := Option.some.inj htag
    have hw : DeclaresNothing (.element j w cs) := habove _ hv
    exact hw.declarations

include htarget hhere habove

/-- The outer markup of an element that declares nothing is written around its children. -/
theorem Query.Spot.outer_eq (hcs : cs ≠ []) : (Found.spot s).outer .xml =
    writeTag t ++ '>' :: (writeNodes cs ++ ("</".toList ++ t.name.written ++ ['>'])) := by
  rw [htarget] at hhere
  rw [Found.outer, htarget]
  dsimp only
  rw [if_neg (by simp [Node.isText]), MarkupQuery.writeAlone,
    DeclaresNothing.writeAlone_eq (declarations_above habove) hhere, writeNode_element_cons i t hcs]

/-- The inner markup of an element that declares nothing is the character data at its start, escaped, and
what follows it, written. -/
theorem Query.Spot.inner_eq_run : (Found.spot s).inner .xml =
    Html.writeText ((textRun cs).flatMap Node.ownText) ++ writeNodes (afterText cs) := by
  rw [htarget] at hhere
  have hdeclares : DeclaresNothing (.element i t cs) := hhere
  have hrest := writeEach_eq fun n hn =>
    (hdeclares.children _ n (afterText_subset cs hn)).writeAlone_eq
      (List.forall_mem_cons.mpr ⟨hdeclares.declarations, declarations_above habove⟩)
  rw [Found.inner, htarget]
  dsimp only
  rw [writeInner, leadingText_eq, hrest]
  rfl

/-- Around its inner markup the outer markup of an element has its start and its end tag exactly if the
character data at its start is text without carriage returns. -/
theorem Query.Spot.outer_eq_around_iff (hcs : cs ≠ []) :
    (Found.spot s).outer .xml = writeTag t ++
        '>' :: ((Found.spot s).inner .xml ++ ("</".toList ++ t.name.written ++ ['>'])) ↔
      (∀ n ∈ textRun cs, ∃ u, n = .text u) ∧ '\r' ∉ (leadingText cs).getD [] := by
  have hrun : ∀ n ∈ textRun cs, n.isText = true := fun n hn => List.mem_takeWhile_imp hn
  rw [Query.Spot.outer_eq htarget hhere habove hcs, Query.Spot.inner_eq_run htarget hhere habove,
    List.append_cancel_left_eq, List.cons.injEq, and_iff_right rfl, List.append_cancel_right_eq,
    writeNodes_eq_run cs, List.append_cancel_right_eq, writeNodes_eq_htmlWriteText_iff hrun,
    leadingText_eq]

end Elements

/-! ## Documents -/

/-- Whether the trees that queries start from declare no namespaces. -/
def Document.lacksDeclarations (d : Document) : Bool :=
  d.trees.all fun f => (d.starts.all fun r => !(idsAll f).contains r) || lackDeclarations f

/-- What is found in an XML document that declares no namespaces, made trees apart, is among nodes that
declare nothing. -/
theorem Document.Reachable.declaresNothing_of_find (hd : d.Reachable) (hkind : d.kind = .xml)
    (hlacks : d.lacksDeclarations = true) {selector : String} {found : List Found}
    (hfind : d.find selector = .ok found) {s : Spot} (hs : .spot s ∈ found) (hmade : s.isMade = false) :
    s.target.All DeclaresNothing ∧ ∀ u ∈ s.above, u.All DeclaresNothing := by
  rcases d.in_or_made_of_find hfind hs with h | ⟨f, hf, ⟨r, hr, hrf⟩, hin⟩
  · rw [h.isMade] at hmade
    cases hmade
  · refine hin.all (fun n hn => hn.children) fun n hn => ⟨?_, ?_⟩
    · exact hd.isScoped hkind n (List.mem_flatten.mpr ⟨f, hf, hn⟩)
    · have htree := List.all_eq_true.mp hlacks f hf
      rw [Bool.or_eq_true, List.all_eq_true] at htree
      refine lackDeclarations_iff.mp (htree.resolve_left fun h => ?_) n hn
      simpa [hrf] using h r hr

/-- In an XML document that declares no namespaces, whatever its options, the outer markup of every element
with children that is found in it has its children as they are written in the tree between its start and
its end tag. This is its inner markup exactly if the character data at its start is text without carriage
returns. -/
theorem Document.Reachable.outer_eq_inner_iff (hd : d.Reachable) (hkind : d.kind = .xml)
    (hlacks : d.lacksDeclarations = true) {selector : String} {found : List Found}
    (hfind : d.find selector = .ok found) {s : Spot} (hs : .spot s ∈ found) (hmade : s.isMade = false)
    {i : NodeId} {t : Tag} (htarget : s.target = .node (.element i t cs)) (hcs : cs ≠ []) :
    (Found.spot s).outer .xml =
        writeTag t ++ '>' :: (writeNodes cs ++ ("</".toList ++ t.name.written ++ ['>'])) ∧
      ((Found.spot s).outer .xml = writeTag t ++
          '>' :: ((Found.spot s).inner .xml ++ ("</".toList ++ t.name.written ++ ['>'])) ↔
        (∀ n ∈ textRun cs, ∃ u, n = .text u) ∧ '\r' ∉ (leadingText cs).getD []) := by
  obtain ⟨hhere, habove⟩ := hd.declaresNothing_of_find hkind hlacks hfind hs hmade
  exact ⟨Query.Spot.outer_eq htarget hhere habove hcs,
    Query.Spot.outer_eq_around_iff htarget hhere habove hcs⟩

/-- The tag and the children of an element. -/
def elementOf? : Target → Option (Tag × List Node)
  | .node (.element _ t cs) => some (t, cs)
  | _ => none

theorem exists_of_elementOf? {x : Target} {e : Tag × List Node} (h : elementOf? x = some e) :
    ∃ i, x = .node (.element i e.1 e.2) := by
  unfold elementOf? at h
  split at h
  · cases h
    exact ⟨_, rfl⟩
  · cases h

/-- Whether a node is text, and no section. -/
def isPlainText : Node → Bool
  | .text _ => true
  | _ => false

theorem exists_of_isPlainText {n : Node} (h : isPlainText n = true) : ∃ u, n = .text u := by
  cases n with
  | text u => exact ⟨u, rfl⟩
  | _ => cases h

/-- The root of a document with a section that is not at its start. -/
theorem outer_eq_inner_iff_section :
    ∃ (d : Document) (s : Spot) (i : NodeId) (t : Tag) (cs : List Node), d.Reachable ∧ d.kind = .xml ∧
      d.lacksDeclarations = true ∧ d.find "/" = .ok [.spot s] ∧ s.isMade = false ∧
      s.target = .node (.element i t cs) ∧ cs ≠ [] ∧
      (Found.spot s).inner .xml = "a&amp;<b/><![CDATA[&]]>".toList ∧
      (Found.spot s).outer .xml = writeTag t ++
        '>' :: ((Found.spot s).inner .xml ++ ("</".toList ++ t.name.written ++ ['>'])) := by
  obtain ⟨d, hopen, htest⟩ : ∃ d, (Opening.run
      { markup := .text (codePoints "<r>a&amp;<b/><![CDATA[&]]></r>".toList)
        kind := .int 1, options := .int 0 }).1 = .ok d ∧
      (d.kind == .xml && d.lacksDeclarations && d.context.isSome && d.translator == .path &&
        d.rootSpot?.any fun s => !s.isMade &&
          ((Found.spot s).inner .xml == "a&amp;<b/><![CDATA[&]]>".toList &&
            (elementOf? s.target).any fun e => !e.2.isEmpty &&
              !((leadingText e.2).getD []).contains '\r' && (textRun e.2).all isPlainText)) = true :=
    Opening.exists_of_gives (by decide +kernel)
  have hd : d.Reachable := .opened hopen
  simp only [Bool.and_eq_true, beq_iff_eq, Option.any_eq_true, Bool.not_eq_true'] at htest
  obtain ⟨⟨⟨⟨hkind, hlacks⟩, hcontext⟩, htranslator⟩, s, hs, hmade, hinner, htarget⟩ := htest
  have hfind := Document.find_slash htranslator hcontext hs
  obtain ⟨e, he, ⟨hcs, hr⟩, htexts⟩ := htarget
  obtain ⟨i, htarget⟩ := exists_of_elementOf? he
  have hplain : ∀ n ∈ textRun e.2, ∃ u, n = .text u := fun n hn =>
    exists_of_isPlainText (List.all_eq_true.mp htexts n hn)
  have houter := (hd.outer_eq_inner_iff hkind hlacks hfind (List.mem_singleton_self _) hmade htarget
    (by simpa using hcs)).2.mpr ⟨hplain, by simpa using hr⟩
  exact ⟨d, s, i, e.1, e.2, hd, hkind, hlacks, hfind, hmade, htarget, by simpa using hcs, hinner, houter⟩

/-- A carriage return at the start of an element is a reference in its outer markup, but not in its inner
one. -/
theorem outer_ne_inner_carriage_return :
    ∃ (d : Document) (s : Spot) (i : NodeId) (t : Tag) (cs : List Node), d.Reachable ∧ d.kind = .xml ∧
      d.lacksDeclarations = true ∧ d.find "/" = .ok [.spot s] ∧ s.isMade = false ∧
      s.target = .node (.element i t cs) ∧ cs ≠ [] ∧ (Found.spot s).inner .xml = ['\r'] ∧
      (Found.spot s).outer .xml = "<r>&#13;</r>".toList ∧
      (Found.spot s).outer .xml ≠ writeTag t ++
        '>' :: ((Found.spot s).inner .xml ++ ("</".toList ++ t.name.written ++ ['>'])) := by
  obtain ⟨d, hopen, htest⟩ : ∃ d, (Opening.run
      { markup := .text (codePoints "<r>&#13;</r>".toList), kind := .int 1 }).1 = .ok d ∧
      (d.kind == .xml && d.lacksDeclarations && d.context.isSome && d.translator == .path &&
        d.rootSpot?.any fun s => !s.isMade && ((Found.spot s).inner .xml == ['\r'] &&
          ((Found.spot s).outer .xml == "<r>&#13;</r>".toList &&
            (elementOf? s.target).any fun e => !e.2.isEmpty && (Found.spot s).outer .xml != writeTag e.1 ++
              '>' :: ((Found.spot s).inner .xml ++ ("</".toList ++ e.1.name.written ++ ['>']))))) = true :=
    Opening.exists_of_gives (by decide +kernel)
  have hd : d.Reachable := .opened hopen
  simp only [Bool.and_eq_true, beq_iff_eq, Option.any_eq_true, Bool.not_eq_true'] at htest
  obtain ⟨⟨⟨⟨hkind, hlacks⟩, hcontext⟩, htranslator⟩, s, hs, hmade, hinner, houter, htarget⟩ := htest
  have hfind := Document.find_slash htranslator hcontext hs
  obtain ⟨e, he, hcs, hne⟩ := htarget
  obtain ⟨i, htarget⟩ := exists_of_elementOf? he
  exact ⟨d, s, i, e.1, e.2, hd, hkind, hlacks, hfind, hmade, htarget, by simpa using hcs, hinner, houter,
    bne_iff_ne.mp hne⟩

end MarkupQuery
