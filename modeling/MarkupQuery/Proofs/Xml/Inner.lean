import MarkupQuery.Markup
import MarkupQuery.Proofs.Xml.Scopes
import MarkupQuery.Proofs.Xml.Steady

/-!
# Inner markup

The inner markup of an element is written by itself, the text at its start with carriage returns as they
are (`innerOf`). Between the start and the end of any tag it is read back as the content of the element,
but for the line ends in the text at its start (`read_wrapped`).
-/

namespace MarkupQuery.Tree.Mixed

variable {α : Type}

/-- Content with another text at its start. -/
def withText (s : Text.Chars) : Mixed α → Mixed α
  | .last _ => .last s
  | .next _ a rest => .next s a rest

theorem withText_prepend (s t : Text.Chars) (m : Mixed α) : (m.prepend t).withText s = m.withText s := by
  cases m <;> rfl

end MarkupQuery.Tree.Mixed

namespace MarkupQuery.Xml

open MarkupQuery.Text MarkupQuery.Tree

variable {room : Nat} {m : Mixed Outline}

/-! ## Content without the text at its start -/

theorem outlineAll_afterText (ns : List Node) :
    outlineAll (afterText ns) = (outlineAll ns).withText [] := by
  induction ns with
  | nil => rfl
  | cons n ns ih =>
    cases hn : n.isText with
    | true => rw [afterText, List.dropWhile_cons_of_pos hn, ← afterText, ih, outlineAll_cons_text hn,
        Mixed.withText_prepend]
    | false =>
      rw [afterText, List.dropWhile_cons_of_neg (by simp [hn]), outlineAll_cons_node hn]
      rfl

theorem haveNoSpaces_iff {ns : List Node} : haveNoSpaces ns = true ↔ ∀ n ∈ ns, hasNoSpaces n = true := by
  induction ns with
  | nil => simp [haveNoSpaces]
  | cons n ns ih => rw [haveNoSpaces, Bool.and_eq_true, ih, List.forall_mem_cons]

/-! ## Inner markup -/

/-- The inner markup of an element with some content. -/
def innerOf (m : Mixed Outline) : Chars := Html.writeText m.text ++ writeContent (m.withText [])

/-- Without namespaces, here or above, a node declares none when it stands by itself. -/
theorem writeAlone_of_hasNoSpaces (ancestors : List Tag) {n : Node}
    (habove : ∀ t ∈ ancestors, t.declarations = []) (h : hasNoSpaces n = true) :
    writeAlone ancestors n = writeNode n := by
  cases n with
  | element i t cs =>
    rw [hasNoSpaces, Bool.and_eq_true, isBareTag, Bool.and_eq_true, Bool.and_eq_true,
      List.all_eq_true] at h
    have hbare {m : Name} (hm : isBareName m = true) : m.space = none := by
      rw [isBareName, Bool.and_eq_true] at hm
      exact Option.isNone_iff_eq_none.mp hm.2
    have hnames : ∀ m ∈ namesOf t, Name.IsCovered (prefixesIn t []) m := by
      refine List.forall_mem_cons.mpr ⟨.inl (hbare h.1.1.1), fun m hm => ?_⟩
      obtain ⟨a, ha, rfl⟩ := List.mem_map.mp hm
      exact .inl (hbare (h.1.2 a ha))
    rw [writeAlone, selfContained_eq habove hnames]
  | _ => rfl

/-- Nodes that are written by themselves as they are in their tree are written one after the other. -/
theorem writeEach_eq {ancestors : List Tag} {ns : List Node}
    (h : ∀ n ∈ ns, writeAlone ancestors n = writeNode n) : writeEach .xml ancestors ns = writeNodes ns := by
  induction ns with
  | nil => rfl
  | cons n ns ih =>
    rw [List.forall_mem_cons] at h
    rw [writeEach, List.flatMap_cons, ← writeEach, ih h.2, writeNodes]
    congr 1
    split
    · rfl
    · exact h.1

/-- The inner markup of an element is that of its outline. -/
theorem writeInner_eq {ancestors : List Tag} {t : Tag} {cs : List Node}
    (habove : ∀ u ∈ t :: ancestors, u.declarations = []) (hcs : LawfulNodes room cs)
    (hspaces : haveNoSpaces cs = true) :
    writeInner .xml ancestors t cs = innerOf (outlineAll cs) := by
  have hsub := afterText_subset cs
  have hrest : haveNoSpaces (afterText cs) = true :=
    haveNoSpaces_iff.mpr fun n hn => haveNoSpaces_iff.mp hspaces n (hsub hn)
  have heach := writeEach_eq fun n hn => writeAlone_of_hasNoSpaces (t :: ancestors) habove
    (haveNoSpaces_iff.mp hrest n hn)
  have hreadable := LawfulNodes.isReadable _ (hcs.subset hsub) hrest
  rw [writeInner, heach, LawfulNodes.writeNodes_eq _ (hcs.subset hsub), hreadable.trees.2.1,
    outlineAll_afterText, innerOf, text_outlineAll]
  rfl

/-! ## Namespaces of the elements above -/

section SelfContained

variable (ancestors : List Tag) (ns : List Node)

theorem isText_selfContained (n : Node) : (selfContained ancestors n).isText = n.isText := by
  cases n <;> rfl

theorem selfContained_of_isText {n : Node} (h : n.isText = true) : selfContained ancestors n = n := by
  cases n with
  | element => cases h
  | _ => rfl

theorem textContent_selfContained (n : Node) : (selfContained ancestors n).textContent = n.textContent := by
  cases n <;> rfl

theorem textContents_map_selfContained : textContents (ns.map (selfContained ancestors)) = textContents ns := by
  induction ns with
  | nil => rfl
  | cons n ns ih => rw [List.map_cons, textContents_cons, textContents_cons, textContent_selfContained, ih]

theorem leadingText_map_selfContained : leadingText (ns.map (selfContained ancestors)) = leadingText ns := by
  induction ns with
  | nil => rfl
  | cons n ns ih =>
    rw [List.map_cons, leadingText, leadingText, isText_selfContained, ih]
    cases hn : n.isText with
    | true => rw [selfContained_of_isText ancestors hn]
    | false => rfl

theorem afterText_map_selfContained :
    afterText (ns.map (selfContained ancestors)) = (afterText ns).map (selfContained ancestors) := by
  rw [afterText, List.dropWhile_map, afterText]
  congr 2
  funext n
  exact isText_selfContained ancestors n

/-- A lawful node stays so with other declarations. -/
theorem LawfulNode.selfContained {n : Node} (h : LawfulNode room n) :
    LawfulNode room (selfContained ancestors n) := by
  cases n with
  | element i t cs => exact ⟨h.1, ⟨h.2.1.name, h.2.1.whole, h.2.1.attributes⟩, h.2.2⟩
  | _ => exact h

theorem writeEach_eq_writeNodes : writeEach .xml ancestors ns = writeNodes (ns.map (selfContained ancestors)) := by
  induction ns with
  | nil => rfl
  | cons n ns ih =>
    rw [writeEach, List.flatMap_cons, ← writeEach, ih, List.map_cons, writeNodes]
    cases hn : n.isText with
    | true => rw [selfContained_of_isText ancestors hn]; rfl
    | false => rfl

end SelfContained

/-! ## Inner markup without ids -/

theorem text_bareContent (m : Mixed Outline) : (bareContent m).text = m.text := by
  cases m <;> rfl

theorem bareContent_withText (s : Chars) (m : Mixed Outline) :
    bareContent (m.withText s) = (bareContent m).withText s := by
  cases m <;> rfl

/-- Ids are not written. -/
theorem innerOf_bare (m : Mixed Outline) : innerOf (bareContent m) = innerOf m := by
  rw [innerOf, text_bareContent, ← bareContent_withText, writeContent_bare, innerOf]

/-! ## Reading it back -/

/-- Content with uniform line ends in the text at its start. -/
def unified (m : Mixed Outline) : Mixed Outline := m.withText (unifyLineEnds m.text)

/-- The inner markup of an element with some content, names with their prefixes. -/
def innerTrees (m : Mixed Outline) : Chars := Html.writeText m.text ++ writeTrees (m.withText [])

/-- The inner markup of an element is that of the outline of its children, each of which stands by itself. -/
theorem writeInner_eq_innerTrees (ancestors : List Tag) (t : Tag) {cs : List Node} (hcs : LawfulNodes room cs) :
    writeInner .xml ancestors t cs = innerTrees (outlineAll (cs.map (selfContained (t :: ancestors)))) := by
  have hrest : LawfulNodes room ((afterText cs).map (selfContained (t :: ancestors))) := by
    refine lawfulNodes_iff.mpr fun m hm => ?_
    obtain ⟨n, hn, rfl⟩ := List.mem_map.mp hm
    exact (lawfulNodes_iff.mp hcs n (afterText_subset cs hn)).selfContained _
  rw [writeInner, writeEach_eq_writeNodes, hrest.writeNodes_eq, innerTrees, text_outlineAll,
    leadingText_map_selfContained, ← outlineAll_afterText, afterText_map_selfContained]
  rfl

theorem isReadableTrees_withText {s : Chars} (hs : ∀ c ∈ s, isXmlChar c = true)
    (hm : IsReadableTrees room m) : IsReadableTrees room (m.withText s) := by
  cases m with
  | last t => exact hs
  | next t o rest => exact ⟨hs, hm.2⟩

theorem isReadableContent_withText {s : Chars} (hs : ∀ c ∈ s, isXmlChar c = true)
    (hm : IsReadableContent room m) : IsReadableContent room (m.withText s) := by
  cases m with
  | last t => exact hs
  | next t o rest => exact ⟨hs, hm.2⟩

theorem isReadableTrees_text (hm : IsReadableTrees room m) : ∀ c ∈ m.text, isXmlChar c = true := by
  cases m with
  | last t => exact hm
  | next t o rest => exact hm.1

theorem isReadableContent_text (hm : IsReadableContent room m) : ∀ c ∈ m.text, isXmlChar c = true :=
  isReadableTrees_text hm.trees.1

theorem isSoundContentIn_withText (scope : List Declaration) (s : Chars) (m : Mixed Outline) :
    isSoundContentIn scope (m.withText s) = isSoundContentIn scope m := by
  cases m <;> rfl

theorem isSteadyContent_withText (s : Chars) (m : Mixed Outline) :
    isSteadyContent true (m.withText s) = isSteadyContent true m := by
  cases m <;> rfl

/-- What follows the text at the start of content is markup. -/
theorem atMarkup_writeTrees {rest : Chars} (hm : IsReadableTrees room m) (hrest : AtMarkup rest) :
    AtMarkup (writeTrees (m.withText []) ++ rest) := by
  cases m with
  | last t => exact hrest
  | next t o more =>
    rw [Mixed.withText, writeTrees, writeText_nil, List.nil_append, List.append_assoc]
    exact atMarkup_writeTree hm.2.1 _

/-- Inner markup is read as the content of an element. -/
theorem Reader.readsBody_innerTrees {depth : Nat} (hdepth : 0 < depth) (hroom : depth + room ≤ 257)
    (hm : IsReadableTrees room m) (scope : List Declaration) (wellFormed : Bool) :
    Reader.ReadsBody depth scope wellFormed (innerTrees m) (isSoundContentIn scope m)
      (rereadContentIn scope wellFormed (unified m)) := by
  rintro r hr hlen rfl rfl rest hrest h
  have hframes : r.frames ≠ [] := by
    rw [← List.length_pos_iff, hlen]
    exact hdepth
  rw [innerTrees, List.append_assoc] at h
  obtain ⟨r₁, hreads₁⟩ := Reader.reads_htmlWriteText hr hframes (isReadableTrees_text hm)
    (atMarkup_writeTrees hm hrest) h
  have hframes₁ : r₁.frames.length = depth := by rw [hreads₁.2.length_frames, hlen]
  obtain ⟨r₂, hreads₂⟩ := Reader.reads_trees (m.withText [])
    (isReadableTrees_withText nofun hm) (hreads₁.2.plain hr)
    (by rw [← List.length_pos_iff, hframes₁]; exact hdepth) (by rw [hframes₁]; exact hroom) hrest
    hreads₁.2.input
  have hall := hreads₁.trans hreads₂
  rw [hreads₁.2.wellFormed, hreads₁.2.scope, Bool.and_true, Bool.true_and, isSoundContentIn_withText,
    Mixed.concat] at hall
  refine ⟨r₂, ?_⟩
  convert hall using 1
  cases m <;> simp [unified, Mixed.withText, rereadContentIn, Mixed.prepend]

/-- What is read as the content of an element is read as a document between the start and the end of its
tag. -/
theorem read_tagged {t : Tag} {body : Chars} {ok : Bool} (ht : IsReadableTag t)
    (hbody : Reader.ReadsBody 1 (innerScope [] t) (isSoundTagIn [] t) body ok m) :
    ∃ f, (read { keepSections := false } (writeTag t ++ '>' ::
        (body ++ ("</".toList ++ t.name.written ++ ['>']))) 0).forest = some f ∧
      outlineAll f = .next [] (.element unnumbered (rereadTagIn [] t) m) (.last []) := by
  obtain ⟨c, u, hname, hc, -⟩ := ht.name.isAnyName
  obtain ⟨text, htext⟩ : ∃ text, text = writeTag t ++ '>' ::
      (body ++ ("</".toList ++ t.name.written ++ ['>'])) := ⟨_, rfl⟩
  obtain ⟨w, hw⟩ := writeTag_append t ('>' :: (body ++ ("</".toList ++ t.name.written ++ ['>'])))
  obtain ⟨r', hleads, hshorter, hmakes⟩ := Reader.reads_tagged (Reader.plain_ofText text) ht
    (Nat.zero_le _) hbody htext
  rw [← htext]
  exact read_of_makes (by rw [htext, hw, hname]; rfl) hc hleads hshorter hmakes

/-- Inner markup between the start and the end of a tag is read back as an element. -/
theorem read_innerTrees {t : Tag} (ht : IsReadableTag t) (hsound : isSoundTagIn [] t = true)
    (hm : IsReadableTrees 256 m) :
    ∃ f, (read { keepSections := false } (writeTag t ++ '>' ::
        (innerTrees m ++ ("</".toList ++ t.name.written ++ ['>']))) 0).forest = some f ∧
      outlineAll f = .next [] (.element unnumbered (rereadTagIn [] t)
        (rereadContentIn (innerScope [] t) true (unified m))) (.last []) := by
  have hbody := Reader.readsBody_innerTrees Nat.one_pos (Nat.le_refl 257) hm (innerScope [] t)
    (isSoundTagIn [] t)
  rw [← hsound]
  exact read_tagged ht hbody

/-- Some content between the start and the end of a tag. -/
def wrapped (t : Tag) (m : Mixed Outline) : Chars :=
  writeTag t ++ '>' :: (innerOf m ++ ("</".toList ++ t.name.base ++ ['>']))

/-- Without namespaces inner markup between the start and the end of a tag is read back as an element. -/
theorem read_wrapped {t : Tag} (ht : IsLocalTag t) (hsound : isSoundTag t = true)
    (hm : IsReadableContent 256 m) :
    ∃ f, (read { keepSections := false } (wrapped t m) 0).forest = some f ∧
      outlineAll f =
        .next [] (.element unnumbered (rereadTag t) (rereadContent true (unified m))) (.last []) := by
  have hrest := isReadableContent_withText (m := m) (s := []) nofun hm
  have hunified := isReadableContent_withText (s := unifyLineEnds m.text) (fun c hc => by
    rcases mem_unifyLineEnds hc with hc | rfl
    · exact isReadableContent_text hm c hc
    · rfl) hm
  have hread := read_innerTrees ht.isReadableTag (ht.isSoundTagIn_nil.trans hsound) hm.trees.1
  rw [ht.rereadTagIn_nil, ht.innerScope_nil, unified, hunified.trees.2.2.2] at hread
  rw [wrapped, innerOf, ← hrest.trees.2.1, ← ht.name.written]
  exact hread

end MarkupQuery.Xml
