import MarkupQuery.Proofs.Query.Named
import MarkupQuery.Proofs.Xml.Inner

/-!
# Inner markup of the first element of a name

Looking for the first element of a name below a spot comes to a search in the outline of what stands
there (`seek`), and so does its inner markup (`Spot.In.find_isNamed`). All spots of a tree that can be
written and read back, and that has no namespaces, are such places (`Spot.In.lawful`).
-/

namespace MarkupQuery

open MarkupQuery.Text MarkupQuery.Tree MarkupQuery.Xml MarkupQuery.Query

variable {f : Forest} {s : Spot} {n : Chars}

/-! ## Searching outlines -/

mutual

/-- The content of the first element of a name in an outline. -/
def seek (n : Chars) : Outline → Option (Mixed Outline)
  | .leaf _ => none
  | .element _ t c => if t.name.base == n then some c else seekIn n c

/-- The content of the first element of a name in mixed content. -/
def seekIn (n : Chars) : Mixed Outline → Option (Mixed Outline)
  | .last _ => none
  | .next _ o rest => (seek n o).or (seekIn n rest)

end

theorem seekIn_withText (s : Chars) (m : Mixed Outline) : seekIn n (m.withText s) = seekIn n m := by
  cases m <;> rfl

theorem seekIn_prepend (s : Chars) (m : Mixed Outline) : seekIn n (m.prepend s) = seekIn n m := by
  cases m <;> rfl

mutual

theorem seek_bare (o : Outline) : seek n o.bare = (seek n o).map bareContent := by
  cases o with
  | leaf m => rfl
  | element i t c =>
    rw [Outline.bare, seek, seek, seekIn_bare c]
    split <;> rfl

/-- The search does not depend on ids. -/
theorem seekIn_bare (m : Mixed Outline) : seekIn n (bareContent m) = (seekIn n m).map bareContent := by
  cases m with
  | last t => rfl
  | next t o rest =>
    rw [bareContent, seekIn, seekIn, seek_bare o, seekIn_bare rest]
    cases seek n o <;> rfl

end

/-! ## Written forms of what is found -/

theorem writeContent_eq_append (m : Mixed Outline) :
    writeContent m = writeText m.text ++ writeContent (m.withText []) := by
  cases m <;> simp [Mixed.text, Mixed.withText, writeContent]

mutual

/-- The first element of a name is written as a part of the outline. -/
theorem writeOutline_of_seek {c : Mixed Outline} (o : Outline) (h : seek n o = some c) :
    ∃ i t u v, writeOutline o = u ++ (writeOutline (.element i t c) ++ v) := by
  cases o with
  | leaf m => cases h
  | element i t content =>
    rw [seek] at h
    split at h
    · obtain rfl := Option.some.inj h
      exact ⟨i, t, [], [], by simp⟩
    · obtain ⟨j, t', u, v, huv⟩ := writeContent_of_seekIn content h
      have hvoid : isVoid content = false := by
        cases content with
        | last s => cases h
        | next s o rest => rfl
      rw [writeOutline, hvoid, writeContent_eq_append, huv]
      exact ⟨j, t', writeTag t ++ '>' :: (writeText content.text ++ u),
        v ++ ("</".toList ++ t.name.base ++ ['>']), by simp⟩

/-- The first element of a name is written as a part of the content, after the text at its start. -/
theorem writeContent_of_seekIn {c : Mixed Outline} (m : Mixed Outline) (h : seekIn n m = some c) :
    ∃ i t u v, writeContent (m.withText []) = u ++ (writeOutline (.element i t c) ++ v) := by
  cases m with
  | last s => cases h
  | next s o rest =>
    rw [seekIn, Option.or_eq_some_iff] at h
    rw [Mixed.withText, writeContent, writeText_nil, List.nil_append, writeContent_eq_append rest]
    rcases h with h | ⟨-, h⟩
    · obtain ⟨i, t, u, v, huv⟩ := writeOutline_of_seek o h
      exact ⟨i, t, u, v ++ (writeText rest.text ++ writeContent (rest.withText [])), by simp [huv]⟩
    · obtain ⟨i, t, u, v, huv⟩ := writeContent_of_seekIn rest h
      exact ⟨i, t, writeOutline o ++ (writeText rest.text ++ u), v, by simp [huv]⟩

end

/-- Inner markup is no longer than the written form of the content. -/
theorem length_innerOf_le (m : Mixed Outline) : (innerOf m).length ≤ (writeContent m).length := by
  have hchar (c : Char) : (Html.escapeInText c).length ≤ (escapeInText c).length := by
    rw [Html.escapeInText, escapeInText]
    by_cases hreturn : c = '\r'
    · subst hreturn
      decide
    · simp [hreturn]
  have htext (s : Chars) : (Html.writeText s).length ≤ (writeText s).length := by
    induction s with
    | nil => exact le_rfl
    | cons c s ih =>
      rw [Html.writeText, List.flatMap_cons, ← Html.writeText, writeText_cons, List.length_append,
        List.length_append]
      exact Nat.add_le_add (hchar c) ih
  rw [writeContent_eq_append, innerOf, List.length_append, List.length_append]
  exact Nat.add_le_add_right (htext _) _

/-- What an element holds is written shorter than the element. -/
theorem length_innerOf_lt (i : NodeId) (t : Tag) (c : Mixed Outline) :
    (innerOf c).length < (writeOutline (.element i t c)).length := by
  have hle := length_innerOf_le c
  rw [writeOutline]
  split
  · next hvoid =>
    cases c with
    | last s =>
      obtain rfl := List.isEmpty_iff.mp hvoid
      simp [innerOf, Mixed.text, Mixed.withText, writeContent, Html.writeText, writeTag]
    | next s o rest => cases hvoid
  · simp only [List.length_append, List.length_cons]
    omega

/-- What is found in some content is written shorter than the content. -/
theorem length_innerOf_of_seekIn {c : Mixed Outline} {m : Mixed Outline} (h : seekIn n m = some c) :
    (innerOf c).length < (innerOf m).length := by
  obtain ⟨i, t, u, v, huv⟩ := writeContent_of_seekIn m h
  have hlt := length_innerOf_lt i t c
  have hlength : (innerOf m).length = _ := congrArg List.length (congrArg (Html.writeText m.text ++ ·) huv)
  simp only [List.length_append] at hlength
  omega

/-- Blank content holds no elements. -/
theorem seekIn_of_isAllBlank {m : Mixed Outline} (h : isAllBlank (innerOf m) = true) (n : Chars) :
    seekIn n m = none := by
  cases hseek : seekIn n m with
  | none => rfl
  | some c =>
    obtain ⟨i, t, u, v, huv⟩ := writeContent_of_seekIn m hseek
    have hmem : '<' ∈ writeOutline (.element i t c) := by
      rw [writeOutline]
      split <;> simp [writeTag]
    rw [innerOf, huv, isAllBlank, List.all_eq_true] at h
    cases h '<' (by simp [hmem])

/-! ## Trees that can be written and read back -/

/-- A target whose nodes can be written and read back, and that has no namespaces. -/
def Query.Target.IsLawful : Target → Prop
  | .document ns => LawfulNodes 257 ns ∧ haveNoSpaces ns = true
  | .node m => LawfulNode 257 m ∧ hasNoSpaces m = true
  | _ => True

theorem Query.Target.IsLawful.children {t : Target} (h : t.IsLawful) :
    LawfulNodes 257 t.children ∧ haveNoSpaces t.children = true := by
  cases t with
  | document ns => exact h
  | node m =>
    cases m with
    | element i u cs =>
      obtain ⟨⟨-, -, hcs⟩, hspaces⟩ := h
      rw [hasNoSpaces, Bool.and_eq_true] at hspaces
      exact ⟨LawfulNodes.mono (Nat.sub_le _ _) cs hcs, hspaces.2⟩
    | _ => exact ⟨trivial, rfl⟩
  | _ => exact ⟨trivial, rfl⟩

theorem Query.Target.IsLawful.declarations {t : Target} (h : t.IsLawful) {u : Tag}
    (hu : t.tag? = some u) : u.declarations = [] := by
  match t with
  | .node (.element i v cs) =>
    obtain rfl := Option.some.inj hu
    have hspaces := h.2
    rw [hasNoSpaces, Bool.and_eq_true, isBareTag, Bool.and_eq_true, Bool.and_eq_true] at hspaces
    exact List.isEmpty_iff.mp hspaces.1.1.2

/-- All spots of a tree that can be written and read back can be, and all that is above them. -/
theorem Query.Spot.In.lawful (hs : s.In f) (hf : LawfulNodes 257 f) (hspaces : haveNoSpaces f = true) :
    s.target.IsLawful ∧ ∀ t ∈ s.above, t.IsLawful := by
  induction hs with
  | top => exact ⟨⟨hf, hspaces⟩, nofun⟩
  | @child s k m hs hm ih =>
    obtain ⟨hlawful, hbare⟩ := ih.1.children
    have hmem := List.mem_of_getElem? hm
    exact ⟨⟨lawfulNodes_iff.mp hlawful m hmem, haveNoSpaces_iff.mp hbare m hmem⟩,
      List.forall_mem_cons.mpr ih⟩
  | label k hs ht ha ih => exact ⟨trivial, List.forall_mem_cons.mpr ih⟩
  | space k l u hs ih => exact ⟨trivial, List.forall_mem_cons.mpr ih⟩

/-! ## Searching spots -/

theorem declarations_of_tagsAbove (h : ∀ t ∈ s.above, t.IsLawful) :
    ∀ u ∈ s.tagsAbove, u.declarations = [] := by
  intro u hu
  obtain ⟨t, ht, htag⟩ := List.mem_filterMap.mp hu
  exact (h t ht).declarations htag

/-- The inner markup at the spot of an element is that of its outline. -/
theorem Query.Spot.inner_eq {i : NodeId} {t : Tag} {cs : List Node}
    (htarget : s.target = .node (.element i t cs)) (hlawful : s.target.IsLawful)
    (habove : ∀ t ∈ s.above, t.IsLawful) : (Found.spot s).inner .xml = innerOf (outlineAll cs) := by
  have hcs := hlawful.children
  have htag := hlawful.declarations (u := t) (by rw [htarget]; rfl)
  rw [htarget] at hcs
  rw [Found.inner, htarget]
  exact writeInner_eq (List.forall_mem_cons.mpr ⟨htag, declarations_of_tagsAbove habove⟩) hcs.1 hcs.2

mutual

/-- The first element of a name among the spots of a subtree is the first in its outline. -/
theorem find_subtreeSpots (n : Chars) (offsets : List Offset) {above : List Target} {m : Node}
    (hm : (Target.node m).IsLawful) (habove : ∀ t ∈ above, t.IsLawful) :
    ((subtreeSpots offsets above m).find? fun s => s.target.isNamed n).map
        (fun s => (Found.spot s).inner .xml) = (seek n m.outline).map innerOf := by
  cases m with
  | element i t cs =>
    have hbare := hm.2
    rw [hasNoSpaces, Bool.and_eq_true, isBareTag, Bool.and_eq_true, Bool.and_eq_true, isBareName,
      Bool.and_eq_true] at hbare
    rw [subtreeSpots, Node.outline, seek]
    have hnamed : (Target.node (.element i t cs)).isNamed n = (t.name.base == n) := by
      rw [Target.isNamed, Target.tag?, Option.any_some, hbare.1.1.1.2, Bool.and_true]
    cases hname : t.name.base == n with
    | true =>
      rw [List.find?_cons_of_pos (by rw [hnamed, hname]), if_pos rfl, Option.map_some, Option.map_some,
        Query.Spot.inner_eq rfl hm habove]
    | false =>
      rw [List.find?_cons_of_neg (by rw [hnamed, hname]; exact nofun), if_neg nofun]
      exact find_subtreesSpots n offsets 0 hm.children.1 hm.children.2 (List.forall_mem_cons.mpr ⟨hm, habove⟩)
  | _ =>
    rw [subtreeSpots]
    · rfl
    · exact nofun

/-- The first element of a name among the spots of some subtrees is the first in their outline. -/
theorem find_subtreesSpots (n : Chars) (offsets : List Offset) (k : Nat) {above : List Target}
    {ns : List Node}
    (hns : LawfulNodes 257 ns) (hspaces : haveNoSpaces ns = true) (habove : ∀ t ∈ above, t.IsLawful) :
    ((subtreesSpots offsets above k ns).find? fun s => s.target.isNamed n).map
        (fun s => (Found.spot s).inner .xml) = (seekIn n (outlineAll ns)).map innerOf := by
  cases ns with
  | nil => rfl
  | cons m ns =>
    rw [haveNoSpaces, Bool.and_eq_true] at hspaces
    have hfirst := find_subtreeSpots n (.child k :: offsets) ⟨hns.1, hspaces.1⟩ habove
    have hrest := find_subtreesSpots n offsets (k + 1) hns.2 hspaces.2 habove
    rw [subtreesSpots, List.find?_append, Option.map_or, hfirst, hrest]
    cases hm : m.isText with
    | true =>
      rw [outlineAll_cons_text hm, seekIn_prepend]
      cases m <;> first | rfl | cases hm
    | false =>
      rw [outlineAll_cons_node hm, seekIn, Option.map_or]

end

/-- The first element of a name below a spot is the first in the outline of what stands there. -/
theorem Query.Spot.In.find_isNamed (hs : s.In f) (hf : LawfulNodes 257 f)
    (hspaces : haveNoSpaces f = true) (n : Chars) :
    (s.descendants.find? fun t => t.target.isNamed n).map (fun t => (Found.spot t).inner .xml)
      = (seekIn n (outlineAll s.target.children)).map innerOf := by
  obtain ⟨hlawful, habove⟩ := hs.lawful hf hspaces
  exact find_subtreesSpots n s.offsets 0 hlawful.children.1 hlawful.children.2
    (List.forall_mem_cons.mpr ⟨hlawful, habove⟩)

end MarkupQuery
