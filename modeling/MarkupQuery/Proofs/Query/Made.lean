import MarkupQuery.Proofs.Query.Within
import MarkupQuery.Proofs.Xml.TextContent

/-!
# Trees that functions make

A function on regular expressions may give elements, each of which holds a text, below one element for all of
them. Their names have no prefixes and nothing is declared above them (`Spot.Made.declarations`). An element of
an empty text is written with a start and an end tag, unlike empty elements that were read. All the same the
inner markup of the element for all of them is read back in full (`Reader.readsBody_matches`).
-/

namespace MarkupQuery.Query

open MarkupQuery.Text MarkupQuery.Tree MarkupQuery.Xml

/-! ## Their nodes -/

/-- A start tag with nothing but a name. -/
def plainTag (name : Chars) : Tag := { name := { base := name } }

/-- The tag around every text of a made tree. -/
def matchTag : Tag := plainTag "match".toList

/-- The element of a text which may stand in a tree. -/
def IsMatch (n : Node) : Prop := ∃ i u, isMarkupText u = true ∧ n = .element i matchTag [.text u]

/-- A node of a made tree. -/
inductive IsMade : Node → Prop
  | text {u : Chars} (hu : isMarkupText u = true) : IsMade (.text u)
  | one {n : Node} (hn : IsMatch n) : IsMade n
  | all {cs : List Node} (hcs : ∀ n ∈ cs, IsMatch n) (i : NodeId) :
      IsMade (.element i (plainTag "matches".toList) cs)

variable {s : Spot} {n : Node} {us : List Chars} {cs : List Node} {i : NodeId}

theorem IsMade.children (h : IsMade n) : ∀ m ∈ n.children, IsMade m := by
  cases h with
  | text hu => exact nofun
  | one hn =>
    obtain ⟨i, u, hu, rfl⟩ := hn
    exact List.forall_mem_singleton.mpr (.text hu)
  | all hcs i => exact fun m hm => .one (hcs m hm)

theorem isMade_of_mem_madeTree (hus : us.all isMarkupText = true) : ∀ n ∈ madeTree us, IsMade n := by
  refine List.forall_mem_singleton.mpr (.all (fun m hm => ?_) 0)
  obtain ⟨⟨u, k⟩, hu, rfl⟩ := List.mem_map.mp hm
  exact ⟨k + 1, u, List.all_eq_true.mp hus u (List.fst_mem_of_mem_zipIdx hu), rfl⟩

/-- What stands at a spot of a made tree, and above it, are nodes of such trees. -/
theorem Spot.Made.all (h : s.Made) : s.target.All IsMade ∧ ∀ t ∈ s.above, t.All IsMade := by
  obtain ⟨us, hus, h⟩ := h
  exact h.all (fun n hn => hn.children) (isMade_of_mem_madeTree hus)

/-! ## Their tags -/

theorem isLocalTag_plainTag {name : Chars} (hname : IsPlainName name) : IsLocalTag (plainTag name) where
  name := ⟨rfl, rfl, ⟨none, name, [], none⟩, .plain hname, rfl, nofun⟩
  declarations := rfl
  attributes := nofun

theorem isLocalTag_matchTag : IsLocalTag matchTag :=
  isLocalTag_plainTag ⟨'m', "atch".toList, rfl, by decide, by decide⟩

theorem isSoundTagIn_matchTag : isSoundTagIn [] matchTag = true :=
  isLocalTag_matchTag.isSoundTagIn_nil.trans (by decide)

theorem rereadTagIn_matchTag : rereadTagIn [] matchTag = matchTag :=
  isLocalTag_matchTag.rereadTagIn_nil.trans (by decide)

/-- Nodes of made trees declare nothing. -/
theorem IsMade.declarations (h : IsMade n) {t : Tag} (ht : (Target.node n).tag? = some t) :
    t.declarations = [] := by
  cases h with
  | text hu => cases ht
  | one hn =>
    obtain ⟨i, u, -, rfl⟩ := hn
    obtain rfl := Option.some.inj ht
    rfl
  | all hcs i =>
    obtain rfl := Option.some.inj ht
    rfl

/-- No element of a made tree is in the scope of a declaration. -/
theorem Spot.Made.declarations (h : s.Made) {i : NodeId} {t : Tag} (ht : s.target = .node (.element i t cs)) :
    ∀ u ∈ t :: s.tagsAbove, u.declarations = [] := by
  obtain ⟨hhere, habove⟩ := h.all
  rw [ht] at hhere
  refine List.forall_mem_cons.mpr ⟨IsMade.declarations hhere rfl, fun u hu => ?_⟩
  obtain ⟨v, hv, htag⟩ := List.mem_filterMap.mp hu
  have hmade := habove v hv
  cases v with
  | node n => exact IsMade.declarations hmade htag
  | _ => cases htag

theorem isXmlChar_of_isMarkupText {u : Chars} (hu : isMarkupText u = true) : ∀ c ∈ u, isXmlChar c = true := by
  intro c hc
  have hchar := List.all_eq_true.mp hu c hc
  have hvalid : c.toNat < 0xd800 ∨ 0xdfff < c.toNat ∧ c.toNat < 0x110000 := c.valid
  simp only [Bool.or_eq_true, Bool.and_eq_true, decide_eq_true_eq, bne_iff_ne, beq_iff_eq] at hchar
  obtain ((⟨⟨hlow, h₁⟩, h₂⟩ | rfl) | rfl) | rfl := hchar
  · simp [isXmlChar, isXmlCode]
    omega
  · decide
  · decide
  · decide

/-! ## Their inner markup -/

/-- Without declarations above it the element of a text is written by itself as it is. -/
theorem IsMatch.selfContained_eq (h : IsMatch n) {ancestors : List Tag}
    (habove : ∀ t ∈ ancestors, t.declarations = []) : selfContained ancestors n = n := by
  obtain ⟨i, u, -, rfl⟩ := h
  exact Xml.selfContained_eq habove (List.forall_mem_singleton.mpr (.inl rfl)) i _

theorem map_selfContained_of_matches (hcs : ∀ n ∈ cs, IsMatch n) {ancestors : List Tag}
    (habove : ∀ t ∈ ancestors, t.declarations = []) : cs.map (selfContained ancestors) = cs :=
  (List.map_congr_left fun n hn => (hcs n hn).selfContained_eq habove).trans (List.map_id cs)

/-- The elements of texts are written one after the other. -/
theorem writeInner_of_matches (hcs : ∀ n ∈ cs, IsMatch n) {ancestors : List Tag} {t : Tag}
    (habove : ∀ u ∈ t :: ancestors, u.declarations = []) : writeInner .xml ancestors t cs = writeNodes cs := by
  have htext : leadingText cs = none ∧ afterText cs = cs := by
    cases cs with
    | nil => exact ⟨rfl, rfl⟩
    | cons n cs =>
      obtain ⟨i, u, -, rfl⟩ := hcs n List.mem_cons_self
      exact ⟨rfl, rfl⟩
  rw [writeInner, htext.1, htext.2, writeEach_eq_writeNodes, map_selfContained_of_matches hcs habove]
  rfl

/-- The element of a text holds this text. -/
theorem writeInner_of_text (ancestors : List Tag) (t : Tag) (u : Chars) :
    writeInner .xml ancestors t [.text u] = innerTrees (.last u) := by
  show Html.writeText (u ++ []) ++ [] = Html.writeText u ++ writeText []
  rw [List.append_nil, List.append_nil, writeText_nil, List.append_nil]

theorem IsMatch.writeNode (h : IsMatch n) : ∃ u, (∀ c ∈ u, isXmlChar c = true) ∧
    n.outline.bare = .element unnumbered matchTag (.last u) ∧
    writeNode n = writeTag matchTag ++ '>' :: (writeText u ++ ("</".toList ++ matchTag.name.written ++ ['>'])) := by
  obtain ⟨i, u, hu, rfl⟩ := h
  refine ⟨u, isXmlChar_of_isMarkupText hu, ?_, ?_⟩
  · rw [Node.outline, outlineAll_cons_text rfl]
    show Outline.element unnumbered matchTag (.last (u ++ [])) = _
    rw [List.append_nil]
  · rw [writeNode_element_cons i matchTag (List.cons_ne_nil _ _), writeNodes, writeNode_text, writeNodes,
      List.append_nil]

/-! ## Reading it back -/

theorem Reader.reads_match {r : Reader} {rest : Chars} (hr : r.Plain) (hframes : r.frames.length = 1)
    (hscope : r.scope = []) (hsound : r.wellFormed = true) (hn : IsMatch n) (h : r.input = writeNode n ++ rest) :
    ∃ r', r.Reads rest true (.next [] n.outline.bare (.last [])) r' := by
  obtain ⟨u, hu, houtline, hwrite⟩ := hn.writeNode
  have hlocal := isLocalTag_matchTag
  have hinput : r.input = writeTag matchTag ++
      '>' :: (writeText u ++ ("</".toList ++ matchTag.name.written ++ '>' :: rest)) := by
    rw [h, hwrite]
    simp only [List.append_assoc, List.cons_append, List.nil_append]
  have hbody : Reader.ReadsBody (r.frames.length + 1) (innerScope r.scope matchTag)
      (r.wellFormed && isSoundTagIn r.scope matchTag) (writeText u) true (.last u) := by
    rintro q hq hlen - hwell rest hrest hinput
    obtain ⟨q', hreads⟩ := Reader.reads_writeText hq (by rw [← List.length_pos_iff, hlen]; omega) hu hrest hinput
    rw [hwell, hscope, isSoundTagIn_matchTag, hsound] at hreads
    exact ⟨q', hreads⟩
  obtain ⟨r', hleads, hshorter, hmakes⟩ := Reader.reads_tagged hr hlocal.isReadableTag (by omega) hbody hinput
  have hstep : r.contentStep = r.startTag := Reader.contentStep_startTag hlocal.isReadableTag hinput
  rw [← hstep] at hleads hshorter
  rw [hscope, isSoundTagIn_matchTag, rereadTagIn_matchTag, ← houtline] at hmakes
  exact ⟨r', (Reader.leads_contentStep hr.halted (by rw [← List.length_pos_iff]; omega) hshorter).trans hleads,
    hmakes⟩

theorem IsMatch.outlineAll_cons (hn : IsMatch n) (ns : List Node) :
    outlineAll (n :: ns) = .next [] n.outline (outlineAll ns) := by
  refine outlineAll_cons_node ?_ ns
  obtain ⟨i, u, -, rfl⟩ := hn
  rfl

/-- The elements of texts are read one after the other. -/
theorem Reader.readsBody_matches (hcs : ∀ n ∈ cs, IsMatch n) :
    Reader.ReadsBody 1 [] true (writeNodes cs) true (bareContent (outlineAll cs)) := by
  induction cs with
  | nil =>
    rintro r - - - - rest - h
    rw [writeNodes, List.nil_append] at h
    exact ⟨r, h ▸ Reader.Reads.refl r⟩
  | cons n cs ih =>
    rw [List.forall_mem_cons] at hcs
    rintro r hr hframes hscope hsound rest hrest h
    rw [writeNodes, List.append_assoc] at h
    obtain ⟨r₁, hreads₁⟩ := Reader.reads_match hr hframes hscope hsound hcs.1 h
    obtain ⟨r₂, hreads₂⟩ := ih hcs.2 r₁ (hreads₁.2.plain hr) (by rw [hreads₁.2.length_frames, hframes])
      (by rw [hreads₁.2.scope, hscope]) (by rw [hreads₁.2.wellFormed, hsound]; rfl) rest hrest hreads₁.2.input
    have hall := hreads₁.trans hreads₂
    rw [Bool.and_true, Mixed.concat, Mixed.concat, Mixed.prepend_nil] at hall
    rw [hcs.1.outlineAll_cons, bareContent]
    exact ⟨r₂, hall⟩

/-- The texts of a made tree are kept. -/
theorem keepTextIn_matches (hcs : ∀ n ∈ cs, IsMatch n) : keepTextIn [] true (outlineAll cs) = true := by
  induction cs with
  | nil => rfl
  | cons n cs ih =>
    rw [List.forall_mem_cons] at hcs
    obtain ⟨i, u, -, rfl⟩ := hcs.1
    rw [hcs.1.outlineAll_cons, keepTextIn, Node.outline, keepsTextIn, isSoundIn, isSoundTagIn_matchTag,
      outlineAll_cons_text rfl]
    exact ih hcs.2

end MarkupQuery.Query
