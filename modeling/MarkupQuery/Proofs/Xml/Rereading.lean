import MarkupQuery.Proofs.Xml.Leaves
import MarkupQuery.Proofs.Xml.Text
import MarkupQuery.Xml.Prolog

/-!
# Trees read back

What is read of the written form of a tree, by structural recursion on its outline (`rereadIn`): names are
looked up in the namespaces in scope, values lose their references. Reading follows the same recursion: one
lemma for each kind of node, one for what stands in an element (`Reader.reads_trees`), and from them the
whole document (`read_writeTree`).

The markup is well formed as long as everything read so far is sound: tags without references, without
attributes that occur twice and without prefixes that are declared twice, comments without two hyphens in a
row, instructions that are not named like the declaration of the version, no references to entities. From
the first fault on, text loses the characters of markup.

Without namespaces all this does not depend on what is in scope (`reread`, `IsReadable.tree`).
-/

namespace MarkupQuery.Xml

open MarkupQuery.Text MarkupQuery.Tree

variable {r r' : Reader} {rest : Chars} {tag : Tag} {room : Nat}

/-! ## Written outlines -/

/-- Whether there is neither a text nor an item. -/
def isVoid : Mixed Outline → Bool
  | .last t => t.isEmpty
  | .next .. => false

mutual

/-- The written form of what an outline is of. -/
def writeTree : Outline → Chars
  | .leaf n => writeNode n
  | .element _ t c =>
      if isVoid c then writeTag t ++ "/>".toList
      else writeTag t ++ '>' :: (writeTrees c ++ ("</".toList ++ t.name.written ++ ['>']))

/-- The written form of mixed content. -/
def writeTrees : Mixed Outline → Chars
  | .last t => writeText t
  | .next t o rest => writeText t ++ (writeTree o ++ writeTrees rest)

end

/-! ## What is read of an outline -/

mutual

/-- Whether an outline can be read back where `room` more elements may be open. -/
def IsReadableTree : Nat → Outline → Prop
  | _, .leaf n => IsReadableLeaf n
  | room, .element _ t c => 0 < room ∧ IsReadableTag t ∧ IsReadableTrees (room - 1) c

/-- Whether mixed content can be read back. -/
def IsReadableTrees : Nat → Mixed Outline → Prop
  | _, .last t => ∀ c ∈ t, isXmlChar c = true
  | room, .next t o rest =>
      (∀ c ∈ t, isXmlChar c = true) ∧ IsReadableTree room o ∧ IsReadableTrees room rest

end

mutual

/-- Whether nothing in an outline makes markup malformed. -/
def isSoundIn : List Declaration → Outline → Bool
  | _, .leaf n => isSoundLeaf n
  | scope, .element _ t c => isSoundTagIn scope t && isSoundContentIn (innerScope scope t) c

/-- Whether nothing in mixed content makes markup malformed. -/
def isSoundContentIn : List Declaration → Mixed Outline → Bool
  | _, .last _ => true
  | scope, .next _ o rest => isSoundIn scope o && isSoundContentIn scope rest

end

mutual

/-- What is read of the written form of an outline in a scope, where everything before it was well formed
if `sound`. -/
def rereadIn : List Declaration → Bool → Outline → Outline
  | _, _, .leaf n => .leaf (rereadLeaf n)
  | scope, sound, .element _ t c =>
      .element unnumbered (rereadTagIn scope t)
        (rereadContentIn (innerScope scope t) (sound && isSoundTagIn scope t) c)

/-- What is read of the written form of mixed content. -/
def rereadContentIn : List Declaration → Bool → Mixed Outline → Mixed Outline
  | _, sound, .last t => .last (keptText sound t)
  | scope, sound, .next t o rest =>
      .next (keptText sound t) (rereadIn scope sound o)
        (rereadContentIn scope (sound && isSoundIn scope o) rest)

end

/-! ## Reading elements -/

theorem writeTag_append (tag : Tag) (s : Chars) :
    ∃ u, writeTag tag ++ s = '<' :: (tag.name.written ++ u) := by
  refine ⟨(itemsOf tag).flatMap Item.write ++ s, ?_⟩
  rw [writeTag_eq]
  simp

/-- The step that content takes at a start tag. -/
theorem Reader.contentStep_startTag (htag : IsReadableTag tag) {s : Chars}
    (h : r.input = writeTag tag ++ s) : r.contentStep = r.startTag := by
  obtain ⟨u, hu⟩ := writeTag_append tag s
  obtain ⟨c, v, hname, hc, -⟩ := htag.name.isAnyName
  have hinput : r.input = '<' :: c :: (v ++ u) := by rw [h, hu, hname, List.cons_append]
  have hne (d : Char) (hd : (isNameStart d || d == ':') = false) : c ≠ d := by
    rintro rfl
    simp [hd] at hc
  have hslash := hne '/' (by decide)
  have hmark := hne '!' (by decide)
  have hquestion := hne '?' (by decide)
  rw [Reader.contentStep, hinput]
  split <;> simp_all

/-- Whether some text is read as content in a scope, at any place in an element that markup follows. -/
def Reader.ReadsBody (depth : Nat) (scope : List Declaration) (wellFormed : Bool) (body : Chars)
    (ok : Bool) (m : Mixed Outline) : Prop :=
  ∀ r : Reader, r.Plain → r.frames.length = depth → r.scope = scope → r.wellFormed = wellFormed →
    ∀ rest, AtMarkup rest → r.input = body ++ rest → ∃ r', r.Reads rest ok m r'

/-- A tag is read with what stands between it and its end. -/
theorem Reader.reads_tagged (hr : r.Plain) {body : Chars} {ok : Bool} {m : Mixed Outline}
    (htag : IsReadableTag tag) (hdepth : r.frames.length ≤ 256)
    (hbody : Reader.ReadsBody (r.frames.length + 1) (innerScope r.scope tag)
      (r.wellFormed && isSoundTagIn r.scope tag) body ok m)
    (h : r.input = writeTag tag ++ '>' :: (body ++ ("</".toList ++ tag.name.written ++ '>' :: rest))) :
    ∃ r', r.startTag.Leads r' ∧ r.startTag.input.length < r.input.length ∧
      r.Makes rest (isSoundTagIn r.scope tag && ok)
        (.next [] (.element unnumbered (rereadTagIn r.scope tag) m) (.last [])) r' := by
  have hending : atTagEnd ('>' :: (body ++ ("</".toList ++ tag.name.written ++ '>' :: rest))) = true :=
    rfl
  obtain ⟨r₀, hopens₀, hstart, -⟩ := Reader.opens_startTag hr.toUndeclared htag hdepth hending h
  have hstart := hstart _ rfl
  have hopens := hopens₀.at_ (body ++ ("</".toList ++ tag.name.written ++ '>' :: rest))
  rw [← hstart] at hopens
  have hinput₁ : r.startTag.input = body ++ ("</".toList ++ tag.name.written ++ '>' :: rest) := by
    rw [hstart]
    rfl
  generalize r.startTag = r₁ at hopens hinput₁
  have hplain₁ := hopens.plain hr
  have hmarkup : AtMarkup ("</".toList ++ tag.name.written ++ '>' :: rest) := .inl rfl
  obtain ⟨r₂, hreads⟩ := hbody r₁ hplain₁ hopens.length_frames hopens.scope hopens.wellFormed _ hmarkup
    hinput₁
  have hwritten := htag.written_rereadTagIn r.scope
  have hname : IsAnyName (rereadTagIn r.scope tag).name.written := hwritten ▸ htag.name.isAnyName
  rw [← hwritten] at hreads
  -- the reader stands at the end tag, and one more step closes the element
  have hend := hopens.makes_endTag hname hreads.2
  have hplain₂ := hreads.2.plain hplain₁
  have hframes₂ : r₂.frames ≠ [] := by
    rw [← List.length_pos_iff, hreads.2.length_frames, hopens.length_frames]
    exact Nat.succ_pos _
  have hstep : r₂.contentStep = r₂.endTag := by
    rw [Reader.contentStep, hreads.2.input]
    rfl
  have hlast := Reader.leads_contentStep hplain₂.halted hframes₂ (by
    rw [hstep, hend.input, hreads.2.input]
    simp
    omega)
  rw [hstep] at hlast
  refine ⟨r₂.endTag, hreads.1.trans hlast, ?_, hend⟩
  rw [hinput₁, h]
  simp only [List.length_append, List.length_cons]
  omega

/-- An element is read back, if its content is. -/
theorem Reader.reads_element (hr : r.Plain) {i : NodeId} {content : Mixed Outline}
    (htag : IsReadableTag tag) (hdepth : r.frames.length ≤ 256)
    (hcontent : ∀ wellFormed, Reader.ReadsBody (r.frames.length + 1) (innerScope r.scope tag) wellFormed
      (writeTrees content) (isSoundContentIn (innerScope r.scope tag) content)
      (rereadContentIn (innerScope r.scope tag) wellFormed content))
    (h : r.input = writeTree (.element i tag content) ++ rest) :
    ∃ r', r.startTag.Leads r' ∧ r.startTag.input.length < r.input.length ∧
      r.Makes rest (isSoundIn r.scope (.element i tag content))
        (.next [] (rereadIn r.scope r.wellFormed (.element i tag content)) (.last [])) r' := by
  rw [writeTree] at h
  rw [rereadIn, isSoundIn]
  split at h
  · next hvoid =>
    obtain rfl : content = .last [] := by
      cases content with
      | last t => rw [List.isEmpty_iff.mp hvoid]
      | next t o more => cases hvoid
    rw [List.append_assoc] at h
    obtain ⟨r₁, hopens, -, hstart⟩ :=
      Reader.opens_startTag hr.toUndeclared htag hdepth (by rfl) h
    have hstart := hstart rest rfl
    have hclose := (hopens.at_ rest).makes_close (Reader.Moves.refl (r₁.at_ rest)).makes
    have hinput : (r₁.at_ rest).input = rest := rfl
    rw [← hstart, hinput] at hclose
    refine ⟨r.startTag, .refl _, ?_, ?_⟩
    · rw [hclose.input, h, List.length_append]
      simp
      omega
    · rw [isSoundContentIn, rereadContentIn, keptText_nil]
      exact hclose
  · exact Reader.reads_tagged hr htag hdepth (hcontent _) (by rw [h]; simp)

/-! ## Reading content -/

/-- A node goes on with markup. -/
theorem atMarkup_writeTree {o : Outline} (ho : IsReadableTree room o) (s : Chars) :
    AtMarkup (writeTree o ++ s) := by
  cases o with
  | element i t c =>
    left
    rw [writeTree]
    split <;> rfl
  | leaf n =>
    rw [writeTree]
    cases n with
    | comment i t =>
      rw [writeNode_comment]
      exact .inl rfl
    | instruction i t d =>
      left
      cases d with
      | none => rw [writeNode_instruction_none]; rfl
      | some d => rw [writeNode_instruction_some]; rfl
    | reference i n t =>
      rw [writeNode_reference]
      exact .inr rfl
    | _ => exact ho.elim

mutual

/-- A node is read back. -/
theorem Reader.reads_tree {r : Reader} {rest : Chars} {room : Nat} (o : Outline)
    (ho : IsReadableTree room o) (hr : r.Plain) (hframes : r.frames ≠ [])
    (hroom : r.frames.length + room ≤ 257)
    (h : r.input = writeTree o ++ rest) :
    ∃ r', r.Reads rest (isSoundIn r.scope o)
      (.next [] (rereadIn r.scope r.wellFormed o) (.last [])) r' := by
  cases o with
  | leaf n =>
    rw [isSoundIn, rereadIn]
    exact ⟨_, Reader.reads_leaf hr hframes ho h⟩
  | element i tag content =>
    obtain ⟨hpos, htag, hcontent⟩ := ho
    obtain ⟨r', hleads, hshorter, hmakes⟩ := Reader.reads_element (i := i) hr htag (by omega)
      (fun w r₁ hr₁ hlen hscope hw rest₁ hrest₁ hinput₁ => hw ▸ hscope ▸
        Reader.reads_trees content hcontent hr₁
          (by rw [← List.length_pos_iff, hlen]; exact Nat.succ_pos _) (by omega) hrest₁ hinput₁) h
    have hstep : r.contentStep = r.startTag := by
      rw [writeTree] at h
      split at h
      · rw [List.append_assoc] at h
        exact Reader.contentStep_startTag htag h
      · rw [List.append_assoc] at h
        exact Reader.contentStep_startTag htag h
    rw [← hstep] at hleads hshorter
    exact ⟨r', (Reader.leads_contentStep hr.halted hframes hshorter).trans hleads, hmakes⟩

/-- What stands in an element is read back up to the next markup. -/
theorem Reader.reads_trees {r : Reader} {rest : Chars} {room : Nat} (m : Mixed Outline)
    (hm : IsReadableTrees room m) (hr : r.Plain) (hframes : r.frames ≠ [])
    (hroom : r.frames.length + room ≤ 257) (hrest : AtMarkup rest) (h : r.input = writeTrees m ++ rest) :
    ∃ r', r.Reads rest (isSoundContentIn r.scope m) (rereadContentIn r.scope r.wellFormed m) r' := by
  cases m with
  | last t =>
    rw [isSoundContentIn, rereadContentIn]
    exact Reader.reads_writeText hr hframes hm hrest h
  | next t o more =>
    obtain ⟨ht, ho, hmore⟩ := hm
    have hinput : r.input = writeText t ++ (writeTree o ++ (writeTrees more ++ rest)) := by
      rw [h, writeTrees]
      simp
    -- the text, the node after it and the rest are read in turn
    obtain ⟨r₁, hreads₁⟩ := Reader.reads_writeText hr hframes ht (atMarkup_writeTree ho _) hinput
    have hframes₁ : r₁.frames ≠ [] := by
      rw [← List.length_pos_iff, hreads₁.2.length_frames, List.length_pos_iff]
      exact hframes
    obtain ⟨r₂, hreads₂⟩ := Reader.reads_tree o ho (hreads₁.2.plain hr) hframes₁
      (by rw [hreads₁.2.length_frames]; exact hroom) hreads₁.2.input
    have hreads := hreads₁.trans hreads₂
    have hframes₂ : r₂.frames ≠ [] := by
      rw [← List.length_pos_iff, hreads.2.length_frames, List.length_pos_iff]
      exact hframes
    obtain ⟨r₃, hreads₃⟩ := Reader.reads_trees more hmore (hreads.2.plain hr) hframes₂
      (by rw [hreads.2.length_frames]; exact hroom) hrest hreads.2.input
    have hall := hreads.trans hreads₃
    rw [hreads.2.wellFormed, hreads.2.scope, hreads₁.2.wellFormed, hreads₁.2.scope, Bool.and_true,
      Bool.true_and, Mixed.concat, Mixed.prepend_next, List.append_nil, Mixed.concat,
      Mixed.concat_nil] at hall
    rw [isSoundContentIn, rereadContentIn]
    exact ⟨r₃, hall⟩

end

/-! ## Whole documents -/

/-- The element at the top is the root. -/
theorem rootOf_of_outlineAll {f : Forest} {s : Chars} {i : NodeId} {tag : Tag} {m : Mixed Outline}
    {rest : Mixed Outline} (h : outlineAll f = .next s (.element i tag m) rest) :
    ∃ n, rootOf f = some n ∧ n.outline = .element i tag m := by
  induction f generalizing s with
  | nil => cases h
  | cons n f ih =>
    cases hn : n.isText with
    | true =>
      rw [outlineAll_cons_text hn] at h
      cases hf : outlineAll f with
      | last t =>
        rw [hf] at h
        cases h
      | next t o more =>
        rw [hf, Mixed.prepend_next] at h
        obtain ⟨-, rfl, rfl⟩ := Mixed.next.inj h
        obtain ⟨m', hroot, hm'⟩ := ih hf
        refine ⟨m', ?_, hm'⟩
        rw [rootOf, List.find?_cons_of_neg (by cases n <;> simp_all [Node.isText, Node.isElement])]
        exact hroot
    | false =>
      rw [outlineAll_cons_node hn] at h
      obtain ⟨-, ho, -⟩ := Mixed.next.inj h
      refine ⟨n, ?_, ho⟩
      cases n with
      | element => rfl
      | _ => cases ho

/-- Markup that begins with a start tag has nothing before its root. -/
theorem Reader.whole_eq_body {c : Char} {s : Chars} (hc : (isNameStart c || c == ':') = true)
    (h : r.input = '<' :: c :: s) (hhalted : r.halted = false) : r.whole = r.body := by
  have hmark (d : Char) (mark : Chars) (hd : (isNameStart d || d == ':') = false) :
      (after? ('<' :: d :: mark) r.input).isSome = false := by
    cases hafter : after? ('<' :: d :: mark) r.input with
    | none => rfl
    | some w =>
      have heq := after?_eq_some.mp hafter
      simp only [h, List.cons_append, List.cons.injEq, true_and] at heq
      rw [heq.1, hd] at hc
      cases hc
  have hskip : r.skipBlanks = r := by
    rw [Reader.skipBlanks, h, dropWhile_blank_of_head (by rfl), Reader.at_, ← h]
  have hbefore : r.surroundings = r := by
    have hquestion : (after? "<?".toList r.input).isSome = false := hmark '?' [] (by decide)
    have hcomment : (after? "<!--".toList r.input).isSome = false := hmark '!' _ (by decide)
    rw [Reader.surroundings, Reader.around, hskip, hquestion, hcomment]
    rfl
  have hversion : (after? "<?xml".toList r.input).isSome = false := hmark '?' _ (by decide)
  have htype : (after? "<!DOCTYPE".toList r.input).isSome = false := hmark '!' _ (by decide)
  rw [Reader.whole, hversion, Bool.false_and]
  simp only [Bool.false_eq_true, if_false]
  rw [hbefore, htype]
  simp only [Bool.false_eq_true, if_false]
  rw [hhalted]
  simp only [Bool.false_eq_true, if_false]

/-- If reading closes the root and nothing follows it, the document is read. -/
theorem Reader.body_eq {s : Chars} (h : r.input = '<' :: s) (hleads : r.startTag.Leads r')
    (hshorter : r.startTag.input.length < r.input.length) (hframes : r'.frames = [])
    (hinput : r'.input = []) (hhalted : r'.halted = false) : r.body = r' := by
  obtain ⟨fuel, -, hcontent⟩ := hleads (r.input.length + 1) (Nat.lt_succ_of_lt hshorter)
  have hend : Reader.content fuel r' = r' := by
    cases fuel with
    | zero => rfl
    | succ fuel => rw [Reader.content, if_pos (by simp [hframes])]
  have hafter : r'.surroundings = r' := by
    have hskip : r'.skipBlanks = r' := by
      rw [Reader.skipBlanks, hinput, Reader.at_, List.dropWhile_nil, ← hinput]
    rw [Reader.surroundings, Reader.around, hskip, hinput]
    rfl
  rw [Reader.body]
  split
  · rw [hcontent, hend]
    dsimp only
    rw [hhalted, if_neg (by simp), hframes]
    dsimp only
    rw [hafter, hinput]
    rfl
  · next hne => exact absurd h (hne s)

/-- The written form of an element begins with its name. -/
theorem writeTree_element (htag : IsReadableTag tag) (i : NodeId) (content : Mixed Outline) :
    ∃ c s, writeTree (.element i tag content) = '<' :: c :: s ∧
      (isNameStart c || c == ':') = true := by
  obtain ⟨c, u, hname, hc, -⟩ := htag.name.isAnyName
  rw [writeTree]
  split
  · obtain ⟨w, hw⟩ := writeTag_append tag "/>".toList
    exact ⟨c, u ++ w, by rw [hw, hname]; rfl, hc⟩
  · obtain ⟨w, hw⟩ := writeTag_append tag
      ('>' :: (writeTrees content ++ ("</".toList ++ tag.name.written ++ ['>'])))
    exact ⟨c, u ++ w, by rw [hw, hname]; rfl, hc⟩

/-- A reader of some text with default settings. -/
def Reader.ofText (text : Chars) : Reader :=
  { text, input := text, settings := { keepSections := false }, malformedFrom := 0 }

theorem Reader.plain_ofText (text : Chars) : (Reader.ofText text).Plain :=
  ⟨⟨rfl, rfl, rfl, rfl, rfl, rfl⟩, rfl⟩

/-- Reading markup gives what the whole text is read as. -/
theorem forest_read {text s : Chars} (h : text = '<' :: s) (settings : Settings) (n : Nat) :
    (read settings text n).forest =
      some ({ text, input := text, settings, malformedFrom := n } : Reader).whole.forest := by
  have hmark : ∀ u, text ≠ '\ufeff' :: u := by
    rintro u rfl
    cases h
  rw [read, if_neg (by rw [h]; simp)]
  exact hmark

/-- If reading comes to the end of a text with one element made, this is the root of a document. -/
theorem read_of_makes {text s : Chars} {c : Char} {o : Outline} {ok : Bool}
    (htext : text = '<' :: c :: s) (hc : (isNameStart c || c == ':') = true)
    (hleads : (Reader.ofText text).startTag.Leads r')
    (hshorter : (Reader.ofText text).startTag.input.length < text.length)
    (hmakes : (Reader.ofText text).Makes [] ok (.next [] o (.last [])) r') :
    ∃ f, (read { keepSections := false } text 0).forest = some f ∧
      outlineAll f = .next [] o (.last []) := by
  have hplain := Reader.plain_ofText text
  have hhalted := (hmakes.plain hplain).halted
  have hend := hmakes.input
  have htop : r'.frames = [] ∧ outlineAll r'.top.reverse = .next [] o (.last []) := by
    obtain ⟨notices, frames, top, hgrown, rfl⟩ := hmakes
    cases hgrown with
    | atTop h => exact ⟨rfl, by rw [h, Reader.ofText, List.reverse_nil, outlineAll, Mixed.concat_nil]⟩
  have hinput : (Reader.ofText text).input = '<' :: c :: s := htext
  have hwhole : (Reader.ofText text).whole = r' := by
    rw [Reader.whole_eq_body hc hinput hplain.halted,
      Reader.body_eq hinput hleads hshorter htop.1 hend hhalted]
  refine ⟨r'.top.reverse, ?_, htop.2⟩
  rw [forest_read htext]
  show some ((Reader.ofText text).whole).forest = _
  rw [hwhole, Reader.forest, htop.1]
  rfl

/-- The written form of an element is read back as the root of a document. -/
theorem read_writeTree {i : NodeId} {content : Mixed Outline}
    (ho : IsReadableTree 257 (.element i tag content)) :
    ∃ f, (read { keepSections := false } (writeTree (.element i tag content)) 0).forest = some f ∧
      outlineAll f = .next [] (rereadIn [] true (.element i tag content)) (.last []) := by
  obtain ⟨-, htag, hcontent⟩ := ho
  obtain ⟨c, s, htext, hc⟩ := writeTree_element htag i content
  obtain ⟨r', hleads, hshorter, hmakes⟩ := Reader.reads_element (i := i)
    (Reader.plain_ofText (writeTree (.element i tag content))) htag (Nat.zero_le _)
    (fun w r₁ hr₁ hlen hscope hw rest₁ hrest₁ hinput₁ => hw ▸ hscope ▸
      Reader.reads_trees content hcontent hr₁
        (by rw [← List.length_pos_iff, hlen]; exact Nat.succ_pos _)
        (by rw [hlen]; exact Nat.le_refl 257) hrest₁ hinput₁) (List.append_nil _).symm
  exact read_of_makes htext hc hleads hshorter hmakes

/-! ## Trees without namespaces -/

mutual

/-- The written form of what an outline is of, names without their prefixes. -/
def writeOutline : Outline → Chars
  | .leaf n => writeNode n
  | .element _ t c =>
      if isVoid c then writeTag t ++ "/>".toList
      else writeTag t ++ '>' :: (writeContent c ++ ("</".toList ++ t.name.base ++ ['>']))

/-- The written form of mixed content, names without their prefixes. -/
def writeContent : Mixed Outline → Chars
  | .last t => writeText t
  | .next t o rest => writeText t ++ (writeOutline o ++ writeContent rest)

end

mutual

/-- Whether an outline without namespaces can be read back where `room` more elements may be open. -/
def IsReadable : Nat → Outline → Prop
  | _, .leaf n => IsReadableLeaf n
  | room, .element _ t c => 0 < room ∧ IsLocalTag t ∧ IsReadableContent (room - 1) c

/-- Whether mixed content without namespaces can be read back. -/
def IsReadableContent : Nat → Mixed Outline → Prop
  | _, .last t => ∀ c ∈ t, isXmlChar c = true
  | room, .next t o rest =>
      (∀ c ∈ t, isXmlChar c = true) ∧ IsReadable room o ∧ IsReadableContent room rest

end

mutual

/-- Whether nothing in an outline makes markup malformed. -/
def isSound : Outline → Bool
  | .leaf n => isSoundLeaf n
  | .element _ t c => isSoundTag t && isSoundContent c

/-- Whether nothing in mixed content makes markup malformed. -/
def isSoundContent : Mixed Outline → Bool
  | .last _ => true
  | .next _ o rest => isSound o && isSoundContent rest

end

mutual

/-- What is read of the written form of an outline, where everything before it was well formed if
`sound`. -/
def reread : Bool → Outline → Outline
  | _, .leaf n => .leaf (rereadLeaf n)
  | sound, .element _ t c =>
      .element unnumbered (rereadTag t) (rereadContent (sound && isSoundTag t) c)

/-- What is read of the written form of mixed content. -/
def rereadContent : Bool → Mixed Outline → Mixed Outline
  | sound, .last t => .last (keptText sound t)
  | sound, .next t o rest =>
      .next (keptText sound t) (reread sound o) (rereadContent (sound && isSound o) rest)

end

mutual

/-- Without namespaces what is read does not depend on them. -/
theorem IsReadable.tree {room : Nat} (o : Outline) (ho : IsReadable room o) :
    IsReadableTree room o ∧ writeTree o = writeOutline o ∧ isSoundIn [] o = isSound o ∧
      ∀ sound, rereadIn [] sound o = reread sound o := by
  cases o with
  | leaf n => exact ⟨ho, rfl, rfl, fun sound => rfl⟩
  | element i t c =>
    obtain ⟨hpos, htag, hcontent⟩ := ho
    obtain ⟨hreadable, hwrite, hsound, hreread⟩ := IsReadableContent.trees c hcontent
    refine ⟨⟨hpos, htag.isReadableTag, hreadable⟩, ?_, ?_, fun sound => ?_⟩
    · rw [writeTree, writeOutline, hwrite, htag.name.written]
    · rw [isSoundIn, isSound, htag.innerScope_nil, htag.isSoundTagIn_nil, hsound]
    · rw [rereadIn, reread, htag.innerScope_nil, htag.isSoundTagIn_nil, htag.rereadTagIn_nil, hreread]

/-- Without namespaces what is read does not depend on them. -/
theorem IsReadableContent.trees {room : Nat} (m : Mixed Outline) (hm : IsReadableContent room m) :
    IsReadableTrees room m ∧ writeTrees m = writeContent m ∧
      isSoundContentIn [] m = isSoundContent m ∧
      ∀ sound, rereadContentIn [] sound m = rereadContent sound m := by
  cases m with
  | last t => exact ⟨hm, rfl, rfl, fun sound => rfl⟩
  | next t o rest =>
    obtain ⟨ht, ho, hrest⟩ := hm
    obtain ⟨hreadable, hwrite, hsound, hreread⟩ := IsReadable.tree o ho
    obtain ⟨hreadable', hwrite', hsound', hreread'⟩ := IsReadableContent.trees rest hrest
    refine ⟨⟨ht, hreadable, hreadable'⟩, ?_, ?_, fun sound => ?_⟩
    · rw [writeTrees, writeContent, hwrite, hwrite']
    · rw [isSoundContentIn, isSoundContent, hsound, hsound']
    · rw [rereadContentIn, rereadContent, hreread, hsound, hreread']

end

end MarkupQuery.Xml
