import MarkupQuery.Proofs.Xml.Assembly
import MarkupQuery.Proofs.Xml.Rereading

/-!
# The root of what is read

Once the start tag of the root is read, no text can add another element at the top or take the root away: an
end tag may close the root early, or text may end before it is closed, but what is put together after its
start tag never changes the tags of the elements at the bottom (`Reader.Assembles.rootTags`). So markup that
begins with a start tag has the element of this tag as its root, whatever follows
(`exists_root_of_startTag`).
-/

namespace MarkupQuery.Xml

open MarkupQuery.Text MarkupQuery.Tree

variable {r r' : Reader} {f : Forest} {tag : Tag}

/-! ## The elements at the bottom -/

/-- The tag of an element. -/
def elementTag? : Node → Option Tag
  | .element _ t _ => some t
  | _ => none

/-- Numbering keeps the tags of elements. -/
theorem filterMap_elementTag?_numberAll (next : NodeId) (f : Forest) :
    (numberAll next f).1.filterMap elementTag? = f.filterMap elementTag? := by
  induction f generalizing next with
  | nil => rfl
  | cons n f ih =>
    rw [numberAll, List.filterMap_cons, List.filterMap_cons, ih]
    cases n <;> rfl

/-- The first element has the first tag. -/
theorem rootOf_of_elementTag? {ts : List Tag} (h : f.filterMap elementTag? = tag :: ts) :
    ∃ i cs, rootOf f = some (.element i tag cs) := by
  induction f with
  | nil => cases h
  | cons n f ih =>
    cases n with
    | element i t cs =>
      obtain ⟨rfl, -⟩ := List.cons.inj h
      exact ⟨i, cs, rfl⟩
    | _ => exact ih h

/-- The tags of the elements at the top of a document: of the outermost open one and of the finished ones,
the last first. -/
def Reader.rootTags (r : Reader) : List Tag :=
  (r.frames.map (·.tag)).getLast?.toList ++ r.top.filterMap elementTag?

theorem elementTag?_of_not_isElement {n : Node} (h : n.isElement = false) : elementTag? n = none := by
  cases n with
  | element => cases h
  | _ => rfl

theorem Reader.rootTags_congr (h : r'.built = r.built) : r'.rootTags = r.rootTags := by
  simp only [Reader.built, Prod.mk.injEq] at h
  rw [Reader.rootTags, Reader.rootTags, h.2.1, h.2.2]

theorem Reader.rootTags_add (r : Reader) {n : Node} (hn : n.isElement = false) :
    (r.add n).rootTags = r.rootTags := by
  rw [Reader.add]
  split
  · next g fs hframes => simp only [Reader.rootTags, hframes, List.map_cons]
  · next hframes => simp only [Reader.rootTags, List.filterMap_cons, elementTag?_of_not_isElement hn]

/-- The outermost open element stays at the bottom when it is closed. -/
theorem Reader.rootTags_close (r : Reader) : r.close.rootTags = r.rootTags := by
  rw [Reader.close]
  split
  · next g fs hframes =>
    cases fs with
    | nil => simp [Reader.rootTags, Reader.add, hframes, Frame.node, elementTag?]
    | cons h hs => simp [Reader.rootTags, Reader.add, hframes]
  · rfl

/-- No step adds an element at the bottom or takes one away. -/
theorem Reader.Adds.rootTags (h : r.Adds r') : r'.rootTags = r.rootTags := by
  cases h with
  | same h => exact Reader.rootTags_congr h
  | leaf n hn h => rw [Reader.rootTags_congr h, r.rootTags_add hn]
  | text blanks s hframes h =>
    simp only [Reader.built, Prod.mk.injEq] at h
    simp only [Reader.rootTags, h, hframes, List.map_cons]
  | opens g hframes hg h =>
    simp only [Reader.built, Prod.mk.injEq] at h
    obtain ⟨g', fs, hfs⟩ := List.exists_cons_of_ne_nil hframes
    simp only [Reader.rootTags, h, hfs, List.map_cons, List.getLast?_cons_cons]
  | closes h => rw [Reader.rootTags_congr h, r.rootTags_close]

theorem Reader.Assembles.rootTags (h : r.Assembles r') : r'.rootTags = r.rootTags := by
  induction h with
  | refl => rfl
  | tail _ hstep ih => exact hstep.rootTags.trans ih

/-! ## The root of a document -/

theorem Reader.length_frames_close (r : Reader) : r.close.frames.length = r.frames.length - 1 := by
  rw [Reader.close]
  split
  · next g fs hframes => cases fs <;> simp [Reader.add, hframes]
  · next hframes => simp [hframes]

theorem Reader.frames_closeMany (n : Nat) (r : Reader) (h : r.frames.length ≤ n) :
    (Reader.closeMany n r).frames = [] := by
  induction n generalizing r with
  | zero => exact List.length_eq_zero_iff.mp (Nat.le_zero.mp h)
  | succ n ih => exact ih r.close (by rw [r.length_frames_close]; omega)

/-- The elements at the top of a finished tree. -/
theorem Reader.filterMap_forest (r : Reader) : r.forest.filterMap elementTag? = r.rootTags.reverse := by
  have hclose := (r.assembles_closeMany r.frames.length).rootTags
  rw [Reader.rootTags, r.frames_closeMany _ le_rfl] at hclose
  rw [Reader.forest, List.filterMap_reverse, ← hclose]
  rfl

/-- Markup that begins with a start tag is read by opening its element and reading what follows as the
rest of a document. -/
theorem read_startTag (settings : Settings) (htag : IsReadableTag tag) (s : Chars) :
    ∃ (r : Reader) (u : Chars) (g : Frame), r.input = '<' :: u ∧
      (read settings (writeTag tag ++ '>' :: s) 0).forest = some r.body.forest ∧
      g.tag = rereadTagIn [] tag ∧ g.content = [] ∧ r.startTag.frames = [g] ∧ r.startTag.top = [] ∧
      r.startTag.input = s ∧ r.startTag.entities = [] := by
  obtain ⟨text, htext⟩ : ∃ text, text = writeTag tag ++ '>' :: s := ⟨_, rfl⟩
  obtain ⟨c, u, hname, hc, -⟩ := htag.name.isAnyName
  obtain ⟨w, hw⟩ := writeTag_append tag ('>' :: s)
  have hinput : text = '<' :: c :: (u ++ w) := by rw [htext, hw, hname]; rfl
  let r : Reader := { text, input := text, settings, malformedFrom := 0 }
  obtain ⟨r', ⟨notices, g, hg, -, -, hcontent, rfl⟩, hopens, -⟩ := Reader.opens_startTag (r := r)
    ⟨rfl, rfl, rfl, rfl, rfl, rfl⟩ htag (Nat.zero_le _) (by rfl) htext
  have hread := forest_read hinput settings 0
  rw [Reader.whole_eq_body (r := r) hc hinput rfl, htext] at hread
  rw [← htext] at hread ⊢
  exact ⟨r, c :: (u ++ w), g, hinput, hread, hg, hcontent, by rw [hopens s rfl]; rfl, by rw [hopens s rfl]; rfl,
    by rw [hopens s rfl]; rfl, by rw [hopens s rfl]; rfl⟩

/-- Markup that begins with a start tag has one element at the top, that of this tag, whatever follows. -/
theorem exists_root_of_startTag (settings : Settings) (htag : IsReadableTag tag)
    (hreread : rereadTagIn [] tag = tag) (s : Chars) :
    ∃ f, (read settings (writeTag tag ++ '>' :: s) 0).forest = some f ∧
      f.filterMap elementTag? = [tag] := by
  obtain ⟨r, u, g, hinput, hread, hg, -, hframes, htop, -, -⟩ := read_startTag settings htag s
  have htags : r.startTag.rootTags = [tag] := by
    rw [Reader.rootTags, hframes, htop, ← hreread, ← hg]
    rfl
  exact ⟨r.body.forest, hread, by
    rw [Reader.filterMap_forest, (Reader.assembles_startTag_body hinput).rootTags, htags]; rfl⟩

end MarkupQuery.Xml
