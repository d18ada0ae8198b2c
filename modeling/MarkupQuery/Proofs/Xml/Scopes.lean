import MarkupQuery.Proofs.Xml.Assembly
import MarkupQuery.Proofs.Xml.LawfulSurgery

/-!
# Names and the declarations around them

In a tree that was read, every name in a namespace has a prefix that its element or one around it declares,
or the prefix `xml` (`read_scoped`). This stays so whatever is done to the tree: what is taken out of it
declares what it relies on (`isScoped_independent`). So a node of a tree in which nothing is declared is written
by itself as it is written in the tree (`DeclaresNothing.writeAlone_eq`).
-/

namespace MarkupQuery.Xml

open MarkupQuery.Text MarkupQuery.Tree

variable {known known' : List (Option Chars)} {n : Node} {ns ms : List Node}

/-! ## Scoped trees -/

theorem Name.IsCovered.mono {m : Name} (h : Name.IsCovered known m) (hsub : known ⊆ known') :
    Name.IsCovered known' m := by
  obtain h | h | h := h
  · exact .inl h
  · exact .inr (.inl h)
  · exact .inr (.inr (hsub h))

/-- The prefixes that are declared in an element, given those that are declared around it. -/
def prefixesIn (t : Tag) (known : List (Option Chars)) : List (Option Chars) :=
  t.declarations.map (·.1) ++ known

theorem prefixesIn_subset (t : Tag) (hsub : known ⊆ known') :
    prefixesIn t known ⊆ prefixesIn t known' :=
  List.append_subset.mpr ⟨List.subset_append_left _ _,
    List.Subset.trans hsub (List.subset_append_right _ _)⟩

mutual

/-- Whether the names of a tree in a namespace have prefixes that are declared, some of them around it. -/
def IsScoped : List (Option Chars) → Node → Prop
  | known, .element _ t cs =>
      (∀ m ∈ namesOf t, Name.IsCovered (prefixesIn t known) m) ∧ AreScoped (prefixesIn t known) cs
  | _, _ => True

/-- Whether the names of trees in a namespace have prefixes that are declared. -/
def AreScoped : List (Option Chars) → List Node → Prop
  | _, [] => True
  | known, n :: ns => IsScoped known n ∧ AreScoped known ns

end

theorem areScoped_iff : AreScoped known ns ↔ ∀ n ∈ ns, IsScoped known n := by
  induction ns with
  | nil => simp [AreScoped]
  | cons n ns ih => rw [AreScoped, ih, List.forall_mem_cons]

theorem isScoped_of_not_isElement (h : n.isElement = false) : IsScoped known n := by
  cases n with
  | element => cases h
  | _ => trivial

mutual

/-- With more prefixes declared around it a tree is still scoped. -/
theorem IsScoped.mono {known known' : List (Option Chars)} (hsub : known ⊆ known') (n : Node)
    (h : IsScoped known n) : IsScoped known' n := by
  cases n with
  | element i t cs =>
    have hinner := prefixesIn_subset t hsub
    exact ⟨fun m hm => (h.1 m hm).mono hinner, AreScoped.mono hinner cs h.2⟩
  | _ => trivial

theorem AreScoped.mono {known known' : List (Option Chars)} (hsub : known ⊆ known') (ns : List Node)
    (h : AreScoped known ns) : AreScoped known' ns := by
  cases ns with
  | nil => trivial
  | cons n ns => exact ⟨IsScoped.mono hsub n h.1, AreScoped.mono hsub ns h.2⟩

end

mutual

/-- Numbering keeps a tree scoped. -/
theorem IsScoped.number {known : List (Option Chars)} (next : NodeId) (n : Node) (h : IsScoped known n) :
    IsScoped known (n.number next).1 := by
  cases n with
  | element i t cs => exact ⟨h.1, AreScoped.number (next + 1) cs h.2⟩
  | _ => trivial

theorem AreScoped.number {known : List (Option Chars)} (next : NodeId) (ns : List Node)
    (h : AreScoped known ns) : AreScoped known (numberAll next ns).1 := by
  cases ns with
  | nil => trivial
  | cons n ns => exact ⟨IsScoped.number next n h.1, AreScoped.number _ ns h.2⟩

end

/-! ## Changes -/

mutual

/-- Changing one node keeps a tree scoped, if it keeps the node scoped. -/
theorem IsScoped.change (i : NodeId) {f : Node → Node}
    (hf : ∀ known n, IsScoped known n → IsScoped known (f n)) {known : List (Option Chars)} (n : Node)
    (h : IsScoped known n) : IsScoped known (n.change i f) := by
  cases n with
  | element j t cs =>
    have hn : IsScoped known (.element j t (changeAll i f cs)) := ⟨h.1, AreScoped.change i hf cs h.2⟩
    rw [Node.change]
    split
    · exact hf known _ hn
    · exact hn
  | _ =>
    simp only [Node.change]
    split
    · exact hf known _ h
    · exact h

theorem AreScoped.change (i : NodeId) {f : Node → Node}
    (hf : ∀ known n, IsScoped known n → IsScoped known (f n)) {known : List (Option Chars)}
    (ns : List Node) (h : AreScoped known ns) : AreScoped known (changeAll i f ns) := by
  cases ns with
  | nil => trivial
  | cons n ns => exact ⟨IsScoped.change i hf n h.1, AreScoped.change i hf ns h.2⟩

end

mutual

/-- Changing the siblings of a node keeps a tree scoped, if it keeps them scoped. -/
theorem IsScoped.changeAround (i : NodeId) {f : List Node → List Node}
    (hf : ∀ known ns, AreScoped known ns → AreScoped known (f ns)) {known : List (Option Chars)} (n : Node)
    (h : IsScoped known n) : IsScoped known (n.changeAround i f) := by
  cases n with
  | element j t cs =>
    have hcs := AreScoped.changeAround i hf cs h.2
    refine ⟨h.1, ?_⟩
    split
    · exact hf _ _ hcs
    · exact hcs
  | _ => trivial

theorem AreScoped.changeAround (i : NodeId) {f : List Node → List Node}
    (hf : ∀ known ns, AreScoped known ns → AreScoped known (f ns)) {known : List (Option Chars)}
    (ns : List Node) (h : AreScoped known ns) : AreScoped known (changeAroundAll i f ns) := by
  cases ns with
  | nil => trivial
  | cons n ns => exact ⟨IsScoped.changeAround i hf n h.1, AreScoped.changeAround i hf ns h.2⟩

end

/-- Siblings stay scoped if only text is added to them. -/
theorem AreScoped.of_mem (h : AreScoped known ns) (hms : ∀ n ∈ ms, n ∈ ns ∨ n.isText = true) :
    AreScoped known ms := by
  refine areScoped_iff.mpr fun n hn => ?_
  rcases hms n hn with hold | htext
  · exact areScoped_iff.mp h n hold
  · refine isScoped_of_not_isElement ?_
    cases n <;> simp_all [Node.isText, Node.isElement]

theorem IsScoped.clearText (h : IsScoped known n) : IsScoped known n.clearText := by
  cases n with
  | element i t cs => exact ⟨h.1, h.2.of_mem fun n hn => .inl (afterText_subset cs hn)⟩
  | _ => trivial

theorem IsScoped.clearAttribute (name : Chars) (h : IsScoped known n) :
    IsScoped known (n.clearAttribute name) := by
  cases n with
  | element i t cs =>
    refine ⟨fun m hm => h.1 m ?_, h.2⟩
    rcases List.mem_cons.mp hm with rfl | hm
    · exact List.mem_cons_self
    · obtain ⟨a, ha, rfl⟩ := List.mem_map.mp hm
      exact List.mem_cons_of_mem _ (List.mem_map_of_mem (dropAttribute_subset name _ ha))
  | _ => trivial

theorem mem_takeOut {i : NodeId} (hn : n ∈ takeOut i ns) : n ∈ ns ∨ n.isText = true := by
  rw [takeOut] at hn
  split at hn
  · exact .inl (List.append_subset.mpr ⟨before_subset i ns, after_subset i ns⟩ hn)
  · exact .inl (List.append_subset.mpr ⟨before_subset i ns, afterText_after_subset i ns⟩ hn)
  · rcases List.mem_append.mp hn with hn | hn
    · exact .inl (before_subset i ns ((splitEnd_subset _).1 hn))
    · rcases List.mem_cons.mp hn with rfl | hn
      · exact .inr rfl
      · exact .inl (afterText_after_subset i ns hn)

/-! ## Trees that were taken out -/

mutual

/-- A tree is scoped if the prefixes that it lacks are declared around it. -/
theorem isScoped_of_missing {ds : List Declaration} {known : List (Option Chars)} (n : Node)
    (hds : ds.map (·.1) ⊆ known)
    (hmissing : ∀ d ∈ n.missing ds, d.1 = some "xml".toList ∨ d.1 ∈ known) : IsScoped known n := by
  cases n with
  | element i t cs =>
    have hinner : (t.declarations ++ ds).map (·.1) ⊆ prefixesIn t known := by
      rw [List.map_append]
      exact prefixesIn_subset t hds
    rw [Node.missing, List.forall_mem_append] at hmissing
    refine ⟨fun m hm => ?_, areScoped_of_missing cs hinner fun d hd =>
      (hmissing.2 d hd).imp_right (List.mem_append_right _)⟩
    cases hspace : m.space with
    | none => exact .inl hspace
    | some u =>
      have hneeded : (m.label, u) ∈ (t.name :: t.attributes.map (·.name)).filterMap Name.declaration? :=
        List.mem_filterMap.mpr ⟨m, hm, by rw [Name.declaration?, hspace]; rfl⟩
      by_cases hknown : m.label ∈ (t.declarations ++ ds).map (·.1)
      · exact .inr (.inr (hinner hknown))
      · refine .inr ((hmissing.1 (m.label, u) (List.mem_filter.mpr ⟨hneeded, ?_⟩)).imp_right
          (List.mem_append_right _))
        rw [Bool.not_eq_true', ← Bool.not_eq_true, List.any_eq_true]
        rintro ⟨k, hk, heq⟩
        exact hknown (List.mem_map.mpr ⟨k, hk, beq_iff_eq.mp heq⟩)
  | _ => trivial

theorem areScoped_of_missing {ds : List Declaration} {known : List (Option Chars)} (ns : List Node)
    (hds : ds.map (·.1) ⊆ known)
    (hmissing : ∀ d ∈ missingAll ds ns, d.1 = some "xml".toList ∨ d.1 ∈ known) : AreScoped known ns := by
  cases ns with
  | nil => trivial
  | cons n ns =>
    rw [missingAll, List.forall_mem_append] at hmissing
    exact ⟨isScoped_of_missing n hds hmissing.1, areScoped_of_missing ns hds hmissing.2⟩

end

/-- Declarations are added for prefixes that need them. -/
theorem mem_foldl_addDeclaration (more ds : List Declaration) :
    (∀ d ∈ ds, d.1 ∈ (more.foldl addDeclaration ds).map (·.1)) ∧
      ∀ d ∈ more, d.1 = some "xml".toList ∨ d.1 ∈ (more.foldl addDeclaration ds).map (·.1) := by
  induction more generalizing ds with
  | nil => exact ⟨fun d hd => List.mem_map_of_mem hd, nofun⟩
  | cons e more ih =>
    rw [List.foldl_cons]
    obtain ⟨hold, hnew⟩ := ih (addDeclaration ds e)
    have hkept : ds ⊆ addDeclaration ds e := by
      rw [addDeclaration]
      split
      · exact List.Subset.refl ds
      · exact List.subset_append_left ds _
    refine ⟨fun d hd => hold d (hkept hd), List.forall_mem_cons.mpr ⟨?_, hnew⟩⟩
    by_cases hadded : ds.any (·.1 == e.1) || e.1 == some "xml".toList
    · rw [Bool.or_eq_true, List.any_eq_true, beq_iff_eq] at hadded
      obtain ⟨d, hd, heq⟩ | hxml := hadded
      · exact .inr (beq_iff_eq.mp heq ▸ hold d (hkept hd))
      · exact .inl hxml
    · refine .inr (hold e ?_)
      rw [addDeclaration, if_neg hadded]
      exact List.mem_append_right _ (List.mem_singleton_self e)

/-- What is taken out of a tree declares what it relies on. -/
theorem isScoped_independent (n : Node) : IsScoped [] n.independent := by
  cases n with
  | element i t cs =>
    obtain ⟨hold, hnew⟩ := mem_foldl_addDeclaration ((Node.element i t cs).missing []) t.declarations
    have hscoped : IsScoped (((Node.element i t cs).missing []).foldl addDeclaration t.declarations
        |>.map (·.1)) (.element i t cs) := isScoped_of_missing _ (List.nil_subset _) hnew
    -- what the element itself declares counts as declared around it
    have hsub : prefixesIn t (((Node.element i t cs).missing []).foldl addDeclaration t.declarations
        |>.map (·.1)) ⊆ (((Node.element i t cs).missing []).foldl addDeclaration t.declarations
        |>.map (·.1)) ++ [] := by
      rw [List.append_nil]
      refine List.append_subset.mpr ⟨fun l hl => ?_, List.Subset.refl _⟩
      obtain ⟨d, hd, rfl⟩ := List.mem_map.mp hl
      exact hold d hd
    exact ⟨fun m hm => (hscoped.1 m hm).mono hsub, hscoped.2.mono hsub cs⟩
  | _ => trivial

/-! ## Reading -/

section Reading

variable {r r' : Reader} {f : Frame} {fs : List Frame} {outer : List Declaration}

/-- An open element whose names, and those of what stands in it, have prefixes that are declared. -/
structure Frame.IsScoped (f : Frame) (outer : List Declaration) : Prop where
  scope : f.scope = f.tag.declarations.reverse ++ outer
  names : ∀ m ∈ namesOf f.tag, Name.IsCovered (f.scope.map (·.1)) m
  content : AreScoped (f.scope.map (·.1)) f.content

/-- The namespaces in scope in the first of some open elements. -/
def scopeOf (fs : List Frame) : List Declaration := (fs.head?.map (·.scope)).getD []

/-- Open elements that are all scoped, the innermost first. -/
def AreScopedFrames : List Frame → Prop
  | [] => True
  | f :: fs => f.IsScoped (scopeOf fs) ∧ AreScopedFrames fs

/-- A reader that has built scoped trees. -/
structure Reader.IsScoped (r : Reader) : Prop where
  frames : AreScopedFrames r.frames
  top : AreScoped [] r.top

theorem Frame.IsFresh.isScoped (h : f.IsFresh outer) : f.IsScoped outer :=
  ⟨h.scope, h.names, by rw [h.content]; trivial⟩

/-- An open element that is scoped becomes a scoped node. -/
theorem Frame.IsScoped.node (h : f.IsScoped outer) : Xml.IsScoped (outer.map (·.1)) f.node := by
  have hsub : f.scope.map (·.1) ⊆ prefixesIn f.tag (outer.map (·.1)) := by
    rw [h.scope, List.map_append, prefixesIn, List.map_reverse]
    exact List.append_subset.mpr ⟨fun l hl => List.mem_append_left _ (List.mem_reverse.mp hl),
      List.subset_append_right _ _⟩
  refine ⟨fun m hm => (h.names m hm).mono hsub, areScoped_iff.mpr fun n hn => ?_⟩
  exact (areScoped_iff.mp h.content n (List.mem_reverse.mp hn)).mono hsub n

theorem Reader.IsScoped.of_built (h : r.IsScoped) (heq : r'.built = r.built) : r'.IsScoped := by
  simp only [Reader.built, Prod.mk.injEq] at heq
  exact ⟨heq.2.1 ▸ h.frames, heq.2.2 ▸ h.top⟩

theorem Reader.IsScoped.add (h : r.IsScoped) (hn : Xml.IsScoped ((scopeOf r.frames).map (·.1)) n) :
    (r.add n).IsScoped := by
  have hframes := h.frames
  rw [Reader.add]
  split
  · next f fs hfs =>
    rw [hfs] at hframes hn
    exact ⟨⟨⟨hframes.1.scope, hframes.1.names, hn, hframes.1.content⟩, hframes.2⟩, h.top⟩
  · next hfs =>
    rw [hfs] at hn
    exact ⟨hframes, hn, h.top⟩

theorem Reader.IsScoped.close (h : r.IsScoped) : r.close.IsScoped := by
  have hframes := h.frames
  rw [Reader.close]
  split
  · next f fs hfs =>
    rw [hfs] at hframes
    have hrest : ({ r with frames := fs } : Reader).IsScoped := ⟨hframes.2, h.top⟩
    exact hrest.add hframes.1.node
  · exact h

theorem areScoped_addText (s : Chars) (h : AreScoped known ns) : AreScoped known (addText s ns) := by
  unfold addText
  split
  · exact ⟨trivial, h.2⟩
  · exact ⟨trivial, h⟩

/-- Whatever is added to scoped trees, they stay scoped. -/
theorem Reader.Adds.isScoped (h : r.Adds r') (hr : r.IsScoped) : r'.IsScoped := by
  cases h with
  | same h => exact hr.of_built h
  | leaf n hn h => exact (hr.add (isScoped_of_not_isElement hn)).of_built h
  | @text f fs blanks s hframes h =>
    simp only [Reader.built, Prod.mk.injEq] at h
    have hfs := hr.frames
    rw [hframes] at hfs
    refine ⟨?_, h.2.2 ▸ hr.top⟩
    rw [h.2.1]
    exact ⟨⟨hfs.1.scope, hfs.1.names, areScoped_addText s hfs.1.content⟩, hfs.2⟩
  | opens f hframes hf h =>
    simp only [Reader.built, Prod.mk.injEq] at h
    refine ⟨?_, h.2.2 ▸ hr.top⟩
    rw [h.2.1]
    exact ⟨hf.isScoped, hr.frames⟩
  | closes h => exact hr.close.of_built h

theorem Reader.Assembles.isScoped (h : r.Assembles r') (hr : r.IsScoped) : r'.IsScoped := by
  induction h with
  | refl => exact hr
  | tail _ hstep ih => exact hstep.isScoped ih

/-- The start tag of a root opens a scoped element. -/
theorem Reader.IsScoped.startTag (hr : r.IsScoped) : r.startTag.IsScoped := by
  obtain h | ⟨f, r₁, hf, h₁, h⟩ := r.startTag_starts.opens
  · exact hr.of_built h
  · simp only [Reader.built, Prod.mk.injEq] at h₁
    have hopened : r₁.IsScoped := ⟨by rw [h₁.2.1]; exact ⟨hf.isScoped, hr.frames⟩, h₁.2.2 ▸ hr.top⟩
    obtain h | h := h
    · exact hopened.of_built h
    · exact hopened.close.of_built h

/-- Whatever text is read with whatever settings, the tree that comes out is scoped. -/
theorem read_scoped {settings : Settings} {text : Chars} {malformedFrom : Nat} {f : Forest}
    (h : (read settings text malformedFrom).forest = some f) : AreScoped [] f := by
  unfold read at h
  extract_lets input start at h
  have hstart : start.IsScoped := ⟨trivial, trivial⟩
  clear_value start
  split at h
  · cases h
  obtain rfl := Option.some.inj h
  have hwhole : start.whole.IsScoped := by
    obtain h | ⟨r, h, h'⟩ := start.assembles_whole
    · exact h.isScoped hstart
    · exact h'.isScoped (h.isScoped hstart).startTag
  have hclosed := (start.whole.assembles_closeMany start.whole.frames.length).isScoped hwhole
  exact areScoped_iff.mpr fun n hn => areScoped_iff.mp hclosed.top n (List.mem_reverse.mp hn)

end Reading

/-! ## Trees in which nothing is declared -/

mutual

/-- Whether a tree declares no namespaces. -/
def lacksDeclarations : Node → Bool
  | .element _ t cs => t.declarations.isEmpty && lackDeclarations cs
  | _ => true

/-- Whether trees declare no namespaces. -/
def lackDeclarations : List Node → Bool
  | [] => true
  | n :: ns => lacksDeclarations n && lackDeclarations ns

end

theorem lackDeclarations_iff : lackDeclarations ns = true ↔ ∀ n ∈ ns, lacksDeclarations n = true := by
  induction ns with
  | nil => simp [lackDeclarations]
  | cons n ns ih => rw [lackDeclarations, Bool.and_eq_true, ih, List.forall_mem_cons]

/-- A tree that declares no namespaces and needs none. -/
structure DeclaresNothing (n : Node) : Prop where
  covered : IsScoped [] n
  lacks : lacksDeclarations n = true

theorem DeclaresNothing.declarations {i : NodeId} {t : Tag} {cs : List Node}
    (h : DeclaresNothing (.element i t cs)) : t.declarations = [] := by
  have hlacks := h.lacks
  rw [lacksDeclarations, Bool.and_eq_true, List.isEmpty_iff] at hlacks
  exact hlacks.1

theorem DeclaresNothing.children (n : Node) (h : DeclaresNothing n) :
    ∀ m ∈ n.children, DeclaresNothing m := by
  cases n with
  | element i t cs =>
    intro m hm
    have hscoped := h.covered.2
    have hlacks := h.lacks
    rw [prefixesIn, h.declarations] at hscoped
    rw [lacksDeclarations, Bool.and_eq_true] at hlacks
    exact ⟨areScoped_iff.mp hscoped m hm, lackDeclarations_iff.mp hlacks.2 m hm⟩
  | _ => exact nofun

/-- A tag whose names need no declaration but its own declares no more if it stands by itself. -/
theorem selfContained_eq {ancestors : List Tag} {t : Tag} (habove : ∀ u ∈ ancestors, u.declarations = [])
    (hnames : ∀ m ∈ namesOf t, Name.IsCovered (prefixesIn t []) m) (i : NodeId) (cs : List Node) :
    selfContained ancestors (.element i t cs) = .element i t cs := by
  have hneeded : ∀ d ∈ neededDeclarations t, addDeclaration t.declarations d = t.declarations := by
    intro d hd
    obtain ⟨m, hm, hmd⟩ := List.mem_filterMap.mp hd
    rw [Name.declaration?, Option.map_eq_some_iff] at hmd
    obtain ⟨u, hu, rfl⟩ := hmd
    rw [addDeclaration, if_pos]
    rw [Bool.or_eq_true, List.any_eq_true, beq_iff_eq]
    obtain h | h | h := hnames m hm
    · rw [h] at hu
      cases hu
    · exact .inr h
    · rw [prefixesIn, List.append_nil, List.mem_map] at h
      obtain ⟨d, hd, hlabel⟩ := h
      exact .inl ⟨d, hd, beq_iff_eq.mpr hlabel⟩
  have hnothing (more : List Declaration) (ds : List Declaration)
      (hmore : ∀ d ∈ more, addDeclaration ds d = ds) : more.foldl addDeclaration ds = ds := by
    induction more with
    | nil => rfl
    | cons d more ih =>
      rw [List.forall_mem_cons] at hmore
      rw [List.foldl_cons, hmore.1, ih hmore.2]
  rw [selfContained, List.flatMap_eq_nil_iff.mpr habove, List.append_nil, hnothing _ _ hneeded]

/-- An element whose names it declares itself, or nothing around it, is written as it stands at the top. -/
theorem writeAlone_of_isScoped (h : IsScoped [] n) : writeAlone [] n = writeNode n := by
  cases n with
  | element i t cs => rw [writeAlone, selfContained_eq (fun u hu => absurd hu List.not_mem_nil) h.1]
  | _ => rfl

/-- A node that needs no declarations is written by itself as it is written in its tree. -/
theorem DeclaresNothing.writeAlone_eq {ancestors : List Tag}
    (habove : ∀ u ∈ ancestors, u.declarations = []) (h : DeclaresNothing n) :
    writeAlone ancestors n = writeNode n := by
  cases n with
  | element i t cs => rw [writeAlone, selfContained_eq habove h.covered.1]
  | _ => rfl

end MarkupQuery.Xml
