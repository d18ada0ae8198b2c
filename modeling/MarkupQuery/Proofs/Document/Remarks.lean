import MarkupQuery.Proofs.Document.Finding

/-!
# Comments and instructions

Comments and instructions hold remarks, which are neither elements nor text. A selector for all remarks of a
sort finds them in document order, wherever in the tree they stand (`Document.value_remarks`). The markup of
a document is that of its root. So a rewrite keeps the remarks in the root as they are, even where the tree
around them changes, but loses those that stand beside the root, and this though nothing in the markup
matches the pattern (`Document.Reachable.replace_remarks`).
-/

namespace MarkupQuery

open MarkupQuery.Text MarkupQuery.Tree MarkupQuery.Query MarkupQuery.Xml

/-- A sort of nodes that hold remarks. -/
inductive Remark where
  | comment
  /-- A processing instruction. -/
  | instruction

namespace Remark

variable {k : Remark}

/-! ## Remarks of a tree -/

/-- The kind of nodes of a sort. -/
def kind : Remark → NodeKind
  | .comment => .comment
  | .instruction => .instruction

/-- The selector for all remarks of a sort. -/
def selector : Remark → String
  | .comment => "//comment()"
  | .instruction => "//processing-instruction()"

/-- The text of a node, if it is a remark of a sort. -/
def text? : Remark → Node → Option Chars
  | .comment, .comment _ s => some s
  | .instruction, .instruction _ _ d => some (d.getD [])
  | _, _ => none

mutual

/-- The texts of the remarks of a tree in document order. -/
def textsOf (k : Remark) : Node → List Chars
  | .element _ _ cs => k.textsIn cs
  | n => (k.text? n).toList

/-- The texts of the remarks of trees in document order. -/
def textsIn (k : Remark) : List Node → List Chars
  | [] => []
  | n :: ns => k.textsOf n ++ k.textsIn ns

end

theorem textsIn_append (k : Remark) (ns ms : List Node) :
    k.textsIn (ns ++ ms) = k.textsIn ns ++ k.textsIn ms := by
  induction ns with
  | nil => rfl
  | cons n ns ih => rw [List.cons_append, textsIn, textsIn, ih, List.append_assoc]

/-- Text holds no remarks. -/
theorem textsOf_of_isText (k : Remark) {n : Node} (h : n.isText = true) : k.textsOf n = [] := by
  cases n with
  | text s => cases k <;> rfl
  | section_ s => cases k <;> rfl
  | _ => cases h

/-! ## Remarks of an outline -/

mutual

/-- The texts of the remarks of an outline. -/
def textsOfOutline (k : Remark) : Outline → List Chars
  | .leaf n => (k.text? n).toList
  | .element _ _ c => k.textsInContent c

/-- The texts of the remarks of mixed content. -/
def textsInContent (k : Remark) : Mixed Outline → List Chars
  | .last _ => []
  | .next _ o rest => k.textsOfOutline o ++ k.textsInContent rest

end

theorem textsInContent_prepend (k : Remark) (s : Chars) (m : Mixed Outline) :
    k.textsInContent (m.prepend s) = k.textsInContent m := by
  cases m <;> rfl

mutual

/-- The outline of a tree has its remarks. -/
theorem textsOfOutline_outline (k : Remark) (n : Node) (h : n.isText = false) :
    k.textsOfOutline n.outline = k.textsOf n := by
  cases n with
  | element i t cs => rw [Node.outline, textsOfOutline, textsOf, textsInContent_outlineAll k cs]
  | text s => cases h
  | section_ s => cases h
  | _ => rfl

/-- The outline of trees has their remarks. -/
theorem textsInContent_outlineAll (k : Remark) (ns : List Node) :
    k.textsInContent (outlineAll ns) = k.textsIn ns := by
  cases ns with
  | nil => rfl
  | cons n ns =>
    rw [textsIn, ← textsInContent_outlineAll k ns]
    cases hn : n.isText with
    | true => rw [outlineAll_cons_text hn, textsInContent_prepend, k.textsOf_of_isText hn, List.nil_append]
    | false => rw [outlineAll_cons_node hn, textsInContent, textsOfOutline_outline k n hn]

end

theorem text?_bare (k : Remark) (n : Node) : k.text? n.bare = k.text? n := by
  cases k <;> cases n <;> rfl

theorem text?_rereadLeaf (k : Remark) (n : Node) : k.text? (rereadLeaf n) = k.text? n := by
  cases k <;> cases n <;> rfl

mutual

/-- Ids are no part of remarks. -/
theorem textsOfOutline_bare (k : Remark) (o : Outline) : k.textsOfOutline o.bare = k.textsOfOutline o := by
  cases o with
  | leaf n => rw [Outline.bare, textsOfOutline, textsOfOutline, text?_bare]
  | element i t c => rw [Outline.bare, textsOfOutline, textsOfOutline, textsInContent_bare k c]

/-- Ids are no part of remarks. -/
theorem textsInContent_bare (k : Remark) (m : Mixed Outline) :
    k.textsInContent (bareContent m) = k.textsInContent m := by
  cases m with
  | last t => rfl
  | next t o rest =>
    rw [bareContent, textsInContent, textsInContent, textsOfOutline_bare k o, textsInContent_bare k rest]

end

mutual

/-- Remarks are read back as they are, whatever becomes of the tree around them. -/
theorem textsOfOutline_rereadIn (k : Remark) (scope : List Declaration) (sound : Bool) (o : Outline) :
    k.textsOfOutline (rereadIn scope sound o) = k.textsOfOutline o := by
  cases o with
  | leaf n => rw [rereadIn, textsOfOutline, textsOfOutline, text?_rereadLeaf]
  | element i t c => rw [rereadIn, textsOfOutline, textsOfOutline, textsInContent_rereadContentIn k]

/-- Remarks are read back as they are, whatever becomes of the trees around them. -/
theorem textsInContent_rereadContentIn (k : Remark) (scope : List Declaration) (sound : Bool)
    (m : Mixed Outline) :
    k.textsInContent (rereadContentIn scope sound m) = k.textsInContent m := by
  cases m with
  | last t => rfl
  | next t o rest =>
    rw [rereadContentIn, textsInContent, textsInContent, textsOfOutline_rereadIn k,
      textsInContent_rereadContentIn k]

end

/-- Numbering keeps remarks. -/
theorem textsIn_numberAll (k : Remark) (next : NodeId) (ns : List Node) :
    k.textsIn (numberAll next ns).1 = k.textsIn ns := by
  rw [← textsInContent_outlineAll, ← textsInContent_bare, bare_outlineAll_number, textsInContent_bare,
    textsInContent_outlineAll]

/-! ## Finding remarks -/

/-- The texts of spots that are remarks of a sort. -/
def textsAt (k : Remark) (ss : List Spot) : List Chars :=
  (ss.filter fun s => k.kind.holds s.target).map fun s => (Found.spot s).text

theorem textsAt_append (k : Remark) (ss ts : List Spot) :
    k.textsAt (ss ++ ts) = k.textsAt ss ++ k.textsAt ts := by
  rw [textsAt, List.filter_append, List.map_append, textsAt, textsAt]

theorem textsAt_singleton (k : Remark) (offsets : List Offset) (above : List Target) (n : Node) :
    k.textsAt [⟨.node n, offsets, above⟩] = (k.text? n).toList := by
  cases k <;> cases n <;> rfl

mutual

/-- Of the spots of a subtree the remarks are those of the subtree. -/
theorem textsAt_subtreeSpots (k : Remark) (offsets : List Offset) (above : List Target) (n : Node) :
    k.textsAt (subtreeSpots offsets above n) = k.textsOf n := by
  cases n with
  | element i t cs =>
    rw [subtreeSpots, ← List.singleton_append, textsAt_append, textsAt_singleton,
      textsAt_subtreesSpots k _ _ 0 cs]
    cases k <;> rfl
  | _ =>
    rw [subtreeSpots]
    · exact k.textsAt_singleton offsets above _
    · exact nofun

/-- Of the spots of subtrees the remarks are those of the subtrees. -/
theorem textsAt_subtreesSpots (k : Remark) (offsets : List Offset) (above : List Target) (i : Nat)
    (ns : List Node) : k.textsAt (subtreesSpots offsets above i ns) = k.textsIn ns := by
  cases ns with
  | nil => rfl
  | cons n ns =>
    rw [subtreesSpots, textsAt_append, textsAt_subtreeSpots k _ _ n, textsAt_subtreesSpots k _ _ (i + 1) ns,
      textsIn]

end

/-- The selector of a sort asks for a kind of nodes. -/
theorem selector_spec (k : Remark) :
    ∃ s, IsChildStep s (.kind k.kind) ∧ isMarkupText s = true ∧ k.selector.toList = '/' :: '/' :: s := by
  cases k with
  | comment =>
    refine ⟨"comment()".toList, ⟨⟨'c', "omment()".toList, rfl, by decide⟩, "comment".toList, "()".toList, ?_, ?_⟩,
      by decide, rfl⟩
    · decide +kernel
    · decide +kernel
  | instruction =>
    refine ⟨"processing-instruction()".toList, ⟨⟨'p', "rocessing-instruction()".toList, rfl, by decide⟩,
      "processing-instruction".toList, "()".toList, ?_, ?_⟩, by decide, rfl⟩
    · decide +kernel
    · decide +kernel

end Remark

variable {d : Document} {n : Node}

/-- A document finds all remarks in the tree that holds its root. -/
theorem Document.value_remarks (k : Remark) (hconvert : d.translator.convert k.selector = .ok k.selector)
    {c : QueryContext} (hcontext : d.context = some c) {s : Spot} (hs : d.spot? c.root = some s) {f : Forest}
    (hin : s.In f) : d.value k.selector = .ok (k.textsIn f) := by
  obtain ⟨step, hstep, hmarkup, hselector⟩ := k.selector_spec
  have hfind := Document.find_anywhere hstep rfl hmarkup hselector hconvert hcontext hs hin
  have hall : k.textsAt (Spot.top f).descendants = k.textsIn f := k.textsAt_subtreesSpots [] [.document f] 0 f
  rw [Document.value, hfind, ← hall, Remark.textsAt]
  simp only [bind, Except.bind, List.map_map]
  rfl

/-! ## Rewriting nothing -/

theorem idsAll_flatten (fs : List Forest) : idsAll fs.flatten = (fs.map idsAll).flatten := by
  induction fs with
  | nil => rfl
  | cons f fs ih => rw [List.flatten_cons, idsAll_append, ih, List.map_cons, List.flatten_cons]

/-- The trees of a document have no nodes in common. -/
theorem Document.Sound.tree_unique (hd : d.Sound) {f g : Forest} (hf : f ∈ d.trees) (hg : g ∈ d.trees)
    {i : NodeId} (hfi : i ∈ idsAll f) (hgi : i ∈ idsAll g) : f = g := by
  by_contra hne
  have hdistinct := hd.distinct
  rw [Document.ids, Document.forest, idsAll_flatten, List.nodup_flatten, List.pairwise_map] at hdistinct
  have hsymm : Std.Symm fun f g : Forest => List.Disjoint (idsAll f) (idsAll g) := ⟨fun _ _ h => h.symm⟩
  exact hdistinct.2.forall hf hg hne hfi hgi

/-- A rewrite of a pattern without a match keeps the comments and the instructions in the root of an XML
document in their order and loses those before and after the root. So the same remarks are found afterwards
exactly if there are none beside the root. -/
theorem Document.Reachable.replace_remarks (hd : d.Reachable) (hplain : d.isPlainXml = true)
    (hcoherent : d.Coherent) (hroot : d.rootNode? = some n) (hdeclares : declaresReadably n = true)
    {p : PatternSource} {r : Pattern.Regex} (hp : p.compile = .ok r) (hnone : r.matches d.markup = [])
    {replacement : Replacement} (hvalid : ∃ f, replacement.prepare r = .ok f) :
    ∃ left right, left ++ n :: right ∈ d.trees ∧ (d.replace p replacement).result = .ok () ∧
      ∀ k : Remark, d.translator.convert k.selector = .ok k.selector →
        d.value k.selector = .ok (k.textsIn left ++ (k.textsOf n ++ k.textsIn right)) ∧
        (d.replace p replacement).document.value k.selector = .ok (k.textsOf n) ∧
        ((d.replace p replacement).document.value k.selector = d.value k.selector ↔
          k.textsIn left = [] ∧ k.textsIn right = []) := by
  obtain ⟨helement, -⟩ := hd.lawful_root hplain hroot
  obtain ⟨f, hf, hn, i, s, hi, hs, hin⟩ := hd.tree_of_root hroot
  obtain ⟨left, right, rfl⟩ := List.append_of_mem hn
  obtain ⟨i', spaces, hi', hcontext, -⟩ := hcoherent.context.resolve_left fun h => by
    rw [hi] at h
    cases h.1
  obtain rfl := Option.some.inj (hi.symm.trans hi')
  -- the new tree is what is read of the root, and it is all that is found afterwards
  obtain ⟨g, j, m, hreparsed, htrees, houtline, hm, hmj, -⟩ :=
    hd.reparsed_unmatched hplain hroot hdeclares hp hnone hvalid
  have hafter : (d.replace p replacement).result = .ok () ∧ ∀ k : Remark,
      d.translator.convert k.selector = .ok k.selector →
        (d.replace p replacement).document.value k.selector = .ok (k.textsOf n) := by
    have hreplaces := d.replaces p replacement
    have hreachable := hd.step (.replace p replacement)
    rw [Document.perform_replace] at hreachable
    generalize d.replace p replacement = out at hreplaces hreachable ⊢
    cases hreplaces with
    | failed fault log h => rw [hreparsed] at h; cases h
    | refused parsed j fault log h hfailed =>
      obtain ⟨spaces, hok⟩ := (contextSpaces_ok_iff d.namespaces).mpr hcoherent.usable
      rw [hok] at hfailed
      cases hfailed
    | done parsed j spaces' log h hspaces' =>
      obtain ⟨rfl, rfl⟩ := Prod.mk.inj (Option.some.inj (hreparsed.symm.trans h))
      refine ⟨rfl, fun k hconvert => ?_⟩
      have hmtree : m ∈ ((d.take (d.parse (codePoints d.markup))).trees).flatten :=
        List.mem_flatten.mpr ⟨_, by rw [htrees]; simp, hm⟩
      obtain ⟨f', hf', hmf', j', s', hj', hs', hin'⟩ :=
        hreachable.tree_of_root ((hreachable.sound.rootNode?_eq_some rfl).mpr ⟨hmtree, hmj⟩)
      obtain rfl := Option.some.inj hj'
      obtain rfl := hreachable.sound.tree_unique hf' (by
        show _ ∈ (d.take (d.parse (codePoints d.markup))).trees
        rw [htrees]
        exact List.mem_append_right _ (List.mem_singleton_self _))
        (mem_idsAll.mpr ⟨m, hmf', Node.mem_ids_of_id? hmj⟩) (mem_idsAll.mpr ⟨m, hm, Node.mem_ids_of_id? hmj⟩)
      have htranslator := d.translator_take (d.parse (codePoints d.markup))
      rw [Document.value_remarks k (htranslator ▸ hconvert) rfl hs' hin', Remark.textsIn_numberAll,
        ← Remark.textsInContent_outlineAll, houtline, Remark.textsInContent,
        Remark.textsOfOutline_rereadIn, Remark.textsInContent, List.append_nil,
        Remark.textsOfOutline_outline k n (isText_of_isElement helement)]
  refine ⟨left, right, hf, hafter.1, fun k hconvert => ?_⟩
  have hbefore := Document.value_remarks k hconvert hcontext hs hin
  rw [Remark.textsIn_append, Remark.textsIn] at hbefore
  refine ⟨hbefore, hafter.2 k hconvert, ?_⟩
  rw [hbefore, hafter.2 k hconvert, Except.ok.injEq]
  constructor
  · intro h
    have hlength := congrArg List.length h
    simp only [List.length_append] at hlength
    exact ⟨List.length_eq_zero_iff.mp (by omega), List.length_eq_zero_iff.mp (by omega)⟩
  · rintro ⟨hleft, hright⟩
    rw [hleft, hright, List.append_nil, List.nil_append]

/-- A comment before the root is lost, an instruction in the root is not. -/
theorem replace_remarks_beside :
    ∃ (d : Document) (n : Node) (r : Pattern.Regex), d.Reachable ∧ d.isPlainXml = true ∧ d.Coherent ∧
      d.rootNode? = some n ∧ declaresReadably n = true ∧
      (PatternSource.text "zzz".toList).compile = .ok r ∧ r.matches d.markup = [] ∧
      (∃ f, (Replacement.template []).prepare r = .ok f) ∧
      d.translator.convert (Remark.selector .comment) = .ok (Remark.selector .comment) ∧
      d.translator.convert (Remark.selector .instruction) = .ok (Remark.selector .instruction) ∧
      Remark.textsOf .comment n = [] ∧ Remark.textsOf .instruction n = ["x".toList] ∧
      (d.replace (.text "zzz".toList) (.template [])).document.value (Remark.selector .comment) = .ok [] ∧
      (d.replace (.text "zzz".toList) (.template [])).document.value (Remark.selector .instruction)
        = .ok ["x".toList] := by
  obtain ⟨d, hopen, htest⟩ : ∃ d, (Opening.run
      { markup := .text (codePoints "<!--c--><p:r xmlns:p=\"u\"><?q x?></p:r>".toList)
        kind := .int 1 }).1 = .ok d ∧
      (d.isPlainXml && d.namespaces.isEmpty && d.translator == .path && (d.rootNode?.any fun n =>
          declaresReadably n && Remark.textsOf .comment n == [] &&
            Remark.textsOf .instruction n == ["x".toList]) &&
        (PatternSource.text "zzz".toList).compile.toOption.any fun r =>
          (r.matches d.markup).isEmpty && ((Replacement.template []).prepare r).isOk) = true :=
    Opening.exists_of_gives (by decide +kernel)
  have hd : d.Reachable := .opened hopen
  simp only [Bool.and_eq_true, beq_iff_eq, Option.any_eq_true, List.isEmpty_iff] at htest
  obtain ⟨⟨⟨⟨hplain, hnil⟩, htranslator⟩, n, hroot, ⟨hdeclares, hcomments⟩, hinstructions⟩, r, hp, hnone,
    hvalid⟩ := htest
  have hp := eq_ok_of_toOption hp
  have hvalid := exists_of_isOk hvalid
  have hcoherent := hd.coherent hnil
  have hconvert (k : Remark) : d.translator.convert k.selector = .ok k.selector := by
    rw [htranslator]
    rfl
  obtain ⟨_, _, -, -, hall⟩ := hd.replace_remarks hplain hcoherent hroot hdeclares hp hnone hvalid
  refine ⟨d, n, r, hd, hplain, hcoherent, hroot, hdeclares, hp, hnone, hvalid, hconvert _, hconvert _,
    hcomments, hinstructions, ?_, ?_⟩
  · rw [(hall .comment (hconvert _)).2.1, hcomments]
  · rw [(hall .instruction (hconvert _)).2.1, hinstructions]

/-- What a document finds, if all trees that may hold its root have the same remarks. -/
theorem Document.value_remarks_of_trees {k : Remark} {texts : List Chars}
    (htranslator : d.translator = .path) (htest : (d.context.any fun c => (d.spot? c.root).isSome &&
      d.trees.all fun f => (spotIn f c.root).isNone || k.textsIn f == texts) = true) :
    d.value k.selector = .ok texts := by
  simp only [Option.any_eq_true, Bool.and_eq_true, Option.isSome_iff_exists, List.all_eq_true,
    Bool.or_eq_true, beq_iff_eq] at htest
  obtain ⟨c, hcontext, ⟨s, hs⟩, htrees⟩ := htest
  obtain ⟨f, hf, hspot, hin⟩ := spot?_eq_some hs
  have htexts := (htrees f hf).resolve_left (by rw [hspot]; exact Bool.false_ne_true)
  rw [Document.value_remarks k (by rw [htranslator]; rfl) hcontext hs hin, htexts]

/-- A test of what a document finds: every tree that may hold its root has remarks with these texts. -/
def Document.findsRemarks (d : Document) (k : Remark) (texts : List Chars) : Bool :=
  d.translator == .path && d.context.any fun c => (d.spot? c.root).isSome &&
    d.trees.all fun f => (spotIn f c.root).isNone || k.textsIn f == texts

theorem Document.value_of_findsRemarks {k : Remark} {texts : List Chars} (h : d.findsRemarks k texts = true) :
    d.value k.selector = .ok texts := by
  rw [Document.findsRemarks, Bool.and_eq_true, beq_iff_eq] at h
  exact Document.value_remarks_of_trees h.1 h.2

/-- After a rewrite of nothing the comment before the root is not found any more. -/
theorem replace_loses_comment :
    ∃ d, (Opening.run { markup := .text (codePoints "<!--c--><r/>".toList), kind := .int 1 }).1 = .ok d ∧
      ((PatternSource.text "zzz".toList).compile.toOption.any fun r => (r.matches d.markup).isEmpty) = true ∧
      d.value "//comment()" = .ok ["c".toList] ∧
      (d.replace (.text "zzz".toList) (.template [])).result = .ok () ∧
      (d.replace (.text "zzz".toList) (.template [])).document.value "//comment()" = .ok [] := by
  obtain ⟨d, hopen, htest⟩ : ∃ d,
      (Opening.run { markup := .text (codePoints "<!--c--><r/>".toList), kind := .int 1 }).1 = .ok d ∧
      (let out := d.replace (.text "zzz".toList) (.template [])
      let finds (d : Document) (texts : List Chars) : Bool := d.translator == .path &&
        d.context.any fun c => (d.spot? c.root).isSome &&
          d.trees.all fun f => (spotIn f c.root).isNone || Remark.textsIn .comment f == texts
      ((PatternSource.text "zzz".toList).compile.toOption.any fun r => (r.matches d.markup).isEmpty) &&
        out.result.isOk && finds d ["c".toList] && finds out.document []) = true :=
    Opening.exists_of_gives (by decide +kernel)
  simp only [Bool.and_eq_true, beq_iff_eq] at htest
  obtain ⟨⟨⟨hnone, hok⟩, htranslator, hbefore⟩, htranslator', hafter⟩ := htest
  obtain ⟨⟨⟩, hresult⟩ := exists_of_isOk hok
  exact ⟨d, hopen, hnone, Document.value_remarks_of_trees (k := .comment) htranslator hbefore, hresult,
    Document.value_remarks_of_trees (k := .comment) htranslator' hafter⟩

end MarkupQuery
