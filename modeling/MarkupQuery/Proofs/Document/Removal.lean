import MarkupQuery.Proofs.Document.Soundness

/-!
# Removing from documents

Nodes below the root of a document are removed exactly: what comes out is the root's tree with all
of them deleted at once and the texts that become adjacent joined, whatever the order in which they
are detached. The one exception is text that may not stand in a tree once it is put together anew: a
parser lets characters in that a tree refuses later, and removing then fails.
-/

namespace MarkupQuery

open MarkupQuery.Text MarkupQuery.Tree MarkupQuery.Query

/-! ## The root as a node -/

/-- The root of a document as a node. -/
def Document.rootNode? (d : Document) : Option Node :=
  d.rootSpot?.bind fun s =>
    match s.target with
    | .node n => some n
    | _ => none

variable {d : Document}

theorem Document.Sound.nodup_top (hd : d.Sound) {n : Node} {i : NodeId} (hn : n ∈ d.forest)
    (hi : n.id? = some i) : i ∉ idsBelow d.forest := by
  intro hmem
  obtain ⟨m, hm, him⟩ := mem_idsBelow.mp hmem
  exact not_mem_children_of_top hd.distinct hn hi hm him

/-- The root of a document is the node at the top that carries its id. -/
theorem Document.Sound.rootNode?_eq_some (hd : d.Sound) {r : NodeId} (hroot : d.root = some r)
    {n : Node} : d.rootNode? = some n ↔ n ∈ d.forest ∧ n.id? = some r := by
  obtain ⟨m, hm, hmi⟩ := hd.rooted r hroot
  have honly {k : Node} (hk : k ∈ d.forest) (hki : k.id? = some r) : k = m :=
    eq_of_mem_ids hd.distinct hk hm (Node.mem_ids_of_id? hki) (Node.mem_ids_of_id? hmi)
  have hfound : d.rootNode? = some m := by
    rw [Document.rootNode?, Document.rootSpot?, hroot, Option.bind_some]
    have hlookup := d.lookup r
    generalize d.spot? r = spot at hlookup
    generalize d.siblingsOf? r = siblings at hlookup
    cases hlookup with
    | absent hi => exact absurd (mem_idsAll.mpr ⟨m, hm, Node.mem_ids_of_id? hmi⟩) hi
    | top s k hs hi hk => simp [hs, honly hk hi]
    | inner s k hs hi h cs hk hfill =>
      refine absurd ?_ (hd.nodup_top hm hmi)
      rw [hfill, (idsBelow_fill h cs).mem_iff]
      exact List.mem_append_left _ (mem_idsAll.mpr ⟨k, hk, Node.mem_ids_of_id? hi⟩)
  rw [hfound, Option.some.injEq]
  constructor
  · rintro rfl
    exact ⟨hm, hmi⟩
  · rintro ⟨hn, hi⟩
    exact (honly hn hi).symm

theorem Document.root_of_rootNode? {n : Node} (h : d.rootNode? = some n) :
    ∃ r, d.root = some r := by
  cases hroot : d.root with
  | none => simp [Document.rootNode?, Document.rootSpot?, hroot] at h
  | some r => exact ⟨r, rfl⟩

/-! ## Removing -/

/-- Texts that meet where nodes below the root go can be joined if those in the root's tree can. -/
theorem Document.Sound.mendsAll_forest (hd : d.Sound) {root : Node} (hroot : root ∈ d.forest)
    {ids : List NodeId} (hids : ∀ i ∈ ids, i ∈ idsAll root.children) :
    mendsAll ids d.forest = root.outline.mends ids := by
  rw [Bool.eq_iff_iff, mendsAll, List.all_eq_true]
  refine ⟨fun h => h root hroot, fun h n hn => ?_⟩
  -- in no other tree does a node go
  by_cases hnr : n = root
  · rw [hnr, h]
  · refine n.mends_outline_self fun i hi hgone => hnr ?_
    have hbelow {m : Node} (hm : i ∈ idsAll m.children) : i ∈ m.ids := by
      rw [m.ids_eq]
      exact List.mem_append_right _ hm
    exact eq_of_mem_ids hd.distinct hn hroot (hbelow hi) (hbelow (hids i hgone))

/-- Detaching nodes below the root, in any order, deletes exactly them, or fails if texts that meet
cannot be joined. -/
theorem Document.Sound.detachAll_exact (hd : d.Sound) {root : Node}
    (hroot : d.rootNode? = some root) {ids order : List NodeId}
    (hids : ∀ i ∈ ids, i ∈ idsAll root.children) (horder : order.Perm ids) :
    (root.outline.mends ids = true ∧ ∃ d' root',
      d.detachAll (order.map .node) = ⟨.ok (), d', []⟩ ∧ d' = { d with trees := d'.trees } ∧
      d'.rootNode? = some root' ∧ root'.outline = root.outline.prune ids ∧
      ∀ i ∈ ids, i ∉ root'.ids) ∨
    (root.outline.mends ids = false ∧ ∃ trees,
      d.detachAll (order.map .node) = ⟨.error .notMarkupText, { d with trees }, []⟩) := by
  obtain ⟨r, hr⟩ := Document.root_of_rootNode? hroot
  obtain ⟨hmem, hid⟩ := (hd.rootNode?_eq_some hr).mp hroot
  -- the root is not below itself, so detaching never empties the document
  have hgoes : ∀ i ∈ order, i ∈ ids ∧ d.root ≠ some i := by
    intro i hi
    refine ⟨horder.mem_iff.mp hi, fun hri => ?_⟩
    obtain rfl := Option.some.inj (hr.symm.trans hri)
    exact hd.nodup_top hmem hid (mem_idsBelow.mpr ⟨root, hmem, hids r (horder.mem_iff.mp hi)⟩)
  have hdetach := Document.detachAll_goes order hd.distinct hgoes
    fun i hi _ => horder.mem_iff.mpr hi
  rw [hd.mendsAll_forest hmem hids] at hdetach
  refine hdetach.imp (And.imp_right ?_) id
  rintro ⟨d', hd', hpruned⟩
  obtain ⟨root', hmem', hid', houtline⟩ := hpruned.outline root hmem
  have hsound' : d'.Sound := by
    have h := hd.detachAll (order.map .node)
    rwa [hd'] at h
  have hr' : d'.root = some r := by rw [hpruned.rest, hr]
  have hroot' := (hsound'.rootNode?_eq_some hr').mpr ⟨hmem', hid'.trans hid⟩
  refine ⟨d', root', hd', hpruned.rest, hroot', houtline, fun i hi hmem'' => ?_⟩
  rw [root'.ids_eq, hid', hid, Option.toList_some, List.mem_append, List.mem_singleton] at hmem''
  rcases hmem'' with rfl | hbelow
  · exact (hgoes i (horder.mem_iff.mpr hi)).2 hr
  · exact hpruned.below i hi (mem_idsBelow.mpr ⟨root', hmem', hbelow⟩)

/-- Removing nodes below the root is exact tree surgery, in whatever order they are detached: if all
texts that meet can be joined, the root's tree has exactly these nodes deleted and nothing else of
the document changes but its trees; otherwise removing fails. Removing what a selector finds is
detaching it. -/
theorem Document.Reachable.removal_exact (hd : d.Reachable) {root : Node}
    (hroot : d.rootNode? = some root) {ids order : List NodeId}
    (hids : ∀ i ∈ ids, i ∈ idsAll root.children) (horder : order.Perm ids) :
    ((root.outline.mends ids = true ∧ ∃ d' root',
        d.detachAll (order.map .node) = ⟨.ok (), d', []⟩ ∧ d' = { d with trees := d'.trees } ∧
        d'.rootNode? = some root' ∧ root'.outline = root.outline.prune ids ∧
        ∀ i ∈ ids, i ∉ root'.ids) ∨
      (root.outline.mends ids = false ∧ ∃ trees,
        d.detachAll (order.map .node) = ⟨.error .notMarkupText, { d with trees }, []⟩)) ∧
    ∀ selector found, d.find selector = .ok found → found.map Found.name = order.map .node →
      (d.remove selector).result = (d.detachAll (order.map .node)).result ∧
        (d.remove selector).document = (d.detachAll (order.map .node)).document := by
  refine ⟨hd.sound.detachAll_exact hroot hids horder, fun selector found hfind hnames => ?_⟩
  rw [← hnames]
  exact Document.remove_of_find hfind

/-- A match below another match, both with text around them, the inner one detached first. -/
theorem removal_exact_nested :
    ∃ d root d' root',
      (Opening.run { markup := .text (codePoints "<r>t<a>1<c/>2</a>u<b/>v<d/>w</r>".toList)
                     kind := .int 1 }).1 = .ok d ∧
      d.rootNode? = some root ∧ (∀ i ∈ [2, 3, 4], i ∈ idsAll root.children) ∧
      d.detachAll ([3, 4, 2].map .node) = ⟨.ok (), d', []⟩ ∧ d'.rootNode? = some root' ∧
      root'.outline = root.outline.prune [2, 3, 4] := by
  obtain ⟨d, hopen, htest⟩ : ∃ d,
      (Opening.run { markup := .text (codePoints "<r>t<a>1<c/>2</a>u<b/>v<d/>w</r>".toList)
                     kind := .int 1 }).1 = .ok d ∧
      (d.rootNode?.any fun n =>
        idsAll n.children == [2, 3, 4, 5] && n.outline.mends [2, 3, 4]) = true :=
    Opening.exists_of_gives (by decide +kernel)
  cases hroot : d.rootNode? with
  | none => simp [hroot] at htest
  | some root =>
    rw [hroot, Option.any_some, Bool.and_eq_true, beq_iff_eq] at htest
    have hids : ∀ i ∈ [2, 3, 4], i ∈ idsAll root.children := by
      rw [htest.1]
      decide
    have horder : [3, 4, 2].Perm [2, 3, 4] := by decide
    rcases ((Document.Reachable.opened hopen).removal_exact hroot hids horder).1
      with ⟨-, d', root', hd', -, hroot', houtline, -⟩ | ⟨hmends, -⟩
    · exact ⟨d, root, d', root', hopen, hroot, hids, hd', hroot', houtline⟩
    · exact absurd htest.2 (by simp [hmends])

/-- The parser lets a control character in that the tree refuses later: the matched element stays,
and the text before it is lost. -/
theorem detachAll_refuses_control_character :
    Opening.gives { markup := .text (codePoints "<p>a<b>x</b>&#1;t</p>".toList) } (fun d =>
      d.markup == "<html><body><p>a<b>x</b>\x01t</p></body></html>".toList &&
      !(d.detachAll [.node 4]).result.isOk &&
      (d.detachAll [.node 4]).document.markup
        == "<html><body><p><b>x</b>\x01t</p></body></html>".toList) = true := by
  decide +kernel

end MarkupQuery
