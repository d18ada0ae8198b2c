import MarkupQuery.Proofs.Document.Records
import MarkupQuery.Proofs.Document.Splitting

/-!
# Nodes that no query finds again

Queries stay in the tree that holds what they start from. A node that is in no such tree is lost
(`Document.Lost`): operations take trees apart but never put them together, and what they parse has ids of
its own, so that no later query finds it (`Document.Lost.run`, `Document.Lost.find`). Removing a node from
below the top of a tree loses it, and so does removing the root; what else stands at the top is left alone
(`Document.Reachable.remove_loses`).
-/

namespace MarkupQuery

open MarkupQuery.Text MarkupQuery.Tree MarkupQuery.Query

/-- A node that is in no tree that queries start from. -/
structure Document.Lost (d : Document) (i : NodeId) : Prop where
  used : i < d.nextId
  apart : ∀ f ∈ d.trees, ∀ r ∈ d.starts, r ∈ idsAll f → i ∉ idsAll f

variable {d d' : Document} {i : NodeId}

/-! ## Lost nodes -/

theorem Document.Lost.splits (hi : d.Lost i) (h : d.Splits d') : d'.Lost i where
  used := h.nextId ▸ hi.used
  apart f' hf' r hr hmem := by
    obtain ⟨f, hf, hids⟩ := h.trees f' hf'
    exact fun hi' => hi.apart f hf r (h.starts hr) (hids hmem) (hids hi')

/-- What is parsed has ids of its own. -/
theorem Document.Lost.take (hi : d.Lost i) (hd : d.Sound) {m : CodePoints} {f : Forest} {r : NodeId}
    (h : (d.parse m).tree = some (f, r)) (htrees : d'.trees = (d.take (d.parse m)).trees)
    (hnext : d'.nextId = (d.take (d.parse m)).nextId) (hstarts : d'.starts ⊆ r :: d.starts) :
    d'.Lost i := by
  obtain ⟨ns, hns, -⟩ := parseMarkup_tree h
  have hf : (numberAll d.nextId ns).1 = f := congrArg Prod.fst hns
  have hle : (numberAll d.nextId ns).2 = (d.parse m).nextId := congrArg Prod.snd hns
  constructor
  · rw [hnext, Document.take, h]
    exact Nat.lt_of_lt_of_le hi.used (hle ▸ le_numberAll d.nextId ns)
  · intro g hg s hs hsg hig
    have hmem : g ∈ d.trees ++ [f] := by rwa [htrees, Document.take, h] at hg
    rcases List.mem_append.mp hmem with hold | hnew
    · rcases List.mem_cons.mp (hstarts hs) with rfl | hs
      · have hs : s ∈ d.ids := by
          obtain ⟨n, hn, hsn⟩ := mem_idsAll.mp hsg
          exact mem_idsAll.mpr ⟨n, List.mem_flatten.mpr ⟨g, hold, hn⟩, hsn⟩
        exact absurd (hd.fresh s hs) (Nat.not_lt.mpr (Document.root_parse h).1)
      · exact hi.apart g hold s hs hsg hig
    · obtain rfl := List.mem_singleton.mp hnew
      exact absurd hi.used (Nat.not_lt.mpr (mem_idsAll_numberAll (hf ▸ hig)).1)

/-- No operation brings a lost node back. -/
theorem Document.Lost.perform (hi : d.Lost i) (hd : d.Sound) (op : Operation) :
    (d.perform op).document.Lost i := by
  have hchanges := d.perform_changes op
  generalize (d.perform op).document = d' at hchanges
  cases hchanges with
  | same => exact hi
  | translated => exact ⟨hi.used, hi.apart⟩
  | registered label name out h =>
    cases h with
    | done c s h hcontext =>
      refine ⟨hi.used, fun f hf r hr => hi.apart f hf r ?_⟩
      rw [Document.starts, hcontext]
      exact hr
    | _ => exact ⟨hi.used, hi.apart⟩
  | removed s ss => exact hi.splits (d.splits_detachAll ss)
  | detached h => exact hi.splits (d.splits_detach h.selected)
  | replaced p r out hout h =>
    cases h with
    | failed => exact hi
    | done parsed r spaces log h =>
      obtain ⟨m, f, rfl, htree⟩ := Document.reparsed_some h
      exact hi.take hd htree rfl rfl (by simp [Document.starts])
    | refused parsed r f log h =>
      obtain ⟨m, f, rfl, htree⟩ := Document.reparsed_some h
      refine hi.take hd htree rfl rfl ?_
      simp only [Document.starts, Document.take, htree, Option.toList_some, List.singleton_append]
      exact List.cons_subset_cons r (List.subset_append_right _ _)
  | closed => exact ⟨hi.used, fun f hf r hr => absurd hr List.not_mem_nil⟩

theorem Document.Lost.run (hi : d.Lost i) (hd : d.Reachable) (ops : List Operation) :
    (d.run ops).Lost i := by
  induction ops generalizing d with
  | nil => exact hi
  | cons op ops ih => exact ih (hi.perform hd.sound op) (hd.step op)

/-- What a query finds stands in a tree that queries start from, or in one that a function made. -/
theorem Document.in_or_made_of_find (d : Document) {query : String} {found : List Found}
    (hfind : d.find query = .ok found) {s : Spot} (hs : .spot s ∈ found) :
    s.Made ∨ ∃ f ∈ d.trees, (∃ r ∈ d.starts, r ∈ idsAll f) ∧ s.In f := by
  have hstart {r : NodeId} {t : Spot} (ht : d.spot? r = some t) :
      ∃ f ∈ d.trees, r ∈ idsAll f ∧ t.In f := by
    obtain ⟨f, hf, hspot, hin⟩ := spot?_eq_some ht
    obtain ⟨n, hn, hid, -⟩ := spotIn_eq_some hspot
    exact ⟨f, hf, hin.ids_subset.2 n hn (Node.mem_ids_of_id? hid), hin⟩
  cases Document.finds_of_find hfind with
  | nothing => cases hs
  | root hcontext ht =>
    obtain rfl := Found.spot.inj (List.mem_singleton.mp hs)
    obtain ⟨r, hr, ht⟩ := Option.bind_eq_some_iff.mp ht
    obtain ⟨f, hf, hrf, hin⟩ := hstart ht
    exact .inr ⟨f, hf, ⟨r, by simp [Document.starts, hr], hrf⟩, hin⟩
  | @given c t _ v hcontext ht hv =>
    obtain ⟨f, hf, hrf, hin⟩ := hstart ht
    have hall := all_of_run (Spot.closed_in_or_made f) (.inl hin) (.inr fun s h => .inr h) hv
    rcases all_of_mem_foundIn hall hs with hs | hs
    · exact .inr ⟨f, hf, ⟨c.root, by simp [Document.starts, hcontext], hrf⟩, hs⟩
    · exact .inl hs

/-- Nothing found has the name of a node of a made tree. -/
theorem Query.Spot.Made.isMade {s : Spot} (hs : s.Made) : s.isMade = true := by
  obtain ⟨texts, -, hs⟩ := hs
  obtain ⟨below, hbelow⟩ := hs.offsets_eq
  rw [Spot.isMade, hbelow, madeOffsets, List.getLast?_concat]
  rfl

theorem Found.of_name_node {a : Found} (h : a.name = .node i) :
    ∃ s n, a = .spot s ∧ s.target = .node n ∧ n.id? = some i ∧ s.isMade = false := by
  cases a with
  | scalar t => cases h
  | spot s =>
    refine ⟨s, ?_⟩
    rw [Found.name] at h
    split at h
    · cases h
    · cases h
    · cases h
    · next n hn =>
      split at h
      · next j hj =>
        split at h
        · cases h
        · next hmade =>
          obtain rfl := Selected.node.inj h
          exact ⟨n, rfl, hn, hj, by simpa using hmade⟩
      · split at h <;> cases h

/-- No query finds a lost node. -/
theorem Document.Lost.find (hi : d.Lost i) {query : String} {found : List Found}
    (hfind : d.find query = .ok found) : ∀ a ∈ found, a.name ≠ .node i := by
  rintro a ha hname
  obtain ⟨s, n, rfl, hn, hid, hmade⟩ := Found.of_name_node hname
  rcases d.in_or_made_of_find hfind ha with hs | ⟨f, hf, ⟨r, hr, hrf⟩, hin⟩
  · exact absurd hs.isMade (by simp [hmade])
  · exact hi.apart f hf r hr hrf (hin.ids_subset.2 n hn (Node.mem_ids_of_id? hid))

/-! ## Losing nodes -/

/-- Removing a node loses it if it stands below the top of a tree, or if it is the root. -/
def Document.CanLose (d : Document) (i : NodeId) : Prop := i ∈ idsBelow d.forest ∨ d.root = some i

theorem Document.Sound.used (hd : d.Sound) (hi : d.CanLose i) : i < d.nextId := by
  refine hd.fresh i ?_
  rcases hi with hi | hi
  · exact (idsAll_perm d.forest).mem_iff.mpr (List.mem_append_right _ hi)
  · obtain ⟨n, hn, hid⟩ := hd.rooted i hi
    exact mem_idsAll.mpr ⟨n, hn, Node.mem_ids_of_id? hid⟩

/-- What stands at the top of a tree is left alone. -/
theorem Document.Sound.takeOutNode_top (hd : d.Sound) (hi : i ∉ idsBelow d.forest) :
    d.takeOutNode i = ⟨.ok (), d, []⟩ := by
  have htakes := d.takesOut hd.distinct i
  generalize d.takeOutNode i = out at htakes
  cases htakes with
  | top => rfl
  | out h cs n trees hfill hn hid | stuck h cs n trees hfill hn hid =>
    refine absurd ?_ hi
    rw [hfill, (idsBelow_fill h cs).mem_iff]
    exact List.mem_append_left _ (mem_idsAll.mpr ⟨n, hn, Node.mem_ids_of_id? hid⟩)

/-- A node below the top that is taken out becomes a tree of its own. -/
theorem Document.Sound.takeOutNode_below (hd : d.Sound) (hi : i ∈ idsBelow d.forest)
    (hok : (d.takeOutNode i).result = .ok ()) :
    ∃ h cs n, d.forest = Hole.fill h cs ∧ n ∈ cs ∧ n.id? = some i ∧
      d.takeOutNode i = ⟨.ok (), { d with
        trees := d.trees.map (changeAroundAll i (takeOut i)) ++ [[n.independent]] }, []⟩ := by
  have hlookup := d.lookup i
  rw [Document.takeOutNode] at hok ⊢
  generalize d.spot? i = spot at hlookup hok
  generalize d.siblingsOf? i = siblings at hlookup hok
  cases hlookup with
  | absent hmem => exact absurd ((idsAll_perm d.forest).mem_iff.mpr (List.mem_append_right _ hi)) hmem
  | top s n hs hid hn => exact absurd hi (hd.nodup_top hn hid)
  | inner s n hs hid h cs hn hfill =>
    refine ⟨h, cs, n, hfill, hn, hid, ?_⟩
    dsimp only at hok ⊢
    split at hok
    · cases hok
    · next hjoins =>
      rw [if_neg hjoins, hs]
      rfl

/-- Taking a node out from below the top loses it, and leaves all other nodes below the top there. -/
theorem Document.Sound.takeOutNode_loses (hd : d.Sound) (hanchored : d.Anchored)
    (hi : i ∈ idsBelow d.forest) (hok : (d.takeOutNode i).result = .ok ()) :
    (d.takeOutNode i).document.Lost i ∧
      ∀ j ∈ idsBelow d.forest, j ≠ i → j ∈ idsBelow (d.takeOutNode i).document.forest := by
  obtain ⟨h, cs, n, hfill, hn, hid, hout⟩ := hd.takeOutNode_below hi hok
  have hnodup : (idsAll (h.fill cs)).Nodup := hfill ▸ hd.distinct
  have hmap : (d.changeTrees (changeAroundAll i (takeOut i))).forest = h.fill (takeOut i cs) := by
    rw [d.forest_changeAround, hfill, changeAroundAll_fill hnodup hn hid]
  have hforest : (d.takeOutNode i).document.forest = h.fill (takeOut i cs) ++ [n.independent] := by
    rw [hout, ← hmap, Document.forest, List.flatten_append]
    rfl
  constructor
  · rw [hout] at hforest ⊢
    refine ⟨hd.used (.inl hi), fun f hf r hr hrf hif => ?_⟩
    rcases List.mem_append.mp hf with hf | hf
    · -- ids are distinct, so the node is in no other tree
      have hids : (idsAll (h.fill (takeOut i cs) ++ [n.independent])).Nodup :=
        (idsAll_fill_takeOut hnodup hn hid).nodup_iff.mpr hnodup
      have hi₁ : i ∈ idsAll (h.fill (takeOut i cs)) := by
        obtain ⟨m, hm, him⟩ := mem_idsAll.mp hif
        rw [← hmap]
        exact mem_idsAll.mpr ⟨m, List.mem_flatten.mpr ⟨f, hf, hm⟩, him⟩
      have hi₂ : i ∈ idsAll [n.independent] := by simp [Node.mem_ids_of_id? hid]
      rw [idsAll_append, List.nodup_append] at hids
      exact hids.2.2 i hi₁ i hi₂ rfl
    · -- queries start at the top, so nowhere in what was below the top
      obtain rfl := List.mem_singleton.mp hf
      obtain ⟨m, hm, hmr⟩ := hanchored r hr
      refine hd.nodup_top hm hmr ?_
      have hrn : r ∈ n.ids := by simpa using hrf
      rw [hfill, (idsBelow_fill h cs).mem_iff]
      exact List.mem_append_left _ (mem_idsAll.mpr ⟨n, hn, hrn⟩)
  · intro j hj hji
    rw [hfill, (idsBelow_fill_takeOut hnodup hn hid).mem_iff] at hj
    rw [hforest]
    exact (List.mem_cons.mp hj).resolve_left hji

/-- Detaching a node loses it, or leaves it to be lost later. -/
theorem Document.Sound.detach_loses (hd : d.Sound) (hanchored : d.Anchored) {j : NodeId}
    (hok : (d.detach (.node j)).result = .ok ()) (hi : d.CanLose i) :
    (d.detach (.node j)).document.Lost i ∨ i ≠ j ∧ (d.detach (.node j)).document.CanLose i := by
  by_cases hroot : d.root = some j
  · -- without root there is nothing to start from
    have hempty : d.detach (.node j) = d.install none := by
      rw [Document.detach, hroot, beq_self_eq_true, if_pos rfl]
    rw [hempty]
    exact .inl ⟨hd.used hi, fun f hf r hr => absurd hr List.not_mem_nil⟩
  · rw [Document.detach_node hroot] at hok ⊢
    by_cases hj : j ∈ idsBelow d.forest
    · obtain ⟨hlost, hbelow⟩ := hd.takeOutNode_loses hanchored hj hok
      by_cases hij : i = j
      · exact .inl (hij ▸ hlost)
      · refine .inr ⟨hij, hi.imp (hbelow i · hij) fun hr => ?_⟩
        obtain ⟨h, cs, n, -, -, -, hout⟩ := hd.takeOutNode_below hj hok
        rw [hout, ← hr]
    · have hij : i ≠ j := fun hij => hi.elim (hij ▸ hj) (hij ▸ hroot)
      rw [hd.takeOutNode_top hj]
      exact .inr ⟨hij, hi⟩

theorem Document.Sound.detachAll_loses (hd : d.Sound) (hanchored : d.Anchored) {order : List NodeId}
    (hok : (d.detachAll (order.map .node)).result = .ok ()) :
    ∀ i ∈ order, d.CanLose i → (d.detachAll (order.map .node)).document.Lost i := by
  -- what is not lost when its turn has not come yet can still be lost
  induction order generalizing d with
  | nil => exact nofun
  | cons j order ih =>
    intro i hmem hi
    have hstep := hd.detach_loses hanchored (j := j) (i := i)
    rw [List.map_cons, Document.detachAll] at hok ⊢
    cases hresult : (d.detach (.node j)).result with
    | error f => simp [hresult] at hok
    | ok u =>
      simp only [hresult] at hok ⊢
      rcases hstep hresult hi with hlost | ⟨hij, hi⟩
      · exact hlost.splits (Document.splits_detachAll _ _)
      · exact ih (hd.detach _) (hanchored.splits (d.splits_detach _)) hok i
          ((List.mem_cons.mp hmem).resolve_left hij) hi

/-- Whatever is done after a selector's nodes have been removed, no query finds one of them again that
stood below the top of a tree or was the root. Nodes at the top that are no elements are left alone: they
stay in their tree, and so does whatever else stands at its top. -/
theorem Document.Reachable.remove_loses (hd : d.Reachable) {selector : String} {found : List Found}
    (hfind : d.find selector = .ok found) {ids : List NodeId}
    (hnames : found.map Found.name = ids.map .node) (hok : (d.remove selector).result = .ok ()) :
    (∀ i ∈ ids, i ∈ idsBelow d.forest ∨ d.root = some i →
      ∀ (ops : List Operation) (query : String) (answers : List Found),
        ((d.remove selector).document.run ops).find query = .ok answers →
          ∀ a ∈ answers, a.name ≠ .node i) ∧
    ∀ f ∈ d.trees, ∃ f' ∈ (d.remove selector).document.trees,
      (∀ n ∈ f, n.isElement = false → n ∈ f') ∧ ∀ n ∈ f, ∃ n' ∈ f', n'.id? = n.id? := by
  obtain ⟨hresult, hdocument⟩ := Document.remove_of_find hfind
  have hreachable : (d.remove selector).document.Reachable := hd.step (.remove selector)
  rw [hnames] at hresult hdocument
  rw [hresult] at hok
  constructor
  · intro i hi hlose ops query answers hquery
    have hlost := hd.sound.detachAll_loses hd.anchored hok i hi hlose
    rw [← hdocument] at hlost
    exact (hlost.run hreachable ops).find hquery
  · intro f hf
    obtain ⟨g, hg, hid, hsame⟩ := (d.splits_detachAll (ids.map .node)).top f hf
    rw [← hdocument] at hg
    refine ⟨f.map g, hg, fun n hn helement => ?_, fun n hn => ⟨g n, List.mem_map_of_mem hn, hid n⟩⟩
    rw [← hsame n helement]
    exact List.mem_map_of_mem hn

/-- The node that something found is. -/
def Selected.node? : Selected → Option NodeId
  | .node i => some i
  | _ => none

/-- Where only one node was found, its name is the only one. -/
theorem names_of_node? {xs : List Selected} (h : xs.map Selected.node? = [some i]) : xs = [i].map .node := by
  obtain ⟨x, rfl, hx⟩ := List.map_eq_singleton_iff.mp h
  cases x with
  | node j =>
    obtain rfl := Option.some.inj hx
    rfl
  | _ => cases hx

/-- An element with another one inside, and a comment before the root. -/
theorem remove_loses_inner :
    ∃ d found i, (Opening.run
        { markup := .text (codePoints "<!--c--><r>1<a>2<b/></a>3</r>".toList), kind := .int 1 }).1 = .ok d ∧
      d.find (nameSelector ['a']) = .ok found ∧ found.map Found.name = [i].map .node ∧
      (d.remove (nameSelector ['a'])).result = .ok () ∧ i ∈ idsBelow d.forest ∧
      ∀ ops query answers,
        ((d.remove (nameSelector ['a'])).document.run ops).find query = .ok answers →
          ∀ a ∈ answers, a.name ≠ .node i := by
  obtain ⟨d, hopen, htest⟩ : ∃ d, (Opening.run
      { markup := .text (codePoints "<!--c--><r>1<a>2<b/></a>3</r>".toList), kind := .int 1 }).1 = .ok d ∧
      (d.translator == .path && d.context.any fun c => (d.spot? c.root).isSome && d.trees.all fun f =>
        (idsBelow d.forest).any fun i =>
          ((((Spot.top f).descendants.filter fun t => t.target.isNamed ['a']).map .spot).map Found.name).map
            Selected.node? == [some i] && (d.detachAll [.node i]).result.isOk) = true :=
    Opening.exists_of_gives (by decide +kernel)
  simp only [Bool.and_eq_true, beq_iff_eq, Option.any_eq_true, Option.isSome_iff_exists,
    List.all_eq_true, List.any_eq_true] at htest
  obtain ⟨htranslator, c, hcontext, ⟨s, hs⟩, hall⟩ := htest
  obtain ⟨f, hf, -, hin⟩ := spot?_eq_some hs
  have hfind := Document.find_nameSelector (n := ['a']) (isPlainName_of_span (by decide) (by decide))
    (by rw [htranslator]; rfl) hcontext hs hin
  obtain ⟨i, hbelow, hids, hresult⟩ := hall f hf
  have hnames := names_of_node? hids
  have hok : (d.remove (nameSelector ['a'])).result = .ok () := by
    rw [(Document.remove_of_find hfind).1, hnames]
    cases hdetach : (d.detachAll ([i].map .node)).result with
    | ok u => rfl
    | error e =>
      rw [← List.map_singleton (f := Selected.node), hdetach] at hresult
      cases hresult
  exact ⟨d, _, i, hopen, hfind, hnames, hok, hbelow,
    ((Document.Reachable.opened hopen).remove_loses hfind hnames hok).1 i (List.mem_singleton_self i)
      (.inl hbelow)⟩

/-- The only comment at the top is found by its way from there. -/
theorem Document.find_topComment (htranslator : d.translator = .path) {c : QueryContext}
    (hcontext : d.context = some c) {s t : Spot} (hs : d.spot? c.root = some s) {f : Forest}
    (hin : s.In f)
    (hone : ((Spot.top f).children.filter fun t => NodeKind.comment.holds t.target) = [t]) :
    d.find "/comment()" = .ok [.spot t] := by
  have hroot : evaluate .root { spot := s, spaces := c.spaces, kind := d.kind : Context }
      = .ok (.spots [.top f]) := by rw [evaluate, hin.root_eq]
  have hstep := evaluate_step hroot .child (.kind .comment) rfl
  have hread : Query.read "/comment()".toList = .ok (.step .root .child (.kind .comment) []) := by
    with_unfolding_all rfl
  rw [List.flatMap_singleton] at hstep
  have hspots : ((Axis.child.spots (Spot.top f)).filter fun t =>
      (NodeTest.kind .comment).holds .child none t.target) = [t] := hone
  rw [hspots, inOrder_of_perm (.refl [t]) (List.pairwise_singleton _ t)] at hstep
  have hrun : Query.run d.kind c.spaces s "/comment()".toList = .ok (.spots [t]) := by
    rw [Query.run, hread]
    exact hstep
  have hcomment : NodeKind.comment.holds t.target = true := by
    have ht : t ∈ (Spot.top f).children.filter fun t => NodeKind.comment.holds t.target := by simp [hone]
    exact (List.mem_filter.mp ht).2
  have hconvert : d.translator.convert "/comment()" = .ok "/comment()" := by rw [htranslator]; rfl
  rw [Document.find_of_run hconvert hcontext (by decide) hs (by decide) hrun, foundIn_of_no_document,
    List.map_singleton]
  intro u hu ns hns
  obtain rfl := List.mem_singleton.mp hu
  rw [hns] at hcomment
  cases hcomment

/-- A comment before the root is still found after it has been removed. -/
theorem remove_leaves_comment :
    ∃ d found i, (Opening.run
        { markup := .text (codePoints "<!--c--><r/>".toList), kind := .int 1 }).1 = .ok d ∧
      d.find "/comment()" = .ok found ∧ found.map Found.name = [i].map .node ∧
      (d.remove "/comment()").result = .ok () ∧
      (d.remove "/comment()").document.find "/comment()" = .ok found := by
  obtain ⟨d, hopen, htest⟩ : ∃ d, (Opening.run
      { markup := .text (codePoints "<!--c--><r/>".toList), kind := .int 1 }).1 = .ok d ∧
      (d.translator == .path && d.context.any fun c => (d.spot? c.root).isSome && d.trees.all fun f =>
        (idsAll d.forest).any fun i =>
          ((Spot.top f).children.filter fun t => NodeKind.comment.holds t.target).map
            (fun t => (Found.spot t).name.node?) == [some i] &&
          !(idsBelow d.forest).contains i && d.root != some i) = true :=
    Opening.exists_of_gives (by decide +kernel)
  simp only [Bool.and_eq_true, beq_iff_eq, Option.any_eq_true, Option.isSome_iff_exists,
    List.all_eq_true, List.any_eq_true, Bool.not_eq_true', bne_iff_ne, List.contains_eq_mem,
    decide_eq_false_iff_not] at htest
  obtain ⟨htranslator, c, hcontext, ⟨s, hs⟩, hall⟩ := htest
  obtain ⟨f, hf, -, hin⟩ := spot?_eq_some hs
  obtain ⟨i, -, ⟨hids, hnotBelow⟩, hnotRoot⟩ := hall f hf
  obtain ⟨t, hone, ht⟩ := List.map_eq_singleton_iff.mp hids
  have hnames : [Found.spot t].map Found.name = [i].map .node :=
    names_of_node? (by rw [List.map_singleton, List.map_singleton, ht])
  have hfind := Document.find_topComment htranslator hcontext hs hin hone
  have hsame : d.detachAll ([i].map .node) = ⟨.ok (), d, []⟩ := by
    have hout := (Document.Reachable.opened hopen).sound.takeOutNode_top hnotBelow
    rw [List.map_singleton, Document.detachAll, Document.detach_node hnotRoot, hout]
    rfl
  obtain ⟨hresult, hdocument⟩ := Document.remove_of_find hfind
  rw [hnames, hsame] at hresult hdocument
  exact ⟨d, _, i, hopen, hfind, hnames, hresult, hdocument ▸ hfind⟩

end MarkupQuery
