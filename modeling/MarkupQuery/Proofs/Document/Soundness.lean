import MarkupQuery.Proofs.Document.Detaching
import MarkupQuery.Proofs.Document.Operation

/-!
# Sound documents

In every reachable document no two nodes share an id, every id is below the next free one, and the
root stands at the top of a tree. Parsing hands out fresh ids, and changing trees neither makes ids
nor loses them.
-/

namespace MarkupQuery

open MarkupQuery.Text MarkupQuery.Tree MarkupQuery.Query

/-! ## Soundness -/

/-- A document whose ids name its nodes. -/
structure Document.Sound (d : Document) : Prop where
  distinct : d.ids.Nodup
  fresh : ∀ i ∈ d.ids, i < d.nextId
  rooted : ∀ r, d.root = some r → ∃ n ∈ d.forest, n.id? = some r

variable {d d' : Document}

/-- A change that keeps all ids, those at the top there, keeps a document sound. -/
theorem Document.Sound.of_perm (hd : d.Sound) (hids : d'.ids.Perm d.ids)
    (hnext : d'.nextId = d.nextId) (hroot : d'.root = d.root ∨ d'.root = none)
    (htop : ∀ n ∈ d.forest, ∃ n' ∈ d'.forest, n'.id? = n.id?) : d'.Sound where
  distinct := hids.nodup_iff.mpr hd.distinct
  fresh i hi := hnext ▸ hd.fresh i (hids.mem_iff.mp hi)
  rooted r hr := by
    rcases hroot with hsame | hnone
    · obtain ⟨n, hn, hid⟩ := hd.rooted r (hsame ▸ hr)
      obtain ⟨n', hn', hid'⟩ := htop n hn
      exact ⟨n', hn', hid'.trans hid⟩
    · rw [hnone] at hr
      cases hr

/-- Whatever does not touch the trees keeps a document sound. -/
theorem Document.Sound.of_trees (hd : d.Sound) (htrees : d'.trees = d.trees)
    (hnext : d'.nextId = d.nextId) (hroot : d'.root = d.root ∨ d'.root = none) : d'.Sound := by
  have hforest : d'.forest = d.forest := by rw [Document.forest, htrees, Document.forest]
  refine hd.of_perm ?_ hnext hroot fun n hn => ⟨n, hforest ▸ hn, rfl⟩
  rw [Document.ids, hforest, Document.ids]

/-- The trees may be changed node by node as long as ids stay. -/
theorem Document.Sound.changeTrees (hd : d.Sound) {f : Node → Node}
    (hids : ∀ n, (f n).ids = n.ids) (htop : ∀ n, (f n).id? = n.id?) :
    (d.changeTrees (List.map f)).Sound := by
  refine hd.of_perm ?_ rfl (.inl rfl) fun n hn => ?_
  · rw [Document.ids, Document.forest_changeTrees, idsAll_map hids, Document.ids]
  · refine ⟨f n, ?_, htop n⟩
    rw [Document.forest_changeTrees]
    exact List.mem_map_of_mem hn

/-! ## Installing trees -/

theorem le_numberAll (next : NodeId) (ns : List Node) : next ≤ (numberAll next ns).2 := by
  obtain ⟨k, hnext, -⟩ := ids_numberAll next ns
  rw [hnext]
  exact Nat.le_add_right next k

/-- What is taken in gets ids of its own. -/
theorem Document.Sound.take (hd : d.Sound) (m : CodePoints) : (d.take (d.parse m)).Sound := by
  cases htree : (d.parse m).tree with
  | none =>
    rw [Document.take, htree]
    exact hd
  | some tree =>
    obtain ⟨f, r⟩ := tree
    obtain ⟨ns, hns, -⟩ := parseMarkup_tree htree
    have hf : (numberAll d.nextId ns).1 = f := congrArg Prod.fst hns
    have hnext : (numberAll d.nextId ns).2 = (d.parse m).nextId := congrArg Prod.snd hns
    have hids : (d.take (d.parse m)).ids = d.ids ++ idsAll f := by
      rw [Document.take, htree, Document.ids, Document.forest, Document.ids, Document.forest]
      simp
    have hbound : ∀ i ∈ idsAll f, d.nextId ≤ i ∧ i < (d.parse m).nextId := by
      intro i hi
      rw [← hf] at hi
      exact hnext ▸ mem_idsAll_numberAll hi
    have htake : (d.take (d.parse m)).nextId = (d.parse m).nextId := by rw [Document.take, htree]
    constructor
    · -- the new ids begin where the old ones end
      rw [hids, List.nodup_append]
      refine ⟨hd.distinct, hf ▸ nodup_idsAll_numberAll d.nextId ns, ?_⟩
      intro i hi j hj hij
      have hlow := (hbound j hj).1
      exact absurd (hij ▸ hd.fresh i hi) (Nat.not_lt.mpr hlow)
    · intro i hi
      rw [htake]
      rw [hids, List.mem_append] at hi
      rcases hi with hi | hi
      · exact Nat.lt_of_lt_of_le (hd.fresh i hi) (hnext ▸ le_numberAll d.nextId ns)
      · exact (hbound i hi).2
    · -- the root is the old one until the new tree is installed
      intro i hi
      rw [Document.take, htree] at hi
      obtain ⟨n, hn, hid⟩ := hd.rooted i hi
      refine ⟨n, ?_, hid⟩
      rw [Document.take, htree]
      simp only [Document.forest, List.flatten_append, List.mem_append]
      exact .inl hn

/-- Any root at the top may be installed. -/
theorem Document.Sound.installs (hd : d.Sound) {root : Option NodeId} {out : Outcome Unit}
    (h : d.Installs root out) (hroot : ∀ r, root = some r → ∃ n ∈ d.forest, n.id? = some r) :
    out.document.Sound := by
  cases h with
  | empty => exact ⟨hd.distinct, hd.fresh, hroot⟩
  | full r spaces h => exact ⟨hd.distinct, hd.fresh, hroot⟩
  | refused r f h => exact ⟨hd.distinct, hd.fresh, hroot⟩

/-! ## Detaching -/

theorem Document.Sound.changeAll (hd : d.Sound) (i : NodeId) {f : Node → Node}
    (hids : ∀ n, (f n).ids = n.ids) (htop : ∀ n, (f n).id? = n.id?) :
    (d.changeTrees (changeAll i f)).Sound := by
  rw [changeAll_eq_map]
  exact hd.changeTrees (Node.ids_change hids) (Node.id?_change htop)

theorem Document.Sound.changeAround (hd : d.Sound) (i : NodeId) {f : List Node → List Node}
    (hids : ∀ ns, idsAll (f ns) = idsAll ns) : (d.changeTrees (changeAroundAll i f)).Sound := by
  rw [changeAroundAll_eq_map]
  exact hd.changeTrees (Node.ids_changeAround hids) (Node.id?_changeAround i f)

theorem Document.Sound.takeOutNode (hd : d.Sound) (i : NodeId) :
    (d.takeOutNode i).document.Sound := by
  have htakes := d.takesOut hd.distinct i
  generalize d.takeOutNode i = out at htakes
  cases htakes with
  | top hi => exact hd
  | out h cs n trees hfill hn hi hjoins htrees =>
    have hnodup : (idsAll (h.fill cs)).Nodup := hfill ▸ hd.distinct
    refine hd.of_perm ?_ rfl (.inl rfl) fun m hm => ?_
    · rw [Document.ids, Document.forest, htrees, Document.ids, hfill,
        changeAroundAll_fill hnodup hn hi]
      exact idsAll_fill_takeOut hnodup hn hi
    · refine ⟨m.changeAround i (takeOut i), ?_, Node.id?_changeAround ..⟩
      rw [Document.forest, htrees, changeAroundAll_eq_map]
      exact List.mem_append_left _ (List.mem_map_of_mem hm)
  | stuck h cs n trees hfill hn hi hjoins htrees =>
    refine hd.of_perm ?_ rfl (.inl rfl) fun m hm => ?_
    · rw [Document.ids, Document.forest, htrees, ids_changeAroundAll (idsAll_clearBefore i),
        Document.ids]
    · refine ⟨m.changeAround i (clearBefore i), ?_, Node.id?_changeAround ..⟩
      rw [Document.forest, htrees, changeAroundAll_eq_map]
      exact List.mem_map_of_mem hm

theorem Document.Sound.detach (hd : d.Sound) (s : Selected) : (d.detach s).document.Sound := by
  match s with
  | .node i =>
    rw [Document.detach]
    split
    · exact hd.of_trees rfl rfl (.inr rfl)
    · exact hd.takeOutNode i
  | .text owner true _ => exact hd.changeAround owner (idsAll_clearAfter owner)
  | .text owner false _ => exact hd.changeAll owner Node.ids_clearText fun n => by cases n <;> rfl
  | .attribute owner name _ =>
    exact hd.changeAll owner (Node.ids_clearAttribute name) fun n => by cases n <;> rfl
  | .space .. | .scalar _ | .loose _ => exact hd

theorem Document.Sound.detachAll (hd : d.Sound) (ss : List Selected) :
    (d.detachAll ss).document.Sound := by
  induction ss generalizing d with
  | nil => exact hd
  | cons s ss ih =>
    rw [Document.detachAll]
    split
    · exact ih (hd.detach s)
    · exact hd.detach s

/-! ## Histories -/

theorem Document.Sound.reparsed (hd : d.Sound) {p : PatternSource} {replacement : Replacement}
    {parsed : Parsed} {r : NodeId} (h : d.reparsed p replacement = some (parsed, r)) :
    (d.take parsed).Sound ∧ ∃ n ∈ (d.take parsed).forest, n.id? = some r := by
  obtain ⟨m, f, rfl, htree⟩ := Document.reparsed_some h
  exact ⟨hd.take m, (Document.root_parse htree).2⟩

/-- Every operation keeps a document sound. -/
theorem Document.Sound.perform (hd : d.Sound) (op : Operation) : (d.perform op).document.Sound := by
  have hchanges := d.perform_changes op
  generalize (d.perform op).document = d' at hchanges
  cases hchanges with
  | same => exact hd
  | translated => exact hd.of_trees rfl rfl (.inl rfl)
  | registered label name out h => cases h <;> exact hd.of_trees rfl rfl (.inl rfl)
  | removed s ss => exact hd.detachAll ss
  | detached h => exact hd.detach h.selected
  | replaced p r out hout h =>
    cases h with
    | failed f log h => exact hd
    | done parsed r spaces log h hspaces =>
      obtain ⟨hsound, htop⟩ := hd.reparsed h
      exact ⟨hsound.distinct, hsound.fresh, fun i hi => Option.some.inj hi ▸ htop⟩
    | refused parsed r f log h hspaces =>
      obtain ⟨hsound, htop⟩ := hd.reparsed h
      exact ⟨hsound.distinct, hsound.fresh, fun i hi => Option.some.inj hi ▸ htop⟩
  | closed => exact hd.of_trees rfl rfl (.inr rfl)

/-- Every reachable document is sound. -/
theorem Document.Reachable.sound (h : d.Reachable) : d.Sound := by
  induction h with
  | opened h =>
    obtain ⟨d₀, m, hsettle, hinstalls⟩ := Opening.run_ok h
    have hd₀ : d₀.Sound := by
      rw [(Opening.settles_of_settle hsettle).eq]
      exact ⟨List.nodup_nil, by simp [Document.ids, Document.forest], nofun⟩
    refine (hd₀.take m).installs hinstalls fun r hr => ?_
    obtain ⟨⟨f, root⟩, htree, rfl⟩ := Option.map_eq_some_iff.mp hr
    exact (Document.root_parse htree).2
  | step _ op ih => exact ih.perform op

end MarkupQuery
