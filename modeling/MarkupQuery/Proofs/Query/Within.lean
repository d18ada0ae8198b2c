import MarkupQuery.Proofs.Document.Installing
import MarkupQuery.Proofs.Query.Order

/-!
# Spots of a document

Spots of a document are those that are reached from its top by going from a spot to a child, an attribute
or a namespace (`Spot.Within`); all axes stay among them. Trees that functions make are documents of their
own. Few expressions give spots, and they make them of the spots that their parts give (`evaluate_spots`).
What a query finds is thus in any set of spots that no axis leaves, once the spot that it starts from and all
spots that functions may make are in it (`Value.All.evaluate`): so it is in the document that the query is
asked in, unless a function makes a tree.
-/

namespace MarkupQuery.Query

open MarkupQuery.Text MarkupQuery.Tree

/-- A spot of a forest, by the way to it; the forest as a whole has some offsets. -/
inductive Spot.Within (f : Forest) (start : List Offset) : Spot → Prop
  | top : Spot.Within f start ⟨.document f, start, []⟩
  | child {s : Spot} {k : Nat} {n : Node} (hs : s.Within f start) (hn : s.target.children[k]? = some n) :
      Spot.Within f start ⟨.node n, .child k :: s.offsets, s.target :: s.above⟩
  | label {s : Spot} (k : Nat) {i : NodeId} {t : Tag} {cs : List Node} {a : Attribute}
      (hs : s.Within f start) (ht : s.target = .node (.element i t cs)) (ha : a ∈ t.attributes) :
      Spot.Within f start ⟨.attribute i a, ⟨1, k⟩ :: s.offsets, s.target :: s.above⟩
  | space {s : Spot} (k : Nat) (l : Option Chars) (u : Chars) (hs : s.Within f start) :
      Spot.Within f start ⟨.space l u, ⟨0, k⟩ :: s.offsets, s.target :: s.above⟩

/-- A spot of a document. -/
abbrev Spot.In (f : Forest) : Spot → Prop := Spot.Within f []

theorem Spot.In.top {f : Forest} : (Spot.top f).In f := Spot.Within.top

variable {f : Forest} {start : List Offset} {s t : Spot}

/-! ## Downwards -/

theorem mem_childSpots {offsets : List Offset} {above : List Target} {i : Nat} {ns : List Node}
    (h : s ∈ childSpots offsets above i ns) :
    ∃ k n, ns[k]? = some n ∧ s = ⟨.node n, .child (i + k) :: offsets, above⟩ := by
  induction ns generalizing i with
  | nil => simp [childSpots] at h
  | cons n ns ih =>
    rw [childSpots, List.mem_cons] at h
    rcases h with rfl | h
    · exact ⟨0, n, rfl, rfl⟩
    · obtain ⟨k, m, hm, rfl⟩ := ih h
      exact ⟨k + 1, m, hm, by rw [Nat.add_right_comm, Nat.add_assoc]⟩

theorem Spot.Within.children (hs : s.Within f start) : ∀ t ∈ s.children, t.Within f start := by
  intro t ht
  obtain ⟨k, n, hn, rfl⟩ := mem_childSpots ht
  rw [Nat.zero_add]
  exact hs.child hn

mutual

theorem in_of_mem_subtreeSpots {offsets : List Offset} {above : List Target} {n : Node}
    (hn : Spot.Within f start ⟨.node n, offsets, above⟩) : ∀ t ∈ subtreeSpots offsets above n, t.Within f start := by
  cases n with
  | element i u cs =>
    rw [subtreeSpots, List.forall_mem_cons]
    refine ⟨hn, in_of_mem_subtreesSpots fun k m hm => ?_⟩
    rw [Nat.zero_add]
    exact hn.child hm
  | _ =>
    rw [subtreeSpots]
    · simpa using hn
    · simp

theorem in_of_mem_subtreesSpots {offsets : List Offset} {above : List Target} {i : Nat}
    {ns : List Node}
    (hns : ∀ k n, ns[k]? = some n → Spot.Within f start ⟨.node n, .child (i + k) :: offsets, above⟩) :
    ∀ t ∈ subtreesSpots offsets above i ns, t.Within f start := by
  cases ns with
  | nil => exact nofun
  | cons n ns =>
    rw [subtreesSpots, List.forall_mem_append]
    refine ⟨in_of_mem_subtreeSpots (hns 0 n rfl), in_of_mem_subtreesSpots fun k m hm => ?_⟩
    rw [Nat.add_right_comm]
    exact hns (k + 1) m hm

end

theorem Spot.Within.descendants (hs : s.Within f start) : ∀ t ∈ s.descendants, t.Within f start :=
  in_of_mem_subtreesSpots fun k n hn => by
    rw [Nat.zero_add]
    exact hs.child hn

theorem Spot.Within.subtree (hs : s.Within f start) : ∀ t ∈ s.subtree, t.Within f start :=
  List.forall_mem_cons.mpr ⟨hs, hs.descendants⟩

/-! ## Upwards -/

/-- Whether something holds of the nodes at a target: of those at the top of a document, or of the node. -/
def Target.All (P : Node → Prop) : Target → Prop
  | .document ns => ∀ n ∈ ns, P n
  | .node n => P n
  | _ => True

/-- What holds of the nodes at the top and is inherited by children holds at every spot, and above it. -/
theorem Spot.Within.all {P : Node → Prop} (hP : ∀ n, P n → ∀ m ∈ n.children, P m) (hf : ∀ n ∈ f, P n)
    (hs : s.Within f start) : s.target.All P ∧ ∀ t ∈ s.above, t.All P := by
  induction hs with
  | top => exact ⟨hf, nofun⟩
  | @child s k m hs hm ih =>
    refine ⟨?_, List.forall_mem_cons.mpr ih⟩
    have hmem := List.mem_of_getElem? hm
    cases htarget : s.target with
    | document ns =>
      rw [htarget] at ih hmem
      exact ih.1 m hmem
    | node n =>
      rw [htarget] at ih hmem
      exact hP n ih.1 m hmem
    | _ =>
      rw [htarget] at hmem
      cases hmem
  | label k hs ht ha ih => exact ⟨trivial, List.forall_mem_cons.mpr ih⟩
  | space k l u hs ih => exact ⟨trivial, List.forall_mem_cons.mpr ih⟩

theorem Spot.Within.ancestors (hs : s.Within f start) : ∀ t ∈ s.ancestors, t.Within f start := by
  induction hs with
  | top => exact nofun
  | child hs hn ih => exact List.forall_mem_cons.mpr ⟨hs, ih⟩
  | label k hs ht ha ih => exact List.forall_mem_cons.mpr ⟨hs, ih⟩
  | space k l u hs ih => exact List.forall_mem_cons.mpr ⟨hs, ih⟩

theorem Spot.Within.parent (hs : s.Within f start) (ht : s.parent? = some t) : t.Within f start :=
  hs.ancestors t (List.mem_of_head? ht)

/-- All spots of a forest have the same root, its top. -/
theorem Spot.Within.root_eq (hs : s.Within f start) : s.root = ⟨.document f, start, []⟩ := by
  have hlast : (s :: s.ancestors).getLast? = some ⟨.document f, start, []⟩ := by
    induction hs with
    | top => rfl
    | child hs hn ih => exact List.getLast?_cons_cons.trans ih
    | label k hs ht ha ih => exact List.getLast?_cons_cons.trans ih
    | space k l u hs ih => exact List.getLast?_cons_cons.trans ih
  rw [List.getLast?_cons] at hlast
  exact Option.some.inj hlast

theorem Spot.In.root_eq (hs : s.In f) : s.root = .top f := Spot.Within.root_eq hs

/-- The offsets of a spot end with those of the whole forest. -/
theorem Spot.Within.offsets_eq (hs : s.Within f start) : ∃ below, s.offsets = below ++ start := by
  induction hs with
  | top => exact ⟨[], rfl⟩
  | child hs hn ih | label k hs ht ha ih | space k l u hs ih =>
    obtain ⟨below, hbelow⟩ := ih
    exact ⟨_ :: below, by rw [List.cons_append, ← hbelow]⟩

/-! ## Sideways -/

theorem Spot.Within.siblings (hs : s.Within f start) :
    (∀ t ∈ s.siblings.1, t.Within f start) ∧ ∀ t ∈ s.siblings.2, t.Within f start := by
  rw [Spot.siblings]
  split
  · next p o offsets hp ho =>
    have hchildren := (hs.parent hp).children
    split
    · exact ⟨fun t ht => hchildren t (List.mem_of_mem_take (List.mem_reverse.mp ht)),
        fun t ht => hchildren t (List.mem_of_mem_drop ht)⟩
    · exact ⟨nofun, nofun⟩
  · exact ⟨nofun, nofun⟩

theorem Spot.Within.base (hs : s.Within f start) : s.base.Within f start := by
  rw [Spot.base]
  split
  · exact hs
  · cases hp : s.parent? with
    | none => exact hs
    | some p => exact hs.parent hp

theorem Spot.Within.around (hs : s.Within f start) : ∀ t ∈ s.base :: s.base.ancestors, t.Within f start :=
  List.forall_mem_cons.mpr ⟨hs.base, hs.base.ancestors⟩

theorem Spot.Within.following (hs : s.Within f start) : ∀ t ∈ s.following, t.Within f start := by
  intro t ht
  rw [Spot.following, List.mem_flatMap] at ht
  obtain ⟨a, ha, ht⟩ := ht
  obtain ⟨b, hb, ht⟩ := List.mem_flatMap.mp ht
  exact ((hs.around a ha).siblings.2 b hb).subtree t ht

theorem Spot.Within.preceding (hs : s.Within f start) : ∀ t ∈ s.preceding, t.Within f start := by
  intro t ht
  rw [Spot.preceding, List.mem_flatMap] at ht
  obtain ⟨a, ha, ht⟩ := ht
  obtain ⟨b, hb, ht⟩ := List.mem_flatMap.mp ht
  exact ((hs.around a ha).siblings.1 b hb).subtree t (List.mem_reverse.mp ht)

/-! ## Attributes and namespaces -/

theorem Spot.Within.attributes (hs : s.Within f start) : ∀ t ∈ s.attributes, t.Within f start := by
  intro t ht
  rw [Spot.attributes] at ht
  split at ht
  · next i u cs htarget =>
    obtain ⟨⟨a, k⟩, ha, rfl⟩ := List.mem_map.mp ht
    exact hs.label k htarget (List.fst_mem_of_mem_zipIdx ha)
  · cases ht

theorem Spot.Within.spaces (hs : s.Within f start) : ∀ t ∈ s.spaces, t.Within f start := by
  intro t ht
  rw [Spot.spaces] at ht
  split at ht
  · obtain ⟨⟨d, k⟩, -, rfl⟩ := List.mem_map.mp ht
    exact hs.space k d.1 d.2
  · cases ht

/-! ## Axes -/

/-- Every axis stays in the document. -/
theorem Spot.Within.along (hs : s.Within f start) (a : Axis) : ∀ t ∈ a.spots s, t.Within f start := by
  cases a with
  | ancestor => exact hs.ancestors
  | ancestorOrSelf => exact List.forall_mem_cons.mpr ⟨hs, hs.ancestors⟩
  | label => exact hs.attributes
  | child => exact hs.children
  | descendant => exact hs.descendants
  | descendantOrSelf => exact hs.subtree
  | following => exact hs.following
  | followingSibling => exact hs.siblings.2
  | space => exact hs.spaces
  | parent => exact fun t ht => hs.parent (Option.mem_toList.mp ht)
  | preceding => exact hs.preceding
  | precedingSibling => exact hs.siblings.1
  | self => simpa [Axis.spots] using hs

/-! ## Sets that no axis leaves -/

/-- A set of spots that no axis leaves, nor the way to the whole document. -/
structure Spot.Closed (P : Spot → Prop) : Prop where
  along {s : Spot} (hs : P s) (a : Axis) : ∀ t ∈ a.spots s, P t
  root {s : Spot} (hs : P s) : P s.root

theorem Spot.closed_within (f : Forest) (start : List Offset) :
    Spot.Closed (Spot.Within f start) where
  along hs := hs.along
  root hs := hs.root_eq ▸ .top

/-- A spot of a tree that a function made of texts which may stand in a tree. -/
def Spot.Made (s : Spot) : Prop :=
  ∃ texts, texts.all isMarkupText = true ∧ s.Within (madeTree texts) madeOffsets

theorem Spot.made_of_mem_madeSpots {texts : List Chars} (htexts : texts.all isMarkupText = true)
    (h : s ∈ madeSpots texts) : s.Made := by
  obtain ⟨k, n, hn, rfl⟩ := mem_childSpots h
  have htop : Spot.Within (madeTree texts) madeOffsets _ := Spot.Within.top.child (k := 0) rfl
  exact ⟨texts, htexts, by rw [Nat.zero_add]; exact htop.child hn⟩

/-- The spots of a document and those of made trees. -/
theorem Spot.closed_in_or_made (f : Forest) : Spot.Closed fun s => s.In f ∨ s.Made where
  along hs a t ht := hs.imp (fun h => h.along a t ht) fun ⟨texts, htexts, h⟩ =>
    ⟨texts, htexts, h.along a t ht⟩
  root hs := hs.imp (Spot.closed_within f []).root fun ⟨texts, htexts, h⟩ =>
    ⟨texts, htexts, (Spot.closed_within (madeTree texts) madeOffsets).root h⟩

/-! ## Values -/

/-- A value whose spots are all in a set. -/
def Value.All (P : Spot → Prop) (v : Value) : Prop := ∀ ss, v = .spots ss → ∀ s ∈ ss, P s

variable {P : Spot → Prop} {c : Context} {v : Value}

/-- What is found by ids is in the document. -/
theorem Spot.Closed.spotsById (hP : Spot.Closed P) (hc : P c.spot) (ids : List Chars) :
    ∀ s ∈ spotsById c ids, P s := by
  intro s hs
  rw [Query.spotsById] at hs
  have hs := mem_of_mem_inOrder hs
  obtain ⟨i, -, hi⟩ := List.mem_filterMap.mp hs
  obtain ⟨p, hp, rfl⟩ := Option.map_eq_some_iff.mp hi
  obtain ⟨t, ht, hmap⟩ := List.mem_filterMap.mp (List.mem_of_find?_eq_some hp)
  obtain ⟨tag, -, rfl⟩ := Option.map_eq_some_iff.mp hmap
  exact hP.along (hP.root hc) .descendant t ht

/-! ## Functions -/

/-- A context in which no function that makes trees can be called. -/
def Context.MakesNoTrees (c : Context) : Prop := ∀ l, c.space? l ≠ some regularSpace

theorem Context.makesNoTrees_of_spaces (h : ∀ s ∈ c.spaces, s.2 ≠ regularSpace) :
    c.MakesNoTrees := by
  intro l
  rw [Context.space?]
  split
  · decide
  · rw [ne_eq, Option.map_eq_some_iff]
    rintro ⟨s, hs, hspace⟩
    exact h s (List.mem_of_find?_eq_some hs) hspace

/-- A context in which functions make no spots but those of a set. -/
def Context.MakesIn (P : Spot → Prop) (c : Context) : Prop :=
  c.MakesNoTrees ∨ ∀ s : Spot, s.Made → P s

/-- The functions that need no prefix find elements by their ids, or give no spots. -/
theorem callCore_spots {name : String} {arguments : List Value} {ss : List Spot}
    (h : callCore name c arguments = .ok (.spots ss)) : ∃ ids, ss = spotsById c ids := by
  unfold Query.callCore at h
  dsimp only at h
  split at h
  case h_5 =>
    split at h
    · cases h
      exact ⟨_, rfl⟩
    · cases h
      exact ⟨_, rfl⟩
    · cases h
  all_goals repeat' split at h
  all_goals cases h

/-- The functions on regular expressions make trees, or give no spots. -/
theorem callRegular_spots {name : String} {arguments : List Value} {ss : List Spot}
    (h : callRegular name arguments = .ok (.spots ss)) :
    ∃ texts, texts.all isMarkupText = true ∧ ss = madeSpots texts := by
  unfold Query.callRegular at h
  dsimp only at h
  split at h
  case h_3 | h_4 =>
    obtain ⟨r, -, h⟩ := bind_eq_ok.mp h
    -- all matches or the first one only, and only texts that may stand in a tree
    all_goals repeat' split at h
    all_goals cases h
    all_goals exact ⟨_, ‹List.all _ isMarkupText = true›, rfl⟩
  case h_1 | h_2 =>
    obtain ⟨r, -, h⟩ := bind_eq_ok.mp h
    cases h
  case h_5 =>
    obtain ⟨r, -, h⟩ := bind_eq_ok.mp h
    obtain ⟨expand, -, h⟩ := bind_eq_ok.mp h
    obtain ⟨text, -, h⟩ := bind_eq_ok.mp h
    cases h
  all_goals cases h

/-- Calls find elements by their ids, or make trees, or give no spots. -/
theorem call_spots {label : Option Chars} {name : Chars} {arguments : List Value} {ss : List Spot}
    (h : call label name c arguments = .ok (.spots ss)) :
    (∃ ids, ss = spotsById c ids) ∨
      (∃ texts, texts.all isMarkupText = true ∧ ss = madeSpots texts) ∧ ¬c.MakesNoTrees := by
  cases label with
  | none => exact .inl (callCore_spots h)
  | some l =>
    rw [Query.call] at h
    cases hspace : c.space? l with
    | none => rw [hspace] at h; cases h
    | some u =>
      rw [hspace] at h
      dsimp only at h
      split at h
      · next hu =>
        rw [beq_iff_eq] at hu
        exact .inr ⟨callRegular_spots h, fun hnone => hnone l (hu ▸ hspace)⟩
      · cases h

/-- Calls give spots of a set that no axis leaves, if no function makes others. -/
theorem Value.All.call (hP : Spot.Closed P) (hc : P c.spot) (hmakes : c.MakesIn P)
    {label : Option Chars} {name : Chars} {arguments : List Value}
    (h : call label name c arguments = .ok v) : v.All P := by
  rintro ss rfl
  rcases call_spots h with ⟨ids, rfl⟩ | ⟨⟨texts, htexts, rfl⟩, htrees⟩
  · exact hP.spotsById hc ids
  · exact fun s hs => (hmakes.resolve_left htrees) s (Spot.made_of_mem_madeSpots htexts hs)

/-! ## Expressions -/

theorem sublist_of_filterMapM {α β ε : Type} {g : α → Except ε (Option β)} {f : α → β}
    (hg : ∀ a b, g a = .ok (some b) → b = f a) {as : List α} {bs : List β}
    (h : as.filterMapM g = .ok bs) : bs.Sublist (as.map f) := by
  induction as generalizing bs with
  | nil =>
    obtain rfl := Except.ok.inj h
    exact .slnil
  | cons a as ih =>
    rw [List.filterMapM_cons] at h
    obtain ⟨o, ho, h⟩ := bind_eq_ok.mp h
    cases o with
    | none => exact (ih h).cons _
    | some b =>
      obtain ⟨bs', hbs', heq⟩ := bind_eq_ok.mp h
      obtain rfl := Except.ok.inj heq
      rw [List.map_cons, hg a b ho]
      exact (ih hbs').cons_cons _

/-- Predicates only drop spots. -/
theorem sublist_of_keepByPlace {ask : Spot → Nat × Nat → Except Trouble Value} {ss kept : List Spot}
    (h : keepByPlace ask ss = .ok kept) : kept.Sublist ss := by
  rw [← List.zipIdx_map_fst 0 ss]
  refine sublist_of_filterMapM (fun ⟨s, i⟩ t hask => ?_) h
  obtain ⟨v, -, hv⟩ := bind_eq_ok.mp hask
  have hkept := Except.ok.inj hv
  split at hkept
  · exact (Option.some.inj hkept).symm
  · cases hkept

/-- Predicates only drop spots. -/
theorem mem_of_keepAll {predicates : List Expression} {ss kept : List Spot}
    (h : keepAll predicates c ss = .ok kept) : ∀ s ∈ kept, s ∈ ss := by
  induction predicates generalizing ss with
  | nil => rw [keepAll] at h; exact Except.ok.inj h ▸ fun s hs => hs
  | cons p ps ih =>
    rw [keepAll] at h
    obtain ⟨kept', hkept', h⟩ := bind_eq_ok.mp h
    exact fun s hs => (sublist_of_keepByPlace hkept').subset (ih h s hs)

theorem mem_of_mapM {α β ε : Type} {g : α → Except ε β} {as : List α} {bs : List β}
    (h : as.mapM g = .ok bs) {b : β} (hb : b ∈ bs) : ∃ a ∈ as, g a = .ok b := by
  induction as generalizing bs with
  | nil =>
    obtain rfl := Except.ok.inj h
    cases hb
  | cons a as ih =>
    rw [List.mapM_cons] at h
    obtain ⟨b', hb', h⟩ := bind_eq_ok.mp h
    obtain ⟨bs', hbs', h⟩ := bind_eq_ok.mp h
    obtain rfl := Except.ok.inj h
    rcases List.mem_cons.mp hb with rfl | hb
    · exact ⟨a, List.mem_cons_self, hb'⟩
    · obtain ⟨a', ha', hg⟩ := ih hbs' hb
      exact ⟨a', List.mem_cons_of_mem a ha', hg⟩

/-- The value of an operator is no set of spots. -/
theorem binary_no_spots {op : Operator} {a b : Expression} {ss : List Spot} :
    Query.evaluate (.binary op a b) c ≠ .ok (.spots ss) := by
  intro h
  cases op
  case or =>
    rw [Query.evaluate] at h
    obtain ⟨x, -, h⟩ := bind_eq_ok.mp h
    split at h
    · cases h
    · obtain ⟨y, -, h⟩ := bind_eq_ok.mp h
      cases h
  case and =>
    rw [Query.evaluate] at h
    obtain ⟨x, -, h⟩ := bind_eq_ok.mp h
    split at h
    · obtain ⟨y, -, h⟩ := bind_eq_ok.mp h
      cases h
    · cases h
  all_goals
    rw [Query.evaluate] at h
    · obtain ⟨x, -, h⟩ := bind_eq_ok.mp h
      obtain ⟨y, -, h⟩ := bind_eq_ok.mp h
      cases h
    · intros; contradiction
    · intros; contradiction

theorem Value.spots?_eq_ok {ss : List Spot} : v.spots? = .ok ss ↔ v = .spots ss := by
  cases v with
  | spots ts =>
    rw [Value.spots?, Value.spots.injEq]
    exact ⟨Except.ok.inj, congrArg _⟩
  | _ => exact ⟨nofun, nofun⟩

/-- An expression gives spots: what it is, and what its parts give. -/
inductive GivesSpots (c : Context) : Expression → List Spot → Prop
  | call {label : Option Chars} {name : Chars} {arguments : List Expression} {vs : List Value}
      {ss : List Spot} (h : call label name c vs = .ok (.spots ss)) :
      GivesSpots c (.call label name arguments) ss
  | union {a b : Expression} {ss ts : List Spot} (ha : evaluate a c = .ok (.spots ss))
      (hb : evaluate b c = .ok (.spots ts)) : GivesSpots c (.union a b) (inOrder (ss ++ ts))
  | here : GivesSpots c .here [c.spot]
  | root : GivesSpots c .root [c.spot.root]
  | filter {a p : Expression} {ss kept : List Spot} (ha : evaluate a c = .ok (.spots ss))
      (hkept : keepByPlace (fun s place => evaluate p { c with spot := s, place := some place }) ss
        = .ok kept) : GivesSpots c (.filter a p) kept
  | step {a : Expression} {axis : Axis} {test : NodeTest} {predicates : List Expression}
      {ss : List Spot} {space : Option Chars} {found : List (List Spot)}
      (ha : evaluate a c = .ok (.spots ss))
      (hfound : (ss.mapM fun s => keepAll predicates c
        ((axis.spots s).filter fun t => test.holds axis space t.target)) = .ok found) :
      GivesSpots c (.step a axis test predicates) (inOrder found.flatten)

theorem evaluate_spots {e : Expression} {ss : List Spot} (h : evaluate e c = .ok (.spots ss)) :
    GivesSpots c e ss := by
  cases e with
  | number x => cases h
  | literal s => cases h
  | variable_ l n => cases h
  | call l n arguments =>
    rw [Query.evaluate] at h
    obtain ⟨vs, -, h⟩ := bind_eq_ok.mp h
    exact .call h
  | binary op a b => exact absurd h binary_no_spots
  | negate a =>
    rw [Query.evaluate] at h
    obtain ⟨x, -, h⟩ := bind_eq_ok.mp h
    cases h
  | toNumber a =>
    rw [Query.evaluate] at h
    obtain ⟨x, -, h⟩ := bind_eq_ok.mp h
    cases h
  | union a b =>
    rw [Query.evaluate] at h
    obtain ⟨x, hx, h⟩ := bind_eq_ok.mp h
    obtain ⟨y, hy, h⟩ := bind_eq_ok.mp h
    obtain ⟨ss, hss, h⟩ := bind_eq_ok.mp h
    obtain ⟨ts, hts, h⟩ := bind_eq_ok.mp h
    cases h
    exact .union (Value.spots?_eq_ok.mp hss ▸ hx) (Value.spots?_eq_ok.mp hts ▸ hy)
  | here =>
    rw [Query.evaluate] at h
    cases h
    exact .here
  | root =>
    rw [Query.evaluate] at h
    cases h
    exact .root
  | filter a p =>
    rw [Query.evaluate] at h
    obtain ⟨x, hx, h⟩ := bind_eq_ok.mp h
    obtain ⟨ss, hss, h⟩ := bind_eq_ok.mp h
    obtain ⟨kept, hkept, h⟩ := bind_eq_ok.mp h
    cases h
    exact .filter (Value.spots?_eq_ok.mp hss ▸ hx) hkept
  | step a axis test predicates =>
    rw [Query.evaluate] at h
    obtain ⟨x, hx, h⟩ := bind_eq_ok.mp h
    obtain ⟨ss, hss, h⟩ := bind_eq_ok.mp h
    obtain ⟨space, -, h⟩ := bind_eq_ok.mp h
    obtain ⟨found, hfound, h⟩ := bind_eq_ok.mp h
    cases h
    exact .step (Value.spots?_eq_ok.mp hss ▸ hx) hfound

/-- An expression that is evaluated at a spot of a set that no axis leaves gives spots of the set, if no
function makes others. -/
theorem Value.All.evaluate {c : Context} {v : Value} (hP : Spot.Closed P) (hc : P c.spot)
    (hmakes : c.MakesIn P) (e : Expression) (h : evaluate e c = .ok v) : v.All P := by
  rintro ss rfl
  match e, evaluate_spots h with
  | .call .., .call h => exact Value.All.call hP hc hmakes h _ rfl
  | .union a b, .union ha hb =>
    intro s hs
    rcases List.mem_append.mp (mem_of_mem_inOrder hs) with hs | hs
    · exact Value.All.evaluate hP hc hmakes a ha _ rfl s hs
    · exact Value.All.evaluate hP hc hmakes b hb _ rfl s hs
  | .here, .here => exact List.forall_mem_singleton.mpr hc
  | .root, .root => exact List.forall_mem_singleton.mpr (hP.root hc)
  | .filter a p, .filter ha hkept =>
    exact fun s hs => Value.All.evaluate hP hc hmakes a ha _ rfl s ((sublist_of_keepByPlace hkept).subset hs)
  | .step a axis test predicates, .step ha hfound =>
    intro s hs
    obtain ⟨ts, hts, hs⟩ := List.mem_flatten.mp (mem_of_mem_inOrder hs)
    obtain ⟨t, ht, hkept⟩ := mem_of_mapM hfound hts
    have hin := Value.All.evaluate hP hc hmakes a ha _ rfl t ht
    exact hP.along hin axis s (List.mem_of_mem_filter (mem_of_keepAll hkept s hs))

end MarkupQuery.Query
