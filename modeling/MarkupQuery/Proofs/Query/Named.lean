import MarkupQuery.Proofs.Query.Within
import MarkupQuery.Proofs.Xml.Names

/-!
# Searching below the top

A query that asks for everything below the top of a document that passes a test is read as a step to
everything and a step to the children that pass it (`read_anywhere`), and it finds them in document order,
each of them once (`evaluate_anyPath`). So all elements of a name are found (`evaluate_namePath`), and all
comments and all instructions. With a single slash only what stands at the top is found
(`evaluate_topPath`).
-/

namespace MarkupQuery.Query

open MarkupQuery.Text MarkupQuery.Tree MarkupQuery.Xml

variable {f : Forest} {n s : Chars}

/-! ## Names -/

/-- A name may stand in a query. -/
theorem isMarkupText_of_isPlainName (h : IsPlainName n) : isMarkupText n = true := by
  rw [isMarkupText, List.all_eq_true]
  intro c hc
  have hname := h.isNameChar c hc
  have hcode : 32 ≤ c.toNat ∧ c.toNat ≠ 0xfffe ∧ c.toNat ≠ 0xffff := by
    simp only [isNameChar, isNameStart, inRanges, nameStartRanges, nameMoreRanges, isAsciiLetter,
      isAsciiDigit, List.any_cons, List.any_nil, Bool.or_eq_true, Bool.and_eq_true,
      decide_eq_true_eq, beq_iff_eq, Char.le_def, UInt32.le_iff_toNat_le, ← Char.toNat_inj,
      Char.toNat_val, Char.reduceToNat, Bool.false_eq_true, or_false] at hname
    omega
  simp [hcode]

/-! ## Reading one step -/

theorem ne_of_isNameStart {c d : Char} (hc : isNameStart c = true) (hd : isNameStart d = false) :
    c ≠ d := by
  rintro rfl
  rw [hd] at hc
  cases hc

/-- A text that is read as a step to the children that pass a test. -/
structure IsChildStep (s : Chars) (test : NodeTest) : Prop where
  start : ∃ c r, s = c :: r ∧ isNameStart c = true
  reads : ∃ name rest, readAxis s = (.child, name, rest) ∧ readTest name rest = .ok (test, [])

/-- A name is a step along the axis of children. -/
theorem readAxis_name (h : IsPlainName n) : readAxis n = (.child, n, []) := by
  have hspan : spanPlainName n = (n, []) := by
    simpa using spanPlainName_append h (t := []) nofun
  obtain ⟨c, r, rfl, hc, -⟩ := h
  unfold readAxis
  split
  · next heq => exact absurd (List.cons.inj heq).1 (ne_of_isNameStart hc (by decide))
  · next heq => exact absurd (List.cons.inj heq).1 (ne_of_isNameStart hc (by decide))
  · rw [hspan]
    dsimp only
    split <;> rfl

theorem readTest_name (h : IsPlainName n) : readTest n [] = .ok (.name none n, []) := by
  obtain ⟨c, r, rfl, -⟩ := h
  rfl

/-- A name asks for the children of that name. -/
theorem isChildStep_name (h : IsPlainName n) : IsChildStep n (.name none n) where
  start := by
    obtain ⟨c, r, rfl, hc, -⟩ := h
    exact ⟨c, r, rfl, hc⟩
  reads := ⟨n, [], readAxis_name h, readTest_name h⟩

section Step

variable {test : NodeTest} (h : IsChildStep s test)

include h

theorem IsChildStep.skip : skip s = s := by
  obtain ⟨c, r, rfl, hc⟩ := h.start
  have hblank : isMarkupBlank c = false := by
    simp only [isMarkupBlank, Bool.or_eq_false_iff, beq_eq_false_iff_ne]
    exact ⟨⟨⟨ne_of_isNameStart hc (by decide), ne_of_isNameStart hc (by decide)⟩,
      ne_of_isNameStart hc (by decide)⟩, ne_of_isNameStart hc (by decide)⟩
  rw [Query.skip, List.dropWhile_cons_of_neg (by simp [hblank])]

theorem IsChildStep.readStep (e : Expression) (depth fuel : Nat) :
    readStep depth (fuel + 2) e s = .ok (.step e .child test [], []) := by
  obtain ⟨name, rest, haxis, htest⟩ := h.reads
  obtain ⟨c, r, rfl, hc⟩ := h.start
  have hnone : readPredicates depth (fuel + 1) [] = .ok ([], []) := by
    rw [readPredicates]
    intros
    contradiction
  rw [Query.readStep]
  · rw [haxis]
    dsimp only
    rw [htest]
    simp only [bind, Except.bind]
    rw [show Query.skip [] = [] from rfl, hnone]
    rfl
  · rintro r' heq
    exact absurd (List.cons.inj heq).1 (ne_of_isNameStart hc (by decide))
  · rintro r' heq
    exact absurd (List.cons.inj heq).1 (ne_of_isNameStart hc (by decide))

theorem IsChildStep.readSteps (e : Expression) (depth fuel : Nat) :
    readSteps depth (fuel + 3) e s = .ok (.step e .child test [], []) := by
  have hstep := h.readStep e depth fuel
  obtain ⟨c, r, rfl, hc⟩ := h.start
  have hslash (t : Chars) : c :: r = '/' :: t → False := fun heq =>
    ne_of_isNameStart hc (by decide) (List.cons.inj heq).1
  rw [Query.readSteps]
  · rw [hstep]
    rfl
  · exact fun t => hslash _
  · exact fun t => hslash _

end Step

/-! ## Reading queries -/

/-- An operand at the end of a text is that of all levels above. -/
theorem readLevel_of_succ {depth fuel level : Nat} {s : Chars} {e : Expression} (hlevel : level < 6)
    (h : readLevel depth (fuel + 1) (level + 1) s = .ok (e, [])) :
    readLevel depth (fuel + 2) level s = .ok (e, []) := by
  have hend : operatorAt? level [] = none := by
    interval_cases level <;> rfl
  rw [readLevel, if_pos (show level < operatorLevels.length from hlevel), h]
  show readOperands depth (fuel + 1) level e [] = _
  rw [readOperands, hend]

/-- A path from the top that takes up the whole text is what the text is read as. -/
theorem read_of_readFromTop {e : Expression}
    (h : ∀ fuel, readFromTop 0 (fuel + 4) .root ('/' :: s) = .ok (e, [])) : read ('/' :: s) = .ok e := by
  have hpath (fuel : Nat) : readPath 0 (fuel + 5) ('/' :: s) = .ok (e, []) := by
    have hstarts : startsPath? ('/' :: s) = some true := by
      rw [startsPath?]
      · rfl
      · nofun
    rw [readPath, hstarts]
    exact h fuel
  have hsigned (fuel : Nat) : readSigned 0 (fuel + 6) ('/' :: s) = .ok (e, []) := by
    have hsigns : ('/' :: s).takeWhile (fun c => c == '-' || isMarkupBlank c) = [] := rfl
    have hrest : ('/' :: s).dropWhile (fun c => c == '-' || isMarkupBlank c) = '/' :: s := rfl
    rw [readSigned]
    dsimp only
    rw [hsigns, hrest, hpath]
    simp only [bind, Except.bind]
    rw [readUnion]
    · rfl
    · intros; contradiction
  obtain ⟨fuel, hfuel⟩ : ∃ fuel, 16 * (('/' :: s).length + 2) = fuel + 13 :=
    ⟨16 * s.length + 35, by rw [List.length_cons]; omega⟩
  have htop : readLevel 0 (fuel + 7) 6 ('/' :: s) = .ok (e, []) := by
    rw [readLevel, if_neg (by decide)]
    exact hsigned fuel
  have hall := readLevel_of_succ (by decide) (readLevel_of_succ (by decide) (readLevel_of_succ
    (by decide) (readLevel_of_succ (by decide) (readLevel_of_succ (by decide) (readLevel_of_succ
    (by decide) htop)))))
  rw [read, hfuel, show skip ('/' :: s) = '/' :: s from rfl, hall]
  rfl

theorem readFromTop_nil (depth fuel : Nat) (e : Expression) :
    readFromTop depth (fuel + 1) e [] = .ok (e, []) := by
  rw [readFromTop]
  · intros; contradiction
  · intros; contradiction

/-- The path to everything below the top that passes a test. -/
def anyPath (test : NodeTest) : Expression := .step (anywhere .root) .child test []

/-- The path to everything at the top that passes a test. -/
def topPath (test : NodeTest) : Expression := .step .root .child test []

/-- A step after two slashes is taken from anywhere. -/
theorem read_anywhere {test : NodeTest} (h : IsChildStep s test) :
    read ('/' :: '/' :: s) = .ok (anyPath test) := by
  refine read_of_readFromTop fun fuel => ?_
  rw [readFromTop, h.skip, h.readSteps]
  exact readFromTop_nil 0 (fuel + 2) (anyPath test)

/-- A step after one slash is taken from the top, if it begins with a letter that every path may begin with. -/
theorem read_fromTop {test : NodeTest} (h : IsChildStep s test) (hstart : s.head?.any isAsciiLetter = true) :
    read ('/' :: s) = .ok (topPath test) := by
  refine read_of_readFromTop fun fuel => ?_
  have hslash (t : Chars) : s ≠ '/' :: t := by
    rintro rfl
    cases hstart
  have hstarts : (s.head?.any fun c => isAsciiLetter c || c == '_' || c == '.' || c == '@' || c == '*')
      = true := by
    rw [Option.any_eq_true] at hstart ⊢
    obtain ⟨c, hc, hletter⟩ := hstart
    exact ⟨c, hc, by rw [hletter]; rfl⟩
  rw [readFromTop]
  · rw [h.skip]
    dsimp only
    rw [hstarts, if_pos rfl, h.readSteps]
    exact readFromTop_nil 0 (fuel + 2) (topPath test)
  · exact hslash

/-- The query for all elements of a name. -/
def nameQuery (n : Chars) : Chars := '/' :: '/' :: n

/-- What the query for all elements of a name is read as. -/
def namePath (n : Chars) : Expression := .step (anywhere .root) .child (.name none n) []

/-- The query for all elements of a name is read. -/
theorem read_nameQuery (h : IsPlainName n) : read (nameQuery n) = .ok (namePath n) :=
  read_anywhere (isChildStep_name h)

/-! ## Children of a subtree -/

theorem subtreeSpots_eq_cons (offsets : List Offset) (above : List Target) (n : Node) :
    subtreeSpots offsets above n = ⟨.node n, offsets, above⟩ ::
      subtreesSpots offsets (.node n :: above) 0 n.children := by
  cases n with
  | element i t cs => rw [subtreeSpots]; rfl
  | _ =>
    rw [subtreeSpots]
    · rfl
    · exact nofun

mutual

/-- The children of the spots of a subtree are the spots below its top. -/
theorem subtreeSpots_perm (offsets : List Offset) (above : List Target) (n : Node) :
    ((subtreeSpots offsets above n).flatMap Spot.children).Perm
      (subtreesSpots offsets (.node n :: above) 0 n.children) := by
  cases n with
  | element i t cs =>
    rw [subtreeSpots]
    exact subtreesSpots_perm offsets (.node (.element i t cs) :: above) 0 cs
  | _ =>
    rw [subtreeSpots]
    · exact .nil
    · exact nofun

/-- The spots of some subtrees are their tops and the children of their spots. -/
theorem subtreesSpots_perm (offsets : List Offset) (above : List Target) (i : Nat) (ns : List Node) :
    (childSpots offsets above i ns ++ (subtreesSpots offsets above i ns).flatMap Spot.children).Perm
      (subtreesSpots offsets above i ns) := by
  cases ns with
  | nil => exact .nil
  | cons n ns =>
    have hfirst := subtreeSpots_perm (.child i :: offsets) above n
    have hrest := subtreesSpots_perm offsets above (i + 1) ns
    rw [childSpots, subtreesSpots, List.flatMap_append]
    generalize (subtreeSpots (.child i :: offsets) above n).flatMap Spot.children = below at hfirst
    rw [subtreeSpots_eq_cons]
    refine .cons _ (.trans (.trans (.of_eq (List.append_assoc ..).symm) ?_) (hfirst.append hrest))
    rw [← List.append_assoc]
    exact List.perm_append_comm.append_right _

end

/-- The children of the spots of a subtree are the spots below its top. -/
theorem Spot.subtree_children_perm (s : Spot) :
    (s.subtree.flatMap Spot.children).Perm s.descendants :=
  subtreesSpots_perm _ _ 0 _

/-! ## Carrying the query out -/

/-- Whether a target is an element of a name in no namespace. -/
def Target.isNamed (n : Chars) (t : Target) : Bool :=
  t.tag?.any fun tag => tag.name.base == n && tag.name.space.isNone

theorem holds_name (n : Chars) (t : Target) :
    (NodeTest.name none n).holds .child none t = t.isNamed n := by
  cases t with
  | node m =>
    cases m with
    | element i tag cs => rfl
    | _ => rfl
  | _ => rfl

variable {c : Context}

/-- A step without predicates goes from every spot along its axis. -/
theorem evaluate_step {e : Expression} {ss : List Spot} (h : evaluate e c = .ok (.spots ss))
    (axis : Axis) (test : NodeTest) (htest : test.label? = none) :
    evaluate (.step e axis test []) c = .ok (.spots (inOrder (ss.flatMap fun s =>
      (axis.spots s).filter fun t => test.holds axis none t.target))) := by
  have hspace : c.testSpace test = .ok none := by rw [Context.testSpace, htest]
  have hkept (ts : List Spot) : keepAll [] c ts = .ok ts := by rw [keepAll]
  have hfound : (ss.mapM fun s =>
      keepAll [] c ((axis.spots s).filter fun t => test.holds axis none t.target))
      = .ok (ss.map fun s => (axis.spots s).filter fun t => test.holds axis none t.target) := by
    simp only [hkept]
    exact List.mapM_pure
  rw [evaluate, h]
  simp only [bind, Except.bind, Value.spots?, hspace, hfound]
  rfl

/-- Only nodes that are no references are asked for their children, but references have none. -/
theorem children_of_not_node {s : Spot} (h : NodeKind.node.holds s.target = false) :
    s.children = [] := by
  obtain ⟨target, offsets, above⟩ := s
  cases target with
  | node m => cases m <;> first | rfl | cases h
  | _ => cases h

theorem flatMap_children_filter (p : Target → Bool) (ss : List Spot) :
    ((ss.filter fun s => NodeKind.node.holds s.target).flatMap fun s =>
        s.children.filter fun t => p t.target) =
      (ss.flatMap Spot.children).filter fun t => p t.target := by
  induction ss with
  | nil => rfl
  | cons s ss ih =>
    rw [List.flatMap_cons, List.filter_append, ← ih]
    cases hs : NodeKind.node.holds s.target with
    | true => rw [List.filter_cons_of_pos (by exact hs), List.flatMap_cons]
    | false =>
      rw [List.filter_cons_of_neg (by simp [hs]), children_of_not_node hs]
      rfl

theorem evaluate_root (hc : c.spot.In f) : evaluate .root c = .ok (.spots [.top f]) := by
  rw [evaluate, hc.root_eq]

/-- A step from anywhere finds what passes its test below the top, in document order. -/
theorem evaluate_anyPath (hc : c.spot.In f) (test : NodeTest) (htest : test.label? = none) :
    evaluate (anyPath test) c =
      .ok (.spots ((Spot.top f).descendants.filter fun s => test.holds .child none s.target)) := by
  have hall := evaluate_step (evaluate_root hc) .descendantOrSelf (.kind .node) rfl
  rw [List.flatMap_singleton] at hall
  have hsorted : inOrder ((Spot.top f).subtree.filter fun s => NodeKind.node.holds s.target)
      = (Spot.top f).subtree.filter fun s => NodeKind.node.holds s.target :=
    inOrder_of_perm (.refl _) ((Spot.top f).sorted_subtree.filter _)
  rw [show (Axis.descendantOrSelf.spots (Spot.top f)) = (Spot.top f).subtree from rfl] at hall
  simp only [NodeTest.holds, hsorted] at hall
  have hfound := evaluate_step hall .child test htest
  rw [anyPath, anywhere, hfound]
  congr 2
  refine inOrder_of_perm ?_ ((Spot.top f).sorted_descendants.filter _)
  show List.Perm ((((Spot.top f).subtree.filter fun s => NodeKind.node.holds s.target).flatMap fun s =>
        s.children.filter fun t => test.holds .child none t.target)) _
  rw [flatMap_children_filter (test.holds .child none)]
  exact (Spot.top f).subtree_children_perm.filter _

/-- The query for all elements of a name finds them below the top, in document order. -/
theorem evaluate_namePath (hc : c.spot.In f) (n : Chars) :
    evaluate (namePath n) c =
      .ok (.spots ((Spot.top f).descendants.filter fun s => s.target.isNamed n)) := by
  have hfound := evaluate_anyPath hc (.name none n) rfl
  simp only [holds_name] at hfound
  exact hfound

/-- A step from the top finds what passes its test there. -/
theorem evaluate_topPath (hc : c.spot.In f) (test : NodeTest) (htest : test.label? = none) :
    evaluate (topPath test) c =
      .ok (.spots (inOrder ((Spot.top f).children.filter fun s => test.holds .child none s.target))) := by
  have hfound := evaluate_step (evaluate_root hc) .child test htest
  rw [List.flatMap_singleton] at hfound
  exact hfound

end MarkupQuery.Query
