import MarkupQuery.Proofs.Document.Reparsing
import MarkupQuery.Proofs.Document.Seeking
import MarkupQuery.Proofs.Text.Trimming

/-!
# Finding without namespaces

A document to which no namespace was given finds nothing outside the tree that holds its root
(`Document.Reachable.in_of_find`). With or without namespaces, a path of one step finds what passes its test at
the top of this tree (`Document.find_fromTop`) or anywhere in it (`Document.find_anywhere`). So the selector for
all elements of a name finds the elements of that name, in document order (`Document.find_nameSelector`).
-/

namespace MarkupQuery

open MarkupQuery.Text MarkupQuery.Tree MarkupQuery.Xml MarkupQuery.Query

variable {d : Document} {n s : Chars}

/-! ## Documents without namespaces -/

/-- A reachable document to which no namespace was ever given is coherent. -/
theorem Document.Reachable.coherent (h : d.Reachable) (hnil : d.namespaces = []) : d.Coherent := by
  induction h with
  | opened h => exact (Opening.coherent h).2 (by rw [hnil]; simp)
  | @step d h op ih =>
    rw [d.namespaces_perform] at hnil
    have hkept (hop : op.isUsable = true) (hsame : op.namespaces d.namespaces = d.namespaces) :
        (d.perform op).document.Coherent :=
      ((ih (hsame.symm.trans hnil)).perform hop).1
    cases op with
    | registerNamespace label name =>
      rw [Operation.namespaces] at hnil
      cases hkey : label.isKey with
      | true =>
        rw [hkey, if_pos rfl] at hnil
        cases hes : d.namespaces with
        | nil => rw [hes] at hnil; cases hnil
        | cons e es =>
          rw [hes, Datum.put] at hnil
          split at hnil <;> cases hnil
      | false =>
        rw [hkey, if_neg Bool.false_ne_true] at hnil
        have hsame : (d.perform (.registerNamespace label name)).document = d := by
          show (d.registerNamespace label name).document = d
          rw [Document.registerNamespace, hkey]
          rfl
        rw [hsame]
        exact ih hnil
    | _ => exact hkept rfl rfl

/-- The context of a reachable document without namespaces starts at its root and has no prefixes. -/
theorem Document.Reachable.context_of_nil (h : d.Reachable) (hnil : d.namespaces = [])
    {c : QueryContext} (hc : d.context = some c) : d.root = some c.root ∧ c.spaces = [] := by
  obtain ⟨hroot, hspaces⟩ := (h.coherent hnil).of_context hc
  rw [hnil] at hspaces
  exact ⟨hroot, List.map_eq_nil_iff.mp hspaces.symm⟩

/-! ## Finding -/

/-- Whether the tree that holds the root has no namespaces. -/
def Document.hasNoSpaces (d : Document) : Bool :=
  d.root.all fun r => d.trees.all fun f => (spotIn f r).isNone || haveNoSpaces f

/-- Whether an element was found. -/
def Found.isElement : Found → Bool
  | .spot s => s.target.tag?.isSome
  | .scalar _ => false

theorem spot?_eq_some {i : NodeId} {s : Spot} (h : d.spot? i = some s) :
    ∃ f ∈ d.trees, spotIn f i = some s ∧ s.In f := by
  obtain ⟨f, hf, hs⟩ := List.exists_of_findSome?_eq_some h
  exact ⟨f, hf, hs, Spot.In.top.descendants s (List.mem_of_find?_eq_some hs)⟩

/-- What a query finds is in any set of spots that no axis leaves, if functions make no others. -/
theorem all_of_run {P : Spot → Prop} (hP : Spot.Closed P) {kind : Kind} {spaces : List (Chars × Chars)}
    {s : Spot} (hs : P s)
    (hmakes : (∀ p ∈ spaces, p.2 ≠ regularSpace) ∨ ∀ t : Spot, t.Made → P t) {query : Chars} {v : Value}
    (h : Query.run kind spaces s query = .ok v) : v.All P := by
  rw [Query.run] at h
  split at h
  · cases h
  · next e he =>
    exact Value.All.evaluate (c := { spot := s, spaces, kind }) hP hs
      (hmakes.imp_left Context.makesNoTrees_of_spaces) e h

theorem all_of_mem_foundIn {P : Spot → Prop} {v : Value} (hv : v.All P) {s : Spot}
    (hs : .spot s ∈ foundIn v) : P s := by
  cases v with
  | spots ss =>
    obtain ⟨t, ht, heq⟩ := List.mem_map.mp hs
    obtain rfl := Found.spot.inj heq
    exact hv ss rfl t (List.mem_of_mem_filter ht)
  | _ => simp [foundIn] at hs

/-- What a selector finds: nothing, the root, or what a query gives that starts from the context. -/
inductive Document.Finds (d : Document) : List Found → Prop
  | nothing : d.Finds []
  | root {c : QueryContext} {s : Spot} (hcontext : d.context = some c) (hs : d.rootSpot? = some s) :
      d.Finds [.spot s]
  | given {c : QueryContext} {s : Spot} {query : Chars} {v : Value} (hcontext : d.context = some c)
      (hs : d.spot? c.root = some s) (hv : Query.run d.kind c.spaces s query = .ok v) : d.Finds (foundIn v)

theorem Document.finds_of_find {selector : String} {found : List Found}
    (h : d.find selector = .ok found) : d.Finds found := by
  obtain ⟨query, -, h⟩ := bind_eq_ok.mp h
  cases hcontext : d.context with
  | none =>
    rw [hcontext] at h
    obtain rfl := Except.ok.inj h
    exact .nothing
  | some c =>
    rw [hcontext] at h
    dsimp only at h
    split at h
    · obtain rfl := Except.ok.inj h
      cases hs : d.rootSpot? with
      | none => exact .nothing
      | some s => exact .root hcontext hs
    rw [Document.ask] at h
    split at h
    · obtain rfl := Except.ok.inj h
      exact .nothing
    next s hs =>
    split at h
    · cases h
    split at h
    · next v hv =>
      obtain rfl := Except.ok.inj h
      exact .given hcontext hs hv
    · cases h
    · cases h

/-- What a document without namespaces finds is in the tree that holds its root. -/
theorem Document.Reachable.in_of_find (h : d.Reachable) (hnil : d.namespaces = []) {base : String}
    {found : List Found} (hfind : d.find base = .ok found) {s : Spot} (hs : .spot s ∈ found) :
    ∃ f ∈ d.trees, ∃ r, d.root = some r ∧ (spotIn f r).isSome ∧ s.In f := by
  cases Document.finds_of_find hfind with
  | nothing => cases hs
  | @root c t hcontext ht =>
    obtain ⟨hroot, -⟩ := h.context_of_nil hnil hcontext
    obtain rfl := Found.spot.inj (List.mem_singleton.mp hs)
    rw [Document.rootSpot?, hroot] at ht
    obtain ⟨f, hf, hspot, hin⟩ := spot?_eq_some ht
    exact ⟨f, hf, c.root, hroot, by rw [hspot]; rfl, hin⟩
  | @given c t _ v hcontext ht hv =>
    obtain ⟨hroot, hspaces⟩ := h.context_of_nil hnil hcontext
    obtain ⟨f, hf, hspot, hin⟩ := spot?_eq_some ht
    have hall := all_of_run (Spot.closed_within f []) hin (.inl (by rw [hspaces]; simp)) hv
    exact ⟨f, hf, c.root, hroot, by rw [hspot]; rfl, all_of_mem_foundIn hall hs⟩

/-- The root stands at the top of the tree that queries are asked in. -/
theorem Document.Reachable.tree_of_root (hd : d.Reachable) {n : Node} (hroot : d.rootNode? = some n) :
    ∃ f ∈ d.trees, n ∈ f ∧ ∃ r s, d.root = some r ∧ d.spot? r = some s ∧ s.In f := by
  obtain ⟨-, s, g, hs, htarget, habove⟩ := hd.rootSpot hroot
  obtain ⟨r, hr⟩ := Document.root_of_rootNode? hroot
  rw [Document.rootSpot?, hr, Option.bind_some] at hs
  obtain ⟨f, hf, hspot, hin⟩ := spot?_eq_some hs
  obtain ⟨m, hm, -, hplaced⟩ := spotIn_eq_some hspot
  rw [htarget] at hm
  obtain rfl := Target.node.inj hm
  refine ⟨f, hf, ?_, r, s, hr, hs, hin⟩
  rw [habove] at hplaced
  cases hplaced with
  | top hn => exact hn

/-! ## Finding by running -/

/-- What a selector finds if its query gives a value. -/
theorem Document.find_of_run {selector query : String} (hconvert : d.translator.convert selector = .ok query)
    {c : QueryContext} (hcontext : d.context = some c) (hslash : (trimString query == "/") = false)
    {s : Spot} (hs : d.spot? c.root = some s) (hmarkup : isMarkupText query.toList = true) {v : Value}
    (hrun : Query.run d.kind c.spaces s query.toList = .ok v) :
    d.find selector = .ok (foundIn v) := by
  rw [Document.find, hconvert]
  simp only [bind, Except.bind, hcontext, hslash, Bool.false_eq_true, if_false]
  rw [Document.ask, hs]
  simp only [hmarkup, hrun, Bool.not_true, Bool.false_eq_true, if_false]

/-- Spots are all found if none of them is a whole document. -/
theorem foundIn_of_no_document {ss : List Spot} (h : ∀ s ∈ ss, ∀ ns, s.target ≠ .document ns) :
    foundIn (.spots ss) = ss.map .spot := by
  rw [foundIn, List.filter_eq_self.mpr]
  intro s hs
  cases htarget : s.target with
  | document ns => exact absurd htarget (h s hs ns)
  | _ => rfl

/-! ## Finding from the top -/

theorem trim_slash {c : Char} (hc : isBlank c = false) (s : Chars) : trim ('/' :: c :: s) ≠ ['/'] := by
  intro h
  obtain ⟨⟨v, w, htext, hv, hw⟩, -⟩ := trim_eq_iff.mp h
  cases v with
  | nil =>
    obtain ⟨-, rfl⟩ := List.cons.inj htext
    simp [hc] at hw
  | cons b v =>
    obtain ⟨rfl, -⟩ := List.cons.inj htext
    exact absurd hv (by simp [show isBlank '/' = false from rfl])

/-- What a path from the top finds if it gives a value. -/
theorem Document.find_of_path {x : Char} (hx : isBlank x = false) (hmarkup : isMarkupText (x :: s) = true)
    {selector : String} (hselector : selector.toList = '/' :: x :: s)
    (hconvert : d.translator.convert selector = .ok selector) {c : QueryContext}
    (hcontext : d.context = some c) {t : Spot} (ht : d.spot? c.root = some t) {v : Value}
    (hrun : Query.run d.kind c.spaces t ('/' :: x :: s) = .ok v) : d.find selector = .ok (foundIn v) := by
  refine Document.find_of_run hconvert hcontext ?_ ht ?_ (by rw [hselector]; exact hrun)
  · rw [beq_eq_false_iff_ne, trimString, hselector]
    exact fun h => trim_slash hx s (String.ofList_injective h)
  · rw [hselector]
    simpa [isMarkupText] using hmarkup

/-- A document finds everything that passes a test in the tree that holds its root. -/
theorem Document.find_anywhere {test : NodeTest} (hstep : IsChildStep s test) (hlabel : test.label? = none)
    (hmarkup : isMarkupText s = true) {selector : String} (hselector : selector.toList = '/' :: '/' :: s)
    (hconvert : d.translator.convert selector = .ok selector) {c : QueryContext}
    (hcontext : d.context = some c) {t : Spot} (ht : d.spot? c.root = some t) {f : Forest} (hin : t.In f) :
    d.find selector = .ok
      (((Spot.top f).descendants.filter fun u => test.holds .child none u.target).map .spot) := by
  have hrun : Query.run d.kind c.spaces t ('/' :: '/' :: s)
      = .ok (.spots ((Spot.top f).descendants.filter fun u => test.holds .child none u.target)) := by
    rw [Query.run, read_anywhere hstep]
    exact evaluate_anyPath (c := { spot := t, spaces := c.spaces, kind := d.kind }) hin test hlabel
  rw [Document.find_of_path (by rfl) (by simpa [isMarkupText] using hmarkup) hselector hconvert hcontext ht hrun,
    foundIn_of_no_document]
  intro u hu ns heq
  obtain ⟨n, hn, -⟩ := placed_of_mem_subtreesSpots (List.mem_of_mem_filter hu)
  rw [hn] at heq
  cases heq

theorem isBlank_of_isAsciiLetter {c : Char} (h : isAsciiLetter c = true) : isBlank c = false := by
  have hcode : 65 ≤ c.toNat ∧ c.toNat ≤ 122 := by
    simp only [isAsciiLetter, Bool.or_eq_true, Bool.and_eq_true, decide_eq_true_eq, Char.le_def,
      UInt32.le_iff_toNat_le] at h
    change 97 ≤ c.toNat ∧ c.toNat ≤ 122 ∨ 65 ≤ c.toNat ∧ c.toNat ≤ 90 at h
    omega
  simp only [isBlank, isBlankCode, Bool.or_eq_false_iff, Bool.and_eq_false_iff, decide_eq_false_iff_not,
    beq_eq_false_iff_ne]
  omega

/-- A document finds everything that passes a test at the top of the tree that holds its root. -/
theorem Document.find_fromTop {test : NodeTest} (hstep : IsChildStep s test) (hlabel : test.label? = none)
    (hstart : s.head?.any isAsciiLetter = true) (hmarkup : isMarkupText s = true) {selector : String}
    (hselector : selector.toList = '/' :: s) (hconvert : d.translator.convert selector = .ok selector)
    {c : QueryContext} (hcontext : d.context = some c) {t : Spot} (ht : d.spot? c.root = some t) {f : Forest}
    (hin : t.In f) : d.find selector = .ok
      ((inOrder ((Spot.top f).children.filter fun u => test.holds .child none u.target)).map .spot) := by
  have hrun : Query.run d.kind c.spaces t ('/' :: s)
      = .ok (.spots (inOrder ((Spot.top f).children.filter fun u => test.holds .child none u.target))) := by
    rw [Query.run, read_fromTop hstep hstart]
    exact evaluate_topPath (c := { spot := t, spaces := c.spaces, kind := d.kind }) hin test hlabel
  obtain ⟨x, r, rfl, -⟩ := hstep.start
  rw [Document.find_of_path (isBlank_of_isAsciiLetter hstart) hmarkup hselector hconvert hcontext ht hrun,
    foundIn_of_no_document]
  intro u hu ns heq
  obtain ⟨k, n, -, rfl⟩ := mem_childSpots (List.mem_of_mem_filter (mem_of_mem_inOrder hu))
  cases heq

/-! ## Finding a name -/

/-- The selector for all elements of a name. -/
def nameSelector (n : Chars) : String := String.ofList (nameQuery n)

/-- A document finds the elements of a name in the tree that holds its root. -/
theorem Document.find_nameSelector (hn : IsPlainName n)
    (hconvert : d.translator.convert (nameSelector n) = .ok (nameSelector n)) {c : QueryContext}
    (hcontext : d.context = some c) {s : Spot} (hs : d.spot? c.root = some s) {f : Forest}
    (hin : s.In f) :
    d.find (nameSelector n) =
      .ok (((Spot.top f).descendants.filter fun t => t.target.isNamed n).map .spot) := by
  have hfind := Document.find_anywhere (isChildStep_name hn) rfl (isMarkupText_of_isPlainName hn)
    String.toList_ofList hconvert hcontext hs hin
  simp only [holds_name] at hfind
  exact hfind

end MarkupQuery
