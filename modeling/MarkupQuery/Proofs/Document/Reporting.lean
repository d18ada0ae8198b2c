import Mathlib.Data.List.Forall2
import MarkupQuery.Proofs.Document.Isolation

/-!
# What is reported

Two of the parse options say which diagnostics are reported, and nothing else depends on them. Two
sessions in which the same happens, but for these options, give the same answers and faults and end with
the same documents; where the options of one keep further levels quiet, its log is that of the other
without the diagnostics of these levels (`Session.reporting`).

Options travel into every parse: when a document is opened, when it is rewritten and when documents are
nested in it. What is shown of one operation is shown for any relation between options under which
documents are parsed alike, and for any relation between logs that holds of two reports (`Reports`).
-/

namespace MarkupQuery

open MarkupQuery.Text MarkupQuery.Tree MarkupQuery.Query

/-! ## Options -/

/-- Whether an option only says what is reported. -/
def ParseOption.isReporting : ParseOption → Bool
  | .noWarning | .noError => true
  | _ => false

/-- Options that differ at most in what is reported. -/
structure Options.ParseAlike (i j : Options) : Prop where
  nonneg : 0 ≤ i ∧ 0 ≤ j
  has_eq : ∀ p : ParseOption, p.isReporting = false → Options.has i p = Options.has j p

/-- Options that report what others report, but for some levels. -/
structure Options.Quieter (quiet : Severity → Bool) (i j : Options) : Prop
    extends Options.ParseAlike i j where
  isReported_eq : ∀ s : Severity, s.isReported j = (s.isReported i && !quiet s)

/-- Whether a line of a log is no diagnostic of some levels. -/
def LogLine.isKept (quiet : Severity → Bool) (l : LogLine) : Bool :=
  [Severity.warning, .error].all fun s => !(quiet s && l.level == s.word)

/-- Relations between options and between logs that a parse relates. -/
structure Reports (R : Options → Options → Prop) (L : List LogLine → List LogLine → Prop) : Prop where
  alike : ∀ {i j}, R i j → Options.ParseAlike i j
  notices : ∀ {i j}, R i j → ∀ text ns, L (reportNotices i text ns) (reportNotices j text ns)
  debug : ∀ message, L [⟨"DEBUG", message⟩] [⟨"DEBUG", message⟩]
  nil : L [] []
  append : ∀ {a a' b b'}, L a a' → L b b' → L (a ++ b) (a' ++ b')

/-- Alike options report something or other. -/
theorem reports_parseAlike : Reports Options.ParseAlike fun _ _ => True where
  alike h := h
  notices _ _ _ := trivial
  debug _ := trivial
  nil := trivial
  append _ _ := trivial

theorem Severity.isKept_word (quiet : Severity → Bool) (s : Severity) (message : String) :
    LogLine.isKept quiet ⟨s.word, message⟩ = !quiet s := by
  cases s <;> simp [LogLine.isKept, Severity.word]

/-- Quieter options leave out the diagnostics of the quiet levels. -/
theorem reports_quieter (quiet : Severity → Bool) :
    Reports (Options.Quieter quiet) fun l l' => l' = l.filter (LogLine.isKept quiet) where
  alike h := h.toParseAlike
  notices h text ns := by
    rw [reportNotices, reportNotices, List.filter_map, List.filter_filter]
    refine congrArg _ (List.filter_congr fun n _ => ?_)
    rw [h.isReported_eq, Function.comp_apply, Severity.isKept_word, Bool.and_comm]
  debug message := by
    have hkept : LogLine.isKept quiet ⟨"DEBUG", message⟩ = true := by
      simp [LogLine.isKept, Severity.word]
    rw [List.filter_cons_of_pos hkept, List.filter_nil]
  nil := rfl
  append h h' := by rw [List.filter_append, h, h']

variable {R : Options → Options → Prop} {L : List LogLine → List LogLine → Prop} {i j : Options}

theorem Options.kept_of_nonneg (h : 0 ≤ i) : Options.kept i = i := by
  have hlow : (-128 : Int) ≤ i := le_trans (by decide) h
  rw [Options.kept, if_pos hlow, if_neg (not_lt.mpr h)]

/-! ## Parsing -/

/-- Parses that give the same tree. -/
structure Parsed.Follows (L : List LogLine → List LogLine → Prop) (p p' : Parsed) : Prop where
  tree : p'.tree = p.tree
  nextId : p'.nextId = p.nextId
  log : L p.log p'.log

theorem Reports.parse (hL : Reports R L) (h : R i j) (kind : Kind) (nextId : NodeId)
    (m : CodePoints) :
    (parseMarkup kind i nextId m).Follows L (parseMarkup kind j nextId m) := by
  have halike := hL.alike h
  cases kind with
  | html =>
    have hsettings : Html.Settings.ofOptions j = Html.Settings.ofOptions i := by
      rw [Html.Settings.ofOptions, Html.Settings.ofOptions, halike.has_eq .noBlanks rfl,
        halike.has_eq .noComments rfl, halike.has_eq .huge rfl]
    refine ⟨?_, ?_, ?_⟩
    · simp only [parseMarkup, parseHtml, hsettings]
    · simp only [parseMarkup, parseHtml, hsettings]
    · simp only [parseMarkup, parseHtml, hsettings]
      refine hL.append (hL.notices h _ _) ?_
      split
      · exact hL.debug _
      · exact hL.nil
  | xml =>
    have hsettings : Xml.Settings.ofOptions j = Xml.Settings.ofOptions i := by
      rw [Xml.Settings.ofOptions, Xml.Settings.ofOptions, halike.has_eq .noCData rfl,
        halike.has_eq .noBlanks rfl, halike.has_eq .noComments rfl, halike.has_eq .huge rfl]
    simp only [parseMarkup, parseXml, hsettings]
    split
    · exact ⟨rfl, rfl, hL.append (hL.debug _) (hL.notices h _ _)⟩
    · refine ⟨rfl, rfl, hL.append (hL.notices h _ _) ?_⟩
      split
      · exact hL.debug _
      · exact hL.nil

/-! ## Documents -/

/-- A document with other options. -/
def Document.withOptions (d : Document) (j : Options) : Document := { d with options := j }

/-- An answer in which documents have other options. -/
def Answer.withOptions (j : Options) : Answer → Answer
  | .documents ds => .documents (ds.map (·.withOptions j))
  | a => a

variable {d : Document} {α : Type}

/-- Outcomes that differ at most in the options of documents and in what is reported. -/
structure Outcome.Follows (L : List LogLine → List LogLine → Prop) (j : Options)
    (out out' : Outcome Answer) : Prop where
  result : out'.result = out.result.map (Answer.withOptions j)
  document : out'.document = out.document.withOptions j
  log : L out.log out'.log

theorem Document.take_withOptions {p p' : Parsed} (h : p.Follows L p') (d : Document) (j : Options) :
    (d.withOptions j).take p' = (d.take p).withOptions j := by
  rw [Document.take, Document.take, h.tree, h.nextId]
  split <;> rfl

/-- An outcome whose document has other options. -/
def Outcome.withOptions (j : Options) (out : Outcome α) : Outcome α :=
  { out with document := out.document.withOptions j }

theorem Outcome.success_withOptions (out : Outcome α) (j : Options) :
    (out.withOptions j).success = out.success.map (·.withOptions j) := by
  obtain ⟨_ | _, _, _⟩ := out <;> rfl

theorem Document.install_withOptions (d : Document) (j : Options) (root : Option NodeId) :
    (d.withOptions j).install root = (d.install root).withOptions j := by
  cases root with
  | none => rfl
  | some r =>
    unfold Document.install
    dsimp only
    rw [show (d.withOptions j).namespaces = d.namespaces from rfl]
    cases contextSpaces d.namespaces <;> rfl

/-- An opening with some options. -/
def Opening.withOptions (o : Opening) (i : Options) : Opening := { o with options := .int i }

theorem Opening.settle_withOptions (o : Opening) (hi : 0 ≤ i) (hj : 0 ≤ j) :
    (o.withOptions j).settle = (o.withOptions i).settle.map (·.withOptions j) := by
  have hkept {k : Options} (hk : 0 ≤ k) : Options.ofDatum (.int k) = .ok k := by
    rw [Options.ofDatum, Options.kept_of_nonneg hk]
  obtain ⟨markup, kind, options, translator, namespaces⟩ := o
  dsimp only [Opening.withOptions, Opening.settle]
  rw [hkept hi, hkept hj]
  split
  · rfl
  · cases Kind.ofDatum kind with
    | error f => rfl
    | ok kind =>
      cases (translator.getD (.translator .path)).resolve with
      | error f => rfl
      | ok translator => cases mappingOf namespaces <;> rfl

/-- Documents are opened alike, with the options that each is given. -/
theorem Reports.opening (hL : Reports R L) (h : R i j) (o : Opening) :
    (o.withOptions j).run.1 = (o.withOptions i).run.1.map (·.withOptions j) ∧
      L (o.withOptions i).run.2 (o.withOptions j).run.2 ∧
        ∀ d, (o.withOptions i).run.1 = .ok d → d.options = i := by
  obtain ⟨hi, hj⟩ := (hL.alike h).nonneg
  have hoptions : ∀ d, (o.withOptions i).run.1 = .ok d → d.options = i := by
    intro d hd
    obtain ⟨-, hgiven, -⟩ := Opening.settings hd
    exact (Except.ok.inj hgiven).symm.trans (Options.kept_of_nonneg hi)
  refine and_assoc.mp ⟨?_, hoptions⟩
  have hsettle := o.settle_withOptions hi hj
  cases hd : (o.withOptions i).settle with
  | error f =>
    rw [hd] at hsettle
    rw [Opening.run, Opening.run, hd, hsettle]
    exact ⟨rfl, hL.nil⟩
  | ok d =>
    rw [hd] at hsettle
    have hdoptions : d.options = i := by
      have hgiven := (Opening.settles_of_settle hd).options
      exact (Except.ok.inj hgiven).symm.trans (Options.kept_of_nonneg hi)
    generalize hm : o.markup.read d.kind = m
    have hparse : (d.parse m).Follows L ((d.withOptions j).parse m) := by
      have hfollows := hL.parse h d.kind d.nextId m
      rwa [← hdoptions] at hfollows
    have hrun : (o.withOptions i).run
        = (((d.take (d.parse m)).install ((d.parse m).tree.map (·.2))).success, (d.parse m).log) :=
      hm ▸ Opening.run_eq hd
    have hrun' : (o.withOptions j).run = ((((d.withOptions j).take ((d.withOptions j).parse m)).install
        (((d.withOptions j).parse m).tree.map (·.2))).success, ((d.withOptions j).parse m).log) :=
      hm ▸ Opening.run_eq hsettle
    rw [hrun, hrun', Document.take_withOptions hparse, hparse.tree, Document.install_withOptions]
    exact ⟨Outcome.success_withOptions _ j, hparse.log⟩

/-! ## Nested documents -/

theorem Reports.spawn (hL : Reports R L) (h : R d.options j) (m : Chars) :
    ((d.withOptions j).spawn m).1 = (d.spawn m).1.map (·.withOptions j) ∧
      L (d.spawn m).2 ((d.withOptions j).spawn m).2 := by
  obtain ⟨hresult, hlog, -⟩ := hL.opening h
    { markup := .text (codePoints m), kind := .text d.kind.name
      translator := some (.translator d.translator), namespaces := .dict d.namespaces }
  exact ⟨hresult, hlog⟩

theorem Reports.spawnAll (hL : Reports R L) (h : R d.options j) (ms : List Chars) :
    ((d.withOptions j).spawnAll ms).1 = (d.spawnAll ms).1.map (·.map (·.withOptions j)) ∧
      L (d.spawnAll ms).2 ((d.withOptions j).spawnAll ms).2 := by
  induction ms with
  | nil => exact ⟨rfl, hL.nil⟩
  | cons m ms ih =>
    obtain ⟨hresult, hlog⟩ := hL.spawn h m
    rw [Document.spawnAll, Document.spawnAll]
    rcases hspawn : d.spawn m with ⟨_ | n, log⟩
    all_goals
      rcases hspawn' : (d.withOptions j).spawn m with ⟨_ | n', log'⟩
      all_goals
        rw [hspawn, hspawn'] at hresult hlog
    · exact ⟨congrArg Except.error (Except.error.inj hresult), hlog⟩
    · cases hresult
    · cases hresult
    · obtain rfl := Except.ok.inj hresult
      refine ⟨?_, hL.append hlog ih.2⟩
      dsimp only
      rw [ih.1]
      cases (d.spawnAll ms).1 <;> rfl

theorem Reports.nested (hL : Reports R L) (h : R d.options j) (selector : String) (outer : Bool) :
    ((d.withOptions j).nested selector outer).1
        = (d.nested selector outer).1.map (·.map (·.withOptions j)) ∧
      L (d.nested selector outer).2 ((d.withOptions j).nested selector outer).2 := by
  have hhtml : (d.withOptions j).html selector outer = d.html selector outer := rfl
  rw [Document.nested, Document.nested, hhtml]
  cases d.html selector outer with
  | error f => exact ⟨rfl, hL.nil⟩
  | ok ms => exact hL.spawnAll h (ms.map (d.nestedSource outer))

theorem Reports.records (hL : Reports R L) (h : R d.options j) (base : String)
    (fields : List (String × String)) :
    ((d.withOptions j).records base fields).1 = (d.records base fields).1 ∧
      L (d.records base fields).2 ((d.withOptions j).records base fields).2 := by
  obtain ⟨hresult, hlog⟩ := hL.nested h base false
  rw [Document.records, Document.records]
  rcases hnested : d.nested base false with ⟨_ | ns, log⟩
  all_goals
    rcases hnested' : (d.withOptions j).nested base false with ⟨_ | ns', log'⟩
    all_goals
      rw [hnested, hnested'] at hresult hlog
  · exact ⟨congrArg Except.error (Except.error.inj hresult), hlog⟩
  · cases hresult
  · cases hresult
  · obtain rfl := Except.ok.inj hresult
    exact ⟨List.mapM_map, hlog⟩

/-! ## Changes -/

theorem Document.takeOutNode_withOptions (d : Document) (j : Options) (n : NodeId) :
    (d.withOptions j).takeOutNode n = (d.takeOutNode n).withOptions j := by
  have hsiblings : (d.withOptions j).siblingsOf? n = d.siblingsOf? n := rfl
  have hspot : (d.withOptions j).spot? n = d.spot? n := rfl
  rw [Document.takeOutNode, Document.takeOutNode, hsiblings, hspot]
  split
  · dsimp only
    split
    · rfl
    · split <;> rfl
  · rfl

theorem Document.detach_withOptions (d : Document) (j : Options) (s : Selected) :
    (d.withOptions j).detach s = (d.detach s).withOptions j := by
  cases s with
  | node n =>
    rw [Document.detach, Document.detach, show (d.withOptions j).root = d.root from rfl]
    split
    · exact d.install_withOptions j none
    · exact d.takeOutNode_withOptions j n
  | text owner after => cases after <;> rfl
  | _ => rfl

theorem Document.detachAll_withOptions (d : Document) (j : Options) (ss : List Selected) :
    (d.withOptions j).detachAll ss = (d.detachAll ss).withOptions j := by
  induction ss generalizing d with
  | nil => rfl
  | cons s ss ih =>
    rw [Document.detachAll, Document.detachAll, d.detach_withOptions j s]
    dsimp only [Outcome.withOptions]
    split
    · exact ih _
    · rfl

theorem Document.remove_withOptions (d : Document) (j : Options) (s : String) :
    (d.withOptions j).remove s = (d.remove s).withOptions j := by
  have hfind : (d.withOptions j).find s = d.find s := rfl
  rw [Document.remove, Document.remove, hfind]
  split
  · rfl
  · rw [d.detachAll_withOptions j]
    dsimp only [Outcome.withOptions]
    split <;> rfl

theorem Document.setTranslator_withOptions (d : Document) (j : Options) (t : TranslatorSource) :
    (d.withOptions j).setTranslator t = (d.setTranslator t).withOptions j := by
  rw [Document.setTranslator, Document.setTranslator]
  split <;> rfl

theorem Document.registerNamespace_withOptions (d : Document) (j : Options) (label name : Datum) :
    (d.withOptions j).registerNamespace label name = (d.registerNamespace label name).withOptions j := by
  rw [Document.registerNamespace, Document.registerNamespace]
  split
  · rfl
  · obtain ⟨kind, options, translator, namespaces, trees, root, context, epoch, nextId⟩ := d
    cases context with
    | none => rfl
    | some c =>
      dsimp only [Document.withOptions]
      cases contextPair label name <;> rfl

/-! ## Logs of changes -/

/-- A log without diagnostics. -/
def IsQuiet (log : List LogLine) : Prop := log = [] ∨ ∃ message, log = [⟨"DEBUG", message⟩]

theorem IsQuiet.related (hL : Reports R L) {log : List LogLine} (h : IsQuiet log) : L log log := by
  obtain rfl | ⟨message, rfl⟩ := h
  · exact hL.nil
  · exact hL.debug message

theorem Document.log_detach (d : Document) (s : Selected) : (d.detach s).log = [] := by
  cases s with
  | node n =>
    rw [Document.detach]
    split
    · rfl
    · rw [Document.takeOutNode]
      split
      · dsimp only
        split
        · rfl
        · split <;> rfl
      · rfl
  | text owner after => cases after <;> rfl
  | _ => rfl

theorem Document.isQuiet_remove (d : Document) (s : String) : IsQuiet (d.remove s).log := by
  have hdetach (ss : List Selected) : (d.detachAll ss).log = [] := by
    induction ss generalizing d with
    | nil => rfl
    | cons s ss ih =>
      rw [Document.detachAll]
      split
      · exact ih _
      · rfl
  rw [Document.remove]
  split
  · exact .inl rfl
  · dsimp only
    split
    · exact .inr ⟨_, rfl⟩
    · exact .inl (hdetach _)

theorem Document.isQuiet_setTranslator (d : Document) (t : TranslatorSource) :
    IsQuiet (d.setTranslator t).log := by
  rw [Document.setTranslator]
  split <;> exact .inl rfl

theorem Document.isQuiet_registerNamespace (d : Document) (label name : Datum) :
    IsQuiet (d.registerNamespace label name).log := by
  have hregisters := d.registers label name
  generalize d.registerNamespace label name = out at hregisters ⊢
  cases hregisters <;> exact .inl rfl

/-! ## Operations -/

theorem Reports.replace (hL : Reports R L) (h : R d.options j) (p : PatternSource)
    (replacement : Replacement) :
    ((d.withOptions j).replace p replacement).result = (d.replace p replacement).result ∧
      ((d.withOptions j).replace p replacement).document
        = (d.replace p replacement).document.withOptions j ∧
      L (d.replace p replacement).log ((d.withOptions j).replace p replacement).log := by
  have hrewritten : (d.withOptions j).rewritten p replacement = d.rewritten p replacement := rfl
  rw [Document.replace, Document.replace, hrewritten]
  rcases d.rewritten p replacement with _ | ⟨r, s⟩
  · exact ⟨rfl, rfl, hL.nil⟩
  · dsimp only
    generalize codePoints (if isAllBlank s then emptyMarkup else s) = m
    have hparse : (parseMarkup d.kind d.options d.nextId m).Follows L
        (parseMarkup (d.withOptions j).kind (d.withOptions j).options (d.withOptions j).nextId m) :=
      hL.parse h d.kind d.nextId m
    generalize parseMarkup d.kind d.options d.nextId m = parsed at hparse ⊢
    generalize parseMarkup (d.withOptions j).kind (d.withOptions j).options (d.withOptions j).nextId m
      = parsed' at hparse ⊢
    rw [hparse.tree]
    cases parsed.tree with
    | none => exact ⟨rfl, rfl, hparse.log⟩
    | some tree =>
      obtain ⟨f, root⟩ := tree
      dsimp only
      rw [Document.take_withOptions hparse, Document.install_withOptions]
      generalize (d.take parsed).install (some root) = out
      obtain ⟨_ | _, document, log⟩ := out
      · exact ⟨rfl, rfl, hparse.log⟩
      · exact ⟨rfl, rfl, hL.append hparse.log (hL.debug _)⟩

/-- An operation on a document with other options has an outcome that differs in nothing else. -/
theorem Reports.perform (hL : Reports R L) (h : R d.options j) (op : Operation) :
    Outcome.Follows L j (d.perform op) ((d.withOptions j).perform op) := by
  -- most answers hold no documents, so they are the same whatever the options
  have hmap {β : Type} {x : Except Fault β} {g : β → Answer}
      (hg : ∀ b, (g b).withOptions j = g b) : (x.map g).map (Answer.withOptions j) = x.map g := by
    cases x with
    | error f => rfl
    | ok b => exact congrArg Except.ok (hg b)
  have hgiving {β : Type} (x : Except Fault β) {g : β → Answer} (hg : ∀ b, (g b).withOptions j = g b) :
      Outcome.Follows L j (d.giving (x.map g)) ((d.withOptions j).giving (x.map g)) :=
    ⟨(hmap hg).symm, rfl, hL.nil⟩
  have hchange {out : Outcome Unit} (hquiet : IsQuiet out.log) :
      Outcome.Follows L j (out.map fun _ => .done) ((out.withOptions j).map fun _ => .done) :=
    ⟨(hmap fun _ => rfl).symm, rfl, hquiet.related hL⟩
  cases op with
  | nested s outer =>
    obtain ⟨hresult, hlog⟩ := hL.nested h s outer
    refine ⟨?_, rfl, hlog⟩
    change ((d.withOptions j).nested s outer).1.map Answer.documents
      = ((d.nested s outer).1.map Answer.documents).map (Answer.withOptions j)
    rw [hresult]
    cases (d.nested s outer).1 <;> rfl
  | records base fields =>
    obtain ⟨hresult, hlog⟩ := hL.records h base fields
    refine ⟨?_, rfl, hlog⟩
    change ((d.withOptions j).records base fields).1.map Answer.records
      = ((d.records base fields).1.map Answer.records).map (Answer.withOptions j)
    rw [hresult, hmap fun _ => rfl]
  | handle handle call =>
    cases call with
    | remove =>
      change Outcome.Follows L j ((handle.remove d).map _) ((handle.remove (d.withOptions j)).map _)
      have hremove : handle.remove (d.withOptions j) = (handle.remove d).withOptions j := by
        rw [Handle.remove, Handle.remove, show handle.isStale (d.withOptions j) = handle.isStale d from rfl]
        split
        · rfl
        · exact d.detach_withOptions j handle.selected
      rw [hremove]
      refine hchange ?_
      rw [Handle.remove]
      split
      · exact .inl rfl
      · exact .inl (d.log_detach _)
    | _ => exact hgiving _ fun _ => rfl
  | setTranslator t =>
    change Outcome.Follows L j ((d.setTranslator t).map _) (((d.withOptions j).setTranslator t).map _)
    rw [d.setTranslator_withOptions j t]
    exact hchange (d.isQuiet_setTranslator t)
  | registerNamespace label name =>
    change Outcome.Follows L j ((d.registerNamespace label name).map _)
      (((d.withOptions j).registerNamespace label name).map _)
    rw [d.registerNamespace_withOptions j label name]
    exact hchange (d.isQuiet_registerNamespace label name)
  | remove s =>
    change Outcome.Follows L j ((d.remove s).map _) (((d.withOptions j).remove s).map _)
    rw [d.remove_withOptions j s]
    exact hchange (d.isQuiet_remove s)
  | replace p replacement =>
    obtain ⟨hresult, hdocument, hlog⟩ := hL.replace h p replacement
    refine ⟨?_, hdocument, hlog⟩
    change ((d.withOptions j).replace p replacement).result.map _
      = ((d.replace p replacement).result.map _).map (Answer.withOptions j)
    rw [hresult]
    exact (hmap fun _ => rfl).symm
  | markup => exact ⟨rfl, rfl, hL.nil⟩
  | close => exact ⟨rfl, rfl, hL.nil⟩
  | _ => exact hgiving _ fun _ => rfl

/-! ## Sessions -/

/-- Documents that differ in nothing but their options. -/
structure Document.SameBut (R : Options → Options → Prop) (d d' : Document) : Prop where
  options : R d.options d'.options
  eq : d' = d.withOptions d'.options

/-- Answers that differ in nothing but the options of documents. -/
inductive Answer.SameBut (R : Options → Options → Prop) : Answer → Answer → Prop
  | documents {ds ds' : List Document} (h : List.Forall₂ (Document.SameBut R) ds ds') :
      SameBut R (.documents ds) (.documents ds')
  | same (a : Answer) : SameBut R a a

/-- What two events come to differs in nothing but the options of documents. -/
inductive SameButAnswer (R : Options → Options → Prop) :
    Option (Except Fault Answer) → Option (Except Fault Answer) → Prop
  | none : SameButAnswer R none none
  | error (f : Fault) : SameButAnswer R (some (.error f)) (some (.error f))
  | ok {a a' : Answer} (h : a.SameBut R a') : SameButAnswer R (some (.ok a)) (some (.ok a'))

/-- The same events, but for the options of the documents that are opened. -/
inductive Event.SameBut (R : Options → Options → Prop) : Event → Event → Prop
  | opening (o : Opening) {i j : Options} (h : R i j) :
      SameBut R (.opening (o.withOptions i)) (.opening (o.withOptions j))
  | on (k : Nat) (op : Operation) : SameBut R (.on k op) (.on k op)

/-- What an event comes to in a session: an answer or a fault, unless there is no such document. -/
def Session.answer (s : Session) : Event → Option (Except Fault Answer)
  | .opening o => some (o.run.1.map fun d => .documents [d])
  | .on k op => s.documents[k]?.map fun d => (d.perform op).result

/-- What an event logs in a session. -/
def Session.logged (s : Session) : Event → List LogLine
  | .opening o => o.run.2
  | .on k op => (s.documents[k]?.map fun d => (d.perform op).log).getD []

/-- What some events come to. -/
def Session.answers (s : Session) : List Event → List (Option (Except Fault Answer))
  | [] => []
  | e :: es => s.answer e :: (s.step e).answers es

/-- The log of some events. -/
def Session.log (s : Session) : List Event → List LogLine
  | [] => []
  | e :: es => s.logged e ++ (s.step e).log es

/-- Related lists have related items, or no item, at every place. -/
theorem getElem?_of_forall₂ {β γ : Type} {S : β → γ → Prop} {as : List β} {bs : List γ}
    (h : List.Forall₂ S as bs) (k : Nat) :
    as[k]? = none ∧ bs[k]? = none ∨ ∃ a b, as[k]? = some a ∧ bs[k]? = some b ∧ S a b := by
  induction h generalizing k with
  | nil => exact .inl ⟨rfl, rfl⟩
  | cons hab _ ih =>
    cases k with
    | zero => exact .inr ⟨_, _, rfl, rfl, hab⟩
    | succ k => exact ih k

theorem forall₂_set {β γ : Type} {S : β → γ → Prop} {as : List β} {bs : List γ} {a : β} {b : γ}
    (h : List.Forall₂ S as bs) (k : Nat) (hab : S a b) : List.Forall₂ S (as.set k a) (bs.set k b) := by
  induction h generalizing k with
  | nil => exact .nil
  | cons hfirst hrest ih =>
    cases k with
    | zero => exact .cons hab hrest
    | succ k => exact .cons hfirst (ih k)

/-- Documents that an operation gives have the options of the document that it is carried out on. -/
theorem Document.options_of_mem_documentsIn (h : 0 ≤ d.options) (op : Operation) {n : Document}
    (hn : n ∈ documentsIn (d.perform op).result) : n.options = d.options := by
  obtain ⟨m, hspawn⟩ := d.mem_documentsIn op n hn
  obtain ⟨-, hoptions, -⟩ := Opening.settings hspawn
  exact (Except.ok.inj hoptions).symm.trans (Options.kept_of_nonneg h)

/-- Documents that get other options differ in nothing else. -/
theorem forall₂_withOptions {ds : List Document} (h : ∀ n ∈ ds, R n.options j) :
    List.Forall₂ (Document.SameBut R) ds (ds.map (·.withOptions j)) := by
  rw [List.forall₂_map_right_iff, List.forall₂_same]
  exact fun n hn => ⟨h n hn, rfl⟩

theorem sameBut_withOptions {x : Except Fault Answer} (h : ∀ n ∈ documentsIn x, R n.options j) :
    SameButAnswer R (some x) (some (x.map (Answer.withOptions j))) ∧
      List.Forall₂ (Document.SameBut R) (documentsIn x) (documentsIn (x.map (Answer.withOptions j))) := by
  cases x with
  | error f => exact ⟨.error f, .nil⟩
  | ok a =>
    cases a with
    | documents ds => exact ⟨.ok (.documents (forall₂_withOptions h)), forall₂_withOptions h⟩
    | _ => exact ⟨.ok (.same _), .nil⟩

/-- One event in two sessions that differ in nothing but options. -/
theorem Reports.step (hL : Reports R L) {s s' : Session} {e e' : Event}
    (hs : List.Forall₂ (Document.SameBut R) s.documents s'.documents) (he : e.SameBut R e') :
    SameButAnswer R (s.answer e) (s'.answer e') ∧
      List.Forall₂ (Document.SameBut R) (s.step e).documents (s'.step e').documents ∧
      L (s.logged e) (s'.logged e') := by
  cases he with
  | opening o h =>
    obtain ⟨hresult, hlog, hoptions⟩ := hL.opening h o
    rw [Session.answer, Session.answer, Session.step, Session.step, hresult]
    cases hrun : (o.withOptions _).run.1 with
    | error f => exact ⟨.error f, hs, hlog⟩
    | ok d =>
      have hd : d.SameBut R (d.withOptions _) := ⟨hoptions d hrun ▸ h, rfl⟩
      exact ⟨.ok (.documents (.cons hd .nil)), List.rel_append hs (.cons hd .nil), hlog⟩
  | on k op =>
    rw [Session.answer, Session.answer, Session.step, Session.step, Session.logged, Session.logged]
    rcases getElem?_of_forall₂ hs k with ⟨hk, hk'⟩ | ⟨d, d', hk, hk', hd⟩
    · rw [hk, hk']
      exact ⟨.none, hs, hL.nil⟩
    · rw [hk, hk']
      have hfollows := hL.perform hd.options op
      rw [← hd.eq] at hfollows
      have hnonneg := (hL.alike hd.options).nonneg.1
      obtain ⟨hanswer, hdocuments⟩ := sameBut_withOptions (R := R) (j := d'.options)
        (x := (d.perform op).result) fun n hn =>
          d.options_of_mem_documentsIn hnonneg op hn ▸ hd.options
      have hdocument : (d.perform op).document.SameBut R (d'.perform op).document := by
        rw [hfollows.document]
        exact ⟨(d.fixed_perform op).2 ▸ hd.options, rfl⟩
      dsimp only [Option.map_some, Option.getD_some]
      rw [hfollows.result]
      exact ⟨hanswer, List.rel_append (forall₂_set hs k hdocument) hdocuments, hfollows.log⟩

/-- Some events in two sessions that differ in nothing but options. -/
theorem Reports.run (hL : Reports R L) {s s' : Session} {es es' : List Event}
    (hs : List.Forall₂ (Document.SameBut R) s.documents s'.documents)
    (hes : List.Forall₂ (Event.SameBut R) es es') :
    List.Forall₂ (SameButAnswer R) (s.answers es) (s'.answers es') ∧
      List.Forall₂ (Document.SameBut R) (s.run es).documents (s'.run es').documents ∧
      L (s.log es) (s'.log es') := by
  induction hes generalizing s s' with
  | nil => exact ⟨.nil, hs, hL.nil⟩
  | cons he _ ih =>
    obtain ⟨hanswer, hdocuments, hlog⟩ := hL.step hs he
    obtain ⟨hanswers, hdocuments, hlogs⟩ := ih hdocuments
    exact ⟨.cons hanswer hanswers, hdocuments, hL.append hlog hlogs⟩

/-- In two sessions in which the same happens, but for the options that say what is reported, all answers
and faults are the same and so are the documents in the end, but for these options. If those of one
session keep further levels quiet, its log is that of the other without the diagnostics of these
levels. -/
theorem Session.reporting {es es' : List Event}
    (h : List.Forall₂ (Event.SameBut Options.ParseAlike) es es') :
    List.Forall₂ (SameButAnswer Options.ParseAlike)
        (Session.empty.answers es) (Session.empty.answers es') ∧
      List.Forall₂ (Document.SameBut Options.ParseAlike)
        (Session.empty.run es).documents (Session.empty.run es').documents ∧
      ∀ quiet, List.Forall₂ (Event.SameBut (Options.Quieter quiet)) es es' →
        Session.empty.log es' = (Session.empty.log es).filter (LogLine.isKept quiet) := by
  have hempty {S : Options → Options → Prop} : List.Forall₂ (Document.SameBut S)
      Session.empty.documents Session.empty.documents := .nil
  obtain ⟨hanswers, hdocuments, -⟩ := reports_parseAlike.run hempty h
  exact ⟨hanswers, hdocuments, fun quiet hquiet => ((reports_quieter quiet).run hempty hquiet).2.2⟩

/-- Markup in which an element is not closed. -/
def unclosedOpening : Opening := { markup := .text (codePoints "<r><a></r>".toList), kind := .int 1 }

/-- The diagnostics of unclosed markup are logged or kept quiet. -/
theorem reporting_unclosed :
    ((Session.empty.log [.opening (unclosedOpening.withOptions 4), .on 0 (.remove "//a")]).any
        fun l => l.level == "ERROR") = true ∧
      Session.empty.log [.opening (unclosedOpening.withOptions 7), .on 0 (.remove "//a")]
        = (Session.empty.log [.opening (unclosedOpening.withOptions 4), .on 0 (.remove "//a")]).filter
            (LogLine.isKept fun _ => true) := by
  have halike : Options.ParseAlike 4 7 := ⟨by decide, by rintro (_ | _) <;> decide⟩
  have hquieter : Options.Quieter (fun _ => true) 4 7 := ⟨halike, by rintro (_ | _) <;> decide⟩
  have hreporting := Session.reporting
    (.cons (.opening unclosedOpening halike) (.cons (.on 0 (.remove "//a")) .nil))
  refine ⟨by decide +kernel, hreporting.2.2 (fun _ => true) ?_⟩
  exact .cons (.opening unclosedOpening hquieter) (.cons (.on 0 _) .nil)

end MarkupQuery
