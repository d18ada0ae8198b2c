import MarkupQuery.Proofs.Pattern.Stopping

/-!
# What stops the reading of a template

A template is wrong, or it refers to a group by a name that the pattern does not have; such a reference then
stands in its text (`readTemplate_unknownName`). Nothing else stops its reading (`templateParts_fails`).
-/

namespace MarkupQuery.Pattern

open MarkupQuery.Text

variable {text w : Chars} {b : Causes} {groups : Nat} {names : List (String × Nat)}

/-- A reference by name that stands in a template. -/
def RefersTo (text name : Chars) : Prop := "\\g<".toList ++ name ++ ['>'] <:+: text

/-- A template refers to a group by a name that is none of the names of the groups. -/
structure RefersWrongly (names : List (String × Nat)) (text : Chars) (name : String) : Prop where
  refers : RefersTo text name.toList
  identifier : isIdentifier name.toList = true
  unknown : ∀ x ∈ names, x.1 ≠ name

theorem consumes_bracketReference : Consumes b text (w ++ ['\\', 'g']) (bracketReference names) fun _ r =>
    ∀ name, r = .inr name → RefersWrongly names text name := by
  unfold bracketReference
  refine (consumes_accept '<').bind fun v taken hv _ => ?_
  cases taken with
  | false => exact consumes_failBack _ _
  | true =>
    rw [if_pos rfl] at hv
    rw [if_neg (by simp)]
    refine consumes_get fun st _ => (consumes_takeName _ _ _ _ _).bind fun v' name ⟨more, hname, hv'⟩ hprefix => ?_
    split
    · next hidentifier =>
      dsimp only
      split
      · exact consumes_pure nofun
      · next hfind =>
        refine consumes_pure fun key hkey => ?_
        obtain rfl := Sum.inr.inj hkey
        refine ⟨?_, ?_, ?_⟩
        · rw [RefersTo, String.toList_ofList, hname, List.nil_append]
          rw [hv', hv] at hprefix
          exact List.IsInfix.trans ⟨w, [], by simp⟩ hprefix.isInfix
        · rwa [String.toList_ofList]
        · intro x hx heq
          have hne := List.find?_eq_none.mp hfind x hx
          simp [heq] at hne
    · split
      · exact consumes_ite (consumes_failBack _ _) (consumes_pure nofun)
      · exact consumes_failBack _ _

theorem goes_checkGroup (index back : Nat) : Goes b text (checkGroup groups index back) :=
  goes_ite (goes_failBack _ _) (goes_pure _)

theorem goes_digitReference (c : Char) : Goes b text (digitReference groups c) := by
  unfold digitReference
  refine goes_ite ((goes_takeWhileClass _ _).bind fun _ => goes_pure _) ?_
  refine (goes_takeWhileClass _ _).bind fun ds => ?_
  split
  · refine goes_ite ((goes_takeWhileClass _ _).bind fun more => ?_) (goes_checkGroup _ _)
    split
    · exact (goes_checkOctal _).bind fun _ => goes_pure _
    · exact goes_checkGroup _ _
  · exact goes_checkGroup _ _

theorem consumes_templateParts (fuel : Nat) : ∀ w, Consumes b text w (templateParts groups names fuel) fun _ r =>
    ∀ name, r = .inr name → RefersWrongly names text name := by
  induction fuel with
  | zero =>
    intro w
    refine consumes_pure fun name hname => ?_
    cases hname
  | succ fuel ih =>
    intro w
    -- a part is read, and a wrong name can only stand in what follows it
    have hcons (p : TemplatePart) (w : Chars)
        {x : List TemplatePart ⊕ String → Read (List TemplatePart ⊕ String)}
        (hparts : ∀ ps, x (.inl ps) = pure (.inl (p :: ps)) := by exact fun _ => rfl)
        (hname : ∀ name, x (.inr name) = pure (.inr name) := by exact fun _ => rfl) :
        Consumes b text w (templateParts groups names fuel >>= x) fun _ r =>
          ∀ name, r = Sum.inr name → RefersWrongly names text name := by
      refine (ih w).bind fun v r hr _ => ?_
      cases r with
      | inl ps =>
        rw [hparts]
        refine consumes_pure fun name heq => ?_
        cases heq
      | inr name =>
        rw [hname]
        exact consumes_pure hr
    rw [templateParts]
    dsimp only
    refine consumes_next.bind fun v o hv _ => ?_
    subst hv
    split
    · refine consumes_pure fun name hname => ?_
      cases hname
    · exact hcons _ _
    · refine consumes_get fun st _ => consumes_bracketReference.bind fun v r hr _ => ?_
      split
      · next name =>
        refine consumes_pure fun key hkey => hr key ?_
        rw [Sum.inr.inj hkey]
      · exact consumes_get fun st _ => (goes_checkGroup _ _ v).bind fun v p _ _ => hcons p v
    · refine consumes_ite ((goes_digitReference _ _).bind fun v p _ _ => hcons p v) ?_
      split
      · exact hcons _ _
      · exact consumes_ite (consumes_failBack _ _) (hcons _ _)

/-- Nothing but an error in the template stops the reading of its parts. -/
theorem templateParts_fails {s : Source} (hs : Source.start text = .ok s) (fuel : Nat) :
    Ends onlyErrors.holds (fun r => ∀ name, r.1 = .inr name → RefersWrongly names text name)
      ((templateParts groups names fuel).run ⟨s, {}, [], [], none, [], (false, false)⟩) := by
  have hstart : At text [] ⟨s, {}, [], [], none, [], (false, false)⟩ := at_start hs nofun nofun
  exact (consumes_templateParts fuel [] _ hstart).mono (fun _ h => h) fun _ ⟨_, _, h⟩ => h

/-- **A name that a template refers to without there being such a group stands in its text.** -/
theorem readTemplate_unknownName {name : String} (h : readTemplate groups names text = .error (.unknownName name)) :
    RefersWrongly names text name := by
  unfold readTemplate at h
  split at h
  · cases h
  · cases hs : Source.start text with
    | error e =>
      rw [hs] at h
      cases h
    | ok s =>
      rw [hs] at h
      dsimp only at h
      have hparts : Ends onlyErrors.holds (fun r => ∀ name, r.1 = .inr name → RefersWrongly names text name)
          ((templateParts groups names (text.length + 1)).run ⟨s, {}, [], [], none, [], (false, false)⟩) :=
        templateParts_fails hs _
      split at h
      · cases h
      · cases h
      · cases h
      · next hrun =>
        obtain rfl := TemplateFault.unknownName.inj (Except.error.inj h)
        exact hparts.value hrun _ rfl

end MarkupQuery.Pattern
