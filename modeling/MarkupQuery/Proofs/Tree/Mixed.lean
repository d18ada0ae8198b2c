import Mathlib
import MarkupQuery.Query.Function

/-!
# Mixed content

The content of an element as texts and items in turn: a text, an item, the text after it, and so on.
When an item is taken out the text after it joins the text before it.

Texts can only be joined if what comes out may stand in a tree. Whether all texts that meet can be
joined once some items are gone (`mends`) does not depend on the order in which they go: it holds
exactly if any one of them can be taken out and it still holds of what is left
(`mends_eq_joins_and`).
-/

namespace MarkupQuery.Tree

open MarkupQuery.Text MarkupQuery.Query

/-- Mixed content: a text, or a text before an item and more content. -/
inductive Mixed (α : Type) where
  | last (text : Chars)
  | next (text : Chars) (item : α) (rest : Mixed α)
  deriving Repr

namespace Mixed

variable {α : Type} {p q : α → Bool}

/-- The text at the start. -/
def text : Mixed α → Chars
  | .last t => t
  | .next t _ _ => t

/-- The items in order. -/
def items : Mixed α → List α
  | .last _ => []
  | .next _ a rest => a :: rest.items

/-- Content with more text at its start. -/
def prepend (s : Chars) : Mixed α → Mixed α
  | .last t => .last (s ++ t)
  | .next t a rest => .next (s ++ t) a rest

theorem prepend_next (s t : Chars) (a : α) (rest : Mixed α) :
    (Mixed.next t a rest).prepend s = .next (s ++ t) a rest := rfl

@[simp] theorem prepend_nil (m : Mixed α) : m.prepend [] = m := by
  cases m <;> rfl

@[simp] theorem prepend_prepend (s t : Chars) (m : Mixed α) :
    (m.prepend t).prepend s = m.prepend (s ++ t) := by
  cases m <;> simp [prepend]

@[simp] theorem text_prepend (s : Chars) (m : Mixed α) : (m.prepend s).text = s ++ m.text := by
  cases m <;> rfl

@[simp] theorem items_prepend (s : Chars) (m : Mixed α) : (m.prepend s).items = m.items := by
  cases m <;> rfl

/-! ## Taking items out -/

/-- Content without the first item that goes. -/
def takeOut (q : α → Bool) : Mixed α → Mixed α
  | .last t => .last t
  | .next t a rest => if q a then rest.prepend t else .next t a (rest.takeOut q)

@[simp] theorem takeOut_prepend (s : Chars) (m : Mixed α) :
    (m.prepend s).takeOut q = (m.takeOut q).prepend s := by
  cases m with
  | last t => rfl
  | next t a rest =>
    rw [prepend_next, takeOut, takeOut]
    split
    · rw [prepend_prepend]
    · rfl

/-! ## Joining texts -/

/-- Whether the first item that goes can be taken out: the text after it is empty, or joined with
the text before it may stand in a tree. -/
def joins (q : α → Bool) : Mixed α → Bool
  | .last _ => true
  | .next t a rest =>
      if q a then rest.text.isEmpty || isMarkupText (t ++ rest.text) else rest.joins q

/-- What meets at the start of content once all items that go are gone: the text before the first of
them and the texts after it, up to the first item that stays. -/
structure Seam where
  before : Chars
  after : Chars
  /-- Whether all texts further on can be joined. -/
  sound : Bool

/-- Whether the texts of a seam and all further on can be joined. -/
def Seam.closes (s : Seam) : Bool :=
  s.sound && (s.after.isEmpty || isMarkupText (s.before ++ s.after))

/-- The seam at the start of content. -/
def seam (p : α → Bool) : Mixed α → Seam
  | .last t => ⟨t, [], true⟩
  | .next t a rest =>
      let s := rest.seam p
      if p a then ⟨t, s.before ++ s.after, s.sound⟩ else ⟨t, [], s.closes⟩

/-- Whether all texts that meet can be joined: between two items that stay, or an end, either there
is no text after the first item that goes, or all text there, joined, may stand in a tree. -/
def mends (p : α → Bool) (m : Mixed α) : Bool := (m.seam p).closes

@[simp] theorem isMarkupText_nil : isMarkupText [] = true := rfl

@[simp] theorem isMarkupText_append (s t : Chars) :
    isMarkupText (s ++ t) = true ↔ isMarkupText s = true ∧ isMarkupText t = true := by
  simp only [isMarkupText, List.all_append, Bool.and_eq_true]

theorem Seam.closes_iff (s : Seam) :
    s.closes = true ↔
      s.sound = true ∧ (s.after = [] ∨ isMarkupText (s.before ++ s.after) = true) := by
  simp only [Seam.closes, Bool.and_eq_true, Bool.or_eq_true, List.isEmpty_iff]

theorem seam_prepend (s : Chars) (m : Mixed α) :
    (m.prepend s).seam p = { m.seam p with before := s ++ (m.seam p).before } := by
  cases m with
  | last t => rfl
  | next t a rest =>
    simp only [prepend, seam]
    split <;> rfl

/-- A seam starts with the text at the start. -/
theorem before_seam (m : Mixed α) : (m.seam p).before = m.text := by
  cases m with
  | last t => rfl
  | next t a rest =>
    simp only [text, seam]
    split <;> rfl

/-- Taking out an item that goes anyway moves text of the seam over, and nothing else. If the rest
of the seam can be joined, it is sound before exactly if the item can be taken out and it is sound
after. -/
theorem seam_takeOut (hqp : ∀ a, q a = true → p a = true) (m : Mixed α) :
    (m.seam p).before ++ (m.seam p).after
        = ((m.takeOut q).seam p).before ++ ((m.takeOut q).seam p).after ∧
    ((m.seam p).closes = true ↔ m.joins q = true ∧ ((m.takeOut q).seam p).closes = true) ∧
    (isMarkupText ((m.seam p).before ++ (m.seam p).after) = true →
      ((m.seam p).sound = true ↔ m.joins q = true ∧ ((m.takeOut q).seam p).sound = true)) := by
  induction m with
  | last t => simp [takeOut, joins]
  | next t a rest ih =>
    cases hqa : q a with
    | true =>
      have hout : (Mixed.next t a rest).takeOut q = rest.prepend t := by simp [takeOut, hqa]
      have hjoins : (Mixed.next t a rest).joins q = true ↔
          (rest.seam p).before = [] ∨ isMarkupText (t ++ (rest.seam p).before) = true := by
        simp [joins, hqa, before_seam]
      have hseam : (Mixed.next t a rest).seam p
          = ⟨t, (rest.seam p).before ++ (rest.seam p).after, (rest.seam p).sound⟩ := by
        simp [seam, hqp a hqa]
      -- the item opens the seam here, and its text moves over to what comes after it
      rw [hout, hjoins, hseam, seam_prepend]
      simp only [Seam.closes_iff, List.append_assoc, List.append_eq_nil_iff, isMarkupText_append]
      refine ⟨trivial, ?_, ?_⟩ <;> grind [isMarkupText_nil]
    | false =>
      obtain ⟨htexts, hcloses, hsound⟩ := ih
      have hout : (Mixed.next t a rest).takeOut q = .next t a (rest.takeOut q) := by
        simp [takeOut, hqa]
      have hjoins : (Mixed.next t a rest).joins q = rest.joins q := by simp [joins, hqa]
      rw [hout, hjoins]
      cases hpa : p a with
      | true =>
        -- the rest of the seam comes after the item, so it can be joined if the whole seam can
        have hrest (h : ((rest.takeOut q).seam p).before ++ ((rest.takeOut q).seam p).after = [] ∨
            isMarkupText (t ++ (((rest.takeOut q).seam p).before ++
              ((rest.takeOut q).seam p).after)) = true) :
            (rest.seam p).sound = true ↔
              rest.joins q = true ∧ ((rest.takeOut q).seam p).sound = true := by
          apply hsound
          rw [htexts]
          rcases h with h | h
          · rw [h]
            rfl
          · exact ((isMarkupText_append _ _).mp h).2
        simp only [seam, hpa, if_true, Seam.closes_iff, htexts, true_and]
        constructor
        · constructor
          · rintro ⟨hs, h⟩
            exact ⟨((hrest h).mp hs).1, ((hrest h).mp hs).2, h⟩
          · rintro ⟨hj, hs, h⟩
            exact ⟨(hrest h).mpr ⟨hj, hs⟩, h⟩
        · exact fun h => hrest (.inr h)
      | false =>
        -- an item that stays closes the seam of the rest
        simp only [seam, hpa, Bool.false_eq_true, if_false, List.append_nil, true_and]
        exact ⟨by simpa [Seam.closes_iff] using hcloses, fun _ => hcloses⟩

/-- All texts that meet can be joined exactly if the first item of some that go can be taken out and
all texts that meet then can be joined. -/
theorem mends_eq_joins_and (hqp : ∀ a, q a = true → p a = true) (m : Mixed α) :
    m.mends p = (m.joins q && (m.takeOut q).mends p) := by
  rw [Bool.eq_iff_iff, Bool.and_eq_true]
  exact (seam_takeOut hqp m).2.1

/-- Where no item goes no texts meet. -/
theorem mends_of_items {m : Mixed α} (h : ∀ a ∈ m.items, p a = false) : m.mends p = true := by
  have hseam : (m.seam p).sound = true ∧ (m.seam p).after = [] := by
    induction m with
    | last t => exact ⟨rfl, rfl⟩
    | next t a rest ih =>
      obtain ⟨hsound, hafter⟩ := ih fun b hb => h b (by simp [items, hb])
      simp [seam, h a (by simp [items]), Seam.closes, hsound, hafter]
  simp [mends, Seam.closes, hseam]

end Mixed

end MarkupQuery.Tree
