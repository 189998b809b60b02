import Mathlib.Data.List.Basic

/-!
# Words joined by a separator

A list of words that do not hold the separator can be read back from the joined text. A word that
holds it can be mistaken for several; where the words stand around a fixed one, the mistaken
readings are those where the fixed word occurs once more.

## Main definitions

* `RunsOver` — the word before a framed word runs over it, into what comes after

## Main results

* `append_cons_left_inj`, `append_cons_right_inj` — the first and the last word can be read back
* `intercalate_inj` — and so can all of them
* `framed_eq_iff` — the readings of two words around a framed word
-/

namespace Joined

variable {α : Type} {sep : α}

/-- The first word ends at the first separator. -/
theorem append_cons_left_inj {x y xs ys : List α} (hx : sep ∉ x) (hy : sep ∉ y) :
    x ++ sep :: xs = y ++ sep :: ys ↔ x = y ∧ xs = ys := by
  constructor
  · induction x generalizing y with
    | nil =>
      intro h
      cases y with
      | nil => exact ⟨rfl, (List.cons.inj h).2⟩
      | cons b y => exact absurd (by rw [(List.cons.inj h).1]; exact List.mem_cons_self) hy
    | cons a x ih =>
      intro h
      cases y with
      | nil => exact absurd (by rw [← (List.cons.inj h).1]; exact List.mem_cons_self) hx
      | cons b y =>
        rw [List.mem_cons, not_or] at hx hy
        obtain ⟨rfl, hrest⟩ := List.cons.inj h
        obtain ⟨rfl, rfl⟩ := ih hx.2 hy.2 hrest
        exact ⟨rfl, rfl⟩
  · rintro ⟨rfl, rfl⟩
    rfl

/-- The last word begins at the last separator. -/
theorem append_cons_right_inj {x y xs ys : List α} (hxs : sep ∉ xs) (hys : sep ∉ ys) :
    x ++ sep :: xs = y ++ sep :: ys ↔ x = y ∧ xs = ys := by
  have hreverse : ∀ a b : List α, (a ++ sep :: b).reverse = b.reverse ++ sep :: a.reverse := by
    simp
  rw [← List.reverse_inj, hreverse, hreverse, append_cons_left_inj (by simpa using hxs)
    (by simpa using hys), List.reverse_inj, List.reverse_inj, and_comm]

/-! ## Texts -/

/-- The text does not hold the character. -/
def Free (sep : Char) (text : String) : Prop := sep ∉ text.toList

instance (sep : Char) (text : String) : Decidable (Free sep text) :=
  inferInstanceAs (Decidable (sep ∉ text.toList))

section Texts

variable {sep : Char} {a b x y : String}

/-- A literal text is free of a character its characters are not. -/
theorem free_ofList {chars : List Char} (h : sep ∉ chars) : Free sep (String.ofList chars) := by
  rw [Free, String.toList_ofList]
  exact h

theorem append_left_inj (ha : Free sep a) (hb : Free sep b) :
    a ++ String.singleton sep ++ x = b ++ String.singleton sep ++ y ↔ a = b ∧ x = y := by
  rw [← String.toList_inj]
  simp only [String.toList_append, String.toList_singleton, List.append_assoc,
    List.cons_append, List.nil_append]
  rw [append_cons_left_inj ha hb, String.toList_inj, String.toList_inj]

theorem append_right_inj (hx : Free sep x) (hy : Free sep y) :
    a ++ String.singleton sep ++ x = b ++ String.singleton sep ++ y ↔ a = b ∧ x = y := by
  rw [← String.toList_inj]
  simp only [String.toList_append, String.toList_singleton, List.append_assoc,
    List.cons_append, List.nil_append]
  rw [append_cons_right_inj hx hy, String.toList_inj, String.toList_inj]

/-- A text without the separator is not one with it. -/
theorem ne_append (ha : Free sep a) : a ≠ b ++ String.singleton sep ++ y := by
  rintro rfl
  apply ha
  simp

/-- Words without the separator can be read back from the joined text. -/
theorem intercalate_inj {xs ys : List String} (hxs : ∀ x ∈ xs, Free sep x)
    (hys : ∀ y ∈ ys, Free sep y) (hx : xs ≠ []) (hy : ys ≠ [])
    (h : (String.singleton sep).intercalate xs = (String.singleton sep).intercalate ys) :
    xs = ys := by
  induction xs generalizing ys with
  | nil => exact absurd rfl hx
  | cons x xs ih =>
    cases ys with
    | nil => exact absurd rfl hy
    | cons y ys =>
      have hfreeX := hxs x List.mem_cons_self
      have hfreeY := hys y List.mem_cons_self
      cases xs with
      | nil =>
        cases ys with
        | nil =>
          rw [String.intercalate_singleton, String.intercalate_singleton] at h
          rw [h]
        | cons y' ys =>
          rw [String.intercalate_singleton, String.intercalate_cons_cons] at h
          exact absurd h (ne_append hfreeX)
      | cons x' xs =>
        cases ys with
        | nil =>
          rw [String.intercalate_singleton, String.intercalate_cons_cons] at h
          exact absurd h.symm (ne_append hfreeY)
        | cons y' ys =>
          rw [String.intercalate_cons_cons, String.intercalate_cons_cons,
            append_left_inj hfreeX hfreeY] at h
          have hrest := ih (fun z hz => hxs z (List.mem_cons_of_mem x hz))
            (fun z hz => hys z (List.mem_cons_of_mem y hz)) (List.cons_ne_nil _ _)
            (List.cons_ne_nil _ _) h.2
          rw [h.1, hrest]

end Texts

/-! ## Words around a framed word -/

section Framed

variable (sep) (word : List α)

/-- The word `a` before the frame, followed by the framed word, begins the other word `b`, and what
`b` holds more of it comes after the frame. -/
def RunsOver (a x b y : List α) : Prop :=
  (b = a ++ sep :: word ∧ x = word ++ sep :: y) ∨
    ∃ m, b = a ++ sep :: (word ++ sep :: m) ∧ x = m ++ sep :: (word ++ sep :: y)

variable {sep word}

/-- A longer word before the frame runs over it. -/
theorem runsOver_of_append (hword : sep ∉ word) {t x y : List α} (ht : t ≠ [])
    (h : sep :: (word ++ sep :: x) = t ++ sep :: (word ++ sep :: y)) (a : List α) :
    RunsOver sep word a x (a ++ t) y := by
  obtain ⟨c, t, rfl⟩ := List.exists_cons_of_ne_nil ht
  obtain ⟨rfl, hrest⟩ := List.cons.inj h
  by_cases hmem : sep ∈ t
  · -- the first separator in the rest closes the framed word
    obtain ⟨p, m, rfl, hp⟩ := List.eq_append_cons_of_mem hmem
    have hsplit : (p ++ sep :: m).append (sep :: (word ++ sep :: y)) =
        p ++ sep :: (m ++ sep :: (word ++ sep :: y)) := by
      simp
    rw [hsplit, append_cons_left_inj hword hp] at hrest
    obtain ⟨rfl, rfl⟩ := hrest
    exact .inr ⟨m, rfl, rfl⟩
  · obtain ⟨rfl, rfl⟩ := (append_cons_left_inj hword hmem).mp hrest
    exact .inl ⟨rfl, rfl⟩

/-- Two words around a framed word read as two others exactly where one of the words before it runs
over it. -/
theorem framed_eq_iff (hword : sep ∉ word) {a x b y : List α} :
    a ++ sep :: (word ++ sep :: x) = b ++ sep :: (word ++ sep :: y) ↔
      (a = b ∧ x = y) ∨ RunsOver sep word a x b y ∨ RunsOver sep word b y a x := by
  constructor
  · intro h
    rcases List.append_eq_append_iff.mp h with ⟨t, rfl, ht⟩ | ⟨t, rfl, ht⟩
    · by_cases hnil : t = []
      · subst hnil
        rw [List.nil_append] at ht
        have hrest := List.append_cancel_left (List.cons.inj ht).2
        exact .inl ⟨(List.append_nil a).symm, (List.cons.inj hrest).2⟩
      · exact .inr (.inl (runsOver_of_append hword hnil ht a))
    · by_cases hnil : t = []
      · subst hnil
        rw [List.nil_append] at ht
        have hrest := List.append_cancel_left (List.cons.inj ht).2
        exact .inl ⟨List.append_nil b, (List.cons.inj hrest).2.symm⟩
      · exact .inr (.inr (runsOver_of_append hword hnil ht b))
  · rintro (⟨rfl, rfl⟩ | h | h)
    · rfl
    · rcases h with ⟨rfl, rfl⟩ | ⟨m, rfl, rfl⟩ <;> simp
    · rcases h with ⟨rfl, rfl⟩ | ⟨m, rfl, rfl⟩ <;> simp

end Framed

end Joined
