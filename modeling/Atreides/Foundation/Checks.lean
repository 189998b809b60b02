import Atreides.Foundation.Outcome

/-!
# Checks in order

A gate asks a list of checks in a fixed order. Each may raise, may answer, or may pass the
question on, and the first that answers decides. A search asks one test of each item until
one succeeds, so whether it raises can depend on the order of the items.

## Main definitions

* `firstAnswer` — the answer of the first check that has one
* `anyOf` — whether some item passes a test, asked in order

## Main results

* `firstAnswer_eq_none_iff` — no check answered
* `firstAnswer_eq_some` — the one that answered, and those before it passed the question on
* `anyOf_eq_true_iff`, `anyOf_eq_false_iff` — a search in terms of its items
-/

namespace Outcome

variable {α β : Type}

/-- A guard that answers, and what is asked after it: neither answers. -/
theorem guard_eq_none {p : Prop} [Decidable p] {answer : β} {rest : Option β} :
    (if p then some answer else rest) = none ↔ ¬ p ∧ rest = none := by
  split_ifs with h <;> simp [h]

/-! ## The first answer -/

/-- The answer of the first check that has one. -/
def firstAnswer : List (Outcome (Option β)) → Outcome (Option β)
  | [] => .ok none
  | .error e :: _ => .error e
  | .ok (some answer) :: _ => .ok (some answer)
  | .ok none :: rest => firstAnswer rest

@[simp] theorem firstAnswer_nil : firstAnswer ([] : List (Outcome (Option β))) = .ok none := rfl

theorem firstAnswer_cons_none (rest : List (Outcome (Option β))) :
    firstAnswer (.ok none :: rest) = firstAnswer rest := rfl

theorem firstAnswer_append_of_none {xs ys : List (Outcome (Option β))}
    (h : ∀ check ∈ xs, check = .ok none) : firstAnswer (xs ++ ys) = firstAnswer ys := by
  induction xs with
  | nil => rfl
  | cons check rest ih =>
    rw [List.forall_mem_cons] at h
    rw [List.cons_append, h.1, firstAnswer_cons_none, ih h.2]

/-- Checks that decided, or raised, leave the ones after them unasked. -/
theorem firstAnswer_append_of_ne {xs ys : List (Outcome (Option β))}
    (h : firstAnswer xs ≠ .ok none) : firstAnswer (xs ++ ys) = firstAnswer xs := by
  induction xs with
  | nil => exact absurd rfl h
  | cons check rest ih =>
    rcases check with e | _ | answer
    · rfl
    · exact ih h
    · rfl

theorem firstAnswer_eq_none_iff {checks : List (Outcome (Option β))} :
    firstAnswer checks = .ok none ↔ ∀ check ∈ checks, check = .ok none := by
  induction checks with
  | nil => simp
  | cons check rest ih =>
    rw [List.forall_mem_cons, ← ih]
    rcases check with e | _ | answer <;> simp [firstAnswer]

/-- The check that answered, and the ones before it, which passed the question on. -/
theorem firstAnswer_eq_some {checks : List (Outcome (Option β))} {answer : β}
    (h : firstAnswer checks = .ok (some answer)) :
    ∃ before check rest, checks = before ++ check :: rest ∧
      (∀ earlier ∈ before, earlier = .ok none) ∧ check = .ok (some answer) := by
  induction checks with
  | nil => simp at h
  | cons check rest ih =>
    rcases check with e | _ | found
    · cases h
    · obtain ⟨before, check, after, rfl, hbefore, hcheck⟩ := ih h
      refine ⟨.ok none :: before, check, after, rfl, ?_, hcheck⟩
      rw [List.forall_mem_cons]
      exact ⟨rfl, hbefore⟩
    · cases h
      exact ⟨[], .ok (some answer), rest, rfl, by simp, rfl⟩

/-- The first answer of two lists of checks is of the first, or it has none. -/
theorem firstAnswer_append_eq_some {xs ys : List (Outcome (Option β))} {answer : β}
    (h : firstAnswer (xs ++ ys) = .ok (some answer)) :
    firstAnswer xs = .ok (some answer) ∨
      (∀ check ∈ xs, check = .ok none) ∧ firstAnswer ys = .ok (some answer) := by
  induction xs with
  | nil => exact Or.inr ⟨by simp, h⟩
  | cons check rest ih =>
    rcases check with e | _ | found
    · cases h
    · rcases ih h with hfirst | ⟨hnone, hsecond⟩
      · exact Or.inl hfirst
      · exact Or.inr ⟨List.forall_mem_cons.mpr ⟨rfl, hnone⟩, hsecond⟩
    · exact Or.inl h

/-- What every check that answers says holds of the answer. -/
theorem firstAnswer_forall {checks : List (Outcome (Option β))} {P : β → Prop}
    (hchecks : ∀ check ∈ checks, ∀ answer, check = .ok (some answer) → P answer) {answer : β}
    (h : firstAnswer checks = .ok (some answer)) : P answer := by
  obtain ⟨before, check, rest, rfl, -, hcheck⟩ := firstAnswer_eq_some h
  exact hchecks check (by simp) answer hcheck

/-- What is read of the first answer is read of the checks. -/
theorem firstAnswer_map_congr {γ : Type} {read : β → γ} {xs ys : List (Outcome (Option β))}
    (h : List.Forall₂ (fun x y => Option.map read <$> x = Option.map read <$> y) xs ys) :
    Option.map read <$> firstAnswer xs = Option.map read <$> firstAnswer ys := by
  induction h with
  | nil => rfl
  | @cons x y xs ys hxy _ ih =>
    rcases x with e | _ | a <;> rcases y with e' | _ | b
    · exact hxy
    · cases hxy
    · cases hxy
    · cases hxy
    · exact ih
    · cases hxy
    · cases hxy
    · cases hxy
    · exact hxy

/-- The first answer of some checks, or the one given where none of them answers. -/
def Answers (checks : List (Outcome (Option β))) (last : Outcome β) (answer : β) : Prop :=
  firstAnswer checks = .ok (some answer) ∨ firstAnswer checks = .ok none ∧ last = .ok answer

theorem answers_nil {last : Outcome β} {answer : β} : Answers [] last answer ↔ last = .ok answer := by
  simp [Answers]

theorem answers_cons {check : Outcome (Option β)} {rest : List (Outcome (Option β))}
    {last : Outcome β} {answer : β} : Answers (check :: rest) last answer ↔
      check = .ok (some answer) ∨ check = .ok none ∧ Answers rest last answer := by
  rcases check with e | _ | found
  · simp [Answers, firstAnswer]
  · simp [Answers, firstAnswer]
  · simp [Answers, firstAnswer]

/-- Checks that start alike are answered there alike, or by what follows. -/
theorem answers_append {xs ys ys' : List (Outcome (Option β))} {last last' : Outcome β}
    {answer answer' : β} (h : Answers (xs ++ ys) last answer)
    (h' : Answers (xs ++ ys') last' answer') :
    answer = answer' ∨ Answers ys last answer ∧ Answers ys' last' answer' := by
  by_cases hnone : firstAnswer xs = .ok none
  · have hpassed := firstAnswer_eq_none_iff.mp hnone
    rw [Answers, firstAnswer_append_of_none hpassed] at h h'
    exact .inr ⟨h, h'⟩
  · rw [Answers, firstAnswer_append_of_ne hnone] at h h'
    obtain h | ⟨h, -⟩ := h
    · obtain h' | ⟨h', -⟩ := h'
      · rw [h] at h'
        exact .inl (Option.some.inj (Except.ok.inj h'))
      · exact absurd h' hnone
    · exact absurd h hnone

/-- An inner list of checks is asked in place. -/
theorem firstAnswer_cons_firstAnswer (xs rest : List (Outcome (Option β))) :
    firstAnswer (firstAnswer xs :: rest) = firstAnswer (xs ++ rest) := by
  induction xs with
  | nil => rfl
  | cons check others ih =>
    rcases check with e | _ | answer
    · rfl
    · exact ih
    · rfl

theorem firstAnswer_append_congr (before : List (Outcome (Option β)))
    {xs ys : List (Outcome (Option β))} (h : firstAnswer xs = firstAnswer ys) :
    firstAnswer (before ++ xs) = firstAnswer (before ++ ys) := by
  induction before with
  | nil => exact h
  | cons check others ih =>
    rcases check with e | _ | answer
    · rfl
    · exact ih
    · rfl

/-- Groups of checks are asked in place. -/
theorem firstAnswer_groups (groups : List (List (Outcome (Option β))))
    (rest : List (Outcome (Option β))) :
    firstAnswer (groups.map firstAnswer ++ rest) = firstAnswer (groups.flatten ++ rest) := by
  induction groups with
  | nil => rfl
  | cons group others ih =>
    rw [List.map_cons, List.cons_append, firstAnswer_cons_firstAnswer, List.flatten_cons,
      List.append_assoc]
    exact firstAnswer_append_congr group ih

/-- What is read off the first answer can be read off every answer. -/
theorem map_firstAnswer {γ : Type} (f : β → γ) (checks : List (Outcome (Option β))) :
    Option.map f <$> firstAnswer checks =
      firstAnswer (checks.map fun check => Option.map f <$> check) := by
  induction checks with
  | nil => rfl
  | cons check rest ih =>
    rcases check with e | _ | answer
    · rfl
    · exact ih
    · rfl

/-! ## Searches -/

/-- Whether some item passes a test, asked in order until one does. -/
def anyOf (test : α → Outcome Bool) : List α → Outcome Bool
  | [] => .ok false
  | a :: rest =>
    match test a with
    | .error e => .error e
    | .ok true => .ok true
    | .ok false => anyOf test rest

theorem anyOf_eq_false_iff {test : α → Outcome Bool} {xs : List α} :
    anyOf test xs = .ok false ↔ ∀ a ∈ xs, test a = .ok false := by
  induction xs with
  | nil => simp [anyOf]
  | cons a rest ih =>
    rw [List.forall_mem_cons, ← ih, anyOf]
    rcases test a with e | _ | _ <;> simp

/-- A search that succeeds found an item. -/
theorem exists_of_anyOf {test : α → Outcome Bool} {xs : List α}
    (h : anyOf test xs = .ok true) : ∃ a ∈ xs, test a = .ok true := by
  induction xs with
  | nil => simp [anyOf] at h
  | cons a rest ih =>
    rw [anyOf] at h
    rcases htest : test a with e | _ | _
    · simp [htest] at h
    · rw [htest] at h
      obtain ⟨b, hb, hpass⟩ := ih h
      exact ⟨b, List.mem_cons_of_mem _ hb, hpass⟩
    · exact ⟨a, List.mem_cons_self, htest⟩

/-- A search that raises met an item whose test does. -/
theorem exists_of_anyOf_error {test : α → Outcome Bool} {xs : List α} {e : PyError}
    (h : anyOf test xs = .error e) : ∃ a ∈ xs, test a = .error e := by
  induction xs with
  | nil => simp [anyOf] at h
  | cons a rest ih =>
    rw [anyOf] at h
    rcases htest : test a with e' | _ | _ <;> rw [htest] at h
    · cases h
      exact ⟨a, List.mem_cons_self, htest⟩
    · obtain ⟨b, hb, hraises⟩ := ih h
      exact ⟨b, List.mem_cons_of_mem _ hb, hraises⟩
    · cases h

/-- Where no test raises, a search succeeds exactly when an item passes. -/
theorem anyOf_of_returns {test : α → Outcome Bool} {xs : List α}
    (h : ∀ a ∈ xs, Returns (test a)) :
    anyOf test xs = .ok true ∧ (∃ a ∈ xs, test a = .ok true) ∨
      anyOf test xs = .ok false ∧ ∀ a ∈ xs, test a = .ok false := by
  induction xs with
  | nil => exact Or.inr ⟨rfl, by simp⟩
  | cons a rest ih =>
    rw [List.forall_mem_cons] at h
    obtain ⟨⟨passed, htest⟩, hrest⟩ := h
    rcases passed with _ | _
    · rcases ih hrest with ⟨hany, b, hb, hpass⟩ | ⟨hany, hnone⟩
      · exact Or.inl ⟨by rw [anyOf, htest]; exact hany, b, List.mem_cons_of_mem _ hb, hpass⟩
      · exact Or.inr ⟨by rw [anyOf, htest]; exact hany, List.forall_mem_cons.mpr ⟨htest, hnone⟩⟩
    · exact Or.inl ⟨by rw [anyOf, htest], a, List.mem_cons_self, htest⟩

/-- Searches over the same items, none of which raises, end alike. -/
theorem anyOf_perm {test : α → Outcome Bool} {xs ys : List α} (h : xs.Perm ys)
    (hreturns : ∀ a ∈ ys, Returns (test a)) : anyOf test xs = anyOf test ys := by
  have hreturns' : ∀ a ∈ xs, Returns (test a) := fun a ha => hreturns a (h.mem_iff.mp ha)
  rcases anyOf_of_returns hreturns with ⟨hany, a, ha, hpass⟩ | ⟨hany, hnone⟩ <;>
    rcases anyOf_of_returns hreturns' with ⟨hany', b, hb, hpass'⟩ | ⟨hany', hnone'⟩
  · rw [hany, hany']
  · rw [hnone' a (h.mem_iff.mpr ha)] at hpass
    cases hpass
  · rw [hnone b (h.mem_iff.mp hb)] at hpass'
    cases hpass'
  · rw [hany, hany']

/-- Where the items that raise all raise one exception and no item passes, a search raises
it, whatever the order. -/
theorem anyOf_of_raises {test : α → Outcome Bool} {xs : List α} {e : PyError}
    (h : ∀ a ∈ xs, test a = .ok false ∨ test a = .error e)
    (hraises : ∃ a ∈ xs, test a = .error e) : anyOf test xs = .error e := by
  induction xs with
  | nil => simp at hraises
  | cons a rest ih =>
    rw [List.forall_mem_cons] at h
    rw [anyOf]
    rcases h.1 with htest | htest
    · rw [htest]
      apply ih h.2
      obtain ⟨b, hb, hbraises⟩ := hraises
      rcases List.mem_cons.mp hb with rfl | hb
      · rw [htest] at hbraises
        cases hbraises
      · exact ⟨b, hb, hbraises⟩
    · rw [htest]

end Outcome
