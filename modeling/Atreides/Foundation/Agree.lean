import Atreides.Foundation.Decimal.Monotone
import Atreides.Foundation.Decimal.Sums

/-!
# Computations that agree

Two computations agree when both raise the same exception, or both return and what they return is
related. Agreement is kept by sequencing, so that a whole computation agrees with another where
its steps do. Decimals are rounded by their values alone, whichever way they are written: the
operations on decimals of one value agree.

## Main definitions

* `Outcome.Agree` — two computations agree
* `FiniteDecimal.Same` — two decimals of one value

## Main results

* `Outcome.Agree.bind` — sequencing keeps agreement
* `FiniteDecimal.Same.add`, `FiniteDecimal.Same.mul` — operations on decimals of one value agree
* `FiniteDecimal.foldSteps_exact` — a loop of exact additions adds up
-/

namespace Outcome

variable {α β γ δ : Type} {R : α → β → Prop} {S : γ → δ → Prop}

/-- Both raise the same exception, or both return, and what they return is related. -/
inductive Agree (R : α → β → Prop) : Outcome α → Outcome β → Prop
  | ok {a : α} {b : β} (h : R a b) : Agree R (.ok a) (.ok b)
  | error (e : PyError) : Agree R (.error e) (.error e)

namespace Agree

variable {x : Outcome α} {y : Outcome β} {f : α → Outcome γ} {g : β → Outcome δ}

theorem bind (h : Agree R x y) (hnext : ∀ a b, R a b → Agree S (f a) (g b)) :
    Agree S (x >>= f) (y >>= g) := by
  cases h with
  | ok hab => exact hnext _ _ hab
  | error e => exact Agree.error e

theorem mono {R' : α → β → Prop} (h : Agree R x y) (hle : ∀ a b, R a b → R' a b) :
    Agree R' x y := by
  cases h with
  | ok hab => exact Agree.ok (hle _ _ hab)
  | error e => exact Agree.error e

/-- A computation agrees with itself. -/
theorem refl {R : α → α → Prop} (hrefl : ∀ a, R a a) (x : Outcome α) : Agree R x x := by
  cases x with
  | ok a => exact Agree.ok (hrefl a)
  | error e => exact Agree.error e

/-- Computations agree in an image where the images are one. -/
theorem of_map {φ : α → γ} {ψ : β → γ} (h : φ <$> x = ψ <$> y) :
    Agree (fun a b => φ a = ψ b) x y := by
  cases x with
  | ok a =>
    cases y with
    | ok b => exact Agree.ok (Except.ok.inj h)
    | error e => cases h
  | error e =>
    cases y with
    | ok b => cases h
    | error e' =>
      cases h
      exact Agree.error e

end Agree

end Outcome

namespace FiniteDecimal

open Outcome (Agree)

variable {ctx : DecimalContext} {a b a' b' r : FiniteDecimal}

/-! ## Decimals of one value -/

/-- Two decimals of one value, however they are written. -/
def Same (a b : FiniteDecimal) : Prop := a.value = b.value

namespace Same

theorem refl (a : FiniteDecimal) : Same a a := rfl

theorem lt_eq (ha : Same a a') (hb : Same b b') : a.lt b = a'.lt b' := by
  rw [Bool.eq_iff_iff, lt_iff, lt_iff, ha, hb]

theorem add (ha : Same a a') (hb : Same b b') :
    Agree Same (FiniteDecimal.add ctx a b) (FiniteDecimal.add ctx a' b') :=
  Agree.of_map (add_value_congr ha hb)

theorem copyNegate (ha : Same a a') : Same a.copyNegate a'.copyNegate := by
  rw [Same, value_copyNegate, value_copyNegate, ha]

theorem sub (ha : Same a a') (hb : Same b b') :
    Agree Same (FiniteDecimal.sub ctx a b) (FiniteDecimal.sub ctx a' b') :=
  ha.add hb.copyNegate

theorem mul (ha : Same a a') (hb : Same b b') :
    Agree Same (FiniteDecimal.mul ctx a b) (FiniteDecimal.mul ctx a' b') :=
  Agree.of_map (mul_value_congr ha hb)

end Same

/-! ## Unary minus -/

/-- What unary minus rounds is the negative number, whatever zero it is written as. -/
theorem value_negated (d : FiniteDecimal) :
    (if d.coefficient = 0 then d.copyAbs else d.copyNegate).value = -d.value := by
  split_ifs with hzero
  · rw [value_copyAbs, value_eq_zero_iff.mpr hzero, abs_zero, neg_zero]
  · exact value_copyNegate d

theorem neg_mono (h : neg ctx a = .ok r) (h' : neg ctx a' = .ok b') (hle : a.value ≤ a'.value) :
    b'.value ≤ r.value := by
  apply DecimalContext.fix_mono h' h
  rw [value_negated, value_negated]
  exact neg_le_neg hle

/-- A number that the context holds is negated exactly. -/
theorem neg_exact (h : ctx.Represents a.value) :
    ∃ r, neg ctx a = .ok r ∧ r.value = -a.value := by
  obtain ⟨r, hr, hvalue⟩ := DecimalContext.fix_of_represents
    (show ctx.Represents (if a.coefficient = 0 then a.copyAbs else a.copyNegate).value by
      rw [value_negated]
      exact h.neg)
  exact ⟨r, hr, hvalue.trans (value_negated a)⟩

/-! ## Differences -/

/-- What a context holds is a whole number of its smallest steps. -/
theorem onGrid_of_represents {v : ℚ} (h : ctx.Represents v) : OnGrid ctx.etiny v := by
  obtain ⟨⟨m, e, -, hfine, rfl⟩, -⟩ := h
  exact OnGrid.mono hfine ⟨m, rfl⟩

/-- A difference of two numbers that the context holds is above zero precisely where the first is
the larger: no difference of them vanishes. -/
theorem sub_pos_iff (h : sub ctx a b = .ok r) (ha : ctx.Represents a.value)
    (hb : ctx.Represents b.value) : 0 < r.value ↔ b.value < a.value := by
  have hexact : (exactAdd a b.copyNegate).value = a.value - b.value := by
    rw [value_exactAdd, value_copyNegate, sub_eq_add_neg]
  constructor
  · intro hpos
    by_contra hle
    have := DecimalContext.fix_nonpos h (by rw [hexact]; linarith)
    linarith
  · intro hlt
    refine lt_of_le_of_ne (DecimalContext.fix_nonneg h (by rw [hexact]; linarith)) ?_
    intro hzero
    -- a difference on the grid of the smallest steps is not below half a step
    have hsmall := (DecimalContext.fix_value_eq_zero_iff h).mp hzero.symm
    obtain ⟨m, hm⟩ := (onGrid_of_represents ha).sub (onGrid_of_represents hb)
    have hstep := ten_zpow_pos ctx.etiny
    rw [← abs_value, hexact, hm, abs_mul, abs_of_pos hstep] at hsmall
    have hm0 : m ≠ 0 := by
      rintro rfl
      rw [Int.cast_zero, zero_mul] at hm
      linarith
    have hone : (1 : ℚ) ≤ |(m : ℚ)| := by
      exact_mod_cast Int.one_le_abs hm0
    nlinarith

/-! ## Loops of exact additions -/

/-- A loop whose steps each add a number exactly, wherever the context holds the sum, adds up
where the context holds the sum of every selection. -/
theorem foldSteps_exact {α : Type} {step : FiniteDecimal → α → Outcome FiniteDecimal}
    {term : α → ℚ} {xs : List α}
    (hstep : ∀ total, ∀ x ∈ xs, ctx.Represents (total.value + term x) →
      ∃ r, step total x = .ok r ∧ r.value = total.value + term x) :
    ∀ {start : FiniteDecimal} {prior : List ℚ}, start.value = prior.sum →
      ExactSums ctx (prior ++ xs.map term) →
        ∃ r, Outcome.foldSteps step start xs = .ok r ∧
          r.value = start.value + (xs.map term).sum := by
  induction xs with
  | nil =>
    intro start prior _ _
    exact ⟨start, rfl, by simp⟩
  | cons x xs ih =>
    intro start prior hstart h
    have hlist : prior ++ (x :: xs).map term = prior ++ [term x] ++ xs.map term := by simp
    rw [hlist] at h
    have hsum : (prior ++ [term x]).sum = start.value + term x := by simp [hstart]
    obtain ⟨next, hnext, hvalue⟩ := hstep start x List.mem_cons_self
      (hsum ▸ h.append_left.represents)
    obtain ⟨r, hr, hrvalue⟩ := ih (fun total y hy => hstep total y (List.mem_cons_of_mem x hy))
      (hvalue.trans hsum.symm) h
    refine ⟨r, ?_, ?_⟩
    · rw [Outcome.foldSteps_cons, hnext]
      exact hr
    · rw [hrvalue, hvalue, List.map_cons, List.sum_cons, add_assoc]

end FiniteDecimal
