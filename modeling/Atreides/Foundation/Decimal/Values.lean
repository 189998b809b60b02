import Atreides.Foundation.Decimal.Sums

/-!
# Decimals and the numbers they are

A finite decimal is a rational number. Operations whose exact result the context holds return a
decimal that is this result, and comparisons return the order of the numbers.

## Main definitions

* `Decimal.HasValue` — a decimal is a number
* `Decimal.exact` — the number of a finite decimal

## Main results

* `HasValue.add`, `HasValue.sub`, `HasValue.min`, `HasValue.max` — the operations, where they fit
* `sum_hasValue` — a running sum of numbers with exact sums
-/

namespace FiniteDecimal

theorem value_min (a b : FiniteDecimal) : (FiniteDecimal.min a b).value = Min.min a.value b.value := by
  rw [FiniteDecimal.min]
  by_cases h : b.lt a = true
  · rw [if_pos h, min_eq_right (lt_iff.mp h).le]
  · rw [if_neg h, min_eq_left (not_lt.mp fun hlt => h (lt_iff.mpr hlt))]

theorem value_max (a b : FiniteDecimal) : (FiniteDecimal.max a b).value = Max.max a.value b.value := by
  rw [FiniteDecimal.max]
  by_cases h : a.lt b = true
  · rw [if_pos h, max_eq_right (lt_iff.mp h).le]
  · rw [if_neg h, max_eq_left (not_lt.mp fun hlt => h (lt_iff.mpr hlt))]

end FiniteDecimal

namespace Decimal

/-- The decimal is finite, and its value is a number. -/
def HasValue (x : Decimal) (v : ℚ) : Prop := ∃ d : FiniteDecimal, x = .finite d ∧ d.value = v

/-- The number of a finite decimal. -/
def exact : Decimal → ℚ
  | .finite d => d.value
  | _ => 0

@[simp] theorem exact_ofNat (n : ℕ) : Decimal.exact (no_index (OfNat.ofNat n)) = n := by
  change (((n : ℕ) : ℤ) : ℚ) * 10 ^ (0 : ℤ) = n
  simp

theorem hasValue_of_isFinite {x : Decimal} (h : x.isFinite = true) : x.HasValue x.exact := by
  cases x with
  | finite d => exact ⟨d, rfl, rfl⟩
  | infinite negative => cases h
  | nan negative signaling payload => cases h

namespace HasValue

variable {ctx : DecimalContext} {x y r : Decimal} {v w : ℚ}

theorem zero : HasValue 0 0 := ⟨0, rfl, FiniteDecimal.value_zero⟩

theorem unique (hv : x.HasValue v) (hw : x.HasValue w) : v = w := by
  obtain ⟨d, rfl, rfl⟩ := hv
  obtain ⟨d', heq, rfl⟩ := hw
  cases heq
  rfl

theorem exact_eq (hv : x.HasValue v) : x.exact = v := by
  obtain ⟨d, rfl, rfl⟩ := hv
  rfl

theorem add (hx : x.HasValue v) (hy : y.HasValue w) (hfits : ctx.Represents (v + w)) :
    ∃ r, Decimal.add ctx x y = .ok r ∧ r.HasValue (v + w) := by
  obtain ⟨a, rfl, rfl⟩ := hx
  obtain ⟨b, rfl, rfl⟩ := hy
  obtain ⟨r, hr, hvalue⟩ := FiniteDecimal.add_exact_iff.mpr hfits
  refine ⟨.finite r, ?_, r, rfl, hvalue⟩
  simp [Decimal.add, hr, Functor.map, Except.map]

theorem sub (hx : x.HasValue v) (hy : y.HasValue w) (hfits : ctx.Represents (v - w)) :
    ∃ r, Decimal.sub ctx x y = .ok r ∧ r.HasValue (v - w) := by
  obtain ⟨a, rfl, rfl⟩ := hx
  obtain ⟨b, rfl, rfl⟩ := hy
  obtain ⟨r, hr, hvalue⟩ := FiniteDecimal.sub_exact_iff.mpr hfits
  refine ⟨.finite r, ?_, r, rfl, hvalue⟩
  have hsub : Decimal.sub ctx (.finite a) (.finite b) =
      Decimal.finite <$> FiniteDecimal.sub ctx a b := rfl
  rw [hsub, hr]
  rfl

theorem lt (hx : x.HasValue v) (hy : y.HasValue w) : Decimal.lt x y = .ok (decide (v < w)) := by
  obtain ⟨a, rfl, rfl⟩ := hx
  obtain ⟨b, rfl, rfl⟩ := hy
  have hlt : a.lt b = decide (a.value < b.value) := by
    rw [← Bool.coe_iff_coe, FiniteDecimal.lt_iff, decide_eq_true_eq]
  rw [← hlt]
  rfl

theorem le (hx : x.HasValue v) (hy : y.HasValue w) : Decimal.le x y = .ok (decide (v ≤ w)) := by
  obtain ⟨a, rfl, rfl⟩ := hx
  obtain ⟨b, rfl, rfl⟩ := hy
  have hlt : (!b.lt a) = decide (a.value ≤ b.value) := by
    rw [← Bool.coe_iff_coe, Bool.not_eq_true', Bool.eq_false_iff, ne_eq, FiniteDecimal.lt_iff,
      decide_eq_true_eq, not_lt]
  rw [← hlt]
  rfl

theorem eq (hx : x.HasValue v) (hy : y.HasValue w) : Decimal.eq x y = .ok (decide (v = w)) := by
  obtain ⟨a, rfl, rfl⟩ := hx
  obtain ⟨b, rfl, rfl⟩ := hy
  have heq : a.eq b = decide (a.value = b.value) := by
    rw [← Bool.coe_iff_coe, FiniteDecimal.eq_iff, decide_eq_true_eq]
  rw [← heq]
  rfl

theorem min (hx : x.HasValue v) (hy : y.HasValue w) :
    ∃ r, Decimal.min x y = .ok r ∧ r.HasValue (Min.min v w) := by
  rw [Decimal.min, hy.lt hx, Outcome.ok_bind]
  by_cases h : w < v
  · exact ⟨y, by simp [h], by rwa [min_eq_right h.le]⟩
  · exact ⟨x, by simp [h], by rwa [min_eq_left (not_lt.mp h)]⟩

theorem max (hx : x.HasValue v) (hy : y.HasValue w) :
    ∃ r, Decimal.max x y = .ok r ∧ r.HasValue (Max.max v w) := by
  rw [Decimal.max, hx.lt hy, Outcome.ok_bind]
  by_cases h : v < w
  · exact ⟨y, by simp [h], by rwa [max_eq_right h.le]⟩
  · exact ⟨x, by simp [h], by rwa [max_eq_left (not_lt.mp h)]⟩

end HasValue

/-- A running sum of numbers with exact sums is their exact sum. -/
theorem sum_hasValue {ctx : DecimalContext} {xs : List Decimal} :
    ∀ {start : Decimal} {v : ℚ} {prior : List ℚ}, start.HasValue v → v = prior.sum →
      (∀ x ∈ xs, x.isFinite = true) → ExactSums ctx (prior ++ xs.map exact) →
        ∃ r, Outcome.foldSteps (Decimal.add ctx) start xs = .ok r ∧
          r.HasValue (v + (xs.map exact).sum) := by
  induction xs with
  | nil =>
    intro start v prior hstart hprior _ _
    exact ⟨start, rfl, by simpa using hstart⟩
  | cons x xs ih =>
    intro start v prior hstart hprior hfinite h
    have hlist : prior ++ (x :: xs).map exact = prior ++ [x.exact] ++ xs.map exact := by simp
    rw [hlist] at h
    have hsum : v + x.exact = (prior ++ [x.exact]).sum := by simp [hprior]
    obtain ⟨total, htotal, hvalue⟩ := hstart.add
      (hasValue_of_isFinite (hfinite x List.mem_cons_self)) (hsum ▸ h.append_left.represents)
    obtain ⟨r, hr, hrvalue⟩ := ih hvalue hsum
      (fun y hy => hfinite y (List.mem_cons_of_mem x hy)) h
    refine ⟨r, ?_, ?_⟩
    · rw [Outcome.foldSteps_cons, htotal]
      exact hr
    · rw [List.map_cons, List.sum_cons, ← add_assoc]
      exact hrvalue

end Decimal
