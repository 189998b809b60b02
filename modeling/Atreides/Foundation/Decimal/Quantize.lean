import Mathlib.Algebra.Order.Floor.Ring
import Mathlib.Data.Rat.Floor
import Atreides.Foundation.Decimal.Exact

/-!
# Rounding to a step

A decimal is quantized to an exponent: written with that many places, halves rounded away from
zero. The result must fit the digits of the context; then it is the number rounded to the step,
and nothing is rounded twice.

## Main definitions

* `FiniteDecimal.quantizeHalfUp` — quantization in a context
* `halfUp` — a number rounded to a step

## Main results

* `quantizeHalfUp_value` — a quantized decimal is the number rounded to the step
* `abs_halfUp_sub_le` — it is off by half a step at most
-/

/-- Drop the last `k` digits, rounding halves up. -/
def roundHalfUp (n k : ℕ) : ℕ :=
  if 10 ^ k ≤ 2 * (n % 10 ^ k) then n / 10 ^ k + 1 else n / 10 ^ k

/-- A number rounded to a step, halves away from zero. -/
def halfUp (step v : ℚ) : ℚ :=
  if v < 0 then -(⌊-v / step + 1 / 2⌋ * step) else ⌊v / step + 1 / 2⌋ * step

theorem roundHalfUp_eq_floor (n k : ℕ) :
    (roundHalfUp n k : ℤ) = ⌊(n : ℚ) / 10 ^ k + 1 / 2⌋ := by
  have hpos : (0 : ℚ) < 10 ^ k := by positivity
  have hsplit : (n : ℚ) = 10 ^ k * (n / 10 ^ k : ℕ) + (n % 10 ^ k : ℕ) := by
    exact_mod_cast (Nat.div_add_mod n (10 ^ k)).symm
  have hmod : ((n % 10 ^ k : ℕ) : ℚ) < 10 ^ k := by
    exact_mod_cast Nat.mod_lt n (by positivity)
  rw [roundHalfUp]
  generalize n / 10 ^ k = kept at hsplit ⊢
  generalize n % 10 ^ k = dropped at hsplit hmod ⊢
  have hquotient : (n : ℚ) / 10 ^ k = kept + dropped / 10 ^ k := by
    rw [hsplit, add_div, mul_div_cancel_left₀ _ hpos.ne']
  have hbelow : (dropped : ℚ) / 10 ^ k < 1 := (div_lt_one hpos).mpr hmod
  have habove : 0 ≤ (dropped : ℚ) / 10 ^ k := by positivity
  rw [eq_comm, Int.floor_eq_iff, hquotient]
  split_ifs with hhalf
  · -- the dropped digits are half a step or more
    have hge : (1 : ℚ) / 2 ≤ dropped / 10 ^ k := by
      rw [le_div_iff₀ hpos]
      have : (10 : ℚ) ^ k ≤ 2 * dropped := by exact_mod_cast hhalf
      linarith
    push_cast
    constructor <;> linarith
  · have hlt : (dropped : ℚ) / 10 ^ k < 1 / 2 := by
      rw [div_lt_iff₀ hpos]
      have : 2 * (dropped : ℚ) < 10 ^ k := by exact_mod_cast not_le.mp hhalf
      linarith
    push_cast
    constructor <;> linarith

theorem abs_halfUp_sub_le {step : ℚ} (hstep : 0 < step) (v : ℚ) :
    |halfUp step v - v| ≤ step / 2 := by
  have hfloor : ∀ w : ℚ, |⌊w / step + 1 / 2⌋ * step - w| ≤ step / 2 := by
    intro w
    have hlow := Int.floor_le (w / step + 1 / 2)
    have hhigh := Int.lt_floor_add_one (w / step + 1 / 2)
    have hw : w = w / step * step := by field_simp
    rw [abs_le]
    constructor
    · have := mul_lt_mul_of_pos_right hhigh hstep
      linarith
    · have := mul_le_mul_of_nonneg_right hlow hstep.le
      linarith
  rw [halfUp]
  split_ifs with hneg
  · have h := hfloor (-v)
    rw [abs_sub_comm] at h
    calc |-(⌊-v / step + 1 / 2⌋ * step) - v|
        = |-v - ⌊-v / step + 1 / 2⌋ * step| := by ring_nf
      _ ≤ step / 2 := h
  · exact hfloor v

namespace FiniteDecimal

/-- The exponent of the leading digit. -/
def adjusted (d : FiniteDecimal) : ℤ := d.exponent + digitCount d.coefficient - 1

/-- The number written with another exponent, halves rounded away from zero. -/
def rescaleHalfUp (d : FiniteDecimal) (e : ℤ) : FiniteDecimal :=
  { d with
    coefficient :=
      if e ≤ d.exponent then d.coefficient * 10 ^ (d.exponent - e).toNat
      else roundHalfUp d.coefficient (e - d.exponent).toNat
    exponent := e }

/-- Quantize to an exponent in a context. A result with more digits than the context has is an
invalid operation. -/
def quantizeHalfUp (ctx : DecimalContext) (d : FiniteDecimal) (e : ℤ) : Outcome FiniteDecimal :=
  if e < ctx.etiny ∨ ctx.Emax < e then .error .invalidOperation
  else if d.coefficient = 0 then ctx.fix ⟨d.negative, 0, e⟩
  else if ctx.Emax < d.adjusted ∨ ctx.prec < d.adjusted - e + 1 then .error .invalidOperation
  else if ctx.Emax < (d.rescaleHalfUp e).adjusted ∨
      ctx.prec < digitCount (d.rescaleHalfUp e).coefficient then .error .invalidOperation
  else ctx.fix (d.rescaleHalfUp e)

variable {ctx : DecimalContext} {d r : FiniteDecimal} {e : ℤ}

theorem coefficient_rescaleHalfUp (d : FiniteDecimal) (e : ℤ) :
    ((d.rescaleHalfUp e).coefficient : ℤ) = ⌊d.magnitude / 10 ^ e + 1 / 2⌋ := by
  have hquotient : d.magnitude / 10 ^ e = d.coefficient * 10 ^ (d.exponent - e) := by
    rw [magnitude, mul_div_assoc, zpow_sub₀ (by norm_num)]
  rw [hquotient, rescaleHalfUp]
  dsimp only
  split_ifs with h
  · have hinteger : (d.coefficient : ℚ) * 10 ^ (d.exponent - e) =
        ((d.coefficient * 10 ^ (d.exponent - e).toNat : ℕ) : ℤ) := by
      rw [← ten_zpow_toNat (by omega)]
      push_cast
      rfl
    rw [hinteger, eq_comm, Int.floor_eq_iff]
    constructor <;> linarith
  · have hexponent : (10 : ℚ) ^ (d.exponent - e) = ((10 : ℚ) ^ (e - d.exponent).toNat)⁻¹ := by
      rw [← zpow_natCast, ← zpow_neg]
      congr 1
      omega
    rw [roundHalfUp_eq_floor, hexponent, div_eq_mul_inv]

theorem rescaleHalfUp_value (d : FiniteDecimal) (e : ℤ) :
    (d.rescaleHalfUp e).value = halfUp (10 ^ e) d.value := by
  have hmagnitude : (d.rescaleHalfUp e).magnitude =
      ⌊d.magnitude / 10 ^ e + 1 / 2⌋ * 10 ^ e := by
    rw [← coefficient_rescaleHalfUp]
    rfl
  have hsign : (d.rescaleHalfUp e).negative = d.negative := rfl
  have hnonneg := d.magnitude_nonneg
  have hhalf : ⌊(1 : ℚ) / 2⌋ = 0 := by norm_num
  rw [value_eq_magnitude (d.rescaleHalfUp e), hsign, hmagnitude, value_eq_magnitude d, halfUp]
  by_cases hnegative : d.negative
  · simp only [hnegative, if_true, neg_neg]
    split_ifs with hlt
    · rfl
    · -- a negative zero
      have hzero : d.magnitude = 0 := by linarith
      simp only [hzero, zero_div, zero_add, neg_zero, hhalf, Int.cast_zero, zero_mul]
  · simp only [hnegative, Bool.false_eq_true, if_false]
    rw [if_neg (not_lt.mpr hnonneg)]

/-- What fits the context is kept as it is. -/
theorem fix_of_fits (hzero : r.coefficient ≠ 0) (hfine : ctx.etiny ≤ r.exponent)
    (hdigits : digitCount r.coefficient ≤ ctx.prec) (hsize : r.adjusted ≤ ctx.Emax) :
    ctx.fix r = .ok r := by
  have hrange : ¬ ctx.etop < ctx.widest r := by
    simp only [DecimalContext.etop, DecimalContext.widest, adjusted] at *
    omega
  have htarget : ¬ r.exponent < ctx.target r := by
    simp only [DecimalContext.target, DecimalContext.widest, lt_max_iff, not_or]
    omega
  rw [DecimalContext.fix, if_neg hzero, if_neg hrange, if_neg htarget]

/-- A quantized decimal is the number rounded to the step. -/
theorem quantizeHalfUp_value (h : quantizeHalfUp ctx d e = .ok r) :
    r.value = halfUp (10 ^ e) d.value := by
  rw [quantizeHalfUp] at h
  split_ifs at h with hexponent hzero hlarge hdigits
  · -- a zero stays one
    have hd : d.value = 0 := value_eq_zero_iff.mpr hzero
    obtain ⟨r', hr', hvalue, -⟩ :=
      @DecimalContext.fix_of_zero ⟨d.negative, 0, e⟩ ctx rfl
    cases h.symm.trans hr'
    rw [hvalue, hd, halfUp]
    norm_num
  · rw [← rescaleHalfUp_value]
    rw [not_or, not_lt, not_lt] at hexponent hdigits
    by_cases hnone : (d.rescaleHalfUp e).coefficient = 0
    · obtain ⟨r', hr', hvalue, -⟩ := DecimalContext.fix_of_zero ctx hnone
      cases h.symm.trans hr'
      rw [hvalue, value_eq_zero_iff.mpr hnone]
    · rw [fix_of_fits hnone hexponent.1 (by exact_mod_cast hdigits.2) hdigits.1] at h
      cases h
      rfl

end FiniteDecimal
