import Mathlib.Tactic.Linarith
import Atreides.Foundation.Agree

/-!
# Sums that cancel

Where two numbers that a context holds nearly cancel, their sum needs no rounding.

## Main results

* `FiniteDecimal.add_exact_of_cancel` — a sum that is smaller than both its terms is exact
* `FiniteDecimal.add_then_neg` — a number and its negative add up to zero, rounded as both are
-/

/-- A number and its negative are rounded alike. -/
theorem DecimalContext.fix_copyNegate (ctx : DecimalContext) (d : FiniteDecimal) :
    ctx.fix d.copyNegate = FiniteDecimal.copyNegate <$> ctx.fix d := by
  -- the sign plays no part in where the number is cut
  have hcoefficient : d.copyNegate.coefficient = d.coefficient := rfl
  have hexponent : d.copyNegate.exponent = d.exponent := rfl
  have hwidest : ctx.widest d.copyNegate = ctx.widest d := rfl
  have htarget : ctx.target d.copyNegate = ctx.target d := rfl
  simp only [fix, hcoefficient, hexponent, hwidest, htarget]
  split_ifs <;> rfl

namespace FiniteDecimal

variable {ctx : DecimalContext} {a b r : FiniteDecimal}

/-- A rounded sum is no smaller than a number that the context holds and the sum reaches. -/
theorem le_abs_add {g : ℚ} (hg : ctx.Represents g) (h : add ctx a b = .ok r)
    (hle : g ≤ |a.value + b.value|) : g ≤ |r.value| := by
  rw [← value_exactAdd, abs_value] at hle
  rw [abs_value]
  by_cases hzero : (exactAdd a b).coefficient = 0
  · rw [magnitude_eq_zero_iff.mpr hzero] at hle
    exact hle.trans r.magnitude_nonneg
  · exact DecimalContext.le_fix_magnitude hg hzero h hle

/-- The sum of two numbers that a context holds is exact where it comes out smaller than both. -/
theorem add_exact_of_cancel (ha : ctx.Represents a.value) (hb : ctx.Represents b.value)
    (h : add ctx a b = .ok r) (hsmall : |r.value| < |a.value|) (hsmall' : |r.value| < |b.value|) :
    r.value = a.value + b.value := by
  have hsum : |a.value + b.value| < |a.value| := by
    by_contra hlarge
    exact absurd (le_abs_add ha.abs h (not_lt.mp hlarge)) (not_le.mpr hsmall)
  have hsum' : |a.value + b.value| < |b.value| := by
    by_contra hlarge
    exact absurd (le_abs_add hb.abs h (not_lt.mp hlarge)) (not_le.mpr hsmall')
  apply add_value h
  obtain ⟨⟨m, e, hm, he, hvalue⟩, hrange⟩ := ha
  obtain ⟨⟨n, f, hn, hf, hvalue'⟩, -⟩ := hb
  -- both are multiples of the finer of the two steps
  have hshort : ∀ {k g : ℤ} {v : ℚ}, |k| < 10 ^ ctx.prec → v = k * 10 ^ g → ctx.etiny ≤ g →
      OnGrid g (a.value + b.value) → |a.value + b.value| < |v| →
        ctx.Represents (a.value + b.value) := by
    rintro k g v hk rfl hg ⟨j, hj⟩ hlt
    refine ⟨⟨j, g, ?_, hg, hj⟩, hsum.trans hrange⟩
    rw [hj, abs_mul, abs_mul, mul_lt_mul_iff_left₀ (abs_pos.mpr (ten_zpow_pos g).ne')] at hlt
    have hint : |j| < |k| := by exact_mod_cast hlt
    exact hint.trans hk
  have hgrid : OnGrid e a.value := ⟨m, hvalue⟩
  have hgrid' : OnGrid f b.value := ⟨n, hvalue'⟩
  rcases le_total e f with hef | hfe
  · exact hshort hm hvalue he (hgrid.add (hgrid'.mono hef)) hsum
  · exact hshort hn hvalue' hf ((hgrid.mono hfe).add hgrid') hsum'

/-- A sum does not depend on the order of its terms, nor does whether there is one. -/
theorem value_add_comm (a b : FiniteDecimal) : value <$> add ctx a b = value <$> add ctx b a :=
  DecimalContext.fix_value_congr (by rw [value_exactAdd, value_exactAdd, add_comm])

/-- What is added to zero and then to its own negative comes to zero. -/
theorem add_then_neg {d n : FiniteDecimal} (h : d.neg ctx = .ok n) :
    ∃ r z, add ctx 0 d = .ok r ∧ add ctx r n = .ok z ∧ z.value = 0 := by
  have hnegated : value <$> ctx.fix d.copyNegate = .ok n.value := by
    rw [neg] at h
    rw [← DecimalContext.fix_value_congr ((value_negated d).trans (value_copyNegate d).symm), h]
    rfl
  have hadded : value <$> ctx.fix d = value <$> add ctx 0 d := by
    apply DecimalContext.fix_value_congr
    rw [value_exactAdd, value_zero, zero_add]
  rw [DecimalContext.fix_copyNegate, Outcome.map_eq_ok] at hnegated
  obtain ⟨_, hfixed, hvalue⟩ := hnegated
  obtain ⟨rounded, hrounded, rfl⟩ := Outcome.map_eq_ok.mp hfixed
  rw [hrounded] at hadded
  obtain ⟨r, hr, hsame⟩ := Outcome.map_eq_ok.mp hadded.symm
  have hopposite : (exactAdd r n).value = 0 := by
    rw [value_exactAdd, hsame, ← hvalue, value_copyNegate, add_neg_cancel]
  obtain ⟨z, hz, hzero⟩ := DecimalContext.fix_of_represents
    (show ctx.Represents (exactAdd r n).value by
      rw [hopposite]
      exact ctx.represents_zero)
  exact ⟨r, z, hr, hz, hzero.trans hopposite⟩

end FiniteDecimal
