import Mathlib.Data.Nat.Cast.Order.Field
import Mathlib.Data.Rat.Floor
import Mathlib.Tactic.Positivity
import Atreides.Foundation.Decimal.Monotone

/-!
# How much a rounding loses

A rounded result is below the exact one by at most one part in the power of ten that the digits
of the context leave, and so is a quotient by at most two of them. The least integer above a
decimal is exact.

## Main definitions

* `DecimalContext.slack` — the part that a rounding may lose

## Main results

* `DecimalContext.fix_value_ge` — what a rounding keeps of a positive result
* `FiniteDecimal.div_value_ge` — what a division keeps of a positive quotient
* `FiniteDecimal.div_exact_iff` — the quotients that a division returns unchanged
* `FiniteDecimal.value_ceilToIntegral` — the least integer above a decimal
-/

namespace DecimalContext

open FiniteDecimal

variable {ctx : DecimalContext} {d d' : FiniteDecimal}

/-- The part of a result that a rounding may lose. -/
def slack (ctx : DecimalContext) : ℚ := 10 ^ (1 - (ctx.prec : ℤ))

theorem slack_pos (ctx : DecimalContext) : 0 < ctx.slack := ten_zpow_pos _

theorem slack_le_one (ctx : DecimalContext) : ctx.slack ≤ 1 := by
  have hprec := ctx.prec_pos
  calc ctx.slack ≤ 10 ^ (0 : ℤ) := ten_zpow_le (by omega)
    _ = 1 := zpow_zero _

/-- The step of the grid a result is rounded to is at most the slack of the result. -/
theorem target_le_slack (hzero : d.coefficient ≠ 0) (hnormal : 10 ^ ctx.Emin ≤ d.magnitude) :
    (10 : ℚ) ^ ctx.target d ≤ d.magnitude * ctx.slack := by
  obtain hwidest | htiny := max_choice (ctx.widest d) ctx.etiny
  · have hexp : ctx.target d = (ctx.widest d + ctx.prec - 1) + (1 - (ctx.prec : ℤ)) := by
      rw [target, hwidest]
      ring
    rw [hexp, ten_zpow_add]
    exact mul_le_mul_of_nonneg_right (ctx.magnitude_bounds hzero).1 ctx.slack_pos.le
  · have hexp : ctx.target d = ctx.Emin + (1 - (ctx.prec : ℤ)) := by
      rw [target, htiny, etiny]
      ring
    rw [hexp, ten_zpow_add]
    exact mul_le_mul_of_nonneg_right hnormal ctx.slack_pos.le

/-- A rounding keeps a magnitude, but for the slack of it. -/
theorem fix_magnitude_ge (hzero : d.coefficient ≠ 0) (h : ctx.fix d = .ok d')
    (hnormal : 10 ^ ctx.Emin ≤ d.magnitude) :
    d.magnitude * (1 - ctx.slack) ≤ d'.magnitude := by
  obtain ⟨-, -, ⟨-, rfl⟩ | ⟨hlt, hmag⟩⟩ := fix_cases hzero h
  · have := mul_nonneg d'.magnitude_nonneg ctx.slack_pos.le
    linarith
  · have hstep := target_le_slack hzero hnormal
    have hbelow := (roundHalfEven_bounds hlt).2
    have hfloor := div_le_roundHalfEven d.coefficient (ctx.target d - d.exponent).toNat
    have hkept : ((d.coefficient / 10 ^ (ctx.target d - d.exponent).toNat : ℕ) : ℚ) *
        10 ^ ctx.target d ≤ d'.magnitude := by
      rw [hmag]
      exact mul_le_mul_of_nonneg_right (by exact_mod_cast hfloor) (ten_zpow_pos _).le
    push_cast at hbelow hkept
    linarith

/-- A rounding keeps a positive result, but for the slack of it. -/
theorem fix_value_ge (h : ctx.fix d = .ok d') (hnormal : 10 ^ ctx.Emin ≤ d.value) :
    d.value * (1 - ctx.slack) ≤ d'.value := by
  have hpos : 0 < d.value := (ten_zpow_pos ctx.Emin).trans_le hnormal
  have hmag : d.magnitude = d.value := by rw [← abs_value, abs_of_pos hpos]
  have hmag' : d'.magnitude = d'.value := by rw [← abs_value, abs_of_nonneg (fix_nonneg h hpos.le)]
  have hzero : d.coefficient ≠ 0 := fun hzero => hpos.ne' (value_eq_zero_iff.mpr hzero)
  rw [← hmag, ← hmag']
  exact fix_magnitude_ge hzero h (hmag ▸ hnormal)

end DecimalContext

namespace FiniteDecimal

variable {ctx : DecimalContext} {a b r : FiniteDecimal}

/-! ## Quotients -/

/-- A positive number has no minus sign. -/
theorem negative_eq_false_of_pos (h : 0 < a.value) : a.negative = false := by
  by_contra hnegative
  rw [value_eq_magnitude, if_pos (by simpa using hnegative)] at h
  exact absurd h (not_lt.mpr (neg_nonpos.mpr a.magnitude_nonneg))

theorem value_of_not_negative (h : a.negative = false) :
    a.value = a.coefficient * 10 ^ a.exponent := by
  rw [value_eq_magnitude, h, if_neg Bool.false_ne_true, magnitude]

/-- Stripping zeros changes how a number is written, not the number. -/
theorem value_stripTo (ideal : ℤ) (fuel : ℕ) (d : FiniteDecimal) :
    (stripTo ideal fuel d).value = d.value := by
  induction fuel generalizing d with
  | zero => rfl
  | succ fuel ih =>
    rw [stripTo]
    split_ifs with hstrip
    · rw [ih, value_eq_magnitude, value_eq_magnitude, magnitude, magnitude]
      have hten : (d.coefficient : ℚ) = (d.coefficient / 10 : ℕ) * 10 := by
        exact_mod_cast (Nat.div_mul_cancel (Nat.dvd_of_mod_eq_zero hstrip.2)).symm
      rw [hten, ten_zpow_add, zpow_one, mul_assoc, mul_comm (10 : ℚ)]
    · rfl

/-- Before it is rounded, a quotient has more digits than the context, and is cut off at its last
digit. -/
theorem quotient_bounds (ha : a.coefficient ≠ 0) (hb : b.coefficient ≠ 0) (prec : ℕ) :
    let shift : ℤ := digitCount b.coefficient - digitCount a.coefficient + prec + 1
    let numerator := a.coefficient * 10 ^ shift.toNat
    let denominator := b.coefficient * 10 ^ (-shift).toNat
    0 < denominator ∧ 10 ^ prec ≤ numerator / denominator ∧
      (numerator : ℚ) / denominator = a.coefficient / b.coefficient * 10 ^ shift := by
  intro shift numerator denominator
  have hpos : 0 < denominator := by positivity
  refine ⟨hpos, ?_, ?_⟩
  · rw [Nat.le_div_iff_mul_le hpos]
    have hlow := pow_le_of_ne_zero ha
    have hhigh := lt_pow_digitCount b.coefficient
    have hdigits := digitCount_pos a.coefficient
    have hexp : prec + (digitCount b.coefficient + (-shift).toNat) =
        digitCount a.coefficient - 1 + shift.toNat := by omega
    calc 10 ^ prec * denominator
        ≤ 10 ^ prec * (10 ^ digitCount b.coefficient * 10 ^ (-shift).toNat) :=
          Nat.mul_le_mul_left _ (Nat.mul_le_mul_right _ hhigh.le)
      _ = 10 ^ (digitCount a.coefficient - 1) * 10 ^ shift.toNat := by
          rw [← pow_add, ← pow_add, ← pow_add, hexp]
      _ ≤ numerator := Nat.mul_le_mul_right _ hlow
  · have hsplit : (10 : ℚ) ^ shift = 10 ^ shift.toNat / 10 ^ (-shift).toNat := by
      rw [eq_div_iff (by positivity), ← zpow_natCast, ← zpow_natCast, ← ten_zpow_add]
      congr 1
      omega
    rw [hsplit]
    push_cast [numerator, denominator]
    field_simp

/-- A division keeps a positive quotient, but for twice the slack of it. -/
theorem div_value_ge (h : div ctx a b = .ok r) (ha : 0 < a.value) (hb : 0 < b.value)
    (hnormal : 10 ^ ctx.Emin ≤ a.value / b.value * (1 - ctx.slack)) :
    a.value / b.value * (1 - 2 * ctx.slack) ≤ r.value := by
  have hazero : a.coefficient ≠ 0 := fun hzero => ha.ne' (value_eq_zero_iff.mpr hzero)
  have hbzero : b.coefficient ≠ 0 := fun hzero => hb.ne' (value_eq_zero_iff.mpr hzero)
  have hanegative : a.negative = false := negative_eq_false_of_pos ha
  have hbnegative : b.negative = false := negative_eq_false_of_pos hb
  set shift : ℤ := digitCount b.coefficient - digitCount a.coefficient + ctx.prec + 1 with hshift
  set numerator := a.coefficient * 10 ^ shift.toNat with hnumerator
  set denominator := b.coefficient * 10 ^ (-shift).toNat with hdenominator
  set exponent := a.exponent - b.exponent - shift with hexponent
  obtain ⟨hpos, hdigits, hratio⟩ := quotient_bounds hazero hbzero ctx.prec
  have hstep := ten_zpow_pos exponent
  have hquotient : a.value / b.value = (numerator : ℚ) / denominator * 10 ^ exponent := by
    have hsplit : (10 : ℚ) ^ shift * 10 ^ exponent = 10 ^ a.exponent / 10 ^ b.exponent := by
      rw [← ten_zpow_add, ← zpow_sub₀ (by norm_num), hexponent]
      congr 1
      ring
    rw [hratio, mul_assoc, hsplit, value_of_not_negative hanegative,
      value_of_not_negative hbnegative, mul_div_mul_comm]
  -- what is cut off is less than a step, and the quotient has more digits than the context
  have hcut : a.value / b.value < ((numerator / denominator : ℕ) + 1) * 10 ^ exponent := by
    rw [hquotient]
    refine mul_lt_mul_of_pos_right ?_ hstep
    rw [div_lt_iff₀ (by exact_mod_cast hpos)]
    exact_mod_cast Nat.lt_mul_of_div_lt (Nat.lt_succ_self _) hpos
  have hlong : (10 : ℚ) ^ exponent ≤ a.value / b.value * ctx.slack := by
    have hfloor : ((numerator / denominator : ℕ) : ℚ) ≤ (numerator : ℚ) / denominator :=
      Nat.cast_div_le
    have hprec : (10 : ℚ) ^ ctx.prec ≤ (numerator : ℚ) / denominator :=
      le_trans (by exact_mod_cast hdigits) hfloor
    have hten : (10 : ℚ) ^ ctx.prec * ctx.slack = 10 := by
      rw [DecimalContext.slack, ← zpow_natCast, ← ten_zpow_add]
      norm_num
    have hmore := mul_le_mul_of_nonneg_right hprec ctx.slack_pos.le
    rw [hten] at hmore
    rw [hquotient, mul_right_comm]
    exact le_mul_of_one_le_left hstep.le (by linarith)
  have hfinish : ∀ raw : FiniteDecimal,
      ((numerator / denominator : ℕ) : ℚ) * 10 ^ exponent ≤ raw.value → ctx.fix raw = .ok r →
        a.value / b.value * (1 - 2 * ctx.slack) ≤ r.value := by
    intro raw hraw hfix
    have hkept : a.value / b.value * (1 - ctx.slack) ≤ raw.value := by linarith
    have hlost := DecimalContext.fix_value_ge hfix (hnormal.trans hkept)
    have hone := ctx.slack_le_one
    have hpositive : 0 < a.value / b.value := div_pos ha hb
    have hrounded := mul_le_mul_of_nonneg_right hkept (sub_nonneg.mpr hone)
    have hsquare : 0 ≤ a.value / b.value * (ctx.slack * ctx.slack) := by
      have := ctx.slack_pos
      positivity
    linarith
  rw [div] at h
  simp only [if_neg hbzero, if_neg hazero, hanegative, hbnegative, Bool.xor_false] at h
  split_ifs at h with hexact hsticky
  · refine hfinish _ ?_ h
    rw [value_stripTo, value_of_not_negative rfl]
  · refine hfinish _ ?_ h
    rw [value_of_not_negative rfl]
    push_cast
    exact mul_le_mul_of_nonneg_right (by linarith) hstep.le
  · refine hfinish _ ?_ h
    rw [value_of_not_negative rfl]

/-- A quotient, as its digits before they are cut off and where they stand. -/
theorem abs_quotient (ha : a.coefficient ≠ 0) (hb : b.coefficient ≠ 0) (prec : ℕ) :
    let shift : ℤ := digitCount b.coefficient - digitCount a.coefficient + prec + 1
    |a.value / b.value| = ((a.coefficient * 10 ^ shift.toNat : ℕ) : ℚ) /
      (b.coefficient * 10 ^ (-shift).toNat : ℕ) * 10 ^ (a.exponent - b.exponent - shift) := by
  intro shift
  obtain ⟨-, -, hratio⟩ := quotient_bounds ha hb prec
  have hsplit : (10 : ℚ) ^ shift * 10 ^ (a.exponent - b.exponent - shift) =
      10 ^ a.exponent / 10 ^ b.exponent := by
    rw [← ten_zpow_add, ← zpow_sub₀ (by norm_num)]
    congr 1
    ring
  rw [hratio, mul_assoc, hsplit, abs_div, abs_value, abs_value, magnitude, magnitude,
    mul_div_mul_comm]

/-- What a division returns, the context holds. -/
theorem represents_of_div (h : div ctx a b = .ok r) : ctx.Represents r.value := by
  rw [div] at h
  dsimp only at h
  split_ifs at h
  all_goals exact DecimalContext.represents_of_fix h

/-- A quotient that the context holds is cut off after its last digit. -/
theorem numerator_mod_denominator (ha : a.coefficient ≠ 0) (hb : b.coefficient ≠ 0)
    (h : ctx.Represents (a.value / b.value)) :
    let shift : ℤ := digitCount b.coefficient - digitCount a.coefficient + ctx.prec + 1
    a.coefficient * 10 ^ shift.toNat % (b.coefficient * 10 ^ (-shift).toNat) = 0 := by
  intro shift
  obtain ⟨hpos, hdigits, -⟩ := quotient_bounds ha hb ctx.prec
  have hquotient := abs_quotient ha hb ctx.prec
  dsimp only at hpos hdigits hquotient
  set numerator := a.coefficient * 10 ^ shift.toNat with hnumerator
  set denominator := b.coefficient * 10 ^ (-shift).toNat with hdenominator
  set exponent := a.exponent - b.exponent - shift with hexponent
  obtain ⟨⟨m, e, hm, -, hvalue⟩, -⟩ := h
  have hstep := ten_zpow_pos exponent
  have hposQ : (0 : ℚ) < denominator := by exact_mod_cast hpos
  have hsame : (numerator : ℚ) / denominator * 10 ^ exponent = (m.natAbs : ℚ) * 10 ^ e := by
    rw [← hquotient, hvalue, abs_mul, abs_of_pos (ten_zpow_pos e), Nat.cast_natAbs, Int.cast_abs]
  have hfloor : (10 : ℚ) ^ ctx.prec ≤ (numerator : ℚ) / denominator :=
    le_trans (by exact_mod_cast hdigits) Nat.cast_div_le
  -- the digits of the quotient end before those that are kept
  have hcoarse : exponent ≤ e := by
    by_contra hfine
    have hpow : (10 : ℚ) ^ e ≤ 10 ^ exponent := ten_zpow_le (by omega)
    have hless : (m.natAbs : ℚ) * 10 ^ e < (10 : ℚ) ^ ctx.prec * 10 ^ exponent := by
      have hshort : (m.natAbs : ℚ) < 10 ^ ctx.prec := by
        rw [Nat.cast_natAbs]
        exact_mod_cast hm
      calc (m.natAbs : ℚ) * 10 ^ e ≤ m.natAbs * 10 ^ exponent :=
            mul_le_mul_of_nonneg_left hpow (Nat.cast_nonneg _)
        _ < 10 ^ ctx.prec * 10 ^ exponent := mul_lt_mul_of_pos_right hshort hstep
    rw [← hsame] at hless
    exact absurd (mul_le_mul_of_nonneg_right hfloor hstep.le) (not_le.mpr hless)
  have hwhole : (numerator : ℚ) = (m.natAbs * 10 ^ (e - exponent).toNat : ℕ) * denominator := by
    have hsplit : (10 : ℚ) ^ e = 10 ^ (e - exponent).toNat * 10 ^ exponent := by
      have hten := ten_zpow_toNat (k := e - exponent) (by omega)
      push_cast at hten
      rw [hten, ← ten_zpow_add]
      congr 1
      ring
    rw [hsplit, ← mul_assoc] at hsame
    have hcancel := mul_right_cancel₀ hstep.ne' hsame
    rw [div_eq_iff hposQ.ne'] at hcancel
    push_cast
    exact hcancel
  have hnat : numerator = m.natAbs * 10 ^ (e - exponent).toNat * denominator := by
    exact_mod_cast hwhole
  rw [hnat, Nat.mul_mod_left]

/-- A quotient survives the context unchanged exactly when the context can hold it. -/
theorem div_exact_iff (hb : b.coefficient ≠ 0) :
    (∃ r, div ctx a b = .ok r ∧ r.value = a.value / b.value) ↔
      ctx.Represents (a.value / b.value) := by
  constructor
  · rintro ⟨r, hr, hvalue⟩
    rw [← hvalue]
    exact represents_of_div hr
  · intro h
    by_cases ha : a.coefficient = 0
    · obtain ⟨r, hr, hvalue, -⟩ := DecimalContext.fix_of_zero ctx
        (show (⟨a.negative ^^ b.negative, 0, a.exponent - b.exponent⟩ :
          FiniteDecimal).coefficient = 0 from rfl)
      refine ⟨r, ?_, ?_⟩
      · rw [div]
        dsimp only
        rw [if_neg hb, if_pos ha, hr]
      · rw [hvalue, value_eq_zero_iff.mpr ha, zero_div]
    · have hmod := numerator_mod_denominator ha hb h
      have hquotient := abs_quotient ha hb ctx.prec
      obtain ⟨hpos, -, -⟩ := quotient_bounds ha hb ctx.prec
      dsimp only at hmod hquotient hpos
      set shift : ℤ := digitCount b.coefficient - digitCount a.coefficient + ctx.prec + 1
        with hshift
      set numerator := a.coefficient * 10 ^ shift.toNat with hnumerator
      set denominator := b.coefficient * 10 ^ (-shift).toNat with hdenominator
      have hmagnitude : ((numerator / denominator : ℕ) : ℚ) *
          10 ^ (a.exponent - b.exponent - shift) = |a.value / b.value| := by
        have hpart : ((numerator / denominator : ℕ) : ℚ) = (numerator : ℚ) / denominator := by
          rw [eq_div_iff (by exact_mod_cast hpos.ne')]
          exact_mod_cast Nat.div_mul_cancel (Nat.dvd_of_mod_eq_zero hmod)
        rw [hquotient, hpart]
      have hvalue : (stripTo (a.exponent - b.exponent)
          (a.exponent - b.exponent - (a.exponent - b.exponent - shift)).toNat
          ⟨a.negative ^^ b.negative, numerator / denominator,
            a.exponent - b.exponent - shift⟩).value = a.value / b.value := by
        rw [value_stripTo, value_eq_magnitude, magnitude]
        dsimp only
        rw [hmagnitude, abs_div, abs_value, abs_value, value_eq_magnitude a, value_eq_magnitude b]
        cases a.negative <;> cases b.negative <;> simp [neg_div, div_neg]
      obtain ⟨r, hr, hsame⟩ := DecimalContext.fix_of_represents (by rwa [hvalue])
      refine ⟨r, ?_, hsame.trans hvalue⟩
      rw [div]
      dsimp only
      rw [if_neg hb, if_neg ha, if_pos hmod, hr]

theorem stripTo_negative (ideal : ℤ) (fuel : ℕ) (d : FiniteDecimal) :
    (stripTo ideal fuel d).negative = d.negative := by
  induction fuel generalizing d with
  | zero => rfl
  | succ fuel ih =>
    rw [stripTo]
    split_ifs
    · rw [ih]
    · rfl

/-- A number without a minus sign is not below zero. -/
theorem value_nonneg_of_not_negative (h : a.negative = false) : 0 ≤ a.value := by
  rw [value_of_not_negative h]
  exact mul_nonneg (Nat.cast_nonneg _) (ten_zpow_pos _).le

/-- A quotient of a number that is not below zero by a positive one is not below zero. -/
theorem div_nonneg_of_ok (h : div ctx a b = .ok r) (ha : 0 ≤ a.value) (hb : 0 < b.value) :
    0 ≤ r.value := by
  have hbzero : b.coefficient ≠ 0 := fun hzero => hb.ne' (value_eq_zero_iff.mpr hzero)
  have hbnegative := negative_eq_false_of_pos hb
  rw [div] at h
  simp only [if_neg hbzero, hbnegative, Bool.xor_false] at h
  split_ifs at h with hazero hexact hsticky
  · obtain ⟨r', hr', hvalue, -⟩ := DecimalContext.fix_of_zero ctx
      (show (⟨a.negative, 0, a.exponent - b.exponent⟩ : FiniteDecimal).coefficient = 0 from rfl)
    rw [h] at hr'
    cases hr'
    exact hvalue.ge
  all_goals
    have hanegative : a.negative = false := negative_eq_false_of_pos
      (ha.lt_of_ne fun hzero => hazero (value_eq_zero_iff.mp hzero.symm))
    refine DecimalContext.fix_nonneg h (value_nonneg_of_not_negative ?_)
  · rw [stripTo_negative]
    exact hanegative
  · exact hanegative
  · exact hanegative

/-! ## Whole numbers -/

theorem value_ofInt (n : ℤ) : (ofInt n).value = n := by
  have hint : (ofInt n).toInt = n := by
    rw [ofInt, toInt]
    split_ifs with hnegative
    · have hbelow := of_decide_eq_true hnegative
      dsimp only
      omega
    · have hbelow := of_decide_eq_false (Bool.not_eq_true _ ▸ hnegative)
      dsimp only
      omega
  rw [value, hint, ofInt, zpow_zero, mul_one]

/-- Nothing is cut off a whole number. -/
theorem truncate_of_int {d : FiniteDecimal} {n : ℤ} (h : d.value = n) : d.truncate = n := by
  have hsigned : ∀ m : ℕ, (m : ℚ) = d.magnitude → (if d.negative = true then -(m : ℤ) else m) = n := by
    intro m hm
    have hvalue : ((if d.negative = true then -(m : ℤ) else m : ℤ) : ℚ) = d.value := by
      rw [value_eq_magnitude, ← hm]
      split_ifs <;> push_cast <;> rfl
    exact_mod_cast hvalue.trans h
  have hmagnitude : (n.natAbs : ℚ) = d.magnitude := by
    rw [← abs_value, h, Nat.cast_natAbs, Int.cast_abs]
  rw [truncate]
  by_cases hexponent : 0 ≤ d.exponent
  · rw [if_pos hexponent]
    apply hsigned
    rw [Nat.cast_mul, ten_zpow_toNat hexponent, magnitude]
  · rw [if_neg hexponent]
    apply hsigned
    -- the coefficient ends in as many zeros as the exponent leaves off
    have hdigits : d.coefficient = n.natAbs * 10 ^ (-d.exponent).toNat := by
      have hshift : (10 : ℚ) ^ d.exponent * (10 ^ (-d.exponent).toNat : ℕ) = 1 := by
        rw [ten_zpow_toNat (by omega), ← ten_zpow_add, add_neg_cancel, zpow_zero]
      have hcast : (d.coefficient : ℚ) = n.natAbs * (10 ^ (-d.exponent).toNat : ℕ) := by
        rw [hmagnitude, magnitude, mul_assoc, hshift, mul_one]
      exact_mod_cast hcast
    rw [hdigits, Nat.mul_div_cancel _ (by positivity), hmagnitude]

/-! ## The least integer above -/

/-- A whole number of tens to no negative power is an integer. -/
theorem ceilToIntegral_of_nonneg {d : FiniteDecimal} (h : 0 ≤ d.exponent) :
    (⌈d.value⌉ : ℚ) = d.value := by
  have hint : d.value = ((d.toInt * 10 ^ d.exponent.toNat : ℤ) : ℚ) := by
    rw [value]
    push_cast
    rw [← zpow_natCast, Int.toNat_of_nonneg h]
  rw [hint, Int.ceil_intCast]

/-- The least integer that is not below a decimal. -/
theorem value_ceilToIntegral (d : FiniteDecimal) : d.ceilToIntegral.value = ⌈d.value⌉ := by
  by_cases hexp : 0 ≤ d.exponent
  · rw [ceilToIntegral, if_pos hexp, ceilToIntegral_of_nonneg hexp]
  have hunit : (0 : ℚ) < (10 ^ (-d.exponent).toNat : ℕ) := by positivity
  have hscale : (10 : ℚ) ^ d.exponent * (10 ^ (-d.exponent).toNat : ℕ) = 1 := by
    rw [ten_zpow_toNat (by omega), ← ten_zpow_add, add_neg_cancel, zpow_zero]
  have hmagnitude : d.magnitude = (d.coefficient : ℚ) / (10 ^ (-d.exponent).toNat : ℕ) := by
    rw [eq_div_iff hunit.ne', magnitude, mul_assoc, hscale, mul_one]
  rw [ceilToIntegral, if_neg hexp]
  generalize 10 ^ (-d.exponent).toNat = unit at hunit hmagnitude ⊢
  have hpos : 0 < unit := by exact_mod_cast hunit
  cases hnegative : d.negative with
  | true =>
    rw [value_eq_magnitude d, hnegative, hmagnitude, if_pos rfl, if_pos rfl, Int.ceil_neg,
      Rat.floor_natCast_div_natCast, value_eq_magnitude, if_pos rfl, magnitude, zpow_zero, mul_one]
    norm_cast
  | false =>
    rw [value_eq_magnitude d, hnegative, hmagnitude, if_neg Bool.false_ne_true,
      if_neg Bool.false_ne_true, value_of_not_negative rfl, zpow_zero, mul_one]
    -- the least multiple of the unit that is not below the coefficient
    have hlow := Nat.div_mul_le_self (d.coefficient + unit - 1) unit
    have hhigh := Nat.lt_div_mul_add (a := d.coefficient + unit - 1) hpos
    have hceil : ⌈(d.coefficient : ℚ) / unit⌉ = ((d.coefficient + unit - 1) / unit : ℕ) := by
      rw [Int.ceil_eq_iff, lt_div_iff₀ hunit, div_le_iff₀ hunit]
      generalize (d.coefficient + unit - 1) / unit = least at hlow hhigh
      constructor
      · have hlt : least * unit < d.coefficient + unit := by omega
        have hcast : (least * unit : ℚ) < d.coefficient + unit := by exact_mod_cast hlt
        push_cast
        linarith
      · have hle : d.coefficient ≤ least * unit := by omega
        exact_mod_cast hle
    rw [hceil]
    norm_cast

end FiniteDecimal
