import Atreides.Foundation.Decimal.Exact

/-!
# Rounding and order

Fitting a result into a context keeps the order of results, and what it makes zero is what was
within half of the context's smallest step of it.

## Main results

* `fix_value_eq_zero_iff` — what is rounded to zero
* `fix_mono` — a larger result is not rounded below a smaller one
* `FiniteDecimal.add_mono`, `FiniteDecimal.sub_mono` — sums and differences grow with their terms
-/

/-- A larger number is not rounded below a smaller one. -/
theorem roundHalfEven_mono {n m k : ℕ} (h : n ≤ m) : roundHalfEven n k ≤ roundHalfEven m k := by
  obtain hlt | heq := (Nat.div_le_div_right h : n / 10 ^ k ≤ m / 10 ^ k).lt_or_eq
  · calc roundHalfEven n k ≤ n / 10 ^ k + 1 := roundHalfEven_le n k
      _ ≤ m / 10 ^ k := hlt
      _ ≤ roundHalfEven m k := div_le_roundHalfEven m k
  · -- the same digits are kept, so the dropped ones decide
    have hn := Nat.div_add_mod n (10 ^ k)
    have hm := Nat.div_add_mod m (10 ^ k)
    rw [heq] at hn
    have hmod : n % 10 ^ k ≤ m % 10 ^ k := by omega
    simp only [roundHalfEven, heq]
    split_ifs <;> omega

namespace DecimalContext

open FiniteDecimal

variable {ctx : DecimalContext} {a b a' b' d d' : FiniteDecimal}

/-- A magnitude of at most another is in no higher a decade. -/
theorem target_mono (ha : a.coefficient ≠ 0) (hb : b.coefficient ≠ 0)
    (h : a.magnitude ≤ b.magnitude) : ctx.target a ≤ ctx.target b := by
  have hlow := (ctx.magnitude_bounds ha).1
  have hhigh := (ctx.magnitude_bounds hb).2
  have hexp := (zpow_lt_zpow_iff_right₀ (by norm_num : (1 : ℚ) < 10)).mp
    ((hlow.trans h).trans_lt hhigh)
  simp only [target]
  omega

/-- What is rounded at a target exponent keeps the decade of its leading digit. -/
theorem decade_le_fix_magnitude (hzero : d.coefficient ≠ 0) (hlt : d.exponent < ctx.target d)
    (htarget : ctx.target d = ctx.widest d) :
    (10 : ℚ) ^ (ctx.target d + ctx.prec - 1) ≤
      (roundHalfEven d.coefficient (ctx.target d - d.exponent).toNat : ℕ) * 10 ^ ctx.target d := by
  have hlow := (ctx.magnitude_bounds hzero).1
  have hceil := (roundHalfEven_bounds hlt).2
  have hprec := ctx.prec_pos
  have hsplit : (10 : ℚ) ^ (ctx.target d + ctx.prec - 1) =
      ((10 ^ (ctx.prec - 1) : ℕ) : ℚ) * 10 ^ ctx.target d := by
    have hexp : ctx.target d + ctx.prec - 1 = ((ctx.prec - 1 : ℕ) : ℤ) + ctx.target d := by
      omega
    rw [hexp, ten_zpow_add, zpow_natCast]
    push_cast
    rfl
  rw [← htarget] at hlow
  have hkept := hlow.trans_lt hceil
  rw [hsplit, mul_lt_mul_iff_left₀ (ten_zpow_pos _)] at hkept
  rw [hsplit]
  refine mul_le_mul_of_nonneg_right ?_ (ten_zpow_pos _).le
  have hfloor := div_le_roundHalfEven d.coefficient (ctx.target d - d.exponent).toNat
  generalize d.coefficient / 10 ^ (ctx.target d - d.exponent).toNat = kept at hkept hfloor
  have hint : 10 ^ (ctx.prec - 1) < kept + 1 := by exact_mod_cast hkept
  have hle : 10 ^ (ctx.prec - 1) ≤ roundHalfEven d.coefficient (ctx.target d - d.exponent).toNat := by
    omega
  exact_mod_cast hle

/-- Two numbers that are rounded at one exponent keep their order. -/
theorem roundHalfEven_le_of_magnitude_le {t : ℤ} (ha : a.exponent < t) (hb : b.exponent < t)
    (h : a.magnitude ≤ b.magnitude) :
    roundHalfEven a.coefficient (t - a.exponent).toNat ≤
      roundHalfEven b.coefficient (t - b.exponent).toNat := by
  -- on the finer of the two grids both are whole numbers
  set e := min a.exponent b.exponent with he
  have hsplit : ∀ d : FiniteDecimal, e ≤ d.exponent → d.exponent < t →
      roundHalfEven d.coefficient (t - d.exponent).toNat =
        roundHalfEven (d.coefficient * 10 ^ (d.exponent - e).toNat) (t - e).toNat ∧
      d.magnitude = (d.coefficient * 10 ^ (d.exponent - e).toNat : ℕ) * 10 ^ e := by
    intro d hle hlt
    constructor
    · have hexp : (t - e).toNat = (t - d.exponent).toNat + (d.exponent - e).toNat := by
        omega
      rw [hexp, roundHalfEven_mul_pow]
    · have hexp : d.exponent = (d.exponent - e) + e := by
        ring
      rw [magnitude, Nat.cast_mul, ten_zpow_toNat (by omega), mul_assoc, ← ten_zpow_add, ← hexp]
  obtain ⟨hra, hma⟩ := hsplit a (min_le_left _ _) ha
  obtain ⟨hrb, hmb⟩ := hsplit b (min_le_right _ _) hb
  rw [hra, hrb]
  apply roundHalfEven_mono
  rw [hma, hmb, mul_le_mul_iff_left₀ (ten_zpow_pos _)] at h
  exact_mod_cast h

/-- A larger magnitude is not rounded below a smaller one. -/
theorem fix_magnitude_mono (ha : ctx.fix a = .ok a') (hb : ctx.fix b = .ok b')
    (h : a.magnitude ≤ b.magnitude) : a'.magnitude ≤ b'.magnitude := by
  by_cases hazero : a.coefficient = 0
  · obtain ⟨r, hr, hvalue, -⟩ := fix_of_zero ctx hazero
    rw [hr] at ha
    cases ha
    rw [← abs_value, hvalue, abs_zero]
    exact b'.magnitude_nonneg
  have hbzero : b.coefficient ≠ 0 := by
    intro hzero
    rw [magnitude_eq_zero_iff.mpr hzero] at h
    exact hazero (magnitude_eq_zero_iff.mp (le_antisymm h a.magnitude_nonneg))
  obtain ⟨-, -, ⟨-, rfl⟩ | ⟨hltA, hmagA⟩⟩ := fix_cases hazero ha
  · -- the smaller one fits as it is
    refine le_fix_magnitude ?_ hbzero hb h
    rw [← abs_value]
    exact (represents_of_fix ha).abs
  obtain ⟨-, -, ⟨-, rfl⟩ | ⟨hltB, hmagB⟩⟩ := fix_cases hbzero hb
  · -- the larger one fits as it is
    refine fix_magnitude_le ?_ hazero ha h
    rw [← abs_value]
    exact (represents_of_fix hb).abs
  obtain hlt | heq := (@target_mono ctx _ _ hazero hbzero h).lt_or_eq
  · -- a lower decade is rounded up to the higher one at most
    have hwidest : ctx.target b = ctx.widest b := by
      simp only [target] at hlt ⊢
      omega
    calc a'.magnitude ≤ 10 ^ ((ctx.prec : ℤ) + ctx.target a) := by
          rw [hmagA, ten_zpow_add, zpow_natCast]
          refine mul_le_mul_of_nonneg_right ?_ (ten_zpow_pos _).le
          exact_mod_cast roundHalfEven_le_pow hltA
      _ ≤ 10 ^ (ctx.target b + ctx.prec - 1) := ten_zpow_le (by omega)
      _ ≤ b'.magnitude := by
          rw [hmagB]
          exact decade_le_fix_magnitude hbzero hltB hwidest
  · rw [hmagA, hmagB, heq]
    refine mul_le_mul_of_nonneg_right ?_ (ten_zpow_pos _).le
    exact_mod_cast roundHalfEven_le_of_magnitude_le (heq ▸ hltA) hltB h

/-- A larger result is not rounded below a smaller one. -/
theorem fix_mono (ha : ctx.fix a = .ok a') (hb : ctx.fix b = .ok b') (h : a.value ≤ b.value) :
    a'.value ≤ b'.value := by
  obtain hnonpos | hpos := le_or_gt a.value 0
  · obtain hnonpos' | hpos' := le_or_gt b.value 0
    · -- below zero the magnitudes are the other way round
      have hmag : b.magnitude ≤ a.magnitude := by
        rw [← abs_value, ← abs_value, abs_of_nonpos hnonpos, abs_of_nonpos hnonpos']
        linarith
      have hle := fix_magnitude_mono hb ha hmag
      rw [← abs_value, ← abs_value, abs_of_nonpos (fix_nonpos ha hnonpos),
        abs_of_nonpos (fix_nonpos hb hnonpos')] at hle
      linarith
    · exact (fix_nonpos ha hnonpos).trans (fix_nonneg hb hpos'.le)
  · have hmag : a.magnitude ≤ b.magnitude := by
      rw [← abs_value, ← abs_value, abs_of_pos hpos, abs_of_pos (hpos.trans_le h)]
      exact h
    have hle := fix_magnitude_mono ha hb hmag
    rwa [← abs_value, ← abs_value, abs_of_nonneg (fix_nonneg ha hpos.le),
      abs_of_nonneg (fix_nonneg hb (hpos.le.trans h))] at hle

/-- What is rounded to zero is within half of the smallest step of it. -/
theorem fix_value_eq_zero_iff (h : ctx.fix d = .ok d') :
    d'.value = 0 ↔ d.magnitude ≤ 10 ^ ctx.etiny / 2 := by
  have hstep := ten_zpow_pos ctx.etiny
  by_cases hzero : d.coefficient = 0
  · obtain ⟨r, hr, hvalue, -⟩ := fix_of_zero ctx hzero
    rw [hr] at h
    cases h
    refine iff_of_true hvalue ?_
    rw [magnitude_eq_zero_iff.mpr hzero]
    positivity
  have hprec := ctx.prec_pos
  obtain ⟨-, -, ⟨hfits, rfl⟩ | ⟨hlt, hmag⟩⟩ := fix_cases hzero h
  · refine iff_of_false (fun hvalue => hzero (value_eq_zero_iff.mp hvalue)) (not_le.mpr ?_)
    have hone : (1 : ℚ) ≤ d'.coefficient := by exact_mod_cast Nat.one_le_iff_ne_zero.mpr hzero
    calc (10 : ℚ) ^ ctx.etiny / 2 < 10 ^ ctx.etiny := half_lt_self hstep
      _ ≤ 10 ^ d'.exponent := ten_zpow_le ((le_max_right _ _).trans hfits)
      _ ≤ d'.magnitude := le_mul_of_one_le_left (ten_zpow_pos _).le hone
  · have hvalue : d'.value = 0 ↔
        roundHalfEven d.coefficient (ctx.target d - d.exponent).toNat ≤ 0 := by
      rw [← abs_eq_zero, abs_value, hmag, mul_eq_zero, Nat.cast_eq_zero, Nat.le_zero]
      exact or_iff_left (ten_zpow_pos _).ne'
    rw [hvalue, roundHalfEven_le_iff rfl]
    have hk : (10 : ℚ) ^ ctx.target d =
        ((10 ^ (ctx.target d - d.exponent).toNat : ℕ) : ℚ) * 10 ^ d.exponent := by
      rw [ten_zpow_toNat (by omega), ← ten_zpow_add]
      congr 1
      ring
    have hhalf : 2 * d.coefficient ≤ (2 * 0 + 1) * 10 ^ (ctx.target d - d.exponent).toNat ↔
        d.magnitude ≤ 10 ^ ctx.target d / 2 := by
      rw [hk, magnitude, mul_div_right_comm, mul_le_mul_iff_left₀ (ten_zpow_pos _),
        le_div_iff₀ (by norm_num)]
      constructor
      · intro hle
        have hcast : ((2 * d.coefficient : ℕ) : ℚ) ≤
            ((10 ^ (ctx.target d - d.exponent).toNat : ℕ) : ℚ) := by exact_mod_cast by omega
        push_cast at hcast ⊢
        linarith
      · intro hle
        have hcast : ((2 * d.coefficient : ℕ) : ℚ) ≤
            ((10 ^ (ctx.target d - d.exponent).toNat : ℕ) : ℚ) := by
          push_cast at hle ⊢
          linarith
        have hnat : 2 * d.coefficient ≤ 10 ^ (ctx.target d - d.exponent).toNat := by
          exact_mod_cast hcast
        omega
    rw [hhalf]
    obtain heq | hwide := (le_max_right (ctx.widest d) ctx.etiny).eq_or_lt
    · simp only [target, ← heq]
    · -- with as many digits as the context has, nothing vanishes
      have htarget : ctx.target d = ctx.widest d := by
        simp only [target]
        omega
      have hbig : (10 : ℚ) ^ ctx.target d ≤ d.magnitude :=
        (ten_zpow_le (by omega)).trans (ctx.magnitude_bounds hzero).1
      have hbigger : (10 : ℚ) ^ ctx.etiny ≤ 10 ^ ctx.target d := ten_zpow_le hwide.le
      have hpos := ten_zpow_pos (ctx.target d)
      refine iff_of_false (not_le.mpr ?_) (not_le.mpr ?_) <;> linarith

end DecimalContext

namespace FiniteDecimal

variable {ctx : DecimalContext} {a b a' b' r r' : FiniteDecimal}

/-- A sum grows with its terms. -/
theorem add_mono (h : add ctx a b = .ok r) (h' : add ctx a' b' = .ok r')
    (ha : a.value ≤ a'.value) (hb : b.value ≤ b'.value) : r.value ≤ r'.value := by
  apply DecimalContext.fix_mono h h'
  rw [value_exactAdd, value_exactAdd]
  linarith

/-- A difference grows with what it is taken from, and shrinks with what is taken. -/
theorem sub_mono (h : sub ctx a b = .ok r) (h' : sub ctx a' b' = .ok r')
    (ha : a.value ≤ a'.value) (hb : b'.value ≤ b.value) : r.value ≤ r'.value := by
  apply add_mono h h' ha
  rw [value_copyNegate, value_copyNegate]
  linarith

end FiniteDecimal
