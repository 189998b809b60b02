import Mathlib.Data.Rat.Defs
import Mathlib.Algebra.Order.Field.Rat
import Mathlib.Algebra.Order.Field.Basic
import Mathlib.Tactic.Ring
import Mathlib.Tactic.Linarith
import Mathlib.Tactic.FieldSimp
import Mathlib.Tactic.Positivity
import Atreides.Foundation.Decimal.Basic

/-!
# When decimal arithmetic is exact

A finite decimal stands for a rational number. A context can hold the rationals that are
few enough digits of a power of ten that is not too small, and an operation is exact
precisely on the results it can hold. Rounding never crosses a number the context holds.

## Main results

* `Represents.of_grid` — short numbers on a grid are held
* `fix_magnitude_le`, `le_fix_magnitude` — rounding does not cross a represented number
* `fix_exact_iff` — a result survives a context unchanged exactly when it is represented
* `fix_value_congr` — rounding depends on the number only, not on how it is written
* `add_exact_iff`, `sub_exact_iff` — an operation is exact when its result is represented
-/

theorem ten_zpow_pos (e : ℤ) : (0 : ℚ) < 10 ^ e := zpow_pos (by norm_num) e

theorem ten_zpow_add (a b : ℤ) : (10 : ℚ) ^ (a + b) = 10 ^ a * 10 ^ b :=
  zpow_add₀ (by norm_num) a b

theorem ten_zpow_le {a b : ℤ} (h : a ≤ b) : (10 : ℚ) ^ a ≤ 10 ^ b :=
  zpow_le_zpow_right₀ (by norm_num) h

theorem ten_zpow_toNat {k : ℤ} (h : 0 ≤ k) : ((10 ^ k.toNat : ℕ) : ℚ) = 10 ^ k := by
  obtain ⟨n, rfl⟩ := Int.eq_ofNat_of_zero_le h
  simp

namespace FiniteDecimal

/-- The rational number a finite decimal stands for. -/
def value (d : FiniteDecimal) : ℚ := d.toInt * 10 ^ d.exponent

/-- The magnitude of a finite decimal. -/
def magnitude (d : FiniteDecimal) : ℚ := d.coefficient * 10 ^ d.exponent

@[simp] theorem value_zero : (0 : FiniteDecimal).value = 0 := by
  change (((0 : ℕ) : ℤ) : ℚ) * 10 ^ (0 : ℤ) = 0
  simp

theorem value_eq_magnitude (d : FiniteDecimal) :
    d.value = if d.negative then -d.magnitude else d.magnitude := by
  unfold value magnitude toInt
  split_ifs <;> push_cast <;> ring

theorem magnitude_nonneg (d : FiniteDecimal) : 0 ≤ d.magnitude :=
  mul_nonneg (by positivity) (ten_zpow_pos _).le

theorem abs_value (d : FiniteDecimal) : |d.value| = d.magnitude := by
  rw [value_eq_magnitude]
  split_ifs
  · rw [abs_neg, abs_of_nonneg d.magnitude_nonneg]
  · exact abs_of_nonneg d.magnitude_nonneg

theorem magnitude_eq_zero_iff {d : FiniteDecimal} : d.magnitude = 0 ↔ d.coefficient = 0 := by
  simp [magnitude, (ten_zpow_pos d.exponent).ne']

theorem value_eq_zero_iff {d : FiniteDecimal} : d.value = 0 ↔ d.coefficient = 0 := by
  rw [← abs_eq_zero, abs_value, magnitude_eq_zero_iff]

theorem isZero_iff {d : FiniteDecimal} : d.isZero = true ↔ d.value = 0 := by
  simp [isZero, value_eq_zero_iff]

theorem scaled_mul (d : FiniteDecimal) {e : ℤ} (h : e ≤ d.exponent) :
    (d.scaled e : ℚ) * 10 ^ e = d.value := by
  have hk : (0 : ℤ) ≤ d.exponent - e := by omega
  rw [scaled, value]
  push_cast
  have h10 : ((10 : ℚ) ^ (d.exponent - e).toNat) = 10 ^ (d.exponent - e) := by
    have := ten_zpow_toNat hk
    push_cast at this
    exact this
  rw [h10, mul_assoc, ← ten_zpow_add]
  congr 2
  ring

private theorem scaled_common (a b : FiniteDecimal) :
    (a.scaled (common a b) : ℚ) * 10 ^ common a b = a.value ∧
      (b.scaled (common a b) : ℚ) * 10 ^ common a b = b.value :=
  ⟨a.scaled_mul (min_le_left _ _), b.scaled_mul (min_le_right _ _)⟩

theorem lt_iff {a b : FiniteDecimal} : a.lt b = true ↔ a.value < b.value := by
  obtain ⟨ha, hb⟩ := scaled_common a b
  rw [lt, decide_eq_true_iff, ← ha, ← hb, mul_lt_mul_iff_left₀ (ten_zpow_pos _)]
  exact_mod_cast Iff.rfl

theorem le_iff {a b : FiniteDecimal} : a.le b = true ↔ a.value ≤ b.value := by
  obtain ⟨ha, hb⟩ := scaled_common a b
  rw [le, decide_eq_true_iff, ← ha, ← hb, mul_le_mul_iff_left₀ (ten_zpow_pos _)]
  exact_mod_cast Iff.rfl

theorem eq_iff {a b : FiniteDecimal} : a.eq b = true ↔ a.value = b.value := by
  obtain ⟨ha, hb⟩ := scaled_common a b
  rw [eq, decide_eq_true_iff, ← ha, ← hb, mul_left_inj' (ten_zpow_pos _).ne']
  exact_mod_cast Iff.rfl

@[simp] theorem value_copyNegate (d : FiniteDecimal) : d.copyNegate.value = -d.value := by
  rw [value_eq_magnitude, value_eq_magnitude]
  cases h : d.negative <;> simp [copyNegate, magnitude, h]

@[simp] theorem value_copyAbs (d : FiniteDecimal) : d.copyAbs.value = |d.value| := by
  rw [abs_value, value_eq_magnitude]
  simp [copyAbs, magnitude]

theorem value_exactAdd (a b : FiniteDecimal) : (exactAdd a b).value = a.value + b.value := by
  obtain ⟨ha, hb⟩ := scaled_common a b
  have hint : (exactAdd a b).toInt = a.scaled (common a b) + b.scaled (common a b) := by
    simp only [exactAdd, toInt]
    split_ifs with h₀ h₁ h₁
    · rw [h₀]; simp
    · rw [h₀]; simp
    · have hneg : a.scaled (common a b) + b.scaled (common a b) < 0 := by simpa using h₁
      rw [Int.natCast_natAbs, abs_of_neg hneg]; ring
    · have hnonneg : 0 ≤ a.scaled (common a b) + b.scaled (common a b) := by simpa using h₁
      rw [Int.natCast_natAbs, abs_of_nonneg hnonneg]
  rw [value, hint, ← ha, ← hb]
  push_cast
  exact add_mul _ _ _

theorem value_exactMul (a b : FiniteDecimal) : (exactMul a b).value = a.value * b.value := by
  have hmag : (exactMul a b).magnitude = a.magnitude * b.magnitude := by
    simp only [magnitude, exactMul]
    rw [ten_zpow_add]
    push_cast
    ring
  rw [value_eq_magnitude, value_eq_magnitude a, value_eq_magnitude b, hmag]
  cases ha : a.negative <;> cases hb : b.negative <;> simp [exactMul, ha, hb]

end FiniteDecimal

/-! ## The numbers a context holds -/

/-- A rational a context can hold: few enough digits of a power of ten that is not too
small, and not too large altogether. -/
def DecimalContext.Represents (ctx : DecimalContext) (v : ℚ) : Prop :=
  (∃ m e : ℤ, |m| < 10 ^ ctx.prec ∧ ctx.etiny ≤ e ∧ v = m * 10 ^ e) ∧ |v| < 10 ^ (ctx.Emax + 1)

/-- A whole number of steps of size `10 ^ e`. -/
def OnGrid (e : ℤ) (v : ℚ) : Prop := ∃ m : ℤ, v = m * 10 ^ e

namespace OnGrid

variable {e e' : ℤ} {v w : ℚ}

@[simp] theorem zero (e : ℤ) : OnGrid e 0 := ⟨0, by simp⟩

theorem add (hv : OnGrid e v) (hw : OnGrid e w) : OnGrid e (v + w) := by
  obtain ⟨m, rfl⟩ := hv
  obtain ⟨n, rfl⟩ := hw
  exact ⟨m + n, by push_cast; ring⟩

theorem neg (hv : OnGrid e v) : OnGrid e (-v) := by
  obtain ⟨m, rfl⟩ := hv
  exact ⟨-m, by push_cast; ring⟩

theorem sub (hv : OnGrid e v) (hw : OnGrid e w) : OnGrid e (v - w) := by
  rw [sub_eq_add_neg]
  exact hv.add hw.neg

theorem abs (hv : OnGrid e v) : OnGrid e |v| := by
  rcases abs_choice v with h | h <;> rw [h]
  · exact hv
  · exact hv.neg

/-- A coarser grid is part of a finer one. -/
theorem mono (h : e ≤ e') (hv : OnGrid e' v) : OnGrid e v := by
  obtain ⟨m, rfl⟩ := hv
  refine ⟨m * (10 ^ (e' - e).toNat : ℕ), ?_⟩
  have h10 := ten_zpow_toNat (k := e' - e) (by omega)
  rw [Int.cast_mul, Int.cast_natCast, h10, mul_assoc, ← ten_zpow_add]
  congr 2
  ring

theorem value (d : FiniteDecimal) : OnGrid d.exponent d.value := ⟨d.toInt, rfl⟩

end OnGrid

namespace DecimalContext

variable {ctx : DecimalContext}

theorem Represents.neg {v : ℚ} (h : ctx.Represents v) : ctx.Represents (-v) := by
  obtain ⟨⟨m, e, hm, he, rfl⟩, hbound⟩ := h
  exact ⟨⟨-m, e, by rwa [abs_neg], he, by push_cast; ring⟩, by rwa [abs_neg]⟩

theorem represents_neg_iff {v : ℚ} : ctx.Represents (-v) ↔ ctx.Represents v :=
  ⟨fun h => by simpa using h.neg, Represents.neg⟩

theorem Represents.abs {v : ℚ} (h : ctx.Represents v) : ctx.Represents |v| := by
  rcases abs_choice v with h' | h' <;> rw [h']
  · exact h
  · exact h.neg

/-- Short numbers on a grid are held. -/
theorem Represents.of_grid {e : ℤ} {v : ℚ} (hgrid : OnGrid e v) (hfine : ctx.etiny ≤ e)
    (hcoarse : e + ctx.prec ≤ ctx.Emax + 1) (hshort : |v| < 10 ^ ((ctx.prec : ℤ) + e)) :
    ctx.Represents v := by
  obtain ⟨m, rfl⟩ := hgrid
  refine ⟨⟨m, e, ?_, hfine, rfl⟩, hshort.trans_le (ten_zpow_le (by omega))⟩
  rw [abs_mul, abs_of_pos (ten_zpow_pos e), ten_zpow_add,
    mul_lt_mul_iff_left₀ (ten_zpow_pos e), zpow_natCast] at hshort
  exact_mod_cast hshort

theorem represents_zero (ctx : DecimalContext) : ctx.Represents 0 :=
  ⟨⟨0, ctx.etiny, by simp, le_rfl, by simp⟩, by simpa using ten_zpow_pos _⟩

end DecimalContext

/-! ## Digits and rounding -/

theorem lt_pow_digitCount (n : ℕ) : n < 10 ^ digitCount n :=
  Nat.lt_pow_succ_log_self (by norm_num) n

theorem pow_le_of_ne_zero {n : ℕ} (h : n ≠ 0) : 10 ^ (digitCount n - 1) ≤ n := by
  simpa [digitCount] using Nat.pow_log_le_self 10 h

theorem digitCount_pos (n : ℕ) : 0 < digitCount n := Nat.succ_pos _

theorem digitCount_mul_pow {n : ℕ} (h : n ≠ 0) (j : ℕ) :
    digitCount (n * 10 ^ j) = digitCount n + j := by
  induction j with
  | zero => simp
  | succ j ih =>
    rw [pow_succ, ← mul_assoc, digitCount, Nat.log_mul_base (by norm_num) (by positivity)]
    simp only [digitCount] at ih ⊢
    omega

theorem digitCount_le_iff {n k : ℕ} (hk : 0 < k) : digitCount n ≤ k ↔ n < 10 ^ k := by
  constructor
  · intro h
    exact (lt_pow_digitCount n).trans_le (Nat.pow_le_pow_right (by norm_num) h)
  · intro h
    rcases Nat.eq_zero_or_pos n with rfl | hn
    · exact (by simp [digitCount] : digitCount 0 = 1).trans_le hk
    · exact Nat.succ_le_of_lt (Nat.log_lt_of_lt_pow hn.ne' h)

theorem div_le_roundHalfEven (n k : ℕ) : n / 10 ^ k ≤ roundHalfEven n k := by
  simp only [roundHalfEven]
  split_ifs <;> omega

theorem roundHalfEven_le (n k : ℕ) : roundHalfEven n k ≤ n / 10 ^ k + 1 := by
  simp only [roundHalfEven]
  split_ifs <;> omega

theorem roundHalfEven_of_dvd {n k : ℕ} (h : 10 ^ k ∣ n) : roundHalfEven n k = n / 10 ^ k := by
  have hzero : n % 10 ^ k = 0 := Nat.mod_eq_zero_of_dvd h
  have hpos : 0 < 10 ^ k := by positivity
  simp [roundHalfEven, hzero]

/-- Trailing zeros do not change the rounded digits. -/
theorem roundHalfEven_mul_pow (n k j : ℕ) :
    roundHalfEven (n * 10 ^ j) (k + j) = roundHalfEven n k := by
  have hpos : 0 < 10 ^ j := by positivity
  have hdiv : n * 10 ^ j / 10 ^ (k + j) = n / 10 ^ k := by
    rw [pow_add, Nat.mul_div_mul_right _ _ hpos]
  have hmod : n * 10 ^ j % 10 ^ (k + j) = n % 10 ^ k * 10 ^ j := by
    rw [pow_add, Nat.mul_mod_mul_right]
  simp only [roundHalfEven, hdiv, hmod]
  have hlt : 2 * (n % 10 ^ k * 10 ^ j) < 10 ^ (k + j) ↔ 2 * (n % 10 ^ k) < 10 ^ k := by
    rw [pow_add, ← mul_assoc, Nat.mul_lt_mul_right hpos]
  have hgt : 10 ^ (k + j) < 2 * (n % 10 ^ k * 10 ^ j) ↔ 10 ^ k < 2 * (n % 10 ^ k) := by
    rw [pow_add, ← mul_assoc, Nat.mul_lt_mul_right hpos]
  simp only [hlt, hgt]

/-- Rounding stays at or below an even number up to and including the half above it. -/
theorem roundHalfEven_le_iff {n k g : ℕ} (heven : g % 2 = 0) :
    roundHalfEven n k ≤ g ↔ 2 * n ≤ (2 * g + 1) * 10 ^ k := by
  have hpos : 0 < 10 ^ k := by positivity
  have hsplit := Nat.div_add_mod n (10 ^ k)
  have hmod := Nat.mod_lt n hpos
  simp only [roundHalfEven]
  generalize hkept : n / 10 ^ k = kept at hsplit ⊢
  generalize hdropped : n % 10 ^ k = dropped at hsplit hmod ⊢
  rcases lt_trichotomy kept g with hlt | rfl | hlt
  · have hmul : 10 ^ k * (kept + 1) ≤ 10 ^ k * g := Nat.mul_le_mul_left _ hlt
    have hbelow : 2 * n ≤ (2 * g + 1) * 10 ^ k := by
      rw [mul_add, mul_one] at hmul
      linarith
    refine iff_of_true ?_ hbelow
    split_ifs <;> omega
  · -- the kept digits are the bound, so only rounding up passes it
    have hhalf : 2 * n ≤ (2 * kept + 1) * 10 ^ k ↔ 2 * dropped ≤ 10 ^ k := by
      rw [← hsplit]
      constructor <;> intro h <;> linarith
    rw [hhalf]
    split_ifs <;> omega
  · have hmul : 10 ^ k * (g + 1) ≤ 10 ^ k * kept := Nat.mul_le_mul_left _ hlt
    have habove : ¬ 2 * n ≤ (2 * g + 1) * 10 ^ k := by
      rw [mul_add, mul_one] at hmul
      linarith
    refine iff_of_false ?_ habove
    split_ifs <;> omega

/-! ## Fitting a result into a context -/

namespace DecimalContext

open FiniteDecimal

variable {ctx : DecimalContext} {d d' : FiniteDecimal}

private theorem target_le_iff : ctx.target d ≤ d.exponent ↔
    digitCount d.coefficient ≤ ctx.prec ∧ ctx.etiny ≤ d.exponent := by
  simp only [target, widest, max_le_iff]
  omega

/-- The magnitude of a nonzero decimal lies in the decade of its leading digit. -/
theorem magnitude_bounds (ctx : DecimalContext) (h : d.coefficient ≠ 0) :
    (10 : ℚ) ^ (ctx.widest d + ctx.prec - 1) ≤ d.magnitude ∧
      d.magnitude < 10 ^ (ctx.widest d + ctx.prec) := by
  have hlow := pow_le_of_ne_zero h
  have hhigh := lt_pow_digitCount d.coefficient
  have hdigits := digitCount_pos d.coefficient
  constructor
  · have hexp : ctx.widest d + ctx.prec - 1 =
        ((digitCount d.coefficient - 1 : ℕ) : ℤ) + d.exponent := by
      simp only [widest]
      omega
    rw [hexp, ten_zpow_add, zpow_natCast, magnitude]
    exact mul_le_mul_of_nonneg_right (by exact_mod_cast hlow) (ten_zpow_pos _).le
  · have hexp : ctx.widest d + ctx.prec = (digitCount d.coefficient : ℤ) + d.exponent := by
      simp only [widest]
      ring
    rw [hexp, ten_zpow_add, zpow_natCast, magnitude]
    exact mul_lt_mul_of_pos_right (by exact_mod_cast hhigh) (ten_zpow_pos _)

/-- A result overflows at once exactly when it is beyond the largest exponent. -/
theorem etop_lt_widest_iff (h : d.coefficient ≠ 0) :
    ctx.etop < ctx.widest d ↔ (10 : ℚ) ^ (ctx.Emax + 1) ≤ d.magnitude := by
  obtain ⟨hlow, hhigh⟩ := ctx.magnitude_bounds h
  constructor
  · intro hlt
    refine (ten_zpow_le ?_).trans hlow
    simp only [etop] at hlt
    omega
  · intro hle
    by_contra hlt
    refine absurd (hle.trans_lt hhigh) (not_lt.mpr (ten_zpow_le ?_))
    simp only [etop] at hlt
    omega

/-- How a coefficient sits between two neighbours on the target grid. -/
theorem roundHalfEven_bounds (hlt : d.exponent < ctx.target d) :
    let k := (ctx.target d - d.exponent).toNat
    ((d.coefficient / 10 ^ k : ℕ) : ℚ) * 10 ^ ctx.target d ≤ d.magnitude ∧
      d.magnitude < ((d.coefficient / 10 ^ k + 1 : ℕ) : ℚ) * 10 ^ ctx.target d := by
  intro k
  have hk : (10 : ℚ) ^ ctx.target d = ((10 ^ k : ℕ) : ℚ) * 10 ^ d.exponent := by
    rw [ten_zpow_toNat (by omega), ← ten_zpow_add]
    congr 1
    ring
  have hpos := ten_zpow_pos d.exponent
  rw [hk, ← mul_assoc, ← mul_assoc, magnitude]
  constructor
  · refine mul_le_mul_of_nonneg_right ?_ hpos.le
    exact_mod_cast Nat.div_mul_le_self _ _
  · refine mul_lt_mul_of_pos_right ?_ hpos
    have := Nat.lt_div_mul_add (a := d.coefficient) (b := 10 ^ k) (by positivity)
    exact_mod_cast this.trans_eq (by ring)

theorem roundHalfEven_le_pow (hlt : d.exponent < ctx.target d) :
    roundHalfEven d.coefficient (ctx.target d - d.exponent).toNat ≤ 10 ^ ctx.prec := by
  set k := (ctx.target d - d.exponent).toNat with hk
  have hlen : digitCount d.coefficient ≤ ctx.prec + k := by
    have : ctx.widest d ≤ ctx.target d := le_max_left _ _
    simp only [widest] at this
    omega
  have hcoeff : d.coefficient < 10 ^ ctx.prec * 10 ^ k := by
    rw [← pow_add]
    exact (lt_pow_digitCount _).trans_le (Nat.pow_le_pow_right (by norm_num) hlen)
  have hdiv : d.coefficient / 10 ^ k < 10 ^ ctx.prec := Nat.div_lt_of_lt_mul (by
    rwa [mul_comm] at hcoeff)
  exact (roundHalfEven_le _ _).trans hdiv

/-- A result a decade below the largest exponent is returned. -/
theorem fix_returns (hrange : ctx.Emin < ctx.Emax) (h : d.magnitude < 10 ^ ctx.Emax) :
    ∃ d', ctx.fix d = .ok d' := by
  by_cases hzero : d.coefficient = 0
  · exact ⟨_, by rw [fix, if_pos hzero]⟩
  have hlow := (ctx.magnitude_bounds hzero).1.trans_lt h
  have hwidest : ctx.widest d + ctx.prec - 1 < ctx.Emax :=
    (zpow_lt_zpow_iff_right₀ (by norm_num)).mp hlow
  have htop : ¬ ctx.etop < ctx.widest d := by
    simp only [etop]
    omega
  have hcarry : ¬ ctx.etop < ctx.target d + 1 := by
    simp only [etop, etiny, target]
    omega
  simp only [fix, if_neg hzero, if_neg htop, if_neg hcarry]
  split_ifs
  · exact ⟨_, rfl⟩
  · exact ⟨_, rfl⟩
  · exact ⟨_, rfl⟩

/-- Fitting a result raises nothing but an overflow. -/
theorem fix_error {e : PyError} (h : ctx.fix d = .error e) : e = .overflow := by
  rw [fix] at h
  dsimp only at h
  split_ifs at h <;> cases h <;> rfl

/-- What fitting a nonzero result can return: the result itself where it already fits,
otherwise the rounded digits at the target exponent. -/
theorem fix_cases (hzero : d.coefficient ≠ 0) (h : ctx.fix d = .ok d') :
    d'.negative = d.negative ∧ d.magnitude < 10 ^ (ctx.Emax + 1) ∧
      ((ctx.target d ≤ d.exponent ∧ d' = d) ∨
        (d.exponent < ctx.target d ∧
          d'.magnitude = (roundHalfEven d.coefficient (ctx.target d - d.exponent).toNat : ℕ) *
            10 ^ ctx.target d)) := by
  simp only [fix, hzero, if_false] at h
  split_ifs at h with htop hround hcarry hcarrytop
  · have hmag := (not_congr (etop_lt_widest_iff hzero)).mp htop
    cases h
    refine ⟨rfl, not_le.mp hmag, Or.inr ⟨hround, ?_⟩⟩
    have hten : ((10 ^ ctx.prec / 10 : ℕ) : ℚ) * 10 = (10 ^ ctx.prec : ℕ) := by
      obtain ⟨p, hp⟩ := Nat.exists_eq_succ_of_ne_zero ctx.prec_pos.ne'
      rw [hp, pow_succ, Nat.mul_div_cancel _ (by norm_num)]
      push_cast
      ring
    simp only [magnitude, hcarry]
    rw [ten_zpow_add, ← hten]
    ring
  · have hmag := (not_congr (etop_lt_widest_iff hzero)).mp htop
    cases h
    exact ⟨rfl, not_le.mp hmag, Or.inr ⟨hround, rfl⟩⟩
  · have hmag := (not_congr (etop_lt_widest_iff hzero)).mp htop
    cases h
    exact ⟨rfl, not_le.mp hmag, Or.inl ⟨not_lt.mp hround, rfl⟩⟩

theorem fix_of_zero (ctx : DecimalContext) (hzero : d.coefficient = 0) :
    ∃ d', ctx.fix d = .ok d' ∧ d'.value = 0 ∧ d'.negative = d.negative :=
  ⟨{ d with exponent := min (max d.exponent ctx.etiny) ctx.Emax }, by simp [fix, hzero],
    value_eq_zero_iff.mpr hzero, rfl⟩

/-- Rounding does not make a positive number of one that is not. -/
theorem fix_nonpos (h : ctx.fix d = .ok d') (hnonpos : d.value ≤ 0) : d'.value ≤ 0 := by
  by_cases hzero : d.coefficient = 0
  · obtain ⟨r, hr, hvalue, -⟩ := fix_of_zero ctx hzero
    rw [hr] at h
    cases h
    exact hvalue.le
  · obtain ⟨hsign, -⟩ := fix_cases hzero h
    have hnegative : d.negative = true := by
      by_contra hpositive
      rw [value_eq_magnitude, if_neg hpositive] at hnonpos
      exact hzero (magnitude_eq_zero_iff.mp (le_antisymm hnonpos d.magnitude_nonneg))
    rw [value_eq_magnitude, hsign, if_pos hnegative]
    exact neg_nonpos.mpr d'.magnitude_nonneg

/-- Rounding does not make a negative number of one that is not. -/
theorem fix_nonneg (h : ctx.fix d = .ok d') (hnonneg : 0 ≤ d.value) : 0 ≤ d'.value := by
  by_cases hzero : d.coefficient = 0
  · obtain ⟨r, hr, hvalue, -⟩ := fix_of_zero ctx hzero
    rw [hr] at h
    cases h
    exact hvalue.ge
  · obtain ⟨hsign, -⟩ := fix_cases hzero h
    have hpositive : ¬ d.negative = true := by
      intro hnegative
      rw [value_eq_magnitude, if_pos hnegative, neg_nonneg] at hnonneg
      exact hzero (magnitude_eq_zero_iff.mp (le_antisymm hnonneg d.magnitude_nonneg))
    rw [value_eq_magnitude, hsign, if_neg hpositive]
    exact d'.magnitude_nonneg

/-- A represented number is a whole number of target steps, unless it is so small that it
lies below the leading decade of the decimal that is being rounded. -/
private theorem represents_onGrid_or_small {g : ℚ} (hg : ctx.Represents g) :
    OnGrid (ctx.target d) g ∨
      (ctx.target d = ctx.widest d ∧ |g| < 10 ^ (ctx.widest d + ctx.prec - 1)) := by
  obtain ⟨⟨m, e, hm, he, rfl⟩, -⟩ := hg
  by_cases hfine : ctx.target d ≤ e
  · exact Or.inl (OnGrid.mono hfine ⟨m, rfl⟩)
  · have hwide : ctx.target d = ctx.widest d := by
      simp only [target] at hfine ⊢
      omega
    refine Or.inr ⟨hwide, ?_⟩
    have habs : |(m : ℚ) * 10 ^ e| < 10 ^ ((ctx.prec : ℤ) + e) := by
      rw [abs_mul, abs_of_pos (ten_zpow_pos e), ten_zpow_add, zpow_natCast]
      exact mul_lt_mul_of_pos_right (by exact_mod_cast hm) (ten_zpow_pos e)
    exact habs.trans_le (ten_zpow_le (by omega))

/-- A magnitude on the target grid has zeros in every digit the rounding drops. -/
private theorem pow_dvd_of_onGrid (hlt : d.exponent < ctx.target d)
    (hgrid : OnGrid (ctx.target d) d.magnitude) :
    10 ^ (ctx.target d - d.exponent).toNat ∣ d.coefficient := by
  obtain ⟨m, hm⟩ := hgrid
  have hk : (10 : ℚ) ^ ctx.target d =
      ((10 ^ (ctx.target d - d.exponent).toNat : ℕ) : ℚ) * 10 ^ d.exponent := by
    rw [ten_zpow_toNat (by omega), ← ten_zpow_add]
    congr 1
    ring
  rw [magnitude, hk, ← mul_assoc, mul_left_inj' (ten_zpow_pos _).ne'] at hm
  have hint : (d.coefficient : ℤ) = m * (10 ^ (ctx.target d - d.exponent).toNat : ℕ) := by
    exact_mod_cast hm
  exact Int.natCast_dvd_natCast.mp (Dvd.intro_left m hint.symm)

/-- Rounding does not carry a magnitude past a represented number above it. -/
theorem fix_magnitude_le {g : ℚ} (hg : ctx.Represents g) (hzero : d.coefficient ≠ 0)
    (h : ctx.fix d = .ok d') (hle : d.magnitude ≤ g) : d'.magnitude ≤ g := by
  obtain ⟨-, -, ⟨-, rfl⟩ | ⟨hlt, hmag⟩⟩ := fix_cases hzero h
  · exact hle
  obtain ⟨hfloor, hceil⟩ := roundHalfEven_bounds hlt
  have hnonneg : 0 ≤ g := d.magnitude_nonneg.trans hle
  rcases represents_onGrid_or_small (d := d) hg with hgrid | ⟨-, hsmall⟩
  · obtain ⟨m, rfl⟩ := hgrid
    by_cases hexact : OnGrid (ctx.target d) d.magnitude
    · rw [hmag, roundHalfEven_of_dvd (pow_dvd_of_onGrid hlt hexact)]
      exact hfloor.trans hle
    · have hstrict := lt_of_le_of_ne hfloor fun heq => hexact ⟨_, by
        rw [← heq]; rfl⟩
      have hlt' := hstrict.trans_le hle
      rw [mul_lt_mul_iff_left₀ (ten_zpow_pos _)] at hlt'
      have hup := roundHalfEven_le d.coefficient (ctx.target d - d.exponent).toNat
      rw [hmag]
      generalize roundHalfEven d.coefficient (ctx.target d - d.exponent).toNat = rounded at hup ⊢
      generalize d.coefficient / 10 ^ (ctx.target d - d.exponent).toNat = kept at hlt' hup
      refine mul_le_mul_of_nonneg_right ?_ (ten_zpow_pos _).le
      have hint : (kept : ℤ) < m := by exact_mod_cast hlt'
      have hround : (rounded : ℤ) ≤ m := by omega
      exact_mod_cast hround
  · rw [abs_of_nonneg hnonneg] at hsmall
    exact absurd ((ctx.magnitude_bounds hzero).1.trans hle) (not_le.mpr hsmall)

/-- Rounding does not carry a magnitude past a represented number below it. -/
theorem le_fix_magnitude {g : ℚ} (hg : ctx.Represents g) (hzero : d.coefficient ≠ 0)
    (h : ctx.fix d = .ok d') (hle : g ≤ d.magnitude) : g ≤ d'.magnitude := by
  obtain ⟨-, -, ⟨-, rfl⟩ | ⟨hlt, hmag⟩⟩ := fix_cases hzero h
  · exact hle
  obtain ⟨-, hceil⟩ := roundHalfEven_bounds hlt
  have hdown := div_le_roundHalfEven d.coefficient (ctx.target d - d.exponent).toNat
  rcases represents_onGrid_or_small (d := d) hg with ⟨m, rfl⟩ | ⟨hwide, hsmall⟩
  · have hlt' := hle.trans_lt hceil
    rw [mul_lt_mul_iff_left₀ (ten_zpow_pos _)] at hlt'
    rw [hmag]
    generalize roundHalfEven d.coefficient (ctx.target d - d.exponent).toNat = rounded at hdown ⊢
    generalize d.coefficient / 10 ^ (ctx.target d - d.exponent).toNat = kept at hlt' hdown
    refine mul_le_mul_of_nonneg_right ?_ (ten_zpow_pos _).le
    have hint : m < ((kept + 1 : ℕ) : ℤ) := by exact_mod_cast hlt'
    have hround : m ≤ (rounded : ℤ) := by omega
    exact_mod_cast hround
  · have hprec := ctx.prec_pos
    have hlead := (ctx.magnitude_bounds hzero).1.trans_lt hceil
    have hsplit : ctx.widest d + ctx.prec - 1 = ((ctx.prec - 1 : ℕ) : ℤ) + ctx.target d := by
      omega
    rw [hsplit, ten_zpow_add, zpow_natCast, mul_lt_mul_iff_left₀ (ten_zpow_pos _)] at hlead
    rw [hsplit, ten_zpow_add, zpow_natCast] at hsmall
    have hint : 10 ^ (ctx.prec - 1) <
        d.coefficient / 10 ^ (ctx.target d - d.exponent).toNat + 1 := by exact_mod_cast hlead
    rw [hmag]
    refine (le_abs_self g).trans (hsmall.le.trans ?_)
    refine mul_le_mul_of_nonneg_right ?_ (ten_zpow_pos _).le
    have : 10 ^ (ctx.prec - 1) ≤
        roundHalfEven d.coefficient (ctx.target d - d.exponent).toNat := by omega
    exact_mod_cast this

/-- What a context returns, it can hold. -/
theorem represents_of_fix (h : ctx.fix d = .ok d') : ctx.Represents d'.value := by
  by_cases hzero : d.coefficient = 0
  · obtain ⟨d₀, h₀, hvalue, -⟩ := ctx.fix_of_zero hzero
    rw [h₀] at h
    cases h
    rw [hvalue]
    exact ctx.represents_zero
  have hprec := ctx.prec_pos
  have hEmax := ctx.Emax_nonneg
  have hEmin := ctx.Emin_nonpos
  suffices hmag : ctx.Represents d'.magnitude by
    rw [value_eq_magnitude]
    split_ifs
    · exact hmag.neg
    · exact hmag
  simp only [fix, hzero, if_false] at h
  have htarget : ¬ ctx.etop < ctx.widest d → ctx.target d ≤ ctx.etop := by
    intro hnot
    simp only [target, etiny, etop] at hnot ⊢
    omega
  have hfine : ctx.etiny ≤ ctx.target d := le_max_right _ _
  split_ifs at h with htop hround hcarry hcarrytop
  · cases h
    have hcoeff : 10 ^ ctx.prec / 10 < 10 ^ ctx.prec :=
      Nat.div_lt_self (by positivity) (by norm_num)
    refine Represents.of_grid (e := ctx.target d + 1) ⟨_, by simp only [magnitude]; rfl⟩
      (by omega) (by simp only [etop] at hcarrytop; omega) ?_
    rw [abs_of_nonneg (magnitude_nonneg _), ten_zpow_add, zpow_natCast]
    simp only [magnitude, hcarry]
    exact mul_lt_mul_of_pos_right (by exact_mod_cast hcoeff) (ten_zpow_pos _)
  · cases h
    have hcoeff := lt_of_le_of_ne (roundHalfEven_le_pow hround) hcarry
    have := htarget htop
    refine Represents.of_grid (e := ctx.target d) ⟨_, by simp only [magnitude]; rfl⟩
      hfine (by simp only [etop] at this; omega) ?_
    rw [abs_of_nonneg (magnitude_nonneg _), ten_zpow_add, zpow_natCast]
    exact mul_lt_mul_of_pos_right (by exact_mod_cast hcoeff) (ten_zpow_pos _)
  · cases h
    obtain ⟨hdigits, htiny⟩ := target_le_iff.mp (not_lt.mp hround)
    have hcoeff : d.coefficient < 10 ^ ctx.prec := (digitCount_le_iff ctx.prec_pos).mp hdigits
    refine ⟨⟨d.coefficient, d.exponent, by exact_mod_cast hcoeff, htiny, ?_⟩, ?_⟩
    · simp [magnitude]
    · rw [abs_of_nonneg (magnitude_nonneg _)]
      exact not_le.mp ((not_congr (etop_lt_widest_iff hzero)).mp htop)

/-- A number the context can hold is returned unchanged. -/
theorem fix_of_represents (h : ctx.Represents d.value) :
    ∃ d', ctx.fix d = .ok d' ∧ d'.value = d.value := by
  by_cases hzero : d.coefficient = 0
  · obtain ⟨d₀, h₀, hvalue, -⟩ := ctx.fix_of_zero hzero
    exact ⟨d₀, h₀, hvalue.trans (value_eq_zero_iff.mpr hzero).symm⟩
  have hmag : ctx.Represents d.magnitude := by
    rw [← abs_value]
    exact h.abs
  have hbound : d.magnitude < 10 ^ (ctx.Emax + 1) := by
    simpa [abs_of_nonneg d.magnitude_nonneg] using hmag.2
  have htop : ¬ ctx.etop < ctx.widest d :=
    (not_congr (etop_lt_widest_iff hzero)).mpr (not_le.mpr hbound)
  have hreturns : ∃ d', ctx.fix d = .ok d' := by
    simp only [fix, hzero, if_false, htop]
    split_ifs with hround hcarry hcarrytop
    · -- a carry would need a magnitude of the next decade
      exfalso
      have hgrid : OnGrid (ctx.target d) d.magnitude := by
        rcases represents_onGrid_or_small (d := d) hmag with hgrid | ⟨-, hsmall⟩
        · exact hgrid
        · rw [abs_of_nonneg d.magnitude_nonneg] at hsmall
          exact absurd (ctx.magnitude_bounds hzero).1 (not_le.mpr hsmall)
      rw [roundHalfEven_of_dvd (pow_dvd_of_onGrid hround hgrid)] at hcarry
      have hfloor := (roundHalfEven_bounds hround).1
      rw [hcarry] at hfloor
      have hwide : ctx.widest d ≤ ctx.target d := le_max_left _ _
      have htop' := (ctx.magnitude_bounds hzero).2
      have hpow : ((10 ^ ctx.prec : ℕ) : ℚ) * 10 ^ ctx.target d =
          10 ^ (ctx.target d + ctx.prec) := by
        rw [add_comm, ten_zpow_add, zpow_natCast]
        push_cast
        rfl
      rw [hpow] at hfloor
      exact absurd (hfloor.trans_lt htop') (not_lt.mpr (ten_zpow_le (by omega)))
    · exact ⟨_, rfl⟩
    · exact ⟨_, rfl⟩
    · exact ⟨d, rfl⟩
  obtain ⟨d', hd'⟩ := hreturns
  have heq : d'.magnitude = d.magnitude :=
    le_antisymm (fix_magnitude_le hmag hzero hd' le_rfl) (le_fix_magnitude hmag hzero hd' le_rfl)
  refine ⟨d', hd', ?_⟩
  rw [value_eq_magnitude, value_eq_magnitude, heq, (fix_cases hzero hd').1]

/-- A result survives the context unchanged exactly when the context can hold it. -/
theorem fix_exact_iff :
    (∃ d', ctx.fix d = .ok d' ∧ d'.value = d.value) ↔ ctx.Represents d.value := by
  constructor
  · rintro ⟨d', hd', hvalue⟩
    rw [← hvalue]
    exact represents_of_fix hd'
  · exact fix_of_represents

/-- Two ways to write one number lose the same digits when they are rounded. -/
private theorem fix_eq_of_not_represented {j : ℕ} (hcoeff : d.coefficient ≠ 0)
    (hd' : d' = ⟨d.negative, d.coefficient * 10 ^ j, d.exponent - j⟩)
    (h : ¬ ctx.Represents d.value) : ctx.fix d' = ctx.fix d := by
  subst hd'
  have hpos : d.coefficient * 10 ^ j ≠ 0 := mul_ne_zero hcoeff (by positivity)
  have hwidest : ctx.widest ⟨d.negative, d.coefficient * 10 ^ j, d.exponent - j⟩ =
      ctx.widest d := by
    simp only [widest, digitCount_mul_pow hcoeff]
    push_cast
    ring
  have htarget : ctx.target ⟨d.negative, d.coefficient * 10 ^ j, d.exponent - j⟩ =
      ctx.target d := by
    rw [target, target, hwidest]
  simp only [fix, hcoeff, hpos, if_false, hwidest, htarget]
  by_cases htop : ctx.etop < ctx.widest d
  · simp [htop]
  · have hround : d.exponent < ctx.target d := by
      by_contra hround
      refine h (represents_of_fix (d := d) ?_)
      simp only [fix, hcoeff, if_false, htop, hround]
    have hround' : d.exponent - j < ctx.target d := by omega
    have hk : (ctx.target d - (d.exponent - j)).toNat =
        (ctx.target d - d.exponent).toNat + j := by omega
    simp only [htop, if_false, hround, hround', if_true, hk, roundHalfEven_mul_pow]

/-- A number written with more digits ends in as many zeros. -/
private theorem eq_mul_pow_of_value_eq (h : d.value = d'.value) (hne : d.value ≠ 0)
    (hle : d'.exponent ≤ d.exponent) :
    d' = ⟨d.negative, d.coefficient * 10 ^ (d.exponent - d'.exponent).toNat,
      d.exponent - (d.exponent - d'.exponent).toNat⟩ := by
  have hmag : d.magnitude = d'.magnitude := by rw [← abs_value, ← abs_value, h]
  have hpos : 0 < d.magnitude := by
    rw [← abs_value]
    exact abs_pos.mpr hne
  have hsign : d'.negative = d.negative := by
    rw [value_eq_magnitude, value_eq_magnitude, ← hmag] at h
    cases hd : d.negative <;> cases hd' : d'.negative <;>
      simp only [hd, hd', if_true, if_false, Bool.false_eq_true] at h ⊢ <;> linarith
  have hten : (10 : ℚ) ^ d.exponent =
      ((10 ^ (d.exponent - d'.exponent).toNat : ℕ) : ℚ) * 10 ^ d'.exponent := by
    rw [ten_zpow_toNat (by omega), ← ten_zpow_add]
    congr 1
    ring
  have hcoeff : d'.coefficient = d.coefficient * 10 ^ (d.exponent - d'.exponent).toNat := by
    rw [magnitude, magnitude, hten, ← mul_assoc, mul_left_inj' (ten_zpow_pos _).ne'] at hmag
    exact_mod_cast hmag.symm
  have hexp : d'.exponent = d.exponent - (d.exponent - d'.exponent).toNat := by omega
  rw [← hsign, ← hcoeff, ← hexp]

/-- Rounding depends on the number only, not on how it is written. -/
theorem fix_value_congr (h : d.value = d'.value) :
    value <$> ctx.fix d = value <$> ctx.fix d' := by
  by_cases hrep : ctx.Represents d.value
  · obtain ⟨r, hr, hvalue⟩ := fix_of_represents hrep
    obtain ⟨r', hr', hvalue'⟩ := fix_of_represents (h ▸ hrep)
    rw [hr, hr']
    simp [hvalue, hvalue', h]
  have hne : d.value ≠ 0 := fun h₀ => hrep (h₀ ▸ ctx.represents_zero)
  have hcoeff : d.coefficient ≠ 0 := fun h₀ => hne (value_eq_zero_iff.mpr h₀)
  have hcoeff' : d'.coefficient ≠ 0 := fun h₀ => hne (h ▸ value_eq_zero_iff.mpr h₀)
  rcases le_total d'.exponent d.exponent with hle | hle
  · rw [fix_eq_of_not_represented hcoeff (eq_mul_pow_of_value_eq h hne hle) hrep]
  · rw [fix_eq_of_not_represented hcoeff' (eq_mul_pow_of_value_eq h.symm (h ▸ hne) hle)
      (h ▸ hrep)]

end DecimalContext

/-! ## Operations in a context -/

namespace FiniteDecimal

variable {ctx : DecimalContext} {a b r : FiniteDecimal}

/-- A sum is exact precisely when the context can hold it. -/
theorem add_exact_iff : (∃ r, add ctx a b = .ok r ∧ r.value = a.value + b.value) ↔
    ctx.Represents (a.value + b.value) := by
  rw [← value_exactAdd]
  exact DecimalContext.fix_exact_iff

/-- A difference is exact precisely when the context can hold it. -/
theorem sub_exact_iff : (∃ r, sub ctx a b = .ok r ∧ r.value = a.value - b.value) ↔
    ctx.Represents (a.value - b.value) := by
  have h : a.value - b.value = a.value + b.copyNegate.value := by
    rw [value_copyNegate, sub_eq_add_neg]
  rw [h]
  exact add_exact_iff

theorem mul_exact_iff : (∃ r, mul ctx a b = .ok r ∧ r.value = a.value * b.value) ↔
    ctx.Represents (a.value * b.value) := by
  rw [← value_exactMul]
  exact DecimalContext.fix_exact_iff

theorem abs_exact_iff : (∃ r, abs ctx a = .ok r ∧ r.value = |a.value|) ↔
    ctx.Represents |a.value| := by
  rw [← value_copyAbs]
  exact DecimalContext.fix_exact_iff

theorem add_value (h : add ctx a b = .ok r) (hfits : ctx.Represents (a.value + b.value)) :
    r.value = a.value + b.value := by
  obtain ⟨r', hr', hvalue⟩ := add_exact_iff.mpr hfits
  rw [h] at hr'
  cases hr'
  exact hvalue

theorem sub_value (h : sub ctx a b = .ok r) (hfits : ctx.Represents (a.value - b.value)) :
    r.value = a.value - b.value := by
  obtain ⟨r', hr', hvalue⟩ := sub_exact_iff.mpr hfits
  rw [h] at hr'
  cases hr'
  exact hvalue

/-- The result of a difference is a number the context holds. -/
theorem represents_of_sub (h : sub ctx a b = .ok r) : ctx.Represents r.value :=
  DecimalContext.represents_of_fix h

/-- The result of a sum is a number the context holds. -/
theorem represents_of_add (h : add ctx a b = .ok r) : ctx.Represents r.value :=
  DecimalContext.represents_of_fix h

/-- A rounded sum of numbers that are not negative is not negative. -/
theorem add_nonneg_of_ok (h : add ctx a b = .ok r) (ha : 0 ≤ a.value) (hb : 0 ≤ b.value) :
    0 ≤ r.value := by
  apply DecimalContext.fix_nonneg h
  rw [value_exactAdd]
  exact add_nonneg ha hb

theorem add_value_congr {a' b' : FiniteDecimal} (ha : a.value = a'.value)
    (hb : b.value = b'.value) : value <$> add ctx a b = value <$> add ctx a' b' :=
  DecimalContext.fix_value_congr (by rw [value_exactAdd, value_exactAdd, ha, hb])

theorem mul_value_congr {a' b' : FiniteDecimal} (ha : a.value = a'.value)
    (hb : b.value = b'.value) : value <$> mul ctx a b = value <$> mul ctx a' b' :=
  DecimalContext.fix_value_congr (by rw [value_exactMul, value_exactMul, ha, hb])

/-- The absolute value stays on its side of every nonnegative number the context holds. -/
theorem abs_le_iff {g : ℚ} (hg : ctx.Represents g) (h : abs ctx a = .ok r) :
    (|a.value| ≤ g → r.value ≤ g) ∧ (g ≤ |a.value| → g ≤ r.value) := by
  have hmag : a.copyAbs.magnitude = |a.value| := by rw [← abs_value, value_copyAbs, abs_abs]
  by_cases hzero : a.copyAbs.coefficient = 0
  · obtain ⟨r', hr', hvalue, -⟩ := ctx.fix_of_zero hzero
    have : |a.value| = 0 := by rw [← hmag, magnitude_eq_zero_iff, hzero]
    rw [abs, hr'] at h
    cases h
    rw [hvalue, this]
    exact ⟨id, id⟩
  · have hsign : r.value = r.magnitude := by
      rw [value_eq_magnitude, (DecimalContext.fix_cases hzero h).1]
      simp [copyAbs]
    rw [hsign, ← hmag]
    exact ⟨DecimalContext.fix_magnitude_le hg hzero h,
      DecimalContext.le_fix_magnitude hg hzero h⟩

/-- The first number of a decade that is written with all digits, and the one after it. -/
private theorem represents_decade {t : ℤ} (hprec : 1 < ctx.prec) (hfine : ctx.etiny ≤ t)
    (hcoarse : t + ctx.prec ≤ ctx.Emax + 1) :
    ctx.Represents (10 ^ (ctx.prec - 1) * 10 ^ t) ∧
      ctx.Represents ((10 ^ (ctx.prec - 1) + 1) * 10 ^ t) := by
  obtain ⟨p, hp⟩ := Nat.exists_eq_add_of_le' hprec.le
  have hsub : ctx.prec - 1 = p := by omega
  have hp1 : 1 ≤ p := by omega
  have hshort : (10 : ℚ) ^ p + 1 < 10 ^ ctx.prec := by
    have hten : (10 : ℚ) ≤ 10 ^ p := le_self_pow₀ (by norm_num) (by omega)
    rw [hp, pow_succ]
    linarith
  have hpos := ten_zpow_pos t
  have hgrid : ∀ m : ℤ, |(m : ℚ)| < 10 ^ ctx.prec → ctx.Represents ((m : ℚ) * 10 ^ t) := by
    intro m hm
    refine DecimalContext.Represents.of_grid ⟨m, rfl⟩ hfine hcoarse ?_
    rw [abs_mul, abs_of_pos hpos, ten_zpow_add, zpow_natCast]
    exact mul_lt_mul_of_pos_right hm hpos
  rw [hsub]
  have hnonneg : (0 : ℚ) ≤ 10 ^ p := by positivity
  constructor
  · have := hgrid (10 ^ p) (by push_cast; rw [abs_of_nonneg hnonneg]; linarith)
    simpa using this
  · have := hgrid (10 ^ p + 1) (by
      push_cast
      rw [abs_of_nonneg (by linarith)]
      exact hshort)
    simpa using this

/-- The absolute value rounds to at most the first number of a decade exactly up to half a
step beyond it. -/
theorem abs_le_decade_iff {t : ℤ} (hprec : 1 < ctx.prec) (hfine : ctx.etiny ≤ t)
    (hcoarse : t + ctx.prec ≤ ctx.Emax + 1) (h : abs ctx a = .ok r) :
    r.value ≤ 10 ^ (ctx.prec - 1) * 10 ^ t ↔
      |a.value| ≤ (10 ^ (ctx.prec - 1) + 1 / 2) * 10 ^ t := by
  obtain ⟨hfirst, hsecond⟩ := represents_decade hprec hfine hcoarse
  have hpos := ten_zpow_pos t
  have hmag : a.copyAbs.magnitude = |a.value| := by rw [← abs_value, value_copyAbs, abs_abs]
  rcases le_or_gt |a.value| (10 ^ (ctx.prec - 1) * 10 ^ t) with hle | hgt
  · refine iff_of_true ((abs_le_iff hfirst h).1 hle) (hle.trans ?_)
    exact mul_le_mul_of_nonneg_right (by linarith) hpos.le
  rcases le_or_gt ((10 ^ (ctx.prec - 1) + 1) * 10 ^ t) |a.value| with hge | hlt
  · refine iff_of_false (not_le.mpr ?_) (not_le.mpr (lt_of_lt_of_le ?_ hge))
    · refine lt_of_lt_of_le ?_ ((abs_le_iff hsecond h).2 hge)
      exact mul_lt_mul_of_pos_right (by linarith) hpos
    · exact mul_lt_mul_of_pos_right (by linarith) hpos
  -- strictly inside the first step of the decade
  have hzero : a.copyAbs.coefficient ≠ 0 := by
    rw [ne_eq, ← magnitude_eq_zero_iff, hmag]
    exact ne_of_gt (lt_trans (by positivity) hgt)
  obtain ⟨hlow, hhigh⟩ := ctx.magnitude_bounds hzero
  rw [hmag] at hlow hhigh
  have hprec' : ((ctx.prec - 1 : ℕ) : ℤ) = ctx.prec - 1 := by omega
  have hdecade : (10 : ℚ) ^ (ctx.prec - 1) * 10 ^ t = 10 ^ ((ctx.prec : ℤ) - 1 + t) := by
    rw [ten_zpow_add, ← hprec', zpow_natCast]
  have hnext : (10 ^ (ctx.prec - 1) + 1) * 10 ^ t ≤ (10 : ℚ) ^ ((ctx.prec : ℤ) + t) := by
    have hone : (1 : ℚ) ≤ 10 ^ (ctx.prec - 1) := one_le_pow₀ (by norm_num)
    have hten : (10 : ℚ) ^ ((ctx.prec : ℤ) + t) = 10 * 10 ^ (ctx.prec - 1) * 10 ^ t := by
      rw [mul_assoc, hdecade, ← zpow_one_add₀ (by norm_num)]
      congr 1
      ring
    rw [hten]
    exact mul_le_mul_of_nonneg_right (by linarith) hpos.le
  have hwidest : ctx.widest a.copyAbs = t := by
    have hup : ctx.widest a.copyAbs + ctx.prec - 1 < ctx.prec + t :=
      (zpow_lt_zpow_iff_right₀ (by norm_num)).mp (hlow.trans_lt (hlt.trans_le hnext))
    have hdown : (ctx.prec : ℤ) - 1 + t < ctx.widest a.copyAbs + ctx.prec := by
      rw [hdecade] at hgt
      exact (zpow_lt_zpow_iff_right₀ (by norm_num)).mp (hgt.trans hhigh)
    omega
  have htarget : ctx.target a.copyAbs = t := by
    rw [DecimalContext.target, hwidest, max_eq_left hfine]
  obtain ⟨hsign, -, ⟨hcoarser, rfl⟩ | ⟨hrounds, hvalue⟩⟩ := DecimalContext.fix_cases hzero h
  · -- a number on the grid of the step cannot lie inside it
    exfalso
    rw [htarget] at hcoarser
    obtain ⟨m, hm⟩ := (OnGrid.value a.copyAbs).mono hcoarser
    rw [value_copyAbs] at hm
    rw [hm] at hgt hlt
    have h₁ : ((10 ^ (ctx.prec - 1) : ℤ) : ℚ) < m := by
      push_cast
      exact lt_of_mul_lt_mul_right hgt hpos.le
    have h₂ : (m : ℚ) < ((10 ^ (ctx.prec - 1) + 1 : ℤ) : ℚ) := by
      push_cast
      exact lt_of_mul_lt_mul_right hlt hpos.le
    have h₁' := Int.cast_lt.mp h₁
    have h₂' := Int.cast_lt.mp h₂
    omega
  · rw [htarget] at hrounds hvalue
    have hr : r.value = r.magnitude := by
      rw [value_eq_magnitude, hsign]
      simp [copyAbs]
    set k := (t - a.copyAbs.exponent).toNat with hk
    have hstep : (10 : ℚ) ^ t = 10 ^ k * 10 ^ a.copyAbs.exponent := by
      rw [← zpow_natCast, ← ten_zpow_add]
      congr 1
      omega
    have heven : 10 ^ (ctx.prec - 1) % 2 = 0 := by
      rw [Nat.pow_mod]
      simp [show ctx.prec - 1 ≠ 0 by omega]
    have hhalf := @roundHalfEven_le_iff a.copyAbs.coefficient k _ heven
    rw [hr, hvalue, mul_le_mul_iff_left₀ hpos, ← hmag, magnitude, hstep, ← mul_assoc,
      mul_le_mul_iff_left₀ (ten_zpow_pos _)]
    constructor
    · intro hle
      have hle' := hhalf.mp (by exact_mod_cast hle)
      have hcast : (2 : ℚ) * a.copyAbs.coefficient ≤
          (2 * 10 ^ (ctx.prec - 1) + 1) * 10 ^ k := by exact_mod_cast hle'
      linarith
    · intro hle
      have hcast : (2 : ℚ) * a.copyAbs.coefficient ≤
          (2 * 10 ^ (ctx.prec - 1) + 1) * 10 ^ k := by linarith
      exact_mod_cast hhalf.mpr (by exact_mod_cast hcast)

end FiniteDecimal
