import Mathlib.Tactic.LinearCombination
import Atreides.Books.Projections
import Atreides.Foundation.Decimal.Division
import Atreides.Foundation.Decimal.Order
import Atreides.Foundation.Decimal.Values

/-!
# The excess share of a holding

A margin account leaves to be held what its long market value is above a percentage of its debit.
The projection takes the same share of every long holding and rounds it up. What it takes is never
more than is held, and covers the share of the holding as long as the numbers have few enough
digits; with more digits it covers what three roundings leave of it.

## Main definitions

* `excessOf` — the excess of an account
* `FewDigits` — numbers whose share is not lost to rounding
* `ExactExcess` — an excess that is worked out without rounding

## Main results

* `excessQuantity_le` — no more than is held is taken
* `excessQuantity_covers` — the share of a holding is covered
* `excessQuantity_nearly_covers` — with any digits, up to three roundings
-/

namespace Atreides

open CustomerProtection
open DecimalContext (ambient)

/-! ## The share of one holding -/

section Share

variable {threshold x : Decimal} {t quantity : FiniteDecimal} {result : MarginResult}

/-- Whatever the threshold, what is taken of a holding is the holding, or a whole number of shares
below it. -/
theorem excessQuantity_whole (h : excessQuantity threshold result quantity = .ok x)
    (hquantity : 0 < quantity.value) :
    x = .finite quantity ∨ ∃ n : FiniteDecimal, x = .finite n ∧ n.value < quantity.value ∧
      ∃ m : ℕ, n.value = m := by
  simp only [excessQuantity, Outcome.bind_eq_ok] at h
  obtain ⟨pinned, -, excess, -, excessValue, hvalue, share, hshare, part, hpart, rounded, hrounded,
    hmin⟩ := h
  have hexcess := Decimal.NotNegative.max_zero hvalue
  have hratio : share.NotNegative := by
    rw [excessShare] at hshare
    split_ifs at hshare with hlong
    · cases hshare
      exact Decimal.NotNegative.of_finite FiniteDecimal.value_zero.ge
    · refine hexcess.div ?_ hshare
      exact FiniteDecimal.value_zero ▸ not_le.mp (mt FiniteDecimal.le_iff.mpr hlong)
  exact (hratio.mul hquantity hpart).min_ceil hrounded hmin

/-- No more than is held is taken. -/
theorem excessQuantity_le (h : excessQuantity threshold result quantity = .ok x)
    (hquantity : 0 < quantity.value) :
    ∃ d : FiniteDecimal, x = .finite d ∧ 0 ≤ d.value ∧ d.value ≤ quantity.value := by
  obtain rfl | ⟨n, rfl, hlt, m, hm⟩ := excessQuantity_whole h hquantity
  · exact ⟨quantity, rfl, hquantity.le, le_rfl⟩
  · exact ⟨n, rfl, hm ▸ Nat.cast_nonneg m, hlt.le⟩

/-- What is taken lies on the grid of what is held, where that counts single shares. -/
theorem excessQuantity_onGrid {e : ℤ} (h : excessQuantity threshold result quantity = .ok x)
    (hquantity : 0 < quantity.value) (he : e ≤ 0) (hgrid : OnGrid e quantity.value) :
    OnGrid e x.exact := by
  obtain rfl | ⟨n, rfl, -, m, hm⟩ := excessQuantity_whole h hquantity
  · exact hgrid
  · exact OnGrid.mono he ⟨m, by rw [Decimal.exact, hm]; simp⟩

/-- The steps from a finite threshold to a quantity. -/
theorem excessQuantity_eq_ok (h : excessQuantity (.finite t) result quantity = .ok x) :
    ∃ pinned excess excessValue share part : FiniteDecimal,
      t.mul ambient result.debitBalance = .ok pinned ∧
      result.longMarketValue.sub ambient pinned = .ok excess ∧
      excessValue.value = max excess.value 0 ∧
      ((result.longMarketValue.value ≤ 0 ∧ share = 0) ∨
        (0 < result.longMarketValue.value ∧
          excessValue.div ambient result.longMarketValue = .ok share)) ∧
      quantity.mul ambient share = .ok part ∧
      x.HasValue (min quantity.value ⌈part.value⌉) := by
  simp only [excessQuantity, Outcome.bind_eq_ok] at h
  obtain ⟨pinned, hpinned, excess, hexcess, excessValue, hvalue, share, hshare, part, hpart, rounded,
    hrounded, hmin⟩ := h
  obtain ⟨pinned, htimes, rfl⟩ := Outcome.map_eq_ok.mp hpinned
  obtain ⟨excess, hless, rfl⟩ := Outcome.map_eq_ok.mp hexcess
  have hzero : (0 : Decimal).HasValue 0 := Decimal.HasValue.zero
  obtain ⟨_, hmax, excessValue, rfl, hpositive⟩ :=
    (show (Decimal.finite excess).HasValue excess.value from ⟨excess, rfl, rfl⟩).max hzero
  rw [hmax] at hvalue
  cases hvalue
  have hshare' : ∃ s : FiniteDecimal, share = .finite s ∧
      ((result.longMarketValue.value ≤ 0 ∧ s = 0) ∨
        (0 < result.longMarketValue.value ∧
          excessValue.div ambient result.longMarketValue = .ok s)) := by
    rw [excessShare] at hshare
    split_ifs at hshare with hlong
    · cases hshare
      exact ⟨0, rfl, Or.inl ⟨FiniteDecimal.value_zero ▸ FiniteDecimal.le_iff.mp hlong, rfl⟩⟩
    · obtain ⟨s, hdiv, rfl⟩ := Outcome.map_eq_ok.mp hshare
      refine ⟨s, rfl, Or.inr ⟨?_, hdiv⟩⟩
      exact FiniteDecimal.value_zero ▸ not_le.mp (mt FiniteDecimal.le_iff.mpr hlong)
  obtain ⟨s, rfl, hcases⟩ := hshare'
  obtain ⟨part, hproduct, rfl⟩ := Outcome.map_eq_ok.mp hpart
  cases hrounded
  obtain ⟨_, hmin', hsmaller⟩ :=
    (show (Decimal.finite quantity).HasValue quantity.value from ⟨quantity, rfl, rfl⟩).min
      (show (Decimal.finite part.ceilToIntegral).HasValue ⌈part.value⌉ from
        ⟨_, rfl, part.value_ceilToIntegral⟩)
  rw [hmin'] at hmin
  cases hmin
  exact ⟨pinned, excess, excessValue, s, part, htimes, hless, hpositive, hcases, hproduct,
    hsmaller⟩

/-- What a margin account leaves to be held: its long market value above a part of its debit. -/
def excessOf (threshold : FiniteDecimal) (result : MarginResult) : ℚ :=
  max (result.longMarketValue.value - threshold.value * result.debitBalance.value) 0

/-- Counted in their last places, the quantity and the long market value have so few digits that a
share is not lost to rounding: together they are at most ten to the twenty-sixth. -/
def FewDigits (long excess quantity : ℚ) : Prop :=
  ∃ (e f : ℤ) (l m n : ℕ), long = l * 10 ^ e ∧ excess = m * 10 ^ e ∧ quantity = n * 10 ^ f ∧
    f ≤ 0 ∧ ambient.Emin + 28 ≤ f ∧ n * l ≤ 10 ^ 26

theorem ambient_slack : ambient.slack = 1 / 10 ^ 27 := by
  norm_num [DecimalContext.slack, ambient]

/-- A part that lost at most three roundings of an exact share is covered by the next integer. -/
theorem FewDigits.le_ceil {long excess quantity part : ℚ} (h : FewDigits long excess quantity)
    (hlong : 0 < long) (hle : excess ≤ long)
    (hpart : quantity * excess / long * (1 - 3 * ambient.slack) ≤ part) :
    quantity * excess / long ≤ ⌈part⌉ := by
  obtain ⟨e, f, l, m, n, rfl, rfl, rfl, hf, -, hfew⟩ := h
  have hstep := ten_zpow_pos e
  have hl : 0 < (l : ℚ) := (mul_pos_iff_of_pos_right hstep).mp hlong
  have hml : m ≤ l := by
    have := le_of_mul_le_mul_right hle hstep
    exact_mod_cast this
  -- the share is a whole number of parts, so many of which are one
  have hunits : (n * 10 ^ f * (m * 10 ^ e) / (l * 10 ^ e)) * (l * (10 ^ (-f).toNat : ℕ)) =
      ((n * m : ℕ) : ℚ) := by
    have hone : (10 : ℚ) ^ f * (10 ^ (-f).toNat : ℕ) = 1 := by
      rw [ten_zpow_toNat (by omega), ← ten_zpow_add, add_neg_cancel, zpow_zero]
    rw [mul_div_assoc, mul_div_mul_right _ _ hstep.ne']
    field_simp
    push_cast at hone ⊢
    linear_combination (n * m : ℚ) * hone
  generalize (n : ℚ) * 10 ^ f * (m * 10 ^ e) / (l * 10 ^ e) = share at hpart hunits ⊢
  have hunit : (0 : ℚ) < l * (10 ^ (-f).toNat : ℕ) := by positivity
  by_contra hlt
  have hbelow := mul_lt_mul_of_pos_right (not_le.mp hlt) hunit
  rw [hunits] at hbelow
  have hwhole : ((⌈part⌉ * (l * (10 ^ (-f).toNat : ℕ) : ℕ) + 1 : ℤ) : ℚ) ≤ ((n * m : ℕ) : ℤ) := by
    exact_mod_cast Int.add_one_le_of_lt (by exact_mod_cast hbelow)
  have hlost := mul_le_mul_of_nonneg_right (hpart.trans (Int.le_ceil part)) hunit.le
  have hkept : share * (1 - 3 * ambient.slack) * (l * (10 ^ (-f).toNat : ℕ)) =
      ((n * m : ℕ) : ℚ) * (1 - 3 * ambient.slack) := by
    rw [← hunits]
    ring
  have hsmall : ((n * m : ℕ) : ℚ) ≤ 10 ^ 26 := by
    exact_mod_cast (Nat.mul_le_mul_left n hml).trans hfew
  rw [hkept, ambient_slack] at hlost
  push_cast at hwhole hlost hsmall
  linarith

/-- Numbers of few digits are far from the least number that is not rounded away. -/
theorem FewDigits.normal {long excess quantity : ℚ} (h : FewDigits long excess quantity)
    (hlong : 0 < long) (hexcess : 0 < excess) (hquantity : 0 < quantity) :
    (10 : ℚ) ^ (-26 : ℤ) ≤ excess / long ∧ (10 : ℚ) ^ (ambient.Emin + 28) ≤ quantity := by
  obtain ⟨e, f, l, m, n, rfl, rfl, rfl, hf, hfine, hfew⟩ := h
  have hl : (0 : ℚ) < l := (mul_pos_iff_of_pos_right (ten_zpow_pos e)).mp hlong
  have hm : (0 : ℚ) < m := (mul_pos_iff_of_pos_right (ten_zpow_pos e)).mp hexcess
  have hn : (0 : ℚ) < n := (mul_pos_iff_of_pos_right (ten_zpow_pos f)).mp hquantity
  have hone : 1 ≤ n := Nat.one_le_iff_ne_zero.mpr fun hzero => by simp [hzero] at hn
  have hone' : (1 : ℚ) ≤ m := by
    exact_mod_cast Nat.one_le_iff_ne_zero.mpr fun hzero => by simp [hzero] at hm
  constructor
  · rw [mul_div_mul_right _ _ (ten_zpow_pos e).ne', le_div_iff₀ hl]
    have hshort : (l : ℚ) ≤ 10 ^ 26 := by
      exact_mod_cast (Nat.le_mul_of_pos_left l hone).trans hfew
    calc (10 : ℚ) ^ (-26 : ℤ) * l ≤ 10 ^ (-26 : ℤ) * 10 ^ 26 :=
          mul_le_mul_of_nonneg_left hshort (ten_zpow_pos _).le
      _ = 1 := by norm_num
      _ ≤ m := hone'
  · refine (ten_zpow_le hfine).trans (le_mul_of_one_le_left (ten_zpow_pos f).le ?_)
    exact_mod_cast hone

/-- The division and the product each lose no more than their slack. -/
theorem part_kept {excessValue long share part : FiniteDecimal}
    (hdiv : excessValue.div ambient long = .ok share)
    (hproduct : quantity.mul ambient share = .ok part) (hlong : 0 < long.value)
    (hpositive : 0 < excessValue.value) (hquantity : 0 < quantity.value)
    (hratio : (10 : ℚ) ^ (-26 : ℤ) ≤ excessValue.value / long.value)
    (hlarge : (10 : ℚ) ^ (ambient.Emin + 28) ≤ quantity.value) :
    quantity.value * excessValue.value / long.value * (1 - 3 * ambient.slack) ≤ part.value := by
  have htiny : (10 : ℚ) ^ ambient.Emin ≤ 10 ^ (-27 : ℤ) := ten_zpow_le (by decide)
  have hquotient : excessValue.value / long.value * (1 - 2 * ambient.slack) ≤ share.value := by
    apply FiniteDecimal.div_value_ge hdiv hpositive hlong
    rw [ambient_slack]
    norm_num at hratio htiny ⊢
    linarith
  have hshare : (10 : ℚ) ^ (-27 : ℤ) ≤ share.value := by
    rw [ambient_slack] at hquotient
    norm_num at hratio hquotient ⊢
    linarith
  have hnormal : (10 : ℚ) ^ ambient.Emin ≤ (FiniteDecimal.exactMul quantity share).value := by
    rw [FiniteDecimal.value_exactMul]
    calc (10 : ℚ) ^ ambient.Emin ≤ 10 ^ (ambient.Emin + 28) * 10 ^ (-27 : ℤ) := by
          rw [← ten_zpow_add]
          exact ten_zpow_le (by omega)
      _ ≤ quantity.value * share.value :=
          mul_le_mul hlarge hshare (ten_zpow_pos _).le hquantity.le
  have hrounded := DecimalContext.fix_value_ge hproduct hnormal
  rw [FiniteDecimal.value_exactMul] at hrounded
  have hkept := mul_le_mul_of_nonneg_right (mul_le_mul_of_nonneg_left hquotient hquantity.le)
    (sub_nonneg.mpr ambient.slack_le_one)
  have hsquare : 0 ≤ quantity.value * (excessValue.value / long.value) *
      (ambient.slack * ambient.slack) := by
    have hslack := ambient.slack_pos
    positivity
  rw [mul_div_assoc]
  linarith

/-- The amounts that the excess of an account is worked out from are exact. -/
structure ExactExcess (t : FiniteDecimal) (result : MarginResult) : Prop where
  debit : 0 ≤ t.value * result.debitBalance.value
  pinned : ambient.Represents (t.value * result.debitBalance.value)
  excess : ambient.Represents
    (result.longMarketValue.value - t.value * result.debitBalance.value)

theorem excessOf_nonneg (t : FiniteDecimal) (result : MarginResult) : 0 ≤ excessOf t result :=
  le_max_right _ _

/-- An account with an excess is long, of at least the excess. -/
theorem ExactExcess.le_long (hexact : ExactExcess t result) (hpositive : 0 < excessOf t result) :
    excessOf t result ≤ result.longMarketValue.value := by
  have hdebit := hexact.debit
  obtain hlong | hzero := max_choice
    (result.longMarketValue.value - t.value * result.debitBalance.value) 0
  · rw [excessOf, hlong]
    linarith
  · exact absurd hzero hpositive.ne'

/-- What is taken of a holding is the holding, or an integer above a part that keeps what three
roundings leave of its share. -/
theorem excessQuantity_kept (h : excessQuantity (.finite t) result quantity = .ok x)
    (hquantity : 0 < quantity.value) (hexact : ExactExcess t result)
    (hpositive : 0 < excessOf t result)
    (hratio : (10 : ℚ) ^ (-26 : ℤ) ≤ excessOf t result / result.longMarketValue.value)
    (hlarge : (10 : ℚ) ^ (ambient.Emin + 28) ≤ quantity.value) :
    ∃ part : ℚ, x.exact = min quantity.value ⌈part⌉ ∧
      quantity.value * excessOf t result / result.longMarketValue.value *
        (1 - 3 * ambient.slack) ≤ part := by
  obtain ⟨pinned, excess, excessValue, share, part, htimes, hless, hvalue, hshare, hproduct, hx⟩ :=
    excessQuantity_eq_ok h
  obtain ⟨_, hmul, hpinnedValue⟩ := FiniteDecimal.mul_exact_iff.mpr hexact.pinned
  rw [htimes] at hmul
  cases hmul
  have hexcess := FiniteDecimal.sub_value hless (by rw [hpinnedValue]; exact hexact.excess)
  rw [hexcess, hpinnedValue] at hvalue
  change excessValue.value = excessOf t result at hvalue
  have hlong := hpositive.trans_le (hexact.le_long hpositive)
  obtain ⟨hnone, -⟩ | ⟨-, hdiv⟩ := hshare
  · exact absurd hnone (not_le.mpr hlong)
  rw [← hvalue] at hratio hpositive ⊢
  exact ⟨part.value, hx.exact_eq,
    part_kept hdiv hproduct hlong hpositive hquantity hratio hlarge⟩

/-- The share of a holding is not above the holding. -/
theorem ExactExcess.share_le (hexact : ExactExcess t result) (hquantity : 0 < quantity.value)
    (hpositive : 0 < excessOf t result) :
    quantity.value * excessOf t result / result.longMarketValue.value ≤ quantity.value := by
  have hle := hexact.le_long hpositive
  rw [div_le_iff₀ (hpositive.trans_le hle)]
  exact mul_le_mul_of_nonneg_left hle hquantity.le

/-- Nothing to cover is covered. -/
theorem excessQuantity_nonneg (h : excessQuantity threshold result quantity = .ok x)
    (hquantity : 0 < quantity.value) : 0 ≤ x.exact := by
  obtain ⟨d, rfl, hnonneg, -⟩ := excessQuantity_le h hquantity
  exact hnonneg

/-- What is taken of a holding covers its share of the excess, where the excess is exact and the
numbers have few digits. -/
theorem excessQuantity_covers (h : excessQuantity (.finite t) result quantity = .ok x)
    (hquantity : 0 < quantity.value) (hexact : ExactExcess t result)
    (hfew : FewDigits result.longMarketValue.value (excessOf t result) quantity.value) :
    quantity.value * excessOf t result / result.longMarketValue.value ≤ x.exact := by
  obtain hzero | hpositive := (excessOf_nonneg t result).eq_or_lt
  · rw [← hzero, mul_zero, zero_div]
    exact excessQuantity_nonneg h hquantity
  have hlong := hpositive.trans_le (hexact.le_long hpositive)
  obtain ⟨hratio, hlarge⟩ := hfew.normal hlong hpositive hquantity
  obtain ⟨part, hx, hkept⟩ := excessQuantity_kept h hquantity hexact hpositive hratio hlarge
  rw [hx]
  exact le_min (hexact.share_le hquantity hpositive)
    (hfew.le_ceil hlong (hexact.le_long hpositive) hkept)

/-- Whatever the digits, a share that is not tiny is covered up to three roundings. -/
theorem excessQuantity_nearly_covers (h : excessQuantity (.finite t) result quantity = .ok x)
    (hquantity : 0 < quantity.value) (hexact : ExactExcess t result)
    (hratio : result.longMarketValue.value ≤ 10 ^ 26 * excessOf t result)
    (hlarge : (10 : ℚ) ^ (ambient.Emin + 28) ≤ quantity.value) :
    quantity.value * excessOf t result / result.longMarketValue.value * (1 - 3 * ambient.slack) ≤
      x.exact := by
  obtain hzero | hpositive := (excessOf_nonneg t result).eq_or_lt
  · rw [← hzero, mul_zero, zero_div, zero_mul]
    exact excessQuantity_nonneg h hquantity
  have hlong := hpositive.trans_le (hexact.le_long hpositive)
  have hshare : (10 : ℚ) ^ (-26 : ℤ) ≤ excessOf t result / result.longMarketValue.value := by
    rw [le_div_iff₀ hlong]
    norm_num
    linarith
  obtain ⟨part, hx, hkept⟩ := excessQuantity_kept h hquantity hexact hpositive hshare hlarge
  rw [hx]
  refine le_min ?_ (hkept.trans (Int.le_ceil part))
  have hwhole : 0 ≤ quantity.value * excessOf t result / result.longMarketValue.value := by
    positivity
  have hless : 1 - 3 * ambient.slack ≤ 1 := by
    rw [ambient_slack]
    norm_num
  exact (mul_le_of_le_one_right hwhole hless).trans (hexact.share_le hquantity hpositive)

end Share

end Atreides
