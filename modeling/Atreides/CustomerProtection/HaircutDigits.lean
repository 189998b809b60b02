import Atreides.CustomerProtection.HaircutInvariance

/-!
# Haircuts on figures of few digits

Where positions, rates and the offset have few digits, every figure of a government haircut is a
whole number of small steps, and none is large enough to be rounded.

## Main definitions

* `ShortFigures` — positions, rates and an offset of few digits

## Main results

* `ShortFigures.carried` — no figure of the haircut is rounded
-/

/-! ## Products on a grid -/

theorem OnGrid.mul {e f : ℤ} {v w : ℚ} (hv : OnGrid e v) (hw : OnGrid f w) :
    OnGrid (e + f) (v * w) := by
  obtain ⟨a, rfl⟩ := hv
  obtain ⟨b, rfl⟩ := hw
  refine ⟨a * b, ?_⟩
  rw [ten_zpow_add]
  push_cast
  ring

theorem OnGrid.max {e : ℤ} {v w : ℚ} (hv : OnGrid e v) (hw : OnGrid e w) :
    OnGrid e (Max.max v w) := by
  rcases max_choice v w with h | h <;> rw [h]
  · exact hv
  · exact hw

namespace Atreides

open DecimalContext (ambient)

namespace CustomerProtection

/-! ## What is held, in all -/

/-- The sides of all positions, added up. -/
def gross (xs : List Position) : ℚ := (xs.map fun p => p.long + p.short).sum

theorem Position.long_nonneg (p : Position) : 0 ≤ p.long := p.longMarketValue.value_nonneg

theorem Position.short_nonneg (p : Position) : 0 ≤ p.short := p.shortMarketValue.value_nonneg

theorem gross_nonneg (xs : List Position) : 0 ≤ gross xs := by
  apply List.sum_nonneg
  intro x hx
  obtain ⟨p, -, rfl⟩ := List.mem_map.mp hx
  exact add_nonneg p.long_nonneg p.short_nonneg

namespace MaturityBands

variable {m : MaturityBands} {xs : List Position} {keys : List BandKey}

theorem sum_abs_adds_le (m : MaturityBands) (hkeys : keys.Nodup) (p : Position) :
    (keys.map fun key => |m.adds key p|).sum ≤ p.long + p.short := by
  induction keys with
  | nil => exact add_nonneg p.long_nonneg p.short_nonneg
  | cons key keys ih =>
    obtain ⟨hnotin, hnodup⟩ := List.nodup_cons.mp hkeys
    rw [List.map_cons, List.sum_cons]
    by_cases h : m.bandOf p.months = key
    · have hrest : (keys.map fun key => |m.adds key p|).sum = 0 := by
        have hzero : ∀ k ∈ keys, |m.adds k p| = 0 := by
          intro k hk
          rw [adds, if_neg fun heq => hnotin (by rwa [← h, heq]), abs_zero]
        rw [List.map_congr_left hzero]
        simp
      rw [hrest, add_zero, adds, if_pos h]
      have hlong := p.long_nonneg
      have hshort := p.short_nonneg
      exact abs_le.mpr ⟨by linarith, by linarith⟩
    · rw [adds, if_neg h, abs_zero, zero_add]
      exact ih hnodup

/-- What is held in different bands is together no more than all sides. -/
theorem sum_abs_held_le (m : MaturityBands) (hkeys : keys.Nodup) (xs : List Position) :
    (keys.map fun key => |m.held xs key|).sum ≤ gross xs := by
  induction xs with
  | nil =>
    have hzero : ∀ k ∈ keys, |m.held [] k| = 0 := fun k _ => abs_zero
    rw [List.map_congr_left hzero]
    simp [gross]
  | cons p xs ih =>
    have hstep : ∀ k ∈ keys, |m.held (p :: xs) k| ≤ |m.adds k p| + |m.held xs k| := by
      intro k _
      rw [held_eq, held_eq, List.map_cons, List.sum_cons]
      exact abs_add_le _ _
    calc (keys.map fun key => |m.held (p :: xs) key|).sum
        ≤ (keys.map fun key => |m.adds key p| + |m.held xs key|).sum := List.sum_le_sum hstep
      _ = (keys.map fun key => |m.adds key p|).sum + (keys.map fun key => |m.held xs key|).sum :=
          List.sum_map_add
      _ ≤ (p.long + p.short) + gross xs := add_le_add (sum_abs_adds_le m hkeys p) ih
      _ = gross (p :: xs) := by rw [gross, gross, List.map_cons, List.sum_cons]

theorem sumAbs_amountsOf_le (m : MaturityBands) (xs : List Position) (key : BandKey) :
    sumAbs (amountsOf key (m.postings xs)) ≤ gross xs := by
  induction xs with
  | nil => exact le_rfl
  | cons p xs ih =>
    rw [postings, List.flatMap_cons, amountsOf_append, sumAbs_append, gross, List.map_cons,
      List.sum_cons]
    refine add_le_add ?_ ih
    by_cases h : m.bandOf p.months = key
    · subst h
      rw [amountsOf_sides_self, sumAbs_cons, sumAbs_cons, sumAbs_nil, add_zero, abs_neg]
      rw [show |p.longMarketValue.amount.value| = p.long from abs_of_nonneg p.long_nonneg,
        show |p.shortMarketValue.amount.value| = p.short from abs_of_nonneg p.short_nonneg]
    · rw [amountsOf_sides_of_ne h, sumAbs_nil]
      exact add_nonneg p.long_nonneg p.short_nonneg

end MaturityBands

/-! ## Few digits -/

/-- Positions of whole steps of size `10 ^ e`, rates of whole steps of size `10 ^ f` and no larger
than `r`, and an offset of whole steps of size `10 ^ g`, together within the digits of the decimal
context. -/
structure ShortFigures (table : RuleTable) (offset : FiniteDecimal) (e f g : ℤ) (r : ℚ)
    (xs : List Position) : Prop where
  fine : ambient.etiny ≤ e + f + g
  coarse : e + 28 ≤ ambient.Emax + 1
  rate_nonpos : f ≤ 0
  offset_nonpos : g ≤ 0
  positions : ∀ p ∈ xs, OnGrid e p.long ∧ OnGrid e p.short
  rates : ∀ key ∈ bandKeys, ∀ rate ∈ table.figure (bandRate key),
    OnGrid f rate.value ∧ |rate.value| ≤ r
  offset_grid : OnGrid g offset.value
  one_le : 1 ≤ r
  within : gross xs * r * (1 + |offset.value|) < 10 ^ (28 + (e + f + g))

namespace ShortFigures

variable {table : RuleTable} {m : MaturityBands} {offset : FiniteDecimal} {e f g : ℤ} {r : ℚ}
variable {xs : List Position} {c : String × List String} {election : GovernmentElection}

theorem amountsOf_grid (h : ShortFigures table offset e f g r xs) (m : MaturityBands)
    (key : BandKey) : ∀ v ∈ amountsOf key (m.postings xs), OnGrid e v := by
  intro v hv
  obtain ⟨q, hq, rfl⟩ := List.mem_map.mp hv
  obtain ⟨p, hp, hside⟩ := List.mem_flatMap.mp (List.mem_of_mem_filter hq)
  obtain ⟨hlong, hshort⟩ := h.positions p hp
  rw [MaturityBands.sides, List.mem_cons, List.mem_singleton] at hside
  obtain rfl | rfl := hside
  · exact hlong
  · rw [FiniteDecimal.value_copyNegate]
    exact hshort.neg

theorem held_grid (h : ShortFigures table offset e f g r xs) (m : MaturityBands) (key : BandKey) :
    OnGrid e (m.held xs key) :=
  OnGrid.sum (h.amountsOf_grid m key)

theorem rateOf_mem (hbands : maturityBands table.bands = some m)
    (h : ShortFigures table offset e f g r xs) {key : BandKey} (hkey : key ∈ bandKeys) :
    OnGrid f (m.rateOf key) ∧ |m.rateOf key| ≤ r := by
  obtain ⟨rate, hfigure, hget⟩ := (maturityBands_eq_some hbands).2.2 key hkey
  rw [MaturityBands.rateOf, Dict.getD, hget]
  exact h.rates key hkey rate hfigure

/-- Numbers of few digits are carried. -/
theorem represents (h : ShortFigures table offset e f g r xs) {v : ℚ} {k : ℤ}
    (hgrid : OnGrid k v) (hk : e + f + g ≤ k)
    (hle : |v| ≤ gross xs * r * (1 + |offset.value|)) : ambient.Represents v := by
  refine DecimalContext.Represents.of_grid (hgrid.mono hk) h.fine ?_ ?_
  · have := h.coarse
    have := h.rate_nonpos
    have := h.offset_nonpos
    change e + f + g + 28 ≤ _
    omega
  · exact hle.trans_lt h.within

/-- Lists of numbers of few digits have exact sums. -/
theorem exactSums (h : ShortFigures table offset e f g r xs) {vs : List ℚ} {k : ℤ}
    (hgrid : ∀ v ∈ vs, OnGrid k v) (hk : e + f + g ≤ k)
    (hle : sumAbs vs ≤ gross xs * r * (1 + |offset.value|)) : ExactSums ambient vs :=
  fun ws hws => h.represents (OnGrid.sum fun w hw => hgrid w (hws.subset hw)) hk
    (((abs_sum_le_sumAbs ws).trans (sumAbs_le_of_subperm hws)).trans hle)

theorem gross_le (h : ShortFigures table offset e f g r xs) :
    gross xs ≤ gross xs * r ∧ gross xs * r ≤ gross xs * r * (1 + |offset.value|) := by
  have hgross := gross_nonneg xs
  have hr := h.one_le
  have hoffset := abs_nonneg offset.value
  have hcharged : 0 ≤ gross xs * r := mul_nonneg hgross (by linarith)
  exact ⟨le_mul_of_one_le_right hgross hr, le_mul_of_one_le_right hcharged (by linarith)⟩

theorem subKeys_nodup : ∀ c ∈ governmentBands, (MaturityBands.subKeys c).Nodup := by
  decide

/-- The deductions of a category are together no more than what is held, charged at the largest
rate. -/
theorem charges_le (hbands : maturityBands table.bands = some m)
    (h : ShortFigures table offset e f g r xs) (hc : c ∈ governmentBands) :
    sumAbs (longCharges m.rateOf (m.held xs) (MaturityBands.subKeys c)) +
      sumAbs (shortCharges m.rateOf (m.held xs) (MaturityBands.subKeys c)) ≤ gross xs * r := by
  have hstep : ∀ key ∈ MaturityBands.subKeys c,
      |max (m.held xs key) 0 * m.rateOf key| + |max (-m.held xs key) 0 * m.rateOf key| ≤
        |m.held xs key| * r := by
    intro key hkey
    obtain ⟨sub, hsub, rfl⟩ := List.mem_map.mp hkey
    have hrate := (h.rateOf_mem hbands (mem_bandKeys hc hsub)).2
    have hsplit : |max (m.held xs (c.1, sub)) 0| + |max (-m.held xs (c.1, sub)) 0| =
        |m.held xs (c.1, sub)| := by
      rw [abs_of_nonneg (le_max_right _ 0), abs_of_nonneg (le_max_right _ 0)]
      rcases le_total 0 (m.held xs (c.1, sub)) with hsign | hsign
      · rw [max_eq_left hsign, max_eq_right (neg_nonpos.mpr hsign), add_zero, abs_of_nonneg hsign]
      · rw [max_eq_right hsign, max_eq_left (neg_nonneg.mpr hsign), zero_add, abs_of_nonpos hsign]
    rw [abs_mul, abs_mul, ← add_mul, hsplit]
    exact mul_le_mul_of_nonneg_left hrate (abs_nonneg _)
  rw [sumAbs, sumAbs, longCharges, shortCharges, List.map_map, List.map_map, ← List.sum_map_add]
  refine (List.sum_le_sum hstep).trans ?_
  rw [List.sum_map_mul_right]
  exact mul_le_mul_of_nonneg_right (m.sum_abs_held_le (subKeys_nodup c hc) xs)
    (by linarith [h.one_le])

theorem charges_grid (hbands : maturityBands table.bands = some m)
    (h : ShortFigures table offset e f g r xs) (hc : c ∈ governmentBands) :
    (∀ v ∈ longCharges m.rateOf (m.held xs) (MaturityBands.subKeys c), OnGrid (e + f) v) ∧
      ∀ v ∈ shortCharges m.rateOf (m.held xs) (MaturityBands.subKeys c), OnGrid (e + f) v := by
  constructor
  · intro v hv
    obtain ⟨key, hkey, rfl⟩ := List.mem_map.mp hv
    obtain ⟨sub, hsub, rfl⟩ := List.mem_map.mp hkey
    exact ((h.held_grid m _).max (OnGrid.zero e)).mul
      (h.rateOf_mem hbands (mem_bandKeys hc hsub)).1
  · intro v hv
    obtain ⟨key, hkey, rfl⟩ := List.mem_map.mp hv
    obtain ⟨sub, hsub, rfl⟩ := List.mem_map.mp hkey
    exact ((h.held_grid m _).neg.max (OnGrid.zero e)).mul
      (h.rateOf_mem hbands (mem_bandKeys hc hsub)).1

/-- No figure of a haircut on figures of few digits is rounded. -/
theorem carried (hbands : maturityBands table.bands = some m)
    (h : ShortFigures table offset e f g r xs) : m.Carried election offset.value xs := by
  obtain ⟨hgross, hcharged⟩ := h.gross_le
  have hf := h.rate_nonpos
  have hg := h.offset_nonpos
  refine ⟨fun key => ?_, fun c hc => ?_, fun c hc => ?_, fun c hc => ?_⟩
  · exact h.exactSums (h.amountsOf_grid m key) (by omega)
      ((m.sumAbs_amountsOf_le xs key).trans (hgross.trans hcharged))
  · have hle := h.charges_le hbands hc
    have hother : 0 ≤ sumAbs (shortCharges m.rateOf (m.held xs) (MaturityBands.subKeys c)) :=
      (abs_nonneg _).trans (abs_sum_le_sumAbs _)
    exact h.exactSums (h.charges_grid hbands hc).1 (by omega) (by linarith)
  · have hle := h.charges_le hbands hc
    have hother : 0 ≤ sumAbs (longCharges m.rateOf (m.held xs) (MaturityBands.subKeys c)) :=
      (abs_nonneg _).trans (abs_sum_le_sumAbs _)
    exact h.exactSums (h.charges_grid hbands hc).2 (by omega) (by linarith)
  · have hlonggrid : OnGrid (e + f) (m.longs xs c) := OnGrid.sum (h.charges_grid hbands hc).1
    have hshortgrid : OnGrid (e + f) (m.shorts xs c) := OnGrid.sum (h.charges_grid hbands hc).2
    have hsum : |m.longs xs c| + |m.shorts xs c| ≤ gross xs * r :=
      (add_le_add (abs_sum_le_sumAbs _) (abs_sum_le_sumAbs _)).trans (h.charges_le hbands hc)
    have hlong := abs_nonneg (m.longs xs c)
    have hshort := abs_nonneg (m.shorts xs c)
    have hmin : |min (m.longs xs c) (m.shorts xs c)| ≤ gross xs * r := by
      rcases min_choice (m.longs xs c) (m.shorts xs c) with hside | hside <;> rw [hside] <;>
        linarith
    have hmingrid : OnGrid (e + f) (min (m.longs xs c) (m.shorts xs c)) := by
      rcases min_choice (m.longs xs c) (m.shorts xs c) with hside | hside <;> rw [hside]
      · exact hlonggrid
      · exact hshortgrid
    have hdifference : |m.longs xs c - m.shorts xs c| ≤ gross xs * r :=
      (abs_sub _ _).trans hsum
    have hkept : |offset.value * min (m.longs xs c) (m.shorts xs c)| ≤
        gross xs * r * |offset.value| := by
      rw [abs_mul, mul_comm]
      exact mul_le_mul_of_nonneg_right hmin (abs_nonneg _)
    have hkeptgrid : OnGrid (e + f + g) (offset.value * min (m.longs xs c) (m.shorts xs c)) := by
      rw [mul_comm]
      exact hmingrid.mul h.offset_grid
    have hdifferencegrid := (hlonggrid.sub hshortgrid).mono (show e + f + g ≤ e + f by omega)
    cases election with
    | category =>
      refine ⟨h.represents hdifferencegrid le_rfl (hdifference.trans hcharged),
        h.represents hkeptgrid le_rfl ?_,
        h.represents (hdifferencegrid.abs.add hkeptgrid) le_rfl ?_⟩
      · linarith
      · refine (abs_add_le _ _).trans ?_
        rw [abs_abs]
        linarith
    | subcategory =>
      exact h.represents (hlonggrid.add hshortgrid) (by omega)
        (((abs_add_le _ _).trans hsum).trans hcharged)

end ShortFigures

end CustomerProtection

end Atreides
