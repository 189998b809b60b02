import Mathlib.Algebra.BigOperators.Ring.List
import Mathlib.Tactic.Linarith
import Atreides.Foundation.Agree
import Atreides.Margin.Engine

/-!
# Positions held in lots

What the margin engine adds up is, for each position, a number of shares times a number that the
price decides. Such sums do not depend on the order of the positions, nor on the lots that a
position is held in, as long as all the lots are on one side. The sums that the engine computes
are these where nothing is rounded.

## Main definitions

* `longTerm`, `shortTerm`, `maintenanceTerm` — what a position adds to the figures
* `Lots` — a position held in lots of its own side
* `Relotted` — the same holdings, in another order and in other lots
* `Unrounded` — no product and no sum of the positions is rounded

## Main results

* `Relotted.sum_eq` — what is added up of positions does not depend on the lots
* `longValue_unrounded`, `shortValue_unrounded`, `maintenance_unrounded` — the engine's sums
-/

namespace Atreides

namespace Margin

open Arithmetic (zero ofDecimal)
open FiniteDecimal (Same)

/-! ## The numbers of decimals -/

section Decimals

variable {a b : FiniteDecimal}

theorem lt_iff_value : Arithmetic.lt a b = true ↔ a.value < b.value := FiniteDecimal.lt_iff

theorem lt_eq_decide : Arithmetic.lt a b = decide (a.value < b.value) := by
  rw [Bool.eq_iff_iff, lt_iff_value, decide_eq_true_iff]

theorem value_zero : (zero : FiniteDecimal).value = 0 := FiniteDecimal.value_zero

theorem value_five : (ofDecimal 5 : FiniteDecimal).value = 5 := by
  change FiniteDecimal.value ⟨false, 5, 0⟩ = 5
  norm_num [FiniteDecimal.value, FiniteDecimal.toInt]

theorem value_max : (Arithmetic.max a b).value = max a.value b.value := by
  rw [Arithmetic.max]
  split_ifs with h
  · exact (max_eq_right (lt_iff_value.mp h).le).symm
  · exact (max_eq_left (not_lt.mp (mt lt_iff_value.mpr h))).symm

theorem value_min : (Arithmetic.min a b).value = min a.value b.value := by
  rw [Arithmetic.min]
  split_ifs with h
  · exact (min_eq_right (lt_iff_value.mp h).le).symm
  · exact (min_eq_left (not_lt.mp (mt lt_iff_value.mpr h))).symm

end Decimals

/-! ## What a position adds -/

section Terms

variable (loaded : LoadedRules FiniteDecimal) (p : MarginPosition FiniteDecimal)

/-- The shares of a long position. -/
def longShares : ℚ := max p.quantity.value 0

/-- The shares of a short position. -/
def shortShares : ℚ := max (-p.quantity.value) 0

/-- The market value of a long position. -/
def longTerm : ℚ := longShares p * p.price.value

/-- The market value of a short position. -/
def shortTerm : ℚ := shortShares p * p.price.value

/-- The number of a loaded rate, zero without one. -/
def rateValue (ruleId : String) : ℚ := ((loaded.values.get? ruleId).map FiniteDecimal.value).getD 0

/-- The rate of a short position by its value. -/
def percentOf : ℚ :=
  if p.price.value < 5 then rateValue loaded "finra.short_under_5_percent"
  else rateValue loaded "finra.short_5_plus_percent"

/-- The rate of a short position by the share. -/
def perShareOf : ℚ :=
  if p.price.value < 5 then rateValue loaded "finra.short_under_5_per_share"
  else rateValue loaded "finra.short_5_plus_per_share"

/-- The maintenance that a position requires for being short. -/
def maintenanceTerm : ℚ :=
  max (shortTerm p * percentOf loaded p) (shortShares p * perShareOf loaded p)

variable {loaded p}

theorem longShares_nonneg : 0 ≤ longShares p := le_max_right _ _

theorem shortShares_nonneg : 0 ≤ shortShares p := le_max_right _ _

theorem shortShares_eq_zero (h : ¬ p.quantity.value < 0) : shortShares p = 0 := by
  rw [shortShares, max_eq_right (neg_nonpos.mpr (not_lt.mp h))]

/-- The maintenance is so much for each share. -/
theorem maintenanceTerm_eq : maintenanceTerm loaded p =
    shortShares p * max (p.price.value * percentOf loaded p) (perShareOf loaded p) := by
  rw [mul_max_of_nonneg _ _ shortShares_nonneg, maintenanceTerm, shortTerm, mul_assoc]

end Terms

/-! ## Lots -/

/-- A position held in lots: they are of one issue and one price, they are on one side, and they
sum to the position. -/
structure Lots (p : MarginPosition FiniteDecimal) (lots : List (MarginPosition FiniteDecimal)) :
    Prop where
  some_lot : lots ≠ []
  issue : ∀ lot ∈ lots, lot.issue = p.issue
  price : ∀ lot ∈ lots, lot.price = p.price
  newTrade : ∀ lot ∈ lots, lot.newTrade = p.newTrade
  side : (∀ lot ∈ lots, 0 ≤ lot.quantity.value) ∨ ∀ lot ∈ lots, lot.quantity.value ≤ 0
  sum : (lots.map fun lot => lot.quantity.value).sum = p.quantity.value

namespace Lots

variable {p : MarginPosition FiniteDecimal} {lots : List (MarginPosition FiniteDecimal)}

/-- The long shares of the lots are those of the position. -/
theorem sum_longShares (h : Lots p lots) : (lots.map longShares).sum = longShares p := by
  obtain hlong | hshort := h.side
  · have heach : lots.map longShares = lots.map fun lot => lot.quantity.value :=
      List.map_congr_left fun lot hlot => max_eq_left (hlong lot hlot)
    have hnonneg : 0 ≤ p.quantity.value := by
      rw [← h.sum]
      exact List.sum_nonneg (by simpa using hlong)
    rw [heach, h.sum, longShares, max_eq_left hnonneg]
  · have heach : lots.map longShares = lots.map fun _ => 0 :=
      List.map_congr_left fun lot hlot => max_eq_right (hshort lot hlot)
    have hnonpos : p.quantity.value ≤ 0 := by
      have hnonneg : 0 ≤ (lots.map fun lot => -lot.quantity.value).sum :=
        List.sum_nonneg (by simpa using hshort)
      rw [← h.sum, ← neg_nonneg, List.sum_neg, List.map_map]
      exact hnonneg
    rw [heach, List.sum_map_zero, longShares, max_eq_right hnonpos]

/-- The short shares of the lots are those of the position. -/
theorem sum_shortShares (h : Lots p lots) : (lots.map shortShares).sum = shortShares p := by
  have hsplit : ∀ lot : MarginPosition FiniteDecimal,
      shortShares lot = longShares lot + -lot.quantity.value := by
    intro lot
    rw [shortShares, longShares]
    obtain hle | hge := le_total lot.quantity.value 0
    · rw [max_eq_left (neg_nonneg.mpr hle), max_eq_right hle, zero_add]
    · rw [max_eq_right (neg_nonpos.mpr hge), max_eq_left hge, add_neg_cancel]
  have hneg : (lots.map fun lot => -lot.quantity.value).sum = -p.quantity.value := by
    rw [← h.sum, List.sum_neg, List.map_map]
    rfl
  rw [hsplit p, ← h.sum_longShares, ← hneg, ← List.sum_map_add]
  exact congrArg List.sum (List.map_congr_left fun lot _ => hsplit lot)

end Lots

/-- The same holdings, in another order and in other lots. -/
inductive Relotted :
    List (MarginPosition FiniteDecimal) → List (MarginPosition FiniteDecimal) → Prop
  | perm {ps qs : List (MarginPosition FiniteDecimal)} (h : ps.Perm qs) : Relotted ps qs
  | split {p : MarginPosition FiniteDecimal} {lots : List (MarginPosition FiniteDecimal)}
      (h : Lots p lots) (rest : List (MarginPosition FiniteDecimal)) :
      Relotted (p :: rest) (lots ++ rest)
  | trans {ps qs rs : List (MarginPosition FiniteDecimal)} (h : Relotted ps qs)
      (h' : Relotted qs rs) : Relotted ps rs

namespace Relotted

variable {ps qs : List (MarginPosition FiniteDecimal)} {f : MarginPosition FiniteDecimal → ℚ}

/-- What adds up over the lots of every position adds up to the same. -/
theorem sum_eq (hf : ∀ p lots, Lots p lots → (lots.map f).sum = f p) (h : Relotted ps qs) :
    (qs.map f).sum = (ps.map f).sum := by
  induction h with
  | perm h => exact (h.map f).sum_eq.symm
  | split h rest =>
    rw [List.map_append, List.sum_append, hf _ _ h, List.map_cons, List.sum_cons]
  | trans _ _ ih ih' => rw [ih', ih]

/-- The issues held are the same. -/
theorem issue_iff (h : Relotted ps qs) (issue : String) :
    issue ∈ ps.map MarginPosition.issue ↔ issue ∈ qs.map MarginPosition.issue := by
  induction h with
  | perm h => exact (h.map MarginPosition.issue).mem_iff
  | @split p lots h rest =>
    have hlots : issue ∈ lots.map MarginPosition.issue ↔ issue = p.issue := by
      constructor
      · intro hmem
        obtain ⟨lot, hlot, rfl⟩ := List.mem_map.mp hmem
        exact h.issue lot hlot
      · intro heq
        obtain ⟨lot, hlot⟩ := List.exists_mem_of_ne_nil lots h.some_lot
        exact List.mem_map.mpr ⟨lot, hlot, (h.issue lot hlot).trans heq.symm⟩
    rw [List.map_cons, List.mem_cons, List.map_append, List.mem_append, hlots]
  | trans _ _ ih ih' => exact ih.trans ih'

/-- The new trades are the same holdings too. -/
theorem newTrades (h : Relotted ps qs) :
    Relotted (ps.filter MarginPosition.newTrade) (qs.filter MarginPosition.newTrade) := by
  induction h with
  | perm h => exact Relotted.perm (h.filter _)
  | @split p lots h rest =>
    have hall : ∀ lot ∈ lots, lot.newTrade = p.newTrade := h.newTrade
    rw [List.filter_append, List.filter_cons]
    cases hnew : p.newTrade with
    | true =>
      have hkept : lots.filter MarginPosition.newTrade = lots :=
        List.filter_eq_self.mpr fun lot hlot => (hall lot hlot).trans hnew
      rw [hkept, if_pos rfl]
      exact Relotted.split h _
    | false =>
      have hnone : lots.filter MarginPosition.newTrade = [] :=
        List.filter_eq_nil_iff.mpr fun lot hlot => by simp [hall lot hlot, hnew]
      rw [hnone, if_neg Bool.false_ne_true]
      exact Relotted.perm (List.Perm.refl _)
  | trans _ _ ih ih' => exact ih.trans ih'

/-- The value of what is long does not depend on the lots. -/
theorem sum_longTerm (h : Relotted ps qs) : (qs.map longTerm).sum = (ps.map longTerm).sum := by
  apply h.sum_eq
  intro p lots hlots
  rw [longTerm, ← hlots.sum_longShares, ← List.sum_map_mul_right]
  exact congrArg List.sum (List.map_congr_left fun lot hlot => by
    rw [longTerm, hlots.price lot hlot])

/-- What so much for each short share adds up to does not depend on the lots. -/
theorem sum_perShare {g : FiniteDecimal → ℚ} (hf : ∀ p, f p = shortShares p * g p.price)
    (h : Relotted ps qs) : (qs.map f).sum = (ps.map f).sum := by
  apply h.sum_eq
  intro p lots hlots
  rw [hf p, ← hlots.sum_shortShares, ← List.sum_map_mul_right]
  exact congrArg List.sum (List.map_congr_left fun lot hlot => by
    rw [hf lot, hlots.price lot hlot])

theorem sum_shortTerm (h : Relotted ps qs) : (qs.map shortTerm).sum = (ps.map shortTerm).sum :=
  h.sum_perShare fun _ => rfl

theorem sum_maintenanceTerm (loaded : LoadedRules FiniteDecimal) (h : Relotted ps qs) :
    (qs.map (maintenanceTerm loaded)).sum = (ps.map (maintenanceTerm loaded)).sum :=
  h.sum_perShare (g := fun price => max (price.value * if price.value < 5 then
      rateValue loaded "finra.short_under_5_percent" else
      rateValue loaded "finra.short_5_plus_percent")
    (if price.value < 5 then rateValue loaded "finra.short_under_5_per_share" else
      rateValue loaded "finra.short_5_plus_per_share")) fun _ => maintenanceTerm_eq

end Relotted

/-! ## Sums that are not rounded -/

/-- No product and no sum of the positions is rounded. -/
structure Unrounded (loaded : LoadedRules FiniteDecimal)
    (positions : List (MarginPosition FiniteDecimal)) : Prop where
  shares : ∀ p ∈ positions, p.quantity.value < 0 → DecimalContext.ambient.Represents p.quantity.value
  byValue : ∀ p ∈ positions,
    DecimalContext.ambient.Represents (shortTerm p * percentOf loaded p)
  byShare : ∀ p ∈ positions,
    DecimalContext.ambient.Represents (shortShares p * perShareOf loaded p)
  long : ExactSums .ambient (positions.map longTerm)
  short : ExactSums .ambient (positions.map shortTerm)
  maintenance : ExactSums .ambient
    ((positions.map longTerm).sum * rateValue loaded "finra.long_maintenance" ::
      positions.map (maintenanceTerm loaded))

section Sums

variable {loaded : LoadedRules FiniteDecimal} {positions : List (MarginPosition FiniteDecimal)}

/-- The order of the positions does not matter to whether they are rounded. -/
theorem Unrounded.perm {other : List (MarginPosition FiniteDecimal)}
    (h : Unrounded loaded positions) (hperm : positions.Perm other) : Unrounded loaded other where
  shares := fun p hp => h.shares p (hperm.mem_iff.mpr hp)
  byValue := fun p hp => h.byValue p (hperm.mem_iff.mpr hp)
  byShare := fun p hp => h.byShare p (hperm.mem_iff.mpr hp)
  long := h.long.perm (hperm.map _).symm
  short := h.short.perm (hperm.map _).symm
  maintenance := by
    rw [(Relotted.perm hperm).sum_longTerm]
    exact h.maintenance.perm ((hperm.map _).symm.cons _)

/-- Where no rate is missing, a required rate is the loaded one. -/
theorem rate_value (hmissing : allMissing loaded = []) {ruleId : String}
    (hrequired : ruleId ∈ requiredRules) :
    ∃ r, rate loaded ruleId = .ok r ∧ r.value = rateValue loaded ruleId := by
  obtain ⟨r, hr⟩ := rate_of_allMissing hmissing hrequired
  refine ⟨r, ?_, ?_⟩
  · rw [rate, hr]
  · rw [rateValue, hr]
    rfl

/-- The shares of a short position are counted exactly. -/
theorem shares_unrounded {p : MarginPosition FiniteDecimal} (hshort : p.quantity.value < 0)
    (hshares : DecimalContext.ambient.Represents p.quantity.value) :
    ∃ shares, Arithmetic.neg p.quantity = .ok shares ∧ shares.value = shortShares p := by
  obtain ⟨shares, hok, hvalue⟩ := FiniteDecimal.neg_exact hshares
  refine ⟨shares, hok, hvalue.trans ?_⟩
  rw [shortShares, max_eq_left (neg_nonneg.mpr hshort.le)]

/-- A long position is added exactly where the total is held. -/
theorem addLong_unrounded {total : FiniteDecimal} {p : MarginPosition FiniteDecimal}
    (hterm : DecimalContext.ambient.Represents (longTerm p))
    (hfits : DecimalContext.ambient.Represents (total.value + longTerm p)) :
    ∃ r, addLong total p = .ok r ∧ r.value = total.value + longTerm p := by
  by_cases hlong : 0 < p.quantity.value
  · have hproduct : longTerm p = p.quantity.value * p.price.value := by
      rw [longTerm, longShares, max_eq_left hlong.le]
    rw [hproduct] at hterm hfits ⊢
    obtain ⟨value, hmul, hvalue⟩ := FiniteDecimal.mul_exact_iff.mpr hterm
    rw [← hvalue] at hfits ⊢
    obtain ⟨r, hadd, hr⟩ := FiniteDecimal.add_exact_iff.mpr hfits
    refine ⟨r, ?_, hr⟩
    rw [addLong, lt_eq_decide, value_zero, decide_eq_true hlong, if_pos rfl]
    exact Outcome.bind_eq_ok.mpr ⟨value, hmul, hadd⟩
  · have hnone : longTerm p = 0 := by
      rw [longTerm, longShares, max_eq_right (not_lt.mp hlong), zero_mul]
    refine ⟨total, ?_, by rw [hnone, add_zero]⟩
    rw [addLong, lt_eq_decide, value_zero, decide_eq_false hlong, if_neg Bool.false_ne_true]

/-- A short position is added exactly where its shares and the total are held. -/
theorem addShort_unrounded {total : FiniteDecimal} {p : MarginPosition FiniteDecimal}
    (hshares : p.quantity.value < 0 → DecimalContext.ambient.Represents p.quantity.value)
    (hterm : DecimalContext.ambient.Represents (shortTerm p))
    (hfits : DecimalContext.ambient.Represents (total.value + shortTerm p)) :
    ∃ r, addShort total p = .ok r ∧ r.value = total.value + shortTerm p := by
  by_cases hshort : p.quantity.value < 0
  · obtain ⟨shares, hneg, hcount⟩ := shares_unrounded hshort (hshares hshort)
    rw [shortTerm, ← hcount] at hterm hfits ⊢
    obtain ⟨value, hmul, hvalue⟩ := FiniteDecimal.mul_exact_iff.mpr hterm
    rw [← hvalue] at hfits ⊢
    obtain ⟨r, hadd, hr⟩ := FiniteDecimal.add_exact_iff.mpr hfits
    refine ⟨r, ?_, hr⟩
    rw [addShort, lt_eq_decide, value_zero, decide_eq_true hshort, if_pos rfl]
    exact Outcome.bind_eq_ok.mpr ⟨shares, hneg, Outcome.bind_eq_ok.mpr ⟨value, hmul, hadd⟩⟩
  · have hnone : shortTerm p = 0 := by
      rw [shortTerm, shortShares_eq_zero hshort, zero_mul]
    refine ⟨total, ?_, by rw [hnone, add_zero]⟩
    rw [addShort, lt_eq_decide, value_zero, decide_eq_false hshort, if_neg Bool.false_ne_true]

/-- The rates of a short position are those of its price. -/
theorem shortRates_eq (hmissing : allMissing loaded = []) (p : MarginPosition FiniteDecimal) :
    ∃ percent perShare, shortRates loaded p.price = .ok (percent, perShare) ∧
      percent.value = percentOf loaded p ∧ perShare.value = perShareOf loaded p := by
  by_cases hprice : p.price.value < 5
  · obtain ⟨percent, hpercent, hvalue⟩ :=
      rate_value hmissing (show "finra.short_under_5_percent" ∈ _ by decide)
    obtain ⟨perShare, hperShare, hvalue'⟩ :=
      rate_value hmissing (show "finra.short_under_5_per_share" ∈ _ by decide)
    refine ⟨percent, perShare, ?_, ?_, ?_⟩
    · rw [shortRates, lt_eq_decide, value_five, decide_eq_true hprice, if_pos rfl, hpercent,
        hperShare]
      rfl
    · rw [percentOf, if_pos hprice, hvalue]
    · rw [perShareOf, if_pos hprice, hvalue']
  · obtain ⟨percent, hpercent, hvalue⟩ :=
      rate_value hmissing (show "finra.short_5_plus_percent" ∈ _ by decide)
    obtain ⟨perShare, hperShare, hvalue'⟩ :=
      rate_value hmissing (show "finra.short_5_plus_per_share" ∈ _ by decide)
    refine ⟨percent, perShare, ?_, ?_, ?_⟩
    · rw [shortRates, lt_eq_decide, value_five, decide_eq_false hprice, if_neg Bool.false_ne_true,
        hpercent, hperShare]
      rfl
    · rw [percentOf, if_neg hprice, hvalue]
    · rw [perShareOf, if_neg hprice, hvalue']

/-- The maintenance of a short position is added exactly where nothing of it is rounded. -/
theorem addShortMaintenance_unrounded (hmissing : allMissing loaded = [])
    {total : FiniteDecimal} {p : MarginPosition FiniteDecimal}
    (hshares : p.quantity.value < 0 → DecimalContext.ambient.Represents p.quantity.value)
    (hterm : DecimalContext.ambient.Represents (shortTerm p))
    (hvalue : DecimalContext.ambient.Represents (shortTerm p * percentOf loaded p))
    (hshare : DecimalContext.ambient.Represents (shortShares p * perShareOf loaded p))
    (hfits : DecimalContext.ambient.Represents (total.value + maintenanceTerm loaded p)) :
    ∃ r, addShortMaintenance loaded total p = .ok r ∧
      r.value = total.value + maintenanceTerm loaded p := by
  by_cases hshort : p.quantity.value < 0
  · obtain ⟨shares, hneg, hcount⟩ := shares_unrounded hshort (hshares hshort)
    rw [shortTerm, ← hcount] at hterm
    obtain ⟨market, hmarket, hworth⟩ := FiniteDecimal.mul_exact_iff.mpr hterm
    obtain ⟨percent, perShare, hrates, hpercent, hperShare⟩ := shortRates_eq hmissing p
    rw [shortTerm, ← hcount, ← hworth, ← hpercent] at hvalue
    rw [← hcount, ← hperShare] at hshare
    obtain ⟨byValue, hbyValue, hbyValue'⟩ := FiniteDecimal.mul_exact_iff.mpr hvalue
    obtain ⟨byShare, hbyShare, hbyShare'⟩ := FiniteDecimal.mul_exact_iff.mpr hshare
    have hlarger : (Arithmetic.max byValue byShare).value = maintenanceTerm loaded p := by
      rw [value_max, hbyValue', hbyShare', hworth, hcount, hpercent, hperShare]
      rfl
    rw [← hlarger] at hfits ⊢
    obtain ⟨r, hadd, hr⟩ := FiniteDecimal.add_exact_iff.mpr hfits
    refine ⟨r, ?_, hr⟩
    rw [addShortMaintenance, lt_eq_decide, value_zero, decide_eq_true hshort,
      if_neg (by decide), hneg, Outcome.ok_bind]
    refine Outcome.bind_eq_ok.mpr ⟨market, hmarket, ?_⟩
    rw [hrates, Outcome.ok_bind]
    exact Outcome.bind_eq_ok.mpr ⟨byValue, hbyValue, Outcome.bind_eq_ok.mpr ⟨byShare, hbyShare,
      hadd⟩⟩
  · have hnone : maintenanceTerm loaded p = 0 := by
      rw [maintenanceTerm_eq, shortShares_eq_zero hshort, zero_mul]
    refine ⟨total, ?_, by rw [hnone, add_zero]⟩
    rw [addShortMaintenance, lt_eq_decide, value_zero, decide_eq_false hshort, if_pos (by decide)]

/-- The engine's value of long positions is their value. -/
theorem longValue_unrounded (h : ExactSums .ambient (positions.map longTerm)) :
    ∃ total, longValue positions = .ok total ∧ total.value = (positions.map longTerm).sum := by
  have hstep : ∀ total, ∀ p ∈ positions, DecimalContext.ambient.Represents
      (total.value + longTerm p) → ∃ r, addLong total p = .ok r ∧
        r.value = total.value + longTerm p :=
    fun total p hp => addLong_unrounded (h.of_mem (List.mem_map_of_mem hp))
  have hstart : (zero : FiniteDecimal).value = ([] : List ℚ).sum := value_zero
  obtain ⟨total, htotal, hvalue⟩ := FiniteDecimal.foldSteps_exact hstep hstart h
  exact ⟨total, htotal, by rw [hvalue, value_zero, zero_add]⟩

/-- The engine's value of short positions is their value. -/
theorem shortValue_unrounded (hshares : ∀ p ∈ positions, p.quantity.value < 0 →
      DecimalContext.ambient.Represents p.quantity.value)
    (h : ExactSums .ambient (positions.map shortTerm)) :
    ∃ total, shortValue positions = .ok total ∧ total.value = (positions.map shortTerm).sum := by
  have hstep : ∀ total, ∀ p ∈ positions, DecimalContext.ambient.Represents
      (total.value + shortTerm p) → ∃ r, addShort total p = .ok r ∧
        r.value = total.value + shortTerm p :=
    fun total p hp => addShort_unrounded (hshares p hp) (h.of_mem (List.mem_map_of_mem hp))
  have hstart : (zero : FiniteDecimal).value = ([] : List ℚ).sum := value_zero
  obtain ⟨total, htotal, hvalue⟩ := FiniteDecimal.foldSteps_exact hstep hstart h
  exact ⟨total, htotal, by rw [hvalue, value_zero, zero_add]⟩

/-- The engine's maintenance of the positions, from that of the long ones. -/
theorem maintenance_unrounded (hmissing : allMissing loaded = []) (h : Unrounded loaded positions)
    {ofLong : FiniteDecimal} (hlong : ofLong.value =
      (positions.map longTerm).sum * rateValue loaded "finra.long_maintenance") :
    ∃ total, Outcome.foldSteps (addShortMaintenance loaded) ofLong positions = .ok total ∧
      total.value = ofLong.value + (positions.map (maintenanceTerm loaded)).sum := by
  have hstep : ∀ total, ∀ p ∈ positions, DecimalContext.ambient.Represents
      (total.value + maintenanceTerm loaded p) → ∃ r, addShortMaintenance loaded total p = .ok r ∧
        r.value = total.value + maintenanceTerm loaded p :=
    fun total p hp => addShortMaintenance_unrounded hmissing (h.shares p hp)
      (h.short.of_mem (List.mem_map_of_mem hp)) (h.byValue p hp) (h.byShare p hp)
  have hstart : ofLong.value =
      [(positions.map longTerm).sum * rateValue loaded "finra.long_maintenance"].sum := by
    rw [hlong, List.sum_singleton]
  exact FiniteDecimal.foldSteps_exact hstep hstart h.maintenance

end Sums

end Margin

end Atreides
