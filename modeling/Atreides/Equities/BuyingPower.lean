import Mathlib.Tactic.Linarith
import Mathlib.Tactic.NormNum
import Atreides.Equities.Documents

/-!
# Trading within the published buying power

The buying power of an account is its excess over the governing requirement, divided by the
initial rate. In exact numbers a purchase within it leaves no call: what it costs at the initial
rate is at most the excess, the excess is at most the equity, and no requirement grows faster
than at the initial rate.

## Main definitions

* `marketLong`, `marketShort`, `shortRequirement` — the figures of a list of positions
* `Bought` — an account after a purchase

## Main results

* `computeMargin_of_met` — an account whose requirements are met passes without a call
* `buyingPower_of_published` — the buying power that a document publishes
* `within_buying_power` — a purchase within the buying power leaves no call
-/

namespace Atreides

namespace Margin

open Arithmetic (zero ofDecimal)

/-! ## Loaded rates -/

section Rules

variable {N : Type} [Arithmetic N] {sha256 : String → String} {rows : List RuleRow}

theorem loadRules_concat (row : RuleRow) :
    loadRules (N := N) sha256 (rows ++ [row]) = loadRule sha256 (loadRules sha256 rows) row := by
  simp [loadRules]

/-- The rates are those of the traces. -/
theorem values_loadRules : (loadRules (N := N) sha256 rows).values =
    .ofPairs ((loadRules (N := N) sha256 rows).traces.map fun trace =>
      (trace.ruleId, trace.value)) := by
  induction rows using List.reverseRecOn with
  | nil => rfl
  | append_singleton rows row ih =>
    rw [loadRules_concat, loadRule]
    split_ifs
    · exact ih
    · simp only [List.map_append, List.map_singleton, Dict.ofPairs, Dict.setAll_concat]
      rw [ih, Dict.ofPairs]

/-- A rate is traced at most as often as rows state it. -/
theorem traces_sublist : ((loadRules (N := N) sha256 rows).traces.map RuleTrace.ruleId).Sublist
    (rows.map RuleRow.ruleId) := by
  induction rows using List.reverseRecOn with
  | nil => exact List.Sublist.slnil
  | append_singleton rows row ih =>
    rw [loadRules_concat, loadRule]
    split_ifs
    · exact ih.trans (by simp)
    · simpa using ih

/-- Where no rate is stated twice, the traced rate is the one that is used. -/
theorem rate_of_traced (hunique : (rows.map RuleRow.ruleId).Nodup) {trace : RuleTrace N}
    (h : trace ∈ (loadRules sha256 rows).traces) :
    rate (loadRules sha256 rows) trace.ruleId = .ok trace.value := by
  have hnodup := hunique.sublist (@traces_sublist N _ sha256 rows)
  have hget : (loadRules (N := N) sha256 rows).values.get? trace.ruleId = some trace.value := by
    rw [values_loadRules, Dict.get?_ofPairs_iff]
    · exact List.mem_map.mpr ⟨trace, h, rfl⟩
    · intro p hp q hq hsame
      obtain ⟨s, hs, rfl⟩ := List.mem_map.mp hp
      obtain ⟨t, ht, rfl⟩ := List.mem_map.mp hq
      rw [List.inj_on_of_nodup_map hnodup hs ht hsame]
  rw [rate, hget]

end Rules

/-! ## The engine in exact numbers -/

variable {loaded : LoadedRules ℚ} {account : MarginAccount ℚ} {setting : MarginSetting}
  {houseRate : ℚ} {result : MarginResult ℚ} {positions : List (MarginPosition ℚ)}

/-- The market value of the long positions. -/
def marketLong (positions : List (MarginPosition ℚ)) : ℚ :=
  (positions.map fun p => if 0 < p.quantity then p.quantity * p.price else 0).sum

/-- The market value of the short positions. -/
def marketShort (positions : List (MarginPosition ℚ)) : ℚ :=
  (positions.map fun p => if p.quantity < 0 then -p.quantity * p.price else 0).sum

theorem MarginPosition.price_positive (p : MarginPosition ℚ) : 0 < p.price := by
  simpa using p.price_pos

theorem marketLong_nonneg : 0 ≤ marketLong positions := by
  apply List.sum_nonneg
  intro value hvalue
  obtain ⟨p, -, rfl⟩ := List.mem_map.mp hvalue
  split_ifs with hlong
  · exact mul_nonneg hlong.le p.price_positive.le
  · exact le_rfl

theorem marketShort_nonneg : 0 ≤ marketShort positions := by
  apply List.sum_nonneg
  intro value hvalue
  obtain ⟨p, -, rfl⟩ := List.mem_map.mp hvalue
  split_ifs with hshort
  · exact mul_nonneg (neg_nonneg.mpr hshort.le) p.price_positive.le
  · exact le_rfl

/-- A loaded rate, or zero. -/
def rateOrZero (loaded : LoadedRules ℚ) (ruleId : String) : ℚ :=
  (loaded.values.get? ruleId).getD 0

/-- What the maintenance rule requires of a position for being short. -/
def shortRequirement (loaded : LoadedRules ℚ) (p : MarginPosition ℚ) : ℚ :=
  if p.quantity < 0 then
    if p.price < ofDecimal 5 then
      max (-p.quantity * p.price * rateOrZero loaded "finra.short_under_5_percent")
        (-p.quantity * rateOrZero loaded "finra.short_under_5_per_share")
    else
      max (-p.quantity * p.price * rateOrZero loaded "finra.short_5_plus_percent")
        (-p.quantity * rateOrZero loaded "finra.short_5_plus_per_share")
  else 0

/-- A loop of exact additions adds up. -/
theorem foldSteps_exact {α : Type} {step : ℚ → α → Outcome ℚ} {f : α → ℚ} {xs : List α}
    (h : ∀ total, ∀ x ∈ xs, step total x = .ok (total + f x)) (start : ℚ) :
    Outcome.foldSteps step start xs = .ok (start + (xs.map f).sum) := by
  induction xs generalizing start with
  | nil => simp
  | cons x xs ih =>
    rw [Outcome.foldSteps_cons, h start x List.mem_cons_self, Outcome.ok_bind,
      ih fun total y hy => h total y (List.mem_cons_of_mem x hy)]
    rw [List.map_cons, List.sum_cons, add_assoc]

theorem longValue_exact : longValue positions = .ok (marketLong positions) := by
  rw [longValue, foldSteps_exact (f := fun p => if 0 < p.quantity then p.quantity * p.price else 0)]
  · simp [marketLong]
  · intro total p _
    by_cases h : 0 < p.quantity <;> simp [addLong, h]

theorem shortValue_exact : shortValue positions = .ok (marketShort positions) := by
  rw [shortValue, foldSteps_exact (f := fun p => if p.quantity < 0 then -p.quantity * p.price
    else 0)]
  · simp [marketShort]
  · intro total p _
    by_cases h : p.quantity < 0 <;> simp [addShort, h]

theorem rate_exact (h : allMissing loaded = []) {ruleId : String}
    (hrequired : ruleId ∈ requiredRules) : rate loaded ruleId = .ok (rateOrZero loaded ruleId) := by
  obtain ⟨value, hvalue⟩ := rate_of_allMissing h hrequired
  rw [rate, rateOrZero, hvalue]
  rfl

/-- The maintenance of a price class of short positions. -/
theorem addShortMaintenance_exact (h : allMissing loaded = []) (total : ℚ)
    (p : MarginPosition ℚ) :
    addShortMaintenance loaded total p = .ok (total + shortRequirement loaded p) := by
  by_cases hshort : p.quantity < 0
  · have hrates : shortRates loaded p.price = .ok (if p.price < ofDecimal 5 then
        (rateOrZero loaded "finra.short_under_5_percent",
          rateOrZero loaded "finra.short_under_5_per_share")
        else (rateOrZero loaded "finra.short_5_plus_percent",
          rateOrZero loaded "finra.short_5_plus_per_share")) := by
      rw [shortRates, rate_exact h (by decide), rate_exact h (by decide),
        rate_exact h (by decide), rate_exact h (by decide)]
      by_cases hprice : p.price < (ofDecimal 5 : ℚ) <;> simp [hprice]
    simp only [addShortMaintenance, Arithmetic.exact_lt, Arithmetic.exact_zero, hshort,
      decide_true, Bool.not_true, Bool.false_eq_true, if_false, Arithmetic.exact_neg,
      Arithmetic.exact_mul, Outcome.ok_bind, hrates]
    by_cases hprice : p.price < (ofDecimal 5 : ℚ) <;>
      simp [shortRequirement, hshort, hprice]
  · simp [addShortMaintenance, shortRequirement, hshort]

/-- The equity of an account: its positions and its cash. -/
def worth (account : MarginAccount ℚ) : ℚ :=
  marketLong account.positions + account.cashBalance - marketShort account.positions

/-- What an account is worth, in exact numbers. -/
def exactFigures (account : MarginAccount ℚ) : Figures ℚ where
  long := marketLong account.positions
  short := marketShort account.positions
  debit := max (-account.cashBalance) 0
  credit := max account.cashBalance 0
  equity := worth account

theorem figures_exact : figures account = .ok (exactFigures account) := by
  have hcash : max account.cashBalance 0 - max (-account.cashBalance) 0 = account.cashBalance :=
    posPart_sub_negPart account.cashBalance
  simp only [figures, longValue_exact, shortValue_exact, Outcome.ok_bind, Arithmetic.exact_neg,
    Arithmetic.exact_max, Arithmetic.exact_zero, Arithmetic.exact_add, Arithmetic.exact_sub]
  rw [exactFigures, worth]
  congr 2
  linarith

/-- What the rules require of an account, in exact numbers. -/
def exactRequirements (loaded : LoadedRules ℚ) (account : MarginAccount ℚ) (houseRate : ℚ) :
    Requirements ℚ where
  initial := (marketLong (account.positions.filter MarginPosition.newTrade) +
    marketShort (account.positions.filter MarginPosition.newTrade)) *
      rateOrZero loaded "reg_t.initial"
  maintenance := marketLong account.positions * rateOrZero loaded "finra.long_maintenance" +
    (account.positions.map (shortRequirement loaded)).sum
  house := (marketLong account.positions + marketShort account.positions) * houseRate

theorem requirements_exact (h : allMissing loaded = []) :
    requirements loaded account (exactFigures account) houseRate =
      .ok (exactRequirements loaded account houseRate) := by
  simp only [requirements, longValue_exact, shortValue_exact, Outcome.ok_bind,
    Arithmetic.exact_add, Arithmetic.exact_mul, rate_exact h (show "reg_t.initial" ∈ _ by decide),
    rate_exact h (show "finra.long_maintenance" ∈ _ by decide),
    foldSteps_exact fun total p _ => addShortMaintenance_exact h total p]
  rfl

/-- An account passes without a call where its equity meets every requirement. -/
theorem computeMargin_of_met {sha256 : String → String} {rows : List RuleRow}
    (hloaded : loadRules sha256 rows = loaded) (h : allMissing loaded = [])
    (hinitial : (exactRequirements loaded account houseRate).initial ≤ worth account)
    (hmaintenance : (exactRequirements loaded account houseRate).maintenance ≤ worth account)
    (hhouse : (exactRequirements loaded account houseRate).house ≤ worth account) :
    ∃ result, computeMargin sha256 rows account setting houseRate = .ok result ∧
      result.disposition = .pass ∧ result.calls = [] ∧ result.excessOrDeficiency.isSome := by
  generalize hrequired : exactRequirements loaded account houseRate = required at *
  have hgoverning : ¬ 0 < max required.maintenance required.house - worth account :=
    not_lt.mpr (sub_nonpos.mpr (max_le hmaintenance hhouse))
  have hregT : regTCall loaded setting required.initial (worth account) = .ok [] := by
    have hmet : ¬ max (worth account) 0 < required.initial :=
      not_lt.mpr (le_max_of_le_left hinitial)
    simp [regTCall, hmet]
  have hmaintained : maintenanceCall setting required.maintenance (worth account) = .ok [] := by
    simp [maintenanceCall, not_lt.mpr hmaintenance]
  have hhoused : houseCall required.maintenance required.house (worth account) = .ok [] := by
    simp [houseCall, not_lt.mpr hhouse]
  have hnone : liquidationOf account (marketLong account.positions)
      (max required.maintenance required.house - worth account) = .ok none := by
    simp only [liquidationOf, Arithmetic.exact_lt, Arithmetic.exact_zero, hgoverning, decide_false,
      Bool.false_eq_true, if_false]
  have hdecided : ∃ result, decided loaded account setting (exactFigures account) houseRate =
      .ok result ∧ result.disposition = .pass ∧ result.calls = [] ∧
        result.excessOrDeficiency.isSome := by
    rw [decided, requirements_exact h, hrequired]
    simp only [Outcome.ok_bind, Arithmetic.exact_sub, Arithmetic.exact_max, exactFigures, hregT,
      hmaintained, hhoused, hnone]
    refine ⟨_, rfl, ?_, rfl, rfl⟩
    simp only [Arithmetic.exact_lt, Arithmetic.exact_zero, hgoverning, decide_false,
      Bool.false_eq_true, if_false]
  obtain ⟨result, hresult, hpass, hcalls⟩ := hdecided
  refine ⟨result, ?_, hpass, hcalls⟩
  simp only [computeMargin, hloaded, figures_exact, Outcome.ok_bind, h, ne_eq, not_true_eq_false,
    if_false, hresult]

/-- A determinate result has every rate, and the excess of the equity over what governs. -/
theorem excess_of_computeMargin {sha256 : String → String} {rows : List RuleRow} {excess : ℚ}
    (hloaded : loadRules sha256 rows = loaded)
    (h : computeMargin sha256 rows account setting houseRate = .ok result)
    (hexcess : result.excessOrDeficiency = some excess) :
    allMissing loaded = [] ∧ result.rulesUsed = loaded.traces ∧ excess = worth account -
      max (exactRequirements loaded account houseRate).maintenance
        (exactRequirements loaded account houseRate).house := by
  simp only [computeMargin, hloaded, figures_exact, Outcome.ok_bind] at h
  split_ifs at h with hmissing
  · cases h
    cases hexcess
  · rw [not_not] at hmissing
    simp only [decided, requirements_exact hmissing, Outcome.ok_bind, Outcome.bind_eq_ok,
      Arithmetic.exact_sub, Arithmetic.exact_max] at h
    obtain ⟨regT, -, maintenance, -, house, -, liquidation, -, h⟩ := h
    cases h
    exact ⟨hmissing, rfl, (Option.some.inj hexcess).symm⟩

/-- The account a result is of. -/
theorem accountId_of_computeMargin {sha256 : String → String} {rows : List RuleRow}
    (h : computeMargin sha256 rows account setting houseRate = .ok result) :
    result.accountId = account.accountId := by
  simp only [computeMargin, figures_exact, Outcome.ok_bind] at h
  split_ifs at h
  · cases h
    rfl
  · simp only [decided, Outcome.bind_eq_ok] at h
    obtain ⟨required, -, deficiency, -, regT, -, maintenance, -, house, -, liquidation, -, excess,
      -, h⟩ := h
    cases h
    rfl

/-! ## A purchase -/

/-- The account after the purchase of a long position in an issue it does not hold: the position
is marked as a new trade and paid from the cash. -/
structure Bought (account : MarginAccount ℚ) (purchase : MarginPosition ℚ)
    (bought : MarginAccount ℚ) : Prop where
  new : ∀ p ∈ account.positions, p.issue ≠ purchase.issue
  long : 0 < purchase.quantity
  marked : purchase.newTrade = true
  accountId : bought.accountId = account.accountId
  paid : bought.cashBalance = account.cashBalance - purchase.quantity * purchase.price
  positions : bought.positions.Perm (purchase :: account.positions)

namespace Bought

variable {bought : MarginAccount ℚ} {purchase : MarginPosition ℚ}

theorem marketLong_eq (h : Bought account purchase bought) : marketLong bought.positions =
    purchase.quantity * purchase.price + marketLong account.positions := by
  rw [marketLong, (h.positions.map _).sum_eq, List.map_cons, List.sum_cons, if_pos h.long,
    marketLong]

theorem marketShort_eq (h : Bought account purchase bought) :
    marketShort bought.positions = marketShort account.positions := by
  rw [marketShort, (h.positions.map _).sum_eq, List.map_cons, List.sum_cons,
    if_neg (not_lt.mpr h.long.le), zero_add, marketShort]

theorem shortRequirement_eq (h : Bought account purchase bought) :
    (bought.positions.map (shortRequirement loaded)).sum =
      (account.positions.map (shortRequirement loaded)).sum := by
  have hnone : shortRequirement loaded purchase = 0 := if_neg (not_lt.mpr h.long.le)
  rw [(h.positions.map _).sum_eq, List.map_cons, List.sum_cons, hnone, zero_add]

/-- What is bought is paid for: the account is worth the same. -/
theorem worth_eq (h : Bought account purchase bought) : worth bought = worth account := by
  rw [worth, worth, h.marketLong_eq, h.marketShort_eq, h.paid]
  ring

/-- The purchase is all that is newly traded. -/
theorem newTrades_perm (h : Bought account purchase bought)
    (hold : ∀ p ∈ account.positions, p.newTrade = false) :
    (bought.positions.filter MarginPosition.newTrade).Perm [purchase] := by
  have hnone : account.positions.filter MarginPosition.newTrade = [] :=
    List.filter_eq_nil_iff.mpr fun p hp => by simp [hold p hp]
  have hperm := h.positions.filter MarginPosition.newTrade
  rwa [List.filter_cons_of_pos h.marked, hnone] at hperm

theorem requirements_eq (h : Bought account purchase bought)
    (hold : ∀ p ∈ account.positions, p.newTrade = false) :
    exactRequirements loaded bought houseRate =
      { initial := purchase.quantity * purchase.price * rateOrZero loaded "reg_t.initial"
        maintenance := (exactRequirements loaded account houseRate).maintenance +
          purchase.quantity * purchase.price * rateOrZero loaded "finra.long_maintenance"
        house := (exactRequirements loaded account houseRate).house +
          purchase.quantity * purchase.price * houseRate } := by
  have hnew := h.newTrades_perm hold
  have hlong : marketLong (bought.positions.filter MarginPosition.newTrade) =
      purchase.quantity * purchase.price := by
    rw [marketLong, (hnew.map _).sum_eq, List.map_singleton, List.sum_singleton, if_pos h.long]
  have hshort : marketShort (bought.positions.filter MarginPosition.newTrade) = 0 := by
    rw [marketShort, (hnew.map _).sum_eq, List.map_singleton, List.sum_singleton,
      if_neg (not_lt.mpr h.long.le)]
  simp only [exactRequirements, hlong, hshort, h.marketLong_eq, h.marketShort_eq,
    h.shortRequirement_eq, Requirements.mk.injEq]
  refine ⟨?_, ?_, ?_⟩ <;> ring

/-- A purchase whose initial requirement is within the excess leaves every requirement met. -/
theorem computeMargin_pass {sha256 : String → String} {rows : List RuleRow} {spent : ℚ}
    (h : Bought account purchase bought) (hold : ∀ p ∈ account.positions, p.newTrade = false)
    (hspent : spent = purchase.quantity * purchase.price)
    (hloaded : loadRules sha256 rows = loaded) (hmissing : allMissing loaded = [])
    (hhouse : 0 ≤ houseRate) (hhouseRate : houseRate ≤ rateOrZero loaded "reg_t.initial")
    (hlongRate : rateOrZero loaded "finra.long_maintenance" ≤ rateOrZero loaded "reg_t.initial")
    (hwithin : spent * rateOrZero loaded "reg_t.initial" ≤ worth account -
      max (exactRequirements loaded account houseRate).maintenance
        (exactRequirements loaded account houseRate).house) :
    ∃ result, computeMargin sha256 rows bought setting houseRate = .ok result ∧
      result.disposition = .pass ∧ result.calls = [] ∧ result.excessOrDeficiency.isSome := by
  subst hspent
  have hpositive : 0 ≤ purchase.quantity * purchase.price :=
    mul_nonneg h.long.le purchase.price_positive.le
  have hgross : 0 ≤ (exactRequirements loaded account houseRate).house :=
    mul_nonneg (add_nonneg marketLong_nonneg marketShort_nonneg) hhouse
  have hmaintenance := le_max_left (exactRequirements loaded account houseRate).maintenance
    (exactRequirements loaded account houseRate).house
  have hgoverning := le_max_right (exactRequirements loaded account houseRate).maintenance
    (exactRequirements loaded account houseRate).house
  -- neither requirement grows faster than at the initial rate
  have hlongCost := mul_le_mul_of_nonneg_left hlongRate hpositive
  have hhouseCost := mul_le_mul_of_nonneg_left hhouseRate hpositive
  apply computeMargin_of_met hloaded hmissing <;> rw [h.worth_eq, h.requirements_eq hold] <;>
    dsimp only <;> linarith

end Bought

end Margin

open Margin
open Arithmetic (zero)

/-! ## The published buying power -/

variable {digest : Margin.MarginResult ℚ → String} {request : CapacityRequest ℚ}
  {document : AccountCapacityDocument ℚ} {capacity : AccountCapacity ℚ}
  {result : Margin.MarginResult ℚ}

theorem termsOf_eq_ok {excess initialRate : ℚ} (h : termsOf result = .ok (excess, initialRate)) :
    result.excessOrDeficiency = some excess ∧ initialRateOf result = some initialRate ∧
      0 < initialRate := by
  rw [termsOf] at h
  cases hexcess : result.excessOrDeficiency with
  | none =>
    rw [hexcess] at h
    cases h
  | some excess =>
    rw [hexcess] at h
    dsimp only at h
    cases hinitial : initialRateOf result with
    | none =>
      rw [hinitial] at h
      cases h
    | some initialRate =>
      rw [hinitial] at h
      dsimp only at h
      split_ifs at h with hpositive
      cases h
      simp only [Arithmetic.exact_le, Arithmetic.exact_zero, decide_eq_true_eq, not_le] at hpositive
      exact ⟨rfl, rfl, hpositive⟩

/-- What is published for an account of a margin result. -/
theorem projectAccount_eq_ok (h : projectAccount digest request result = .ok capacity) :
    capacity.accountId = result.accountId ∧ ∃ excess initialRate,
      result.excessOrDeficiency = some excess ∧ initialRateOf result = some initialRate ∧
        0 < initialRate ∧ capacity.buyingPower = max excess 0 / initialRate := by
  simp only [projectAccount, Outcome.bind_eq_ok, Outcome.refuseIf_eq_ok, Prod.exists] at h
  obtain ⟨excess, initialRate, hterms, account, -, kind, -, buyingPower, hpower, -, -, h⟩ := h
  obtain ⟨hexcess, hinitial, hpositive⟩ := termsOf_eq_ok hterms
  rw [Arithmetic.exact_div hpositive.ne', Arithmetic.exact_max, Arithmetic.exact_zero] at hpower
  cases hpower
  cases h
  exact ⟨rfl, excess, initialRate, hexcess, hinitial, hpositive, rfl⟩

/-- A document publishes one capacity for an account: that of its margin result. -/
theorem buyingPower_of_published (hdocument : projectCapacity digest request = .ok document)
    (hresult : result ∈ request.marginResults) (hcapacity : capacity ∈ document.accounts)
    (hid : capacity.accountId = result.accountId) : ∃ excess initialRate,
      result.excessOrDeficiency = some excess ∧ initialRateOf result = some initialRate ∧
        0 < initialRate ∧ capacity.buyingPower = max excess 0 / initialRate := by
  simp only [projectCapacity, Outcome.bind_eq_ok] at hdocument
  obtain ⟨accounts, hcollect, _, hcheck, hdocument⟩ := hdocument
  cases hdocument
  simp only [AccountCapacityDocument.check, Outcome.bind_eq_ok, Outcome.refuseIf_eq_ok,
    not_not] at hcheck
  obtain ⟨_, _, _, _, _, _, _, _, hnodup⟩ := hcheck
  obtain ⟨own, hown, hproject⟩ := Outcome.mem_of_collect hcollect hresult
  obtain ⟨hsame, hterms⟩ := projectAccount_eq_ok hproject
  have hone : capacity = own :=
    List.inj_on_of_nodup_map hnodup hcapacity hown (hid.trans hsame.symm)
  rwa [hone]

/-- In exact numbers, a purchase within the published buying power of an account without new
trades leaves it without a call: whatever the house rate is between zero and the initial rate,
where the maintenance rate of long positions is at most the initial rate too. -/
theorem within_buying_power {sha256 : String → String} {rows : List RuleRow}
    {account bought : MarginAccount ℚ} {purchase : MarginPosition ℚ}
    {setting setting' : MarginSetting} {houseRate initialRate longRate : ℚ}
    (hunique : (rows.map RuleRow.ruleId).Nodup)
    (hold : ∀ p ∈ account.positions, p.newTrade = false)
    (hmargin : computeMargin sha256 rows account setting houseRate = .ok result)
    (hinitial : rate (loadRules sha256 rows) "reg_t.initial" = .ok initialRate)
    (hlong : rate (loadRules sha256 rows) "finra.long_maintenance" = .ok longRate)
    (hhouse : 0 ≤ houseRate) (hhouseRate : houseRate ≤ initialRate)
    (hlongRate : longRate ≤ initialRate)
    (hdocument : projectCapacity digest request = .ok document)
    (hresult : result ∈ request.marginResults) (hcapacity : capacity ∈ document.accounts)
    (hid : capacity.accountId = account.accountId) (hbought : Bought account purchase bought)
    (hwithin : purchase.quantity * purchase.price ≤ capacity.buyingPower) :
    ∃ after, computeMargin sha256 rows bought setting' houseRate = .ok after ∧
      after.disposition = .pass ∧ after.calls = [] := by
  obtain ⟨excess, tracedRate, hexcess, htraced, hpositive, hpower⟩ :=
    buyingPower_of_published hdocument hresult hcapacity
      (hid.trans (accountId_of_computeMargin hmargin).symm)
  obtain ⟨hmissing, hrules, hexcess⟩ := excess_of_computeMargin rfl hmargin hexcess
  have hloadedRate := rate_exact hmissing (show "reg_t.initial" ∈ _ by decide)
  have hloadedLong := rate_exact hmissing (show "finra.long_maintenance" ∈ _ by decide)
  cases hinitial.symm.trans hloadedRate
  cases hlong.symm.trans hloadedLong
  -- the rate of the buying power is the rate of the requirement
  have hsame : tracedRate = rateOrZero (loadRules sha256 rows) "reg_t.initial" := by
    rw [initialRateOf, hrules, Option.map_eq_some_iff] at htraced
    obtain ⟨trace, hfind, rfl⟩ := htraced
    have hid : trace.ruleId = "reg_t.initial" := by simpa using List.find?_some hfind
    have hrate := rate_of_traced hunique (List.mem_of_find?_eq_some hfind)
    rw [hid, hloadedRate] at hrate
    exact (Except.ok.inj hrate).symm
  have hcost : 0 < purchase.quantity * purchase.price :=
    mul_pos hbought.long purchase.price_positive
  rw [hpower, le_div_iff₀ hpositive, hsame] at hwithin
  have hspent : purchase.quantity * purchase.price *
      rateOrZero (loadRules sha256 rows) "reg_t.initial" ≤ excess := by
    -- without an excess there would be no buying power, and nothing bought
    obtain hmax | hmax := max_choice excess 0
    · rwa [hmax] at hwithin
    · rw [hmax] at hwithin
      exact absurd (mul_pos hcost (hsame ▸ hpositive)) (not_lt.mpr hwithin)
  obtain ⟨after, hafter, hpass, hcalls, -⟩ := hbought.computeMargin_pass hold rfl rfl hmissing
    hhouse hhouseRate hlongRate (hexcess ▸ hspent)
  exact ⟨after, hafter, hpass, hcalls⟩

/-! ### A hedged account -/

theorem price_pos_of {price : ℚ} (h : 0 < price) : Arithmetic.lt zero price = true := by simpa

/-- Ten of one issue at fifty, and four short of another at twenty. -/
def hedged : MarginAccount ℚ where
  accountId := "ACCT-40"
  cashBalance := 1000
  positions := [⟨"ISSUE-40A", 10, 50, false, by decide, price_pos_of (by norm_num)⟩,
    ⟨"ISSUE-40B", -4, 20, false, by decide, price_pos_of (by norm_num)⟩]

/-- Twenty of a third issue at a hundred, on credit. -/
def purchaseOfTwenty : MarginPosition ℚ :=
  ⟨"ISSUE-40C", 20, 100, true, by decide, price_pos_of (by norm_num)⟩

def hedgedBought : MarginAccount ℚ where
  accountId := "ACCT-40"
  cashBalance := -1000
  positions := purchaseOfTwenty :: hedged.positions

/-- No day is a business day: nothing falls due. -/
def closedCalendar : DeadlineCalendar where
  addBusinessDays := fun _ _ => .error (.valueError "closed")

def hedgedDay : Date := .of 2026 11 16

def hedgedSetting : MarginSetting := ⟨hedgedDay, closedCalendar, 4⟩

def hedgedRequest (result : Margin.MarginResult ℚ) : CapacityRequest ℚ where
  journalDigest := "sha256:" ++ String.ofList (List.replicate 64 '6')
  asOf := .midnight hedgedDay
  maximumAgeSeconds := 60
  marginResults := [result]
  accounts := [hedged]
  accountTypes := .ofPairs [("ACCT-40", .customerMargin)]
  firmParticipantId := "FIRM-40"

theorem hedged_missing : allMissing (loadRules (N := ℚ) pinnedSources marginTable) = [] := by
  decide +kernel

theorem hedged_rates :
    rateOrZero (loadRules pinnedSources marginTable) "reg_t.initial" = 1 / 2 ∧
    rateOrZero (loadRules pinnedSources marginTable) "finra.long_maintenance" = 1 / 4 ∧
    rateOrZero (loadRules pinnedSources marginTable) "finra.short_5_plus_percent" = 3 / 10 ∧
    rateOrZero (loadRules pinnedSources marginTable) "finra.short_5_plus_per_share" = 5 := by
  refine ⟨?_, ?_, ?_, ?_⟩
  · change FiniteDecimal.value ⟨false, 50, -2⟩ = _
    norm_num [FiniteDecimal.value, FiniteDecimal.toInt]
  · change FiniteDecimal.value ⟨false, 25, -2⟩ = _
    norm_num [FiniteDecimal.value, FiniteDecimal.toInt]
  · change FiniteDecimal.value ⟨false, 30, -2⟩ = _
    norm_num [FiniteDecimal.value, FiniteDecimal.toInt]
  · change FiniteDecimal.value ⟨false, 500, -2⟩ = _
    norm_num [FiniteDecimal.value, FiniteDecimal.toInt]

theorem hedged_worth : worth hedged = 1420 := by
  norm_num [worth, hedged, marketLong, marketShort]

theorem hedged_requirements :
    exactRequirements (loadRules pinnedSources marginTable) hedged (3 / 10) = ⟨0, 149, 174⟩ := by
  obtain ⟨hinitial, hlong, hpercent, hperShare⟩ := hedged_rates
  have hfive : (Arithmetic.ofDecimal 5 : ℚ) = 5 := by
    change FiniteDecimal.value ⟨false, 5, 0⟩ = 5
    norm_num [FiniteDecimal.value, FiniteDecimal.toInt]
  norm_num [exactRequirements, hedged, marketLong, marketShort, shortRequirement, hlong, hpercent,
    hperShare, hfive]

theorem hedged_bought : Bought hedged purchaseOfTwenty hedgedBought where
  new := by
    intro p hp
    simp only [hedged, List.mem_cons, List.not_mem_nil, or_false] at hp
    obtain rfl | rfl := hp <;> decide
  long := by norm_num [purchaseOfTwenty]
  marked := rfl
  accountId := rfl
  paid := by norm_num [hedgedBought, hedged, purchaseOfTwenty]
  positions := List.Perm.refl _

/-- What is published of the hedged account. -/
def hedgedCapacity : AccountCapacity ℚ where
  accountId := "ACCT-40"
  capacity := .customer
  buyingPower := 2492
  marginExcess := 1246
  marginResultDigest := ""
  positions := [("ISSUE-40A", 10), ("ISSUE-40B", -4)]

def hedgedDocument : AccountCapacityDocument ℚ where
  asOf := .midnight hedgedDay
  maximumAgeSeconds := 60
  journalDigest := "sha256:" ++ String.ofList (List.replicate 64 '6')
  firmParticipantId := "FIRM-40"
  accounts := [hedgedCapacity]

theorem hedged_published : ∃ result,
    computeMargin pinnedSources marginTable hedged hedgedSetting (3 / 10) = .ok result ∧
      projectCapacity (fun _ => "") (hedgedRequest result) = .ok hedgedDocument := by
  obtain ⟨result, hresult, -, -, hexcess⟩ := @computeMargin_of_met
    (loadRules pinnedSources marginTable) hedged hedgedSetting (3 / 10) pinnedSources marginTable
    rfl hedged_missing (by norm_num [hedged_requirements, hedged_worth])
    (by norm_num [hedged_requirements, hedged_worth])
    (by norm_num [hedged_requirements, hedged_worth])
  obtain ⟨excess, hexcess⟩ := Option.isSome_iff_exists.mp hexcess
  obtain ⟨-, hrules, hvalue⟩ := excess_of_computeMargin rfl hresult hexcess
  have hexcess' : excess = 1246 := by
    rw [hvalue, hedged_requirements, hedged_worth]
    norm_num
  have hinitial : initialRateOf result = some (1 / 2) := by
    rw [initialRateOf, hrules]
    exact congrArg some hedged_rates.1
  have hterms : termsOf result = .ok (1246, 1 / 2) := by
    simp only [termsOf, hexcess, hexcess', hinitial]
    norm_num
  have haccount : accountOf [hedged] result.accountId = .ok hedged := by
    rw [accountId_of_computeMargin hresult]
    rfl
  have hkind : capacityOf (hedgedRequest result).accountTypes result.accountId = .ok .customer := by
    rw [accountId_of_computeMargin hresult]
    rfl
  have hproject : projectAccount (fun _ => "") (hedgedRequest result) result =
      .ok hedgedCapacity := by
    have hpower : Arithmetic.div (max (1246 : ℚ) 0) (1 / 2) = .ok 2492 := by
      rw [Arithmetic.exact_div (by norm_num)]
      norm_num
    simp only [projectAccount, hterms, Outcome.ok_bind, hkind, Arithmetic.exact_max,
      Arithmetic.exact_zero, hpower]
    rw [show (hedgedRequest result).accounts = [hedged] from rfl, haccount]
    simp only [Outcome.ok_bind, accountId_of_computeMargin hresult]
    norm_num [Outcome.refuseIf, hedgedCapacity, hedged]
  have hcheck : hedgedDocument.check = .ok () := by
    simp only [AccountCapacityDocument.check, Outcome.bind_eq_ok, Outcome.refuseIf_eq_ok]
    exact ⟨(), by decide, (), by decide +kernel, (), by decide, (), by decide, by decide⟩
  refine ⟨result, hresult, ?_⟩
  simp only [projectCapacity, show (hedgedRequest result).marginResults = [result] from rfl,
    Outcome.collect, hproject, Outcome.ok_bind]
  exact Outcome.bind_eq_ok.mpr ⟨(), hcheck, rfl⟩

/-- Twenty at a hundred are within the buying power of the hedged account. -/
theorem within_buying_power_hedged :
    ∃ after, computeMargin pinnedSources marginTable hedgedBought hedgedSetting (3 / 10) =
        .ok after ∧ after.disposition = .pass ∧ after.calls = [] := by
  obtain ⟨result, hresult, hdocument⟩ := hedged_published
  have hinitial := rate_exact hedged_missing (show "reg_t.initial" ∈ _ by decide)
  have hlong := rate_exact hedged_missing (show "finra.long_maintenance" ∈ _ by decide)
  rw [hedged_rates.1] at hinitial
  rw [hedged_rates.2.1] at hlong
  refine within_buying_power marginTable_unique ?_ hresult hinitial hlong (by norm_num)
    (by norm_num) (by norm_num) hdocument (List.mem_singleton_self _)
    (List.mem_singleton_self hedgedCapacity) rfl hedged_bought ?_
  · intro p hp
    simp only [hedged, List.mem_cons, List.not_mem_nil, or_false] at hp
    obtain rfl | rfl := hp <;> rfl
  · norm_num [purchaseOfTwenty, hedgedCapacity]

end Atreides
