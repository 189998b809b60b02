import Mathlib.Data.List.Sort
import Atreides.Margin.Lots

/-!
# One margin result for one set of holdings

The margin engine adds up over the positions and then decides on the totals. Where no sum of the
positions is rounded, the totals are one for any order of the positions and any lots they are held
in, and so is all that is decided: the engine raises the same exception, or returns a result with
the same figures, requirements and calls. Only the advice on what to sell names the positions one
by one, the largest first, and those of one value in the order of the account.

## Main definitions

* `SameResult` — two results of one content, up to how the advice orders the positions
* `ranked` — the positions in the order of the advice

## Main results

* `computeMargin_agree` — the engine on the same holdings, in another order and in other lots
* `ranked_eq` — the order of the account does not matter where no two values are equal
-/

namespace Atreides

namespace Margin

open Arithmetic (zero ofDecimal)
open FiniteDecimal (Same)
open Outcome (Agree)

/-! ## Results of one content -/

/-- Two calls for one amount. -/
structure SameCall (c d : MarginCall FiniteDecimal) : Prop where
  kind : c.kind = d.kind
  amount : Same c.amount d.amount
  dueDate : c.dueDate = d.dueDate
  authority : c.authority = d.authority
  duePeriodAuthority : c.duePeriodAuthority = d.duePeriodAuthority

/-- Two recommendations for one amount, whose positions are related. -/
structure SameAdvice (S : List String → List String → Prop)
    (c d : LiquidationRecommendation FiniteDecimal) : Prop where
  positions : S c.positions d.positions
  estimatedProceeds : Same c.estimatedProceeds d.estimatedProceeds
  reason : c.reason = d.reason

/-- Two results of one content, up to the positions of the advice. -/
structure SameResult (S : List String → List String → Prop)
    (r s : MarginResult FiniteDecimal) : Prop where
  accountId : r.accountId = s.accountId
  disposition : r.disposition = s.disposition
  longMarketValue : Same r.longMarketValue s.longMarketValue
  shortMarketValue : Same r.shortMarketValue s.shortMarketValue
  debitBalance : Same r.debitBalance s.debitBalance
  creditBalance : Same r.creditBalance s.creditBalance
  equity : Same r.equity s.equity
  regTInitialRequirement : Option.Rel Same r.regTInitialRequirement s.regTInitialRequirement
  finraMaintenanceRequirement :
    Option.Rel Same r.finraMaintenanceRequirement s.finraMaintenanceRequirement
  houseRequirement : Option.Rel Same r.houseRequirement s.houseRequirement
  excessOrDeficiency : Option.Rel Same r.excessOrDeficiency s.excessOrDeficiency
  calls : List.Forall₂ SameCall r.calls s.calls
  liquidation : Option.Rel (SameAdvice S) r.liquidation s.liquidation
  rulesUsed : r.rulesUsed = s.rulesUsed
  missingRules : r.missingRules = s.missingRules

section Same

variable {a a' b b' : FiniteDecimal}

theorem same_lt (ha : Same a a') (hb : Same b b') : Arithmetic.lt a b = Arithmetic.lt a' b' :=
  ha.lt_eq hb

theorem same_max (ha : Same a a') (hb : Same b b') :
    Same (Arithmetic.max a b) (Arithmetic.max a' b') := by
  rw [Same, value_max, value_max, ha, hb]

theorem same_min (ha : Same a a') (hb : Same b b') :
    Same (Arithmetic.min a b) (Arithmetic.min a' b') := by
  rw [Same, value_min, value_min, ha, hb]

theorem same_add (ha : Same a a') (hb : Same b b') :
    Agree Same (Arithmetic.add a b) (Arithmetic.add a' b') := ha.add hb

theorem same_sub (ha : Same a a') (hb : Same b b') :
    Agree Same (Arithmetic.sub a b) (Arithmetic.sub a' b') := ha.sub hb

theorem same_mul (ha : Same a a') (hb : Same b b') :
    Agree Same (Arithmetic.mul a b) (Arithmetic.mul a' b') := ha.mul hb

end Same

/-! ## The order of the advice -/

/-- The positions with their absolute values, the largest first. -/
def ranked (positions : List (MarginPosition FiniteDecimal)) : List (ℚ × String) :=
  (positions.map fun p => (|p.quantity.value * p.price.value|, p.issue)).insertionSort
    fun a b => b.1 ≤ a.1

section Advice

variable {loaded : LoadedRules FiniteDecimal}
  {positions other : List (MarginPosition FiniteDecimal)}

/-- The value of a position, long or short, is held where neither side's is rounded. -/
theorem represents_product {p : MarginPosition FiniteDecimal}
    (hlong : DecimalContext.ambient.Represents (longTerm p))
    (hshort : DecimalContext.ambient.Represents (shortTerm p)) :
    DecimalContext.ambient.Represents (p.quantity.value * p.price.value) := by
  obtain hle | hge := le_total p.quantity.value 0
  · have hterm : p.quantity.value * p.price.value = -shortTerm p := by
      rw [shortTerm, shortShares, max_eq_left (neg_nonneg.mpr hle), neg_mul, neg_neg]
    rw [hterm]
    exact hshort.neg
  · have hterm : p.quantity.value * p.price.value = longTerm p := by
      rw [longTerm, longShares, max_eq_left hge]
    rwa [hterm]

/-- The absolute value of a position is exact where its product is. -/
theorem absoluteValue_unrounded {p : MarginPosition FiniteDecimal}
    (h : DecimalContext.ambient.Represents (p.quantity.value * p.price.value)) :
    ∃ v, absoluteValue p = .ok (v, p.issue) ∧ v.value = |p.quantity.value * p.price.value| := by
  obtain ⟨value, hmul, hvalue⟩ := FiniteDecimal.mul_exact_iff.mpr h
  rw [← hvalue] at h ⊢
  obtain ⟨v, habs, hv⟩ := FiniteDecimal.abs_exact_iff.mpr h.abs
  refine ⟨v, ?_, hv⟩
  exact Outcome.bind_eq_ok.mpr ⟨value, hmul, Outcome.bind_eq_ok.mpr ⟨v, habs, rfl⟩⟩

/-- The values that the advice sorts by are those of the positions. -/
theorem collect_unrounded (h : ∀ p ∈ positions,
      DecimalContext.ambient.Represents (p.quantity.value * p.price.value)) :
    ∃ valued, Outcome.collect absoluteValue positions = .ok valued ∧
      valued.map (fun v => (v.1.value, v.2)) =
        positions.map fun p => (|p.quantity.value * p.price.value|, p.issue) := by
  induction positions with
  | nil => exact ⟨[], rfl, rfl⟩
  | cons p rest ih =>
    obtain ⟨v, hv, hvalue⟩ := absoluteValue_unrounded (h p List.mem_cons_self)
    obtain ⟨valued, hvalued, hmap⟩ := ih fun q hq => h q (List.mem_cons_of_mem p hq)
    refine ⟨(v, p.issue) :: valued, Outcome.collect_cons_eq_ok.mpr ⟨_, _, hv, hvalued, rfl⟩, ?_⟩
    rw [List.map_cons, List.map_cons, hmap, hvalue]

/-- The advice orders the positions by their absolute values. -/
theorem advised_eq {valued : List (FiniteDecimal × String)}
    (hmap : valued.map (fun v => (v.1.value, v.2)) =
      positions.map fun p => (|p.quantity.value * p.price.value|, p.issue)) :
    (valued.insertionSort fun a b => Arithmetic.le b.1 a.1 = true).map Prod.snd =
      (ranked positions).map Prod.snd := by
  have hsort : (valued.insertionSort fun a b => Arithmetic.le b.1 a.1 = true).map
      (fun v => (v.1.value, v.2)) = ranked positions := by
    rw [ranked, ← hmap]
    apply List.map_insertionSort
    intro a _ b _
    rw [Arithmetic.le, lt_eq_decide, Bool.not_eq_true', decide_eq_false_iff_not, not_lt]
  rw [← hsort, List.map_map]
  rfl

/-- The advice names the issues of the account. -/
theorem ranked_perm : ((ranked positions).map Prod.snd).Perm
    (positions.map MarginPosition.issue) := by
  have h := (List.perm_insertionSort (fun a b : ℚ × String => b.1 ≤ a.1)
    (positions.map fun p => (|p.quantity.value * p.price.value|, p.issue))).map Prod.snd
  rwa [List.map_map] at h

/-- Where no two positions have one absolute value, the advice does not depend on the order of
the account. -/
theorem ranked_eq (hperm : positions.Perm other)
    (hdistinct : (positions.map fun p => |p.quantity.value * p.price.value|).Nodup) :
    ranked positions = ranked other := by
  have hsorted : ∀ ps : List (MarginPosition FiniteDecimal),
      (ranked ps).Pairwise fun a b => b.1 ≤ a.1 :=
    fun ps => List.pairwise_insertionSort _ _
  have hsame : (ranked positions).Perm (ranked other) :=
    (List.perm_insertionSort _ _).trans
      ((hperm.map _).trans (List.perm_insertionSort _ _).symm)
  have hkeys : ((ranked positions).map Prod.fst).Nodup := by
    have h := (List.perm_insertionSort (fun a b : ℚ × String => b.1 ≤ a.1)
      (positions.map fun p => (|p.quantity.value * p.price.value|, p.issue))).map Prod.fst
    rw [List.map_map] at h
    exact h.nodup_iff.mpr hdistinct
  apply hsame.eq_of_pairwise _ (hsorted positions) (hsorted other)
  intro a b ha hb hab hba
  exact List.inj_on_of_nodup_map hkeys ha (hsame.mem_iff.mpr hb) (le_antisymm hba hab)

end Advice
/-! ## The engine on totals -/

section Engine

variable {loaded : LoadedRules FiniteDecimal} {account other : MarginAccount FiniteDecimal}
  {setting : MarginSetting} {houseRate : FiniteDecimal}

/-- Figures of one content. -/
structure SameFigures (f g : Figures FiniteDecimal) : Prop where
  long : Same f.long g.long
  short : Same f.short g.short
  debit : Same f.debit g.debit
  credit : Same f.credit g.credit
  equity : Same f.equity g.equity

/-- Requirements of one content. -/
structure SameRequirements (f g : Requirements FiniteDecimal) : Prop where
  initial : Same f.initial g.initial
  maintenance : Same f.maintenance g.maintenance
  house : Same f.house g.house

/-- The holdings of an account as another holds them, with no more cash and no less. -/
structure SameHoldings (loaded : LoadedRules FiniteDecimal)
    (account other : MarginAccount FiniteDecimal) : Prop where
  accountId : account.accountId = other.accountId
  cashBalance : account.cashBalance = other.cashBalance
  relotted : Relotted account.positions other.positions
  unrounded : Unrounded loaded account.positions
  unrounded' : Unrounded loaded other.positions

namespace SameHoldings

variable (h : SameHoldings loaded account other)
include h

theorem figures_agree : Agree (fun f g => SameFigures f g ∧
      f.long.value = (account.positions.map longTerm).sum) (figures account) (figures other) := by
  obtain ⟨long, hlong, hlongValue⟩ := longValue_unrounded h.unrounded.long
  obtain ⟨long', hlong', hlongValue'⟩ := longValue_unrounded h.unrounded'.long
  obtain ⟨short, hshort, hshortValue⟩ := shortValue_unrounded h.unrounded.shares h.unrounded.short
  obtain ⟨short', hshort', hshortValue'⟩ :=
    shortValue_unrounded h.unrounded'.shares h.unrounded'.short
  have hL : Same long long' := by
    rw [Same, hlongValue, hlongValue', h.relotted.sum_longTerm]
  have hS : Same short short' := by
    rw [Same, hshortValue, hshortValue', h.relotted.sum_shortTerm]
  simp only [figures, hlong, hlong', hshort, hshort', h.cashBalance, Outcome.ok_bind]
  refine (Agree.refl Same.refl _).bind fun owed owed' howed => ?_
  have hD := same_max howed (Same.refl zero)
  have hC := Same.refl (Arithmetic.max other.cashBalance zero)
  refine (same_add hL hC).bind fun assets assets' hassets => ?_
  refine (same_sub hassets hS).bind fun covered covered' hcovered => ?_
  refine (same_sub hcovered hD).bind fun equity equity' hequity => ?_
  exact Agree.ok ⟨⟨hL, hS, hD, hC, hequity⟩, hlongValue⟩

/-- What was newly traded is worth the same. -/
theorem newTrades_same :
    ∃ long short long' short',
      longValue (account.positions.filter MarginPosition.newTrade) = .ok long ∧
      shortValue (account.positions.filter MarginPosition.newTrade) = .ok short ∧
      longValue (other.positions.filter MarginPosition.newTrade) = .ok long' ∧
      shortValue (other.positions.filter MarginPosition.newTrade) = .ok short' ∧
      Same long long' ∧ Same short short' := by
  have hnew : ∀ ps : List (MarginPosition FiniteDecimal), Unrounded loaded ps →
      ∃ long short, longValue (ps.filter MarginPosition.newTrade) = .ok long ∧
        shortValue (ps.filter MarginPosition.newTrade) = .ok short ∧
        long.value = ((ps.filter MarginPosition.newTrade).map longTerm).sum ∧
        short.value = ((ps.filter MarginPosition.newTrade).map shortTerm).sum := by
    intro ps hps
    have hsub : (ps.filter MarginPosition.newTrade).Sublist ps := List.filter_sublist
    obtain ⟨long, hlong, hvalue⟩ := longValue_unrounded (hps.long.sublist (hsub.map longTerm))
    obtain ⟨short, hshort, hvalue'⟩ := shortValue_unrounded
      (fun p hp => hps.shares p (hsub.subset hp)) (hps.short.sublist (hsub.map shortTerm))
    exact ⟨long, short, hlong, hshort, hvalue, hvalue'⟩
  obtain ⟨long, short, hlong, hshort, hL, hS⟩ := hnew _ h.unrounded
  obtain ⟨long', short', hlong', hshort', hL', hS'⟩ := hnew _ h.unrounded'
  refine ⟨long, short, long', short', hlong, hshort, hlong', hshort', ?_, ?_⟩
  · rw [Same, hL, hL', h.relotted.newTrades.sum_longTerm]
  · rw [Same, hS, hS', h.relotted.newTrades.sum_shortTerm]

/-- The maintenance of the positions is the same, from that of the long ones. -/
theorem maintenance_same (hmissing : allMissing loaded = []) {long long' : FiniteDecimal}
    (hlong : long.value = (account.positions.map longTerm).sum) (hsame : Same long long')
    {longRate : FiniteDecimal} (hrate : longRate.value = rateValue loaded "finra.long_maintenance") :
    ∃ ofLong total ofLong' total', Arithmetic.mul long longRate = .ok ofLong ∧
      Outcome.foldSteps (addShortMaintenance loaded) ofLong account.positions = .ok total ∧
      Arithmetic.mul long' longRate = .ok ofLong' ∧
      Outcome.foldSteps (addShortMaintenance loaded) ofLong' other.positions = .ok total' ∧
      Same total total' := by
  have hexact : long.value * longRate.value =
      (account.positions.map longTerm).sum * rateValue loaded "finra.long_maintenance" := by
    rw [hlong, hrate]
  have hfits : DecimalContext.ambient.Represents (long.value * longRate.value) := by
    rw [hexact]
    exact h.unrounded.maintenance.of_mem List.mem_cons_self
  obtain ⟨ofLong, hmul, hvalue⟩ := FiniteDecimal.mul_exact_iff.mpr hfits
  obtain ⟨ofLong', hmul', hvalue'⟩ := FiniteDecimal.mul_exact_iff.mpr (hsame ▸ hfits)
  obtain ⟨total, htotal, hsum⟩ := maintenance_unrounded hmissing h.unrounded (hvalue.trans hexact)
  have hexact' : ofLong'.value = (other.positions.map longTerm).sum *
      rateValue loaded "finra.long_maintenance" := by
    rw [hvalue', ← hsame, hexact, h.relotted.sum_longTerm]
  obtain ⟨total', htotal', hsum'⟩ := maintenance_unrounded hmissing h.unrounded' hexact'
  refine ⟨ofLong, total, ofLong', total', hmul, htotal, hmul', htotal', ?_⟩
  rw [Same, hsum, hsum', hvalue, hvalue', ← hsame, h.relotted.sum_maintenanceTerm]

theorem requirements_agree (hmissing : allMissing loaded = []) {f g : Figures FiniteDecimal}
    (hfigures : SameFigures f g) (hlong : f.long.value = (account.positions.map longTerm).sum) :
    Agree SameRequirements (requirements loaded account f houseRate)
      (requirements loaded other g houseRate) := by
  obtain ⟨long, short, long', short', hl, hs, hl', hs', hL, hS⟩ := h.newTrades_same
  obtain ⟨longRate, hlongRate, hrate⟩ :=
    rate_value hmissing (show "finra.long_maintenance" ∈ _ by decide)
  obtain ⟨ofLong, total, ofLong', total', hmul, htotal, hmul', htotal', hM⟩ :=
    h.maintenance_same hmissing hlong hfigures.long hrate
  simp only [requirements, hl, hs, hl', hs', hlongRate, hmul, htotal, hmul', htotal',
    Outcome.ok_bind]
  refine (same_add hL hS).bind fun bought bought' hbought => ?_
  refine (Agree.refl Same.refl _).bind fun initialRate initialRate' hinitialRate => ?_
  refine (same_mul hbought hinitialRate).bind fun initial initial' hinitial => ?_
  refine (same_add hfigures.long hfigures.short).bind fun gross gross' hgross => ?_
  refine (same_mul hgross (Same.refl houseRate)).bind fun house house' hhouse => ?_
  exact Agree.ok ⟨hinitial, hM, hhouse⟩

end SameHoldings

/-! ### Calls on totals -/

variable {a a' b b' c c' : FiniteDecimal}

theorem regTCall_agree (ha : Same a a') (hb : Same b b') :
    Agree (List.Forall₂ SameCall) (regTCall loaded setting a b) (regTCall loaded setting a' b') := by
  have hfloor := same_max hb (Same.refl zero)
  rw [regTCall, regTCall, same_lt hfloor ha]
  split_ifs
  · refine (same_sub ha hfloor).bind fun amount amount' hamount => ?_
    refine (Agree.refl (fun _ => Eq.refl _) _).bind fun days days' hdays => ?_
    subst hdays
    refine (Agree.refl (fun _ => Eq.refl _) _).bind fun due due' hdue => ?_
    subst hdue
    exact Agree.ok (List.Forall₂.cons ⟨rfl, hamount, rfl, rfl, rfl⟩ List.Forall₂.nil)
  · exact Agree.ok List.Forall₂.nil

theorem maintenanceCall_agree (ha : Same a a') (hb : Same b b') :
    Agree (List.Forall₂ SameCall) (maintenanceCall setting a b) (maintenanceCall setting a' b') := by
  rw [maintenanceCall, maintenanceCall, same_lt hb ha]
  split_ifs
  · refine (same_sub ha hb).bind fun amount amount' hamount => ?_
    refine (Agree.refl (fun _ => Eq.refl _) _).bind fun due due' hdue => ?_
    subst hdue
    exact Agree.ok (List.Forall₂.cons ⟨rfl, hamount, rfl, rfl, rfl⟩ List.Forall₂.nil)
  · exact Agree.ok List.Forall₂.nil

theorem houseCall_agree (ha : Same a a') (hb : Same b b') (hc : Same c c') :
    Agree (List.Forall₂ SameCall) (houseCall a b c) (houseCall a' b' c') := by
  rw [houseCall, houseCall, same_lt ha hb, same_lt hc hb]
  split_ifs
  · refine (same_sub hb hc).bind fun amount amount' hamount => ?_
    exact Agree.ok (List.Forall₂.cons ⟨rfl, hamount, rfl, rfl, rfl⟩ List.Forall₂.nil)
  · exact Agree.ok List.Forall₂.nil

theorem SameHoldings.liquidationOf_agree (h : SameHoldings loaded account other)
    {S : List String → List String → Prop}
    (hS : S ((ranked account.positions).map Prod.snd) ((ranked other.positions).map Prod.snd))
    (ha : Same a a') (hb : Same b b') :
    Agree (Option.Rel (SameAdvice S)) (liquidationOf account a b) (liquidationOf other a' b') := by
  have hvalued : ∀ ps : List (MarginPosition FiniteDecimal), Unrounded loaded ps →
      ∃ valued, Outcome.collect absoluteValue ps = .ok valued ∧
        (valued.insertionSort fun x y => Arithmetic.le y.1 x.1 = true).map Prod.snd =
          (ranked ps).map Prod.snd := by
    intro ps hps
    obtain ⟨valued, hcollect, hmap⟩ := collect_unrounded fun p hp => represents_product
      (hps.long.of_mem (List.mem_map_of_mem hp)) (hps.short.of_mem (List.mem_map_of_mem hp))
    exact ⟨valued, hcollect, advised_eq hmap⟩
  obtain ⟨valued, hcollect, hadvised⟩ := hvalued _ h.unrounded
  obtain ⟨valued', hcollect', hadvised'⟩ := hvalued _ h.unrounded'
  rw [liquidationOf, liquidationOf, same_lt (Same.refl zero) hb, hcollect, hcollect']
  split_ifs
  · refine Agree.ok (Option.Rel.some ⟨?_, same_min ha hb, rfl⟩)
    rw [hadvised, hadvised']
    exact hS
  · exact Agree.ok Option.Rel.none

/-! ### The engine -/

/-- On the same holdings, in another order and in other lots, the engine raises the same exception
or returns a result of the same content. -/
theorem computeMargin_agree {sha256 : String → String} {rows : List RuleRow}
    (h : SameHoldings (loadRules sha256 rows) account other) {S : List String → List String → Prop}
    (hS : S ((ranked account.positions).map Prod.snd) ((ranked other.positions).map Prod.snd)) :
    Agree (SameResult S) (computeMargin sha256 rows account setting houseRate)
      (computeMargin sha256 rows other setting houseRate) := by
  rw [computeMargin, computeMargin]
  refine h.figures_agree.bind fun f g hfigures => ?_
  obtain ⟨hfigures, hlong⟩ := hfigures
  split_ifs with hmissing
  · exact Agree.ok ⟨h.accountId, rfl, hfigures.long, hfigures.short, hfigures.debit,
      hfigures.credit, hfigures.equity, Option.Rel.none, Option.Rel.none, Option.Rel.none,
      Option.Rel.none, List.Forall₂.nil, Option.Rel.none, rfl, rfl⟩
  rw [not_not] at hmissing
  rw [decided, decided]
  refine (h.requirements_agree hmissing hfigures hlong).bind fun required required' hrequired => ?_
  have hgoverning := same_max hrequired.maintenance hrequired.house
  refine (same_sub hgoverning hfigures.equity).bind fun deficiency deficiency' hdeficiency => ?_
  refine (regTCall_agree hrequired.initial hfigures.equity).bind fun regT regT' hregT => ?_
  refine (maintenanceCall_agree hrequired.maintenance hfigures.equity).bind
    fun maintenance maintenance' hmaintenance => ?_
  refine (houseCall_agree hrequired.maintenance hrequired.house hfigures.equity).bind
    fun house house' hhouse => ?_
  refine (h.liquidationOf_agree hS hfigures.long hdeficiency).bind
    fun liquidation liquidation' hliquidation => ?_
  refine (same_sub hfigures.equity hgoverning).bind fun excess excess' hexcess => ?_
  refine Agree.ok ⟨h.accountId, ?_, hfigures.long, hfigures.short, hfigures.debit,
    hfigures.credit, hfigures.equity, Option.Rel.some hrequired.initial,
    Option.Rel.some hrequired.maintenance, Option.Rel.some hrequired.house,
    Option.Rel.some hexcess, ?_, hliquidation, rfl, rfl⟩
  · rw [same_lt (Same.refl zero) hdeficiency]
  · exact List.rel_append (List.rel_append hregT hmaintenance) hhouse

end Engine

end Margin

end Atreides
