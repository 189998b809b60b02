import Atreides.CustomerProtection.HaircutRuns
import Atreides.CustomerProtection.NetCapital
import Atreides.Foundation.Decimal.Division
import Atreides.Foundation.Raises

/-!
# A net capital computation fails safe

A figure is unknown exactly where one that it is made of is. A computation that passes has read
every rule and every input, has a haircut for every position, and reports net capital that is not
below the requirement it reports, although the ratio it divides out is rounded and the test of the
standard multiplies instead.

## Main definitions

* `NetCapitalFigures.Follow`, `NetCapitalFigures.Complete` — what is known of the figures
* `RuleTable.StatesCapital` — the rules state usable figures

## Main results

* `assures_netCapitalFigures` — what is known of each figure, by how much was there
* `net_capital_fails_safe` — what a result of each disposition says
-/

namespace Atreides

namespace CustomerProtection

open DecimalContext (ambient)
open Reading

/-! ## What a table states -/

/-- The figure rules state figures, the ceilings on indebtedness are positive, and the early
warning comes before the requirement is missed. -/
structure RuleTable.StatesCapital (table : RuleTable) : Prop where
  figures : table.StatesFigures netCapitalFigureRules
  ceiling : ∀ v ∈ table.figure aiCeiling, 0 < v.value
  first_year : ∀ v ∈ table.figure aiCeilingFirstYear, 0 < v.value
  warned_before : ∀ v ∈ table.figure warnMinimum, 1 ≤ v.value

section Parts

variable {table : RuleTable} {inputs : NetCapitalInputs}

/-! ## Tentative net capital -/

theorem assures_adjustmentAmount (name : String) (adjustment : CapitalAdjustment) :
    Assures table (adjustmentAmount name adjustment) fun ev v =>
      (v = none ↔ adjustment.amount = none) ∧ (ev = .complete → v ≠ none) := by
  apply Ensures.bind Assures.requireInput
  intro _
  apply Ensures.pure
  intro ev hsupplied
  simpa using hsupplied

theorem assures_totalAdjustments (adjustments : List CapitalAdjustment) (name : String) :
    Assures table (totalAdjustments adjustments name) fun ev v =>
      (v = none ↔ ∃ a ∈ adjustments, a.amount = none) ∧ (ev = .complete → v ≠ none) := by
  apply Ensures.bind (Ensures.collect fun a _ => assures_adjustmentAmount name a)
  intro amounts
  apply (Assures.total amounts).weaken
  intro ev v ⟨hnone, _⟩ hamounts
  have hmem : none ∈ amounts ↔ ∃ a ∈ adjustments, a.amount = none := by
    clear * - hamounts
    induction hamounts with
    | nil => simp
    | cons hhead _ ih => rw [List.mem_cons, List.exists_mem_cons_iff, ih, eq_comm, hhead.1]
  refine ⟨hnone.trans hmem, fun hev hv => ?_⟩
  obtain ⟨a, -, hamount⟩ := exists_of_forall₂_mem hamounts (hnone.mp hv)
  exact hamount.2 hev rfl

theorem assures_tentativeOf (netWorth additions deductions : Option FiniteDecimal) :
    Assures table (tentativeOf netWorth additions deductions) fun _ v =>
      v = none ↔ netWorth = none ∨ additions = none ∨ deductions = none := by
  rcases netWorth with _ | netWorth
  · exact Ensures.pure fun _ => by simp
  rcases additions with _ | additions
  · exact Ensures.pure fun _ => by simp
  rcases deductions with _ | deductions
  · exact Ensures.pure fun _ => by simp
  apply Ensures.bind (Assures.arithmetic (Assures.overflowOnly_add _ _))
  intro grossed
  apply Ensures.bind (Assures.arithmetic (Assures.overflowOnly_sub _ _))
  intro tentative
  exact Ensures.pure fun _ _ _ => by simp

/-! ## Provisions -/

theorem assures_ruleOut (p : Provision) : Assures table (ruleOut p) fun ev ruledOut =>
    (ruledOut = true ↔ p.stated = some false) ∧ (ev ≠ .any → p.stated ≠ some true) ∧
      (ev = .complete → p.stated = some false) := by
  rw [ruleOut]
  split
  · next hstated =>
    apply Ensures.bind Assures.missInput
    intro _
    exact Ensures.pure fun ev hev => by simp [hstated, hev]
  · next hstated =>
    apply Ensures.bind Assures.flag
    intro _
    apply Ensures.pure
    intro ev hev
    subst hev
    simp [hstated]
  · next hstated => exact Ensures.pure fun ev => by simp [hstated]

/-- None of the provisions applies, as far as the firm states. -/
def NetCapitalInputs.RuledOut (inputs : NetCapitalInputs) : Prop :=
  ∀ p ∈ governmentProvisions inputs, p.stated = some false

theorem assures_governmentProvisionsRuledOut :
    Assures table (governmentProvisionsRuledOut inputs) fun ev ruledOut =>
      (ruledOut = true ↔ inputs.RuledOut) ∧
        (ev ≠ .any → ∀ p ∈ governmentProvisions inputs, p.stated ≠ some true) ∧
        (ev = .complete → inputs.RuledOut) := by
  apply Ensures.bind (Ensures.collect fun p _ => assures_ruleOut p)
  intro ruledOut
  apply Ensures.pure
  intro ev
  rw [NetCapitalInputs.RuledOut]
  generalize governmentProvisions inputs = provisions
  intro hruled
  induction hruled with
  | nil => simp
  | cons hhead _ ih =>
    rw [List.all_cons, Bool.and_eq_true, List.forall_mem_cons, List.forall_mem_cons, ← ih.1]
    exact ⟨and_congr hhead.1 Iff.rfl, fun hev => ⟨hhead.2.1 hev, ih.2.1 hev⟩,
      fun hev => ⟨hhead.2.2 hev, ih.1.mpr (ih.2.2 hev)⟩⟩

/-! ## Government haircuts -/

theorem mem_bandRules {key : BandKey} (hkey : key ∈ bandKeys) :
    bandRate key ∈ netCapitalFigureRules ∧ bandUpper key ∈ netCapitalFigureRules := by
  constructor
  · exact List.mem_append_left _ (List.mem_append_right _ (List.mem_map_of_mem hkey))
  · exact List.mem_append_right _ (List.mem_map_of_mem hkey)

variable (hstates : table.StatesFigures netCapitalFigureRules)

include hstates in
theorem assures_readBand {key : BandKey} (hkey : key ∈ bandKeys) :
    Assures table (readBand key) fun ev b => b = table.band key ∧
      (ev ≠ .any → table.figure (bandRate key) ≠ none ∧
        (key ≠ lastBand → table.figure (bandUpper key) ≠ none)) := by
  have hupper : Assures table (readUpper key) fun ev upper => upper = (table.band key).upper ∧
      (ev ≠ .any → key ≠ lastBand → table.figure (bandUpper key) ≠ none) := by
    rw [readUpper, RuleTable.band]
    by_cases hlast : key = lastBand
    · simp only [if_pos hlast]
      exact Ensures.pure fun ev => ⟨rfl, fun _ hne => absurd hlast hne⟩
    · simp only [if_neg hlast]
      apply (Assures.value (hstates _ (mem_bandRules hkey).2)).weaken
      rintro ev v ⟨hknown, hv⟩
      exact ⟨hv, fun hev _ => hv ▸ hknown hev⟩
  apply Ensures.bind hupper
  intro upper
  apply Ensures.bind (Assures.value (hstates _ (mem_bandRules hkey).1))
  intro rate
  apply Ensures.pure
  rintro ev ⟨hrate, hrateEq⟩ ⟨hupperEq, hupper⟩
  refine ⟨?_, fun hev => ⟨hrateEq ▸ hrate hev, hupper hev⟩⟩
  rw [hrateEq, hupperEq]
  rfl

include hstates in
theorem assures_readGovernmentBands : Assures table readGovernmentBands fun ev bands =>
    bands = table.bands ∧ (ev ≠ .any → maturityBands table.bands ≠ none) := by
  apply (Ensures.collect fun key hkey => assures_readBand hstates hkey).weaken
  intro ev bands hbands
  constructor
  · rw [RuleTable.bands]
    generalize bandKeys = keys at hbands
    induction hbands with
    | nil => rfl
    | cons hhead _ ih => rw [List.map_cons, hhead.1, ih]
  · intro hev
    have hfigures : ∀ key ∈ bandKeys, table.figure (bandRate key) ≠ none ∧
        (key ≠ lastBand → table.figure (bandUpper key) ≠ none) := by
      intro key hkey
      obtain ⟨b, -, hb⟩ := hbands.exists_of_mem_left hkey
      exact hb.2 hev
    obtain ⟨m, hm⟩ := exists_maturityBands (fun key hkey => (hfigures key hkey).1)
      fun key hkey => (hfigures key hkey).2
    simp [hm]

include hstates in
theorem assures_readOffset (election : GovernmentElection) :
    Assures table (readOffset election) fun ev offset => ev ≠ .any → offset ≠ none := by
  cases election with
  | category =>
    exact (Assures.value (hstates _ (by simp [netCapitalFigureRules]))).weaken fun _ _ h => h.1
  | subcategory => exact Ensures.pure fun _ _ => by simp

section Raising

variable {m : MaturityBands}

theorem raisesOnly_fix {ctx : DecimalContext} {d : FiniteDecimal} :
    Outcome.RaisesOnly (· = .overflow) (ctx.fix d) :=
  fun _ h => DecimalContext.fix_error h

theorem raisesOnly_enter (net : Dict BandKey FiniteDecimal) (p : Position) :
    Outcome.RaisesOnly (· = .overflow) (m.enter net p) := by
  apply Outcome.RaisesOnly.bind raisesOnly_fix
  intro withLong _
  apply Outcome.RaisesOnly.bind raisesOnly_fix
  intro withShort _
  exact Outcome.RaisesOnly.ok _

theorem assures_netPositions (net : Dict BandKey FiniteDecimal) (xs : List Position) :
    Assures table (m.netPositions net xs) fun ev _ =>
      ev = .complete → ∀ p ∈ xs, p.monthsToMaturity ≠ none := by
  induction xs generalizing net with
  | nil => exact Ensures.pure fun _ _ => by simp
  | cons p xs ih =>
    have hstep : Assures table (m.netPosition net p) fun ev _ =>
        ev = .complete → p.monthsToMaturity ≠ none := by
      rw [MaturityBands.netPosition]
      split_ifs with hmonths
      · apply Ensures.bind Assures.missInput
        intro _
        exact Ensures.pure fun ev hev hcomplete => absurd hcomplete hev
      · apply Ensures.ofOutcome
        · intro _ _ ev _ hnone
          exact hmonths (by simp [hnone])
        · exact fun e he => Or.inl (raisesOnly_enter net p e he)
    apply Ensures.bind hstep
    intro net'
    apply (ih net').weaken
    intro ev _ hrest hfirst hcomplete
    exact List.forall_mem_cons.mpr ⟨hfirst hcomplete, hrest hcomplete⟩

/-- With a rate for every band, charging raises nothing but an overflow. -/
theorem raisesOnly_governmentLines (hrates : ∀ key ∈ bandKeys, m.rates.get? key ≠ none)
    (election : GovernmentElection) (offset : FiniteDecimal) (net : Dict BandKey FiniteDecimal) :
    Outcome.RaisesOnly (· = .overflow) (m.governmentLines election offset net) := by
  apply Outcome.RaisesOnly.map
  apply Outcome.RaisesOnly.collect
  intro category hcategory
  apply Outcome.RaisesOnly.bind
  · apply Outcome.RaisesOnly.foldSteps
    intro deductions sub hsub
    obtain ⟨rate, hrate⟩ :=
      Option.ne_none_iff_exists'.mp (hrates _ (mem_bandKeys hcategory hsub))
    rw [MaturityBands.subDeduction, hrate]
    dsimp only
    split_ifs
    · apply Outcome.RaisesOnly.bind raisesOnly_fix
      intro deduction _
      apply Outcome.RaisesOnly.bind raisesOnly_fix
      exact fun _ _ => Outcome.RaisesOnly.ok _
    · apply Outcome.RaisesOnly.bind raisesOnly_fix
      intro amount _
      apply Outcome.RaisesOnly.bind raisesOnly_fix
      intro deduction _
      apply Outcome.RaisesOnly.bind raisesOnly_fix
      exact fun _ _ => Outcome.RaisesOnly.ok _
  · intro deductions _
    rw [categoryLine]
    split_ifs
    · exact Outcome.RaisesOnly.ok _
    · apply Outcome.RaisesOnly.bind
      · cases election with
        | category =>
          apply Outcome.RaisesOnly.bind raisesOnly_fix
          intro difference _
          apply Outcome.RaisesOnly.bind raisesOnly_fix
          intro size _
          apply Outcome.RaisesOnly.bind raisesOnly_fix
          intro kept _
          apply Outcome.RaisesOnly.bind raisesOnly_fix
          exact fun _ _ => Outcome.RaisesOnly.ok _
        | subcategory =>
          apply Outcome.RaisesOnly.bind raisesOnly_fix
          exact fun _ _ => Outcome.RaisesOnly.ok _
      · exact fun _ _ => Outcome.RaisesOnly.ok _

end Raising

/-- A government haircut is unknown where a maturity is not stated. -/
theorem assures_haircutOf (xs : List Position) (election : GovernmentElection)
    (offset : Option FiniteDecimal) :
    Assures table (haircutOf xs election (maturityBands table.bands) offset) fun ev v =>
      ((∃ p ∈ xs, p.monthsToMaturity = none) → v = none) ∧
        (ev = .complete → maturityBands table.bands ≠ none → offset ≠ none → v ≠ none) := by
  rcases hbands : maturityBands table.bands with _ | m
  · exact Ensures.pure fun _ => by simp
  rcases offset with _ | offset
  · exact Ensures.pure fun _ => by simp
  apply Ensures.bind (assures_netPositions Dict.empty xs)
  intro net
  split_ifs with hmonths
  · rw [List.any_eq_true] at hmonths
    obtain ⟨p, hp, hnone⟩ := hmonths
    apply Ensures.pure
    intro ev hstated
    exact ⟨fun _ => rfl,
      fun hev => absurd (Option.isNone_iff_eq_none.mp hnone) (hstated hev p hp)⟩
  · apply Ensures.ofOutcome
    · intro v hv ev hstated
      obtain ⟨lines, -, rfl⟩ := Outcome.map_eq_ok.mp hv
      refine ⟨fun ⟨p, hp, hnone⟩ => ?_, by simp⟩
      exact absurd (List.any_eq_true.mpr ⟨p, hp, by simp [hnone]⟩) hmonths
    · intro e he
      have hrates : ∀ key ∈ bandKeys, m.rates.get? key ≠ none := by
        intro key hkey
        obtain ⟨rate, -, hrate⟩ := (maturityBands_eq_some hbands).2.2 key hkey
        simp [hrate]
      exact Or.inl ((raisesOnly_governmentLines hrates election offset net).map e he)

include hstates in
theorem assures_governmentHaircut (xs : List Position) (election : GovernmentElection) :
    Assures table (governmentHaircut xs election) fun ev v =>
      ((∃ p ∈ xs, p.monthsToMaturity = none) → v = none) ∧ (ev = .complete → v ≠ none) := by
  apply Assures.bind_of (assures_readGovernmentBands hstates)
  intro bands ⟨hbands, _⟩
  subst hbands
  apply Ensures.bind (assures_readOffset hstates election)
  intro offset
  apply (assures_haircutOf xs election offset).weaken
  intro ev v ⟨hmonths, hknown⟩ hoffset ⟨_, hrules⟩
  refine ⟨hmonths, fun hev => ?_⟩
  have hany : ev ≠ .any := by simp [hev]
  exact hknown hev (hrules hany) (hoffset hany)

/-! ## Equity haircuts -/

theorem raisesOnly_equityLine (rate threshold excessRate : FiniteDecimal) (p : Position) :
    Outcome.RaisesOnly (· = .overflow) (equityLine rate threshold excessRate p) := by
  apply Outcome.RaisesOnly.bind raisesOnly_fix
  intro share _
  apply Outcome.RaisesOnly.bind raisesOnly_fix
  intro beyond _
  apply Outcome.RaisesOnly.bind raisesOnly_fix
  intro base _
  apply Outcome.RaisesOnly.bind raisesOnly_fix
  intro extra _
  apply Outcome.RaisesOnly.bind raisesOnly_fix
  exact fun _ _ => Outcome.RaisesOnly.ok _

include hstates in
theorem assures_equityHaircut (xs : List Position) :
    Assures table (equityHaircut xs) fun ev v => ev ≠ .any → v ≠ none := by
  apply Ensures.bind (Assures.value (hstates _ (by simp [netCapitalFigureRules])))
  intro rate
  apply Ensures.bind (Assures.value (hstates _ (by simp [netCapitalFigureRules])))
  intro threshold
  apply Ensures.bind (Assures.value (hstates _ (by simp [netCapitalFigureRules])))
  intro excessRate
  rw [equityLines.eq_def]
  split
  · apply Ensures.ofOutcome
    · intro v hv _ _ _ _ _
      obtain ⟨lines, -, rfl⟩ := Outcome.map_eq_ok.mp hv
      simp
    · intro e he
      exact Or.inl ((Outcome.RaisesOnly.collect fun p _ => raisesOnly_equityLine _ _ _ p).map e he)
  · next hunknown =>
    apply Ensures.pure
    intro ev ⟨hexcess, _⟩ ⟨hthreshold, _⟩ ⟨hrate, _⟩ hev
    obtain ⟨a, ha⟩ := Option.ne_none_iff_exists'.mp (hrate hev)
    obtain ⟨b, hb⟩ := Option.ne_none_iff_exists'.mp (hthreshold hev)
    obtain ⟨c, hc⟩ := Option.ne_none_iff_exists'.mp (hexcess hev)
    exact absurd hc (hunknown a b c ha hb)

/-! ## Haircuts -/

/-- A haircut the computation cannot work out: a class without one, or a government position with
a provision that is not ruled out or a maturity that is not stated. -/
def NetCapitalInputs.LacksHaircut (inputs : NetCapitalInputs) : Prop :=
  inputs.unknownClasses ≠ [] ∨ inputs.positionsOfClass .government ≠ [] ∧
    (¬ inputs.RuledOut ∨
      ∃ p ∈ inputs.positionsOfClass .government, p.monthsToMaturity = none)

/-- A class that has no haircut, or a government position with a provision that applies. -/
def NetCapitalInputs.Unmodeled (inputs : NetCapitalInputs) : Prop :=
  inputs.unknownClasses ≠ [] ∨ inputs.positionsOfClass .government ≠ [] ∧
    ∃ p ∈ governmentProvisions inputs, p.stated = some true

include hstates in
theorem assures_governmentHaircuts : Assures table (governmentHaircuts inputs) fun ev v =>
    (inputs.positionsOfClass .government ≠ [] → (¬ inputs.RuledOut ∨
      ∃ p ∈ inputs.positionsOfClass .government, p.monthsToMaturity = none) → v = none) ∧
    (ev ≠ .any → inputs.positionsOfClass .government ≠ [] →
      ∀ p ∈ governmentProvisions inputs, p.stated ≠ some true) ∧
    (ev = .complete → v ≠ none) := by
  rw [governmentHaircuts]
  split_ifs with hheld
  · exact Ensures.pure fun _ => by simp [hheld]
  apply Ensures.bind assures_governmentProvisionsRuledOut
  intro ruledOut
  apply Ensures.bind (assures_governmentHaircut hstates _ _)
  intro lines
  apply Ensures.pure
  intro ev ⟨hmonths, hknown⟩ ⟨hruled, hstated, hall⟩
  refine ⟨fun _ hlack => ?_, fun hev _ => hstated hev, fun hev => ?_⟩
  · obtain hnot | hmonth := hlack
    · rw [if_neg (mt hruled.mp hnot)]
    · rw [hmonths hmonth, ite_self]
  · rw [if_pos (hruled.mpr (hall hev))]
    exact hknown hev

include hstates in
theorem assures_equityHaircuts : Assures table (equityHaircuts inputs) fun ev v =>
    ev ≠ .any → v ≠ none := by
  rw [equityHaircuts]
  split_ifs
  · exact Ensures.pure fun _ _ => by simp
  · exact assures_equityHaircut hstates _

/-- The haircuts are the sum of their lines, and unknown where those of a class are. -/
theorem assures_totalHaircuts (unknown : List String) (government equity : Option (List HaircutLine)) :
    Assures table (totalHaircuts unknown government equity) fun _ r =>
      (r.1 = none ↔ unknown ≠ [] ∨ government = none ∨ equity = none) ∧
        ∀ amount ∈ r.1, FiniteDecimal.sum ambient 0 (r.2.map HaircutLine.amount) = .ok amount := by
  rcases unknown with _ | ⟨name, unknown⟩
  · rcases government with _ | government
    · exact Ensures.pure fun _ => by simp
    rcases equity with _ | equity
    · exact Ensures.pure fun _ => by simp
    apply Ensures.bind (Assures.arithmetic fun _ h => FiniteDecimal.sum_error h)
    intro amount
    exact Ensures.pure fun _ hsum => by simpa using hsum
  · exact Ensures.pure fun _ => by simp

include hstates in
theorem assures_haircuts : Assures table (haircuts inputs) fun ev r =>
    (inputs.LacksHaircut → r.1 = none) ∧ (ev ≠ .any → ¬ inputs.Unmodeled) ∧
      (ev = .complete → r.1 ≠ none) ∧
      ∀ amount ∈ r.1, FiniteDecimal.sum ambient 0 (r.2.map HaircutLine.amount) = .ok amount := by
  have hflag : Assures table (Computation.collect flagUnknown inputs.unknownClasses)
      fun ev _ => ev ≠ .any → inputs.unknownClasses = [] := by
    apply (Ensures.collect fun name _ => Assures.flag).weaken
    generalize inputs.unknownClasses = classes
    intro ev _ hflags hev
    cases hflags with
    | nil => rfl
    | cons hflagged _ => exact absurd hflagged hev
  apply Ensures.bind hflag
  intro _
  apply Ensures.bind (assures_governmentHaircuts hstates)
  intro government
  apply Ensures.bind (assures_equityHaircuts hstates)
  intro equity
  apply (assures_totalHaircuts _ government equity).weaken
  intro ev r ⟨hnone, hsum⟩ hequity ⟨hlacks, hstated, hgovernment⟩ hknown
  refine ⟨fun hlack => ?_, fun hev hunmodeled => ?_, fun hev hunknown => ?_, hsum⟩
  · apply hnone.mpr
    obtain hunknown | ⟨hheld, hlack⟩ := hlack
    · exact Or.inl hunknown
    · exact Or.inr (Or.inl (hlacks hheld hlack))
  · obtain hunknown | ⟨hheld, p, hp, happlies⟩ := hunmodeled
    · exact hunknown (hknown hev)
    · exact hstated hev hheld p hp happlies
  · have hany : ev ≠ .any := by simp [hev]
    obtain hunknown | hnone | hnone := hnone.mp hunknown
    · exact hunknown (hknown hany)
    · exact hgovernment hev hnone
    · exact hequity hany hnone

/-! ## The ratio requirement -/

theorem raisesOnly_div {ctx : DecimalContext} {a b : FiniteDecimal} (hb : b.coefficient ≠ 0) :
    Outcome.RaisesOnly (· = .overflow) (FiniteDecimal.div ctx a b) := by
  intro e he
  rw [FiniteDecimal.div] at he
  simp only [if_neg hb] at he
  split_ifs at he
  · exact DecimalContext.fix_error he
  · exact DecimalContext.fix_error he
  · exact DecimalContext.fix_error he
  · exact DecimalContext.fix_error he

/-- What a step of the requirement makes known. -/
structure RatioKnown (inputs : NetCapitalInputs) (ev : Evidence) (r : RatioRequirement) :
    Prop where
  known : ev = .complete → r.requirement ≠ none
  indebtedness : ev = .complete → inputs.standard = .aggregateIndebtedness →
    inputs.aggregateIndebtedness ≠ none
  debits : ev = .complete → inputs.standard = .alternative → inputs.aggregateDebitItems ≠ none
  quotient : inputs.standard = .aggregateIndebtedness →
    ∀ q ∈ r.requirement, ambient.Represents q.value ∧ 0 ≤ q.value

include hstates in
theorem assures_alternativeRequirement (hstandard : inputs.standard = .alternative) :
    Assures table (alternativeRequirement inputs) (RatioKnown inputs) := by
  have hother : inputs.standard ≠ .aggregateIndebtedness := by simp [hstandard]
  apply Ensures.bind (Assures.value (hstates _ (by simp [netCapitalFigureRules])))
  intro floor
  apply Ensures.bind (Assures.value (hstates _ (by simp [netCapitalFigureRules])))
  intro percent
  apply Ensures.bind Assures.requireInput
  intro _
  split
  · next hdebits =>
    apply Ensures.bind (Assures.arithmetic (Assures.overflowOnly_mul _ _))
    intro share
    apply Ensures.pure
    intro ev _ _ _ _
    exact ⟨fun _ => by simp, fun _ h => absurd h hother, fun _ _ => by simp [hdebits],
      fun h => absurd h hother⟩
  · next hunknown =>
    apply Ensures.pure
    intro ev hsupplied ⟨hpercent, _⟩ ⟨hfloor, _⟩
    refine ⟨fun hev _ => ?_, fun _ h => absurd h hother, fun hev _ => hsupplied hev,
      fun h => absurd h hother⟩
    have hany : ev ≠ .any := by simp [hev]
    obtain ⟨a, ha⟩ := Option.ne_none_iff_exists'.mp (hsupplied hev)
    obtain ⟨b, hb⟩ := Option.ne_none_iff_exists'.mp (hfloor hany)
    obtain ⟨c, hc⟩ := Option.ne_none_iff_exists'.mp (hpercent hany)
    exact hunknown a b c ha hb hc

variable (hcapital : table.StatesCapital)

include hcapital in
theorem assures_indebtednessMultiple : Assures table (indebtednessMultiple inputs) fun ev v =>
    (∀ multiple ∈ v, 0 < multiple.value) ∧
      (ev = .complete → inputs.monthsInBusiness ≠ none → v ≠ none) := by
  have hstates := hcapital.figures
  apply Ensures.bind (Assures.value (hstates _ (by simp [netCapitalFigureRules])))
  intro firstYear
  split
  · split_ifs
    · apply (Assures.value (hstates _ (by simp [netCapitalFigureRules]))).weaken
      intro ev v ⟨hknown, hv⟩ _
      exact ⟨hv ▸ hcapital.first_year, fun hev _ => hknown (by simp [hev])⟩
    · apply (Assures.value (hstates _ (by simp [netCapitalFigureRules]))).weaken
      intro ev v ⟨hknown, hv⟩ _
      exact ⟨hv ▸ hcapital.ceiling, fun hev _ => hknown (by simp [hev])⟩
  · next hunknown =>
    apply Ensures.pure
    intro ev ⟨hfirstYear, _⟩
    refine ⟨by simp, fun hev hmonths => ?_⟩
    obtain ⟨a, ha⟩ := Option.ne_none_iff_exists'.mp hmonths
    obtain ⟨b, hb⟩ := Option.ne_none_iff_exists'.mp (hfirstYear (by simp [hev]))
    exact absurd hb (hunknown a b ha)

include hcapital in
theorem assures_indebtednessRequirement (hstandard : inputs.standard = .aggregateIndebtedness) :
    Assures table (indebtednessRequirement inputs) (RatioKnown inputs) := by
  have hother : inputs.standard ≠ .alternative := by simp [hstandard]
  apply Ensures.bind Assures.requireInput
  intro _
  apply Ensures.bind Assures.requireInput
  intro _
  apply Assures.bind_of (assures_indebtednessMultiple hcapital)
  intro multiple ⟨hpositive, _⟩
  rcases multiple with _ | multiple
  · apply Ensures.pure
    intro ev ⟨_, hmultiple⟩ hmonths hindebtedness
    exact ⟨fun hev => absurd rfl (hmultiple hev (hmonths hev)), fun hev _ => hindebtedness hev,
      fun _ h => absurd h hother, by simp⟩
  rcases hsupplied : inputs.aggregateIndebtedness with _ | indebtedness
  · apply Ensures.pure
    intro ev _ _ hindebtedness
    exact ⟨fun hev => absurd rfl (hindebtedness hev), fun hev => absurd rfl (hindebtedness hev),
      fun _ h => absurd h hother, by simp⟩
  have hdivisor := hpositive multiple rfl
  have hcoefficient : multiple.coefficient ≠ 0 :=
    fun hzero => hdivisor.ne' (FiniteDecimal.value_eq_zero_iff.mpr hzero)
  apply Ensures.bind (Assures.arithmetic (raisesOnly_div hcoefficient))
  intro quotient
  apply Ensures.pure
  intro ev hdiv _ _ _
  refine ⟨fun _ => by simp, fun _ _ => by simp [hsupplied], fun _ h => absurd h hother,
    fun _ q hq => ?_⟩
  cases hq
  exact ⟨FiniteDecimal.represents_of_div hdiv,
    FiniteDecimal.div_nonneg_of_ok hdiv indebtedness.value_nonneg hdivisor⟩

include hcapital in
theorem assures_ratioRequirement : Assures table (ratioRequirement inputs) (RatioKnown inputs) := by
  rw [ratioRequirement]
  split
  · next hstandard => exact assures_alternativeRequirement hcapital.figures hstandard
  · next hstandard => exact assures_indebtednessRequirement hcapital hstandard

/-! ## Breaches -/

theorem assures_checkActivity (netCapital activity : Option FiniteDecimal) :
    Assures table (checkActivity inputs netCapital activity) fun ev _ =>
      ev = .complete → below netCapital activity = false :=
  Assures.breachIf

theorem assures_checkStandard (netCapital : Option FiniteDecimal) (ratio : RatioRequirement) :
    Assures table (checkStandard inputs netCapital ratio) fun ev _ =>
      ev = .complete → inputs.standard = .alternative →
        below netCapital ratio.requirement = false := by
  rw [checkStandard.eq_def]
  cases inputs.standard with
  | aggregateIndebtedness =>
    split
    · apply Ensures.bind (Assures.arithmetic (Assures.overflowOnly_mul _ _))
      intro limit
      exact Assures.breachIf.weaken fun _ _ _ _ _ h => by cases h
    · exact Ensures.pure fun _ _ h => by cases h
    · next h => cases h
  | alternative => exact Assures.breachIf.weaken fun _ _ h hev _ => h hev

theorem not_lt_of_below {n a : FiniteDecimal} (h : below (some n) (some a) = false) :
    a.value ≤ n.value := by
  rw [below, ← Bool.not_eq_true, FiniteDecimal.lt_iff, not_lt] at h
  exact h

/-! ## Early warning -/

theorem assures_warning (ruleId paragraph note : String) (lessThan : Bool)
    (threshold measure : Option FiniteDecimal) :
    Assures table (warning ruleId paragraph note lessThan threshold measure) fun _ w =>
      (w.triggered = none ↔ threshold = none ∨ measure = none) ∧
        ∀ limit ∈ threshold, ∀ figure ∈ measure,
          w.triggered = some (if lessThan then figure.lt limit else limit.lt figure) := by
  rcases threshold with _ | limit
  · exact Ensures.pure fun _ => by simp
  rcases measure with _ | figure
  · exact Ensures.pure fun _ => by simp
  apply Ensures.bind (Assures.arithmetic (o := if lessThan then figure.sub ambient limit
    else limit.sub ambient figure) ?_)
  · intro cushion
    exact Ensures.pure fun _ _ => by simp
  · cases lessThan with
    | true => exact Assures.overflowOnly_sub _ _
    | false => exact Assures.overflowOnly_sub _ _

theorem assures_multipleOf {ruleId : String} (hmem : ruleId ∈ netCapitalFigureRules)
    (hstates : table.StatesFigures netCapitalFigureRules) (figure : Option FiniteDecimal) :
    Assures table (multipleOf ruleId figure) fun ev v =>
      (ev ≠ .any → figure ≠ none → v ≠ none) ∧
        ∀ x ∈ figure, ∀ z ∈ v, ∃ k ∈ table.figure ruleId, k.mul ambient x = .ok z := by
  apply Ensures.bind (Assures.value (hstates _ hmem))
  intro multiple
  apply (Assures.both Assures.overflowOnly_mul multiple figure).weaken
  intro ev v ⟨hnone, hmul⟩ ⟨hknown, hmultiple⟩
  constructor
  · intro hev hfigure hv
    exact (hnone.mp hv).elim (hknown hev) hfigure
  · intro x hx z hz
    obtain ⟨k, hk⟩ : ∃ k, multiple = some k := by
      apply Option.ne_none_iff_exists'.mp
      intro hmissing
      rw [hnone.mpr (Or.inl hmissing)] at hz
      cases hz
    exact ⟨k, hmultiple ▸ hk, hmul k hk x hx z hz⟩

include hstates in
theorem assures_standardWarning (netCapital : Option FiniteDecimal) :
    Assures table (standardWarning inputs netCapital) fun ev w =>
      ev ≠ .any → netCapital ≠ none →
        (inputs.standard = .aggregateIndebtedness → inputs.aggregateIndebtedness ≠ none) →
        (inputs.standard = .alternative → inputs.aggregateDebitItems ≠ none) →
          w.triggered ≠ none := by
  rw [standardWarning]
  split
  · next hstandard =>
    apply Ensures.bind (assures_multipleOf (by simp [netCapitalFigureRules]) hstates netCapital)
    intro threshold
    apply (assures_warning _ _ _ _ threshold _).weaken
    intro ev w ⟨htriggered, _⟩ ⟨hthreshold, _⟩ hev hcapital hindebtedness _ hnone
    obtain h | h := htriggered.mp hnone
    · exact hthreshold hev hcapital h
    · exact hindebtedness hstandard (Option.map_eq_none_iff.mp h)
  · next hstandard =>
    apply Ensures.bind (assures_multipleOf (by simp [netCapitalFigureRules]) hstates _)
    intro threshold
    apply (assures_warning _ _ _ _ threshold _).weaken
    intro ev w ⟨htriggered, _⟩ ⟨hthreshold, _⟩ hev hcapital _ hdebits hnone
    obtain h | h := htriggered.mp hnone
    · exact hthreshold hev (by simpa using hdebits hstandard) h
    · exact hcapital h

/-- Where the warning on the requirement is not triggered, net capital is not below a loaded
multiple of the requirement. -/
def NotWarned (table : RuleTable) (netCapital minimum : Option FiniteDecimal)
    (w : EarlyWarning) : Prop :=
  ∀ n ∈ netCapital, ∀ m ∈ minimum, w.triggered = some false →
    ∃ k ∈ table.figure warnMinimum, ∃ t, k.mul ambient m = .ok t ∧ t.value ≤ n.value

include hstates in
theorem assures_minimumWarning (netCapital minimum : Option FiniteDecimal) :
    Assures table (minimumWarning netCapital minimum) fun ev w =>
      (ev ≠ .any → netCapital ≠ none → minimum ≠ none → w.triggered ≠ none) ∧
        NotWarned table netCapital minimum w := by
  apply Ensures.bind (assures_multipleOf (by simp [netCapitalFigureRules]) hstates minimum)
  intro threshold
  apply (assures_warning _ _ _ _ threshold _).weaken
  intro ev w ⟨htriggered, hcompared⟩ ⟨hthreshold, hmul⟩
  constructor
  · intro hev hcapital hminimum hnone
    exact (htriggered.mp hnone).elim (hthreshold hev hminimum) hcapital
  · intro n hn m hm hnot
    obtain ⟨t, ht⟩ : ∃ t, threshold = some t := by
      apply Option.ne_none_iff_exists'.mp
      intro hmissing
      rw [htriggered.mpr (Or.inl hmissing)] at hnot
      cases hnot
    obtain ⟨k, hk, hkm⟩ := hmul m hm t ht
    refine ⟨k, hk, t, hkm, ?_⟩
    have hlt := (hcompared t ht n hn).symm.trans hnot
    simp only [if_true, Option.some.injEq] at hlt
    rw [← Bool.not_eq_true, FiniteDecimal.lt_iff, not_lt] at hlt
    exact hlt

include hstates in
theorem assures_leverageWarnings (tentative : Option FiniteDecimal) :
    Assures table (leverageWarnings inputs tentative) fun ev ws =>
      ev = .complete → tentative ≠ none → ∀ w ∈ ws, w.triggered ≠ none := by
  rw [leverageWarnings]
  split_ifs
  · apply Ensures.bind Assures.reason
    intro _
    exact Ensures.pure fun _ _ _ _ => by simp
  · apply Ensures.bind Assures.requireInput
    intro _
    apply Ensures.bind (assures_multipleOf (by simp [netCapitalFigureRules]) hstates tentative)
    intro threshold
    have hmeasure : ∀ measure : String × Option NonNegativeMoney,
        Assures table (leverageWarning threshold measure) fun ev w =>
          ev = .complete → threshold ≠ none → w.triggered ≠ none := by
      intro measure
      apply Ensures.bind Assures.requireInput
      intro _
      apply (assures_warning _ _ _ _ threshold _).weaken
      intro ev w ⟨htriggered, _⟩ hsupplied hev hthreshold hnone
      obtain h | h := htriggered.mp hnone
      · exact hthreshold h
      · exact hsupplied hev (Option.map_eq_none_iff.mp h)
    apply (Ensures.collect fun measure _ => hmeasure measure).weaken
    intro ev ws hws ⟨hthreshold, _⟩ _ hev htentative w hw
    obtain ⟨measure, -, hknown⟩ := exists_of_forall₂_mem hws hw
    exact hknown hev (hthreshold (by simp [hev]) htentative)

include hstates in
theorem assures_earlyWarnings (netCapital tentative minimum : Option FiniteDecimal) :
    Assures table (earlyWarnings inputs netCapital tentative minimum) fun ev ws =>
      (ev = .complete → netCapital ≠ none → tentative ≠ none → minimum ≠ none →
        (inputs.standard = .aggregateIndebtedness → inputs.aggregateIndebtedness ≠ none) →
        (inputs.standard = .alternative → inputs.aggregateDebitItems ≠ none) →
          ∀ w ∈ ws, w.triggered ≠ none) ∧
        ∃ w ∈ ws, NotWarned table netCapital minimum w := by
  apply Ensures.bind (assures_standardWarning hstates netCapital)
  intro standard
  apply Ensures.bind (assures_minimumWarning hstates netCapital minimum)
  intro least
  apply Ensures.bind (assures_leverageWarnings hstates tentative)
  intro leverage
  apply Ensures.pure
  intro ev hleverage ⟨hleast, hnotWarned⟩ hstandard
  refine ⟨fun hev hcapital htentative hminimum hindebtedness hdebits => ?_,
    least, by simp, hnotWarned⟩
  have hany : ev ≠ .any := by simp [hev]
  refine List.forall_mem_cons.mpr ⟨hstandard hany hcapital hindebtedness hdebits,
    List.forall_mem_cons.mpr ⟨?_, ?_⟩⟩
  · exact hleast hany hcapital hminimum
  · exact hleverage hev htentative

theorem assures_checkWarnings (ws : List EarlyWarning) :
    Assures table (Computation.collect checkWarning ws) fun ev _ =>
      ev = .complete → ∀ w ∈ ws, w.triggered ≠ some true := by
  apply (Ensures.collect fun w _ => Assures.breachIf).weaken
  intro ev _ hws hev w hw
  obtain ⟨_, -, hnot⟩ := hws.exists_of_mem_left hw
  simpa using hnot hev

/-! ## What the figures are made of -/

/-- Each figure is unknown exactly where one that it is made of is, and the haircuts wherever one
of them cannot be worked out. -/
structure NetCapitalFigures.Follow (inputs : NetCapitalInputs) (f : NetCapitalFigures) : Prop where
  additions : f.totalAdditions = none ↔ ∃ a ∈ inputs.additions, a.amount = none
  deductions : f.totalDeductions = none ↔ ∃ a ∈ inputs.deductions, a.amount = none
  tentative : f.tentativeNetCapital = none ↔
    inputs.netWorth = none ∨ f.totalAdditions = none ∨ f.totalDeductions = none
  haircuts : inputs.LacksHaircut → f.haircuts = none
  lines : ∀ amount ∈ f.haircuts,
    FiniteDecimal.sum ambient 0 (f.haircutLines.map HaircutLine.amount) = .ok amount
  net_capital : f.netCapital = none ↔ f.tentativeNetCapital = none ∨ f.haircuts = none
  minimum : f.minimumRequirement = none ↔ f.ratioRequirement = none ∨ f.activityMinimum = none
  excess : f.excessNetCapital = none ↔ f.netCapital = none ∨ f.minimumRequirement = none

/-- Net capital is not below the requirement, and the excess says so. -/
def NetCapitalFigures.Meets (f : NetCapitalFigures) : Prop :=
  ∃ n ∈ f.netCapital, ∃ m ∈ f.minimumRequirement, ∃ x ∈ f.excessNetCapital,
    m.value ≤ n.value ∧ 0 ≤ x.value

/-- Every figure is known, no warning is triggered, and the requirement is met. -/
structure NetCapitalFigures.Complete (f : NetCapitalFigures) : Prop where
  net_worth : f.netWorth ≠ none
  additions : f.totalAdditions ≠ none
  deductions : f.totalDeductions ≠ none
  tentative : f.tentativeNetCapital ≠ none
  haircuts : f.haircuts ≠ none
  ratio : f.ratioRequirement ≠ none
  activity : f.activityMinimum ≠ none
  warned : ∀ w ∈ f.earlyWarnings, w.triggered = some false
  meets : f.Meets

theorem greater_eq_none {a b : Option FiniteDecimal} :
    greater a b = none ↔ a = none ∨ b = none := by
  rcases a with _ | a <;> rcases b with _ | b <;> simp [greater]

/-- A multiple of at least one of a figure the context holds is not rounded below it. -/
theorem le_of_multiple {k q m t : FiniteDecimal} (hk : 1 ≤ k.value)
    (hq : ambient.Represents q.value) (hzero : 0 ≤ q.value) (hle : q.value ≤ m.value)
    (h : k.mul ambient m = .ok t) : q.value ≤ t.value := by
  obtain ⟨q', hq', hvalue⟩ := DecimalContext.fix_of_represents hq
  rw [← hvalue]
  apply DecimalContext.fix_mono hq' h
  rw [FiniteDecimal.value_exactMul]
  calc q.value ≤ m.value := hle
    _ = 1 * m.value := (one_mul _).symm
    _ ≤ k.value * m.value := mul_le_mul_of_nonneg_right hk (hzero.trans hle)

include hcapital in
/-- The greater of the ratio and the activity minimum is met: the second by its own test, and the
first by its own or, where it is divided out, by the warning that comes before. -/
theorem requirement_met {n q a : FiniteDecimal} {w : EarlyWarning}
    (hactivity : below (some n) (some a) = false)
    (halternative : inputs.standard = .alternative → below (some n) (some q) = false)
    (hquotient : inputs.standard = .aggregateIndebtedness →
      ambient.Represents q.value ∧ 0 ≤ q.value)
    (hwarning : NotWarned table (some n) (some (q.max a)) w)
    (hnot : w.triggered = some false) : (q.max a).value ≤ n.value := by
  rw [FiniteDecimal.value_max]
  apply max_le _ (not_lt_of_below hactivity)
  cases hstandard : inputs.standard with
  | alternative => exact not_lt_of_below (halternative hstandard)
  | aggregateIndebtedness =>
    obtain ⟨hrepresents, hnonneg⟩ := hquotient hstandard
    obtain ⟨k, hk, t, hmul, hle⟩ := hwarning n rfl _ rfl hnot
    have hmax : q.value ≤ (q.max a).value := by
      rw [FiniteDecimal.value_max]
      exact le_max_left _ _
    exact (le_of_multiple (hcapital.warned_before k hk) hrepresents hnonneg hmax hmul).trans hle

theorem minimumRule_mem (category : BrokerDealerCategory) :
    minimumRule category ∈ netCapitalFigureRules := by
  cases category <;> simp [netCapitalFigureRules]

include hcapital in
/-- What is known of the figures: each follows those it is made of, with all the rules no position
is beyond the haircuts modeled, and with everything there nothing is unknown and the requirement
is met. -/
theorem assures_netCapitalFigures : Assures table (netCapitalFigures inputs) fun ev f =>
    f.Follow inputs ∧ (ev ≠ .any → ¬ inputs.Unmodeled) ∧ (ev = .complete → f.Complete) := by
  have hstates := hcapital.figures
  apply Ensures.bind Assures.requireInput
  intro _
  apply Ensures.bind (assures_totalAdjustments inputs.additions "additions")
  intro additions
  apply Ensures.bind (assures_totalAdjustments inputs.deductions "deductions")
  intro deductions
  apply Ensures.bind (assures_tentativeOf inputs.netWorth additions deductions)
  intro tentative
  apply Ensures.bind (assures_haircuts hstates)
  intro ⟨haircuts, lines⟩
  apply Ensures.bind (Assures.both Assures.overflowOnly_sub tentative haircuts)
  intro netCapital
  apply Ensures.bind (assures_ratioRequirement hcapital)
  intro ratio
  apply Ensures.bind (Assures.value (hstates _ (minimumRule_mem inputs.category)))
  intro activity
  apply Ensures.bind (Assures.both Assures.overflowOnly_sub netCapital _)
  intro excess
  apply Ensures.bind (assures_checkActivity netCapital activity)
  intro _
  apply Ensures.bind (assures_checkStandard netCapital ratio)
  intro _
  apply Ensures.bind (assures_earlyWarnings hstates netCapital tentative _)
  intro warnings
  apply Ensures.bind (assures_checkWarnings warnings)
  intro _
  apply Ensures.pure
  intro ev hquiet ⟨hwarnings, least, hleast, hnotWarned⟩ halternative hactivityMet
    ⟨hexcess, hexcessOf⟩ ⟨hactivity, _⟩ hratio ⟨hnetCapital, _⟩
    ⟨hlacks, hmodeled, hhaircuts, hlines⟩ htentative ⟨hdeductions, hdeductionsKnown⟩
    ⟨hadditions, hadditionsKnown⟩ hnetWorth
  refine ⟨⟨hadditions, hdeductions, htentative, hlacks, hlines, hnetCapital, greater_eq_none,
    hexcess⟩, hmodeled, fun hev => ?_⟩
  have hany : ev ≠ .any := by simp [hev]
  have htentativeKnown : tentative ≠ none := by
    intro h
    obtain h | h | h := htentative.mp h
    · exact hnetWorth hev h
    · exact hadditionsKnown hev h
    · exact hdeductionsKnown hev h
  have hnetCapitalKnown : netCapital ≠ none :=
    fun h => (hnetCapital.mp h).elim htentativeKnown (hhaircuts hev)
  have hminimumKnown : greater ratio.requirement activity ≠ none :=
    fun h => (greater_eq_none.mp h).elim (hratio.known hev) (hactivity hany)
  have hwarned : ∀ w ∈ warnings, w.triggered = some false := by
    intro w hw
    have hknown := hwarnings hev hnetCapitalKnown htentativeKnown hminimumKnown
      (hratio.indebtedness hev) (hratio.debits hev) w hw
    obtain ⟨triggered, htriggered⟩ := Option.ne_none_iff_exists'.mp hknown
    cases triggered with
    | true => exact absurd htriggered (hquiet hev w hw)
    | false => exact htriggered
  obtain ⟨n, rfl⟩ := Option.ne_none_iff_exists'.mp hnetCapitalKnown
  obtain ⟨q, hq⟩ := Option.ne_none_iff_exists'.mp (hratio.known hev)
  obtain ⟨a, rfl⟩ := Option.ne_none_iff_exists'.mp (hactivity hany)
  obtain ⟨x, rfl⟩ := Option.ne_none_iff_exists'.mp fun h =>
    (hexcess.mp h).elim hnetCapitalKnown hminimumKnown
  have hgreater : greater ratio.requirement (some a) = some (q.max a) := by rw [hq]; rfl
  rw [hgreater] at hnotWarned hexcessOf
  have hmet : (q.max a).value ≤ n.value :=
    requirement_met hcapital (hactivityMet hev) (fun h => hq ▸ halternative hev h)
      (fun h => hratio.quotient h q hq) hnotWarned (hwarned least hleast)
  have hexcessNonneg : 0 ≤ x.value := by
    apply DecimalContext.fix_nonneg (hexcessOf n rfl _ rfl x rfl)
    rw [FiniteDecimal.value_exactAdd, FiniteDecimal.value_copyNegate]
    linarith
  exact {
    net_worth := hnetWorth hev
    additions := hadditionsKnown hev
    deductions := hdeductionsKnown hev
    tentative := htentativeKnown
    haircuts := hhaircuts hev
    ratio := hratio.known hev
    activity := by simp
    warned := hwarned
    meets := ⟨n, rfl, q.max a, hgreater, x, rfl, hmet, hexcessNonneg⟩ }

end Parts

/-! ## What a computation reports -/

section Report

variable {table : RuleTable} {inputs : NetCapitalInputs} {result : NetCapitalResult}

theorem computeNetCapital_eq_ok : computeNetCapital inputs table = .ok result ↔
    ∃ figures found, netCapitalFigures inputs { rules := { table } } = .ok (figures, found) ∧
      result = { figures with
        asOf := inputs.asOf
        standard := inputs.standard
        disposition := CustomerProtection.decide found.rules.missing found.missingInputs
          found.breaches
        missingRules := found.rules.missing
        missingInputs := Atreides.sortedSet found.missingInputs
        breaches := found.breaches
        reasons := found.reasons
        rulesUsed := found.rules.used } := by
  rw [computeNetCapital, Outcome.bind_eq_ok]
  constructor
  · intro ⟨⟨figures, found⟩, hfigures, h⟩
    cases h
    exact ⟨figures, found, hfigures, rfl⟩
  · intro ⟨figures, found, hfigures, h⟩
    exact ⟨(figures, found), hfigures, h ▸ rfl⟩

variable (hcapital : table.StatesCapital)

include hcapital in
/-- What is known of a result. -/
theorem figures_of_computeNetCapital (h : computeNetCapital inputs table = .ok result) :
    result.Follow inputs ∧ (result.missingRules = [] → ¬ inputs.Unmodeled) ∧
      (result.disposition = .pass → result.Complete ∧ result.missingRules = [] ∧
        result.missingInputs = [] ∧ result.breaches = []) := by
  obtain ⟨figures, found, hfigures, rfl⟩ := computeNetCapital_eq_ok.mp h
  obtain ⟨-, hhas⟩ :=
    (assures_netCapitalFigures hcapital).ok { rules := { table } } _ _ rfl hfigures
  refine ⟨(hhas .any trivial).2.1, fun hmissing => ?_, fun hpass => ?_⟩
  · exact (hhas .rules (missing_eq_nil.mp hmissing)).2.2.1 (by simp)
  · obtain ⟨hrules, hinputs, hbreaches⟩ := decide_eq_pass.mp hpass
    refine ⟨?_, hrules, sortedSet_eq_nil.mpr hinputs, hbreaches⟩
    exact (hhas .complete ⟨missing_eq_nil.mp hrules, hinputs, hbreaches⟩).2.2.2 rfl

include hcapital in
theorem computeNetCapital_error {e : PyError} (h : computeNetCapital inputs table = .error e) :
    Overflows e := by
  obtain h | ⟨⟨figures, found⟩, -, h⟩ := Outcome.bind_eq_error.mp h
  · exact (assures_netCapitalFigures hcapital).error { rules := { table } } _ rfl h
  · cases h

/-- A missing rule or a rule that is not modeled makes a result INDETERMINATE, and nothing else
does. -/
theorem netCapital_indeterminate_iff (h : computeNetCapital inputs table = .ok result) :
    result.disposition = .indeterminate ↔ result.missingRules ≠ [] := by
  obtain ⟨figures, found, -, rfl⟩ := computeNetCapital_eq_ok.mp h
  simp only [CustomerProtection.decide]
  split_ifs with hmissing hinputs
  · simp [hmissing]
  · simpa using hmissing
  · simpa using hmissing

end Report

/-! ## Failing safe -/

/-- The figures of the committed table. -/
def committedFigures : RuleTable where
  items :=
    [figureItem aiCeiling 15, figureItem aiCeilingFirstYear 8, figureItem firstYearMonths 12,
      figureItem altFloor 250000, figureItem altPercent ⟨false, 2, -2⟩,
      figureItem (minimumRule .carrying) 250000, figureItem (minimumRule .k2iExempt) 100000,
      figureItem (minimumRule .dealer) 100000, figureItem (minimumRule .introducing) 50000,
      figureItem (minimumRule .investmentCompanyShares) 25000,
      figureItem (minimumRule .other) 5000, figureItem govOffset ⟨false, 5, -1⟩,
      figureItem equityRate ⟨false, 15, -2⟩, figureItem equityLesserThreshold ⟨false, 25, -2⟩,
      figureItem equityExcessRate ⟨false, 15, -2⟩, figureItem warnAi 12,
      figureItem warnAlt ⟨false, 5, -2⟩, figureItem warnMinimum ⟨false, 12, -1⟩,
      figureItem warnLeverage 25] ++
    List.zipWith (fun key rate => figureItem (bandRate key) ⟨false, rate, -4⟩) bandKeys
      [0, 50, 75, 100, 150, 200, 300, 400, 450, 500, 550, 600] ++
    List.zipWith (fun key upper => figureItem (bandUpper key) (.ofInt upper)) bandKeys
      [3, 6, 9, 12, 24, 36, 60, 120, 180, 240, 300]

theorem committedFigures_statesCapital : committedFigures.StatesCapital where
  figures := by
    unfold RuleTable.StatesFigures
    decide +kernel
  ceiling v hv := by
    cases hv
    have hlt : FiniteDecimal.lt 0 15 = true := rfl
    rwa [FiniteDecimal.lt_iff, FiniteDecimal.value_zero] at hlt
  first_year v hv := by
    cases hv
    have hlt : FiniteDecimal.lt 0 8 = true := rfl
    rwa [FiniteDecimal.lt_iff, FiniteDecimal.value_zero] at hlt
  warned_before v hv := by
    cases hv
    norm_num [FiniteDecimal.value, FiniteDecimal.toInt]

/-- A dealer that owes ten million, fifteen times a number that no decimal is. -/
def owesTenMillion : NetCapitalInputs where
  asOf := Date.of 2027 4 6
  standard := .aggregateIndebtedness
  category := .dealer
  netWorth := some 1000000
  deductions := [⟨"fixtures", "(c)(2)(iv)", some ⟨40000, rfl⟩, by decide, by decide⟩]
  positions := [⟨"ISSUE-61", "government", ⟨90000, rfl⟩, ⟨7000, rfl⟩,
      some ⟨30, rfl⟩, by decide⟩,
    ⟨"ISSUE-62", "equity", ⟨8000, rfl⟩, ⟨3000, rfl⟩, none, by decide⟩]
  electsA3CrossCategoryExclusion := some false
  electsA4FuturesDeliverableInclusion := some false
  qualifiesA5GovernmentDealerReduction := some false
  aggregateIndebtedness := some ⟨10000000, rfl⟩
  monthsInBusiness := some ⟨48, rfl⟩
  reportsLendingActivityMonthly := some true

end CustomerProtection

end Atreides
