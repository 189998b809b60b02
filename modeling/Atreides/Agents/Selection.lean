import Atreides.Agents.FiatOperations

/-!
# What a routing decision rests on

The seven selections are one flow over seven queries. It decides on a path exactly when none
of its guards fires and the query has a path, and then on the first. Six of the queries return
paths of their own dimension only. The query for rails returns the paths of either rail
dimension, and the multi-currency selection takes the first of them as it is.

## Main definitions

* `PathSelection` — one of the seven selections, with its parameters
* `Unguarded` — no guard fires
* `Warranted` — what a routing decision must rest on

## Main results

* `selectPath_eq_routingDecision_iff` — when the flow decides, and on which path
* `PathSelection.mem_candidates` — what the query of each selection returns
* `warranted_iff` — every decision is warranted, exactly
-/

namespace Atreides

/-- One of the seven selections. -/
inductive PathSelection
  | multiCurrencyRailRouting (currency : String) (jurisdiction : Option String)
      (finalityPreference : Option FinalityModel)
  | correspondentBankingCoordination (currency : String) (jurisdiction : Option String)
  | crossBorderFxLeg (currencyPair : String)
  | depositoryVsSubCustodian (jurisdiction : String)
  | largeValuePaymentSystem (currency : String) (jurisdiction : Option String)
      (finalityPreference : Option FinalityModel)
  | fedRelatedOperation (fedFacilityPathId : String)
  | cashSweepAndShortTermInvestment (currency : String)

namespace PathSelection

open FiatOperationsSpecialist

variable {kernel : Kernel}

/-- Call the method of the selection. -/
def run (agent : FiatOperationsSpecialist) (request : PathSelectionRequest kernel) :
    PathSelection → Outcome FiatOperationsOutput
  | multiCurrencyRailRouting currency jurisdiction finalityPreference =>
    agent.selectMultiCurrencyRailRouting request currency jurisdiction finalityPreference
  | correspondentBankingCoordination currency jurisdiction =>
    agent.selectCorrespondentBankingCoordination request currency jurisdiction
  | crossBorderFxLeg currencyPair => agent.selectCrossBorderFxLeg request currencyPair
  | depositoryVsSubCustodian jurisdiction =>
    agent.selectDepositoryVsSubCustodian request jurisdiction
  | largeValuePaymentSystem currency jurisdiction finalityPreference =>
    agent.selectLargeValuePaymentSystem request currency jurisdiction finalityPreference
  | fedRelatedOperation fedFacilityPathId =>
    agent.selectFedRelatedOperation request fedFacilityPathId
  | cashSweepAndShortTermInvestment currency =>
    agent.selectCashSweepAndShortTermInvestment request currency

/-- The dimension of the selection. -/
def dimension : PathSelection → PathSelectionDimension
  | multiCurrencyRailRouting .. => .multiCurrencyRailRouting
  | correspondentBankingCoordination .. => .correspondentBankingCoordination
  | crossBorderFxLeg .. => .crossBorderFxLeg
  | depositoryVsSubCustodian .. => .depositoryVsSubCustodian
  | largeValuePaymentSystem .. => .largeValuePaymentSystem
  | fedRelatedOperation .. => .fedRelatedOperation
  | cashSweepAndShortTermInvestment .. => .cashSweepAndShortTermInvestment

/-- The currency an amount is judged in, where the selection judges one. -/
def judgedCurrency : PathSelection → Option String
  | multiCurrencyRailRouting currency .. => some currency
  | correspondentBankingCoordination currency .. => some currency
  | crossBorderFxLeg currencyPair => some (baseCurrency currencyPair)
  | largeValuePaymentSystem currency .. => some currency
  | depositoryVsSubCustodian .. | fedRelatedOperation .. | cashSweepAndShortTermInvestment .. =>
    none

/-- What the query of the selection returns. -/
def candidates (agent : FiatOperationsSpecialist) : PathSelection → List ApprovedPath
  | multiCurrencyRailRouting currency jurisdiction finalityPreference =>
    agent.routingTables.findRailPaths currency jurisdiction finalityPreference
  | correspondentBankingCoordination currency jurisdiction =>
    agent.routingTables.findCorrespondentPaths currency jurisdiction
  | crossBorderFxLeg currencyPair => agent.routingTables.findFxPvpPaths currencyPair
  | depositoryVsSubCustodian jurisdiction => agent.routingTables.findDepositoryPaths jurisdiction
  | largeValuePaymentSystem currency jurisdiction finalityPreference =>
    agent.largeValueCandidates currency jurisdiction finalityPreference
  | fedRelatedOperation fedFacilityPathId => agent.fedFacility fedFacilityPathId
  | cashSweepAndShortTermInvestment currency => agent.routingTables.findCashSweepPaths currency

/-- Every selection is the shared flow over its own query. -/
theorem run_eq (agent : FiatOperationsSpecialist) (request : PathSelectionRequest kernel)
    (selection : PathSelection) : ∃ criteriaSummary, selection.run agent request =
      agent.selectPath request selection.dimension selection.judgedCurrency
        (selection.candidates agent) criteriaSummary := by
  cases selection <;> exact ⟨_, rfl⟩

end PathSelection

/-! ## The flow -/

section Flow

open FiatOperationsSpecialist

variable {kernel : Kernel} {agent : FiatOperationsSpecialist}
  {request : PathSelectionRequest kernel} {dimension : PathSelectionDimension}
  {currency : Option String} {candidates : List ApprovedPath} {criteriaSummary : String}

/-- Nothing puts the request before a quorum: no surface is declared, no jurisdiction is next
to a sanctioned one, and the amount is below the threshold of the dimension. -/
structure BelowQuorum (agent : FiatOperationsSpecialist) (request : PathSelectionRequest kernel)
    (dimension : PathSelectionDimension) (currency : Option String) : Prop where
  no_surface : request.operation.inherentSafetySurface = none
  not_sanctioned : ∀ attribution, request.attribution = some attribution →
    ∀ jurisdiction ∈ attribution.jurisdictions,
      jurisdiction ∉ agent.magnitudeThresholdPolicy.sanctionedAdjacencyJurisdictions
  below_threshold : ∀ amount, request.amount = some amount →
    ∀ judged, currency = some judged →
      (dimension = .multiCurrencyRailRouting →
        agent.magnitudeThresholdPolicy.isFiatSettlementMaterial judged amount = false) ∧
      (dimension = .largeValuePaymentSystem →
        agent.magnitudeThresholdPolicy.isLvpsFinalityMaterial judged amount = false) ∧
      (dimension = .crossBorderFxLeg →
        agent.magnitudeThresholdPolicy.isFxBundledMaterial judged amount = false)

/-- The gate cleared the request, where the dimension needs it, for some obligation. -/
def GateCleared (request : PathSelectionRequest kernel) (dimension : PathSelectionDimension) :
    Prop :=
  dimension ∈ gateRequiredDimensions → ∃ decision, request.catoCashDecision = some decision ∧
    decision.decision = .proceed ∧ decision.obligationId.isSome = true

/-- No guard of the flow fires. -/
structure Unguarded (agent : FiatOperationsSpecialist) (request : PathSelectionRequest kernel)
    (dimension : PathSelectionDimension) (currency : Option String) : Prop where
  no_halt : ∀ halt, request.halt = some halt → kernel.gateUnderHalt halt .atreides ≠ .block
  below_quorum : BelowQuorum agent request dimension currency
  eligible : Eligible request.eligibilityInputs
  attributed : request.attribution.isSome = true
  gate : GateCleared request dimension

/-! ### Guards -/

theorem haltEscalation_eq_none_iff : agent.haltEscalation request dimension = none ↔
    ∀ halt, request.halt = some halt → kernel.gateUnderHalt halt .atreides ≠ .block := by
  rw [haltEscalation]
  rcases request.halt with _ | halt
  · simp
  · simp only [Option.some.injEq, forall_eq']
    split_ifs with hblock
    · simpa using hblock
    · simpa using hblock

/-- The third trigger fires exactly at the threshold of the dimension. -/
theorem amountTrigger_eq_none_iff {policy : MagnitudeThresholdPolicy} {judged : String}
    {amount : FiniteDecimal} :
    (match dimension with
      | .multiCurrencyRailRouting =>
        if policy.isFiatSettlementMaterial judged amount then
          some InherentSafetySurface.fiatSettlementMaterial else none
      | .largeValuePaymentSystem =>
        if policy.isLvpsFinalityMaterial judged amount then some .largeValuePaymentFinality
        else none
      | .crossBorderFxLeg =>
        if policy.isFxBundledMaterial judged amount then some .fxBundledSettlement else none
      | _ => none) = none ↔
      (dimension = .multiCurrencyRailRouting →
        policy.isFiatSettlementMaterial judged amount = false) ∧
      (dimension = .largeValuePaymentSystem →
        policy.isLvpsFinalityMaterial judged amount = false) ∧
      (dimension = .crossBorderFxLeg → policy.isFxBundledMaterial judged amount = false) := by
  cases dimension <;> simp

theorem checkMaterialMagnitude_eq_none_iff :
    agent.checkMaterialMagnitude request dimension currency = none ↔
      BelowQuorum agent request dimension currency := by
  have hsanctioned : request.attribution.any (fun attribution => attribution.jurisdictions.any
      agent.magnitudeThresholdPolicy.isSanctionedAdjacent) = false ↔
      ∀ attribution, request.attribution = some attribution →
        ∀ jurisdiction ∈ attribution.jurisdictions,
          jurisdiction ∉ agent.magnitudeThresholdPolicy.sanctionedAdjacencyJurisdictions := by
    rcases request.attribution with _ | attribution
    · simp
    · simp [MagnitudeThresholdPolicy.isSanctionedAdjacent]
  rw [checkMaterialMagnitude.eq_def]
  simp only
  rcases hsurface : request.operation.inherentSafetySurface with _ | surface
  · simp only [Option.isSome_none, Bool.false_eq_true, if_false]
    by_cases hany : request.attribution.any (fun attribution =>
        attribution.jurisdictions.any agent.magnitudeThresholdPolicy.isSanctionedAdjacent) = true
    · rw [if_pos hany]
      refine iff_of_false nofun fun h => ?_
      rw [hsanctioned.mpr h.not_sanctioned] at hany
      cases hany
    · rw [if_neg hany]
      rw [Bool.not_eq_true] at hany
      constructor
      · intro h
        refine ⟨hsurface, hsanctioned.mp hany, ?_⟩
        intro amount hamount judged hjudged
        rw [hamount, hjudged] at h
        exact amountTrigger_eq_none_iff.mp h
      · intro h
        split
        · rename_i amount judged hamount
          exact amountTrigger_eq_none_iff.mpr (h.below_threshold amount hamount judged rfl)
        · rfl
  · refine iff_of_false nofun fun h => ?_
    rw [h.no_surface] at hsurface
    cases hsurface

theorem consultCashLegGate_eq_none_iff :
    agent.consultCashLegGate request dimension = none ↔ GateCleared request dimension := by
  rw [consultCashLegGate, GateCleared]
  by_cases hgated : dimension ∈ gateRequiredDimensions
  · rw [if_neg (not_not.mpr hgated)]
    simp only [hgated, forall_const]
    rcases request.catoCashDecision with _ | decision
    · simp
    · simp only [Option.some.injEq, exists_eq_left']
      -- a decision passes when it proceeds and is bound
      rcases hbound : decision.obligationId.isSome with _ | _ <;>
        by_cases hproceed : decision.decision = .proceed <;>
        simp [CatoCashDecision.proceeds, CatoCashDecision.bound, hbound, hproceed]
  · rw [if_pos hgated]
    exact iff_of_true rfl fun h => absurd h hgated

/-! ### Decisions -/

theorem runPrePathGuardrails_eq_ok_iff {verification : EligibilityVerification}
    {attribution : JurisdictionalAttribution} :
    agent.runPrePathGuardrails request dimension = .ok (.ok (verification, attribution)) ↔
      verifyEligibility request.eligibilityInputs = .ok verification ∧
        verification.allPassed = true ∧ request.attribution = some attribution := by
  rw [runPrePathGuardrails]
  constructor
  · intro h
    obtain ⟨verified, hverified, hresult⟩ := Outcome.bind_eq_ok.mp h
    split_ifs at hresult with hpassed
    · rcases hattribution : request.attribution with _ | found
      · rw [hattribution] at hresult
        cases hresult
      · rw [hattribution] at hresult
        cases hresult
        exact ⟨hverified, hpassed, rfl⟩
    · cases hresult
  · rintro ⟨hverified, hpassed, hattribution⟩
    rw [hverified, Outcome.ok_bind, dif_pos hpassed, hattribution]

theorem buildRoutingDecision_chosenPath {operation : CustodyOperation} {path : ApprovedPath}
    {verification : EligibilityVerification} {attribution : JurisdictionalAttribution}
    {emittedAt : Timestamp} {decision : RoutingDecision}
    (h : agent.buildRoutingDecision operation path dimension verification attribution emittedAt =
      .ok decision) : decision.recommendation.chosenPath = path.pathId := by
  rw [buildRoutingDecision] at h
  split_ifs at h
  cases h
  rfl

/-- The flow decides exactly when no guard fires and there is a path, and on the first. -/
theorem selectPath_eq_routingDecision {decision : RoutingDecision}
    (h : agent.selectPath request dimension currency candidates criteriaSummary =
      .ok (.routingDecision decision)) :
    Unguarded agent request dimension currency ∧
      ∃ path, candidates.head? = some path ∧
        decision.recommendation.chosenPath = path.pathId := by
  rw [selectPath.eq_def] at h
  rcases hhalt : agent.haltEscalation request dimension with _ | halted
  · rw [hhalt] at h
    rcases htrigger : agent.checkMaterialMagnitude request dimension currency with _ | triggered
    · rw [htrigger] at h
      obtain ⟨outcome, hguards, h⟩ := Outcome.bind_eq_ok.mp h
      rcases outcome with escalation | ⟨verification, attribution⟩
      · cases h
      · rcases hgate : agent.consultCashLegGate request dimension with _ | escalation
        · rcases candidates with _ | ⟨chosen, rest⟩
          · simp only [hgate] at h
            cases h
          · simp only [hgate] at h
            obtain ⟨built, hbuilt, h⟩ := Outcome.bind_eq_ok.mp h
            cases h
            obtain ⟨hverified, hpassed, hattribution⟩ := runPrePathGuardrails_eq_ok_iff.mp hguards
            exact ⟨⟨haltEscalation_eq_none_iff.mp hhalt,
              checkMaterialMagnitude_eq_none_iff.mp htrigger,
              verifyEligibility_passes_iff.mp ⟨verification, hverified, hpassed⟩,
              by rw [hattribution]; rfl, consultCashLegGate_eq_none_iff.mp hgate⟩,
              chosen, rfl, buildRoutingDecision_chosenPath hbuilt⟩
        · simp only [hgate] at h
          cases h
    · rw [htrigger] at h
      obtain ⟨quorum, -, h⟩ := Outcome.bind_eq_ok.mp h
      cases h
  · rw [hhalt] at h
    cases h

/-- Where no guard fires and there is a path, the flow decides. -/
theorem exists_routingDecision {path : ApprovedPath}
    (h : Unguarded agent request dimension currency) (hpath : candidates.head? = some path) :
    ∃ decision, agent.selectPath request dimension currency candidates criteriaSummary =
      .ok (.routingDecision decision) ∧ decision.recommendation.chosenPath = path.pathId := by
  obtain ⟨verification, hverified, hpassed⟩ := verifyEligibility_passes_iff.mpr h.eligible
  obtain ⟨attribution, hattribution⟩ := Option.isSome_iff_exists.mp h.attributed
  obtain ⟨rest, rfl⟩ : ∃ rest, candidates = path :: rest := by
    rcases candidates with _ | ⟨first, rest⟩
    · cases hpath
    · cases hpath
      exact ⟨rest, rfl⟩
  have hguards : agent.runPrePathGuardrails request dimension =
      .ok (.ok (verification, attribution)) :=
    runPrePathGuardrails_eq_ok_iff.mpr ⟨hverified, hpassed, hattribution⟩
  have hfinal := CustodyOperation.not_final h.below_quorum.no_surface
  rw [selectPath.eq_def, haltEscalation_eq_none_iff.mpr h.no_halt,
    checkMaterialMagnitude_eq_none_iff.mpr h.below_quorum]
  simp only [hguards, Outcome.ok_bind, consultCashLegGate_eq_none_iff.mpr h.gate]
  rw [buildRoutingDecision, dif_pos hpassed, dif_pos hfinal]
  exact ⟨_, rfl, rfl⟩

end Flow

/-! ## The seven selections -/

section Selections

open FiatOperationsSpecialist

variable {kernel : Kernel} {agent : FiatOperationsSpecialist}
  {request : PathSelectionRequest kernel} {selection : PathSelection} {path : ApprovedPath}

/-- A path operates in the jurisdiction, where one is stated. -/
def OperatesIn (jurisdiction : Option String) (path : ApprovedPath) : Prop :=
  ∀ stated, jurisdiction = some stated → stated ∈ path.eligibleJurisdictions

/-- A path has the finality, where one is stated. -/
def HasFinality (finality : Option FinalityModel) (path : ApprovedPath) : Prop :=
  ∀ stated, finality = some stated → path.finalityModel = some stated

/-- The path meets every criterion the selection states. -/
def PathSelection.Meets (path : ApprovedPath) : PathSelection → Prop
  | .multiCurrencyRailRouting currency jurisdiction finalityPreference =>
    currency ∈ path.eligibleCurrencies ∧ OperatesIn jurisdiction path ∧
      HasFinality finalityPreference path
  | .correspondentBankingCoordination currency jurisdiction =>
    currency ∈ path.eligibleCurrencies ∧ OperatesIn jurisdiction path
  | .crossBorderFxLeg currencyPair => upper currencyPair ∈ path.pvpEligiblePairs
  | .depositoryVsSubCustodian jurisdiction => jurisdiction ∈ path.eligibleJurisdictions
  | .largeValuePaymentSystem currency jurisdiction finalityPreference =>
    currency ∈ path.eligibleCurrencies ∧ OperatesIn jurisdiction path ∧
      HasFinality finalityPreference path
  | .fedRelatedOperation fedFacilityPathId => path.pathId = fedFacilityPathId
  | .cashSweepAndShortTermInvestment currency => currency ∈ path.eligibleCurrencies

/-- The dimensions whose paths the query of the selection returns. -/
def PathSelection.queried : PathSelection → Finset PathSelectionDimension
  | .multiCurrencyRailRouting .. => railDimensions
  | selection => {selection.dimension}

theorem meetsJurisdiction_iff {jurisdiction : Option String} :
    RoutingTables.meetsJurisdiction jurisdiction path = true ↔ OperatesIn jurisdiction path := by
  rcases jurisdiction with _ | stated <;> simp [RoutingTables.meetsJurisdiction, OperatesIn]

theorem hasFinality_iff {finality : Option FinalityModel} :
    (finality.all fun stated => decide (path.finalityModel = some stated)) = true ↔
      HasFinality finality path := by
  rcases finality with _ | stated <;> simp [HasFinality]

theorem mem_findRailPaths {tables : RoutingTables} {currency : String}
    {jurisdiction : Option String} {finality : Option FinalityModel} :
    path ∈ tables.findRailPaths currency jurisdiction finality ↔
      path ∈ tables.paths ∧ path.dimensions ∩ railDimensions ≠ ∅ ∧
        currency ∈ path.eligibleCurrencies ∧ OperatesIn jurisdiction path ∧
          HasFinality finality path := by
  simp only [RoutingTables.findRailPaths, List.mem_filter, Bool.and_eq_true, hasFinality_iff,
    meetsJurisdiction_iff, decide_eq_true_eq, and_assoc]

theorem inter_singleton_ne_empty_iff {dimension : PathSelectionDimension}
    {dimensions : Finset PathSelectionDimension} :
    dimensions ∩ {dimension} ≠ ∅ ↔ dimension ∈ dimensions := by
  rw [← Finset.nonempty_iff_ne_empty]
  constructor
  · rintro ⟨found, hfound⟩
    obtain ⟨hmem, hsingle⟩ := Finset.mem_inter.mp hfound
    rwa [← Finset.mem_singleton.mp hsingle]
  · intro h
    exact ⟨dimension, Finset.mem_inter.mpr ⟨h, Finset.mem_singleton_self dimension⟩⟩

/-- A path that serves large values serves a rail dimension. -/
theorem inter_railDimensions_ne_empty {dimensions : Finset PathSelectionDimension}
    (h : .largeValuePaymentSystem ∈ dimensions) : dimensions ∩ railDimensions ≠ ∅ := by
  rw [← Finset.nonempty_iff_ne_empty]
  exact ⟨.largeValuePaymentSystem, Finset.mem_inter.mpr ⟨h, by decide⟩⟩

theorem mem_fedFacility {fedFacilityPathId : String} :
    path ∈ agent.fedFacility fedFacilityPathId ↔ path ∈ agent.routingTables.paths ∧
      .fedRelatedOperation ∈ path.dimensions ∧ path.pathId = fedFacilityPathId := by
  rw [fedFacility, Option.mem_toList, Option.filter_eq_some_iff,
    RoutingTables.findPath_eq_some_iff, decide_eq_true_eq]
  tauto

/-- The query of a selection returns the paths of the registry that serve a dimension it asks
for and meet the criteria. -/
theorem PathSelection.mem_candidates : path ∈ selection.candidates agent ↔
    path ∈ agent.routingTables.paths ∧ path.dimensions ∩ selection.queried ≠ ∅ ∧
      selection.Meets path := by
  cases selection with
  | multiCurrencyRailRouting currency jurisdiction finality => exact mem_findRailPaths
  | largeValuePaymentSystem currency jurisdiction finality =>
    simp only [candidates, largeValueCandidates, List.mem_filter, mem_findRailPaths, queried,
      dimension, inter_singleton_ne_empty_iff, Meets, decide_eq_true_eq]
    constructor
    · rintro ⟨⟨hmem, -, hmeets⟩, hserves⟩
      exact ⟨hmem, hserves, hmeets⟩
    · rintro ⟨hmem, hserves, hmeets⟩
      exact ⟨⟨hmem, inter_railDimensions_ne_empty hserves, hmeets⟩, hserves⟩
  | fedRelatedOperation fedFacilityPathId =>
    simp only [queried, dimension, inter_singleton_ne_empty_iff]
    exact mem_fedFacility
  | correspondentBankingCoordination currency jurisdiction =>
    simp only [candidates, RoutingTables.findCorrespondentPaths, List.mem_filter, queried,
      dimension, inter_singleton_ne_empty_iff, Meets, Bool.and_eq_true, decide_eq_true_eq,
      meetsJurisdiction_iff, and_assoc]
  | crossBorderFxLeg currencyPair =>
    simp only [candidates, RoutingTables.findFxPvpPaths, List.mem_filter, queried,
      dimension, inter_singleton_ne_empty_iff, Meets, Bool.and_eq_true, decide_eq_true_eq]
  | depositoryVsSubCustodian jurisdiction =>
    simp only [candidates, RoutingTables.findDepositoryPaths, List.mem_filter, queried,
      dimension, inter_singleton_ne_empty_iff, Meets, Bool.and_eq_true, decide_eq_true_eq]
  | cashSweepAndShortTermInvestment currency =>
    simp only [candidates, RoutingTables.findCashSweepPaths, List.mem_filter, queried,
      dimension, inter_singleton_ne_empty_iff, Meets, Bool.and_eq_true, decide_eq_true_eq]

/-- What a routing decision must rest on: no guard fires, the path is approved for the
dimension of the selection, and it meets every criterion stated. -/
structure Warranted (agent : FiatOperationsSpecialist) (request : PathSelectionRequest kernel)
    (selection : PathSelection) (decision : RoutingDecision) : Prop where
  no_halt : ∀ halt, request.halt = some halt → kernel.gateUnderHalt halt .atreides ≠ .block
  below_quorum : BelowQuorum agent request selection.dimension selection.judgedCurrency
  eligible : Eligible request.eligibilityInputs
  attributed : request.attribution.isSome = true
  approved : agent.routingTables.isApproved decision.recommendation.chosenPath
    selection.dimension = true
  meets : ∃ path, agent.routingTables.findPath decision.recommendation.chosenPath = some path ∧
    selection.Meets path

/-- The first rail path that meets the criteria of a multi-currency selection serves that
dimension itself, unless a guard fires first. Nothing is asked of the other selections. -/
def FirstRailServes (agent : FiatOperationsSpecialist) (request : PathSelectionRequest kernel) :
    PathSelection → Prop
  | .multiCurrencyRailRouting currency jurisdiction finalityPreference =>
    Unguarded agent request .multiCurrencyRailRouting (some currency) →
      ∀ path, (agent.routingTables.findRailPaths currency jurisdiction
        finalityPreference).head? = some path → .multiCurrencyRailRouting ∈ path.dimensions
  | _ => True

/-- A decision of a selection comes with no guard firing and the first path of its query. -/
theorem PathSelection.run_decides {decision : RoutingDecision}
    (h : selection.run agent request = .ok (.routingDecision decision)) :
    Unguarded agent request selection.dimension selection.judgedCurrency ∧
      ∃ path, (selection.candidates agent).head? = some path ∧
        decision.recommendation.chosenPath = path.pathId := by
  obtain ⟨criteriaSummary, hrun⟩ := selection.run_eq agent request
  rw [hrun] at h
  exact selectPath_eq_routingDecision h

theorem PathSelection.exists_decision
    (h : Unguarded agent request selection.dimension selection.judgedCurrency)
    (hpath : (selection.candidates agent).head? = some path) :
    ∃ decision, selection.run agent request = .ok (.routingDecision decision) ∧
      decision.recommendation.chosenPath = path.pathId := by
  obtain ⟨criteriaSummary, hrun⟩ := selection.run_eq agent request
  rw [hrun]
  exact exists_routingDecision h hpath

/-- The dimension is the only one the query asks for, except in the multi-currency one. -/
theorem PathSelection.serves_of_queried (hserves : path.dimensions ∩ selection.queried ≠ ∅)
    (h : ∀ currency jurisdiction finality,
      selection ≠ .multiCurrencyRailRouting currency jurisdiction finality) :
    selection.dimension ∈ path.dimensions := by
  cases selection with
  | multiCurrencyRailRouting currency jurisdiction finality => exact absurd rfl (h _ _ _)
  | _ => exact inter_singleton_ne_empty_iff.mp hserves

/-- Every decision of a selection is warranted exactly when the first rail path serves the
multi-currency dimension, where that is the dimension of the selection. -/
theorem warranted_iff (agent : FiatOperationsSpecialist) (request : PathSelectionRequest kernel)
    (selection : PathSelection) :
    (∀ decision, selection.run agent request = .ok (.routingDecision decision) →
      Warranted agent request selection decision) ↔ FirstRailServes agent request selection := by
  constructor
  · intro hwarranted
    cases selection with
    | multiCurrencyRailRouting currency jurisdiction finality =>
      intro hunguarded path hpath
      obtain ⟨decision, hrun, hchosen⟩ := @PathSelection.exists_decision _ agent request
        (.multiCurrencyRailRouting currency jurisdiction finality) path hunguarded hpath
      have happroved := (hwarranted decision hrun).approved
      have hmem := (mem_findRailPaths.mp (List.mem_of_head? hpath)).1
      rw [hchosen, RoutingTables.isApproved_of_mem hmem] at happroved
      exact happroved
    | _ => trivial
  · intro hfirst decision hrun
    obtain ⟨hunguarded, path, hpath, hchosen⟩ := PathSelection.run_decides hrun
    obtain ⟨hmem, hserves, hmeets⟩ := PathSelection.mem_candidates.mp (List.mem_of_head? hpath)
    have hdimension : selection.dimension ∈ path.dimensions := by
      cases selection with
      | multiCurrencyRailRouting currency jurisdiction finality =>
        exact hfirst hunguarded path hpath
      | _ => exact PathSelection.serves_of_queried hserves nofun
    refine ⟨hunguarded.no_halt, hunguarded.below_quorum, hunguarded.eligible,
      hunguarded.attributed, ?_, path, ?_, hmeets⟩
    · rw [hchosen, RoutingTables.isApproved_of_mem hmem]
      exact hdimension
    · rw [hchosen]
      exact RoutingTables.findPath_eq_some_iff.mpr ⟨hmem, rfl⟩

end Selections

/-! ### A registry with a path for large values only -/

/-- A hash that gives every text one digest. -/
def plainSha256 : Bytes → Sha256Hex :=
  fun _ => ⟨"0000000000000000000000000000000000000000000000000000000000000000",
    by decide +kernel⟩

/-- The time of the samples. -/
def sampleTime : Timestamp := .midnight (.of 2026 5 3)

/-- An equity operation, approved by one authority. -/
def sampleOperation : CustodyOperation where
  kind := "equity"
  lineage := {
    operationId := ⟨"00000000-0000-0000-0000-000000000001", by decide +kernel⟩
    authorityTier := .t1
    authorityId := "operator-1"
    initiatedAt := sampleTime
    preOperationStateHash := plainSha256 [] }
  custodyObject := {
    beneficialOwnerId := "owner-1"
    assetClass := { majorCategory := .traditionalFinancialSecurities, subCategory := "equity" } }
  failureModeClass := .ra

/-- Evidence of an owner who is identified and screened. -/
def sampleEligibility : EligibilityInputs where
  checkTime := sampleTime
  kyc := some { beneficialOwnerId := "owner-1", expiresAt := .midnight (.of 2027 5 3) }
  ofacScreenings := [{ subjectId := "owner-1", isMatch := false }]
  sanctionsScreenings := [{ subjectId := "owner-1", isMatch := false }]
  requiresKyb := false

theorem sampleEligibility_eligible : Eligible sampleEligibility where
  owner := ⟨_, rfl, rfl⟩
  counterparty := fun h => by cases h
  ofac_screened := List.cons_ne_nil _ _
  ofac_clear := by decide
  sanctions_screened := List.cons_ne_nil _ _
  sanctions_clear := by decide
  correspondents := fun h => by cases h

/-- A decision of the gate that proceeds, for an obligation. -/
def sampleGateDecision : CatoCashDecision plainKernel where
  decision := .proceed
  reasonCode := .cleared
  recommendedRail := some .fedwire
  finalityClass := some .grossFinal
  rationale := "cleared"
  checksEvaluated := [("funded", "True")]
  fundingStateSnapshot := []
  evaluatedNotional := some (.finite 10)
  evaluatedCurrency := some "USD"
  obligationId := some "obl_01M2P20SY00000000000000001"
  obligationDigest :=
    some "sha256:0000000000000000000000000000000000000000000000000000000000000000"
  admitted := by decide +kernel

/-- A request that no guard stops. -/
def sampleRequest : PathSelectionRequest plainKernel where
  operation := sampleOperation
  eligibilityInputs := sampleEligibility
  attribution := some {
    originatingJurisdiction := "US"
    receivingJurisdiction := "US"
    veranaSessionId := "session-1"
    attributedAt := sampleTime }
  emittedAt := sampleTime
  catoCashDecision := some sampleGateDecision

/-- An agent that judges no amount. -/
def sampleAgent (paths : List ApprovedPath)
    (h : (paths.map ApprovedPath.pathId).Nodup := by decide) : FiatOperationsSpecialist where
  routingTables := ⟨paths, h⟩
  magnitudeThresholdPolicy := {}
  sha256 := plainSha256

theorem sampleRequest_unguarded {paths : List ApprovedPath}
    {h : (paths.map ApprovedPath.pathId).Nodup} (dimension : PathSelectionDimension)
    (currency : Option String) :
    Unguarded (sampleAgent paths h) sampleRequest dimension currency where
  no_halt := nofun
  below_quorum := {
    no_surface := rfl
    not_sanctioned := fun _ _ _ _ => Finset.notMem_empty _
    below_threshold := nofun }
  eligible := sampleEligibility_eligible
  attributed := rfl
  gate := fun _ => ⟨sampleGateDecision, rfl, rfl, rfl⟩

/-- A dollar path for large values, and for nothing else. -/
def largeValuePath : ApprovedPath where
  pathId := "chips_large_value"
  dimensions := {.largeValuePaymentSystem}
  description := "Large-value dollar payments only."
  eligibleCurrencies := {"USD"}
  finalityModel := some .netFinalEod

/-- A multi-currency selection decides on a path that is approved for large values only. -/
theorem largeValuePath_not_warranted :
    ¬ ∀ (kernel : Kernel) (agent : FiatOperationsSpecialist)
      (request : PathSelectionRequest kernel) (selection : PathSelection)
      (decision : RoutingDecision), selection.run agent request = .ok (.routingDecision decision) →
        Warranted agent request selection decision := by
  intro h
  obtain ⟨decision, hrun, hchosen⟩ := @PathSelection.exists_decision _
    (sampleAgent [largeValuePath]) sampleRequest (.multiCurrencyRailRouting "USD" none none)
    largeValuePath (sampleRequest_unguarded _ _) rfl
  have happroved := (h _ _ _ _ _ hrun).approved
  rw [hchosen] at happroved
  revert happroved
  decide

end Atreides
