import Atreides.Agents.Selection

/-!
# What the evidence of a request is about

A request carries a decision of the cash gate and attestations of correspondents. The
selections ask whether the decision proceeds and names some obligation, and whether the
correspondents the request expects are attested. They do not ask whether the obligation and the
amount are those of the operation, nor whether the correspondent that is chosen is one of those
expected. So a routing rests on the right evidence exactly where the caller presents it.

An operation has no field for an obligation. Which one it carries is a parameter here.

## Main definitions

* `Governs` — the gate's decision is about the operation and its amount
* `Attested` — a correspondent has an attestation that is not expired

## Main results

* `governed_iff` — a gated routing is governed, exactly
* `correspondent_attested_iff` — a routing goes through an attested correspondent, exactly
* `attested_of_expected` — an expected correspondent is attested
-/

namespace Atreides

open FiatOperationsSpecialist

/-! ## The decision of the gate -/

section Gate

variable {kernel : Kernel} {agent : FiatOperationsSpecialist}
  {request : PathSelectionRequest kernel} {selection : PathSelection}

/-- The request carries a decision of the gate that proceeds, for the obligation the operation
carries, and on the amount the request states, in the currency that is routed. -/
def Governed (carried : CustodyOperation → Option String)
    (request : PathSelectionRequest kernel) (selection : PathSelection) : Prop :=
  ∃ decision, request.catoCashDecision = some decision ∧ decision.decision = .proceed ∧
    (∃ obligation, decision.obligationId = some obligation ∧
      carried request.operation = some obligation) ∧
    ∀ amount, request.amount = some amount →
      (∃ notional, decision.evaluatedNotional = some (.finite notional) ∧
        notional.eq amount = true) ∧
      decision.evaluatedCurrency = selection.judgedCurrency

/-- Where the gate is required, the decision of the request governs the operation, unless a
guard fires or no path meets the criteria. -/
def PresentsGoverning (carried : CustodyOperation → Option String)
    (agent : FiatOperationsSpecialist) (request : PathSelectionRequest kernel)
    (selection : PathSelection) : Prop :=
  Unguarded agent request selection.dimension selection.judgedCurrency →
    selection.candidates agent ≠ [] → Governed carried request selection

/-- A routing in a gated dimension rests on a decision that proceeds, for some obligation. -/
theorem gate_of_run {decision : RoutingDecision}
    (hgated : selection.dimension ∈ gateRequiredDimensions)
    (h : selection.run agent request = .ok (.routingDecision decision)) :
    ∃ gated, request.catoCashDecision = some gated ∧ gated.decision = .proceed ∧
      gated.obligationId.isSome = true :=
  (PathSelection.run_decides h).1.gate hgated

/-- A routing in a gated dimension is governed exactly when the caller presents a decision that
governs it. -/
theorem governed_iff (carried : CustodyOperation → Option String)
    (agent : FiatOperationsSpecialist) (request : PathSelectionRequest kernel)
    (selection : PathSelection) :
    (selection.dimension ∈ gateRequiredDimensions →
      ∀ decision, selection.run agent request = .ok (.routingDecision decision) →
        Governed carried request selection) ↔
      (selection.dimension ∈ gateRequiredDimensions →
        PresentsGoverning carried agent request selection) := by
  constructor
  · intro h hgated hunguarded hcandidates
    obtain ⟨path, hpath⟩ : ∃ path, (selection.candidates agent).head? = some path := by
      rcases hlist : selection.candidates agent with _ | ⟨path, rest⟩
      · exact absurd hlist hcandidates
      · exact ⟨path, rfl⟩
    obtain ⟨decision, hrun, -⟩ := PathSelection.exists_decision hunguarded hpath
    exact h hgated decision hrun
  · intro h hgated decision hrun
    obtain ⟨hunguarded, path, hpath, -⟩ := PathSelection.run_decides hrun
    refine h hgated hunguarded fun hnil => ?_
    rw [hnil] at hpath
    cases hpath

end Gate

/-! ### A decision on another amount -/

/-- A request for a million, with a decision of the gate on ten. -/
def millionRequest : PathSelectionRequest plainKernel :=
  { sampleRequest with amount := some ⟨false, 1, 6⟩ }

/-- The wire. -/
def wirePath : ApprovedPath where
  pathId := "fedwire"
  dimensions := {.multiCurrencyRailRouting, .largeValuePaymentSystem}
  description := "The wire."
  eligibleCurrencies := {"USD"}
  finalityModel := some .rtgsFinal

/-- A million is routed on a decision of the gate on ten, whichever obligation the operation
carries. -/
theorem millionRequest_not_governed :
    ¬ ∃ carried : CustodyOperation → Option String,
      ∀ (kernel : Kernel) (agent : FiatOperationsSpecialist)
        (request : PathSelectionRequest kernel) (selection : PathSelection),
        selection.dimension ∈ gateRequiredDimensions →
          ∀ decision, selection.run agent request = .ok (.routingDecision decision) →
            Governed carried request selection := by
  rintro ⟨carried, h⟩
  have hunguarded : Unguarded (sampleAgent [wirePath]) millionRequest
      .multiCurrencyRailRouting (some "USD") := {
    no_halt := nofun
    below_quorum := {
      no_surface := rfl
      not_sanctioned := fun _ _ _ _ => Finset.notMem_empty _
      below_threshold := fun _ _ _ _ => ⟨fun _ => rfl, fun _ => rfl, fun _ => rfl⟩ }
    eligible := sampleEligibility_eligible
    attributed := rfl
    gate := fun _ => ⟨sampleGateDecision, rfl, rfl, rfl⟩ }
  obtain ⟨decision, hrun, -⟩ := @PathSelection.exists_decision _ (sampleAgent [wirePath])
    millionRequest (.multiCurrencyRailRouting "USD" none none) wirePath hunguarded rfl
  obtain ⟨gated, hgated, -, -, hamount⟩ := h _ _ _ _ (by decide) decision hrun
  cases hgated
  obtain ⟨⟨notional, hnotional, heq⟩, -⟩ := hamount _ rfl
  cases hnotional
  revert heq
  decide

/-! ## The correspondent -/

section Correspondent

variable {kernel : Kernel} {agent : FiatOperationsSpecialist}
  {request : PathSelectionRequest kernel} {currency : String} {jurisdiction : Option String}

/-- The correspondent has an attestation that is not expired at the time of the check. -/
def Attested (inputs : EligibilityInputs) (bic : String) : Prop :=
  ∃ evidence ∈ inputs.correspondentCompliance, evidence.correspondentBic = bic ∧
    Current evidence.expiresAt inputs.checkTime

/-- The correspondent of the first path that meets the criteria is attested, unless a guard
fires. -/
def FirstCorrespondentAttested (agent : FiatOperationsSpecialist)
    (request : PathSelectionRequest kernel) (currency : String) (jurisdiction : Option String) :
    Prop :=
  Unguarded agent request .correspondentBankingCoordination (some currency) →
    ∀ path, (agent.routingTables.findCorrespondentPaths currency jurisdiction).head? = some path →
      ∃ bic, path.correspondentBic = some bic ∧ Attested request.eligibilityInputs bic

/-- A correspondent routing goes through an attested correspondent exactly when the first
correspondent of the registry that meets the criteria is one. -/
theorem correspondent_attested_iff (agent : FiatOperationsSpecialist)
    (request : PathSelectionRequest kernel) (currency : String) (jurisdiction : Option String) :
    (∀ decision, agent.selectCorrespondentBankingCoordination request currency jurisdiction =
        .ok (.routingDecision decision) →
      ∃ path bic, agent.routingTables.findPath decision.recommendation.chosenPath = some path ∧
        path.correspondentBic = some bic ∧ Attested request.eligibilityInputs bic) ↔
      FirstCorrespondentAttested agent request currency jurisdiction := by
  constructor
  · intro h hunguarded path hpath
    obtain ⟨decision, hrun, hchosen⟩ := @PathSelection.exists_decision _ agent request
      (.correspondentBankingCoordination currency jurisdiction) path hunguarded hpath
    obtain ⟨found, bic, hfound, hbic, hattested⟩ := h decision hrun
    have hmem : path ∈ agent.routingTables.paths :=
      List.mem_of_mem_filter (List.mem_of_head? hpath)
    rw [hchosen, RoutingTables.findPath_eq_some_iff.mpr ⟨hmem, rfl⟩] at hfound
    cases hfound
    exact ⟨bic, hbic, hattested⟩
  · intro h decision hrun
    obtain ⟨hunguarded, path, hpath, hchosen⟩ := @PathSelection.run_decides _ agent request
      (.correspondentBankingCoordination currency jurisdiction) decision hrun
    obtain ⟨bic, hbic, hattested⟩ := h hunguarded path hpath
    have hmem : path ∈ agent.routingTables.paths :=
      List.mem_of_mem_filter (List.mem_of_head? hpath)
    refine ⟨path, bic, ?_, hbic, hattested⟩
    rw [hchosen]
    exact RoutingTables.findPath_eq_some_iff.mpr ⟨hmem, rfl⟩

/-- A correspondent the inputs expect, where they require compliance, is attested. -/
theorem attested_of_expected {inputs : EligibilityInputs} {bic : String}
    (heligible : Eligible inputs) (hrequired : inputs.requiresCorrespondentCompliance = true)
    (hexpected : bic ∈ inputs.expectedCorrespondentBics) : Attested inputs bic := by
  obtain ⟨evidence, hfound, hcurrent⟩ := heligible.correspondents hrequired bic hexpected
  obtain ⟨found, hmem, hpair⟩ := List.mem_map.mp (Dict.mem_of_get?_ofPairs hfound)
  cases hpair
  exact ⟨evidence, hmem, rfl, hcurrent⟩

end Correspondent

/-! ### A correspondent nobody expected -/

/-- A dollar correspondent. -/
def correspondentPath : ApprovedPath where
  pathId := "correspondent_usd_new_york"
  dimensions := {.correspondentBankingCoordination}
  description := "A New York USD correspondent."
  eligibleCurrencies := {"USD"}
  correspondentBic := some "AAAAUS33"

/-- A routing goes through a correspondent of which the evidence says nothing. -/
theorem correspondentPath_not_attested :
    ¬ ∀ (kernel : Kernel) (agent : FiatOperationsSpecialist)
      (request : PathSelectionRequest kernel) (currency : String) (jurisdiction : Option String)
      (decision : RoutingDecision),
      agent.selectCorrespondentBankingCoordination request currency jurisdiction =
          .ok (.routingDecision decision) →
        ∃ path bic, agent.routingTables.findPath decision.recommendation.chosenPath = some path ∧
          path.correspondentBic = some bic ∧ Attested request.eligibilityInputs bic := by
  intro h
  obtain ⟨decision, hrun, -⟩ := @PathSelection.exists_decision _
    (sampleAgent [correspondentPath]) sampleRequest
    (.correspondentBankingCoordination "USD" none) correspondentPath
    (sampleRequest_unguarded _ _) rfl
  obtain ⟨-, -, -, -, evidence, hevidence, -⟩ := h _ _ _ _ _ _ hrun
  cases hevidence

end Atreides
