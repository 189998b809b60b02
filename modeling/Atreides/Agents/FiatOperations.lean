import Atreides.Agents.Outputs
import Atreides.Rails.CatoCash

/-!
# The FIAT operations specialist

The specialist selects a path for the money side of an operation. Every selection asks the
same questions in the same order: is a halt in force, does the operation need a quorum, is it
eligible, is it attributed, has the cash gate cleared it where the dimension needs the gate,
and is there an approved path. The first path of the registry that meets the criteria is
chosen.

## Main definitions

* `MagnitudeThresholdPolicy`, `PathSelectionRequest` — what the specialist is given
* `FiatOperationsSpecialist` — its registry, its policy and the hash it calls
* `selectPath` — the flow the seven selections share
* `selectMultiCurrencyRailRouting` and its siblings — the seven selections
-/

namespace Atreides

/-! ## Inputs -/

/-- The amounts from which an operation needs a quorum, by currency, and the jurisdictions
next to which it does. -/
structure MagnitudeThresholdPolicy where
  fiatSettlementThresholds : Dict String FiniteDecimal := .empty
  lvpsFinalityThresholds : Dict String FiniteDecimal := .empty
  fxBundledThresholds : Dict String FiniteDecimal := .empty
  sanctionedAdjacencyJurisdictions : Finset String := ∅
  fiat_positive : fiatSettlementThresholds.values.all (FiniteDecimal.lt 0) = true := by decide
  lvps_positive : lvpsFinalityThresholds.values.all (FiniteDecimal.lt 0) = true := by decide
  fx_positive : fxBundledThresholds.values.all (FiniteDecimal.lt 0) = true := by decide

/-- The amount reaches the threshold of its currency, where there is one. -/
def reachesThreshold (thresholds : Dict String FiniteDecimal) (currency : String)
    (amount : FiniteDecimal) : Bool :=
  (thresholds.get? currency).any fun threshold => threshold.le amount

namespace MagnitudeThresholdPolicy

def isFiatSettlementMaterial (policy : MagnitudeThresholdPolicy) :
    String → FiniteDecimal → Bool := reachesThreshold policy.fiatSettlementThresholds

def isLvpsFinalityMaterial (policy : MagnitudeThresholdPolicy) :
    String → FiniteDecimal → Bool := reachesThreshold policy.lvpsFinalityThresholds

def isFxBundledMaterial (policy : MagnitudeThresholdPolicy) :
    String → FiniteDecimal → Bool := reachesThreshold policy.fxBundledThresholds

def isSanctionedAdjacent (policy : MagnitudeThresholdPolicy) (jurisdiction : String) : Bool :=
  jurisdiction ∈ policy.sanctionedAdjacencyJurisdictions

end MagnitudeThresholdPolicy

/-- The dimensions that choose a settlement rail for cash, and so need the gate. -/
def gateRequiredDimensions : List PathSelectionDimension :=
  [.multiCurrencyRailRouting, .crossBorderFxLeg, .largeValuePaymentSystem]

/-- What every selection is given. The decision of the cash gate is the caller's. -/
structure PathSelectionRequest (kernel : Kernel) where
  operation : CustodyOperation
  eligibilityInputs : EligibilityInputs
  attribution : Option JurisdictionalAttribution := none
  emittedAt : Timestamp
  catoCashDecision : Option (CatoCashDecision kernel) := none
  halt : Option HaltContext := none
  amount : Option FiniteDecimal := none

/-- The specialist, with the hash it calls. -/
structure FiatOperationsSpecialist where
  routingTables : RoutingTables
  magnitudeThresholdPolicy : MagnitudeThresholdPolicy
  sha256 : Bytes → Sha256Hex

namespace FiatOperationsSpecialist

variable {kernel : Kernel} (agent : FiatOperationsSpecialist)

/-- The digest of texts joined by bars. -/
def hashOf (components : List String) : Sha256Hex :=
  agent.sha256 (String.intercalate "|" components).toUTF8.data.toList

def computeTelemetryHash (operationId : Uuid) (decisionKind : String)
    (orderedInputsSignature : List String) : Sha256Hex :=
  agent.hashOf (operationId.text :: currentDoctrineVersion :: decisionKind ::
    agentClassFiatOperationsSpecialist :: orderedInputsSignature)

/-! ## Escalations -/

/-- A hold against an instruction that would break one of the other guardrails. The hash is taken
over a digest of the instruction, under the identifier the caller gives as a text. -/
def buildDoctrineOverCodeEscalation (operationId : String) (lineageStub : DsorLineageStub)
    (cascadeGuardrail : JClassGuardrail) (cascadeFailureDescription externalInstruction : String)
    (emittedAt : Timestamp) (attemptedDimension : Option PathSelectionDimension := none) :
    Outcome EscalationRequired :=
  if hcascade : cascadeGuardrail = .doctrineOverCode then
    .error (.valueError ("EscalationRequired.cascade_guardrail cannot itself be " ++
      "DOCTRINE_OVER_CODE; the cascade must name a different guardrail (1, 3, 4, or 5) that " ++
      "the external instruction would have violated."))
  else if hinstruction : externalInstruction = "" then
    .error (.valueError ("EscalationRequired with failed_guardrail=DOCTRINE_OVER_CODE must " ++
      "carry conflicting_external_instruction; operators need to review what the agent " ++
      "rejected."))
  else
    .ok {
      operationId := lineageStub.operationId
      agentTelemetryHash := agent.hashOf [operationId, currentDoctrineVersion,
        "escalation_required", agentClassFiatOperationsSpecialist, "doctrine_over_code",
        cascadeGuardrail.value,
        (agent.sha256 externalInstruction.toUTF8.data.toList).text]
      lineageStub
      emittedAt
      of_lineage := rfl
      failedGuardrail := .doctrineOverCode
      cascadeGuardrail := some cascadeGuardrail
      failureReason := "Doctrine-over-code hold per AUR-CUSTODY-001 v1.0 Section VI " ++
        "Guardrail 2: external instruction conflicts with " ++ cascadeGuardrail.value ++ " — " ++
        cascadeFailureDescription
      escalationTier := .t2
      attemptedDimension
      conflictingExternalInstruction := some externalInstruction
      cascade_of_doctrine := by simp
      cascade_elsewhere := by simpa using hcascade
      instruction_of_doctrine := fun _ => by simpa using hinstruction
      verification_of_eligibility := nofun }

/-- An escalation about an operation, with the signature its telemetry hash is taken over. -/
def escalationBase (operation : CustodyOperation) (emittedAt : Timestamp)
    (signature : List String) : OutputBase where
  operationId := operation.lineage.operationId
  agentTelemetryHash :=
    agent.computeTelemetryHash operation.lineage.operationId "escalation_required" signature
  lineageStub := operation.lineage
  emittedAt
  of_lineage := rfl

def buildEligibilityEscalation (operation : CustodyOperation)
    (verification : EligibilityVerification) (attemptedDimension : PathSelectionDimension)
    (emittedAt : Timestamp) (hfailed : verification.allPassed = false) : EscalationRequired :=
  let failed := (verification.failedChecks.map (·.kind.value)).insertionSort (· ≤ ·)
  { agent.escalationBase operation emittedAt
      ("eligibility_failed" :: attemptedDimension.value :: failed) with
    failedGuardrail := .eligibilityBeforeRouting
    failureReason := "Eligibility verification failed for checks: " ++ quotedList failed ++
      " per AUR-CUSTODY-001 v1.0 Section VI Guardrail 4 (eligibility before routing)."
    escalationTier := .t1
    attemptedDimension := some attemptedDimension
    eligibilityVerification := some verification
    verification_of_eligibility := fun _ => by simp [hfailed] }

def buildAttributionEscalation (operation : CustodyOperation)
    (attemptedDimension : PathSelectionDimension) (emittedAt : Timestamp) : EscalationRequired :=
  { agent.escalationBase operation emittedAt
      ["attribution_missing", attemptedDimension.value] with
    failedGuardrail := .jurisdictionalAttribution
    failureReason := "Jurisdictional attribution missing per AUR-CANONICAL-001 v1.6 Section II " ++
      "(Verana — Network Governance) and Axiom 8 (Verana Autonomous Block); the agent does " ++
      "not route past missing Verana attribution."
    escalationTier := .t2
    attemptedDimension := some attemptedDimension
    verification_of_eligibility := nofun }

def buildApprovedPathsEscalation (operation : CustodyOperation)
    (attemptedDimension : PathSelectionDimension) (emittedAt : Timestamp)
    (criteriaSummary : String) : EscalationRequired :=
  { agent.escalationBase operation emittedAt
      ["no_approved_path", attemptedDimension.value, criteriaSummary] with
    failedGuardrail := .approvedPathsOnly
    failureReason := "No approved path matches operation requirements in dimension " ++
      quoted attemptedDimension.value ++ " (" ++ criteriaSummary ++ ") per " ++
      "AUR-CANONICAL-001 v1.6 Section II Thifur-J Guardrail 1 (approved paths only); the " ++
      "agent does not generate new paths."
    escalationTier := .t1
    attemptedDimension := some attemptedDimension
    verification_of_eligibility := nofun }

/-! ## Decisions -/

def buildRoutingDecision (operation : CustodyOperation) (chosenPath : ApprovedPath)
    (dimension : PathSelectionDimension) (verification : EligibilityVerification)
    (attribution : JurisdictionalAttribution) (emittedAt : Timestamp) :
    Outcome RoutingDecision :=
  if heligible : verification.allPassed = true then
    if hfinal : operation.failureModeClass ≠ .urF then
      .ok {
        operationId := operation.lineage.operationId
        agentTelemetryHash :=
          agent.computeTelemetryHash operation.lineage.operationId "routing_decision"
            [dimension.value, chosenPath.pathId, "eligibility_passed", attribution.veranaSessionId]
        lineageStub := operation.lineage
        emittedAt
        of_lineage := rfl
        recommendation := {
          pathSelectionDimension := dimension
          chosenPath := chosenPath.pathId
          settlementMethod := operation.settlementMethod
          rationale := chosenPath.description }
        eligibilityVerification := verification
        jurisdictionalAttribution := attribution
        failureModeClass := operation.failureModeClass
        eligible := heligible
        not_final := hfinal }
    else
      .error (.valueError ("RoutingDecision cannot issue on UR-F operations per " ++
        "AUR-CUSTODY-001 v1.0 Section VIII; UR-F operations are inherent-safety surfaces and " ++
        "must route to QuorumAuthorityRequired with a quorum ceremony."))
  else
    .error (.valueError ("RoutingDecision requires all eligibility checks to pass per " ++
      "Guardrail 4; these checks failed: " ++
      quotedList ((verification.failedChecks.map (·.kind.value)).insertionSort (· ≤ ·)) ++
      ". Eligibility failures must produce EscalationRequired, never a routing decision."))

/-! ## Quorum -/

/-- The surface that puts the request before a quorum, where one does: the one the operation
declares, else that of a sanctioned jurisdiction, else that of an amount at its threshold. -/
def checkMaterialMagnitude (request : PathSelectionRequest kernel)
    (dimension : PathSelectionDimension) (currency : Option String) :
    Option InherentSafetySurface :=
  let policy := agent.magnitudeThresholdPolicy
  if request.operation.inherentSafetySurface.isSome then request.operation.inherentSafetySurface
  else if request.attribution.any (fun attribution =>
      attribution.jurisdictions.any policy.isSanctionedAdjacent) then
    some .fiatSettlementMaterial
  else
    match request.amount, currency with
    | some amount, some currency =>
      match dimension with
      | .multiCurrencyRailRouting =>
        if policy.isFiatSettlementMaterial currency amount then some .fiatSettlementMaterial
        else none
      | .largeValuePaymentSystem =>
        if policy.isLvpsFinalityMaterial currency amount then some .largeValuePaymentFinality
        else none
      | .crossBorderFxLeg =>
        if policy.isFxBundledMaterial currency amount then some .fxBundledSettlement else none
      | _ => none
    | _, _ => none

/-- The lineage of an operation before it is under a quorum. -/
def buildQuorumPreOperationLineage (operation : CustodyOperation) : DsorLineageStub :=
  { operation.lineage with
    authorityTier := .quorum
    authorityId :=
      if operation.lineage.authorityTier = .quorum then operation.lineage.authorityId
      else "pending-ceremony"
    postOperationStateHash := none
    authorityId_nonempty := by
      split_ifs
      · exact operation.lineage.authorityId_nonempty
      · decide }

def projectPostOperationHash (operation : CustodyOperation) (dimension : PathSelectionDimension)
    (chosenPathId : Option String) : Sha256Hex :=
  agent.hashOf [operation.lineage.operationId.text, operation.kind,
    operation.failureModeClass.value, dimension.value,
    chosenPathId.getD "no_path_recommendation"]

def buildQuorumProjectedPostLineage (operation : CustodyOperation)
    (dimension : PathSelectionDimension) (chosenPathId : Option String) : DsorLineageStub :=
  { buildQuorumPreOperationLineage operation with
    postOperationStateHash :=
      some (agent.projectPostOperationHash operation dimension chosenPathId) }

/-- The identifier of an asset, or its category and class where it has none. -/
def assetIdentifierOf (assetClass : AssetClass) : String :=
  match assetClass.assetIdentifier with
  | some identifier =>
    if identifier ≠ "" then identifier
    else assetClass.majorCategory.value ++ "/" ++ assetClass.subCategory
  | none => assetClass.majorCategory.value ++ "/" ++ assetClass.subCategory

def assembleOperationPackage (operation : CustodyOperation)
    (verification : EligibilityVerification) (recommendation : Option RoutingRecommendation)
    (dimension : PathSelectionDimension) : OperationPackage where
  operation
  beneficialOwnerIds := [operation.custodyObject.beneficialOwnerId]
  assetIds := [assetIdentifierOf operation.custodyObject.assetClass]
  preOperationDsorStateStub := buildQuorumPreOperationLineage operation
  projectedPostOperationDsorStateStub :=
    agent.buildQuorumProjectedPostLineage operation dimension
      (recommendation.map RoutingRecommendation.chosenPath)
  routingRecommendation := recommendation
  eligibilityVerification := verification
  pre_under_quorum := rfl
  post_projected := rfl

def buildQuorumAuthorityRequired (request : PathSelectionRequest kernel)
    (triggeredSurface : InherentSafetySurface) (verification : EligibilityVerification)
    (recommendation : Option RoutingRecommendation) (dimension : PathSelectionDimension) :
    Outcome QuorumAuthorityRequired :=
  if howned : triggeredSurface ∈ fiatSpecialistOwnedSurfaces then
    .ok {
      operationId := request.operation.lineage.operationId
      agentTelemetryHash :=
        agent.computeTelemetryHash request.operation.lineage.operationId
          "quorum_authority_required"
          [triggeredSurface.value,
            (recommendation.map RoutingRecommendation.chosenPath).getD "no_path_determined"]
      lineageStub := buildQuorumPreOperationLineage request.operation
      emittedAt := request.emittedAt
      of_lineage := rfl
      inherentSafetySurface := triggeredSurface
      operationPackage :=
        agent.assembleOperationPackage request.operation verification recommendation dimension
      surface_owned := howned
      of_package := rfl }
  else
    .error (.valueError ("QuorumAuthorityRequired.inherent_safety_surface " ++
      quoted triggeredSurface.value ++ " is not owned by the FIAT Operations Specialist. " ++
      "Per the operator's ruling on AUR-CUSTODY-001 v1.0 Section IX surface ownership, " ++
      "this agent owns: " ++
      quotedList ((fiatSpecialistOwnedSurfaces.map InherentSafetySurface.value).insertionSort
        (· ≤ ·)) ++ ". Other Section IX surfaces are owned by other roles (Custody Operations " ++
      "Analyst at Tier 1, Digital Asset Custody Specialist, Collateral Operations Specialist) " ++
      "or by layers above this agent."))

def routeToQuorum (request : PathSelectionRequest kernel)
    (triggeredSurface : InherentSafetySurface) (dimension : PathSelectionDimension)
    (candidates : List ApprovedPath) : Outcome QuorumAuthorityRequired := do
  let verification ← verifyEligibility request.eligibilityInputs
  let recommendation := candidates.head?.map fun path =>
    { pathSelectionDimension := dimension
      chosenPath := path.pathId
      settlementMethod := request.operation.settlementMethod
      rationale := path.description : RoutingRecommendation }
  agent.buildQuorumAuthorityRequired request triggeredSurface verification recommendation dimension

/-! ## Guardrails -/

def haltEscalation (request : PathSelectionRequest kernel) (dimension : PathSelectionDimension) :
    Option EscalationRequired :=
  match request.halt with
  | none => none
  | some halt =>
    if kernel.gateUnderHalt halt .atreides ≠ .block then none
    else
      some { agent.escalationBase request.operation request.emittedAt
          ["tier_0_halt", dimension.value, halt.haltId, toString halt.version] with
        failedGuardrail := .noSettlementWithoutLineage
        failureReason := "Halt " ++ halt.haltId ++ " (version " ++ toString halt.version ++
          ") is active for Atreides: " ++ halt.reason ++ ". No path is selected for dimension " ++
          quoted dimension.value ++ " under a declared halt (ATR-I-06)."
        escalationTier := .t0
        attemptedDimension := some dimension
        verification_of_eligibility := nofun }

/-- An escalation of the cash gate's guardrail. -/
def gateEscalation (request : PathSelectionRequest kernel) (dimension : PathSelectionDimension)
    (signature : List String) (failureReason : String) : EscalationRequired :=
  { agent.escalationBase request.operation request.emittedAt signature with
    failedGuardrail := .noSettlementWithoutLineage
    failureReason := trimmed failureReason
    escalationTier := .t1
    attemptedDimension := some dimension
    verification_of_eligibility := nofun }

def consultCashLegGate (request : PathSelectionRequest kernel)
    (dimension : PathSelectionDimension) : Option EscalationRequired :=
  if dimension ∉ gateRequiredDimensions then none
  else
    match request.catoCashDecision with
    | none =>
      some (agent.gateEscalation request dimension ["cato_cash_absent", dimension.value, "HOLD"]
        ("No Cato Cash gate decision supplied for dimension " ++ quoted dimension.value ++
          ", which is a cash-leg settlement-rail selection. Per AUR-CUSTODY-CASH-001 v0.2 " ++
          "Section V.E the absent-gate default is HOLD, never PROCEED; the agent does not " ++
          "route a cash leg the gate has not governed."))
    | some decision =>
      if decision.proceeds && !decision.bound then
        some (agent.gateEscalation request dimension
          ["cato_cash_unbound", dimension.value, "HOLD"]
          ("Cato Cash returned PROCEED for dimension " ++ quoted dimension.value ++
            " without naming the obligation it governs. An unbound gate decision cannot " ++
            "authorize routing: it could belong to any operation (ATR-I-04)."))
      else if decision.decision ≠ .proceed then
        -- the dispositions are in capitals, and the signature takes them in lower case
        some (agent.gateEscalation request dimension
          ["cato_cash_" ++ decision.decision.value.toLower, dimension.value,
            decision.reasonCode.value]
          ("Cato Cash returned " ++ decision.decision.value ++ " for dimension " ++
            quoted dimension.value ++ " (reason " ++ decision.reasonCode.value ++ "): " ++
            decision.rationale))
      else none

/-- Eligibility, then attribution. -/
def runPrePathGuardrails (request : PathSelectionRequest kernel)
    (attemptedDimension : PathSelectionDimension) :
    Outcome (Except EscalationRequired (EligibilityVerification × JurisdictionalAttribution)) := do
  let verification ← verifyEligibility request.eligibilityInputs
  if hpassed : verification.allPassed = true then
    match request.attribution with
    | none =>
      .ok (.error (agent.buildAttributionEscalation request.operation attemptedDimension
        request.emittedAt))
    | some attribution => .ok (.ok (verification, attribution))
  else
    .ok (.error (agent.buildEligibilityEscalation request.operation verification
      attemptedDimension request.emittedAt (by simpa using hpassed)))

/-! ## Selection -/

/-- The flow of a selection, with the dimension, the currency its amount is judged in, the
paths that meet the criteria, and the criteria as an escalation states them. -/
def selectPath (request : PathSelectionRequest kernel) (dimension : PathSelectionDimension)
    (currency : Option String) (candidates : List ApprovedPath) (criteriaSummary : String) :
    Outcome FiatOperationsOutput :=
  match agent.haltEscalation request dimension with
  | some halted => .ok (.escalationRequired halted)
  | none =>
    match agent.checkMaterialMagnitude request dimension currency with
    | some triggered => do
      let quorum ← agent.routeToQuorum request triggered dimension candidates
      .ok (.quorumAuthorityRequired quorum)
    | none => do
      match ← agent.runPrePathGuardrails request dimension with
      | .error escalation => .ok (.escalationRequired escalation)
      | .ok (verification, attribution) =>
        -- only the gated dimensions consult the gate; it passes the others
        match agent.consultCashLegGate request dimension with
        | some escalation => .ok (.escalationRequired escalation)
        | none =>
          match candidates with
          | [] =>
            .ok (.escalationRequired (agent.buildApprovedPathsEscalation request.operation
              dimension request.emittedAt criteriaSummary))
          | chosen :: _ => do
            let decision ← agent.buildRoutingDecision request.operation chosen dimension
              verification attribution request.emittedAt
            .ok (.routingDecision decision)

/-- The criteria of the two rail dimensions. -/
def railCriteria (currency : String) (jurisdiction : Option String)
    (finalityPreference : Option FinalityModel) : String :=
  "currency=" ++ quoted currency ++ ", jurisdiction=" ++ optionText quoted jurisdiction ++
    ", finality=" ++ optionText FinalityModel.value finalityPreference

def selectMultiCurrencyRailRouting (request : PathSelectionRequest kernel) (currency : String)
    (jurisdiction : Option String := none) (finalityPreference : Option FinalityModel := none) :
    Outcome FiatOperationsOutput :=
  agent.selectPath request .multiCurrencyRailRouting (some currency)
    (agent.routingTables.findRailPaths currency jurisdiction finalityPreference)
    (railCriteria currency jurisdiction finalityPreference)

def selectCorrespondentBankingCoordination (request : PathSelectionRequest kernel)
    (currency : String) (jurisdiction : Option String := none) : Outcome FiatOperationsOutput :=
  agent.selectPath request .correspondentBankingCoordination (some currency)
    (agent.routingTables.findCorrespondentPaths currency jurisdiction)
    ("currency=" ++ quoted currency ++ ", jurisdiction=" ++ optionText quoted jurisdiction)

/-- The currency the amount of an FX leg is judged in: what is before the slash of the pair. -/
def baseCurrency (currencyPair : String) : String :=
  if '/' ∈ currencyPair.toList then
    String.ofList ((upper currencyPair).toList.takeWhile (· ≠ '/'))
  else currencyPair

def selectCrossBorderFxLeg (request : PathSelectionRequest kernel) (currencyPair : String) :
    Outcome FiatOperationsOutput :=
  agent.selectPath request .crossBorderFxLeg (some (baseCurrency currencyPair))
    (agent.routingTables.findFxPvpPaths currencyPair)
    ("currency_pair=" ++ quoted currencyPair)

def selectDepositoryVsSubCustodian (request : PathSelectionRequest kernel)
    (jurisdiction : String) : Outcome FiatOperationsOutput :=
  agent.selectPath request .depositoryVsSubCustodian none
    (agent.routingTables.findDepositoryPaths jurisdiction)
    ("jurisdiction=" ++ quoted jurisdiction)

/-- The rail paths that serve large values themselves, and not only the wider dimension. -/
def largeValueCandidates (currency : String) (jurisdiction : Option String)
    (finalityPreference : Option FinalityModel) : List ApprovedPath :=
  (agent.routingTables.findRailPaths currency jurisdiction finalityPreference).filter
    fun path => .largeValuePaymentSystem ∈ path.dimensions

def selectLargeValuePaymentSystem (request : PathSelectionRequest kernel) (currency : String)
    (jurisdiction : Option String := none) (finalityPreference : Option FinalityModel := none) :
    Outcome FiatOperationsOutput :=
  agent.selectPath request .largeValuePaymentSystem (some currency)
    (agent.largeValueCandidates currency jurisdiction finalityPreference)
    (railCriteria currency jurisdiction finalityPreference)

/-- The facility the caller names, where it is approved for the dimension. -/
def fedFacility (fedFacilityPathId : String) : List ApprovedPath :=
  ((agent.routingTables.findPath fedFacilityPathId).filter fun path =>
    .fedRelatedOperation ∈ path.dimensions).toList

def selectFedRelatedOperation (request : PathSelectionRequest kernel)
    (fedFacilityPathId : String) : Outcome FiatOperationsOutput :=
  agent.selectPath request .fedRelatedOperation none (agent.fedFacility fedFacilityPathId)
    ("fed_facility=" ++ quoted fedFacilityPathId)

def selectCashSweepAndShortTermInvestment (request : PathSelectionRequest kernel)
    (currency : String) : Outcome FiatOperationsOutput :=
  agent.selectPath request .cashSweepAndShortTermInvestment none
    (agent.routingTables.findCashSweepPaths currency)
    ("currency=" ++ quoted currency)

end FiatOperationsSpecialist

end Atreides
