import Atreides.Agents.Eligibility
import Atreides.Agents.RoutingTables
import Atreides.Contracts.Operation

/-!
# What the FIAT specialist answers

The specialist answers a request with a routing decision, an escalation that names the
guardrail that fired, or the package a quorum needs. Each answer carries the lineage of the
operation it is about.

## Main definitions

* `JurisdictionalAttribution`, `RoutingRecommendation`, `OperationPackage` — what they carry
* `RoutingDecision`, `EscalationRequired`, `QuorumAuthorityRequired` — the answers
* `FiatOperationsOutput` — one of the three
-/

namespace Atreides

/-- The agent's class, which is part of what its telemetry hash is taken over. -/
def agentClassFiatOperationsSpecialist : String := "FIAT_OPERATIONS_SPECIALIST_v1"

/-- The guardrails. The second names another that an instruction from outside would break. -/
inductive JClassGuardrail
  | approvedPathsOnly
  | doctrineOverCode
  | noSettlementWithoutLineage
  | eligibilityBeforeRouting
  | jurisdictionalAttribution
  deriving DecidableEq, Repr

def JClassGuardrail.value : JClassGuardrail → String
  | approvedPathsOnly => "approved_paths_only"
  | doctrineOverCode => "doctrine_over_code"
  | noSettlementWithoutLineage => "no_settlement_without_lineage"
  | eligibilityBeforeRouting => "eligibility_before_routing"
  | jurisdictionalAttribution => "jurisdictional_attribution"

/-- The jurisdictions an operation touches, as they were attributed to it. -/
@[ext]
structure JurisdictionalAttribution where
  originatingJurisdiction : String
  receivingJurisdiction : String
  intermediaryJurisdictions : List String := []
  veranaSessionId : String
  attributedAt : Timestamp
  originating_length : 2 ≤ originatingJurisdiction.length ∧ originatingJurisdiction.length ≤ 3 :=
    by decide
  receiving_length : 2 ≤ receivingJurisdiction.length ∧ receivingJurisdiction.length ≤ 3 :=
    by decide
  veranaSessionId_nonempty : veranaSessionId ≠ "" := by decide

instance : DecidableEq JurisdictionalAttribution :=
  fun _ _ => decidable_of_iff _ JurisdictionalAttribution.ext_iff.symm

namespace JurisdictionalAttribution

/-- Every jurisdiction the operation touches. -/
def jurisdictions (attribution : JurisdictionalAttribution) : List String :=
  attribution.originatingJurisdiction :: attribution.receivingJurisdiction ::
    attribution.intermediaryJurisdictions

end JurisdictionalAttribution

/-- The path an agent recommends. -/
structure RoutingRecommendation where
  pathSelectionDimension : PathSelectionDimension
  chosenPath : String
  settlementMethod : Option Contracts.SettlementMethod := none
  rationale : String
  deriving DecidableEq

/-- What a quorum is given: the operation, who and what it affects, its lineage before and as
projected after it, and what the agent found. -/
structure OperationPackage where
  operation : CustodyOperation
  beneficialOwnerIds : List String
  assetIds : List String
  doctrineVersion : String := currentDoctrineVersion
  preOperationDsorStateStub : DsorLineageStub
  projectedPostOperationDsorStateStub : DsorLineageStub
  routingRecommendation : Option RoutingRecommendation
  eligibilityVerification : EligibilityVerification
  pre_under_quorum : preOperationDsorStateStub.authorityTier = .quorum
  post_projected : projectedPostOperationDsorStateStub.postOperationStateHash.isSome = true

/-- The surfaces this agent answers for. -/
def fiatSpecialistOwnedSurfaces : List InherentSafetySurface :=
  [.fiatSettlementMaterial, .correspondentBankingIntegrity, .largeValuePaymentFinality,
    .fxBundledSettlement, .depositoryMembership]

/-- What every answer carries. Its lineage is that of the operation it is about. -/
structure OutputBase where
  operationId : Uuid
  doctrineVersion : String := currentDoctrineVersion
  agentClass : String := agentClassFiatOperationsSpecialist
  agentTelemetryHash : Sha256Hex
  lineageStub : DsorLineageStub
  emittedAt : Timestamp
  of_lineage : operationId = lineageStub.operationId

/-- A path was chosen. -/
structure RoutingDecision extends OutputBase where
  recommendation : RoutingRecommendation
  eligibilityVerification : EligibilityVerification
  jurisdictionalAttribution : JurisdictionalAttribution
  failureModeClass : FailureModeClass
  eligible : eligibilityVerification.allPassed = true
  not_final : failureModeClass ≠ .urF

/-- A guardrail fired. -/
structure EscalationRequired extends OutputBase where
  failedGuardrail : JClassGuardrail
  cascadeGuardrail : Option JClassGuardrail := none
  failureReason : String
  escalationTier : CaomTier
  attemptedDimension : Option PathSelectionDimension
  eligibilityVerification : Option EligibilityVerification := none
  jurisdictionalAttribution : Option JurisdictionalAttribution := none
  conflictingExternalInstruction : Option String := none
  tier_not_quorum : escalationTier ≠ .quorum := by decide
  cascade_of_doctrine :
    failedGuardrail = .doctrineOverCode ↔ cascadeGuardrail.isSome = true := by decide
  cascade_elsewhere : cascadeGuardrail ≠ some .doctrineOverCode := by decide
  instruction_of_doctrine : failedGuardrail = .doctrineOverCode →
    conflictingExternalInstruction.any (· ≠ "") = true := by decide
  verification_of_eligibility : failedGuardrail = .eligibilityBeforeRouting →
    eligibilityVerification.any (fun verification => !verification.allPassed) = true

/-- A quorum must decide. -/
structure QuorumAuthorityRequired extends OutputBase where
  inherentSafetySurface : InherentSafetySurface
  operationPackage : OperationPackage
  surface_owned : inherentSafetySurface ∈ fiatSpecialistOwnedSurfaces
  of_package : operationId = operationPackage.preOperationDsorStateStub.operationId

/-- What the specialist answers. -/
inductive FiatOperationsOutput
  | routingDecision (decision : RoutingDecision)
  | escalationRequired (escalation : EscalationRequired)
  | quorumAuthorityRequired (quorum : QuorumAuthorityRequired)

end Atreides
