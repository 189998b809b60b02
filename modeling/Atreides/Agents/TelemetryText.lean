import Atreides.Agents.Selection
import Atreides.Foundation.Joined
import Mathlib.Data.Finset.Sort

/-!
# What a telemetry hash is taken over

Every decision of the specialist has a hash, taken over a text that joins by bars the operation,
the kind of the decision and what the decision rests on. The identifier of a path and of a session
may hold bars themselves, a decision for a quorum is hashed without its dimension and its checks,
and a hold against an instruction without its dimension. Two decisions share their text exactly
where one of these is all that tells them apart.

## Main definitions

* `Decided`, `Recorded` — a decision, with what its hash is taken over
* `Traits` — what an auditor tells decisions apart by
* `Emits` — the decisions the specialist emits
* `Confusable` — two decisions that share their text though they differ

## Main results

* `Emits.hash_eq` — the hash is the digest of the text of the record
* `Recorded.text_eq_iff` — the parts of the text can be read back, up to the last
* `telemetry_texts_differ_iff` — when decisions that differ have different texts
-/

namespace Atreides

/-! ## Records -/

/-- How the cash gate kept a request back. -/
inductive GateHold
  | absent
  | unbound
  | refused (decision : GateDecision) (reason : ReasonCode)

namespace GateHold

/-- The first word of the signature. -/
def word : GateHold → String
  | absent => "cato_cash_absent"
  | unbound => "cato_cash_unbound"
  | refused decision _ => "cato_cash_" ++ decision.value.toLower

def reason : GateHold → String
  | absent | unbound => "HOLD"
  | refused _ reason => reason.value

end GateHold

/-- A decision, with what its telemetry hash is taken over. -/
inductive Decided
  | routed (dimension : PathSelectionDimension) (path session : String)
  | ineligible (dimension : PathSelectionDimension) (failed : List EligibilityCheckKind)
  | unattributed (dimension : PathSelectionDimension)
  | unapproved (dimension : PathSelectionDimension) (criteria : String)
  | halted (dimension : PathSelectionDimension) (haltId : String) (version : ℕ)
  | gateHeld (dimension : PathSelectionDimension) (hold : GateHold)
  | doctrineOverCode (dimension : Option PathSelectionDimension) (guardrail : JClassGuardrail)
      (instruction : Sha256Hex)
  | quorumRequired (dimension : PathSelectionDimension) (surface : InherentSafetySurface)
      (path : Option String) (failed : List EligibilityCheckKind)

namespace Decided

def kind : Decided → String
  | routed .. => "routing_decision"
  | quorumRequired .. => "quorum_authority_required"
  | _ => "escalation_required"

/-- The first word of the signature. -/
def word : Decided → String
  | routed dimension .. => dimension.value
  | ineligible .. => "eligibility_failed"
  | unattributed .. => "attribution_missing"
  | unapproved .. => "no_approved_path"
  | halted .. => "tier_0_halt"
  | gateHeld _ hold => hold.word
  | doctrineOverCode .. => "doctrine_over_code"
  | quorumRequired _ surface .. => surface.value

/-- The other words of the signature. -/
def words : Decided → List String
  | routed _ path session => [path, "eligibility_passed", session]
  | ineligible dimension failed =>
    dimension.value :: (failed.map EligibilityCheckKind.value).insertionSort (· ≤ ·)
  | unattributed dimension => [dimension.value]
  | unapproved dimension criteria => [dimension.value, criteria]
  | halted dimension haltId version => [dimension.value, haltId, toString version]
  | gateHeld dimension hold => [dimension.value, hold.reason]
  | doctrineOverCode _ guardrail instruction => [guardrail.value, instruction.text]
  | quorumRequired _ _ path _ => [path.getD "no_path_determined"]

/-- The signature of inputs. -/
def signature (decided : Decided) : List String := decided.word :: decided.words

def dimension : Decided → Option PathSelectionDimension
  | routed dimension .. | ineligible dimension _ | unattributed dimension
  | unapproved dimension _ | halted dimension .. | gateHeld dimension _
  | quorumRequired dimension .. => some dimension
  | doctrineOverCode dimension .. => dimension

def chosenPath : Decided → Option String
  | routed _ path _ => some path
  | quorumRequired _ _ path _ => path
  | _ => none

def failedChecks : Decided → Finset EligibilityCheckKind
  | ineligible _ failed | quorumRequired _ _ _ failed => failed.toFinset
  | _ => ∅

def criteria : Decided → Option String
  | unapproved _ criteria => some criteria
  | _ => none

def session : Decided → Option String
  | routed _ _ session => some session
  | _ => none

end Decided

/-- A decision on an operation. -/
structure Recorded where
  operationId : Uuid
  decided : Decided

/-- What an auditor tells decisions apart by. -/
structure Traits where
  operationId : Uuid
  decisionKind : String
  dimension : Option PathSelectionDimension
  chosenPath : Option String
  failedChecks : Finset EligibilityCheckKind
  criteria : Option String
  session : Option String
  deriving DecidableEq

namespace Recorded

/-- The texts the hash joins. -/
def components (recorded : Recorded) : List String :=
  recorded.operationId.text :: currentDoctrineVersion :: recorded.decided.kind ::
    agentClassFiatOperationsSpecialist :: recorded.decided.signature

/-- The canonical text the hash digests. -/
def text (recorded : Recorded) : String := String.intercalate "|" recorded.components

def traits (recorded : Recorded) : Traits where
  operationId := recorded.operationId
  decisionKind := recorded.decided.kind
  dimension := recorded.decided.dimension
  chosenPath := recorded.decided.chosenPath
  failedChecks := recorded.decided.failedChecks
  criteria := recorded.decided.criteria
  session := recorded.decided.session

end Recorded

/-! ## The decisions the specialist emits -/

/-- The kinds of the checks that failed. -/
def EligibilityVerification.failedKinds (verification : EligibilityVerification) :
    List EligibilityCheckKind :=
  verification.failedChecks.map EligibilityCheck.kind

/-- How the gate kept the request back, where it did. -/
def PathSelectionRequest.gateHold {kernel : Kernel} (request : PathSelectionRequest kernel) :
    GateHold :=
  match request.catoCashDecision with
  | none => .absent
  | some decision =>
    if decision.proceeds && !decision.bound then .unbound
    else .refused decision.decision decision.reasonCode

/-- The halt that blocks the specialist, where one does. -/
def PathSelectionRequest.blockingHalt {kernel : Kernel} (request : PathSelectionRequest kernel) :
    Option HaltContext :=
  request.halt.filter fun halt => kernel.gateUnderHalt halt .atreides = .block

/-- The criteria of the selection, as an escalation states them. -/
def PathSelection.criteriaSummary : PathSelection → String
  | multiCurrencyRailRouting currency jurisdiction finalityPreference
  | largeValuePaymentSystem currency jurisdiction finalityPreference =>
    FiatOperationsSpecialist.railCriteria currency jurisdiction finalityPreference
  | correspondentBankingCoordination currency jurisdiction =>
    "currency=" ++ quoted currency ++ ", jurisdiction=" ++ optionText quoted jurisdiction
  | crossBorderFxLeg currencyPair => "currency_pair=" ++ quoted currencyPair
  | depositoryVsSubCustodian jurisdiction => "jurisdiction=" ++ quoted jurisdiction
  | fedRelatedOperation fedFacilityPathId => "fed_facility=" ++ quoted fedFacilityPathId
  | cashSweepAndShortTermInvestment currency => "currency=" ++ quoted currency

/-- What a hold against an instruction decided. -/
def FiatOperationsSpecialist.heldInstruction (agent : FiatOperationsSpecialist)
    (escalation : EscalationRequired) : Decided :=
  .doctrineOverCode escalation.attemptedDimension
    (escalation.cascadeGuardrail.getD .doctrineOverCode)
    (agent.sha256 ((escalation.conflictingExternalInstruction.getD "").toUTF8.data.toList))

/-- What an escalation of a selection decided, by the guardrail that fired. -/
def PathSelection.escalated {kernel : Kernel} (agent : FiatOperationsSpecialist)
    (request : PathSelectionRequest kernel) (selection : PathSelection)
    (escalation : EscalationRequired) : Decided :=
  match escalation.failedGuardrail with
  | .approvedPathsOnly => .unapproved selection.dimension selection.criteriaSummary
  | .doctrineOverCode => agent.heldInstruction escalation
  | .noSettlementWithoutLineage =>
    -- a halt comes before the gate
    match request.blockingHalt with
    | some halt => .halted selection.dimension halt.haltId halt.version
    | none => .gateHeld selection.dimension request.gateHold
  | .eligibilityBeforeRouting =>
    .ineligible selection.dimension
      ((escalation.eligibilityVerification.map EligibilityVerification.failedKinds).getD [])
  | .jurisdictionalAttribution => .unattributed selection.dimension

/-- The record of an answer to a selection. -/
def PathSelection.recorded {kernel : Kernel} (agent : FiatOperationsSpecialist)
    (request : PathSelectionRequest kernel) (selection : PathSelection) :
    FiatOperationsOutput → Recorded
  | .routingDecision decision =>
    ⟨decision.operationId, .routed decision.recommendation.pathSelectionDimension
      decision.recommendation.chosenPath decision.jurisdictionalAttribution.veranaSessionId⟩
  | .escalationRequired escalation =>
    ⟨escalation.operationId, selection.escalated agent request escalation⟩
  | .quorumAuthorityRequired quorum =>
    ⟨quorum.operationId, .quorumRequired selection.dimension quorum.inherentSafetySurface
      (quorum.operationPackage.routingRecommendation.map RoutingRecommendation.chosenPath)
      quorum.operationPackage.eligibilityVerification.failedKinds⟩

/-- What every answer carries. -/
def FiatOperationsOutput.base : FiatOperationsOutput → OutputBase
  | routingDecision decision => decision.toOutputBase
  | escalationRequired escalation => escalation.toOutputBase
  | quorumAuthorityRequired quorum => quorum.toOutputBase

/-- The answers the specialist emits, with their records: those of its selections, and the holds
against an instruction about the operation of the lineage. -/
inductive Emits (agent : FiatOperationsSpecialist) : FiatOperationsOutput → Recorded → Prop
  | selected {kernel : Kernel} (request : PathSelectionRequest kernel)
      (selection : PathSelection) (output : FiatOperationsOutput)
      (h : selection.run agent request = .ok output) :
      Emits agent output (selection.recorded agent request output)
  | held (lineage : DsorLineageStub) (guardrail : JClassGuardrail)
      (description instruction : String) (emittedAt : Timestamp)
      (dimension : Option PathSelectionDimension) (escalation : EscalationRequired)
      (h : agent.buildDoctrineOverCodeEscalation lineage.operationId.text lineage guardrail
        description instruction emittedAt dimension = .ok escalation) :
      Emits agent (.escalationRequired escalation)
        ⟨escalation.operationId, agent.heldInstruction escalation⟩

/-! ### What their hashes are taken over -/

section Hashes

open FiatOperationsSpecialist

variable {kernel : Kernel} {agent : FiatOperationsSpecialist}
  {request : PathSelectionRequest kernel} {dimension : PathSelectionDimension}
  {currency : Option String} {candidates : List ApprovedPath} {criteriaSummary : String}
  {escalation : EscalationRequired}

/-- The hash of an answer is taken over the decision. -/
def Hashed (agent : FiatOperationsSpecialist) (answer : OutputBase) (decided : Decided) : Prop :=
  answer.agentTelemetryHash =
    agent.computeTelemetryHash answer.operationId decided.kind decided.signature

theorem blockingHalt_of_haltEscalation (h : agent.haltEscalation request dimension = none) :
    request.blockingHalt = none := by
  rw [PathSelectionRequest.blockingHalt, Option.filter_eq_none_iff]
  intro halt hhalt
  simpa using haltEscalation_eq_none_iff.mp h halt hhalt

theorem hashed_of_haltEscalation
    (h : agent.haltEscalation request dimension = some escalation) :
    ∃ halt, request.blockingHalt = some halt ∧
      escalation.failedGuardrail = .noSettlementWithoutLineage ∧
        Hashed agent escalation.toOutputBase (.halted dimension halt.haltId halt.version) := by
  rw [haltEscalation] at h
  split at h
  · cases h
  · rename_i halt hhalt
    split_ifs at h with hblock
    cases h
    refine ⟨halt, ?_, rfl, rfl⟩
    rw [PathSelectionRequest.blockingHalt, hhalt, Option.filter_some, if_pos]
    simpa using hblock

theorem hashed_of_consultCashLegGate
    (h : agent.consultCashLegGate request dimension = some escalation) :
    escalation.failedGuardrail = .noSettlementWithoutLineage ∧
      Hashed agent escalation.toOutputBase (.gateHeld dimension request.gateHold) := by
  rw [consultCashLegGate] at h
  split_ifs at h
  rw [PathSelectionRequest.gateHold]
  cases hdecision : request.catoCashDecision with
  | none =>
    rw [hdecision] at h
    cases h
    exact ⟨rfl, rfl⟩
  | some decision =>
    rw [hdecision] at h
    dsimp only at h
    split_ifs at h with hunbound hrefused
    · cases h
      simp only [if_pos hunbound]
      exact ⟨rfl, rfl⟩
    · cases h
      simp only [if_neg hunbound]
      exact ⟨rfl, rfl⟩

/-- The values of the checks that failed, as the record and the signature order them. -/
theorem failedKinds_map_value (verification : EligibilityVerification) :
    verification.failedKinds.map EligibilityCheckKind.value =
      verification.failedChecks.map (·.kind.value) := by
  rw [EligibilityVerification.failedKinds, List.map_map]
  rfl

theorem hashed_of_runPrePathGuardrails
    (h : agent.runPrePathGuardrails request dimension = .ok (.error escalation)) :
    (escalation.failedGuardrail = .jurisdictionalAttribution ∧
        Hashed agent escalation.toOutputBase (.unattributed dimension)) ∨
      (escalation.failedGuardrail = .eligibilityBeforeRouting ∧
        ∃ verification, escalation.eligibilityVerification = some verification ∧
          Hashed agent escalation.toOutputBase
            (.ineligible dimension verification.failedKinds)) := by
  obtain ⟨verification, -, h⟩ := Outcome.bind_eq_ok.mp h
  split_ifs at h with hpassed
  · split at h
    · cases h
      exact .inl ⟨rfl, rfl⟩
    · cases h
  · cases h
    refine .inr ⟨rfl, verification, rfl, ?_⟩
    rw [Hashed, Decided.signature, Decided.words, failedKinds_map_value]
    rfl

theorem hashed_of_buildRoutingDecision {operation : CustodyOperation} {path : ApprovedPath}
    {verification : EligibilityVerification} {attribution : JurisdictionalAttribution}
    {emittedAt : Timestamp} {decision : RoutingDecision}
    (h : agent.buildRoutingDecision operation path dimension verification attribution emittedAt =
      .ok decision) :
    Hashed agent decision.toOutputBase (.routed decision.recommendation.pathSelectionDimension
      decision.recommendation.chosenPath decision.jurisdictionalAttribution.veranaSessionId) := by
  rw [buildRoutingDecision] at h
  split_ifs at h
  cases h
  rfl

theorem hashed_of_routeToQuorum {surface : InherentSafetySurface}
    {quorum : QuorumAuthorityRequired}
    (h : agent.routeToQuorum request surface dimension candidates = .ok quorum) :
    Hashed agent quorum.toOutputBase (.quorumRequired dimension quorum.inherentSafetySurface
      (quorum.operationPackage.routingRecommendation.map RoutingRecommendation.chosenPath)
      quorum.operationPackage.eligibilityVerification.failedKinds) := by
  obtain ⟨verification, -, h⟩ := Outcome.bind_eq_ok.mp h
  rw [buildQuorumAuthorityRequired] at h
  split_ifs at h
  cases h
  rfl

/-- What an answer of the flow can be. -/
theorem selectPath_cases {output : FiatOperationsOutput}
    (h : agent.selectPath request dimension currency candidates criteriaSummary = .ok output) :
    (∃ escalation, agent.haltEscalation request dimension = some escalation ∧
        output = .escalationRequired escalation) ∨
      (∃ triggered quorum,
        agent.routeToQuorum request triggered dimension candidates = .ok quorum ∧
          output = .quorumAuthorityRequired quorum) ∨
      (∃ escalation, agent.runPrePathGuardrails request dimension = .ok (.error escalation) ∧
        output = .escalationRequired escalation) ∨
      (∃ escalation, agent.haltEscalation request dimension = none ∧
        agent.consultCashLegGate request dimension = some escalation ∧
          output = .escalationRequired escalation) ∨
      output = .escalationRequired (agent.buildApprovedPathsEscalation request.operation
        dimension request.emittedAt criteriaSummary) ∨
      (∃ chosen verification attribution decision,
        agent.runPrePathGuardrails request dimension = .ok (.ok (verification, attribution)) ∧
          agent.buildRoutingDecision request.operation chosen dimension verification attribution
            request.emittedAt = .ok decision ∧ output = .routingDecision decision) := by
  rw [selectPath.eq_def] at h
  cases hhalt : agent.haltEscalation request dimension with
  | some halted =>
    rw [hhalt] at h
    cases h
    exact .inl ⟨halted, rfl, rfl⟩
  | none =>
    rw [hhalt] at h
    cases htrigger : agent.checkMaterialMagnitude request dimension currency with
    | some triggered =>
      rw [htrigger] at h
      obtain ⟨quorum, hquorum, h⟩ := Outcome.bind_eq_ok.mp h
      cases h
      exact .inr (.inl ⟨triggered, quorum, hquorum, rfl⟩)
    | none =>
      rw [htrigger] at h
      obtain ⟨outcome, hguards, h⟩ := Outcome.bind_eq_ok.mp h
      cases outcome with
      | error escalation =>
        cases h
        exact .inr (.inr (.inl ⟨escalation, hguards, rfl⟩))
      | ok verified =>
        obtain ⟨verification, attribution⟩ := verified
        cases hgate : agent.consultCashLegGate request dimension with
        | some escalation =>
          simp only [hgate] at h
          cases h
          exact .inr (.inr (.inr (.inl ⟨escalation, rfl, rfl, rfl⟩)))
        | none =>
          cases candidates with
          | nil =>
            simp only [hgate] at h
            cases h
            exact .inr (.inr (.inr (.inr (.inl rfl))))
          | cons chosen rest =>
            simp only [hgate] at h
            obtain ⟨decision, hdecision, h⟩ := Outcome.bind_eq_ok.mp h
            cases h
            exact .inr (.inr (.inr (.inr (.inr
              ⟨chosen, verification, attribution, decision, hguards, hdecision, rfl⟩))))

/-- A selection is the shared flow, with its criteria. -/
theorem PathSelection.run_eq_selectPath (selection : PathSelection) :
    selection.run agent request = agent.selectPath request selection.dimension
      selection.judgedCurrency (selection.candidates agent) selection.criteriaSummary := by
  cases selection <;> rfl

/-- The hash of an answer to a selection is taken over its record. -/
theorem PathSelection.hashed {selection : PathSelection} {output : FiatOperationsOutput}
    (h : selection.run agent request = .ok output) :
    (selection.recorded agent request output).operationId = output.base.operationId ∧
      Hashed agent output.base (selection.recorded agent request output).decided := by
  rw [selection.run_eq_selectPath] at h
  obtain ⟨escalation, hhalt, rfl⟩ | ⟨triggered, quorum, hquorum, rfl⟩ |
    ⟨escalation, hguards, rfl⟩ | ⟨escalation, hclear, hgate, rfl⟩ | rfl |
    ⟨chosen, verification, attribution, decision, -, hdecision, rfl⟩ := selectPath_cases h
  · obtain ⟨halt, hblocking, hfired, hhashed⟩ := hashed_of_haltEscalation hhalt
    refine ⟨rfl, ?_⟩
    simp only [recorded, escalated, hfired, hblocking]
    exact hhashed
  · exact ⟨rfl, hashed_of_routeToQuorum hquorum⟩
  · refine ⟨rfl, ?_⟩
    obtain ⟨hfired, hhashed⟩ | ⟨hfired, verification, hverification, hhashed⟩ :=
      hashed_of_runPrePathGuardrails hguards
    · simp only [recorded, escalated, hfired]
      exact hhashed
    · simp only [recorded, escalated, hfired, hverification]
      exact hhashed
  · obtain ⟨hfired, hhashed⟩ := hashed_of_consultCashLegGate hgate
    refine ⟨rfl, ?_⟩
    simp only [recorded, escalated, hfired, blockingHalt_of_haltEscalation hclear]
    exact hhashed
  · exact ⟨rfl, rfl⟩
  · exact ⟨rfl, hashed_of_buildRoutingDecision hdecision⟩

/-- The hash of a hold against an instruction is taken over its record. -/
theorem hashed_of_buildDoctrineOverCodeEscalation {lineage : DsorLineageStub}
    {guardrail : JClassGuardrail} {description instruction : String} {emittedAt : Timestamp}
    {dimension : Option PathSelectionDimension}
    (h : agent.buildDoctrineOverCodeEscalation lineage.operationId.text lineage guardrail
      description instruction emittedAt dimension = .ok escalation) :
    Hashed agent escalation.toOutputBase (agent.heldInstruction escalation) := by
  rw [buildDoctrineOverCodeEscalation] at h
  split_ifs at h
  cases h
  rfl

/-- The hash of an answer is the digest of the text of its record. -/
theorem Emits.hash_eq {output : FiatOperationsOutput} {recorded : Recorded}
    (h : Emits agent output recorded) :
    output.base.agentTelemetryHash = agent.sha256 recorded.text.toUTF8.data.toList := by
  cases h with
  | selected request selection output h =>
    obtain ⟨hoperation, hhashed⟩ := PathSelection.hashed h
    rw [hhashed, ← hoperation]
    rfl
  | held lineage guardrail description instruction emittedAt dimension escalation h =>
    exact hashed_of_buildDoctrineOverCodeEscalation h

end Hashes

/-! ## Texts -/

open Joined

/-- The bar, as the separator of a text. -/
theorem bar_eq : "|" = String.singleton '|' := by decide

theorem free_uuid (id : Uuid) : Free '|' id.text := by
  intro hmem
  obtain ⟨place, hplace⟩ := List.mem_iff_getElem?.mp hmem
  have hzip : ('|', place) ∈ id.text.toList.zipIdx := by
    rw [List.mem_zipIdx_iff_getElem?]
    exact hplace
  have hall := id.canonical
  rw [isCanonicalUuid, Bool.and_eq_true, List.all_eq_true] at hall
  have hchar := hall.2 _ hzip
  simp only at hchar
  split_ifs at hchar <;> revert hchar <;> decide

theorem uuid_text_inj {id id' : Uuid} : id.text = id'.text ↔ id = id' := by
  constructor
  · intro h
    cases id
    cases id'
    cases h
    rfl
  · rintro rfl
    rfl

theorem free_sha256Hex (digest : Sha256Hex) : Free '|' digest.text := by
  intro hmem
  have hall := digest.wellFormed
  rw [isSha256Hex, Bool.and_eq_true, List.all_eq_true] at hall
  have hchar := hall.2 _ hmem
  revert hchar
  decide

theorem Sha256Hex.text_inj {digest digest' : Sha256Hex} :
    digest.text = digest'.text ↔ digest = digest' := by
  constructor
  · intro h
    cases digest
    cases digest'
    cases h
    rfl
  · rintro rfl
    rfl

theorem free_dimension (dimension : PathSelectionDimension) : Free '|' dimension.value := by
  cases dimension <;> exact free_ofList (by decide)

theorem free_surface (surface : InherentSafetySurface) : Free '|' surface.value := by
  cases surface <;> exact free_ofList (by decide)

theorem free_checkKind (kind : EligibilityCheckKind) : Free '|' kind.value := by
  cases kind <;> exact free_ofList (by decide)

theorem free_guardrail (guardrail : JClassGuardrail) : Free '|' guardrail.value := by
  cases guardrail <;> exact free_ofList (by decide)

theorem free_hold (hold : GateHold) : Free '|' hold.word := by
  cases hold with
  | absent => exact free_ofList (by decide)
  | unbound => exact free_ofList (by decide)
  | refused decision reason =>
    have hlower : decision.value.toLower = decision.value.map Char.toLower := rfl
    rw [GateHold.word, Free, String.toList_append, List.mem_append, not_or, hlower,
      String.toList_map]
    cases decision <;> simp [GateDecision.value]

theorem dimension_value_injective : Function.Injective PathSelectionDimension.value := by
  intro a b h
  cases a <;> cases b <;> first | rfl | exact absurd (String.ofList_inj.mp h) (by decide)

theorem checkKind_value_injective : Function.Injective EligibilityCheckKind.value := by
  intro a b h
  cases a <;> cases b <;> first | rfl | exact absurd (String.ofList_inj.mp h) (by decide)

/-- The twenty surfaces. -/
def InherentSafetySurface.all : List InherentSafetySurface :=
  [.pledgedAssetMaterial, .nativeDigitalAssetMaterial, .tokenizedAssetIssuer,
    .fiatSettlementMaterial, .correspondentBankingIntegrity, .depositoryMembership,
    .largeValuePaymentFinality, .fxBundledSettlement, .keyCeremony, .coldStorage,
    .custodianOfCustodian, .beneficialOwnerIdentityChange, .quorumEnrollmentChange,
    .physicalCommodityVaultMaterial, .realEstateTitle, .ipRightsMaterial,
    .insuranceContractMaterial, .ilsTriggerDetermination, .carbonCreditRegistryMaterial,
    .physicalAssetAuthentication]

theorem InherentSafetySurface.mem_all (surface : InherentSafetySurface) : surface ∈ all := by
  cases surface <;> decide

theorem surface_value_injective : Function.Injective InherentSafetySurface.value := by
  have hnodup : (InherentSafetySurface.all.map InherentSafetySurface.value).Nodup := by
    decide +kernel
  intro a b h
  exact List.inj_on_of_nodup_map hnodup a.mem_all b.mem_all h

theorem guardrail_value_injective : Function.Injective JClassGuardrail.value := by
  intro a b h
  cases a <;> cases b <;> first | rfl | exact absurd (String.ofList_inj.mp h) (by decide)

namespace Decided

variable {d e : Decided}

theorem free_kind (d : Decided) : Free '|' d.kind := by
  cases d <;> exact free_ofList (by decide)

theorem free_word (d : Decided) : Free '|' d.word := by
  cases d with
  | routed dimension path session => exact free_dimension dimension
  | ineligible => exact free_ofList (by decide)
  | unattributed => exact free_ofList (by decide)
  | unapproved => exact free_ofList (by decide)
  | halted => exact free_ofList (by decide)
  | gateHeld dimension hold => exact free_hold hold
  | doctrineOverCode => exact free_ofList (by decide)
  | quorumRequired dimension surface path failed => exact free_surface surface

theorem words_ne_nil (d : Decided) : d.words ≠ [] := by
  cases d <;> exact List.cons_ne_nil _ _

/-- The text from the second word of the signature on. -/
def tail (d : Decided) : String := String.intercalate "|" d.words

/-- Which decision has the kind and the first word. The words of the gate are what is left. -/
def readShape (kind word : String) : ℕ :=
  if kind = "routing_decision" then 0
  else if kind = "quorum_authority_required" then 7
  else if word = "eligibility_failed" then 1
  else if word = "attribution_missing" then 2
  else if word = "no_approved_path" then 3
  else if word = "tier_0_halt" then 4
  else if word = "doctrine_over_code" then 6
  else 5

theorem readShape_eq (d : Decided) : readShape d.kind d.word = d.ctorIdx := by
  cases d with
  | gateHeld dimension hold =>
    cases hold with
    | refused decision reason => cases decision <;> rfl
    | _ => rfl
  | _ => rfl

/-! ### The last part of the text -/

section Tails

variable {dimension dimension' : PathSelectionDimension}

theorem bar_left_inj {word word' rest rest' : String} (hword : Free '|' word)
    (hword' : Free '|' word') :
    word ++ "|" ++ rest = word' ++ "|" ++ rest' ↔ word = word' ∧ rest = rest' := by
  rw [bar_eq, append_left_inj hword hword']

/-- The path and the session of two routing decisions, as their texts hold them. -/
theorem routed_tail_inj {path session path' session' : String} :
    (routed dimension path session).tail = (routed dimension' path' session').tail ↔
      (path = path' ∧ session = session') ∨
        RunsOver '|' "eligibility_passed".toList path.toList session.toList path'.toList
            session'.toList ∨
          RunsOver '|' "eligibility_passed".toList path'.toList session'.toList path.toList
            session.toList := by
  have htext : ∀ a x : String, (String.intercalate "|" [a, "eligibility_passed", x]).toList =
      a.toList ++ '|' :: ("eligibility_passed".toList ++ '|' :: x.toList) := by
    intro a x
    rw [String.intercalate_cons_cons, String.intercalate_cons_cons, String.intercalate_singleton,
      bar_eq]
    simp
  rw [tail, tail, words, words, ← String.toList_inj, htext, htext, framed_eq_iff (by decide),
    String.toList_inj, String.toList_inj]

/-- A dimension at the head of the last part can be read back. -/
theorem dimension_of_words {word word' : String} {rest rest' : List String}
    (h : String.intercalate "|" (dimension.value :: word :: rest) =
      String.intercalate "|" (dimension'.value :: word' :: rest')) :
    dimension = dimension' ∧
      String.intercalate "|" (word :: rest) = String.intercalate "|" (word' :: rest') := by
  rw [String.intercalate_cons_cons, String.intercalate_cons_cons,
    bar_left_inj (free_dimension dimension) (free_dimension dimension')] at h
  exact ⟨dimension_value_injective h.1, h.2⟩

theorem unattributed_tail : (unattributed dimension).tail = dimension.value :=
  String.intercalate_singleton

/-- The text of a hold against an instruction ends with the guardrail and the instruction. -/
theorem doctrine_tail (asked : Option PathSelectionDimension) (guardrail : JClassGuardrail)
    (instruction : Sha256Hex) : (doctrineOverCode asked guardrail instruction).tail =
      guardrail.value ++ "|" ++ instruction.text := by
  rw [tail, words, String.intercalate_cons_cons, String.intercalate_singleton]

/-- The text of a decision for a quorum ends with the path. -/
theorem quorum_tail (surface : InherentSafetySurface) (path : Option String)
    (failed : List EligibilityCheckKind) :
    (quorumRequired dimension surface path failed).tail = path.getD "no_path_determined" :=
  String.intercalate_singleton

/-- The checks of two refusals on eligibility can be read back. -/
theorem ineligible_of_tail {failed failed' : List EligibilityCheckKind}
    (h : (ineligible dimension failed).tail = (ineligible dimension' failed').tail) :
    dimension = dimension' ∧ failed.toFinset = failed'.toFinset := by
  have hfree : ∀ (dimension : PathSelectionDimension) (failed : List EligibilityCheckKind),
      ∀ word ∈ (ineligible dimension failed).words, Free '|' word := by
    intro dimension failed word hword
    obtain rfl | hword := List.mem_cons.mp hword
    · exact free_dimension dimension
    · obtain ⟨kind, -, rfl⟩ := List.mem_map.mp ((List.mem_insertionSort _).mp hword)
      exact free_checkKind kind
  rw [tail, tail, bar_eq] at h
  have hwords := intercalate_inj (hfree dimension failed) (hfree dimension' failed')
    (words_ne_nil _) (words_ne_nil _) h
  obtain ⟨hvalue, hsorted⟩ := List.cons.inj hwords
  refine ⟨dimension_value_injective hvalue, ?_⟩
  -- the sorted values have the members of the list they are the values of
  have hmem : ∀ (failed : List EligibilityCheckKind) (kind : EligibilityCheckKind),
      kind.value ∈ (failed.map EligibilityCheckKind.value).insertionSort (· ≤ ·) ↔
        kind ∈ failed := by
    intro failed kind
    rw [List.mem_insertionSort, List.mem_map_of_injective checkKind_value_injective]
  ext kind
  rw [List.mem_toFinset, List.mem_toFinset, ← hmem, ← hmem, hsorted]

end Tails

end Decided

namespace Recorded

variable {r s : Recorded}

theorem text_eq (r : Recorded) : r.text = r.operationId.text ++ String.singleton '|' ++
    (currentDoctrineVersion ++ String.singleton '|' ++ (r.decided.kind ++ String.singleton '|' ++
      (agentClassFiatOperationsSpecialist ++ String.singleton '|' ++
        (r.decided.word ++ String.singleton '|' ++ r.decided.tail)))) := by
  obtain ⟨first, rest, hwords⟩ := List.exists_cons_of_ne_nil r.decided.words_ne_nil
  rw [text, components, Decided.signature, Decided.tail, hwords, bar_eq]
  simp only [String.intercalate_cons_cons]

/-- The operation, the kind and the first word of the signature can be read back from the text. -/
theorem text_eq_iff : r.text = s.text ↔ r.operationId = s.operationId ∧
    r.decided.kind = s.decided.kind ∧ r.decided.word = s.decided.word ∧
      r.decided.tail = s.decided.tail := by
  have hversion : Free '|' currentDoctrineVersion := free_ofList (by decide)
  have hclass : Free '|' agentClassFiatOperationsSpecialist := free_ofList (by decide)
  rw [text_eq, text_eq, append_left_inj (free_uuid _) (free_uuid _),
    append_left_inj hversion hversion,
    append_left_inj r.decided.free_kind s.decided.free_kind, append_left_inj hclass hclass,
    append_left_inj r.decided.free_word s.decided.free_word, uuid_text_inj]
  tauto

end Recorded

/-! ## Decisions that share their text -/

/-- Two decisions that share their text though they may differ: two routing decisions of which one
has a path that runs over the words between a path and a session, two decisions for one quorum on
one path, or two holds against one instruction. -/
def Confusable (r s : Recorded) : Prop :=
  r.operationId = s.operationId ∧
    match r.decided, s.decided with
    | .routed dimension path session, .routed dimension' path' session' =>
      dimension = dimension' ∧
        (RunsOver '|' "eligibility_passed".toList path.toList session.toList path'.toList
            session'.toList ∨
          RunsOver '|' "eligibility_passed".toList path'.toList session'.toList path.toList
            session.toList)
    | .quorumRequired _ surface path _, .quorumRequired _ surface' path' _ =>
      surface = surface' ∧ path.getD "no_path_determined" = path'.getD "no_path_determined"
    | .doctrineOverCode _ guardrail instruction, .doctrineOverCode _ guardrail' instruction' =>
      guardrail = guardrail' ∧ instruction = instruction'
    | _, _ => False

namespace Decided

/-- A kind and a first word belong to one shape of decision. -/
theorem ctorIdx_eq {d e : Decided} (hkind : d.kind = e.kind) (hword : d.word = e.word) :
    d.ctorIdx = e.ctorIdx := by
  rw [← readShape_eq, ← readShape_eq, hkind, hword]

end Decided

namespace Recorded

variable {r s : Recorded}

/-- Decisions that share their text are alike, or can be confused. -/
theorem traits_eq_or_confusable (h : r.text = s.text) : r.traits = s.traits ∨ Confusable r s := by
  obtain ⟨hoperation, hkind, hword, htail⟩ := text_eq_iff.mp h
  have hshape := Decided.ctorIdx_eq hkind hword
  obtain ⟨operation, d⟩ := r
  obtain ⟨operation', e⟩ := s
  obtain rfl : operation = operation' := hoperation
  cases d with
  | routed dimension path session =>
    cases e with
    | routed dimension' path' session' =>
      obtain rfl := dimension_value_injective hword
      obtain ⟨rfl, rfl⟩ | hover := Decided.routed_tail_inj.mp htail
      · exact .inl rfl
      · exact .inr ⟨rfl, rfl, hover⟩
    | _ => cases hshape
  | ineligible dimension failed =>
    cases e with
    | ineligible dimension' failed' =>
      obtain ⟨rfl, hfailed⟩ := Decided.ineligible_of_tail htail
      left
      rw [traits, traits, Decided.failedChecks, Decided.failedChecks, hfailed]
      rfl
    | _ => cases hshape
  | unattributed dimension =>
    cases e with
    | unattributed dimension' =>
      rw [Decided.unattributed_tail, Decided.unattributed_tail] at htail
      obtain rfl := dimension_value_injective htail
      exact .inl rfl
    | _ => cases hshape
  | unapproved dimension criteria =>
    cases e with
    | unapproved dimension' criteria' =>
      obtain ⟨rfl, hcriteria⟩ := Decided.dimension_of_words htail
      rw [String.intercalate_singleton, String.intercalate_singleton] at hcriteria
      obtain rfl := hcriteria
      exact .inl rfl
    | _ => cases hshape
  | halted dimension haltId version =>
    cases e with
    | halted dimension' haltId' version' =>
      obtain ⟨rfl, -⟩ := Decided.dimension_of_words htail
      exact .inl rfl
    | _ => cases hshape
  | gateHeld dimension hold =>
    cases e with
    | gateHeld dimension' hold' =>
      obtain ⟨rfl, -⟩ := Decided.dimension_of_words htail
      exact .inl rfl
    | _ => cases hshape
  | doctrineOverCode dimension guardrail instruction =>
    cases e with
    | doctrineOverCode dimension' guardrail' instruction' =>
      rw [Decided.doctrine_tail, Decided.doctrine_tail,
        Decided.bar_left_inj (free_guardrail guardrail) (free_guardrail guardrail')] at htail
      obtain ⟨hguardrail, hinstruction⟩ := htail
      refine .inr ⟨rfl, guardrail_value_injective hguardrail, ?_⟩
      exact Sha256Hex.text_inj.mp hinstruction
    | _ => cases hshape
  | quorumRequired dimension surface path failed =>
    cases e with
    | quorumRequired dimension' surface' path' failed' =>
      rw [Decided.quorum_tail, Decided.quorum_tail] at htail
      exact .inr ⟨rfl, surface_value_injective hword, htail⟩
    | _ => cases hshape

/-- Decisions that can be confused share their text. -/
theorem text_eq_of_confusable (h : Confusable r s) : r.text = s.text := by
  obtain ⟨operation, d⟩ := r
  obtain ⟨operation', e⟩ := s
  obtain ⟨hoperation, h⟩ := h
  apply text_eq_iff.mpr
  refine ⟨hoperation, ?_⟩
  cases d with
  | routed dimension path session =>
    cases e with
    | routed dimension' path' session' =>
      obtain ⟨rfl, hover⟩ := h
      exact ⟨rfl, rfl, Decided.routed_tail_inj.mpr (.inr hover)⟩
    | _ => cases h
  | quorumRequired dimension surface path failed =>
    cases e with
    | quorumRequired dimension' surface' path' failed' =>
      obtain ⟨rfl, hpath⟩ := h
      rw [Decided.quorum_tail, Decided.quorum_tail]
      exact ⟨rfl, rfl, hpath⟩
    | _ => cases h
  | doctrineOverCode dimension guardrail instruction =>
    cases e with
    | doctrineOverCode dimension' guardrail' instruction' =>
      obtain ⟨rfl, rfl⟩ := h
      exact ⟨rfl, rfl, rfl⟩
    | _ => cases h
  | _ => cases e <;> cases h

end Recorded

/-- Two decisions the specialist emits that differ have different texts, except where they can be
confused. -/
theorem telemetry_texts_differ_iff (agent : FiatOperationsSpecialist)
    {first second : FiatOperationsOutput} {r s : Recorded} (hfirst : Emits agent first r)
    (hsecond : Emits agent second s) (hdiffer : r.traits ≠ s.traits) :
    first.base.agentTelemetryHash = agent.sha256 r.text.toUTF8.data.toList ∧
      second.base.agentTelemetryHash = agent.sha256 s.text.toUTF8.data.toList ∧
        (r.text ≠ s.text ↔ ¬ Confusable r s) := by
  refine ⟨hfirst.hash_eq, hsecond.hash_eq, ?_, ?_⟩
  · intro htexts hconfusable
    exact htexts (Recorded.text_eq_of_confusable hconfusable)
  · intro hapart htexts
    obtain halike | hconfusable := Recorded.traits_eq_or_confusable htexts
    · exact hdiffer halike
    · exact hapart hconfusable

/-! ### A path whose identifier runs over the words after it -/

/-- Where no guard fires and there is a path, the record has the path and the session. -/
theorem PathSelection.exists_recorded {kernel : Kernel} {agent : FiatOperationsSpecialist}
    {request : PathSelectionRequest kernel} {selection : PathSelection} {path : ApprovedPath}
    {attribution : JurisdictionalAttribution}
    (h : Unguarded agent request selection.dimension selection.judgedCurrency)
    (hpath : (selection.candidates agent).head? = some path)
    (hattribution : request.attribution = some attribution) :
    ∃ output, Emits agent output ⟨request.operation.lineage.operationId,
      .routed selection.dimension path.pathId attribution.veranaSessionId⟩ := by
  obtain ⟨decision, hrun, hchosen⟩ := selection.exists_decision h hpath
  refine ⟨.routingDecision decision, ?_⟩
  have hemits := Emits.selected request selection _ hrun
  rw [selection.run_eq_selectPath] at hrun
  obtain ⟨escalation, -, houtput⟩ | ⟨triggered, quorum, -, houtput⟩ |
    ⟨escalation, -, houtput⟩ | ⟨escalation, -, -, houtput⟩ | houtput |
    ⟨chosen, verification, attributed, built, hguards, hbuilt, houtput⟩ := selectPath_cases hrun
  case inr.inr.inr.inr.inr =>
    obtain ⟨-, -, hattributed⟩ := runPrePathGuardrails_eq_ok_iff.mp hguards
    obtain rfl : attributed = attribution :=
      Option.some_inj.mp (hattributed.symm.trans hattribution)
    cases houtput
    rw [FiatOperationsSpecialist.buildRoutingDecision] at hbuilt
    split_ifs at hbuilt
    cases hbuilt
    rw [← hchosen]
    exact hemits
  all_goals cases houtput

/-- A facility of the Federal Reserve, by its identifier. -/
def fedPath (pathId : String) (h : pathId ≠ "" := by decide) : ApprovedPath where
  pathId
  dimensions := {.fedRelatedOperation}
  description := "A facility of the Federal Reserve."
  pathId_nonempty := h

/-- The sample request, attributed in the session. -/
def attributedIn (session : String) (h : session ≠ "" := by decide) :
    PathSelectionRequest plainKernel :=
  { sampleRequest with
    attribution := some {
      originatingJurisdiction := "GB"
      receivingJurisdiction := "GB"
      veranaSessionId := session
      attributedAt := sampleTime
      veranaSessionId_nonempty := h } }

/-- Two facilities, of which one has an identifier that runs over the words after a path. -/
def barredAgent : FiatOperationsSpecialist :=
  sampleAgent [fedPath "discount", fedPath "discount|eligibility_passed|window"]

/-- A decision on one of the facilities, in a session. -/
def atFacility (pathId session : String) : Recorded :=
  ⟨sampleOperation.lineage.operationId, .routed .fedRelatedOperation pathId session⟩

theorem emits_atFacility {session : String} (hsession : session ≠ "") {path : ApprovedPath}
    (hpath : (barredAgent.fedFacility path.pathId).head? = some path) :
    ∃ output, Emits barredAgent output (atFacility path.pathId session) := by
  apply @PathSelection.exists_recorded _ barredAgent (attributedIn session hsession)
    (.fedRelatedOperation path.pathId) path _ ?_ hpath rfl
  have hplain : Unguarded barredAgent sampleRequest .fedRelatedOperation none :=
    sampleRequest_unguarded _ _
  exact ⟨hplain.no_halt, ⟨rfl, fun _ _ _ _ => Finset.notMem_empty _, nofun⟩, hplain.eligible, rfl,
    hplain.gate⟩

/-- Two decisions on two facilities, in two sessions, share their text. -/
theorem telemetry_texts_differ_counterexample :
    ¬ ∀ (agent : FiatOperationsSpecialist) (first second : FiatOperationsOutput) (r s : Recorded),
      Emits agent first r → Emits agent second s → r.traits ≠ s.traits → r.text ≠ s.text := by
  intro h
  obtain ⟨first, hfirst⟩ := @emits_atFacility "window|eligibility_passed|night" (by decide)
    (fedPath "discount") (by decide)
  obtain ⟨second, hsecond⟩ := @emits_atFacility "night" (by decide)
    (fedPath "discount|eligibility_passed|window") (by decide)
  exact h barredAgent first second _ _ hfirst hsecond (by decide)
    (by decide +kernel)

/-- The decisions on one facility in two sessions have different texts. -/
theorem telemetry_texts_differ_sessions :
    (atFacility "discount" "night").text ≠ (atFacility "discount" "day").text := by
  obtain ⟨first, hfirst⟩ := @emits_atFacility "night" (by decide) (fedPath "discount") (by decide)
  obtain ⟨second, hsecond⟩ := @emits_atFacility "day" (by decide) (fedPath "discount") (by decide)
  apply (telemetry_texts_differ_iff barredAgent hfirst hsecond (by decide)).2.2.mpr
  -- the identifier does not run over the words after itself
  rintro ⟨-, -, hover⟩
  obtain (⟨h, -⟩ | ⟨middle, h, -⟩) | (⟨h, -⟩ | ⟨middle, h, -⟩) := hover
  all_goals exact absurd (congrArg List.length h) (by simp)

end Atreides
