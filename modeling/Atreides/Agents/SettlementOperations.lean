import Atreides.Contracts.Operation
import Atreides.Dsor.Store
import Atreides.Foundation.Casing
import Atreides.Foundation.Decimal.Exact
import Atreides.Kernel
import Atreides.Messaging.Readback

/-!
# The settlement operations analyst

The analyst routes a settlement instruction in two stages. Validation runs the gates in
order, up to the first that holds, and has no effects. Emission persists one record: of an
escalation where the validation held, of telemetry where it passed. A halt in force holds
before any gate.

## Main definitions

* `SettlementTaskingRecord`, `SettlementValidation` — what the analyst is given and answers
* `validateTasking` — the gates
* `SettlementOutput` — what emission persists
* `SettlementOperationsAnalyst.emit`, `SettlementOperationsAnalyst.run` — the stages

## Main results

* `validateTasking_passed_iff` — a validation passes exactly when no halt is in force and
  every gate is clear
* `emit_transactional` — an emission that raises leaves the store
* `emit_eq_ok` — an emission that returns has appended one row
-/

namespace Atreides

/-! ## Vocabularies -/

inductive SettlementRail
  | ficcGsdDvp
  | ficcGcfRepo
  | ficcSponsoredDvp
  | fedwireFunds
  | fedwireSecurities
  | swiftMt202
  deriving DecidableEq, Repr

def SettlementRail.value : SettlementRail → String
  | ficcGsdDvp => "ficc_gsd_dvp"
  | ficcGcfRepo => "ficc_gcf_repo"
  | ficcSponsoredDvp => "ficc_sponsored_dvp"
  | fedwireFunds => "fedwire_funds"
  | fedwireSecurities => "fedwire_securities"
  | swiftMt202 => "swift_mt202"

inductive SettlementKind
  | dvp
  | mtmMarginCall
  | eodNetFunding
  deriving DecidableEq, Repr

inductive CreditFacilityType
  | directFed
  | correspondent
  deriving DecidableEq, Repr

inductive GcfPoolCustodian
  | bnyMellon
  deriving DecidableEq, Repr

/-- Why an instruction is held, or failed. -/
inductive DiscrepancyCode
  | dsorMismatch
  | railUnavailable
  | counterpartyTimeout
  | instructionRejected
  | clearingFundDeficiency
  | intradayCreditThreshold
  | netObligationMismatch
  | ficcMtmDeadlineBreach
  | railConfirmationMismatch
  | haltActive
  deriving DecidableEq, Repr

def DiscrepancyCode.value : DiscrepancyCode → String
  | dsorMismatch => "dsor_mismatch"
  | railUnavailable => "rail_unavailable"
  | counterpartyTimeout => "counterparty_timeout"
  | instructionRejected => "instruction_rejected"
  | clearingFundDeficiency => "clearing_fund_deficiency"
  | intradayCreditThreshold => "intraday_credit_threshold"
  | netObligationMismatch => "net_obligation_mismatch"
  | ficcMtmDeadlineBreach => "ficc_mtm_deadline_breach"
  | railConfirmationMismatch => "rail_confirmation_mismatch"
  | haltActive => "halt_active"

/-! ## Tasking and validation -/

/-- The doctrine the analyst stamps on a tasking that names none. -/
def analystDoctrineVersion : String := "AUR-CANONICAL-001-v1.5.1"

/-- What the analyst is given. The figures are optional, and a gate applies where the figures
it compares are there. -/
structure SettlementTaskingRecord where
  taskId : Uuid
  operationId : Uuid
  rail : SettlementRail
  settlementKind : SettlementKind
  counterpartyId : String
  deadline : Timestamp
  lineageStub : DsorLineageStub
  doctrineVersion : String := analystDoctrineVersion
  netCusip : Option String := none
  netDeliveryQuantity : Option FiniteDecimal := none
  netPaymentAmount : Option FiniteDecimal := none
  ficcPublishedNetDelivery : Option FiniteDecimal := none
  intradayCreditLimit : Option FiniteDecimal := none
  intradayCreditCurrentUsage : Option FiniteDecimal := none
  creditFacilityType : Option CreditFacilityType := none
  ficcClearingFundCompliant : Bool := true
  sponsoringMemberId : Option String := none
  gcfPoolCustodian : Option GcfPoolCustodian := none

/-- The outcome of the gates. A validation that held says why, and a passed one does not. -/
structure SettlementValidation where
  operationId : Uuid
  passed : Bool
  checksEvaluated : List String
  discrepancyCode : Option DiscrepancyCode := none
  failureDetail : Option String := none
  intradayCreditUsage : Option FiniteDecimal := none
  intradayCreditLimit : Option FiniteDecimal := none
  clearingFundDeficiency : Bool := false
  netObligationDiscrepancy : Option String := none
  names_discrepancy : passed = discrepancyCode.isNone
  says_why : passed = false → failureDetail.any (· ≠ "") = true
  checks_nonempty : checksEvaluated ≠ []

/-- A validation with other gates evaluated. -/
def SettlementValidation.withChecks (validation : SettlementValidation) (evaluated : List String)
    (h : evaluated ≠ []) : SettlementValidation :=
  { validation with
    checksEvaluated := evaluated
    checks_nonempty := h }

/-- A validation that a discrepancy held. -/
def held (tasking : SettlementTaskingRecord) (code : DiscrepancyCode) (detail : String)
    (hdetail : detail ≠ "") (clearingFundDeficiency : Bool := false)
    (netObligationDiscrepancy : Option String := none) : SettlementValidation where
  operationId := tasking.operationId
  passed := false
  checksEvaluated := ["pending"]
  discrepancyCode := some code
  failureDetail := some detail
  intradayCreditUsage := tasking.intradayCreditCurrentUsage
  intradayCreditLimit := tasking.intradayCreditLimit
  clearingFundDeficiency
  netObligationDiscrepancy
  names_discrepancy := rfl
  says_why := fun _ => by simpa using hdetail
  checks_nonempty := by simp

/-! ## The gates -/

/-- What the first gate says where it holds. -/
def intradayFundingDetail : String :=
  "Intraday credit usage at or above facility limit. " ++
    "Pre-routing hold. Instruction not issued. " ++
    "Primitive: monitor_intraday_funding_position. " ++
    "AUR-CANONICAL-001 v1.5.1 Section IV."

theorem intradayFundingDetail_ne_empty : intradayFundingDetail ≠ "" := by decide +kernel

/-- Hold where the credit used is at or above the limit of the facility. -/
def intradayFundingHold (tasking : SettlementTaskingRecord) : Option SettlementValidation :=
  match tasking.intradayCreditLimit, tasking.intradayCreditCurrentUsage with
  | some limit, some usage =>
    if limit.le usage then
      some (held tasking .intradayCreditThreshold intradayFundingDetail
        intradayFundingDetail_ne_empty)
    else none
  | _, _ => none

/-- What the second gate says where it holds. -/
def clearingFundDetail : String :=
  "FICC clearing fund contribution (VaR-based) deficient. " ++
    "Pre-routing hold. Instruction not issued. " ++
    "Primitive: verify_ficc_clearing_fund_compliance. " ++
    "AUR-CANONICAL-001 v1.5.1 Section IV."

theorem clearingFundDetail_ne_empty : clearingFundDetail ≠ "" := by decide +kernel

/-- Hold where the contribution to the clearing fund is deficient. -/
def clearingFundHold (tasking : SettlementTaskingRecord) : Option SettlementValidation :=
  if !tasking.ficcClearingFundCompliant then
    some (held tasking .clearingFundDeficiency clearingFundDetail clearingFundDetail_ne_empty true)
  else none

/-- What the third gate says where it holds. -/
def netObligationDetail : String :=
  "FICC net settlement obligation does not match " ++
    "FICC-published net delivery position. Pre-routing hold. " ++
    "Primitive: model_ficc_net_settlement_obligation. " ++
    "AUR-CANONICAL-001 v1.5.1 Section IV."

theorem netObligationDetail_ne_empty : netObligationDetail ≠ "" := by decide +kernel

/-- Hold where the net delivery is not the one the clearing corporation published. -/
def netObligationHold (tasking : SettlementTaskingRecord) : Option SettlementValidation :=
  match tasking.ficcPublishedNetDelivery, tasking.netDeliveryQuantity with
  | some published, some quantity =>
    if !published.eq quantity then
      some (held tasking .netObligationMismatch netObligationDetail netObligationDetail_ne_empty
        false
        (some ("tasking=" ++ quantity.text ++ "; ficc_published=" ++ published.text)))
    else none
  | _, _ => none

/-- What the last gate says where it holds. -/
def lineageDetail : String :=
  "Lineage stub operation_id does not match tasking operation_id. " ++
    "DSOR pre-trade record verification failed. " ++
    "Primitive: verify_dsor_pre_trade_record. " ++
    "AUR-CANONICAL-001 v1.5.1 Section IV."

theorem lineageDetail_ne_empty : lineageDetail ≠ "" := by decide +kernel

/-- Hold where the lineage is of another operation. -/
def lineageHold (tasking : SettlementTaskingRecord) : Option SettlementValidation :=
  if tasking.lineageStub.operationId ≠ tasking.operationId then
    some (held tasking .dsorMismatch lineageDetail lineageDetail_ne_empty)
  else none

/-- The names of the gates, in the order they are evaluated. -/
def gateOrder : List String :=
  ["monitor_intraday_funding_position", "verify_ficc_clearing_fund_compliance",
    "model_ficc_net_settlement_obligation", "verify_dsor_pre_trade_record"]

def preRoutingGates : List (String × (SettlementTaskingRecord → Option SettlementValidation)) :=
  gateOrder.zip [intradayFundingHold, clearingFundHold, netObligationHold, lineageHold]

/-- Evaluate gates up to the first that holds: the names evaluated, and the hold. -/
def evaluateGates (tasking : SettlementTaskingRecord) :
    List String → List (String × (SettlementTaskingRecord → Option SettlementValidation)) →
      List String × Option SettlementValidation
  | evaluated, [] => (evaluated, none)
  | evaluated, (name, check) :: rest =>
    match check tasking with
    | some hold => (evaluated ++ [name], some hold)
    | none => evaluateGates tasking (evaluated ++ [name]) rest

theorem evaluateGates_ne_nil (tasking : SettlementTaskingRecord) {evaluated : List String}
    {checks : List (String × (SettlementTaskingRecord → Option SettlementValidation))}
    (h : evaluated ≠ [] ∨ checks ≠ []) :
    (evaluateGates tasking evaluated checks).1 ≠ [] := by
  induction checks generalizing evaluated with
  | nil =>
    rcases h with h | h
    · exact h
    · exact absurd rfl h
  | cons gate rest ih =>
    obtain ⟨name, check⟩ := gate
    rw [evaluateGates]
    cases check tasking with
    | some hold => simp
    | none => exact ih (Or.inl (by simp))

/-- No gate holds exactly when each is clear. -/
theorem evaluateGates_eq_none_iff {tasking : SettlementTaskingRecord} {evaluated : List String}
    {checks : List (String × (SettlementTaskingRecord → Option SettlementValidation))} :
    (evaluateGates tasking evaluated checks).2 = none ↔
      ∀ gate ∈ checks, gate.2 tasking = none := by
  induction checks generalizing evaluated with
  | nil => simp [evaluateGates]
  | cons gate rest ih =>
    obtain ⟨name, check⟩ := gate
    rw [evaluateGates, List.forall_mem_cons]
    cases hcheck : check tasking with
    | some hold => exact iff_of_false nofun fun h => nomatch hcheck.symm.trans h.1
    | none => exact ih.trans (and_iff_right hcheck).symm

/-- What a gate answers, it holds. -/
theorem held_of_evaluateGates {tasking : SettlementTaskingRecord} {evaluated : List String}
    {checks : List (String × (SettlementTaskingRecord → Option SettlementValidation))}
    {hold : SettlementValidation} (h : (evaluateGates tasking evaluated checks).2 = some hold) :
    ∃ gate ∈ checks, gate.2 tasking = some hold := by
  induction checks generalizing evaluated with
  | nil => cases h
  | cons gate rest ih =>
    obtain ⟨name, check⟩ := gate
    rw [evaluateGates] at h
    cases hcheck : check tasking with
    | some first =>
      rw [hcheck] at h
      cases h
      exact ⟨(name, check), List.mem_cons_self, hcheck⟩
    | none =>
      rw [hcheck] at h
      obtain ⟨gate, hgate, hhold⟩ := ih h
      exact ⟨gate, List.mem_cons_of_mem _ hgate, hhold⟩

/-- The halt that holds a tasking, where one is in force. -/
def haltHold (kernel : Kernel) (tasking : SettlementTaskingRecord) (halt : Option HaltContext) :
    Option SettlementValidation :=
  (halt.filter fun halt => kernel.gateUnderHalt halt .atreides = .block).map fun halt =>
    (held tasking .haltActive
      ("Halt " ++ (halt.haltId ++ " (version " ++ toString halt.version ++
        ") is active for Atreides: " ++ halt.reason ++
        ". Pre-routing hold. Instruction not issued (ATR-I-06).")) (by simp)).withChecks
      ["halt"] (by simp)

/-- Run the gates in order, under a halt that may be in force. -/
def validateTasking (kernel : Kernel) (tasking : SettlementTaskingRecord)
    (halt : Option HaltContext := none) : SettlementValidation :=
  match haltHold kernel tasking halt with
  | some hold => hold
  | none =>
    let evaluated := evaluateGates tasking [] preRoutingGates
    have hevaluated : evaluated.1 ≠ [] :=
      evaluateGates_ne_nil tasking (Or.inr (List.cons_ne_nil _ _))
    match evaluated.2 with
    | some hold => hold.withChecks evaluated.1 hevaluated
    | none =>
      { operationId := tasking.operationId
        passed := true
        checksEvaluated := evaluated.1
        names_discrepancy := rfl
        says_why := nofun
        checks_nonempty := hevaluated }

/-! ### What passing means -/

/-- Every gate is clear: the credit used is below the limit, the clearing fund is compliant, the
net delivery is the published one, and the lineage is of the operation. -/
structure GatesClear (tasking : SettlementTaskingRecord) : Prop where
  within_credit : ∀ limit usage, tasking.intradayCreditLimit = some limit →
    tasking.intradayCreditCurrentUsage = some usage → usage.value < limit.value
  fund_compliant : tasking.ficcClearingFundCompliant = true
  as_published : ∀ published quantity, tasking.ficcPublishedNetDelivery = some published →
    tasking.netDeliveryQuantity = some quantity → published.value = quantity.value
  own_lineage : tasking.lineageStub.operationId = tasking.operationId

theorem intradayFundingHold_eq_none_iff {tasking : SettlementTaskingRecord} :
    intradayFundingHold tasking = none ↔
      ∀ limit usage, tasking.intradayCreditLimit = some limit →
        tasking.intradayCreditCurrentUsage = some usage → usage.value < limit.value := by
  rw [intradayFundingHold.eq_def]
  rcases tasking.intradayCreditLimit with _ | limit
  · simp
  rcases tasking.intradayCreditCurrentUsage with _ | usage
  · simp
  · simp [FiniteDecimal.le_iff]

theorem clearingFundHold_eq_none_iff {tasking : SettlementTaskingRecord} :
    clearingFundHold tasking = none ↔ tasking.ficcClearingFundCompliant = true := by
  simp [clearingFundHold]

theorem netObligationHold_eq_none_iff {tasking : SettlementTaskingRecord} :
    netObligationHold tasking = none ↔
      ∀ published quantity, tasking.ficcPublishedNetDelivery = some published →
        tasking.netDeliveryQuantity = some quantity → published.value = quantity.value := by
  rw [netObligationHold.eq_def]
  rcases tasking.ficcPublishedNetDelivery with _ | published
  · simp
  rcases tasking.netDeliveryQuantity with _ | quantity
  · simp
  · simp [← FiniteDecimal.eq_iff]

theorem lineageHold_eq_none_iff {tasking : SettlementTaskingRecord} :
    lineageHold tasking = none ↔ tasking.lineageStub.operationId = tasking.operationId := by
  simp [lineageHold]

theorem gatesClear_iff {tasking : SettlementTaskingRecord} :
    GatesClear tasking ↔ ∀ gate ∈ preRoutingGates, gate.2 tasking = none := by
  simp only [preRoutingGates, gateOrder, List.zip_cons_cons, List.zip_nil_right,
    List.forall_mem_cons, intradayFundingHold_eq_none_iff, clearingFundHold_eq_none_iff,
    netObligationHold_eq_none_iff, lineageHold_eq_none_iff]
  refine ⟨fun h => ⟨h.within_credit, h.fund_compliant, h.as_published, h.own_lineage, nofun⟩, ?_⟩
  rintro ⟨hcredit, hfund, hpublished, hlineage, -⟩
  exact ⟨hcredit, hfund, hpublished, hlineage⟩

theorem not_passed_of_gate {tasking : SettlementTaskingRecord}
    {gate : String × (SettlementTaskingRecord → Option SettlementValidation)}
    (hgate : gate ∈ preRoutingGates) {hold : SettlementValidation}
    (h : gate.2 tasking = some hold) : hold.passed = false := by
  simp only [preRoutingGates, gateOrder, List.zip_cons_cons, List.zip_nil_right, List.mem_cons,
    List.not_mem_nil, or_false] at hgate
  rcases hgate with rfl | rfl | rfl | rfl
  · simp only [intradayFundingHold] at h
    split at h
    · split at h
      · cases h
        rfl
      · cases h
    · cases h
  · simp only [clearingFundHold] at h
    split at h
    · cases h
      rfl
    · cases h
  · simp only [netObligationHold] at h
    split at h
    · split at h
      · cases h
        rfl
      · cases h
    · cases h
  · simp only [lineageHold] at h
    split at h
    · cases h
      rfl
    · cases h

theorem haltHold_eq_none_iff {kernel : Kernel} {tasking : SettlementTaskingRecord}
    {halt : Option HaltContext} :
    haltHold kernel tasking halt = none ↔
      ∀ context, halt = some context → kernel.gateUnderHalt context .atreides ≠ .block := by
  rw [haltHold, Option.map_eq_none_iff, Option.filter_eq_none_iff]
  simp

/-- A tasking passes exactly when no halt is in force and every gate is clear. -/
theorem validateTasking_passed_iff {kernel : Kernel} {tasking : SettlementTaskingRecord}
    {halt : Option HaltContext} :
    (validateTasking kernel tasking halt).passed = true ↔
      (∀ context, halt = some context → kernel.gateUnderHalt context .atreides ≠ .block) ∧
        GatesClear tasking := by
  rw [← haltHold_eq_none_iff, gatesClear_iff,
    ← @evaluateGates_eq_none_iff tasking [] preRoutingGates, validateTasking]
  rcases hhalt : haltHold kernel tasking halt with _ | hold
  · simp only [true_and]
    rcases hgates : (evaluateGates tasking [] preRoutingGates).2 with _ | hold
    · simp
    · obtain ⟨gate, hmem, hgate⟩ := held_of_evaluateGates hgates
      simp [SettlementValidation.withChecks, not_passed_of_gate hmem hgate]
  · have hpassed : hold.passed = false := by
      rw [haltHold, Option.map_eq_some_iff] at hhalt
      obtain ⟨context, -, rfl⟩ := hhalt
      rfl
    simp [hpassed]

theorem haltHold_none (kernel : Kernel) (tasking : SettlementTaskingRecord) :
    haltHold kernel tasking none = none := rfl

/-! ## What emission persists -/

/-- The statuses with which a venue acknowledges an instruction. -/
def acknowledgingStatuses : List SettlementStatus :=
  [.received, .inProgress, .acceptedNotPosted, .settled]

/-- A rail's acknowledgement of an instruction, from a verified readback. -/
structure RailAcknowledgment where
  endToEndId : String
  status : SettlementStatus
  statusReportMessageId : String
  acknowledgedAt : Timestamp
  endToEndId_nonempty : endToEndId ≠ ""
  messageId_nonempty : statusReportMessageId ≠ ""
  acknowledges : status ∈ acknowledgingStatuses
  not_naive : acknowledgedAt.utcOffset.isSome = true

/-- What both outputs carry. -/
structure SettlementOutputBase where
  operationId : Uuid
  taskId : Uuid
  doctrineVersion : String
  lineageStub : DsorLineageStub
  emittedAt : Timestamp
  rail : Option SettlementRail

/-- An instruction was routed. -/
structure SettlementTelemetry extends SettlementOutputBase where
  settlementKind : SettlementKind
  instructionReference : String
  netCusip : Option String := none
  netDeliveryQuantity : Option FiniteDecimal := none
  netPaymentAmount : Option FiniteDecimal := none
  railAcknowledgment : Option RailAcknowledgment := none
  clearingFundCompliant : Bool
  intradayCreditUsageAtExecution : Option FiniteDecimal := none
  intradayCreditLimit : Option FiniteDecimal := none
  sponsoringMemberId : Option String := none
  gcfPoolCustodian : Option GcfPoolCustodian := none

/-- A gate, or a halt, held the instruction. -/
structure SettlementEscalation extends SettlementOutputBase where
  discrepancyCode : DiscrepancyCode
  failureDetail : String
  intradayCreditUsage : Option FiniteDecimal := none
  intradayCreditLimit : Option FiniteDecimal := none
  clearingFundDeficiency : Bool := false
  netObligationDiscrepancy : Option String := none

inductive SettlementOutput
  | telemetry (output : SettlementTelemetry)
  | escalation (output : SettlementEscalation)

namespace SettlementOutput

def kind : SettlementOutput → RecordKind
  | telemetry _ => .settlementTelemetry
  | escalation _ => .settlementEscalation

def operationId : SettlementOutput → Uuid
  | telemetry output => output.operationId
  | escalation output => output.operationId

/-- The output as the store takes it. -/
def forStore (modelDumpJson : SettlementOutput → String) (output : SettlementOutput) :
    SettlementDomainOutput where
  kind := output.kind
  operationId := output.operationId
  json := modelDumpJson output

end SettlementOutput

/-! ## Emission -/

/-- What a call of the analyst gets besides the tasking: a time and a halt where the caller
gives them, the clock, and the identifier drawn for the record. -/
structure EmissionCall where
  now : Option Timestamp := none
  halt : Option HaltContext := none
  clock : Timestamp
  freshId : Uuid

/-- The analyst, with the kernel it consults and the encoder of its outputs. -/
structure SettlementOperationsAnalyst where
  kernel : Kernel
  modelDumpJson : SettlementOutput → String

namespace SettlementOperationsAnalyst

variable (analyst : SettlementOperationsAnalyst)

/-- A routing reference: the rail, and the first digits of the task. -/
def routeSettlementInstruction (tasking : SettlementTaskingRecord) : String :=
  let taskHex :=
    upper (String.ofList ((tasking.taskId.text.toList.filter (· ≠ '-')).take 12))
  upper tasking.rail.value ++ "-" ++ taskHex

def makeEscalation (tasking : SettlementTaskingRecord) (validation : SettlementValidation)
    (now : Timestamp) : Outcome SettlementEscalation :=
  match validation.discrepancyCode, validation.failureDetail with
  | some discrepancyCode, some failureDetail =>
    .ok {
      operationId := tasking.operationId
      taskId := tasking.taskId
      doctrineVersion := tasking.doctrineVersion
      lineageStub := tasking.lineageStub
      emittedAt := now
      rail := none
      discrepancyCode
      failureDetail
      intradayCreditUsage := validation.intradayCreditUsage
      intradayCreditLimit := validation.intradayCreditLimit
      clearingFundDeficiency := validation.clearingFundDeficiency
      netObligationDiscrepancy := validation.netObligationDiscrepancy }
  | _, _ => .error (.refused "AssertionError" "")

def makeTelemetry (tasking : SettlementTaskingRecord) (emittedAt : Timestamp) :
    SettlementTelemetry where
  operationId := tasking.operationId
  taskId := tasking.taskId
  doctrineVersion := tasking.doctrineVersion
  lineageStub := tasking.lineageStub
  emittedAt
  rail := some tasking.rail
  settlementKind := tasking.settlementKind
  instructionReference := routeSettlementInstruction tasking
  netCusip := tasking.netCusip
  netDeliveryQuantity := tasking.netDeliveryQuantity
  netPaymentAmount := tasking.netPaymentAmount
  clearingFundCompliant := tasking.ficcClearingFundCompliant
  intradayCreditUsageAtExecution := tasking.intradayCreditCurrentUsage
  intradayCreditLimit := tasking.intradayCreditLimit
  sponsoringMemberId := tasking.sponsoringMemberId
  gcfPoolCustodian := tasking.gcfPoolCustodian

/-- Persist one output. -/
def persist (output : SettlementOutput) (emittedAt : Timestamp) (freshId : Uuid) :
    Effect DSORStore (SettlementOutput × DSORRecord) := do
  let record ← DSORStore.appendRecord
    { output := output.forStore analyst.modelDumpJson
      dtg := some emittedAt
      now := emittedAt
      freshId }
  return (output, record)

/-- The validation emission goes by: a halt given to the call has the tasking validated anew
where the validation passed. -/
def inEffect (tasking : SettlementTaskingRecord) (validation : SettlementValidation)
    (halt : Option HaltContext) : SettlementValidation :=
  if validation.passed && halt.isSome then validateTasking analyst.kernel tasking halt
  else validation

/-- The emission stage: persist the escalation of a held validation, or route the instruction
and persist its telemetry. A halt given to the call overrides a validation that passed. -/
def emit (tasking : SettlementTaskingRecord) (validation : SettlementValidation)
    (call : EmissionCall) : Effect DSORStore (SettlementOutput × DSORRecord) := do
  Effect.refuseIf (validation.operationId ≠ tasking.operationId)
    (.valueError "validation and tasking describe different operations")
  let validation := analyst.inEffect tasking validation call.halt
  let emittedAt := call.now.getD call.clock
  if !validation.passed then
    let escalation ← Effect.ofOutcome (makeEscalation tasking validation emittedAt)
    analyst.persist (.escalation escalation) emittedAt call.freshId
  else
    analyst.persist (.telemetry (makeTelemetry tasking emittedAt)) emittedAt call.freshId

/-- Both stages. -/
def run (tasking : SettlementTaskingRecord) (call : EmissionCall) :
    Effect DSORStore (SettlementOutput × DSORRecord) :=
  analyst.emit tasking (validateTasking analyst.kernel tasking call.halt) call

/-! ### What emission does -/

variable {analyst : SettlementOperationsAnalyst} {tasking : SettlementTaskingRecord}
  {validation : SettlementValidation} {call : EmissionCall}

theorem persist_transactional (output : SettlementOutput) (emittedAt : Timestamp)
    (freshId : Uuid) : Effect.Transactional (analyst.persist output emittedAt freshId) :=
  (DSORStore.appendRecord_transactional _).bind fun _ => Effect.neverRaises_pure _

/-- An emission that raises leaves the store. -/
theorem emit_transactional : Effect.Transactional (analyst.emit tasking validation call) := by
  refine Effect.Transactional.of_readOnly_bind (Effect.ReadOnly.refuseIf _ _) fun _ => ?_
  dsimp only
  split_ifs
  · refine Effect.Transactional.of_readOnly_bind (Effect.ReadOnly.of_outcome _) fun _ => ?_
    exact persist_transactional _ _ _
  · exact persist_transactional _ _ _

/-- What was persisted is the output, in one row. -/
theorem persist_eq_ok {output : SettlementOutput} {emittedAt : Timestamp} {freshId : Uuid}
    {store store' : DSORStore} {result : SettlementOutput × DSORRecord}
    (h : analyst.persist output emittedAt freshId store = .ok result store') :
    result.1 = output ∧
      ∃ row, store'.rows = store.rows ++ [row] ∧ row.recordId = result.2.recordId ∧
        row.operationId = output.operationId ∧ row.kind = output.kind := by
  rw [persist, Effect.bind_eq_ok] at h
  obtain ⟨record, store'', happend, hpure⟩ := h
  rw [Effect.pure_eq_ok] at hpure
  obtain ⟨rfl, rfl⟩ := hpure
  refine ⟨rfl, _, DSORStore.rows_of_appendRecord happend, ?_, rfl, rfl⟩
  exact (DSORStore.recordId_of_appendRecord happend).symm

/-- What `makeEscalation` makes is for the operation of the tasking. -/
theorem operationId_of_makeEscalation {now : Timestamp} {escalation : SettlementEscalation}
    (h : makeEscalation tasking validation now = .ok escalation) :
    escalation.operationId = tasking.operationId := by
  rw [makeEscalation.eq_def] at h
  split at h
  · cases h
    rfl
  · cases h

/-- An emission that returns has appended one row: telemetry where the validation in effect
passed, and an escalation elsewhere. -/
theorem emit_eq_ok {store store' : DSORStore} {result : SettlementOutput × DSORRecord}
    (h : analyst.emit tasking validation call store = .ok result store') :
    validation.operationId = tasking.operationId ∧
      ∃ row, store'.rows = store.rows ++ [row] ∧ row.recordId = result.2.recordId ∧
        row.operationId = tasking.operationId ∧
        row.kind = if (analyst.inEffect tasking validation call.halt).passed then
          .settlementTelemetry else .settlementEscalation := by
  rw [emit, Effect.bind_eq_ok] at h
  obtain ⟨⟨⟩, store₁, hguard, h⟩ := h
  rw [Effect.refuseIf_eq_ok, not_not] at hguard
  obtain ⟨hsame, rfl⟩ := hguard
  refine ⟨hsame, ?_⟩
  by_cases hpassed : (analyst.inEffect tasking validation call.halt).passed = true
  · simp only [hpassed, Bool.not_true, Bool.false_eq_true, if_false] at h
    obtain ⟨-, row, hrows, hid, hoperation, hkind⟩ := persist_eq_ok h
    exact ⟨row, hrows, hid, hoperation, by rw [hkind, if_pos hpassed]; rfl⟩
  · simp only [Bool.not_eq_true] at hpassed
    simp only [hpassed, Bool.not_false, if_true, Effect.bind_eq_ok, Effect.ofOutcome_eq_ok] at h
    obtain ⟨escalation, store₂, ⟨hmade, rfl⟩, h⟩ := h
    obtain ⟨-, row, hrows, hid, hoperation, hkind⟩ := persist_eq_ok h
    refine ⟨row, hrows, hid, ?_, ?_⟩
    · rw [hoperation]
      exact operationId_of_makeEscalation hmade
    · rw [hkind, hpassed]
      rfl

end SettlementOperationsAnalyst

end Atreides
