import Atreides.Agents.SettlementOperations
import Atreides.Escalation.Register
import Atreides.Foundation.Dict

/-!
# The clearing operator cockpit

The cockpit governs the operator's cycle around the portals of a clearing corporation and a
depository: it gathers a tasking, validates it, and prepares an instruction package for a
human to enter. Each primitive first asks whether a halt is in force. The package is emitted
on a clean pass of the gates below the material magnitude; a material one is held for a
quorum, and a held gate persists its escalation.

## Main definitions

* `CockpitTasking`, `GateResult`, `InstructionPackage` — the records of the cycle
* `ClearingCockpit`, `CockpitSetup`, `CockpitCall` — its state, what it is built with, and what
  one call reads outside of it
* `captureTasking`, `runValidationGates`, `emitInstructionPackage` — the first three beats
-/

namespace Atreides

open DecimalContext (ambient)

/-! ## Vocabularies -/

/-- The two regimes the cockpit keeps apart. -/
inductive PortalRegime
  | ccp
  | csd
  deriving DecidableEq, Repr

/-- The beats of the cycle that are the cockpit's own. -/
inductive CycleBeat
  | gather
  | validate
  | prepare
  | reconcile
  deriving DecidableEq, Repr

/-- What became of an instruction package. -/
inductive PackageDisposition
  | emitForHumanEntry
  | gateHeld
  | quorumRequiredHold
  deriving DecidableEq, Repr

/-- The legs a reconciliation can break on. -/
inductive BreakLeg
  | position
  | funding
  | clearingFund
  | netObligation
  | riskControl
  deriving DecidableEq, Repr

/-! ## Records -/

/-- The transaction as the operator captured it. -/
structure CockpitTasking where
  operationId : Uuid
  regime : PortalRegime
  rail : SettlementRail
  settlementKind : SettlementKind
  counterpartyId : String
  cusip : Option String := none
  settlementDate : Timestamp
  authorityTier : CaomTier
  authorityId : String
  capturedAt : Timestamp
  netDeliveryQuantity : Option FiniteDecimal := none
  netPaymentAmount : Option FiniteDecimal := none
  ficcPublishedNetDelivery : Option FiniteDecimal := none
  intradayCreditLimit : Option FiniteDecimal := none
  intradayCreditCurrentUsage : Option FiniteDecimal := none
  creditFacilityType : Option CreditFacilityType := none
  ficcClearingFundCompliant : Bool := true
  sponsoringMemberId : Option String := none
  gcfPoolCustodian : Option GcfPoolCustodian := none

/-- The outcome of the second beat. Nothing has been persisted by it. -/
structure GateResult where
  operationId : Uuid
  regime : PortalRegime
  passed : Bool
  outputKind : RecordKind
  checksEvaluated : List String
  discrepancyCode : Option String := none
  detail : Option String := none

/-- Whose authority a package is stamped with. -/
structure AuthorityStamp where
  authorityTier : CaomTier
  authorityId : String
  doctrineVersion : String
  caomMode : String
  deriving DecidableEq

/-- A package for a human to enter. It is never a submission. -/
structure InstructionPackage where
  operationId : Uuid
  regime : PortalRegime
  disposition : PackageDisposition
  rail : SettlementRail
  settlementKind : SettlementKind
  cusip : Option String
  netDeliveryQuantity : Option FiniteDecimal
  netPaymentAmount : Option FiniteDecimal
  dsorRecordId : Option Uuid
  authorityStamp : AuthorityStamp
  quorumRequired : Bool
  forHumanEntry : Bool
  isSubmission : Bool := false
  notes : Option String := none
  never_submission : isSubmission = false := by rfl

/-- What the operator read on the portal after the submission. -/
structure PortalReadback where
  operationId : Uuid
  regime : PortalRegime
  ingestedAt : Timestamp
  positionBalance : Option FiniteDecimal := none
  clearingFundDeficit : Option FiniteDecimal := none
  ccpNetObligation : Option FiniteDecimal := none
  intradayCreditUsage : Option FiniteDecimal := none
  riskControlStatus : Option String := none

/-- What was expected against what was read. -/
structure Reconciliation where
  operationId : Uuid
  regime : PortalRegime
  matched : Bool
  breaks : List BreakLeg := []
  detail : Dict String (Dict String String) := .empty
  escalationIds : List String := []

/-- A break on the workbench. -/
structure BreakTicket where
  breakId : String
  operationId : Uuid
  regime : PortalRegime
  leg : BreakLeg
  detail : String
  dsorRecordId : Option Uuid
  raisedAt : Timestamp
  deriving DecidableEq

/-- What a beat leaves in the ledger. -/
inductive CycleRecord
  | tasking (tasking : CockpitTasking)
  | gates (result : GateResult)
  | package (package : InstructionPackage)
  | readback (readback : PortalReadback)
  | reconciliation (reconciliation : Reconciliation)

structure LedgerEntry where
  beat : CycleBeat
  loggedAt : String
  record : CycleRecord

/-! ## The cockpit -/

/-- What a cockpit is built with. The digest of a tasking does not see when it was captured. -/
structure CockpitSetup where
  analyst : SettlementOperationsAnalyst
  materialMagnitudeThreshold : Decimal := 50000000
  doctrineVersion : String := currentDoctrineVersion
  caomMode : String := caomModeDefault
  /-- the digest of the captured picture -/
  preOperationStateHash : CockpitTasking → Sha256Hex
  /-- the identifier derived from a name -/
  uuid5 : String → Uuid
  ignores_capture : ∀ tasking capturedAt,
    preOperationStateHash { tasking with capturedAt } = preOperationStateHash tasking

/-- The state of a cockpit. -/
structure ClearingCockpit where
  store : DSORStore
  ccpContext : Dict Uuid CockpitTasking := .empty
  csdContext : Dict Uuid CockpitTasking := .empty
  ledger : Dict Uuid (List LedgerEntry) := .empty
  workbench : List BreakTicket := []
  escalations : EscalationDelivery.EscalationRegister := .empty

/-- What one call reads outside of the cockpit: what the suppliers of halts answer, where the
cockpit has them, the clock, and an identifier drawn for a record. -/
structure CockpitCall where
  halt : Option (Outcome (Option HaltContext)) := none
  haltCheck : Option (Outcome Bool) := none
  haltedAt : Timestamp
  clock : Timestamp
  loggedAt : Timestamp
  freshId : Uuid

namespace CockpitSetup

variable (setup : CockpitSetup)

/-! ### Halts -/

def tier0HaltActor : ActorRef where
  actorId := "act_" ++ String.ofList (List.replicate 26 '0')
  actorKind := .deterministicService
  role := "atreides-cockpit-tier0-halt"
  entitlementRefs := ["AUR-CANONICAL-001 v1.6 Axiom 9"]
  authenticated := true

/-- The halt of every domain that a raised `haltCheck` stands for. -/
def tier0HaltContext (declaredAt : Timestamp) : HaltContext where
  haltId := "hlt_" ++ String.ofList (List.replicate 26 '0')
  version := 1
  active := true
  scope := [.aureon, .atreides, .lc]
  declaredBy := tier0HaltActor
  declaredAt
  reason := "Tier 0 Halt raised through the cockpit halt_check predicate"

/-- The supplied halt, where there is one that blocks the domain. -/
def suppliedHalt (call : CockpitCall) : Outcome (Option HaltContext) :=
  match call.halt with
  | none => .ok none
  | some answer => do
    let context ← answer
    return context.filter fun context =>
      setup.analyst.kernel.gateUnderHalt context .atreides = .block

/-- The halt in force, if any. -/
def currentHalt (call : CockpitCall) : Outcome (Option HaltContext) := do
  match ← setup.suppliedHalt call with
  | some context => return some context
  | none =>
    match call.haltCheck with
    | none => return none
    | some answer =>
      if ← answer then return some (tier0HaltContext call.haltedAt) else return none

/-- Refuse a primitive under a halt. -/
def guardHalt (call : CockpitCall) (primitive : String) : Outcome Unit := do
  match ← setup.currentHalt call with
  | none => return ()
  | some context =>
    throw (.refused "CockpitHalted" ("Tier 0 Halt active (halt " ++ context.haltId ++
      ", version " ++ toString context.version ++ ": " ++ context.reason ++
      ") — cockpit primitive " ++ quoted primitive ++
      " refused. AUR-CANONICAL-001 v1.6 Axiom 9; ATR-I-06."))

/-! ### The tasking record -/

/-- The analyst's record of a tasking. Its identifiers derive from the captured picture, so
two beats build the same record. -/
def taskingRecord (tasking : CockpitTasking) : Outcome SettlementTaskingRecord := do
  let preHash := setup.preOperationStateHash tasking
  let lineageStub ← DsorLineageStub.ofTexts tasking.operationId setup.doctrineVersion
    setup.caomMode tasking.authorityTier tasking.authorityId tasking.capturedAt preHash
  return {
    taskId := setup.uuid5 ("atreides:cockpit:" ++ preHash.text)
    operationId := tasking.operationId
    rail := tasking.rail
    settlementKind := tasking.settlementKind
    counterpartyId := tasking.counterpartyId
    deadline := tasking.settlementDate
    lineageStub
    netCusip := tasking.cusip
    netDeliveryQuantity := tasking.netDeliveryQuantity
    netPaymentAmount := tasking.netPaymentAmount
    ficcPublishedNetDelivery := tasking.ficcPublishedNetDelivery
    intradayCreditLimit := tasking.intradayCreditLimit
    intradayCreditCurrentUsage := tasking.intradayCreditCurrentUsage
    creditFacilityType := tasking.creditFacilityType
    ficcClearingFundCompliant := tasking.ficcClearingFundCompliant
    sponsoringMemberId := tasking.sponsoringMemberId
    gcfPoolCustodian := tasking.gcfPoolCustodian }

/-- The gates, as the cockpit calls them: with no halt of their own. -/
def validateSettlement (record : SettlementTaskingRecord) : SettlementValidation :=
  validateTasking setup.analyst.kernel record

/-- The figure the magnitude of a tasking is judged by: the net payment, or the net delivery
where no payment is stated. -/
def magnitude (tasking : CockpitTasking) : Option FiniteDecimal :=
  tasking.netPaymentAmount.orElse fun _ => tasking.netDeliveryQuantity

/-- The magnitude reaches the threshold. -/
def isMaterial (tasking : CockpitTasking) : Outcome Bool :=
  match magnitude tasking with
  | none => .ok false
  | some magnitude => do
    let size ← magnitude.abs ambient
    setup.materialMagnitudeThreshold.le (.finite size)

/-- The gates passed, and the magnitude is not material. -/
def emitNow (tasking : CockpitTasking) (gateResult : GateResult) : Outcome Bool :=
  if gateResult.passed then do
    let material ← setup.isMaterial tasking
    return !material
  else return false

/-! ### Packages -/

def authorityStamp (tasking : CockpitTasking) : AuthorityStamp where
  authorityTier := tasking.authorityTier
  authorityId := tasking.authorityId
  doctrineVersion := setup.doctrineVersion
  caomMode := setup.caomMode

/-- A package of a tasking. -/
def packageOf (tasking : CockpitTasking) (dsorRecordId : Option Uuid)
    (disposition : PackageDisposition) (quorumRequired forHumanEntry : Bool) (notes : String) :
    InstructionPackage where
  operationId := tasking.operationId
  regime := tasking.regime
  disposition
  rail := tasking.rail
  settlementKind := tasking.settlementKind
  cusip := tasking.cusip
  netDeliveryQuantity := tasking.netDeliveryQuantity
  netPaymentAmount := tasking.netPaymentAmount
  dsorRecordId
  authorityStamp := setup.authorityStamp tasking
  quorumRequired
  forHumanEntry
  notes := some notes

/-- The package of the third beat: held by a gate, held for a quorum, or emitted. -/
def package (tasking : CockpitTasking) (gateResult : GateResult) (emitNow : Bool)
    (dsorRecordId : Option Uuid) : InstructionPackage :=
  if !gateResult.passed then
    setup.packageOf tasking dsorRecordId .gateHeld false false
      ("Gate held (" ++ optionText id gateResult.discrepancyCode ++
        "); no package emitted. AUR-COCKPIT-001 Section IV Beat 2.")
  else if !emitNow then
    setup.packageOf tasking dsorRecordId .quorumRequiredHold true false
      ("Material magnitude — quorum required (default 3-of-5). " ++
        "Quorum is unavailable under CAOM-001: operation HOLDS and " ++
        "surfaces a CAOM-transition trigger. No package emitted. " ++
        "AUR-CUSTODY-001 Section VII; canonical Section V.")
  else
    setup.packageOf tasking dsorRecordId .emitForHumanEntry false true
      "Validated instruction package for entitled-member entry. Not a submission."

end CockpitSetup

namespace ClearingCockpit

/-! ## Primitives -/

/-- The context of a regime, with one more tasking. -/
def capture (cockpit : ClearingCockpit) (tasking : CockpitTasking) : ClearingCockpit :=
  match tasking.regime with
  | .ccp => { cockpit with ccpContext := cockpit.ccpContext.set tasking.operationId tasking }
  | .csd => { cockpit with csdContext := cockpit.csdContext.set tasking.operationId tasking }

/-- The ledger of an operation, with one more entry. -/
def ledgerAppend (operationId : Uuid) (entry : LedgerEntry) (cockpit : ClearingCockpit) :
    ClearingCockpit :=
  { cockpit with
    ledger :=
      cockpit.ledger.set operationId (cockpit.ledger.getD operationId [] ++ [entry]) }

/-- Note a beat in the ledger. -/
def note (call : CockpitCall) (operationId : Uuid) (beat : CycleBeat) (record : CycleRecord) :
    Effect ClearingCockpit Unit :=
  modify (ledgerAppend operationId ⟨beat, call.loggedAt.isoformat, record⟩)

/-- A call of the analyst on the cockpit's store. -/
def onStore {α : Type} (x : Effect DSORStore α) : Effect ClearingCockpit α :=
  Effect.within store (fun store cockpit => { cockpit with store }) x

/-- The first beat: take in a tasking, under an identifier of its own where the caller gives
none. -/
def captureTasking (setup : CockpitSetup) (call : CockpitCall) (operationId : Option Uuid)
    (picture : CockpitTasking) : Effect ClearingCockpit CockpitTasking := do
  Effect.ofOutcome (setup.guardHalt call "capture_tasking")
  let tasking :=
    { picture with
      operationId := operationId.getD call.freshId
      capturedAt := call.clock }
  modify fun cockpit => cockpit.capture tasking
  note call tasking.operationId .gather (.tasking tasking)
  return tasking

/-- The second beat: run the gates. Only the ledger records that they ran. -/
def runValidationGates (setup : CockpitSetup) (call : CockpitCall) (tasking : CockpitTasking) :
    Effect ClearingCockpit GateResult := do
  Effect.ofOutcome (setup.guardHalt call "run_validation_gates")
  let record ← Effect.ofOutcome (setup.taskingRecord tasking)
  let validation := setup.validateSettlement record
  let result : GateResult := {
    operationId := tasking.operationId
    regime := tasking.regime
    passed := validation.passed
    outputKind := if validation.passed then .settlementTelemetry else .settlementEscalation
    checksEvaluated := validation.checksEvaluated
    discrepancyCode := validation.discrepancyCode.map (·.value)
    detail := validation.failureDetail }
  note call tasking.operationId .validate (.gates result)
  return result

/-- Emit the settlement of a record, and name the row it was persisted under. -/
def emitSettlement (setup : CockpitSetup) (call : CockpitCall) (record : SettlementTaskingRecord)
    (validation : SettlementValidation) : Effect ClearingCockpit (Option Uuid) := do
  let (_, dsorRecord) ← onStore (setup.analyst.emit record validation
    { clock := call.clock
      freshId := call.freshId })
  return some dsorRecord.recordId

/-- Persist what is emitted or held by a gate. A package held for a quorum persists nothing. -/
def persistOutcome (setup : CockpitSetup) (call : CockpitCall) (gateResult : GateResult)
    (emitNow : Bool) (record : SettlementTaskingRecord) (validation : SettlementValidation) :
    Effect ClearingCockpit (Option Uuid) :=
  if !gateResult.passed || emitNow then emitSettlement setup call record validation
  else pure none

/-- The third beat: emit an instruction package, or hold it. -/
def emitInstructionPackage (setup : CockpitSetup) (call : CockpitCall) (tasking : CockpitTasking)
    (gateResult : GateResult) : Effect ClearingCockpit InstructionPackage := do
  Effect.ofOutcome (setup.guardHalt call "emit_instruction_package")
  Effect.refuseIf (gateResult.operationId ≠ tasking.operationId)
    (.refused "CockpitBoundaryError" "gate_result/operation_id mismatch")
  let record ← Effect.ofOutcome (setup.taskingRecord tasking)
  let validation := setup.validateSettlement record
  Effect.refuseIf (validation.passed ≠ gateResult.passed)
    (.refused "CockpitBoundaryError"
      "gate_result no longer matches the tasking; re-run Beat 2 before emitting")
  let emitNow ← Effect.ofOutcome (setup.emitNow tasking gateResult)
  let dsorRecordId ← persistOutcome setup call gateResult emitNow record validation
  let package := setup.package tasking gateResult emitNow dsorRecordId
  note call tasking.operationId .prepare (.package package)
  return package

end ClearingCockpit

end Atreides
