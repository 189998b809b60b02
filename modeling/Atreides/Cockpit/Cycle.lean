import Atreides.Cockpit.Reconciliation

/-!
# Runs of the cockpit

A cockpit is opened on a store and a register of escalations, and its primitives are called in
any order, for any operations in both regimes. A call that raises has changed nothing. Tickets
are named by the first characters of their operation and their leg, without a counter, so that a
leg that breaks again, or in an operation that begins alike, gets a name that is taken.
Escalations are numbered by the register they are raised on.

## Main definitions

* `CockpitRequest`, `perform`, `stateAfter` — a call of a primitive, and where calls lead
* `RunGoverned` — what a run guarantees in every state it reaches
* `UsesNewNames` — the names a call gives are not taken

## Main results

* `perform_transactional` — a call that raises changes nothing
* `numbered_stateAfter` — the register numbers the breaches of a run with new names
* `runGoverned_iff` — a run is governed exactly when its calls give new names
-/

namespace Atreides

open EscalationDelivery ClearingCockpit

/-! ## Calls -/

/-- A call of one primitive. -/
inductive CockpitRequest
  | captureTasking (operationId : Option Uuid) (picture : CockpitTasking)
  | runValidationGates (tasking : CockpitTasking)
  | emitInstructionPackage (tasking : CockpitTasking) (gateResult : GateResult)
  | ingestPortalReadback (entered : PortalReadback)
  | reconcileExpectedActual (expected : InstructionPackage) (readback : PortalReadback)
      (expectedPosition : Option FiniteDecimal)
  | raiseBreak (reconciliation : Reconciliation) (dsorRecordId : Option Uuid)

/-- What a primitive returns. -/
inductive CockpitAnswer
  | tasking (tasking : CockpitTasking)
  | gates (result : GateResult)
  | package (package : InstructionPackage)
  | readback (readback : PortalReadback)
  | reconciliation (reconciliation : Reconciliation)
  | tickets (tickets : List BreakTicket)

/-- The name a primitive is refused under. -/
def CockpitRequest.primitive : CockpitRequest → String
  | captureTasking .. => "capture_tasking"
  | runValidationGates .. => "run_validation_gates"
  | emitInstructionPackage .. => "emit_instruction_package"
  | ingestPortalReadback .. => "ingest_portal_readback"
  | reconcileExpectedActual .. => "reconcile_expected_actual"
  | raiseBreak .. => "raise_break"

/-- Call a primitive. -/
def perform (setup : CockpitSetup) (call : CockpitCall) :
    CockpitRequest → Effect ClearingCockpit CockpitAnswer
  | .captureTasking operationId picture => do
    let tasking ← captureTasking setup call operationId picture
    return .tasking tasking
  | .runValidationGates tasking => do
    let result ← runValidationGates setup call tasking
    return .gates result
  | .emitInstructionPackage tasking gateResult => do
    let package ← emitInstructionPackage setup call tasking gateResult
    return .package package
  | .ingestPortalReadback entered => do
    let readback ← ingestPortalReadback setup call entered
    return .readback readback
  | .reconcileExpectedActual expected readback expectedPosition => do
    let reconciliation ← reconcileExpectedActual setup call expected readback expectedPosition
    return .reconciliation reconciliation
  | .raiseBreak reconciliation dsorRecordId => do
    let tickets ← raiseBreak setup call reconciliation dsorRecordId
    return .tickets tickets

/-- A cockpit as it is opened. -/
def opened (store : DSORStore) (register : EscalationRegister) : ClearingCockpit where
  store
  escalations := register

/-- Where a run of calls leads. -/
def stateAfter (setup : CockpitSetup) (cockpit : ClearingCockpit)
    (run : List (CockpitCall × CockpitRequest)) : ClearingCockpit :=
  Effect.leavesAll (fun asked => perform setup asked.1 asked.2) cockpit run

/-! ## A call that raises changes nothing -/

section Transactional

variable {setup : CockpitSetup} {call : CockpitCall}

theorem note_neverRaises (operationId : Uuid) (beat : CycleBeat) (record : CycleRecord) :
    Effect.NeverRaises (note call operationId beat record) :=
  Effect.neverRaises_modify _

theorem raiseEscalation_transactional (escalation : Escalation) :
    Effect.Transactional (raiseEscalation escalation) :=
  Effect.Transactional.within (Effect.Transactional.of_step _) fun _ => rfl

theorem escalateBreach_transactional (tasking : Option CockpitTasking)
    (readback : PortalReadback) : Effect.Transactional (escalateBreach tasking readback) := by
  rw [escalateBreach]
  split_ifs
  · refine Effect.Transactional.of_readOnly_bind Effect.ReadOnly.of_get fun _ => ?_
    refine Effect.Transactional.of_readOnly_bind (Effect.ReadOnly.of_outcome _) fun _ => ?_
    refine Effect.Transactional.bind (raiseEscalation_transactional _) fun _ => ?_
    exact Effect.neverRaises_pure _
  · exact (Effect.ReadOnly.of_pure _).transactional

theorem captureTasking_transactional (operationId : Option Uuid) (picture : CockpitTasking) :
    Effect.Transactional (captureTasking setup call operationId picture) := by
  refine Effect.Transactional.of_readOnly_bind (Effect.ReadOnly.of_outcome _) fun _ => ?_
  apply Effect.NeverRaises.transactional
  refine (Effect.neverRaises_modify _).bind fun _ => ?_
  exact (note_neverRaises _ _ _).bind fun _ => Effect.neverRaises_pure _

theorem runValidationGates_transactional (tasking : CockpitTasking) :
    Effect.Transactional (runValidationGates setup call tasking) := by
  refine Effect.Transactional.of_readOnly_bind (Effect.ReadOnly.of_outcome _) fun _ => ?_
  refine Effect.Transactional.of_readOnly_bind (Effect.ReadOnly.of_outcome _) fun _ => ?_
  apply Effect.NeverRaises.transactional
  exact (note_neverRaises _ _ _).bind fun _ => Effect.neverRaises_pure _

theorem ingestPortalReadback_transactional (entered : PortalReadback) :
    Effect.Transactional (ingestPortalReadback setup call entered) := by
  refine Effect.Transactional.of_readOnly_bind (Effect.ReadOnly.of_outcome _) fun _ => ?_
  refine Effect.Transactional.of_readOnly_bind Effect.ReadOnly.of_get fun _ => ?_
  refine Effect.Transactional.of_readOnly_bind (Effect.ReadOnly.refuseIf _ _) fun _ => ?_
  apply Effect.NeverRaises.transactional
  exact (note_neverRaises _ _ _).bind fun _ => Effect.neverRaises_pure _

theorem reconcileExpectedActual_transactional (expected : InstructionPackage)
    (readback : PortalReadback) (expectedPosition : Option FiniteDecimal) :
    Effect.Transactional
      (reconcileExpectedActual setup call expected readback expectedPosition) := by
  refine Effect.Transactional.of_readOnly_bind (Effect.ReadOnly.of_outcome _) fun _ => ?_
  refine Effect.Transactional.of_readOnly_bind (Effect.ReadOnly.refuseIf _ _) fun _ => ?_
  refine Effect.Transactional.of_readOnly_bind Effect.ReadOnly.of_get fun _ => ?_
  refine Effect.Transactional.bind (escalateBreach_transactional _ _) fun _ => ?_
  exact (note_neverRaises _ _ _).bind fun _ => Effect.neverRaises_pure _

theorem raiseBreak_transactional (reconciliation : Reconciliation) (dsorRecordId : Option Uuid) :
    Effect.Transactional (raiseBreak setup call reconciliation dsorRecordId) := by
  refine Effect.Transactional.of_readOnly_bind (Effect.ReadOnly.of_outcome _) fun _ => ?_
  apply Effect.NeverRaises.transactional
  exact (Effect.neverRaises_modify _).bind fun _ => Effect.neverRaises_pure _

/-- A call that raises has changed nothing. -/
theorem perform_transactional (request : CockpitRequest) :
    Effect.Transactional (perform setup call request) := by
  cases request with
  | captureTasking operationId picture =>
    exact (captureTasking_transactional operationId picture).bind
      fun _ => Effect.neverRaises_pure _
  | runValidationGates tasking =>
    exact (runValidationGates_transactional tasking).bind fun _ => Effect.neverRaises_pure _
  | emitInstructionPackage tasking gateResult =>
    exact emitInstructionPackage_transactional.bind fun _ => Effect.neverRaises_pure _
  | ingestPortalReadback entered =>
    exact (ingestPortalReadback_transactional entered).bind fun _ => Effect.neverRaises_pure _
  | reconcileExpectedActual expected readback expectedPosition =>
    exact (reconcileExpectedActual_transactional expected readback expectedPosition).bind
      fun _ => Effect.neverRaises_pure _
  | raiseBreak reconciliation dsorRecordId =>
    exact (raiseBreak_transactional reconciliation dsorRecordId).bind
      fun _ => Effect.neverRaises_pure _

end Transactional

/-! ## What a call does -/

/-- The tickets a call puts on the workbench. -/
def CockpitRequest.ticketsRaised (call : CockpitCall) : CockpitRequest → List BreakTicket
  | raiseBreak reconciliation dsorRecordId =>
    reconciliation.breaks.map (breakTicket call reconciliation dsorRecordId)
  | _ => []

/-- The escalations an answer names. -/
def CockpitAnswer.escalationIds : CockpitAnswer → List String
  | .reconciliation compared => compared.escalationIds
  | _ => []

/-- The entries of an operation in the ledger. -/
def ClearingCockpit.entriesOf (cockpit : ClearingCockpit) (operationId : Uuid) :
    List LedgerEntry :=
  cockpit.ledger.getD operationId []

/-- What a call that returned did to the cockpit: it was not halted, the workbench has the
tickets it raised and the register the escalations it names, and the ledger of no operation lost
anything. -/
structure CallDone (setup : CockpitSetup) (call : CockpitCall) (request : CockpitRequest)
    (answer : CockpitAnswer) (cockpit cockpit' : ClearingCockpit) : Prop where
  no_halt : setup.currentHalt call = .ok none
  workbench_appended : cockpit'.workbench = cockpit.workbench ++ request.ticketsRaised call
  escalations_appended :
    cockpit'.escalations.order = cockpit.escalations.order ++ answer.escalationIds
  ledger_appended : ∀ operationId, cockpit.entriesOf operationId <+: cockpit'.entriesOf operationId

section Done

variable {setup : CockpitSetup} {call : CockpitCall} {cockpit cockpit' : ClearingCockpit}

theorem entriesOf_ledgerAppend (operationId : Uuid) (entry : LedgerEntry)
    (cockpit : ClearingCockpit) (operationId' : Uuid) :
    cockpit.entriesOf operationId' <+:
      (ledgerAppend operationId entry cockpit).entriesOf operationId' := by
  rw [entriesOf, entriesOf, ledgerAppend, Dict.getD, Dict.getD, Dict.get?_set]
  split_ifs with h
  · subst h
    exact List.prefix_append _ _
  · exact List.prefix_rfl

/-- A call that only notes a beat of its operation. -/
theorem callDone_of_noted {operationId : Uuid} {entry : LedgerEntry} {request : CockpitRequest}
    {answer : CockpitAnswer} {between : ClearingCockpit} (hhalt : setup.currentHalt call = .ok none)
    (hledger : between.ledger = cockpit.ledger) (hworkbench : between.workbench = cockpit.workbench)
    (hescalations : between.escalations.order =
      cockpit.escalations.order ++ answer.escalationIds)
    (htickets : request.ticketsRaised call = []) :
    CallDone setup call request answer cockpit (ledgerAppend operationId entry between) where
  no_halt := hhalt
  workbench_appended := by
    rw [htickets, List.append_nil, ← hworkbench]
    rfl
  escalations_appended := hescalations
  ledger_appended := by
    intro operationId'
    have hentries : cockpit.entriesOf operationId' = between.entriesOf operationId' := by
      rw [entriesOf, entriesOf, hledger]
    rw [hentries]
    exact entriesOf_ledgerAppend operationId entry between operationId'

theorem ledger_capture (cockpit : ClearingCockpit) (tasking : CockpitTasking) :
    (cockpit.capture tasking).ledger = cockpit.ledger := by
  rw [capture]
  cases tasking.regime <;> rfl

theorem workbench_capture (cockpit : ClearingCockpit) (tasking : CockpitTasking) :
    (cockpit.capture tasking).workbench = cockpit.workbench := by
  rw [capture]
  cases tasking.regime <;> rfl

theorem escalations_capture (cockpit : ClearingCockpit) (tasking : CockpitTasking) :
    (cockpit.capture tasking).escalations = cockpit.escalations := by
  rw [capture]
  cases tasking.regime <;> rfl

theorem captureTasking_done {operationId : Option Uuid} {picture tasking : CockpitTasking}
    (h : captureTasking setup call operationId picture cockpit = .ok tasking cockpit') :
    CallDone setup call (.captureTasking operationId picture) (.tasking tasking) cockpit cockpit' := by
  simp only [captureTasking, Effect.bind_eq_ok, Effect.ofOutcome_eq_ok, note,
    Effect.modify_eq_ok, Effect.pure_eq_ok] at h
  obtain ⟨⟨⟩, _, ⟨hguard, rfl⟩, ⟨⟩, _, rfl, ⟨⟩, _, rfl, rfl, rfl⟩ := h
  refine callDone_of_noted (guardHalt_eq_ok_iff.mp hguard) (ledger_capture _ _)
    (workbench_capture _ _) ?_ rfl
  rw [escalations_capture]
  exact (List.append_nil _).symm

theorem runValidationGates_done {tasking : CockpitTasking} {result : GateResult}
    (h : runValidationGates setup call tasking cockpit = .ok result cockpit') :
    CallDone setup call (.runValidationGates tasking) (.gates result) cockpit cockpit' := by
  simp only [runValidationGates, Effect.bind_eq_ok, Effect.ofOutcome_eq_ok, note,
    Effect.modify_eq_ok, Effect.pure_eq_ok] at h
  obtain ⟨⟨⟩, _, ⟨hguard, rfl⟩, record, _, ⟨-, rfl⟩, ⟨⟩, _, rfl, rfl, rfl⟩ := h
  exact callDone_of_noted (guardHalt_eq_ok_iff.mp hguard) rfl rfl (List.append_nil _).symm rfl

theorem onStore_eq_ok {α : Type} {x : Effect DSORStore α} {a : α}
    (h : onStore x cockpit = .ok a cockpit') : ∃ store, cockpit' = { cockpit with store } := by
  rw [onStore, Effect.within_eq_ok] at h
  obtain ⟨store, -, rfl⟩ := h
  exact ⟨store, rfl⟩

theorem persistOutcome_eq_ok {gateResult : GateResult} {emitNow : Bool}
    {record : SettlementTaskingRecord} {validation : SettlementValidation} {name : Option Uuid}
    (h : persistOutcome setup call gateResult emitNow record validation cockpit =
      .ok name cockpit') : ∃ store, cockpit' = { cockpit with store } := by
  rw [persistOutcome] at h
  split_ifs at h
  · rw [emitSettlement, Effect.bind_eq_ok] at h
    obtain ⟨_, _, hemit, hname⟩ := h
    rw [Effect.pure_eq_ok] at hname
    obtain ⟨-, rfl⟩ := hname
    exact onStore_eq_ok hemit
  · rw [Effect.pure_eq_ok] at h
    exact ⟨cockpit.store, h.2.symm⟩

theorem emitInstructionPackage_done {tasking : CockpitTasking} {gateResult : GateResult}
    {package : InstructionPackage}
    (h : emitInstructionPackage setup call tasking gateResult cockpit = .ok package cockpit') :
    CallDone setup call (.emitInstructionPackage tasking gateResult) (.package package) cockpit
      cockpit' := by
  simp only [emitInstructionPackage, Effect.bind_eq_ok, Effect.ofOutcome_eq_ok,
    Effect.refuseIf_eq_ok, note, Effect.modify_eq_ok, Effect.pure_eq_ok] at h
  obtain ⟨⟨⟩, _, ⟨hguard, rfl⟩, ⟨⟩, _, ⟨-, rfl⟩, _, _, ⟨-, rfl⟩, ⟨⟩, _, ⟨-, rfl⟩, _, _,
    ⟨-, rfl⟩, _, _, hpersist, ⟨⟩, _, rfl, rfl, rfl⟩ := h
  obtain ⟨store, rfl⟩ := persistOutcome_eq_ok hpersist
  exact callDone_of_noted (guardHalt_eq_ok_iff.mp hguard) rfl rfl (List.append_nil _).symm rfl

theorem ingestPortalReadback_done {entered readback : PortalReadback}
    (h : ingestPortalReadback setup call entered cockpit = .ok readback cockpit') :
    CallDone setup call (.ingestPortalReadback entered) (.readback readback) cockpit cockpit' := by
  simp only [ingestPortalReadback, Effect.bind_eq_ok, Effect.ofOutcome_eq_ok,
    Effect.refuseIf_eq_ok, Effect.get_eq_ok, note, Effect.modify_eq_ok, Effect.pure_eq_ok] at h
  obtain ⟨⟨⟩, _, ⟨hguard, rfl⟩, _, _, ⟨rfl, rfl⟩, ⟨⟩, _, ⟨-, rfl⟩, ⟨⟩, _, rfl, rfl, rfl⟩ := h
  exact callDone_of_noted (guardHalt_eq_ok_iff.mp hguard) rfl rfl (List.append_nil _).symm rfl

/-- Raising an escalation that is new appends it to the register. -/
theorem raiseEscalation_eq_ok_iff {escalation raised : Escalation} :
    raiseEscalation escalation cockpit = .ok raised cockpit' ↔
      ∃ register, cockpit.escalations.raiseEscalation escalation = .ok (register, raised) ∧
        cockpit' = { cockpit with escalations := register } := by
  rw [raiseEscalation, Effect.within_eq_ok]
  simp only [Effect.ofStep_eq_ok, @eq_comm _ cockpit']

/-- Escalating a declared breach raises one escalation, under a name that was not taken. -/
theorem escalateBreach_eq_ok_iff {tasking : Option CockpitTasking} {readback : PortalReadback}
    {escalationIds : List String}
    (hbreach : isRiskControlBreach readback.riskControlStatus = true) :
    escalateBreach tasking readback cockpit = .ok escalationIds cockpit' ↔
      ∃ offset register raised, raisedAtOffset tasking readback = .ok offset ∧
        cockpit.escalations.raiseEscalation
          (riskControlEscalation cockpit.escalations tasking readback offset) =
            .ok (register, raised) ∧
        escalationIds = [raised.escalationId] ∧
        cockpit' = { cockpit with escalations := register } := by
  rw [escalateBreach, if_pos hbreach]
  simp only [Effect.bind_eq_ok, Effect.get_eq_ok, Effect.ofOutcome_eq_ok,
    raiseEscalation_eq_ok_iff, Effect.pure_eq_ok]
  constructor
  · rintro ⟨_, _, ⟨rfl, rfl⟩, offset, _, ⟨hoffset, rfl⟩, raised, _, ⟨register, hraise, rfl⟩, rfl,
      rfl⟩
    exact ⟨offset, register, raised, hoffset, hraise, rfl, rfl⟩
  · rintro ⟨offset, register, raised, hoffset, hraise, rfl, rfl⟩
    exact ⟨_, _, ⟨rfl, rfl⟩, offset, _, ⟨hoffset, rfl⟩, raised, _, ⟨register, hraise, rfl⟩, rfl,
      rfl⟩

/-- Escalating changes the register alone, by the escalations it names. -/
theorem escalated_of_escalateBreach {tasking : Option CockpitTasking} {readback : PortalReadback}
    {escalationIds : List String}
    (h : escalateBreach tasking readback cockpit = .ok escalationIds cockpit') :
    ∃ register, cockpit' = { cockpit with escalations := register } ∧
      register.order = cockpit.escalations.order ++ escalationIds := by
  cases hbreach : isRiskControlBreach readback.riskControlStatus with
  | false =>
    rw [escalateBreach_of_no_breach hbreach, Effect.pure_eq_ok] at h
    obtain ⟨rfl, rfl⟩ := h
    exact ⟨cockpit.escalations, rfl, (List.append_nil _).symm⟩
  | true =>
    obtain ⟨offset, register, raised, -, hraise, rfl, rfl⟩ :=
      (escalateBreach_eq_ok_iff hbreach).mp h
    obtain ⟨rfl, -, -, -, horder⟩ := raised_of_raiseEscalation hraise
    exact ⟨register, rfl, horder⟩

theorem reconcileExpectedActual_done {expected : InstructionPackage} {readback : PortalReadback}
    {expectedPosition : Option FiniteDecimal} {reconciliation : Reconciliation}
    (h : reconcileExpectedActual setup call expected readback expectedPosition cockpit =
      .ok reconciliation cockpit') :
    CallDone setup call (.reconcileExpectedActual expected readback expectedPosition)
      (.reconciliation reconciliation) cockpit cockpit' := by
  obtain ⟨hhalt, -, escalationIds, escalated, hescalate, rfl, rfl⟩ :=
    reconcileExpectedActual_eq_ok_iff.mp h
  obtain ⟨register, rfl, horder⟩ := escalated_of_escalateBreach hescalate
  exact callDone_of_noted hhalt rfl rfl horder rfl

theorem raiseBreak_eq_ok {reconciliation : Reconciliation} {dsorRecordId : Option Uuid}
    {tickets : List BreakTicket}
    (h : raiseBreak setup call reconciliation dsorRecordId cockpit = .ok tickets cockpit') :
    setup.currentHalt call = .ok none ∧
      tickets = reconciliation.breaks.map (breakTicket call reconciliation dsorRecordId) ∧
      cockpit' = { cockpit with workbench := cockpit.workbench ++ tickets } := by
  simp only [raiseBreak, Effect.bind_eq_ok, Effect.ofOutcome_eq_ok, Effect.modify_eq_ok,
    Effect.pure_eq_ok] at h
  obtain ⟨⟨⟩, _, ⟨hguard, rfl⟩, ⟨⟩, _, rfl, rfl, rfl⟩ := h
  exact ⟨guardHalt_eq_ok_iff.mp hguard, rfl, rfl⟩

theorem raiseBreak_done {reconciliation : Reconciliation} {dsorRecordId : Option Uuid}
    {tickets : List BreakTicket}
    (h : raiseBreak setup call reconciliation dsorRecordId cockpit = .ok tickets cockpit') :
    CallDone setup call (.raiseBreak reconciliation dsorRecordId) (.tickets tickets) cockpit
      cockpit' := by
  obtain ⟨hhalt, rfl, rfl⟩ := raiseBreak_eq_ok h
  exact ⟨hhalt, rfl, (List.append_nil _).symm, fun _ => List.prefix_rfl⟩

theorem perform_done {request : CockpitRequest} {answer : CockpitAnswer}
    (h : perform setup call request cockpit = .ok answer cockpit') :
    CallDone setup call request answer cockpit cockpit' := by
  cases request with
  | captureTasking operationId picture =>
    obtain ⟨tasking, _, hcall, hanswer⟩ := Effect.bind_eq_ok.mp h
    obtain ⟨rfl, rfl⟩ := Effect.pure_eq_ok.mp hanswer
    exact captureTasking_done hcall
  | runValidationGates tasking =>
    obtain ⟨result, _, hcall, hanswer⟩ := Effect.bind_eq_ok.mp h
    obtain ⟨rfl, rfl⟩ := Effect.pure_eq_ok.mp hanswer
    exact runValidationGates_done hcall
  | emitInstructionPackage tasking gateResult =>
    obtain ⟨package, _, hcall, hanswer⟩ := Effect.bind_eq_ok.mp h
    obtain ⟨rfl, rfl⟩ := Effect.pure_eq_ok.mp hanswer
    exact emitInstructionPackage_done hcall
  | ingestPortalReadback entered =>
    obtain ⟨readback, _, hcall, hanswer⟩ := Effect.bind_eq_ok.mp h
    obtain ⟨rfl, rfl⟩ := Effect.pure_eq_ok.mp hanswer
    exact ingestPortalReadback_done hcall
  | reconcileExpectedActual expected readback expectedPosition =>
    obtain ⟨reconciliation, _, hcall, hanswer⟩ := Effect.bind_eq_ok.mp h
    obtain ⟨rfl, rfl⟩ := Effect.pure_eq_ok.mp hanswer
    exact reconcileExpectedActual_done hcall
  | raiseBreak reconciliation dsorRecordId =>
    obtain ⟨tickets, _, hcall, hanswer⟩ := Effect.bind_eq_ok.mp h
    obtain ⟨rfl, rfl⟩ := Effect.pure_eq_ok.mp hanswer
    exact raiseBreak_done hcall

/-- What a halt refuses, it refuses before anything is done. -/
theorem perform_of_refused {request : CockpitRequest} {e : PyError}
    (h : setup.guardHalt call request.primitive = .error e) :
    perform setup call request cockpit = .error e cockpit := by
  have hguard : (Effect.ofOutcome (setup.guardHalt call request.primitive) :
      Effect ClearingCockpit Unit) cockpit = .error e cockpit := by
    rw [h]
    rfl
  cases request <;> exact Effect.bind_of_error _ (Effect.bind_of_error _ hguard)

theorem guardHalt_of_halted {context : HaltContext}
    (h : setup.currentHalt call = .ok (some context)) (primitive : String) :
    ∃ text, setup.guardHalt call primitive = .error (.refused "CockpitHalted" text) := by
  rw [CockpitSetup.guardHalt, h]
  exact ⟨_, rfl⟩

theorem perform_reconcile_eq_ok_iff {expected : InstructionPackage} {readback : PortalReadback}
    {expectedPosition : Option FiniteDecimal} {reconciliation : Reconciliation} :
    perform setup call (.reconcileExpectedActual expected readback expectedPosition) cockpit =
        .ok (.reconciliation reconciliation) cockpit' ↔
      reconcileExpectedActual setup call expected readback expectedPosition cockpit =
        .ok reconciliation cockpit' := by
  rw [perform, Effect.bind_eq_ok]
  constructor
  · rintro ⟨_, _, hcall, hanswer⟩
    cases hanswer
    exact hcall
  · intro hcall
    exact ⟨reconciliation, cockpit', hcall, rfl⟩

/-- A call of the workbench returns unless it is halted. -/
theorem perform_raiseBreak_returns (hhalt : setup.currentHalt call = .ok none)
    (reconciliation : Reconciliation) (dsorRecordId : Option Uuid) (cockpit : ClearingCockpit) :
    ∃ answer cockpit', perform setup call (.raiseBreak reconciliation dsorRecordId) cockpit =
      .ok answer cockpit' := by
  simp only [perform, raiseBreak, Effect.bind_eq_ok, Effect.ofOutcome_eq_ok,
    Effect.modify_eq_ok, Effect.pure_eq_ok]
  exact ⟨_, _, _, _, ⟨(), _, ⟨guardHalt_eq_ok_iff.mpr hhalt, rfl⟩, (), _, rfl, rfl, rfl⟩, rfl, rfl⟩

end Done

/-! ## Names -/

theorem length_shortName (operationId : Uuid) : (shortName operationId).length = 8 := by
  have hlength : operationId.text.length = 36 := by
    have hcanonical := operationId.canonical
    rw [isCanonicalUuid, Bool.and_eq_true, decide_eq_true_iff] at hcanonical
    exact hcanonical.1
  rw [shortName, String.length_ofList, List.length_take, String.length_toList, hlength]
  rfl

theorem BreakLeg.value_injective : Function.Injective BreakLeg.value := by
  intro leg leg' h
  cases leg <;> cases leg' <;> first | rfl | exact absurd h (by decide)

/-- What a ticket is named by. -/
def ticketName (ticket : BreakTicket) : String × BreakLeg :=
  (shortName ticket.operationId, ticket.leg)

/-- The text of a name. -/
def breakIdText (name : String × BreakLeg) : String := "BRK-" ++ name.1 ++ "-" ++ name.2.value

theorem breakIdText_inj {name name' : String × BreakLeg} (hname : name.1.length = 8)
    (hname' : name'.1.length = 8) (h : breakIdText name = breakIdText name') : name = name' := by
  have hlist := congrArg String.toList h
  simp only [breakIdText, String.toList_append, List.append_assoc] at hlist
  have hrest := List.append_cancel_left hlist
  have hlength : name.1.toList.length = name'.1.toList.length := by
    rw [String.length_toList, String.length_toList, hname, hname']
  obtain ⟨hfirst, hlast⟩ := List.append_inj hrest hlength
  have hleg := List.append_cancel_left hlast
  exact Prod.ext (String.toList_inj.mp hfirst)
    (BreakLeg.value_injective (String.toList_inj.mp hleg))

/-- A ticket bears the text of its name. -/
def BearsName (ticket : BreakTicket) : Prop := ticket.breakId = breakIdText (ticketName ticket)

/-- Tickets that bear their names are told apart by their texts as by their names. -/
theorem nodup_breakIds_iff {tickets : List BreakTicket} (h : ∀ ticket ∈ tickets, BearsName ticket) :
    (tickets.map BreakTicket.breakId).Nodup ↔ (tickets.map ticketName).Nodup := by
  have htexts : tickets.map BreakTicket.breakId = (tickets.map ticketName).map breakIdText := by
    rw [List.map_map]
    exact List.map_congr_left h
  rw [htexts]
  constructor
  · exact List.Nodup.of_map _
  · intro hnames
    apply hnames.map_on
    intro name hname name' hname' htext
    obtain ⟨ticket, -, rfl⟩ := List.mem_map.mp hname
    obtain ⟨ticket', -, rfl⟩ := List.mem_map.mp hname'
    exact breakIdText_inj (length_shortName _) (length_shortName _) htext

/-! ## Runs -/

/-- A ticket carries what a reconciliation recorded for its leg. -/
structure CarriesFigures (ticket : BreakTicket) (reconciliation : Reconciliation) : Prop where
  broken : ticket.leg ∈ reconciliation.breaks
  operation : ticket.operationId = reconciliation.operationId
  regime : ticket.regime = reconciliation.regime
  figures : ticket.detail =
    jsonObject (reconciliation.detail.getD ticket.leg.detailKey .empty)

/-- What a run on a cockpit guarantees. Tickets have names of their own in every state reached,
and carry the figures of a reconciliation they were raised for; a reconciliation records figures
for every leg it breaks on; one that reads a declared breach is answered, and raises exactly one
escalation, which it names and which stays on the register; the ledger of every operation only
grows at its end; and what a halt refuses changes nothing. -/
structure RunGoverned (setup : CockpitSetup) (start : ClearingCockpit)
    (run : List (CockpitCall × CockpitRequest)) : Prop where
  tickets_distinct : ∀ before rest, run = before ++ rest →
    ((stateAfter setup start before).workbench.map BreakTicket.breakId).Nodup
  tickets_carry : ∀ before rest, run = before ++ rest →
    ∀ ticket ∈ (stateAfter setup start before).workbench,
      ∃ call reconciliation dsorRecordId,
        (call, .raiseBreak reconciliation dsorRecordId) ∈ before ∧
          CarriesFigures ticket reconciliation
  figures_recorded : ∀ before call expected readback expectedPosition rest,
    run = before ++ (call, .reconcileExpectedActual expected readback expectedPosition) :: rest →
      ∀ reconciliation cockpit',
        perform setup call (.reconcileExpectedActual expected readback expectedPosition)
            (stateAfter setup start before) = .ok (.reconciliation reconciliation) cockpit' →
          ∀ leg ∈ reconciliation.breaks, ∃ figures,
            reconciliation.detail.get? leg.detailKey = some figures ∧ figures.items ≠ []
  breach_escalated : ∀ before call expected readback expectedPosition rest,
    run = before ++ (call, .reconcileExpectedActual expected readback expectedPosition) :: rest →
      setup.currentHalt call = .ok none → expected.operationId = readback.operationId →
        isRiskControlBreach readback.riskControlStatus = true →
          ∃ reconciliation cockpit' escalationId,
            perform setup call (.reconcileExpectedActual expected readback expectedPosition)
                (stateAfter setup start before) = .ok (.reconciliation reconciliation) cockpit' ∧
              reconciliation.escalationIds = [escalationId] ∧
              escalationId ∉ (stateAfter setup start before).escalations.order ∧
              cockpit'.escalations.order =
                (stateAfter setup start before).escalations.order ++ [escalationId]
  register_grows : ∀ before rest, run = before ++ rest →
    (stateAfter setup start before).escalations.order <+:
      (stateAfter setup start run).escalations.order
  ledger_grows : ∀ before rest, run = before ++ rest → ∀ operationId,
    (stateAfter setup start before).entriesOf operationId <+:
      (stateAfter setup start run).entriesOf operationId
  halted_unchanged : ∀ before call request rest, run = before ++ (call, request) :: rest →
    ∀ context, setup.currentHalt call = .ok (some context) → ∃ text,
      perform setup call request (stateAfter setup start before) =
        .error (.refused "CockpitHalted" text) (stateAfter setup start before)

/-- The names a call gives are not taken: a ticket is raised for no leg twice, and for no leg of
an operation that begins alike; the escalation of a breach is new to the register, and its offset
from the capture can be told. -/
def UsesNewNames (setup : CockpitSetup) (call : CockpitCall) (cockpit : ClearingCockpit) :
    CockpitRequest → Prop
  | .raiseBreak reconciliation _ =>
    setup.currentHalt call = .ok none →
      (cockpit.workbench.map ticketName ++ reconciliation.breaks.map
        (Prod.mk (shortName reconciliation.operationId))).Nodup
  | .reconcileExpectedActual expected readback _ =>
    setup.currentHalt call = .ok none → expected.operationId = readback.operationId →
      isRiskControlBreach readback.riskControlStatus = true →
        breachEscalationId cockpit.escalations readback.operationId ∉ cockpit.escalations.order ∧
          ∃ offset, raisedAtOffset (cockpit.taskingFor readback) readback = .ok offset
  | _ => True

section Runs

variable {setup : CockpitSetup} {start : ClearingCockpit}
  {run : List (CockpitCall × CockpitRequest)}

theorem stateAfter_concat (run : List (CockpitCall × CockpitRequest)) (call : CockpitCall)
    (request : CockpitRequest) : stateAfter setup start (run ++ [(call, request)]) =
      (perform setup call request).leaves (stateAfter setup start run) :=
  Effect.leavesAll_concat _ _ _

/-- What every call can only add to, a run can only add to. -/
theorem isPrefix_stateAfter {κ : Type} (log : ClearingCockpit → List κ)
    (hlog : ∀ call request cockpit answer cockpit',
      perform setup call request cockpit = .ok answer cockpit' → log cockpit <+: log cockpit')
    (before rest : List (CockpitCall × CockpitRequest)) :
    log (stateAfter setup start before) <+: log (stateAfter setup start (before ++ rest)) := by
  rw [stateAfter, stateAfter, Effect.leavesAll_append]
  refine Effect.leavesAll_rel (R := fun s t => log s <+: log t) (fun _ => List.prefix_rfl)
    (fun _ _ _ => List.IsPrefix.trans) ?_ _ _
  rintro cockpit ⟨call, request⟩
  obtain ⟨answer, hanswer⟩ | ⟨-, hsame⟩ := (perform_transactional request).leaves_cases cockpit
  · exact hlog _ _ _ _ _ hanswer
  · rw [hsame]

/-- Where each ticket comes from. -/
theorem exists_raised (hstart : start.workbench = [])
    (run : List (CockpitCall × CockpitRequest)) :
    ∀ ticket ∈ (stateAfter setup start run).workbench, ∃ call reconciliation dsorRecordId,
      (call, .raiseBreak reconciliation dsorRecordId) ∈ run ∧
        ∃ leg ∈ reconciliation.breaks,
          ticket = breakTicket call reconciliation dsorRecordId leg := by
  induction run using List.reverseRecOn with
  | nil =>
    intro ticket hticket
    rw [stateAfter, Effect.leavesAll_nil, hstart] at hticket
    cases hticket
  | append_singleton before asked ih =>
    obtain ⟨call, request⟩ := asked
    intro ticket hticket
    rw [stateAfter_concat] at hticket
    have hbefore : ticket ∈ (stateAfter setup start before).workbench →
        ∃ call' reconciliation dsorRecordId,
          (call', .raiseBreak reconciliation dsorRecordId) ∈ before ++ [(call, request)] ∧
            ∃ leg ∈ reconciliation.breaks,
              ticket = breakTicket call' reconciliation dsorRecordId leg := by
      intro hold
      obtain ⟨call', reconciliation, dsorRecordId, hmem, hraised⟩ := ih ticket hold
      exact ⟨call', reconciliation, dsorRecordId, List.mem_append_left _ hmem, hraised⟩
    have hundone : Effect.Transactional (perform setup call request) :=
      perform_transactional request
    obtain ⟨answer, hanswer⟩ | ⟨-, hsame⟩ := hundone.leaves_cases (stateAfter setup start before)
    · rw [(perform_done hanswer).workbench_appended, List.mem_append] at hticket
      rcases hticket with hold | hnew
      · exact hbefore hold
      · -- only one primitive raises tickets
        cases request with
        | raiseBreak reconciliation dsorRecordId =>
          obtain ⟨leg, hleg, rfl⟩ := List.mem_map.mp hnew
          exact ⟨call, reconciliation, dsorRecordId, List.mem_append_right _ List.mem_cons_self,
            leg, hleg, rfl⟩
        | _ => cases hnew
    · rw [hsame] at hticket
      exact hbefore hticket

theorem bearsName_stateAfter (hstart : start.workbench = [])
    (run : List (CockpitCall × CockpitRequest)) :
    ∀ ticket ∈ (stateAfter setup start run).workbench, BearsName ticket := by
  intro ticket hticket
  obtain ⟨call, reconciliation, dsorRecordId, -, leg, -, rfl⟩ :=
    exists_raised hstart run ticket hticket
  rfl

/-- A breach that is read is escalated exactly where its name is new and its offset known. -/
theorem reconcile_breach_iff {call : CockpitCall} {cockpit : ClearingCockpit}
    {expected : InstructionPackage} {readback : PortalReadback}
    {expectedPosition : Option FiniteDecimal} (hhalt : setup.currentHalt call = .ok none)
    (hoperation : expected.operationId = readback.operationId)
    (hbreach : isRiskControlBreach readback.riskControlStatus = true) :
    (∃ reconciliation cockpit' escalationId,
      perform setup call (.reconcileExpectedActual expected readback expectedPosition) cockpit =
          .ok (.reconciliation reconciliation) cockpit' ∧
        reconciliation.escalationIds = [escalationId] ∧
        escalationId ∉ cockpit.escalations.order ∧
        cockpit'.escalations.order = cockpit.escalations.order ++ [escalationId]) ↔
      breachEscalationId cockpit.escalations readback.operationId ∉ cockpit.escalations.order ∧
        ∃ offset, raisedAtOffset (cockpit.taskingFor readback) readback = .ok offset := by
  simp only [perform_reconcile_eq_ok_iff, reconcileExpectedActual_eq_ok_iff]
  constructor
  · rintro ⟨_, _, _, ⟨-, -, _, _, hescalate, -, -⟩, -⟩
    obtain ⟨offset, register, raised, hoffset, hraise, -, -⟩ :=
      (escalateBreach_eq_ok_iff hbreach).mp hescalate
    obtain ⟨-, hnew, -⟩ := raised_of_raiseEscalation hraise
    rw [← cockpit.escalations.ordered] at hnew
    exact ⟨hnew, offset, hoffset⟩
  · rintro ⟨hnew, offset, hoffset⟩
    let escalation :=
      riskControlEscalation cockpit.escalations (cockpit.taskingFor readback) readback offset
    have hid : escalation.escalationId ∉ cockpit.escalations.order := hnew
    obtain ⟨register, hraise⟩ := raiseEscalation_of_new hid
    obtain ⟨-, -, -, -, horder⟩ := raised_of_raiseEscalation hraise
    have hescalate := (escalateBreach_eq_ok_iff hbreach).mpr
      ⟨offset, register, escalation, hoffset, hraise, rfl, rfl⟩
    exact ⟨_, _, escalation.escalationId, ⟨hhalt, hoperation, _, _, hescalate, rfl, rfl⟩, rfl,
      hid, horder⟩

/-- The tickets of a run have distinct names exactly when each call gives new ones. -/
theorem nodup_ticketNames (hstart : start.workbench = [])
    (hnew : ∀ before call request rest, run = before ++ (call, request) :: rest →
      UsesNewNames setup call (stateAfter setup start before) request) :
    ((stateAfter setup start run).workbench.map ticketName).Nodup := by
  induction run using List.reverseRecOn with
  | nil =>
    rw [stateAfter, Effect.leavesAll_nil, hstart]
    exact List.nodup_nil
  | append_singleton before asked ih =>
    obtain ⟨call, request⟩ := asked
    have hbefore : ((stateAfter setup start before).workbench.map ticketName).Nodup := by
      apply ih
      rintro first call' request' rest rfl
      exact hnew first call' request' (rest ++ [(call, request)]) (by simp)
    have hundone : Effect.Transactional (perform setup call request) :=
      perform_transactional request
    rw [stateAfter_concat]
    obtain ⟨answer, hanswer⟩ | ⟨-, hsame⟩ := hundone.leaves_cases (stateAfter setup start before)
    · have hdone := perform_done hanswer
      rw [hdone.workbench_appended, List.map_append]
      cases request with
      | raiseBreak reconciliation dsorRecordId =>
        have hnames := hnew before call _ [] rfl hdone.no_halt
        rw [CockpitRequest.ticketsRaised, List.map_map]
        exact hnames
      | _ => simpa [CockpitRequest.ticketsRaised] using hbefore
    · rw [hsame]
      exact hbefore

/-! ### The numbers of escalations -/

/-- No name on the register ends in a number above how many it holds. -/
def Numbered (register : EscalationRegister) : Prop :=
  ∀ stem n, stem ++ "-" ++ toString n ∈ register.order → n ≤ register.order.length

theorem breachEscalationId_eq (register : EscalationRegister) (operationId : Uuid) :
    breachEscalationId register operationId = ("ESC-" ++ shortName operationId ++
      "-risk_control") ++ "-" ++ toString (register.order.length + 1) := by
  have hdash : "-risk_control-" = "-risk_control" ++ "-" := by decide
  rw [breachEscalationId, hdash]
  simp only [String.append_assoc]

/-- On a numbered register the name of a breach is new. -/
theorem breachEscalationId_not_mem {register : EscalationRegister} (h : Numbered register)
    (operationId : Uuid) : breachEscalationId register operationId ∉ register.order := by
  intro hmem
  rw [breachEscalationId_eq] at hmem
  have hle := h _ _ hmem
  omega

/-- A call keeps the register numbered. -/
theorem numbered_perform {call : CockpitCall} {request : CockpitRequest} {answer : CockpitAnswer}
    {cockpit cockpit' : ClearingCockpit} (hnumbered : Numbered cockpit.escalations)
    (h : perform setup call request cockpit = .ok answer cockpit') :
    Numbered cockpit'.escalations := by
  have horder := (perform_done h).escalations_appended
  have hnames : answer.escalationIds = [] ∨
      ∃ operationId, answer.escalationIds =
        [breachEscalationId cockpit.escalations operationId] := by
    cases request with
    | reconcileExpectedActual expected readback expectedPosition =>
      obtain ⟨reconciliation, _, hcall, hanswer⟩ := Effect.bind_eq_ok.mp h
      obtain ⟨rfl, rfl⟩ := Effect.pure_eq_ok.mp hanswer
      obtain ⟨-, -, escalationIds, _, hescalate, rfl, -⟩ :=
        reconcileExpectedActual_eq_ok_iff.mp hcall
      cases hbreach : isRiskControlBreach readback.riskControlStatus with
      | false =>
        rw [escalateBreach_of_no_breach hbreach, Effect.pure_eq_ok] at hescalate
        exact Or.inl hescalate.1.symm
      | true =>
        obtain ⟨offset, register, raised, -, hraise, rfl, -⟩ :=
          (escalateBreach_eq_ok_iff hbreach).mp hescalate
        obtain ⟨rfl, -⟩ := raised_of_raiseEscalation hraise
        exact Or.inr ⟨readback.operationId, rfl⟩
    | _ =>
      obtain ⟨_, _, -, hanswer⟩ := Effect.bind_eq_ok.mp h
      obtain ⟨rfl, -⟩ := Effect.pure_eq_ok.mp hanswer
      exact Or.inl rfl
  intro stem n hmem
  rw [horder] at hmem ⊢
  rcases hnames with hnone | ⟨operationId, hone⟩
  · rw [hnone, List.append_nil] at hmem ⊢
    exact hnumbered stem n hmem
  · rw [hone, List.mem_append, List.mem_singleton, breachEscalationId_eq] at hmem
    rw [hone, List.length_append, List.length_singleton]
    rcases hmem with hold | hnew
    · exact (hnumbered stem n hold).trans (Nat.le_succ _)
    · exact (number_eq_of_numbered hnew).le

/-- A run keeps the register numbered, so that no breach it reads is refused for its name. -/
theorem numbered_stateAfter (hnumbered : Numbered start.escalations)
    (run : List (CockpitCall × CockpitRequest)) :
    Numbered (stateAfter setup start run).escalations := by
  refine Effect.leavesAll_preserves
    (I := fun cockpit : ClearingCockpit => Numbered cockpit.escalations) ?_ hnumbered run
  rintro cockpit ⟨call, request⟩ hcockpit
  obtain ⟨answer, hanswer⟩ | ⟨-, hsame⟩ := (perform_transactional request).leaves_cases cockpit
  · exact numbered_perform hcockpit hanswer
  · rw [hsame]
    exact hcockpit

theorem numbered_empty : Numbered .empty := by
  intro stem n hmem
  cases hmem

end Runs

/-- A run on a cockpit is governed exactly when each of its calls gives new names. -/
theorem runGoverned_iff (setup : CockpitSetup) (store : DSORStore) (register : EscalationRegister)
    (run : List (CockpitCall × CockpitRequest)) :
    RunGoverned setup (opened store register) run ↔
      ∀ before call request rest, run = before ++ (call, request) :: rest →
        UsesNewNames setup call (stateAfter setup (opened store register) before) request := by
  constructor
  · intro h before call request rest hrun
    cases request with
    | raiseBreak reconciliation dsorRecordId =>
      intro hhalt
      obtain ⟨answer, cockpit', hreturns⟩ := perform_raiseBreak_returns hhalt reconciliation
        dsorRecordId (stateAfter setup (opened store register) before)
      have hafter : run = (before ++ [(call, .raiseBreak reconciliation dsorRecordId)]) ++ rest := by
        rw [hrun, List.append_assoc]
        rfl
      have hdistinct := h.tickets_distinct _ _ hafter
      rw [nodup_breakIds_iff (bearsName_stateAfter rfl _), stateAfter_concat,
        Effect.leaves_of_ok hreturns, (perform_done hreturns).workbench_appended,
        List.map_append, CockpitRequest.ticketsRaised, List.map_map] at hdistinct
      exact hdistinct
    | reconcileExpectedActual expected readback expectedPosition =>
      intro hhalt hoperation hbreach
      exact (reconcile_breach_iff hhalt hoperation hbreach).mp
        (h.breach_escalated before call expected readback expectedPosition rest hrun hhalt
          hoperation hbreach)
    | _ => exact trivial
  · intro hnew
    exact {
      tickets_distinct := by
        rintro before rest rfl
        rw [nodup_breakIds_iff (bearsName_stateAfter rfl _)]
        apply nodup_ticketNames rfl
        rintro first call request middle rfl
        exact hnew first call request (middle ++ rest) (by simp)
      tickets_carry := by
        rintro before rest rfl ticket hticket
        obtain ⟨call, reconciliation, dsorRecordId, hmem, leg, hleg, rfl⟩ :=
          exists_raised rfl before ticket hticket
        exact ⟨call, reconciliation, dsorRecordId, hmem, hleg, rfl, rfl, rfl⟩
      figures_recorded := by
        intro before call expected readback expectedPosition rest _ reconciliation cockpit' h leg
        rw [perform_reconcile_eq_ok_iff, reconcileExpectedActual_eq_ok_iff] at h
        obtain ⟨-, -, _, _, -, rfl, -⟩ := h
        exact exists_figures_of_mem_breaks
      breach_escalated := by
        intro before call expected readback expectedPosition rest hrun hhalt hoperation hbreach
        exact (reconcile_breach_iff hhalt hoperation hbreach).mpr
          (hnew before call _ rest hrun hhalt hoperation hbreach)
      register_grows := by
        rintro before rest rfl
        refine isPrefix_stateAfter (fun cockpit => cockpit.escalations.order) ?_ before rest
        intro call request cockpit answer cockpit' h
        rw [(perform_done h).escalations_appended]
        exact List.prefix_append _ _
      ledger_grows := by
        rintro before rest rfl operationId
        refine isPrefix_stateAfter (fun cockpit => cockpit.entriesOf operationId) ?_ before rest
        intro call request cockpit answer cockpit' h
        exact (perform_done h).ledger_appended operationId
      halted_unchanged := by
        intro before call request rest _ context hhalt
        obtain ⟨text, hrefused⟩ := guardHalt_of_halted hhalt request.primitive
        exact ⟨text, perform_of_refused hrefused⟩ }

/-! ### A leg that breaks twice -/

/-- The package of the large delivery, as it is emitted. -/
def largePackage : InstructionPackage :=
  sampleSetup.package largeDelivery largeDeliveryPassed true (some sampleCall.freshId)

/-- A million short of the delivery. -/
def shortPosition : PortalReadback where
  operationId := largeDelivery.operationId
  regime := .csd
  ingestedAt := largeDelivery.settlementDate
  positionBalance := some 59000000

/-- What comparing the two records. -/
def shortReconciliation : Reconciliation :=
  reconciliationOf largePackage shortPosition (some largeDelivery) none []

/-- Reconciled and raised twice, the break of one leg is on the workbench under one name. -/
theorem not_runGoverned_twice :
    ¬ RunGoverned sampleSetup (opened .new .empty)
      [(sampleCall, .captureTasking (some largeDelivery.operationId) largeDelivery),
        (sampleCall, .reconcileExpectedActual largePackage shortPosition none),
        (sampleCall, .raiseBreak shortReconciliation largePackage.dsorRecordId),
        (sampleCall, .reconcileExpectedActual largePackage shortPosition none),
        (sampleCall, .raiseBreak shortReconciliation largePackage.dsorRecordId)] := by
  intro h
  have hdistinct := h.tickets_distinct _ [] (List.append_nil _).symm
  revert hdistinct
  decide +kernel

end Atreides
