import Atreides.Activation.Outputs
import Atreides.Foundation.Dict
import Atreides.Foundation.Effects

/-!
# The activation supervisor

The supervisor holds one slot for each agent. A tick runs every agent that is up: under a halt
that covers the program the agent refuses, an input its own check does not admit is refused, and
otherwise the agent runs and recommends. An agent is stopped with a reason and started again;
neither touches what its slot has recorded. What is shown of a stopped agent is the reason it
was stopped.

An agent and the flow it takes its work from are functions of the tick, which no two ticks
share.

## Main definitions

* `AgentRunner`, `AgentRunner.runOne` — an agent, and one run of it
* `Slot`, `AgentSupervisor` — what is kept
* `AgentSupervisor.stop`, `start`, `tick` — the calls that change it
* `AgentSupervisor.state`, `AgentState.disposition` — what is shown
-/

namespace Atreides

namespace Activation

/-! ## Agents -/

/-- What an agent concluded about one unit of work. -/
structure Finding where
  provenance : Provenance
  disposition : Disposition
  summary : String
  policyExecution : Stated PolicyExecution
  summary_nonempty : summary ≠ "" := by decide

/-- One unit of work, with how it reached the agent. -/
structure WorkUnit where
  operationId : Uuid
  origin : InputOrigin
  handoffBasis : Option HandoffBasis

/-- An activated agent. -/
structure AgentRunner where
  identity : AgentIdentity
  /-- a standing probe whose healthy state is to be refused -/
  expectsRefusal : Bool
  nextUnit : ℤ → Timestamp → Outcome WorkUnit
  observe : WorkUnit → ℤ → Timestamp → Outcome Finding

variable (kernel : ActivationKernel)

/-- The halt, where it covers the program. -/
def haltCovering (halt : Option HaltContext) : Option HaltContext :=
  halt.filter fun halt => kernel.gateUnderHalt halt .atreides = .block

def haltRefusal (identity : AgentIdentity) (unit : WorkUnit) (decision : Admission)
    (time : Timestamp) (halt : HaltContext) (outputId : Uuid) : Outcome AgentRefusal :=
  AgentRefusal.create kernel
    { outputId
      agent := identity
      operationId := unit.operationId
      observedAt := time
      provenance := .policyResult
      disposition := .block
      handoffBasis := decision.basis
      admission := decision
      policyExecution := .recorded
        { policy := "cannae_kernel.halt.gate_under_halt"
          gates := ["halt_covers_atreides"]
          outcome := .block }
      summary := "New work refused: halt " ++ halt.haltId ++ " is active" }
    .haltActive
    ("Refused: halt " ++ halt.haltId ++ " (version " ++ toString halt.version ++
      ") is active and covers Atreides: " ++ halt.reason ++ ". Every agent refuses new work " ++
      "while it is in effect (ATR-I-06, A-T5). This refusal reflects the halt context the " ++
      "server holds, not a control a surface displayed.")

def handoffRefusal (identity : AgentIdentity) (unit : WorkUnit) (decision : Admission)
    (time : Timestamp) (outputId : Uuid) : Outcome AgentRefusal :=
  AgentRefusal.create kernel
    { outputId
      agent := identity
      operationId := unit.operationId
      observedAt := time
      provenance := .policyResult
      disposition := .block
      handoffBasis := decision.basis
      admission := decision
      policyExecution := .recorded
        { policy := "atreides.activation.handoff.admit"
          gates := ["input_carries_a_recorded_handoff_authorization"]
          outcome := .block }
      summary := "Input refused at the receiving agent's own type check" }
    (if unit.handoffBasis.isNone then .handoffBasisNull else .noRecordedHandoff)
    decision.detail

/-- The finding of an agent on an admitted input, as it is put out. -/
def recommend (identity : AgentIdentity) (unit : WorkUnit) (decision : Admission)
    (time : Timestamp) (finding : Finding) (outputId : Uuid) : Outcome AgentRecommendation :=
  AgentRecommendation.create kernel
    { outputId
      agent := identity
      operationId := unit.operationId
      observedAt := time
      provenance := finding.provenance
      disposition := finding.disposition
      handoffBasis := decision.basis
      admission := decision
      policyExecution := finding.policyExecution
      summary := finding.summary }

/-- Run one agent: the halt first, then its own handoff check, then the agent. The identifier
is the one drawn for the output. -/
def AgentRunner.runOne (runner : AgentRunner) (tick : ℤ) (time : Timestamp)
    (halt : Option HaltContext) (outputId : Uuid) : Outcome AgentOutput := do
  let unit ← runner.nextUnit tick time
  let decision := admitInput kernel unit.origin unit.handoffBasis
  match haltCovering kernel halt with
  | some halt =>
    .refusal <$> haltRefusal kernel runner.identity unit decision time halt outputId
  | none =>
    if decision.admitted then do
      let finding ← runner.observe unit tick time
      .recommendation <$> recommend kernel runner.identity unit decision time finding outputId
    else .refusal <$> handoffRefusal kernel runner.identity unit decision time outputId

/-! ## The supervisor -/

/-- What is kept of one agent. An agent is stopped with a reason, and the newest output is of one
of the two kinds. -/
structure Slot where
  runner : AgentRunner
  up : Bool := true
  stoppedReason : Option String := none
  lastOutput : Option AgentOutput := none
  lastRecommendation : Option AgentRecommendation := none
  lastRefusal : Option AgentRefusal := none
  recommendations : ℕ := 0
  refusals : ℕ := 0
  stopped_iff : up = false ↔ stoppedReason.isSome = true := by decide
  silent_of_no_output : lastOutput = none → lastRecommendation = none ∧ lastRefusal = none := by
    decide

namespace Slot

/-- The slot of an agent that is registered. -/
def registered (runner : AgentRunner) : Slot := { runner }

variable (slot : Slot)

/-- Keep an output. -/
def record : AgentOutput → Slot
  | .refusal refusal =>
    { slot with
      lastOutput := some (.refusal refusal)
      lastRefusal := some refusal
      refusals := slot.refusals + 1
      silent_of_no_output := nofun }
  | .recommendation recommendation =>
    { slot with
      lastOutput := some (.recommendation recommendation)
      lastRecommendation := some recommendation
      recommendations := slot.recommendations + 1
      silent_of_no_output := nofun }

def stopped (reason : String) : Slot :=
  { slot with
    up := false
    stoppedReason := some reason
    stopped_iff := iff_of_true rfl rfl }

/-- What the slot has recorded stays. -/
def started : Slot :=
  { slot with
    up := true
    stoppedReason := none
    stopped_iff := iff_of_false Bool.noConfusion Bool.noConfusion }

end Slot

/-- The slots by agent, the number of the last tick, and when it ran. -/
structure AgentSupervisor where
  slots : Dict String Slot := .empty
  tickCount : ℤ := -1
  lastTickAt : Option Timestamp := none

namespace AgentSupervisor

/-- Register the agents, each under its own name. -/
def new (runners : List AgentRunner) : Outcome AgentSupervisor :=
  Outcome.foldSteps (fun supervisor runner => do
    Outcome.refuseIf (runner.identity.agentId ∈ supervisor.slots.keys)
      (.valueError ("two agents registered under " ++ quoted runner.identity.agentId))
    .ok { supervisor with
      slots := supervisor.slots.set runner.identity.agentId (.registered runner) })
    {} runners

/-- Put a slot in the place of an agent's. -/
def put (agentId : String) (slot : Slot) (supervisor : AgentSupervisor) : AgentSupervisor :=
  { supervisor with slots := supervisor.slots.set agentId slot }

/-- The slot of an agent. -/
def slotOf (agentId : String) : Effect AgentSupervisor Slot := do
  let supervisor ← get
  match supervisor.slots.get? agentId with
  | some slot => pure slot
  | none => throw (.keyError ("no agent registered under " ++ quoted agentId))

/-- Stop an agent. The reason is required. -/
def stop (agentId reason : String) : Effect AgentSupervisor Unit := do
  Effect.refuseIf (stripped reason = "")
    (.valueError "stopping an agent requires a reason; the surface shows it")
  let slot ← slotOf agentId
  modify (put agentId (slot.stopped reason))

/-- Start an agent. -/
def start (agentId : String) : Effect AgentSupervisor Unit := do
  let slot ← slotOf agentId
  modify (put agentId slot.started)

end AgentSupervisor

/-! ### What is shown -/

/-- What is shown of one agent. -/
structure AgentState where
  identity : AgentIdentity
  up : Bool
  expectsRefusal : Bool
  stoppedReason : Option String
  lastOutput : Stated AgentOutput
  lastRecommendation : Stated AgentRecommendation
  lastRefusal : Stated AgentRefusal
  recommendations : ℕ
  refusals : ℕ

/-- The worst an agent has to say. Of a probe, a refusal is what is expected. -/
def AgentState.disposition (state : AgentState) : Disposition :=
  match state.lastOutput with
  | .absent absence => kernel.dispositionOf absence
  | .recorded output =>
    if state.expectsRefusal then if output.isRefusal then .pass else .block
    else output.disposition

/-- What is shown of every agent, with the halt as the server has it. -/
structure ActivationState where
  tick : ℤ
  lastTickAt : Stated Timestamp
  halted : Bool
  haltReason : Stated String
  agents : List AgentState

/-- How bad a disposition is. -/
def dispositionOrder : Disposition → ℕ
  | .pass => 0
  | .hold => 1
  | .indeterminate => 2
  | .block => 3

/-- The worst of every agent's. -/
def ActivationState.disposition (state : ActivationState) : Disposition :=
  state.agents.foldl
    (fun worst agent =>
      if dispositionOrder worst < dispositionOrder (agent.disposition kernel) then
        agent.disposition kernel
      else worst)
    .pass

def neverRan : Absent :=
  ⟨.notYetKnown, "this agent has not produced an output since activation started"⟩

def stoppedFor (reason : String) : Absent := ⟨.nothingRecorded, "agent stopped: " ++ reason⟩

/-- Why nothing is shown of an agent as a current output, where nothing may be. -/
def Slot.hidden (slot : Slot) : Option Absent :=
  if slot.up then none else slot.stoppedReason.map stoppedFor

/-- A recorded value as it is shown: not of a stopped agent. -/
def Slot.recordedOr {α : Type} (slot : Slot) : Option α → Stated α
  | none => .absent (slot.hidden.getD neverRan)
  | some value =>
    match slot.hidden with
    | some absence => .absent absence
    | none => .recorded value

/-- What is shown of one slot. -/
def Slot.state (slot : Slot) : AgentState where
  identity := slot.runner.identity
  up := slot.up
  expectsRefusal := slot.runner.expectsRefusal
  stoppedReason := slot.stoppedReason
  lastOutput := slot.recordedOr slot.lastOutput
  lastRecommendation := slot.recordedOr slot.lastRecommendation
  lastRefusal := slot.recordedOr slot.lastRefusal
  recommendations := slot.recommendations
  refusals := slot.refusals

namespace AgentSupervisor

/-- The current state. -/
def state (supervisor : AgentSupervisor) (halt : Option HaltContext) : ActivationState where
  tick := supervisor.tickCount
  lastTickAt :=
    match supervisor.lastTickAt with
    | none => .absent ⟨.notYetKnown, "no tick has run since this supervisor was built"⟩
    | some time => .recorded time
  halted := (haltCovering kernel halt).isSome
  haltReason :=
    match haltCovering kernel halt with
    | some halt => .recorded halt.reason
    | none => .absent ⟨.notApplicable, "no halt covering Atreides is in effect"⟩
  agents := supervisor.slots.values.map Slot.state

/-! ### The loop -/

/-- Run the agent of one slot, unless it is stopped, and keep what it puts out. -/
def tickSlot (time : Timestamp) (halt : Option HaltContext) (draw : String → Uuid)
    (agentId : String) : Effect AgentSupervisor Unit := do
  let supervisor ← get
  match supervisor.slots.get? agentId with
  | none => pure ()
  | some slot =>
    if slot.up then do
      let output ← Effect.ofOutcome
        (slot.runner.runOne kernel supervisor.tickCount time halt (draw agentId))
      modify (put agentId (slot.record output))
    else pure ()

/-- Run the agents in turn. -/
def tickSlots (time : Timestamp) (halt : Option HaltContext) (draw : String → Uuid) :
    List String → Effect AgentSupervisor Unit
  | [] => pure ()
  | agentId :: rest => do
    tickSlot kernel time halt draw agentId
    tickSlots time halt draw rest

/-- One pass over every agent that is up. -/
def tick (time : Timestamp) (halt : Option HaltContext) (draw : String → Uuid) :
    Effect AgentSupervisor ActivationState := do
  modify fun supervisor =>
    { supervisor with tickCount := supervisor.tickCount + 1, lastTickAt := some time }
  let supervisor ← get
  tickSlots kernel time halt draw supervisor.slots.keys
  let supervisor ← get
  return supervisor.state kernel halt

end AgentSupervisor

end Activation

end Atreides
