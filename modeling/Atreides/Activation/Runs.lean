import Atreides.Activation.Supervisor

/-!
# Runs of the activation

A run is any sequence of starts, stops, halts, releases and ticks. A tick puts out what its
agents return, up to the first that raises. Under a halt that is a refusal of every agent, what
is shown of a stopped agent is never an output, and no count goes down. Starting a stopped agent
brings back what its slot had recorded before the stop, so an output is shown as current that no
tick since the start put out.

## Main definitions

* `ActivationSystem`, `Command` — the supervisor with the halt in force, and what is asked of it
* `outputsOf`, `produced` — what a tick and a run put out
* `KeepsCurrent` — what a run is to show
* `RestartsFresh` — a run restarts only agents that have put nothing out

## Main results

* `slots_after` — what a command does to the slot of an agent
* `outputs_systemAfter` — an output in a slot was there before, or the run put it out
* `keepsCurrent_iff` — a run shows only current outputs exactly when it restarts fresh agents
-/

namespace Atreides

namespace Activation

/-! ## The system -/

/-- The supervisor, and the halt the server holds. -/
structure ActivationSystem where
  supervisor : AgentSupervisor
  halt : Option HaltContext := none

inductive Command
  | start (agentId : String)
  | stop (agentId reason : String)
  | halt (halt : HaltContext)
  | release
  /-- run every agent once, with the identifiers drawn for what they put out -/
  | tick (time : Timestamp) (draw : String → Uuid)

variable (kernel : ActivationKernel)

/-- The system after a command. A call that raises leaves what it had changed by then. -/
def ActivationSystem.after (system : ActivationSystem) : Command → ActivationSystem
  | .start agentId =>
    { system with supervisor := (AgentSupervisor.start agentId).leaves system.supervisor }
  | .stop agentId reason =>
    { system with supervisor := (AgentSupervisor.stop agentId reason).leaves system.supervisor }
  | .halt halt => { system with halt := some halt }
  | .release => { system with halt := none }
  | .tick time draw =>
    { system with
      supervisor := (AgentSupervisor.tick kernel time system.halt draw).leaves system.supervisor }

/-- The system after a run. -/
def systemAfter (system : ActivationSystem) (commands : List Command) : ActivationSystem :=
  commands.foldl (ActivationSystem.after kernel) system

namespace ActivationSystem

variable (system : ActivationSystem)

/-- What is kept of an agent. -/
def slot? (agentId : String) : Option Slot := system.supervisor.slots.get? agentId

/-- What is shown of an agent. -/
def shown? (agentId : String) : Option AgentState := (system.slot? agentId).map Slot.state

end ActivationSystem

/-! ## What is put out -/

/-- The agent of a slot, where it is up. -/
def running (slots : Dict String Slot) (agentId : String) : Option AgentRunner :=
  (slots.get? agentId).bind fun slot => if slot.up then some slot.runner else none

/-- What the agents put out in turn, up to the first that raises. -/
def outputsOf (running : String → Option AgentRunner) (tick : ℤ) (time : Timestamp)
    (halt : Option HaltContext) (draw : String → Uuid) :
    List String → List (String × AgentOutput)
  | [] => []
  | agentId :: rest =>
    match running agentId with
    | none => outputsOf running tick time halt draw rest
    | some runner =>
      match runner.runOne kernel tick time halt (draw agentId) with
      | .ok output => (agentId, output) :: outputsOf running tick time halt draw rest
      | .error _ => []

/-- What a command puts out. -/
def ActivationSystem.outputs (system : ActivationSystem) : Command → List (String × AgentOutput)
  | .tick time draw =>
    let supervisor := system.supervisor
    outputsOf kernel (running supervisor.slots) (supervisor.tickCount + 1) time system.halt draw
      supervisor.slots.keys
  | _ => []

/-- What a run puts out, in order, with the agents that did. -/
def produced (system : ActivationSystem) : List Command → List (String × AgentOutput)
  | [] => []
  | command :: rest =>
    system.outputs kernel command ++ produced (system.after kernel command) rest

/-! ## What a run is to show -/

/-- The outputs shown of an agent, of either kind. -/
def AgentState.shownOutputs (state : AgentState) : List AgentOutput :=
  let recommendation := match state.lastRecommendation with
    | .recorded r => [AgentOutput.recommendation r]
    | .absent _ => []
  let refusal := match state.lastRefusal with
    | .recorded r => [AgentOutput.refusal r]
    | .absent _ => []
  let output := match state.lastOutput with
    | .recorded output => [output]
    | .absent _ => []
  output ++ recommendation ++ refusal

/-- What a run shows is current. -/
structure KeepsCurrent (system : ActivationSystem) (commands : List Command) : Prop where
  /-- under a halt a tick puts out refusals only -/
  refuses : ∀ before time draw after, commands = before ++ .tick time draw :: after →
    (haltCovering kernel (systemAfter kernel system before).halt).isSome →
    ∀ put ∈ (systemAfter kernel system before).outputs kernel (.tick time draw),
      put.2.isRefusal = true
  /-- no output is shown of a stopped agent, and no pass -/
  hides : ∀ before after, commands = before ++ after →
    ∀ agentId state, (systemAfter kernel system before).shown? agentId = some state →
      state.up = false → state.shownOutputs = [] ∧ state.disposition kernel ≠ .pass
  /-- what is shown of a restarted agent was put out after the restart -/
  renews : ∀ before agentId since after,
    commands = before ++ .start agentId :: (since ++ after) →
    ∀ stopped, (systemAfter kernel system before).shown? agentId = some stopped →
      stopped.up = false →
    let restarted := (systemAfter kernel system before).after kernel (.start agentId)
    ∀ state, (systemAfter kernel restarted since).shown? agentId = some state →
      ∀ output ∈ state.shownOutputs, (agentId, output) ∈ produced kernel restarted since
  /-- no count goes down -/
  counts : ∀ before more after, commands = before ++ (more ++ after) →
    ∀ agentId state, (systemAfter kernel system before).shown? agentId = some state →
      ∃ state', (systemAfter kernel (systemAfter kernel system before) more).shown? agentId =
          some state' ∧
        state.recommendations ≤ state'.recommendations ∧ state.refusals ≤ state'.refusals

/-- A stopped agent that is started has put nothing out. -/
def ActivationSystem.FindsFresh (system : ActivationSystem) : Command → Prop
  | .start agentId => ∀ slot, system.slot? agentId = some slot → slot.up = false →
    slot.lastOutput = none
  | _ => True

/-- The run restarts only agents that have put nothing out. -/
def RestartsFresh (system : ActivationSystem) (commands : List Command) : Prop :=
  ∀ before command after, commands = before ++ command :: after →
    (systemAfter kernel system before).FindsFresh command

/-! ## Slots -/

namespace Slot

variable (slot : Slot)

/-- The outputs a slot has recorded, of either kind. -/
def outputs : List AgentOutput :=
  slot.lastOutput.toList ++ slot.lastRecommendation.toList.map .recommendation ++
    slot.lastRefusal.toList.map .refusal

/-- Keep some outputs in turn. -/
def recordAll (kept : List AgentOutput) : Slot := kept.foldl record slot

@[simp] theorem recordAll_nil : slot.recordAll [] = slot := rfl

@[simp] theorem recordAll_cons (output : AgentOutput) (kept : List AgentOutput) :
    slot.recordAll (output :: kept) = (slot.record output).recordAll kept := rfl

@[simp] theorem runner_record (output : AgentOutput) :
    (slot.record output).runner = slot.runner := by
  cases output <;> rfl

@[simp] theorem up_record (output : AgentOutput) : (slot.record output).up = slot.up := by
  cases output <;> rfl

@[simp] theorem outputs_started : slot.started.outputs = slot.outputs := rfl

@[simp] theorem outputs_stopped (reason : String) :
    (slot.stopped reason).outputs = slot.outputs := rfl

theorem outputs_eq_nil_iff : slot.outputs = [] ↔ slot.lastOutput = none := by
  constructor
  · intro h
    simp only [outputs, List.append_eq_nil_iff] at h
    exact Option.toList_eq_nil_iff.mp h.1.1
  · intro h
    obtain ⟨hrecommendation, hrefusal⟩ := slot.silent_of_no_output h
    simp [outputs, h, hrecommendation, hrefusal]

theorem mem_outputs_record {output o : AgentOutput} (h : o ∈ (slot.record output).outputs) :
    o = output ∨ o ∈ slot.outputs := by
  cases output with
  | recommendation r =>
    simp only [outputs, record, Option.toList_some, List.map_cons, List.map_nil, List.mem_append,
      List.mem_singleton] at h ⊢
    tauto
  | refusal r =>
    simp only [outputs, record, Option.toList_some, List.map_cons, List.map_nil, List.mem_append,
      List.mem_singleton] at h ⊢
    tauto

theorem mem_outputs_recordAll {kept : List AgentOutput} {o : AgentOutput}
    (h : o ∈ (slot.recordAll kept).outputs) : o ∈ kept ∨ o ∈ slot.outputs := by
  induction kept generalizing slot with
  | nil => exact Or.inr h
  | cons output kept ih =>
    rcases ih (slot.record output) h with hkept | hrecorded
    · exact Or.inl (List.mem_cons_of_mem _ hkept)
    · rcases slot.mem_outputs_record hrecorded with rfl | hslot
      · exact Or.inl List.mem_cons_self
      · exact Or.inr hslot

theorem counts_record (output : AgentOutput) :
    slot.recommendations ≤ (slot.record output).recommendations ∧
      slot.refusals ≤ (slot.record output).refusals := by
  cases output with
  | recommendation r => exact ⟨Nat.le_succ _, le_rfl⟩
  | refusal r => exact ⟨le_rfl, Nat.le_succ _⟩

theorem counts_recordAll (kept : List AgentOutput) :
    slot.recommendations ≤ (slot.recordAll kept).recommendations ∧
      slot.refusals ≤ (slot.recordAll kept).refusals := by
  induction kept generalizing slot with
  | nil => exact ⟨le_rfl, le_rfl⟩
  | cons output kept ih =>
    obtain ⟨hrecommendations, hrefusals⟩ := slot.counts_record output
    obtain ⟨hrecommendations', hrefusals'⟩ := ih (slot.record output)
    exact ⟨hrecommendations.trans hrecommendations', hrefusals.trans hrefusals'⟩

/-! ### What is shown of a slot -/

theorem hidden_of_up (h : slot.up = true) : slot.hidden = none := by simp [hidden, h]

theorem hidden_of_stopped (h : slot.up = false) : ∃ absence, slot.hidden = some absence := by
  obtain ⟨reason, hreason⟩ := Option.isSome_iff_exists.mp (slot.stopped_iff.mp h)
  exact ⟨stoppedFor reason, by simp [hidden, h, hreason]⟩

/-- Of an agent that is up everything recorded is shown. -/
theorem shownOutputs_of_up (h : slot.up = true) : slot.state.shownOutputs = slot.outputs := by
  simp only [state, AgentState.shownOutputs, recordedOr, slot.hidden_of_up h, outputs]
  cases slot.lastOutput <;> cases slot.lastRecommendation <;> cases slot.lastRefusal <;> rfl

/-- Of a stopped agent nothing recorded is shown. -/
theorem shownOutputs_of_stopped (h : slot.up = false) : slot.state.shownOutputs = [] := by
  obtain ⟨absence, habsence⟩ := slot.hidden_of_stopped h
  simp only [state, AgentState.shownOutputs, recordedOr, habsence]
  cases slot.lastOutput <;> cases slot.lastRecommendation <;> cases slot.lastRefusal <;> rfl

theorem mem_outputs_of_shown {o : AgentOutput} (h : o ∈ slot.state.shownOutputs) :
    o ∈ slot.outputs := by
  cases hup : slot.up with
  | true => rwa [slot.shownOutputs_of_up hup] at h
  | false =>
    rw [slot.shownOutputs_of_stopped hup] at h
    cases h

theorem disposition_of_stopped (hkernel : kernel.AbsenceIndeterminate) (h : slot.up = false) :
    slot.state.disposition kernel = .indeterminate := by
  obtain ⟨absence, habsence⟩ := slot.hidden_of_stopped h
  have hshown : ∃ absence, slot.state.lastOutput = .absent absence := by
    simp only [state, recordedOr, habsence]
    cases slot.lastOutput with
    | none => exact ⟨_, rfl⟩
    | some output => exact ⟨absence, rfl⟩
  obtain ⟨absence, hshown⟩ := hshown
  rw [AgentState.disposition, hshown]
  exact hkernel absence

end Slot

/-! ## What a command does to a slot -/

section Steps

variable (time : Timestamp) (halt : Option HaltContext) (draw : String → Uuid)

theorem outputsOf_of_ok {running : String → Option AgentRunner} {tick : ℤ} {agentId : String}
    {runner : AgentRunner} {output : AgentOutput} (rest : List String)
    (hrunning : running agentId = some runner)
    (hrun : runner.runOne kernel tick time halt (draw agentId) = .ok output) :
    outputsOf kernel running tick time halt draw (agentId :: rest) =
      (agentId, output) :: outputsOf kernel running tick time halt draw rest := by
  rw [outputsOf, hrunning]
  simp only [hrun]

/-- Keeping an output neither starts nor stops an agent. -/
theorem running_record {slots : Dict String Slot} {agentId : String} {slot : Slot}
    (hslot : slots.get? agentId = some slot) (output : AgentOutput) :
    running (slots.set agentId (slot.record output)) = running slots := by
  funext other
  rw [running, running, Dict.get?_set]
  split_ifs with heq
  · rw [← heq, hslot]
    simp
  · rfl

theorem tickSlot_of_idle {supervisor : AgentSupervisor} {agentId : String}
    (h : running supervisor.slots agentId = none) :
    AgentSupervisor.tickSlot kernel time halt draw agentId supervisor = .ok () supervisor := by
  rw [AgentSupervisor.tickSlot, Effect.get_bind]
  rw [running] at h
  cases hslot : supervisor.slots.get? agentId with
  | none => rfl
  | some slot =>
    rw [hslot, Option.bind_some] at h
    split_ifs at h with hup
    simp only [hup, Bool.false_eq_true, if_false]
    rfl

theorem tickSlot_of_running {supervisor : AgentSupervisor} {agentId : String}
    {runner : AgentRunner} (h : running supervisor.slots agentId = some runner) :
    ∃ slot, supervisor.slots.get? agentId = some slot ∧
      AgentSupervisor.tickSlot kernel time halt draw agentId supervisor =
        match runner.runOne kernel supervisor.tickCount time halt (draw agentId) with
        | .ok output => .ok () (supervisor.put agentId (slot.record output))
        | .error e => .error e supervisor := by
  obtain ⟨slot, hslot, hrunner⟩ := Option.bind_eq_some_iff.mp h
  split_ifs at hrunner with hup
  cases hrunner
  refine ⟨slot, hslot, ?_⟩
  rw [AgentSupervisor.tickSlot, Effect.get_bind]
  simp only [hslot, hup, if_true]
  cases slot.runner.runOne kernel supervisor.tickCount time halt (draw agentId) with
  | ok output => exact Effect.bind_of_ok _ rfl
  | error e => exact Effect.bind_of_error _ rfl

/-- Whatever the loop leaves, a slot has kept what its agent put out. -/
theorem slots_tickSlots (ids : List String) (supervisor : AgentSupervisor) (agentId : String) :
    ∃ kept, (∀ output ∈ kept, (agentId, output) ∈
        outputsOf kernel (running supervisor.slots) supervisor.tickCount time halt draw ids) ∧
      ((AgentSupervisor.tickSlots kernel time halt draw ids).leaves supervisor).slots.get?
          agentId =
        (supervisor.slots.get? agentId).map fun slot => slot.recordAll kept := by
  induction ids generalizing supervisor with
  | nil => exact ⟨[], by simp, by simp [AgentSupervisor.tickSlots]⟩
  | cons first rest ih =>
    rw [AgentSupervisor.tickSlots]
    cases hrunning : running supervisor.slots first with
    | none =>
      rw [Effect.leaves_bind_of_ok _ (tickSlot_of_idle kernel time halt draw hrunning), outputsOf,
        hrunning]
      exact ih supervisor
    | some runner =>
      obtain ⟨slot, hslot, hstep⟩ := tickSlot_of_running kernel time halt draw hrunning
      cases hrun : runner.runOne kernel supervisor.tickCount time halt (draw first) with
      | error e =>
        -- the loop ends here, with this slot as it was
        rw [hrun] at hstep
        rw [Effect.leaves_bind_of_error _ hstep]
        exact ⟨[], by simp, by simp⟩
      | ok output =>
        rw [hrun] at hstep
        rw [Effect.leaves_bind_of_ok _ hstep,
          outputsOf_of_ok kernel time halt draw rest hrunning hrun]
        obtain ⟨kept, hkept, hslots⟩ := ih (supervisor.put first (slot.record output))
        have hsame : running (supervisor.put first (slot.record output)).slots =
            running supervisor.slots := running_record hslot output
        rw [hsame] at hkept
        by_cases heq : first = agentId
        · refine ⟨output :: kept, ?_, ?_⟩
          · intro o ho
            rcases List.mem_cons.mp ho with rfl | ho
            · rw [heq]
              exact List.mem_cons_self
            · exact List.mem_cons_of_mem _ (hkept o ho)
          · rw [hslots, AgentSupervisor.put, Dict.get?_set, if_pos heq, ← heq, hslot]
            rfl
        · refine ⟨kept, fun o ho => List.mem_cons_of_mem _ (hkept o ho), ?_⟩
          rw [hslots, AgentSupervisor.put, Dict.get?_set_of_ne _ heq]

theorem leaves_tick (supervisor : AgentSupervisor) :
    (AgentSupervisor.tick kernel time halt draw).leaves supervisor =
      (AgentSupervisor.tickSlots kernel time halt draw supervisor.slots.keys).leaves
        { supervisor with
          tickCount := supervisor.tickCount + 1
          lastTickAt := some time } :=
  -- what follows the loop reads the state it left
  Effect.ReadOnly.leaves_bind (fun _ => .bind .of_get fun _ => .of_pure _) _

/-- Under a halt an agent only refuses. -/
theorem runOne_halted {runner : AgentRunner} {tick : ℤ} {outputId : Uuid} {output : AgentOutput}
    (hhalt : (haltCovering kernel halt).isSome)
    (h : runner.runOne kernel tick time halt outputId = .ok output) :
    output.isRefusal = true := by
  obtain ⟨covering, hcovering⟩ := Option.isSome_iff_exists.mp hhalt
  obtain ⟨unit, -, h⟩ := Outcome.bind_eq_ok.mp h
  simp only [hcovering] at h
  obtain ⟨refusal, -, rfl⟩ := Outcome.map_eq_ok.mp h
  rfl

theorem outputsOf_halted {running : String → Option AgentRunner} {tick : ℤ}
    (hhalt : (haltCovering kernel halt).isSome) (ids : List String) :
    ∀ put ∈ outputsOf kernel running tick time halt draw ids, put.2.isRefusal = true := by
  induction ids with
  | nil => simp [outputsOf]
  | cons agentId rest ih =>
    rw [outputsOf]
    split
    · exact ih
    · split
      next output hrun =>
        intro put hput
        rcases List.mem_cons.mp hput with rfl | hput
        · exact runOne_halted kernel time halt hhalt hrun
        · exact ih put hput
      next => simp

end Steps

section Stopping

variable (supervisor : AgentSupervisor) (agentId : String)

/-- A call on the slot of an agent changes that slot only, where there is one. -/
theorem slots_slotOf_bind (f : Slot → Slot) (other : String) :
    ((AgentSupervisor.slotOf agentId >>= fun slot =>
        modify (AgentSupervisor.put agentId (f slot))).leaves supervisor).slots.get? other =
      (supervisor.slots.get? other).map fun slot => if agentId = other then f slot else slot := by
  cases hslot : supervisor.slots.get? agentId with
  | none =>
    have hraise : AgentSupervisor.slotOf agentId supervisor =
        .error (.keyError ("no agent registered under " ++ quoted agentId)) supervisor := by
      rw [AgentSupervisor.slotOf, Effect.get_bind, hslot]
      rfl
    rw [Effect.leaves_bind_of_error _ hraise]
    by_cases heq : agentId = other
    · rw [← heq, hslot]
      rfl
    · simp [heq]
  | some slot =>
    have hreturn : AgentSupervisor.slotOf agentId supervisor = .ok slot supervisor := by
      rw [AgentSupervisor.slotOf, Effect.get_bind, hslot]
      rfl
    rw [Effect.leaves_bind_of_ok _ hreturn, Effect.leaves_modify, AgentSupervisor.put,
      Dict.get?_set]
    split_ifs with heq
    · rw [← heq, hslot]
      rfl
    · simp

theorem slots_start (other : String) :
    ((AgentSupervisor.start agentId).leaves supervisor).slots.get? other =
      (supervisor.slots.get? other).map fun slot =>
        if agentId = other then slot.started else slot :=
  slots_slotOf_bind supervisor agentId Slot.started other

theorem slots_stop (reason other : String) :
    ((AgentSupervisor.stop agentId reason).leaves supervisor).slots.get? other =
      (supervisor.slots.get? other).map fun slot =>
        if agentId = other ∧ stripped reason ≠ "" then slot.stopped reason else slot := by
  rw [AgentSupervisor.stop, Effect.refuseIf]
  by_cases hreason : stripped reason = ""
  · simp only [hreason, if_true, ne_eq, not_true_eq_false, and_false, if_false, Option.map_id']
    rfl
  · rw [if_neg hreason, Effect.leaves_bind_of_ok _ (rfl : (pure () : Effect _ Unit) supervisor =
      .ok () supervisor), slots_slotOf_bind supervisor agentId (Slot.stopped · reason) other]
    simp [hreason]

end Stopping

theorem slot_after_start (system : ActivationSystem) (agentId : String) :
    (system.after kernel (.start agentId)).slot? agentId =
      (system.slot? agentId).map Slot.started := by
  rw [ActivationSystem.slot?, ActivationSystem.after, slots_start]
  simp [ActivationSystem.slot?]

/-- What a command does to the slot of an agent: it starts it, stops it, or keeps in it some of
what the command put out. -/
theorem slots_after (system : ActivationSystem) (command : Command) {agentId : String}
    {slot : Slot} (hslot : system.slot? agentId = some slot) :
    ∃ slot', (system.after kernel command).slot? agentId = some slot' ∧
      (slot' = slot.started ∨ (∃ reason, slot' = slot.stopped reason) ∨
        ∃ kept, (∀ output ∈ kept, (agentId, output) ∈ system.outputs kernel command) ∧
          slot' = slot.recordAll kept) := by
  have hkept : slot = slot.recordAll [] := rfl
  rw [ActivationSystem.slot?] at hslot
  cases command with
  | start started =>
    refine ⟨if started = agentId then slot.started else slot, ?_, ?_⟩
    · rw [ActivationSystem.slot?, ActivationSystem.after, slots_start, hslot, Option.map_some]
    · split_ifs
      · exact Or.inl rfl
      · exact Or.inr (Or.inr ⟨[], by simp, hkept⟩)
  | stop stopped reason =>
    refine ⟨if stopped = agentId ∧ stripped reason ≠ "" then slot.stopped reason else slot,
      ?_, ?_⟩
    · rw [ActivationSystem.slot?, ActivationSystem.after, slots_stop, hslot, Option.map_some]
    · split_ifs
      · exact Or.inr (Or.inl ⟨reason, rfl⟩)
      · exact Or.inr (Or.inr ⟨[], by simp, hkept⟩)
  | halt halt => exact ⟨slot, hslot, Or.inr (Or.inr ⟨[], by simp, hkept⟩)⟩
  | release => exact ⟨slot, hslot, Or.inr (Or.inr ⟨[], by simp, hkept⟩)⟩
  | tick time draw =>
    obtain ⟨kept, hkept, hslots⟩ := slots_tickSlots kernel time system.halt draw
      system.supervisor.slots.keys
      { system.supervisor with
        tickCount := system.supervisor.tickCount + 1
        lastTickAt := some time } agentId
    refine ⟨slot.recordAll kept, ?_, Or.inr (Or.inr ⟨kept, hkept, rfl⟩)⟩
    rw [ActivationSystem.slot?, ActivationSystem.after, leaves_tick, hslots, hslot]
    rfl

/-! ## What a run does to a slot -/

/-- Of a new supervisor every agent is up and has put nothing out. -/
theorem fresh_new {runners : List AgentRunner} {supervisor : AgentSupervisor}
    (h : AgentSupervisor.new runners = .ok supervisor) {agentId : String} {slot : Slot}
    (hslot : supervisor.slots.get? agentId = some slot) : slot.up = true ∧ slot.outputs = [] := by
  have hfresh : ∀ agentId slot, supervisor.slots.get? agentId = some slot →
      slot.up = true ∧ slot.outputs = [] := by
    refine Outcome.foldSteps_preserves (fun supervisor : AgentSupervisor => ∀ agentId slot,
      supervisor.slots.get? agentId = some slot → slot.up = true ∧ slot.outputs = []) ?_ ?_ h
    · intro supervisor runner supervisor' hfresh hstep other slot hslot
      obtain ⟨-, -, hstep⟩ := Outcome.bind_eq_ok.mp hstep
      cases hstep
      rw [Dict.get?_set] at hslot
      split_ifs at hslot
      · cases hslot
        exact ⟨rfl, rfl⟩
      · exact hfresh other slot hslot
    · intro agentId slot hslot
      simp at hslot
  exact hfresh agentId slot hslot

/-- Along a run a slot stays, its counts do not go down, and an output in it was there before or
was put out by the run. -/
theorem slot_systemAfter (system : ActivationSystem) (commands : List Command) {agentId : String}
    {slot : Slot} (hslot : system.slot? agentId = some slot) :
    ∃ slot', (systemAfter kernel system commands).slot? agentId = some slot' ∧
      (slot.recommendations ≤ slot'.recommendations ∧ slot.refusals ≤ slot'.refusals) ∧
      ∀ output ∈ slot'.outputs,
        (agentId, output) ∈ produced kernel system commands ∨ output ∈ slot.outputs := by
  induction commands generalizing system slot with
  | nil => exact ⟨slot, hslot, ⟨le_rfl, le_rfl⟩, fun _ h => Or.inr h⟩
  | cons command rest ih =>
    obtain ⟨next, hnext, hcases⟩ := slots_after kernel system command hslot
    obtain ⟨slot', hslot', hcounts', houtputs'⟩ := ih (system.after kernel command) hnext
    -- what the first command does to the counts and the outputs
    have hfirst : (slot.recommendations ≤ next.recommendations ∧
        slot.refusals ≤ next.refusals) ∧ ∀ output ∈ next.outputs,
          (agentId, output) ∈ system.outputs kernel command ∨ output ∈ slot.outputs := by
      rcases hcases with rfl | ⟨reason, rfl⟩ | ⟨kept, hkept, rfl⟩
      · exact ⟨⟨le_rfl, le_rfl⟩, fun _ h => Or.inr h⟩
      · exact ⟨⟨le_rfl, le_rfl⟩, fun _ h => Or.inr h⟩
      · refine ⟨slot.counts_recordAll kept, fun output h => ?_⟩
        exact (slot.mem_outputs_recordAll h).imp_left (hkept output)
    refine ⟨slot', hslot', ⟨hfirst.1.1.trans hcounts'.1, hfirst.1.2.trans hcounts'.2⟩, ?_⟩
    intro output houtput
    rw [produced, List.mem_append]
    rcases houtputs' output houtput with hrest | hnext
    · exact Or.inl (Or.inr hrest)
    · exact (hfirst.2 output hnext).imp_left Or.inl

/-- A restart that a run makes well found an agent that had put nothing out. -/
theorem findsFresh_of_keepsCurrent {system : ActivationSystem} {commands : List Command}
    (h : KeepsCurrent kernel system commands) : RestartsFresh kernel system commands := by
  intro before command after hsplit
  cases command with
  | start agentId =>
    intro slot hslot hup
    -- right after the restart nothing has been put out, so nothing may be shown
    have hshown : (systemAfter kernel system before).shown? agentId = some slot.state := by
      rw [ActivationSystem.shown?, hslot, Option.map_some]
    have hrestarted : ((systemAfter kernel system before).after kernel
        (.start agentId)).shown? agentId = some slot.started.state := by
      rw [ActivationSystem.shown?, slot_after_start, hslot, Option.map_some, Option.map_some]
    have hrenews := h.renews before agentId [] after hsplit slot.state hshown hup
      slot.started.state hrestarted
    rw [← slot.outputs_eq_nil_iff, ← slot.outputs_started, ← Slot.shownOutputs_of_up _ rfl]
    exact List.eq_nil_iff_forall_not_mem.mpr fun output houtput =>
      List.not_mem_nil (hrenews output houtput)
  | stop => trivial
  | halt => trivial
  | release => trivial
  | tick => trivial

/-- A run shows only what is current exactly when it restarts only agents that have put nothing
out yet. -/
theorem keepsCurrent_iff (hkernel : kernel.AbsenceIndeterminate) (system : ActivationSystem)
    (commands : List Command) :
    KeepsCurrent kernel system commands ↔ RestartsFresh kernel system commands := by
  constructor
  · exact findsFresh_of_keepsCurrent kernel
  · intro hfresh
    refine ⟨?_, ?_, ?_, ?_⟩
    · intro before time draw after _ hhalt
      exact outputsOf_halted kernel time _ draw hhalt _
    · intro before after _ agentId state hshown hup
      obtain ⟨slot, hslot, rfl⟩ := Option.map_eq_some_iff.mp hshown
      refine ⟨slot.shownOutputs_of_stopped hup, ?_⟩
      rw [slot.disposition_of_stopped kernel hkernel hup]
      exact nofun
    · intro before agentId since after hsplit stopped hstopped hup restarted state hshown output
        houtput
      obtain ⟨slot, hslot, rfl⟩ := Option.map_eq_some_iff.mp hstopped
      obtain ⟨last, hlast, rfl⟩ := Option.map_eq_some_iff.mp hshown
      have hsilent : slot.outputs = [] :=
        slot.outputs_eq_nil_iff.mpr (hfresh before _ _ hsplit slot hslot hup)
      have hrestarted : restarted.slot? agentId = some slot.started := by
        rw [slot_after_start, hslot, Option.map_some]
      obtain ⟨slot', hslot', -, houtputs⟩ := slot_systemAfter kernel restarted since hrestarted
      cases hlast.symm.trans hslot'
      rcases houtputs output (last.mem_outputs_of_shown houtput) with hproduced | hold
      · exact hproduced
      · rw [slot.outputs_started, hsilent] at hold
        cases hold
    · intro before more after _ agentId state hshown
      obtain ⟨slot, hslot, rfl⟩ := Option.map_eq_some_iff.mp hshown
      obtain ⟨slot', hslot', hcounts, -⟩ := slot_systemAfter kernel _ more hslot
      exact ⟨slot'.state, by rw [ActivationSystem.shown?, hslot', Option.map_some], hcounts⟩

theorem restartsFresh_nil (system : ActivationSystem) : RestartsFresh kernel system [] := by
  intro before command after hsplit
  simp at hsplit

theorem restartsFresh_cons (system : ActivationSystem) (command : Command)
    (commands : List Command) : RestartsFresh kernel system (command :: commands) ↔
      system.FindsFresh command ∧
        RestartsFresh kernel (system.after kernel command) commands := by
  constructor
  · intro h
    refine ⟨h [] command commands rfl, fun before next after hsplit => ?_⟩
    exact h (command :: before) next after (by rw [hsplit, List.cons_append])
  · rintro ⟨hfirst, hrest⟩ before next after hsplit
    cases before with
    | nil =>
      obtain ⟨rfl, -⟩ := List.cons.inj hsplit
      exact hfirst
    | cons first before =>
      obtain ⟨rfl, htail⟩ := List.cons.inj hsplit
      exact hrest before next after htail

/-! ## The standing probe -/

/-- A probe offers an input no handoff was recorded for, and is healthy while that is refused. -/
def lateralProbeRunner (operationIdOf : ℤ → Uuid) : AgentRunner where
  identity :=
    { agentId := "lateral-handoff-probe"
      tier := .tier1
      actor :=
        { actorId := "act_01M2P20SY00000000000000A04"
          actorKind := .agentR
          role := "Lateral handoff probe (WP-A2)"
          entitlementRefs := ["CAOM-001:advisory"]
          authenticated := true } }
  expectsRefusal := true
  nextUnit tick _ := .ok ⟨operationIdOf tick, .agentLateral, some operatorDirectBasis⟩
  observe _ _ _ :=
    .error (.refused "AssertionError" <|
      "a lateral input was admitted with no recorded C2 handoff authorization; " ++
      "WP-A2's refusal at the consumer has stopped working")

def probeOperationId : Uuid := ⟨"00000000-0000-4000-8000-0000000000b1", by decide +kernel⟩

def probeOutputId : Uuid := ⟨"00000000-0000-4000-8000-0000000000b2", by decide +kernel⟩

/-- The probe is registered and up. -/
def probeSystem : ActivationSystem where
  supervisor :=
    { slots := .ofPairs
        [("lateral-handoff-probe", .registered (lateralProbeRunner fun _ => probeOperationId))] }

/-- One pass over the agents. -/
def probeTick : Command := .tick (.midnight (.of 2026 9 21)) fun _ => probeOutputId

theorem keepsCurrent_probe : KeepsCurrent plainActivationKernel probeSystem
    [.stop "lateral-handoff-probe" "maintenance", .start "lateral-handoff-probe", probeTick] := by
  refine (keepsCurrent_iff plainActivationKernel (fun _ => rfl) _ _).mpr ?_
  rw [restartsFresh_cons, restartsFresh_cons, restartsFresh_cons]
  refine ⟨trivial, fun slot hslot _ => ?_, trivial, restartsFresh_nil _ _⟩
  have hsilent : ((probeSystem.after plainActivationKernel
      (.stop "lateral-handoff-probe" "maintenance")).slot? "lateral-handoff-probe").bind
        Slot.lastOutput = none := by
    decide +kernel
  rwa [hslot, Option.bind_some] at hsilent

/-- The refusal a probe made before it was stopped is shown as current once it is started. -/
theorem not_keepsCurrent_probe :
    AgentSupervisor.new [lateralProbeRunner fun _ => probeOperationId] =
        .ok probeSystem.supervisor ∧
      ¬ KeepsCurrent plainActivationKernel probeSystem
        [probeTick, .stop "lateral-handoff-probe" "maintenance",
          .start "lateral-handoff-probe"] := by
  refine ⟨rfl, fun h => ?_⟩
  have hrecorded : ((systemAfter plainActivationKernel probeSystem
      [probeTick, .stop "lateral-handoff-probe" "maintenance"]).slot?
        "lateral-handoff-probe").map (fun slot => (slot.up, slot.lastOutput.isSome)) =
      some (false, true) := by
    decide +kernel
  obtain ⟨slot, hslot, hfields⟩ := Option.map_eq_some_iff.mp hrecorded
  have hnone := findsFresh_of_keepsCurrent _ h
    [probeTick, .stop "lateral-handoff-probe" "maintenance"] (.start "lateral-handoff-probe") []
    rfl slot hslot (congrArg Prod.fst hfields)
  have hsome : slot.lastOutput.isSome = true := congrArg Prod.snd hfields
  rw [hnone] at hsome
  cases hsome

end Activation

end Atreides
