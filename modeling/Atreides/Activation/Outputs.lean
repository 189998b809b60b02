import Atreides.Foundation.Text
import Atreides.Foundation.Uuid
import Atreides.Kernel

/-!
# What an activated agent puts out

A unit of work reaches an agent from an operator or from another agent. The agent's own check
admits it or refuses it by the handoff basis the work came under; a basis is stated, or stated
to be absent with a reason, and a basis that is neither is refused. What the agent then puts out
is a recommendation on an admitted input, or a refusal.

A value that is absent is a word of the kernel's. How it is shown and answered is the kernel's
too, and is a parameter here.

## Main definitions

* `Absent`, `Stated` — a value, or the recorded reason there is none
* `Admission`, `admitInput` — the consumer's decision about one input
* `AgentIdentity`, `OutputFields` — who puts something out, and what every output carries
* `AgentRecommendation`, `AgentRefusal`, `AgentOutput` — the two kinds of outputs
-/

namespace Atreides

namespace Activation

/-! ## Absence -/

/-- Whether a value may still come. -/
inductive AbsenceKind
  | nothingRecorded
  | notYetKnown
  | notApplicable
  deriving DecidableEq, Repr

/-- The recorded reason there is no value. -/
structure Absent where
  kind : AbsenceKind
  reason : String
  deriving DecidableEq, Repr

/-- A value, or the recorded reason there is none. -/
inductive Stated (α : Type)
  | recorded (value : α)
  | absent (absence : Absent)
  deriving DecidableEq

/-- The value is there. -/
def Stated.isRecorded {α : Type} : Stated α → Bool
  | recorded _ => true
  | absent _ => false

/-- What the activation calls of the kernel. -/
structure ActivationKernel extends Kernel where
  /-- how an absence is shown -/
  label : Absent → String
  /-- what an absence is answered with -/
  dispositionOf : Absent → Disposition

/-- The kernel answers every absence with `indeterminate`. -/
def ActivationKernel.AbsenceIndeterminate (kernel : ActivationKernel) : Prop :=
  ∀ absence, kernel.dispositionOf absence = .indeterminate

/-- The plain kernel, with absences shown by their reasons. -/
def plainActivationKernel : ActivationKernel where
  toKernel := plainKernel
  label absence := absence.reason
  dispositionOf _ := .indeterminate

/-! ## Admission -/

/-- How a unit of work reached an agent. -/
inductive InputOrigin
  | operatorDirect
  | agentLateral
  deriving DecidableEq, Repr

/-- A recorded handoff identifier, or the recorded reason there is none. -/
abbrev HandoffBasis := Stated String

/-- The basis of an operator's tasking. -/
def operatorDirectBasis : HandoffBasis :=
  .absent ⟨.nothingRecorded, "operator-direct under CAOM-001"⟩

/-- What the receiving agent decided about one input. -/
structure Admission where
  origin : InputOrigin
  basis : HandoffBasis
  disposition : Disposition
  detail : String
  deriving DecidableEq

def Admission.admitted (admission : Admission) : Bool := admission.disposition = .pass

/-- The consumer's own rule. -/
def admitInput (kernel : ActivationKernel) (origin : InputOrigin) :
    Option HandoffBasis → Admission
  | none =>
    { origin
      basis := .absent ⟨.nothingRecorded, "no handoff basis was stated; null is not a record"⟩
      disposition := .block
      detail := "Refused at the receiving agent: the handoff basis is null rather than " ++
        "absent-with-reason. A field nobody filled in is not evidence that no " ++
        "handoff was required (W3 § R2, AMD1 § 3b)." }
  | some basis =>
    match origin, basis with
    | .operatorDirect, .recorded _ =>
      { origin, basis, disposition := .block
        detail := "Refused at the receiving agent: an operator-direct tasking carries a " ++
          "handoff identifier. Nothing issues handoff authorizations, so the " ++
          "identifier cannot be checked and is not admitted on trust." }
    | .operatorDirect, .absent absence =>
      { origin, basis, disposition := .pass
        detail := "Admitted: operator-direct tasking under CAOM-001, handoff basis absent (" ++
          kernel.label absence ++ ")." }
    | .agentLateral, .absent absence =>
      { origin, basis, disposition := .block
        detail := "Refused at the receiving agent: a lateral agent-to-agent input with no " ++
          "recorded handoff authorization (" ++ kernel.label absence ++ "). No C2 runtime " ++
          "exists to issue one, so every lateral input is refused (W3 § R1, WP-A2)." }
    | .agentLateral, .recorded value =>
      { origin, basis, disposition := .pass
        detail := "Admitted: lateral input carrying recorded C2 handoff " ++ quoted value ++
          ", checked by the receiving agent." }

/-- The decision is about the basis the work came under, where it came under one. -/
theorem basis_admitInput (kernel : ActivationKernel) (origin : InputOrigin) (basis : HandoffBasis) :
    (admitInput kernel origin (some basis)).basis = basis := by
  cases origin with
  | operatorDirect => cases basis <;> rfl
  | agentLateral => cases basis <;> rfl

/-! ## Outputs -/

/-- Which tier an agent belongs to. -/
inductive AgentTier
  | tier1
  | tier2
  deriving DecidableEq, Repr

/-- Which agent puts something out. The adaptive class does not. -/
@[ext]
structure AgentIdentity where
  agentId : String
  tier : AgentTier
  actor : ActorRef
  agentId_nonempty : agentId ≠ "" := by decide
  not_adaptive : actor.actorKind ≠ .agentH := by decide

instance : DecidableEq AgentIdentity :=
  fun _ _ => decidable_of_iff _ AgentIdentity.ext_iff.symm

/-- Why an agent refused. -/
inductive RefusalCode
  | noRecordedHandoff
  | handoffBasisNull
  | lifecycleTransitionFromAgent
  | haltActive
  deriving DecidableEq, Repr

/-- Evidence that a gate ran, and what it returned. -/
@[ext]
structure PolicyExecution where
  policy : String
  gates : List String
  outcome : Disposition
  policy_nonempty : policy ≠ "" := by decide
  gates_nonempty : gates ≠ [] := by decide

instance : DecidableEq PolicyExecution :=
  fun _ _ => decidable_of_iff _ PolicyExecution.ext_iff.symm

/-- The claims an agent may make. -/
def advisoryProvenance : List Provenance := [.recommendation, .forecast, .policyResult]

/-- What every output carries, before it is checked. -/
structure OutputFields where
  outputId : Uuid
  agent : AgentIdentity
  operationId : Uuid
  observedAt : Timestamp
  provenance : Provenance
  disposition : Disposition
  handoffBasis : HandoffBasis
  admission : Admission
  policyExecution : Stated PolicyExecution
  summary : String
  deriving DecidableEq

namespace OutputFields

variable (kernel : ActivationKernel) (output : OutputFields)

/-- No gate behind it: no policy result, and no pass. -/
def checkPolicy : Outcome Unit :=
  match output.policyExecution with
  | .recorded _ => .ok ()
  | .absent absence => do
    Outcome.refuseIf (output.provenance = .policyResult)
      (.refused "ValidationError" <| "an output with no policy execution behind it cannot be " ++
        "recorded as POLICY_RESULT (" ++ kernel.label absence ++ ")")
    Outcome.refuseIf (output.disposition = .pass)
      (.refused "ValidationError" <| "an output with no policy execution behind it may not be " ++
        "recorded as PASS; missing evidence is HOLD or INDETERMINATE (AUR-I-10, ATR-I-05)")

def check : Outcome Unit := do
  Outcome.refuseIf (output.summary = "")
    (.refused "ValidationError" "summary: String should have at least 1 character")
  Outcome.refuseIf (output.observedAt.utcOffset = none)
    (.refused "ValidationError" "observed_at must be timezone-aware")
  Outcome.refuseIf (output.provenance ∉ advisoryProvenance)
    (.refused "ValidationError" <| "an agent output may not claim " ++ output.provenance.value ++
      "; allowed: FORECAST, POLICY_RESULT, RECOMMENDATION")
  output.checkPolicy kernel
  Outcome.refuseIf (output.admission.basis ≠ output.handoffBasis)
    (.refused "ValidationError" <| "the admission decision and the recorded handoff basis " ++
      "disagree; the output would describe an input the agent did not admit")

/-- A pass is never put out without a gate behind it. -/
theorem disposition_of_check (h : output.check kernel = .ok ())
    (habsent : output.policyExecution.isRecorded = false) : output.disposition ≠ .pass := by
  simp only [check, Outcome.bind_eq_ok] at h
  obtain ⟨-, -, -, -, -, -, _, hpolicy, -⟩ := h
  rw [checkPolicy] at hpolicy
  cases hexecution : output.policyExecution with
  | recorded execution =>
    rw [hexecution] at habsent
    cases habsent
  | absent absence =>
    rw [hexecution] at hpolicy
    obtain ⟨-, -, hpass⟩ := Outcome.bind_eq_ok.mp hpolicy
    exact Outcome.refuseIf_eq_ok.mp hpass

end OutputFields

/-- Advice on an admitted input. It passes nothing without a gate behind it. -/
@[ext]
structure AgentRecommendation extends OutputFields where
  evidenced : policyExecution.isRecorded = false → disposition ≠ .pass
  admitted : admission.admitted = true

instance : DecidableEq AgentRecommendation :=
  fun _ _ => decidable_of_iff _ AgentRecommendation.ext_iff.symm

/-- A refusal, which blocks. -/
@[ext]
structure AgentRefusal extends OutputFields where
  code : RefusalCode
  refusedDetail : String
  blocks : disposition = .block
  policy_result : provenance = .policyResult

instance : DecidableEq AgentRefusal :=
  fun _ _ => decidable_of_iff _ AgentRefusal.ext_iff.symm

def AgentRecommendation.create (kernel : ActivationKernel) (output : OutputFields) :
    Outcome AgentRecommendation :=
  match h : output.check kernel with
  | .error e => .error e
  | .ok () =>
    if hadmitted : output.admission.admitted = true then
      .ok ⟨output, output.disposition_of_check kernel h, hadmitted⟩
    else
      .error (.refused "ValidationError" <| "a recommendation cannot be built on a refused " ++
        "input; record an AgentRefusal instead")

def AgentRefusal.create (kernel : ActivationKernel) (output : OutputFields)
    (code : RefusalCode) (refusedDetail : String) : Outcome AgentRefusal := do
  Outcome.refuseIf (refusedDetail = "")
    (.refused "ValidationError" "refused_detail: String should have at least 1 character")
  output.check kernel
  if hblocks : output.disposition = .block then
    if hresult : output.provenance = .policyResult then
      .ok ⟨output, code, refusedDetail, hblocks, hresult⟩
    else
      .error (.refused "ValidationError"
        "a refusal is a POLICY_RESULT: a gate ran and returned BLOCK")
  else .error (.refused "ValidationError" "a refusal is recorded as BLOCK")

/-- What an agent puts out. -/
inductive AgentOutput
  | recommendation (recommendation : AgentRecommendation)
  | refusal (refusal : AgentRefusal)
  deriving DecidableEq

namespace AgentOutput

def isRefusal : AgentOutput → Bool
  | recommendation _ => false
  | refusal _ => true

def disposition : AgentOutput → Disposition
  | recommendation r => r.disposition
  | refusal r => r.disposition

end AgentOutput

end Activation

end Atreides
