import Atreides.Foundation.Decimal.Basic
import Atreides.Foundation.Timestamp

/-!
# Shared vocabulary

The words every domain of the program shares: dispositions, the provenance of a fact, the
actor behind a record, halts, and assertions of finality. They come from a kernel outside
the program. The kernel's functions are parameters, gathered in `Kernel`; what the program
needs of them is a hypothesis where it is needed.

## Main definitions

* `Disposition`, `Provenance`, `ActorRef` — what a record is stated with
* `FinalityAssertion`, `HaltContext` — the kernel's records that the program passes on
* `Kernel` — the kernel's functions that the program calls
-/

namespace Atreides

/-- What a computation or a gate answers. -/
inductive Disposition
  | pass
  | hold
  | block
  | indeterminate
  deriving DecidableEq, Repr

def Disposition.value : Disposition → String
  | pass => "PASS"
  | hold => "HOLD"
  | block => "BLOCK"
  | indeterminate => "INDETERMINATE"

/-- An answer, with why it was reached. -/
@[ext]
structure Graded where
  disposition : Disposition
  reason : String
  reason_nonempty : reason ≠ "" := by decide

instance : DecidableEq Graded := fun _ _ => decidable_of_iff _ Graded.ext_iff.symm

/-- Where a statement comes from. -/
inductive Provenance
  | factExternal
  | factSynthetic
  | forecast
  | policyResult
  | recommendation
  | humanJudgment
  deriving DecidableEq, Repr

inductive ActorKind
  | human
  | deterministicService
  | externalEmulator
  | agentH
  | agentJ
  | agentR
  deriving DecidableEq, Repr

def Provenance.value : Provenance → String
  | .factExternal => "FACT_EXTERNAL"
  | .factSynthetic => "FACT_SYNTHETIC"
  | .forecast => "FORECAST"
  | .policyResult => "POLICY_RESULT"
  | .recommendation => "RECOMMENDATION"
  | .humanJudgment => "HUMAN_JUDGMENT"

/-- A provenance that is a fact and not a forecast, a policy or a judgment. -/
def Provenance.isFact : Provenance → Bool
  | .factExternal => true
  | .factSynthetic => true
  | _ => false

/-- Who stands behind a record. -/
structure ActorRef where
  actorId : String
  actorKind : ActorKind
  role : String
  entitlementRefs : List String
  authenticated : Bool
  deriving DecidableEq, Repr

/-- Which leg of a settlement a reading is about. -/
inductive Leg
  | asset
  | cash
  deriving DecidableEq, Repr

/-! ## Finality -/

/-- The two finalities the program asserts. -/
inductive FinalityType
  | assetFinal
  | cashFinal
  deriving DecidableEq, Repr

/-- What a finality assertion states. The words for conditionality and revocability are the
kernel's own and are passed on as they come. -/
structure FinalityAssertion where
  finalityType : FinalityType
  governingRuleSet : String
  authoritativeActor : ActorRef
  authoritativeEventId : String
  effectiveTime : Timestamp
  observationTime : Timestamp
  evidenceReference : String
  conditionalityStatus : String
  revocabilityStatus : String
  provenance : Provenance
  confidence : Option Decimal := none
  deriving DecidableEq

/-! ## Halts -/

/-- The domains a halt can cover. -/
inductive Domain
  | aureon
  | atreides
  | lc
  deriving DecidableEq, Repr

/-- A declared halt. -/
structure HaltContext where
  haltId : String
  version : ℕ
  active : Bool
  scope : List Domain
  declaredBy : ActorRef
  declaredAt : Timestamp
  reason : String
  deriving DecidableEq

/-! ## The kernel's functions -/

/-- A span of bytes. -/
abbrev Bytes := List UInt8

/-- What the program calls of the kernel it is built on. -/
structure Kernel where
  /-- the digest of a span of bytes, as text -/
  digestBytes : Bytes → String
  /-- the text is a well-formed digest -/
  isDigest : String → Bool
  /-- the text is a well-formed event identifier -/
  isEventId : String → Bool
  /-- the text is a well-formed obligation identifier -/
  isObligationId : String → Bool
  /-- the fields make a legal finality assertion -/
  isFinalityAssertion : FinalityAssertion → Bool
  /-- what a halt means for a domain -/
  gateUnderHalt : HaltContext → Domain → Disposition

/-- A kernel that takes every assertion whose texts and times are in order. -/
def plainKernel : Kernel where
  digestBytes _ := "sha256:" ++ String.ofList (List.replicate 64 '0')
  isDigest text := text.length = 71
  isEventId text := text.length = 30
  isObligationId text := text.length = 30
  isFinalityAssertion assertion :=
    assertion.governingRuleSet ≠ "" && assertion.evidenceReference ≠ "" &&
      assertion.effectiveTime.isUtc && assertion.observationTime.isUtc
  gateUnderHalt halt domain := if halt.active && domain ∈ halt.scope then .block else .pass

end Atreides
