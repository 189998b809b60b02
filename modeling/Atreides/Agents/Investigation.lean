import Atreides.Contracts.Operation
import Atreides.Dsor.Store
import Atreides.Foundation.SortedSet
import Mathlib.Data.Prod.Lex
import Mathlib.Data.String.Basic

/-!
# The settlement investigation analyst

The analyst puts what was observed of an operation into the order of time, names every source that
was neither observed nor accounted for, and emits a timeline, or an escalation that carries what was
assembled. It infers nothing.

## Main definitions

* `EvidenceItem`, `EvidenceGap` — what was observed, and what was not
* `EvidenceTimeline`, `InvestigationEscalation` — the outputs
* `SettlementInvestigationAnalyst.assemble` — the output of a call
* `SettlementInvestigationAnalyst.run` — the call, with the record it persists
-/

namespace Atreides

/-! ## Evidence -/

/-- The sources of evidence, in the order the operation itself flows. -/
inductive EvidenceSource
  | dsorLineage
  | gateDecision
  | instructionPackage
  | messageStatus
  | fundingState
  | railState
  | cutoffClock
  | counterpartyAffirmation
  | portalReadback
  | reconciliation
  deriving DecidableEq, Repr

namespace EvidenceSource

def value : EvidenceSource → String
  | dsorLineage => "dsor_lineage"
  | gateDecision => "gate_decision"
  | instructionPackage => "instruction_package"
  | messageStatus => "message_status"
  | fundingState => "funding_state"
  | railState => "rail_state"
  | cutoffClock => "cutoff_clock"
  | counterpartyAffirmation => "counterparty_affirmation"
  | portalReadback => "portal_readback"
  | reconciliation => "reconciliation"

/-- Every source an investigation expects to consult. -/
def expected : List EvidenceSource :=
  [dsorLineage, gateDecision, instructionPackage, messageStatus, fundingState, railState,
    cutoffClock, counterpartyAffirmation, portalReadback, reconciliation]

theorem mem_expected (source : EvidenceSource) : source ∈ expected := by
  cases source <;> decide

/-- The place of a source in the flow. -/
def order (source : EvidenceSource) : ℕ := expected.idxOf source

end EvidenceSource

inductive GapReason
  | unavailable
  | inconsistent
  | notApplicable
  deriving DecidableEq, Repr

def GapReason.value : GapReason → String
  | unavailable => "unavailable"
  | inconsistent => "inconsistent"
  | notApplicable => "not_applicable"

inductive InvestigationDiscrepancyCode
  | evidenceSourceUnavailable
  | evidenceInternallyInconsistent
  | noEvidenceAssembled
  deriving DecidableEq, Repr

/-- One observation, with its provenance. -/
@[ext]
structure EvidenceItem where
  source : EvidenceSource
  observedAt : Timestamp
  label : String
  value : String
  provenance : String
  label_nonempty : label ≠ "" := by decide
  provenance_nonempty : provenance ≠ "" := by decide

instance : DecidableEq EvidenceItem :=
  fun _ _ => decidable_of_iff _ EvidenceItem.ext_iff.symm

/-- A source that contributed nothing, and why. -/
structure EvidenceGap where
  source : EvidenceSource
  reason : GapReason
  detail : String
  detail_nonempty : detail ≠ ""

/-- Every reason but one makes a timeline incomplete. -/
def EvidenceGap.escalates (gap : EvidenceGap) : Bool :=
  gap.reason = .unavailable || gap.reason = .inconsistent

/-! ## Outputs -/

/-- What both outputs carry. -/
structure InvestigationOutputBase where
  operationId : Uuid
  taskId : Uuid
  doctrineVersion : String := "AUR-CUSTODY-AMD-002-v0.1"
  lineageStub : DsorLineageStub
  emittedAt : Timestamp

/-- No item was observed before the one it follows. -/
def validateChronological : List EvidenceItem → Outcome Unit
  | earlier :: later :: rest => do
    if ← later.observedAt.isBefore earlier.observedAt then
      .error (.valueError ("evidence items must be ordered by observed_at; the timeline is a " ++
        "reconstruction of sequence and an unordered one asserts a sequence that did not occur"))
    else validateChronological (later :: rest)
  | _ => .ok ()

/-- The expected sources that neither an item nor a gap is of, in the order of the flow. -/
def uncovered (items : List EvidenceItem) (gaps : List EvidenceGap) : List EvidenceSource :=
  EvidenceSource.expected.filter fun source =>
    source ∉ items.map EvidenceItem.source ∧ source ∉ gaps.map EvidenceGap.source

/-- A complete reconstruction: every expected source is among the items, or is a gap that does not
escalate. -/
structure EvidenceTimeline extends InvestigationOutputBase where
  items : List EvidenceItem
  gaps : List EvidenceGap
  items_nonempty : items ≠ []
  chronological : validateChronological items = .ok ()
  none_escalates : gaps.filter EvidenceGap.escalates = []
  all_covered : uncovered items gaps = []

/-- Evidence is unavailable, inconsistent or absent. What was assembled is attached. -/
structure InvestigationEscalation extends InvestigationOutputBase where
  discrepancyCode : InvestigationDiscrepancyCode
  failureDetail : String
  gaps : List EvidenceGap
  partialTimeline : List EvidenceItem
  gaps_nonempty : gaps ≠ []
  chronological : validateChronological partialTimeline = .ok ()
  of_code : if discrepancyCode = .noEvidenceAssembled then partialTimeline = []
    else gaps.any EvidenceGap.escalates = true

inductive InvestigationOutput
  | timeline (output : EvidenceTimeline)
  | escalation (output : InvestigationEscalation)

namespace InvestigationOutput

def kind : InvestigationOutput → RecordKind
  | timeline _ => .evidenceTimeline
  | escalation _ => .investigationEscalation

def operationId : InvestigationOutput → Uuid
  | timeline output => output.operationId
  | escalation output => output.operationId

/-- The evidence the output carries. -/
def items : InvestigationOutput → List EvidenceItem
  | timeline output => output.items
  | escalation output => output.partialTimeline

end InvestigationOutput

/-- A timeline of the items, where it is complete. -/
def EvidenceTimeline.create (base : InvestigationOutputBase) (items : List EvidenceItem)
    (gaps : List EvidenceGap) : Outcome EvidenceTimeline :=
  if hitems : items = [] then .error (.valueError "items: at least 1 item")
  else
    match hchronological : validateChronological items with
    | .error e => .error e
    | .ok () =>
      if hescalates : gaps.filter EvidenceGap.escalates = [] then
        if hcovered : uncovered items gaps = [] then
          .ok { base with
            items, gaps, items_nonempty := hitems, chronological := hchronological,
            none_escalates := hescalates, all_covered := hcovered }
        else
          .error (.valueError ("EvidenceTimeline does not account for expected sources " ++
            quotedList (((uncovered items gaps).map EvidenceSource.value).insertionSort (· ≤ ·)) ++
            "; every expected source must appear as evidence or as a declared gap — silence is " ++
            "not an accounting"))
      else
        .error (.valueError ("EvidenceTimeline carries escalating gaps " ++
          quotedList ((gaps.filter EvidenceGap.escalates).map (·.source.value)) ++
          "; an incomplete assembly must be emitted as an InvestigationEscalation so the " ++
          "incompleteness is surfaced, never as a timeline that reads complete " ++
          "(AUR-CUSTODY-AMD-002 §II.A)"))

/-- An escalation, where its code fits its gaps. -/
def InvestigationEscalation.create (base : InvestigationOutputBase)
    (discrepancyCode : InvestigationDiscrepancyCode) (failureDetail : String)
    (gaps : List EvidenceGap) (partialTimeline : List EvidenceItem) :
    Outcome InvestigationEscalation :=
  if hgaps : gaps = [] then .error (.valueError "gaps: at least 1 item")
  else
    match hchronological : validateChronological partialTimeline with
    | .error e => .error e
    | .ok () =>
      if hcode : if discrepancyCode = .noEvidenceAssembled then partialTimeline = []
          else gaps.any EvidenceGap.escalates = true then
        .ok { base with
          discrepancyCode, failureDetail, gaps, partialTimeline, gaps_nonempty := hgaps,
          chronological := hchronological, of_code := hcode }
      else if discrepancyCode = .noEvidenceAssembled then
        .error (.valueError ("NO_EVIDENCE_ASSEMBLED escalation carries a non-empty " ++
          "partial_timeline — the code contradicts the payload"))
      else
        .error (.valueError ("InvestigationEscalation must carry at least one gap whose reason " ++
          "escalates (unavailable or inconsistent); a not-applicable gap is not a failure"))

/-! ## The analyst -/

/-- What a call of the analyst gets: the evidence, a time where the caller gives one, the clock, and
the identifier drawn for the record. -/
structure InvestigationCall where
  operationId : Uuid
  taskId : Uuid
  lineageStub : DsorLineageStub
  observations : List EvidenceItem
  gaps : List EvidenceGap := []
  now : Option Timestamp := none
  clock : Timestamp
  freshId : Uuid

/-- The same call with other observations. -/
def InvestigationCall.observing (call : InvestigationCall) (observations : List EvidenceItem) :
    InvestigationCall :=
  { call with observations }

/-- The analyst, with the encoder of its outputs. -/
structure SettlementInvestigationAnalyst where
  modelDumpJson : InvestigationOutput → String

namespace SettlementInvestigationAnalyst

/-- What an item is sorted by: the instant, the place of its source, and its label. -/
def sortKey (item : EvidenceItem) : ℤ ×ₗ ℕ ×ₗ String :=
  toLex (item.observedAt.instant, toLex (item.source.order, item.label))

/-- The observations, sorted. Times with an offset and times without one have no order: a sort that
meets both raises. -/
def order (observations : List EvidenceItem) : Outcome (List EvidenceItem) :=
  if (observations.all fun item => item.observedAt.utcOffset.isSome) ||
      (observations.all fun item => item.observedAt.utcOffset.isNone) then
    .ok (observations.insertionSort (sortKey · ≤ sortKey ·))
  else .error (.typeError "can't compare offset-naive and offset-aware datetimes")

/-- A source that was neither observed nor declared, as a gap. -/
def unaccountedGap (source : EvidenceSource) : EvidenceGap where
  source
  reason := .unavailable
  detail := "Source " ++ quoted source.value ++ " was neither observed nor declared as a gap; " ++
    "treated as unavailable rather than assumed irrelevant."
  detail_nonempty := by cases source <;> decide +kernel

/-- Every expected source that is neither observed nor declared, as a gap. -/
def unaccountedGaps (items : List EvidenceItem) (declared : List EvidenceGap) :
    List EvidenceGap :=
  (uncovered items declared).map unaccountedGap

/-- Inconsistency outranks unavailability. -/
def classify (escalating : List EvidenceGap) : InvestigationDiscrepancyCode :=
  if escalating.any fun gap => gap.reason = .inconsistent then .evidenceInternallyInconsistent
  else .evidenceSourceUnavailable

def describe (escalating : List EvidenceGap) : String :=
  let listed := String.intercalate ", "
    ((escalating.insertionSort (·.source.order ≤ ·.source.order)).map fun gap =>
      gap.source.value ++ "(" ++ gap.reason.value ++ ")")
  "Evidence assembly incomplete — " ++ toString escalating.length ++
    " source(s) escalating: " ++ listed ++ ". The partial timeline is attached; the cause is " ++
    "not determined here (AUR-CUSTODY-AMD-002 §II.A)."

/-- What every output of a call carries. -/
def base (call : InvestigationCall) : InvestigationOutputBase where
  operationId := call.operationId
  taskId := call.taskId
  lineageStub := call.lineageStub
  emittedAt := call.now.getD call.clock

/-- The output for ordered items and all gaps, declared and unaccounted for. -/
def conclude (call : InvestigationCall) (ordered : List EvidenceItem)
    (allGaps : List EvidenceGap) : Outcome InvestigationOutput :=
  if ordered = [] then do
    let escalation ← InvestigationEscalation.create (base call) .noEvidenceAssembled
      ("No observations were supplied for this operation; there is nothing to reconstruct. " ++
        "Investigation cannot proceed without at least one cited observation.")
      (if allGaps = [] then unaccountedGaps [] [] else allGaps) []
    .ok (.escalation escalation)
  else
    let escalating := allGaps.filter EvidenceGap.escalates
    if escalating ≠ [] then do
      let escalation ← InvestigationEscalation.create (base call) (classify escalating)
        (describe escalating) allGaps ordered
      .ok (.escalation escalation)
    else do
      let timeline ← EvidenceTimeline.create (base call) ordered allGaps
      .ok (.timeline timeline)

/-- The output of a call. -/
def assemble (call : InvestigationCall) : Outcome InvestigationOutput := do
  let ordered ← order call.observations
  conclude call ordered (call.gaps ++ unaccountedGaps ordered call.gaps)

variable (analyst : SettlementInvestigationAnalyst)

/-- Persist one output. -/
def persist (output : InvestigationOutput) (emittedAt : Timestamp) (freshId : Uuid) :
    Effect DSORStore (InvestigationOutput × DSORRecord) := do
  let record ← DSORStore.appendRecord
    { output := {
        kind := output.kind
        operationId := output.operationId
        json := analyst.modelDumpJson output }
      dtg := some emittedAt
      now := emittedAt
      freshId }
  return (output, record)

/-- Assemble the observations, and persist the output. -/
def run (call : InvestigationCall) : Effect DSORStore (InvestigationOutput × DSORRecord) := do
  let output ← Effect.ofOutcome (assemble call)
  analyst.persist output (call.now.getD call.clock) call.freshId

end SettlementInvestigationAnalyst

end Atreides
