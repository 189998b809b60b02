import Atreides.Foundation.Decimal.Exact
import Atreides.Rails.RailSafety

/-!
# The funding projection and the gate

The projection says what happens to a cash leg on funding grounds. What it hands to the
gate are four numbers and whether it asserts them; the disposition itself stays behind. A
leg that the gate lets proceed is one the projection called funded, because every other
disposition leaves a trace in what is handed over: a refusal to assert, a clearing fund that
is short, a negative headroom, or a position below the obligation.

## Main definitions

* `FundingInputs`, `FundingProjection` — what the projection reads and answers
* `projectFunding` — the projection
* `FundingProjection.toGateInput` — what the gate is handed

## Main results

* `shortfall_of_covered` — a position that covers the obligation has no shortfall
* `settles_of_proceeds` — the gate proceeds on funded projections only
-/

namespace Atreides

open DecimalContext (ambient)

/-! ## Inputs -/

inductive FundingDisposition
  | funded
  | fundedQualified
  | willQueue
  | willFail
  | capBreach
  | clearingFundDeficient
  | indeterminate
  deriving DecidableEq, Repr

/-- A movement on the funding account. -/
structure CashFlow where
  offsetSeconds : ℤ
  amount : Decimal
  label : String
  committed : Bool := true
  offsetIsCertain : Bool := true
  deriving DecidableEq

/-- The projected position at one point of the day. -/
structure LadderPoint where
  offsetSeconds : ℤ
  position : Decimal
  label : String
  deriving DecidableEq

/-- What the projection reads. Offsets are seconds from now. -/
structure FundingInputs where
  openingPosition : Decimal
  obligation : Decimal
  finalityClass : Coerced FinalityClass
  settlementOffsetSeconds : ℤ
  windowCloseOffsetSeconds : Option ℤ := none
  flows : List CashFlow := []
  netDebitCap : Option Decimal := none
  clearingFundRequirement : Decimal := 0
  clearingFundPosted : Decimal := 0
  determinationOutcome : Coerced DeterminationOutcome := .member .notApplicable
  deriving DecidableEq

namespace FundingInputs

/-- The fields whose value is no member, with how each shows. -/
def unrecognisedFields (inputs : FundingInputs) : List (String × String) :=
  (if inputs.finalityClass.isUnrecognised then
    [("finality_class", inputs.finalityClass.describe FinalityClass.value)] else []) ++
  (if inputs.determinationOutcome.isUnrecognised then
    [("determination_outcome", inputs.determinationOutcome.describe DeterminationOutcome.value)]
  else [])

def clearingFundSufficient (inputs : FundingInputs) : Outcome Bool :=
  Decimal.le inputs.clearingFundRequirement inputs.clearingFundPosted

end FundingInputs

def fundingDoctrineVersion : String := "AUR-CUSTODY-CASH-001-v0.2-SVII"

/-- The funding answer, with the evidence behind it. -/
structure FundingProjection where
  disposition : FundingDisposition
  projectedPositionAtSettlement : Decimal
  optimisticPositionAtSettlement : Decimal
  obligation : Decimal
  shortfall : Decimal
  netDebitCapHeadroom : Decimal
  clearingFundSufficient : Bool
  fundedAtOffsetSeconds : Option ℤ
  ladder : List LadderPoint
  rationale : String
  doctrineVersion : String := fundingDoctrineVersion
  determinationOutcome : DeterminationOutcome := .notApplicable
  deriving DecidableEq

namespace FundingProjection

/-- The settlement completes. -/
def settles (projection : FundingProjection) : Bool :=
  projection.disposition = .funded || projection.disposition = .fundedQualified

/-- What the gate is handed. -/
def toGateInput (projection : FundingProjection) : FundingState where
  projectedFundedPosition := projection.projectedPositionAtSettlement
  netObligation := projection.obligation
  netDebitCapHeadroom := projection.netDebitCapHeadroom
  clearingFundSufficient := projection.clearingFundSufficient
  positionIsAssertable := projection.disposition ≠ .indeterminate

end FundingProjection

/-! ## Positions -/

/-- The position once the flows up to an offset have arrived. -/
def positionAt (opening : Decimal) (flows : List CashFlow) (offset : ℤ) (committedOnly : Bool) :
    Outcome Decimal :=
  Outcome.foldSteps (fun total flow =>
    if flow.offsetSeconds ≤ offset ∧ (flow.committed || !committedOnly) then
      Decimal.add ambient total flow.amount
    else .ok total) opening flows

/-- An earlier offset comes first, and labels decide between equal ones. -/
def comesBefore (a b : ℤ × String) : Prop := a.1 < b.1 ∨ a.1 = b.1 ∧ a.2 ≤ b.2

instance (a b : ℤ × String) : Decidable (comesBefore a b) :=
  inferInstanceAs (Decidable (_ ∨ _))

/-- One more flow on the running position. -/
def ladderStep (running : Decimal × List LadderPoint) (flow : CashFlow) :
    Outcome (Decimal × List LadderPoint) := do
  let position ← Decimal.add ambient running.1 flow.amount
  .ok (position, running.2 ++ [⟨flow.offsetSeconds, position, flow.label⟩])

/-- The committed flows in the order of the ladder. -/
def committedInOrder (flows : List CashFlow) : List CashFlow :=
  (flows.insertionSort fun a b =>
    comesBefore (a.offsetSeconds, a.label) (b.offsetSeconds, b.label)).filter CashFlow.committed

/-- What a flow contributes to the deepest position, and when. -/
def flowInWindow (close : Option ℤ) (flow : CashFlow) :
    Outcome (List (ℤ × String × Decimal)) :=
  match close with
  | none => .ok [(flow.offsetSeconds, flow.label, flow.amount)]
  | some close =>
    if flow.offsetSeconds ≤ close then .ok [(flow.offsetSeconds, flow.label, flow.amount)]
    else if !flow.offsetIsCertain then do
      -- an outflow of uncertain date counts as if it landed at the close
      if ← Decimal.lt flow.amount 0 then .ok [(close, flow.label, flow.amount)] else .ok []
    else .ok []

/-- One more flow on the running position and the lowest so far. -/
def troughStep (running : Decimal × Decimal) (timed : ℤ × String × Decimal) :
    Outcome (Decimal × Decimal) := do
  let position ← Decimal.add ambient running.1 timed.2.2
  let trough ← Decimal.min running.2 position
  .ok (position, trough)

/-- The deepest position the net debit cap is tested against. -/
def capTrough (inputs : FundingInputs) (settlePos : Decimal) : Outcome Decimal := do
  let timed ← Outcome.collect (flowInWindow inputs.windowCloseOffsetSeconds)
    (inputs.flows.filter CashFlow.committed)
  let ordered := timed.flatten.insertionSort fun a b => comesBefore (a.1, a.2.1) (b.1, b.2.1)
  let (_, trough) ← Outcome.foldSteps troughStep
    (inputs.openingPosition, inputs.openingPosition) ordered
  let settled ← Decimal.sub ambient settlePos inputs.obligation
  Decimal.min trough settled

/-- The positions of the day, and the deepest one. -/
def buildLadder (inputs : FundingInputs) : Outcome (List LadderPoint × Decimal) := do
  let (_, points) ← Outcome.foldSteps ladderStep
    (inputs.openingPosition, [⟨0, inputs.openingPosition, "opening position"⟩])
    (committedInOrder inputs.flows)
  let settlePos ← positionAt inputs.openingPosition inputs.flows inputs.settlementOffsetSeconds true
  let settled ← Decimal.sub ambient settlePos inputs.obligation
  let points := points ++ [⟨inputs.settlementOffsetSeconds, settled, "post-settlement"⟩]
  let trough ← capTrough inputs settlePos
  .ok (points.insertionSort fun a b =>
    comesBefore (a.offsetSeconds, a.label) (b.offsetSeconds, b.label), trough)

/-- The offsets at which funding could arrive, in order. -/
def fundingOffsets (inputs : FundingInputs) : List ℤ :=
  (((inputs.flows.filter CashFlow.committed).map CashFlow.offsetSeconds ++
    [inputs.settlementOffsetSeconds]).dedup.insertionSort (· ≤ ·)).filter
    fun offset => inputs.settlementOffsetSeconds ≤ offset

/-- The first of some offsets, within the window, at which the obligation is covered. -/
def firstFundedOffset (inputs : FundingInputs) : List ℤ → Outcome (Option ℤ)
  | [] => .ok none
  | offset :: rest =>
    if inputs.windowCloseOffsetSeconds.any (· < offset) then .ok none
    else do
      let position ← positionAt inputs.openingPosition inputs.flows offset true
      if ← Decimal.le inputs.obligation position then .ok (some offset)
      else firstFundedOffset inputs rest

/-! ## The projection -/

/-- What the projection decides: the disposition, why, and when funding arrives. -/
structure FundingAnswer where
  disposition : FundingDisposition
  rationale : String
  fundedAt : Option ℤ := none
  deriving DecidableEq

/-- The figures the projection decides on. -/
structure FundingFigures where
  ladder : List LadderPoint
  trough : Decimal
  committed : Decimal
  optimistic : Decimal
  shortfall : Decimal
  headroom : Decimal
  clearingFundSufficient : Bool

/-- The headroom under the net debit cap, against the deepest position. -/
def headroomOf (inputs : FundingInputs) (trough : Decimal) : Outcome Decimal :=
  match inputs.netDebitCap with
  | none => .ok 0
  | some cap => do
    let deepest ← Decimal.min trough 0
    Decimal.add ambient cap deepest

def shortfallOf (obligation committed : Decimal) : Outcome Decimal := do
  let difference ← Decimal.sub ambient obligation committed
  Decimal.max 0 difference

def fundingFigures (inputs : FundingInputs) : Outcome FundingFigures := do
  let (ladder, trough) ← buildLadder inputs
  let committed ← positionAt inputs.openingPosition inputs.flows inputs.settlementOffsetSeconds true
  let optimistic ←
    positionAt inputs.openingPosition inputs.flows inputs.settlementOffsetSeconds false
  let shortfall ← shortfallOf inputs.obligation committed
  let headroom ← headroomOf inputs trough
  let clearingFundSufficient ← inputs.clearingFundSufficient
  .ok { ladder, trough, committed, optimistic, shortfall, headroom, clearingFundSufficient }

section Answers

variable (inputs : FundingInputs) (figures : FundingFigures)

/-- An answer, where a condition is met. -/
def answerIf (condition : Bool) (disposition : FundingDisposition) (rationale : String) :
    Outcome (Option FundingAnswer) :=
  .ok (if condition then some { disposition, rationale } else none)

/-- The entitlement can still be revoked. -/
def FundingInputs.isQualified : Bool :=
  inputs.determinationOutcome = .member .qualifiedBounded ||
    inputs.determinationOutcome = .member .qualifiedUnbounded ||
    inputs.determinationOutcome = .member .qualificationUnknown

/-- Funded, or funded and qualified where the entitlement can be revoked. -/
def buildFunded (rationale : String) : FundingAnswer :=
  if inputs.isQualified then
    { disposition := .fundedQualified
      rationale := rationale ++ " Obligation is DETERMINATION_DEPENDENT (" ++
        inputs.determinationOutcome.describe DeterminationOutcome.value ++ "): the settlement " ++
        "completes and the venue retains authority to cancel the contract and return the " ++
        "funds. The contingent return obligation is NOT netted here and is NOT a committed " ++
        "flow (CASH-001 SIV, SVII)." }
  else { disposition := .funded, rationale }

/-- -1. Every input names a member. -/
def answerUnrecognised : Outcome (Option FundingAnswer) :=
  answerIf (inputs.unrecognisedFields ≠ []) .indeterminate
    ("Unrecognised input (" ++
      ", ".intercalate (inputs.unrecognisedFields.map fun field => field.1 ++ "=" ++ field.2) ++
      "). Enum values must match a member exactly; the model declines to project rather than " ++
      "guess which treatment was meant (ATR-I-05).")

/-- 0. The class is one of a rail. -/
def answerObligationClass : Outcome (Option FundingAnswer) :=
  answerIf (inputs.finalityClass = .member .determinationDependent) .indeterminate
    ("DETERMINATION_DEPENDENT is an obligation-level finality class and is not carried by any " ++
      "rail. Supply the rail's own class in finality_class and the contingency in " ++
      "determination_outcome. The model refuses rather than defaulting to gross-final " ++
      "treatment (CASH-001 SIV).")

/-- 1. The clearing fund. -/
def answerClearingFund : Outcome (Option FundingAnswer) :=
  answerIf (!figures.clearingFundSufficient) .clearingFundDeficient
    ("Clearing-fund posted " ++ inputs.clearingFundPosted.text ++ " is below requirement " ++
      inputs.clearingFundRequirement.text ++ ". Hard control; position is irrelevant " ++
      "(CASH-001 §VII, COCKPIT §VII).")

/-- 2. The net debit cap. -/
def answerCap : Outcome (Option FundingAnswer) :=
  match inputs.netDebitCap with
  | none => .ok none
  | some cap => do
    let breached ← Decimal.lt figures.headroom 0
    answerIf breached .capBreach
      ("Projected intraday trough " ++ figures.trough.text ++ " breaches the net-debit cap " ++
        cap.text ++ " (headroom " ++ figures.headroom.text ++ "). Federal Reserve Payment " ++
        "System Risk policy; hold and escalate.")

/-- 3. The obligation is determined. -/
def answerAwaiting : Outcome (Option FundingAnswer) :=
  answerIf (inputs.determinationOutcome = .member .awaitingDetermination) .indeterminate
    ("Contingent obligation awaiting outcome determination. The amount owed is not yet fixed, " ++
      "so no shortfall can be projected against it. The model declines to project rather than " ++
      "projecting against a placeholder (CASH-001 SIV, SVII).")

/-- 4. The position at finality can be observed. -/
def answerCorrespondent : Outcome (Option FundingAnswer) :=
  answerIf (inputs.finalityClass = .member .correspondentDependent) .indeterminate
    ("Correspondent-dependent finality: the funding position at finality is not observable to " ++
      "the originator. The model declines to assert fundedness (CASH-001 §IV).")

/-- 5. Funded outright. -/
def answerCovered : Outcome (Option FundingAnswer) := do
  if ← Decimal.eq figures.shortfall 0 then
    .ok (some (buildFunded inputs ("Committed position " ++ figures.committed.text ++
      " covers obligation " ++ inputs.obligation.text ++ " at the settlement instant.")))
  else .ok none

/-- The committed position when a deferred-net rail becomes final. -/
def positionAtFinality : Outcome Decimal :=
  match inputs.windowCloseOffsetSeconds with
  | none => .ok figures.committed
  | some close => positionAt inputs.openingPosition inputs.flows close true

/-- 6. Short, on a deferred-net rail: the position at finality settles. -/
def answerDeferred : Outcome (Option FundingAnswer) :=
  if inputs.finalityClass ≠ .member .deferredNet then .ok none
  else do
    let atFinality ← positionAtFinality inputs figures
    if ← Decimal.le inputs.obligation atFinality then
      .ok (some (buildFunded inputs ("Deferred-net rail: position at finality " ++
        atFinality.text ++ " covers obligation " ++ inputs.obligation.text ++
        ". Exposure runs to end-of-day; the instruction-instant shortfall of " ++
        figures.shortfall.text ++ " is not a settlement failure (CASH-001 §IV, §VII).")))
    else
      answerIf true .willFail ("Deferred-net rail: position at finality " ++ atFinality.text ++
        " is below obligation " ++ inputs.obligation.text ++
        "; shortfall persists to end-of-day.")

/-- 6. Short, on a ledger-final rail: nothing queues there. -/
def answerLedger : Outcome (Option FundingAnswer) :=
  answerIf (inputs.finalityClass = .member .ledgerFinal) .willFail
    ("Ledger-final rail: short " ++ figures.shortfall.text ++ " at the settlement instant and " ++
      "there is no queue on a ledger — the transaction simply does not execute.")

/-- 6. Short, on a gross-final rail: the instruction queues while funding can arrive. -/
def answerGross : Outcome FundingAnswer := do
  match ← firstFundedOffset inputs (fundingOffsets inputs) with
  | some offset =>
    .ok { disposition := .willQueue
          rationale := "Gross-final rail: short " ++ figures.shortfall.text ++ " at the " ++
            "settlement instant. Committed inflows cover the obligation at +" ++
            toString offset ++ "s, within the window. The instruction QUEUES and settles then — " ++
            "this is NOT a failure, and re-issuing it produces a duplicate payment " ++
            "(CASH-001 §VII)."
          fundedAt := some offset }
  | none =>
    .ok { disposition := .willFail
          rationale := "Gross-final rail: short " ++ figures.shortfall.text ++ " at the " ++
            "settlement instant and no committed inflow covers the obligation before the " ++
            "window closes." }

/-- The answers of the projection, in their order. -/
def fundingAnswers : List (Outcome (Option FundingAnswer)) :=
  [answerUnrecognised inputs, answerObligationClass inputs, answerClearingFund inputs figures,
    answerCap inputs figures, answerAwaiting inputs, answerCorrespondent inputs,
    answerCovered inputs figures, answerDeferred inputs figures, answerLedger inputs figures]

/-- What the projection decides on its figures. -/
def fundingAnswer : Outcome FundingAnswer := do
  match ← Outcome.firstAnswer (fundingAnswers inputs figures) with
  | some answer => .ok answer
  | none => answerGross inputs figures

end Answers

/-- The outcome on record: the most conservative one where the input names none. -/
def recordedOutcome (inputs : FundingInputs) : DeterminationOutcome :=
  match inputs.determinationOutcome with
  | .member outcome => outcome
  | .unrecognised _ => .qualificationUnknown

/-- Project the funding state. -/
def projectFunding (inputs : FundingInputs) : Outcome FundingProjection := do
  let figures ← fundingFigures inputs
  let answer ← fundingAnswer inputs figures
  .ok { disposition := answer.disposition
        projectedPositionAtSettlement := figures.committed
        optimisticPositionAtSettlement := figures.optimistic
        obligation := inputs.obligation
        shortfall := figures.shortfall
        netDebitCapHeadroom := figures.headroom
        clearingFundSufficient := figures.clearingFundSufficient
        fundedAtOffsetSeconds := answer.fundedAt
        ladder := figures.ladder
        rationale := answer.rationale
        determinationOutcome := recordedOutcome inputs }

/-! ## What the gate learns -/

/-- A finite difference that is not positive leaves no shortfall. -/
theorem max_zero_of_nonpos {d : FiniteDecimal} (h : d.value ≤ 0) :
    Decimal.max 0 (.finite d) = .ok 0 := by
  have hlt : (0 : FiniteDecimal).lt d = false := by
    rw [Bool.eq_false_iff, ne_eq, FiniteDecimal.lt_iff, FiniteDecimal.value_zero]
    exact not_lt.mpr h
  have hgt : Decimal.lt 0 (.finite d) = .ok false := by
    rw [← hlt]
    rfl
  rw [Decimal.max, hgt]
  rfl

/-- A position that covers the obligation has no shortfall. -/
theorem shortfall_of_covered {obligation committed shortfall : Decimal}
    (hcovered : Decimal.le obligation committed = .ok true)
    (h : shortfallOf obligation committed = .ok shortfall) : shortfall = 0 := by
  rw [shortfallOf, Outcome.bind_eq_ok] at h
  obtain ⟨difference, hdifference, hmax⟩ := h
  suffices hzero : Decimal.max 0 difference = .ok 0 by
    rw [hzero] at hmax
    cases hmax
    rfl
  rcases obligation with a | sign | _
  · rcases committed with b | sign | _
    · -- two finite numbers: the difference is not positive, and rounding keeps it so
      simp only [Decimal.sub, Decimal.add, Decimal.copyNegate, Outcome.map_eq_ok,
        FiniteDecimal.add] at hdifference
      obtain ⟨d, hfix, rfl⟩ := hdifference
      apply max_zero_of_nonpos
      apply DecimalContext.fix_nonpos hfix
      rw [FiniteDecimal.value_exactAdd, FiniteDecimal.value_copyNegate]
      have hle : ¬ b.value < a.value := by
        rw [← FiniteDecimal.lt_iff]
        simpa [Decimal.le, Decimal.isNaN, Decimal.ltNumber] using hcovered
      linarith [not_lt.mp hle]
    · rcases sign with _ | _
      · cases hdifference
        rfl
      · simp [Decimal.le, Decimal.isNaN, Decimal.ltNumber] at hcovered
    · simp [Decimal.le, Decimal.isNaN] at hcovered
  · rcases committed with b | sign' | _
    · rcases sign with _ | _
      · simp [Decimal.le, Decimal.isNaN, Decimal.ltNumber] at hcovered
      · cases hdifference
        rfl
    · rcases sign with _ | _
      · rcases sign' with _ | _
        · simp [Decimal.sub, Decimal.add, Decimal.copyNegate] at hdifference
        · simp [Decimal.le, Decimal.isNaN, Decimal.ltNumber] at hcovered
      · rcases sign' with _ | _
        · cases hdifference
          rfl
        · simp [Decimal.sub, Decimal.add, Decimal.copyNegate] at hdifference
    · simp [Decimal.le, Decimal.isNaN] at hcovered
  · simp [Decimal.le, Decimal.isNaN] at hcovered

theorem answerIf_eq_some {condition : Bool} {disposition : FundingDisposition}
    {rationale : String} {answer : FundingAnswer}
    (h : answerIf condition disposition rationale = .ok (some answer)) :
    condition = true ∧ answer.disposition = disposition := by
  rw [answerIf] at h
  rcases condition with _ | _
  · cases h
  · cases h
    exact ⟨rfl, rfl⟩

/-- A funded answer settles. -/
theorem buildFunded_disposition (inputs : FundingInputs) (rationale : String) :
    (buildFunded inputs rationale).disposition = .funded ∨
      (buildFunded inputs rationale).disposition = .fundedQualified := by
  rw [buildFunded]
  split_ifs
  · exact Or.inr rfl
  · exact Or.inl rfl

/-- What the projection decides before it looks at the shortfall, where the clearing fund
is sufficient and the cap is kept, is that it cannot say. -/
theorem early_answer {inputs : FundingInputs} {figures : FundingFigures}
    (hclearing : figures.clearingFundSufficient = true)
    (hcap : Decimal.lt figures.headroom 0 = .ok false) {answer : FundingAnswer}
    (h : Outcome.firstAnswer [answerUnrecognised inputs, answerObligationClass inputs,
      answerClearingFund inputs figures, answerCap inputs figures, answerAwaiting inputs,
      answerCorrespondent inputs] = .ok (some answer)) :
    answer.disposition = .indeterminate := by
  refine Outcome.firstAnswer_forall (P := fun answer => answer.disposition = .indeterminate)
    ?_ h
  intro check hcheck answer hanswer
  simp only [List.mem_cons, List.not_mem_nil, or_false] at hcheck
  rcases hcheck with rfl | rfl | rfl | rfl | rfl | rfl
  · exact (answerIf_eq_some hanswer).2
  · exact (answerIf_eq_some hanswer).2
  · have := (answerIf_eq_some hanswer).1
    rw [hclearing] at this
    cases this
  · rw [answerCap] at hanswer
    rcases hstated : inputs.netDebitCap with _ | cap <;> rw [hstated] at hanswer
    · cases hanswer
    · rw [hcap] at hanswer
      cases hanswer
  · exact (answerIf_eq_some hanswer).2
  · exact (answerIf_eq_some hanswer).2

/-- A projection that asserts a position which covers the obligation, with the risk controls
kept, is a funded one. -/
theorem settles_of_handed_over {inputs : FundingInputs} {projection : FundingProjection}
    (h : projectFunding inputs = .ok projection)
    (hassertable : projection.toGateInput.positionIsAssertable = true)
    (hfunded : projection.toGateInput.isFunded = .ok true)
    (hcap : Decimal.lt projection.toGateInput.netDebitCapHeadroom 0 = .ok false)
    (hclearing : projection.toGateInput.clearingFundSufficient = true) :
    projection.disposition = .funded ∨ projection.disposition = .fundedQualified := by
  rw [projectFunding, Outcome.bind_eq_ok] at h
  obtain ⟨figures, hfigures, h⟩ := h
  rw [Outcome.bind_eq_ok] at h
  obtain ⟨answer, hanswer, h⟩ := h
  cases h
  simp only [FundingProjection.toGateInput, FundingState.isFunded, decide_eq_true_eq] at *
  have hcovered : answerCovered inputs figures =
      .ok (some (buildFunded inputs ("Committed position " ++ figures.committed.text ++
        " covers obligation " ++ inputs.obligation.text ++ " at the settlement instant."))) := by
    simp only [fundingFigures, Outcome.bind_eq_ok] at hfigures
    obtain ⟨⟨ladder, trough⟩, -, committed, -, optimistic, -, shortfall, hshortfall, headroom, -,
      clearing, -, hfigures⟩ := hfigures
    cases hfigures
    have hzero := shortfall_of_covered hfunded hshortfall
    subst hzero
    rfl
  rw [fundingAnswer, Outcome.bind_eq_ok] at hanswer
  obtain ⟨found, hfound, hanswer⟩ := hanswer
  have hsplit : fundingAnswers inputs figures =
      [answerUnrecognised inputs, answerObligationClass inputs, answerClearingFund inputs figures,
        answerCap inputs figures, answerAwaiting inputs, answerCorrespondent inputs] ++
        answerCovered inputs figures :: [answerDeferred inputs figures,
          answerLedger inputs figures] := rfl
  rcases found with _ | found
  · -- the sixth answer is there, so some answer is
    have hnone := Outcome.firstAnswer_eq_none_iff.mp hfound (answerCovered inputs figures)
      (by simp [fundingAnswers])
    rw [hcovered] at hnone
    cases hnone
  · cases hanswer
    rw [hsplit] at hfound
    rcases Outcome.firstAnswer_append_eq_some hfound with hearly | ⟨-, hrest⟩
    · exact absurd (early_answer hclearing hcap hearly) hassertable
    · rw [hcovered] at hrest
      cases hrest
      exact buildFunded_disposition _ _

theorem checkRiskControls_eq_none {inputs : GateInputs}
    (h : checkRiskControls inputs = .ok none) :
    Decimal.lt inputs.funding.netDebitCapHeadroom 0 = .ok false ∧
      inputs.funding.clearingFundSufficient = true := by
  rw [checkRiskControls, Outcome.bind_eq_ok] at h
  obtain ⟨exhausted, hexhausted, h⟩ := h
  rcases exhausted with _ | _
  · rcases hsufficient : inputs.funding.clearingFundSufficient with _ | _
    · rw [hsufficient] at h
      cases h
    · exact ⟨hexhausted, rfl⟩
  · cases h

theorem checkAssertable_eq_none {inputs : GateInputs} (h : checkAssertable inputs = .ok none) :
    inputs.funding.positionIsAssertable = true := by
  rcases hassertable : inputs.funding.positionIsAssertable with _ | _
  · rw [checkAssertable, hassertable] at h
    cases h
  · rfl

/-- Where the gate proceeds on what a projection hands over, the projection is funded, or
funded and qualified. -/
theorem settles_of_proceeds (kernel : Kernel) (inputs : FundingInputs)
    (projection : FundingProjection) (gate : GateInputs) (decision : CatoCashDecision kernel)
    (hprojection : projectFunding inputs = .ok projection)
    (hfunding : gate.funding = projection.toGateInput)
    (hevaluate : evaluate gate kernel = .ok decision) (hproceed : decision.decision = .proceed) :
    projection.disposition = .funded ∨ projection.disposition = .fundedQualified := by
  obtain ⟨rail, hrail⟩ := exists_rail_of_proceeds hevaluate hproceed
  have hcleared : Cleared kernel gate rail :=
    proceeds_iff.mp ⟨decision, hevaluate, hproceed, hrail⟩
  have hpassed : ∀ check ∈ gateChecks gate, check = .ok none := hcleared.passed
  obtain ⟨hcap, hclearing⟩ := checkRiskControls_eq_none
    (hpassed (checkRiskControls gate) (by simp [gateChecks, earlyChecks]))
  have hassertable := checkAssertable_eq_none
    (hpassed (checkAssertable gate) (by simp [gateChecks, earlyChecks]))
  have hfunded := isFunded_of_checkFunded (hpassed _ checkFunded_mem)
  rw [hfunding] at hcap hclearing hassertable hfunded
  exact settles_of_handed_over hprojection hassertable hfunded hcap hclearing

/-- An obligation of ten against a position of twenty, on the wire. -/
def fundedTen : FundingInputs where
  openingPosition := 20
  obligation := 10
  finalityClass := .member .grossFinal
  settlementOffsetSeconds := 3600

theorem settles_of_proceeds_ten : ∃ projection decision,
    projectFunding fundedTen = .ok projection ∧
      evaluate (paymentOfTen [.fedwire] false true) plainKernel = .ok decision ∧
      (projection.disposition = .funded ∨ projection.disposition = .fundedQualified) := by
  have hhanded : FundingProjection.toGateInput <$> projectFunding fundedTen =
      .ok (paymentOfTen [.fedwire] false true).funding := by decide +kernel
  obtain ⟨projection, hprojection, hfunding⟩ := Outcome.map_eq_ok.mp hhanded
  obtain ⟨decision, hevaluate, hproceed, -⟩ := proceeds_iff.mpr wire_cleared
  exact ⟨projection, decision, hprojection, hevaluate,
    settles_of_proceeds plainKernel fundedTen projection _ decision hprojection hfunding.symm
      hevaluate hproceed⟩

end Atreides
