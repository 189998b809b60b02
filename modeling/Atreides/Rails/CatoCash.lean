import Mathlib.Data.List.Sort
import Mathlib.Data.Rat.Defs
import Atreides.Foundation.Checks
import Atreides.Foundation.Dict
import Atreides.Foundation.Text
import Atreides.Kernel
import Atreides.Rails.Finality

/-!
# The cash gate

The gate of a cash leg: it proceeds on a recommended rail, holds, or escalates. A declared
halt comes first, then inputs that name no member, then the checks in their fixed order;
the first that answers decides. When none does, the rail ladder recommends a rail: the one
a depository linkage determines, else the first preferred rail that is open and has the
capacity, else the first rail, by identifier, that can carry the operation now.

## Main definitions

* `CashRail`, `RailState`, `FundingState`, `Counterparty`, `FreshnessPolicy`,
  `OperationContext` — what the gate reads
* `CatoCashDecision` — what it answers
* `serviceable` — whether a rail can carry an operation now
* `recommendRail` — the rail ladder
* `gateChecks` — the checks before it
* `evaluate` — the gate
-/

namespace Atreides

/-! ## Vocabulary -/

inductive GateDecision
  | proceed
  | hold
  | escalate
  deriving DecidableEq, Repr

def GateDecision.value : GateDecision → String
  | proceed => "PROCEED"
  | hold => "HOLD"
  | escalate => "ESCALATE"

/-- The rails. The last is a placeholder for infrastructure that does not exist yet. -/
inductive CashRail
  | fedwire
  | chips
  | fednow
  | nssDtcNscc
  | ficcGsdFundsOnly
  | correspondent
  | tokenizedDeposit
  | regulatedStablecoin
  | portsWholesale
  deriving DecidableEq, Repr

namespace CashRail

def value : CashRail → String
  | fedwire => "fedwire"
  | chips => "chips"
  | fednow => "fednow"
  | nssDtcNscc => "nss_dtc_nscc"
  | ficcGsdFundsOnly => "ficc_gsd_funds_only"
  | correspondent => "correspondent"
  | tokenizedDeposit => "tokenized_deposit"
  | regulatedStablecoin => "regulated_stablecoin"
  | portsWholesale => "ports_wholesale"

/-- When money on the rail becomes irrevocable. -/
def finality : CashRail → FinalityClass
  | fedwire | fednow => .grossFinal
  | chips | nssDtcNscc | ficcGsdFundsOnly => .deferredNet
  | tokenizedDeposit | regulatedStablecoin | portsWholesale => .ledgerFinal
  | correspondent => .correspondentDependent

theorem value_injective : Function.Injective value := by
  intro a b h
  cases a <;> cases b <;> first | rfl | exact absurd h (by decide)

end CashRail

/-- Why the gate decided as it did. -/
inductive ReasonCode
  | systemicStressEscalate
  | materialMagnitudeQuorumUnavailable
  | unfundedAtSettlementInstant
  | riskControlBreach
  | broadStressHold
  | noRailInWindow
  | unresolvableFinality
  | determinationPending
  | unassessedRevocationAuthority
  | marketDataStale
  | settlementPerimeterUnassessed
  | counterpartyUnassessed
  | counterpartyNotInGoodStanding
  | counterpartyUnderReview
  | stressReadingUnusable
  | fundingIndeterminate
  | haltActive
  | inputUnrecognised
  | cleared
  | gateUnavailable
  deriving DecidableEq, Repr

def ReasonCode.value : ReasonCode → String
  | systemicStressEscalate => "SYSTEMIC_STRESS_ESCALATE"
  | materialMagnitudeQuorumUnavailable => "MATERIAL_MAGNITUDE_QUORUM_UNAVAILABLE"
  | unfundedAtSettlementInstant => "UNFUNDED_AT_SETTLEMENT_INSTANT"
  | riskControlBreach => "RISK_CONTROL_BREACH"
  | broadStressHold => "BROAD_STRESS_HOLD"
  | noRailInWindow => "NO_RAIL_IN_WINDOW"
  | unresolvableFinality => "UNRESOLVABLE_FINALITY"
  | determinationPending => "DETERMINATION_PENDING"
  | unassessedRevocationAuthority => "UNASSESSED_REVOCATION_AUTHORITY"
  | marketDataStale => "MARKET_DATA_STALE"
  | settlementPerimeterUnassessed => "SETTLEMENT_PERIMETER_UNASSESSED"
  | counterpartyUnassessed => "COUNTERPARTY_UNASSESSED"
  | counterpartyNotInGoodStanding => "COUNTERPARTY_NOT_IN_GOOD_STANDING"
  | counterpartyUnderReview => "COUNTERPARTY_UNDER_REVIEW"
  | stressReadingUnusable => "STRESS_READING_UNUSABLE"
  | fundingIndeterminate => "FUNDING_INDETERMINATE"
  | haltActive => "HALT_ACTIVE"
  | inputUnrecognised => "INPUT_UNRECOGNISED"
  | cleared => "CLEARED"
  | gateUnavailable => "GATE_UNAVAILABLE"

inductive RailStatus
  | available
  | closed
  | degraded
  | notYetIssued
  deriving DecidableEq, Repr

def RailStatus.value : RailStatus → String
  | available => "available"
  | closed => "closed"
  | degraded => "degraded"
  | notYetIssued => "not_yet_issued"

/-! ## Inputs -/

/-- The state of a rail. A rail without a cutoff is not bound by one, and one without a cap
carries any value. -/
structure RailState where
  rail : Coerced CashRail
  status : Coerced RailStatus
  secondsToCutoff : Option ℤ := none
  valueCap : Option Decimal := none
  observedAgeSeconds : Option ℤ := none
  deriving DecidableEq

/-- A rail is usable when open and not past its cutoff. -/
def RailState.usable (state : RailState) : Bool :=
  if state.status ≠ .member .available then false
  else
    match state.secondsToCutoff with
    | none => true
    | some seconds => 0 < seconds

/-- The funding state of the cash leg. -/
structure FundingState where
  projectedFundedPosition : Decimal
  netObligation : Decimal
  netDebitCapHeadroom : Decimal
  clearingFundSufficient : Bool
  positionIsAssertable : Bool := true
  deriving DecidableEq

/-- The position covers the obligation. -/
def FundingState.isFunded (funding : FundingState) : Outcome Bool :=
  Decimal.le funding.netObligation funding.projectedFundedPosition

inductive CounterpartyStanding
  | notAssessed
  | inGoodStanding
  | underReview
  | suspended
  | defaulted
  deriving DecidableEq, Repr

def CounterpartyStanding.value : CounterpartyStanding → String
  | notAssessed => "not_assessed"
  | inGoodStanding => "in_good_standing"
  | underReview => "under_review"
  | suspended => "suspended"
  | defaulted => "defaulted"

/-- Who is on the other side. An assessed standing is attributed, and only an assessed one
has an age. -/
@[ext]
structure Counterparty where
  counterpartyId : String
  standing : CounterpartyStanding := .notAssessed
  assessedAgeSeconds : Option ℤ := none
  provenance : Option String := none
  counterpartyId_nonempty : counterpartyId ≠ "" := by decide
  assessed_attributed : standing ≠ .notAssessed → provenance.any (· ≠ "") = true := by decide
  unassessed_undated : standing = .notAssessed → assessedAgeSeconds = none := by decide
  age_nonneg : assessedAgeSeconds.all (0 ≤ ·) = true := by decide

instance : DecidableEq Counterparty := fun _ _ => decidable_of_iff _ Counterparty.ext_iff.symm

/-- How old an input may be before it stops being evidence. -/
structure FreshnessPolicy where
  maxStressReadingAgeSeconds : Option ℤ := none
  maxRailStateAgeSeconds : Option ℤ := none
  maxCounterpartyAssessmentAgeSeconds : Option ℤ := none
  stress_positive : maxStressReadingAgeSeconds.all (0 < ·) = true := by decide
  rail_positive : maxRailStateAgeSeconds.all (0 < ·) = true := by decide
  counterparty_positive : maxCounterpartyAssessmentAgeSeconds.all (0 < ·) = true := by decide
  deriving DecidableEq

def FreshnessPolicy.policesAnything (policy : FreshnessPolicy) : Bool :=
  policy.maxStressReadingAgeSeconds.isSome || policy.maxRailStateAgeSeconds.isSome ||
    policy.maxCounterpartyAssessmentAgeSeconds.isSome

/-- Whether an input is too old, and why. An age nobody recorded is too old. -/
def staleness (ageSeconds maximum : Option ℤ) : Bool × String :=
  match maximum, ageSeconds with
  | none, _ => (false, "not policed")
  | some _, none => (true, "age never established")
  | some maximum, some age =>
    if maximum < age then
      (true, toString age ++ "s old against a " ++ toString maximum ++ "s bound")
    else (false, toString age ++ "s old within a " ++ toString maximum ++ "s bound")

/-- The operation under evaluation. -/
structure OperationContext where
  notional : Decimal
  currency : String
  isMaterial : Bool
  isLvpsMaterial : Bool
  isFxLeg : Bool := false
  pvpAvailable : Bool := true
  depositoryLinkedRail : Option (Coerced CashRail) := none
  correspondentFinalityResolvable : Bool := true
  tokenizedDepositSupported : Bool := false
  withinBusinessHours : Bool := true
  determinationOutcome : Coerced DeterminationOutcome := .member .notApplicable
  counterparty : Option Counterparty := none
  settlementPerimeter : Coerced SettlementPerimeter := .member .notAssessed
  deriving DecidableEq

/-- The fields whose value is no member, with how each shows. -/
def OperationContext.unrecognisedFields (operation : OperationContext) :
    List (String × String) :=
  (if operation.determinationOutcome.isUnrecognised then
    [("determination_outcome", operation.determinationOutcome.describe DeterminationOutcome.value)]
  else []) ++
  (if operation.settlementPerimeter.isUnrecognised then
    [("settlement_perimeter", operation.settlementPerimeter.describe SettlementPerimeter.value)]
  else []) ++
  match operation.depositoryLinkedRail with
  | none => []
  | some linked =>
    if linked.isUnrecognised then
      [("depository_linked_rail", linked.describe CashRail.value)]
    else []

/-- A reading of systemic stress: its text, and its number where it is a finite one. -/
structure StressReading where
  value : Option ℚ
  text : String
  deriving DecidableEq

def ofrEscalateThreshold : ℚ := 1
def ofrHoldThreshold : ℚ := 1 / 2
def ofrStressPreferenceThreshold : ℚ := 1 / 4

/-- The reading is a number above a threshold. -/
def StressReading.exceeds (reading : StressReading) (threshold : ℚ) : Bool :=
  reading.value.any (threshold < ·)

/-- The reading is a number at or above a threshold. -/
def StressReading.reaches (reading : StressReading) (threshold : ℚ) : Bool :=
  reading.value.any (threshold ≤ ·)

/-- Everything one evaluation is given. -/
structure GateInputs where
  operation : OperationContext
  funding : FundingState
  rails : Dict CashRail RailState
  ofrStlfsi4 : StressReading
  dsorLineageUri : Option String := none
  stressReadingAgeSeconds : Option ℤ := none
  freshnessPolicy : Option FreshnessPolicy := none
  obligationId : Option String := none
  obligationDigest : Option String := none
  halt : Option HaltContext := none

/-! ## Decisions -/

def catoCashDoctrineVersion : String := "AUR-CUSTODY-CASH-001-v0.2"

def gateSetVersion : String := "cato-cash-gates/0.4"

/-- A digest: its algorithm and 64 lower-case hexadecimal digits, and at most a line break
after them. -/
def isDigestText (text : String) : Bool :=
  let chars := text.toList
  let body := if chars.getLast? = some (Char.ofNat 10) then chars.dropLast else chars
  body.take 7 = "sha256:".toList && (body.drop 7).length = 64 &&
    (body.drop 7).all fun c => c.isDigit || ('a' ≤ c && c ≤ 'f')

/-- The fields of a decision. -/
structure DecisionFields where
  decision : GateDecision
  reasonCode : ReasonCode
  recommendedRail : Option CashRail
  finalityClass : Option FinalityClass
  rationale : String
  checksEvaluated : List (String × String)
  fundingStateSnapshot : List (String × String)
  evaluatedNotional : Option Decimal := none
  evaluatedCurrency : Option String := none
  doctrineVersion : String := catoCashDoctrineVersion
  dsorLineageUri : Option String := none
  obligationFinalityClass : Option FinalityClass := none
  settlementPerimeter : Coerced SettlementPerimeter := .member .notAssessed
  obligationId : Option String := none
  obligationDigest : Option String := none
  gateSetVersion : String := Atreides.gateSetVersion
  deriving DecidableEq

/-- The kernel takes the identifier of the obligation, where there is one. -/
def checkObligationId (kernel : Kernel) : Option String → Outcome Unit
  | none => .ok ()
  | some id =>
    if kernel.isObligationId id then .ok () else .error (.valueError "obligation_id")

/-- What a decision is refused for. -/
def DecisionFields.check (kernel : Kernel) (fields : DecisionFields) : Outcome Unit := do
  if fields.decision = .proceed ∧ fields.checksEvaluated = [] then
    throw (.valueError ("a PROCEED decision must record the checks it evaluated; one with " ++
      "none is not a gate decision (ATR-I-04)"))
  if fields.obligationId.isNone ≠ fields.obligationDigest.isNone then
    throw (.valueError "obligation_id and obligation_digest are given together or not at all")
  checkObligationId kernel fields.obligationId
  if !fields.obligationDigest.all isDigestText then
    throw (.valueError "obligation_digest must be 'sha256:' followed by 64 lower-case hex")
  if fields.gateSetVersion = "" then
    throw (.valueError "gate_set_version is required")

/-- What the gate answers. -/
structure CatoCashDecision (kernel : Kernel) extends DecisionFields where
  admitted : toDecisionFields.check kernel = .ok ()

/-- A decision with the given fields, where they make one. -/
def DecisionFields.build (kernel : Kernel) (fields : DecisionFields) :
    Outcome (CatoCashDecision kernel) :=
  match h : fields.check kernel with
  | .ok () => .ok ⟨fields, h⟩
  | .error e => .error e

namespace CatoCashDecision

variable {kernel : Kernel}

def proceeds (decision : CatoCashDecision kernel) : Bool := decision.decision = .proceed

/-- The decision names the obligation it governs. -/
def bound (decision : CatoCashDecision kernel) : Bool := decision.obligationId.isSome

end CatoCashDecision

def snapshotFunding (funding : FundingState) : Outcome (List (String × String)) := do
  let isFunded ← funding.isFunded
  .ok [("projected_funded_position", funding.projectedFundedPosition.text),
    ("net_obligation", funding.netObligation.text),
    ("net_debit_cap_headroom", funding.netDebitCapHeadroom.text),
    ("clearing_fund_sufficient", boolText funding.clearingFundSufficient),
    ("is_funded", boolText isFunded)]

/-! ## Rails -/

/-- The operation is worth more than the rail carries. -/
def overCap (state : RailState) (operation : OperationContext) : Outcome Bool :=
  match state.valueCap with
  | none => .ok false
  | some cap => Decimal.lt cap operation.notional

/-- The rail carries the value of the operation. -/
def withinCap (state : RailState) (operation : OperationContext) : Outcome Bool :=
  match state.valueCap with
  | none => .ok true
  | some cap => Decimal.le operation.notional cap

/-- The rail a state is for is a ledger-final one. -/
def RailState.isLedgerFinal (state : RailState) : Bool :=
  match state.rail with
  | .member rail => rail.finality = .ledgerFinal
  | .unrecognised _ => false

/-- Whether a rail can carry the operation now. -/
def serviceable (state : RailState) (operation : OperationContext) : Outcome Bool :=
  if !state.usable then .ok false
  else do
    if ← overCap state operation then .ok false
    else if !operation.withinBusinessHours then
      .ok (continuouslyAvailable state.isLedgerFinal operation.settlementPerimeter)
    else .ok true

/-- Why a linked rail cannot carry the operation, where it cannot. -/
def linkedRailBlocker (linked : CashRail) (rails : Dict CashRail RailState)
    (operation : OperationContext) : Outcome (Option String) :=
  match rails.get? linked with
  | none => .ok (some "is absent from the rail state, so whether it is open is unknown")
  | some state =>
    if linked = .portsWholesale then
      .ok (some ("is the reserved placeholder for wholesale tokenized settlement, which " ++
        "carries nothing until the infrastructure ships, whatever status it is given"))
    else do
      if ← serviceable state operation then .ok none
      else if !state.usable then
        .ok (some ("is not usable (status " ++ state.status.describe RailStatus.value ++
          ", seconds to cutoff " ++ optionText toString state.secondsToCutoff ++ ")"))
      else if ← overCap state operation then
        .ok (some ("has a value cap of " ++ optionText Decimal.text state.valueCap ++
          ", below the notional"))
      else
        .ok (some ("is ledger-final and not continuously available outside business hours for a " ++
          operation.settlementPerimeter.describe SettlementPerimeter.value ++
          " settlement perimeter"))

/-- The rails in the order of their identifiers. -/
def sortedRails (rails : Dict CashRail RailState) : List (CashRail × RailState) :=
  rails.items.insertionSort fun a b => a.1.value ≤ b.1.value

/-! ## The rail ladder -/

/-- A preferred rail, where it is open and has the capacity. -/
def tryRail (operation : OperationContext) (rails : Dict CashRail RailState) (rail : CashRail) :
    Outcome (Option CashRail) :=
  match rails.get? rail with
  | none => .ok none
  | some state =>
    if !state.usable then .ok none
    else do
      if ← overCap state operation then .ok none else .ok (some rail)

/-- The first of some preferred rails that is open and has the capacity. -/
def prefer (operation : OperationContext) (rails : Dict CashRail RailState)
    (candidates : List CashRail) : Outcome (Option CashRail) :=
  Outcome.firstAnswer (candidates.map (tryRail operation rails))

/-- A choice with the rule behind it. -/
def choose (applies : Bool) (choice : Outcome (Option CashRail)) (rationale : String) :
    Outcome (Option (CashRail × String)) :=
  if applies then Option.map (fun rail => (rail, rationale)) <$> choice else .ok none

/-- Outside business hours, the instant rail within its cap. -/
def windowRule (operation : OperationContext) (rails : Dict CashRail RailState) :
    Outcome (Option CashRail) :=
  match rails.get? .fednow with
  | none => .ok none
  | some state =>
    if !state.usable then .ok none
    else do
      if ← withinCap state operation then .ok (some .fednow) else .ok none

/-- A rail that can carry the operation now, and is no placeholder. -/
def sweepRail (operation : OperationContext) (item : CashRail × RailState) :
    Outcome (Option (CashRail × String)) :=
  if !item.2.usable then .ok none
  else if item.1 = .portsWholesale then .ok none
  else do
    if ← serviceable item.2 operation then
      .ok (some (item.1, "Sole serviceable rail within the settlement window."))
    else .ok none

def grossFinal : List CashRail := [.fedwire, .fednow]

/-- The rules that prefer a rail, in their order. -/
def preferenceRules (operation : OperationContext) (rails : Dict CashRail RailState)
    (ofrStlfsi4 : StressReading) : List (Outcome (Option (CashRail × String))) :=
  [ -- 1. stress that is elevated but below the hold band
    choose (ofrStlfsi4.reaches ofrStressPreferenceThreshold) (prefer operation rails grossFinal)
      ("Elevated systemic stress (OFR " ++ ofrStlfsi4.text ++ " >= 0.25); prefer gross-final " ++
        "settlement over deferred-net exposure (CASH-001 SV.C.1)."),
    -- 2. material for a large-value system
    choose operation.isLvpsMaterial (prefer operation rails grossFinal)
      ("Operation is LVPS-material; gross-final rail preferred over deferred-net " ++
        "(CASH-001 SV.C.2, SIV finality doctrine)."),
    -- 3. outside business hours
    choose (!operation.withinBusinessHours) (windowRule operation rails)
      ("Outside business hours; FedNow is instant-final and operates 24/7/365, notional " ++
        "within value cap (CASH-001 SV.C.3)."),
    -- 5. a tokenized deposit both sides support; nothing here asks about business hours
    choose operation.tokenizedDepositSupported (prefer operation rails [.tokenizedDeposit])
      ("Both counterparties support a tokenized-deposit rail and the instrument is eligible; " ++
        "preferred on cost, and on continuous availability where the perimeter supports that " ++
        "claim (perimeter: " ++
        operation.settlementPerimeter.describe SettlementPerimeter.value ++ ") (CASH-001 SV.C.5)."),
    -- 6. the default
    choose true (prefer operation rails [.fedwire]) "Default rail (CASH-001 SV.C.6)." ]

/-- The rail to recommend, with the rule behind it. -/
def recommendRail (operation : OperationContext) (rails : Dict CashRail RailState)
    (ofrStlfsi4 : StressReading) : Outcome (Option (CashRail × String)) :=
  match operation.depositoryLinkedRail with
  | some (.member linked) => do
    -- 4. the linkage determines the rail, and no other replaces it
    match ← linkedRailBlocker linked rails operation with
    | some _ => .ok none
    | none =>
      .ok (some (linked, "Depository-linked settlement: rail is determined by the linkage (" ++
        linked.value ++ "), not selected. Gate validates availability rather than choosing " ++
        "(CASH-001 SV.C.4)."))
  -- a linked rail that names no rail is absent from the rail state
  | some (.unrecognised _) => .ok none
  | none =>
    Outcome.firstAnswer (preferenceRules operation rails ofrStlfsi4 ++
      (sortedRails rails).map (sweepRail operation))

/-! ## Checks -/

/-- What a check, or the ladder, decides. -/
structure Verdict where
  decision : GateDecision
  reason : ReasonCode
  rationale : String
  rail : Option CashRail := none
  deriving DecidableEq

/-- Hold, where a condition is met. -/
def holdIf (condition : Bool) (reason : ReasonCode) (rationale : String) :
    Outcome (Option Verdict) :=
  .ok (if condition then some { decision := .hold, reason, rationale } else none)

/-- Escalate, where a condition is met. -/
def escalateIf (condition : Bool) (reason : ReasonCode) (rationale : String) :
    Outcome (Option Verdict) :=
  .ok (if condition then some { decision := .escalate, reason, rationale } else none)

section Checks

variable (inputs : GateInputs)

/-- 0. The stress reading is a number. -/
def checkStressReading : Outcome (Option Verdict) :=
  holdIf inputs.ofrStlfsi4.value.isNone .stressReadingUnusable
    ("Systemic-stress reading " ++ inputs.ofrStlfsi4.text ++ " is not a finite number, so no " ++
      "statement about market stress can be made from it. Every stress band below is a " ++
      "comparison, and a non-finite value satisfies none of them - which would clear the gate " ++
      "rather than hold it. The absence of a reading is a state with a name, not a calm market " ++
      "(CASH-001 SV.E).")

/-- The policy in force, where one was stated that polices anything. -/
def GateInputs.policy : Option FreshnessPolicy :=
  inputs.freshnessPolicy.filter FreshnessPolicy.policesAnything

/-- 0b. The stress reading is recent. -/
def checkStressAge : Outcome (Option Verdict) :=
  match inputs.policy with
  | none => .ok none
  | some policy =>
    let (stale, why) := staleness inputs.stressReadingAgeSeconds policy.maxStressReadingAgeSeconds
    holdIf stale .marketDataStale
      ("The systemic-stress reading is not current enough to be evidence: " ++ why ++
        ". A reading whose age is unknown is treated as stale where a freshness policy exists, " ++
        "on the same discipline as an unread rulebook (CASH-001 SV.E).")

/-- 0b. The state of one rail is recent. -/
def checkRailAge (item : CashRail × RailState) : Outcome (Option Verdict) :=
  match inputs.policy with
  | none => .ok none
  | some policy =>
    let (stale, why) := staleness item.2.observedAgeSeconds policy.maxRailStateAgeSeconds
    holdIf stale .marketDataStale
      ("Rail state for " ++ item.1.value ++ " is not current enough to be evidence: " ++ why ++
        ". A rail recorded as open an hour ago is not a rail known to be open now " ++
        "(CASH-001 SV.B.6).")

/-- 0b. The standing of the counterparty is recent. -/
def checkCounterpartyAge : Outcome (Option Verdict) :=
  match inputs.policy, inputs.operation.counterparty with
  | some policy, some counterparty =>
    let (stale, why) :=
      staleness counterparty.assessedAgeSeconds policy.maxCounterpartyAssessmentAgeSeconds
    holdIf stale .marketDataStale
      ("The standing assessment for counterparty " ++ counterparty.counterpartyId ++
        " is not current enough to be evidence: " ++ why ++ ".")
  | _, _ => .ok none

/-- 1. Systemic stress. -/
def checkSystemicStress : Outcome (Option Verdict) :=
  escalateIf (inputs.ofrStlfsi4.exceeds ofrEscalateThreshold) .systemicStressEscalate
    ("OFR STLFSI4 " ++ inputs.ofrStlfsi4.text ++ " exceeds 1.0; systemic stress routes to " ++
      "human authority (CASH-001 SV.B.1, Cato Sec parity band).")

/-- 2. Material magnitude. -/
def checkMaterial : Outcome (Option Verdict) :=
  holdIf inputs.operation.isMaterial .materialMagnitudeQuorumUnavailable
    ("Operation is material per MagnitudeThresholdPolicy; quorum authority is required and is " ++
      "architecturally unavailable under CAOM-001. HOLD and surface a CAOM-transition trigger " ++
      "(FED-001 SVII, CASH-001 SV.B.2).")

/-- 2b. The standing of the counterparty, where one is named. -/
def checkCounterparty : Outcome (Option Verdict) :=
  match inputs.operation.counterparty with
  | none => .ok none
  | some counterparty =>
    match counterparty.standing with
    | .notAssessed =>
      holdIf true .counterpartyUnassessed
        ("Counterparty " ++ counterparty.counterpartyId ++ " was named and no standing has been " ++
          "established for it. Naming a counterparty and leaving its standing unread is not " ++
          "the same as having no counterparty; closed by an assessment, not by a market action.")
    | .underReview =>
      escalateIf true .counterpartyUnderReview
        ("Counterparty " ++ counterparty.counterpartyId ++ " is under review. Routed to human " ++
          "authority rather than held: a review means somebody is already looking, and this " ++
          "operation is evidence for them rather than a decision this gate should take " ++
          "without them.")
    | .suspended | .defaulted =>
      holdIf true .counterpartyNotInGoodStanding
        ("Counterparty " ++ counterparty.counterpartyId ++ " is " ++ counterparty.standing.value ++
          ". Nothing routine proceeds against a name in that state, and no rail choice or " ++
          "funding position changes that.")
    | .inGoodStanding => .ok none

/-- 3a. The funding model asserts the position. -/
def checkAssertable : Outcome (Option Verdict) :=
  holdIf (!inputs.funding.positionIsAssertable) .fundingIndeterminate
    ("The funding model declined to assert the settlement-instant position, so there is no " ++
      "funded state to check. A refusal that arrives here as a number is a refusal that was " ++
      "thrown away in transit; this gate will not read one as evidence of funding " ++
      "(CASH-001 SVII).")

/-- 3. The position covers the obligation. -/
def checkFunded : Outcome (Option Verdict) := do
  let isFunded ← inputs.funding.isFunded
  holdIf (!isFunded) .unfundedAtSettlementInstant
    ("Projected funded position " ++ inputs.funding.projectedFundedPosition.text ++
      " is below net obligation " ++ inputs.funding.netObligation.text ++
      " at the settlement instant. No rail selection remedies this (CASH-001 SV.B.3, SVII).")

/-- 4. The net debit cap and the clearing fund. -/
def checkRiskControls : Outcome (Option Verdict) := do
  let exhausted ← Decimal.lt inputs.funding.netDebitCapHeadroom 0
  holdIf (exhausted || !inputs.funding.clearingFundSufficient) .riskControlBreach
    ("Risk-control breach: net-debit-cap headroom exhausted or clearing-fund/margin " ++
      "deficient. Hold and escalate (AUR-COCKPIT-001 SVII, CASH-001 SV.B.4).")

/-- 5. Broad stress. -/
def checkBroadStress : Outcome (Option Verdict) :=
  holdIf (inputs.ofrStlfsi4.exceeds ofrHoldThreshold) .broadStressHold
    ("OFR STLFSI4 " ++ inputs.ofrStlfsi4.text ++ " exceeds 0.5; broad settlement-system stress " ++
      "(CASH-001 SV.B.5, Cato Sec parity band).")

/-- The rails that are no placeholder, in the order they were given. -/
def GateInputs.realRails : List (CashRail × RailState) :=
  inputs.rails.items.filter fun item => item.1 ≠ .portsWholesale

/-- A ledger-final rail is open and has the capacity. -/
def openLedger (operation : OperationContext) (item : CashRail × RailState) : Outcome Bool :=
  if item.1.finality = .ledgerFinal && item.2.usable then withinCap item.2 operation
  else .ok false

/-- Nobody assessed the perimeter, outside business hours. -/
def perimeterUnread (operation : OperationContext) : Bool :=
  operation.settlementPerimeter = .member .notAssessed && !operation.withinBusinessHours

/-- A ledger-final rail could carry the operation, were its perimeter known. -/
def waitsForPerimeter : Outcome Bool :=
  if perimeterUnread inputs.operation then
    Outcome.anyOf (openLedger inputs.operation) inputs.realRails
  else .ok false

/-- Why no rail can carry the operation. -/
def windowVerdict : Outcome (Option Verdict) := do
  if ← waitsForPerimeter inputs then
    holdIf true .settlementPerimeterUnassessed
      ("A ledger-final rail is open and able to carry " ++ inputs.operation.notional.text ++
        ", and nobody established whether the counterparty sits inside the settling " ++
        "institution's book. Ledger-final is continuous on-us and depends on an interbank " ++
        "system off-us, and outside banking hours that system is not open. Hold until the " ++
        "perimeter is assessed rather than routing on an availability claim this record cannot " ++
        "support (CASH-001 SV.B.6, SIV as extended).")
  else
    holdIf true .noRailInWindow
      ("No cash rail is open, reachable, and able to carry " ++ inputs.operation.notional.text ++
        " within the required settlement window. Hold to the next window rather than routing " ++
        "to a closed rail or to one that cannot carry the operation (CASH-001 SV.B.6).")

/-- 6. Some rail can carry the operation in the window. A linked rail is not asked here. -/
def checkWindow : Outcome (Option Verdict) :=
  if inputs.operation.depositoryLinkedRail.isSome then .ok none
  else do
    if ← Outcome.anyOf (fun item => serviceable item.2 inputs.operation) inputs.realRails then
      .ok none
    else windowVerdict inputs

/-- 7. The finality of a correspondent chain can be established. -/
def checkCorrespondent : Outcome (Option Verdict) :=
  holdIf (!inputs.operation.correspondentFinalityResolvable) .unresolvableFinality
    ("Correspondent-dependent finality state cannot be established for this cross-border leg. " ++
      "Unknown finality is not acceptable finality (CASH-001 SV.B.7, SIV).")

/-- 8. The outcome of a contingent obligation is determined. -/
def checkDetermination : Outcome (Option Verdict) :=
  holdIf (inputs.operation.determinationOutcome = .member .awaitingDetermination)
    .determinationPending
    ("Contingent obligation awaiting outcome determination; the amount owed is not yet fixed. " ++
      "Instruction is premature, not unsafe. Hold to determination (CASH-001 SIV, " ++
      "determination dependence).")

/-- 9. The power to revoke it was read. -/
def checkRevocation : Outcome (Option Verdict) :=
  holdIf (inputs.operation.determinationOutcome = .member .qualificationUnknown)
    .unassessedRevocationAuthority
    ("Outcome determined, but no determination profile has been populated for the venue, so " ++
      "whether the settlement can be cancelled and the funds returned is unread rather than " ++
      "absent. Unknown finality is not acceptable finality (CASH-001 SIV). Populate the " ++
      "registry entry from the venue rulebook.")

/-- The checks before the rails are looked at. -/
def earlyChecks : List (Outcome (Option Verdict)) :=
  [checkStressReading inputs, checkStressAge inputs] ++
    (sortedRails inputs.rails).map (checkRailAge inputs) ++
    [checkCounterpartyAge inputs, checkSystemicStress inputs, checkMaterial inputs,
      checkCounterparty inputs, checkAssertable inputs, checkFunded inputs,
      checkRiskControls inputs, checkBroadStress inputs]

/-- The checks after them. -/
def lateChecks : List (Outcome (Option Verdict)) :=
  [checkCorrespondent inputs, checkDetermination inputs, checkRevocation inputs]

/-- The checks in their order. -/
def gateChecks : List (Outcome (Option Verdict)) :=
  earlyChecks inputs ++ checkWindow inputs :: lateChecks inputs

/-! ## The gate -/

/-- What is added to the rationale of a cleared operation. -/
def clearedNotes (operation : OperationContext) : String :=
  (if operation.determinationOutcome = .member .qualifiedBounded ∨
      operation.determinationOutcome = .member .qualifiedUnbounded then
    " NOTE: obligation is DETERMINATION_DEPENDENT — the cash leg is final on its rail and the " ++
      "venue retains authority to cancel the contract and return the funds. " ++
      (if operation.determinationOutcome = .member .qualifiedBounded then
        "The venue publishes a bounded window; the position stops being qualified at a " ++
          "knowable moment."
      else
        "The venue states no bound, so the position does not leave the qualified state. " ++
          "Recorded, not resolved (CASH-001 SIV).")
  else "") ++
  (if operation.isFxLeg && !operation.pvpAvailable then
    " NOTE: FX leg proceeding WITHOUT PvP — Herstatt risk is not eliminated. FED-AMD-001 " ++
      "SII.C halved the applicable materiality threshold for this condition; recorded for the " ++
      "joint resolver (CASH-001 SVI)."
  else "")

/-- Why the ladder recommends nothing. -/
def ladderHold : Outcome String :=
  match inputs.operation.depositoryLinkedRail with
  | some (.member linked) => do
    let blocker ← linkedRailBlocker linked inputs.rails inputs.operation
    .ok ("the linked rail " ++ linked.value ++ " " ++ optionText id blocker)
  | some (.unrecognised _) => .error (.attributeError "value")
  | none => .ok "the rail ladder found no rail able to carry it"

/-- 10. Cleared: recommend a rail, or hold where the ladder recommends none. -/
def clear : Outcome Verdict := do
  match ← recommendRail inputs.operation inputs.rails inputs.ofrStlfsi4 with
  | none =>
    let why ← ladderHold inputs
    .ok { decision := .hold, reason := .noRailInWindow, rationale :=
      "No rail can carry " ++ inputs.operation.notional.text ++ " within the settlement " ++
        "window: " ++ why ++ ". A depository-linked settlement has one rail, so there is no " ++
        "other rail to choose. Hold rather than recommend a rail that cannot carry the " ++
        "operation (CASH-001 SV.C.4, SV.B.6)." }
  | some (rail, rationale) =>
    .ok { decision := .proceed, reason := .cleared, rail := some rail,
          rationale := rationale ++ clearedNotes inputs.operation }

/-- What the checks decide, or the ladder when none does. -/
def verdict : Outcome Verdict := do
  match ← Outcome.firstAnswer (gateChecks inputs) with
  | some verdict => .ok verdict
  | none => clear inputs

/-- What a decision records of every check. -/
def checksEvaluated : Outcome (List (String × String)) := do
  let operation := inputs.operation
  let isFunded ← inputs.funding.isFunded
  .ok [("halt", match inputs.halt with
      | none => "not_supplied"
      | some halt => "inactive_or_out_of_scope:v" ++ toString halt.version),
    ("ofr_stlfsi4", inputs.ofrStlfsi4.text),
    ("is_material", boolText operation.isMaterial),
    ("is_lvps_material", boolText operation.isLvpsMaterial),
    ("is_funded", boolText isFunded),
    ("net_debit_cap_headroom", inputs.funding.netDebitCapHeadroom.text),
    ("clearing_fund_sufficient", boolText inputs.funding.clearingFundSufficient),
    ("usable_rails", ",".intercalate (((sortedRails inputs.rails).filter
      fun item => item.2.usable).map fun item => item.1.value)),
    ("correspondent_finality_resolvable", boolText operation.correspondentFinalityResolvable),
    ("is_fx_leg", boolText operation.isFxLeg),
    ("pvp_available", boolText operation.pvpAvailable),
    ("determination_outcome", operation.determinationOutcome.describe DeterminationOutcome.value),
    ("position_is_assertable", boolText inputs.funding.positionIsAssertable),
    ("settlement_perimeter", operation.settlementPerimeter.describe SettlementPerimeter.value),
    ("within_business_hours", boolText operation.withinBusinessHours),
    ("counterparty_standing", match operation.counterparty with
      | none => "not_supplied"
      | some counterparty => counterparty.standing.value),
    ("freshness_policy", if inputs.policy.isSome then "stated" else "not_stated"),
    ("stress_reading_age_seconds", optionText toString inputs.stressReadingAgeSeconds)]

variable (kernel : Kernel)

/-- The halt that covers this domain, where one is active. -/
def GateInputs.haltInForce : Option HaltContext :=
  inputs.halt.filter fun halt => kernel.gateUnderHalt halt .atreides = .block

/-- The decision under a declared halt. -/
def haltedDecision (halt : HaltContext) : Outcome (CatoCashDecision kernel) := do
  let fundingStateSnapshot ← snapshotFunding inputs.funding
  DecisionFields.build kernel {
    decision := .hold
    reasonCode := .haltActive
    recommendedRail := none
    finalityClass := none
    rationale := "Halt " ++ halt.haltId ++ " (version " ++ toString halt.version ++
      ") is active for Atreides: " ++ halt.reason ++ ". No cash leg proceeds under a declared " ++
      "halt, whatever the market and funding say (ATR-I-06)."
    checksEvaluated := [("halt", "active:" ++ halt.haltId ++ ":v" ++ toString halt.version)]
    fundingStateSnapshot
    evaluatedNotional := some inputs.operation.notional
    evaluatedCurrency := some inputs.operation.currency
    dsorLineageUri := inputs.dsorLineageUri
    obligationId := inputs.obligationId
    obligationDigest := inputs.obligationDigest }

/-- The decision on fields whose value is no member. -/
def unrecognisedDecision (fields : List (String × String)) :
    Outcome (CatoCashDecision kernel) := do
  let fundingStateSnapshot ← snapshotFunding inputs.funding
  DecisionFields.build kernel {
    decision := .hold
    reasonCode := .inputUnrecognised
    recommendedRail := none
    finalityClass := none
    rationale := "Unrecognised operation input: " ++
      ", ".intercalate (fields.map fun field => field.1 ++ "=" ++ field.2) ++
      ". Enum values must match a member exactly. The gate holds rather than guess which " ++
      "branch was meant (ATR-I-05)."
    checksEvaluated := fields.map fun field => ("unrecognised:" ++ field.1, field.2)
    fundingStateSnapshot
    evaluatedNotional := some inputs.operation.notional
    evaluatedCurrency := some inputs.operation.currency
    dsorLineageUri := inputs.dsorLineageUri
    obligationId := inputs.obligationId
    obligationDigest := inputs.obligationDigest }

/-- The decision of the checks and the ladder. -/
def decided : Outcome (CatoCashDecision kernel) := do
  let checksEvaluated ← checksEvaluated inputs
  let fundingStateSnapshot ← snapshotFunding inputs.funding
  let obligationClass ← obligationFinalityClass inputs.operation.determinationOutcome
  let verdict ← verdict inputs
  DecisionFields.build kernel {
    decision := verdict.decision
    reasonCode := verdict.reason
    recommendedRail := verdict.rail
    finalityClass := verdict.rail.map CashRail.finality
    rationale := verdict.rationale
    checksEvaluated
    fundingStateSnapshot
    evaluatedNotional := some inputs.operation.notional
    evaluatedCurrency := some inputs.operation.currency
    dsorLineageUri := inputs.dsorLineageUri
    obligationFinalityClass := obligationClass
    settlementPerimeter := inputs.operation.settlementPerimeter
    obligationId := inputs.obligationId
    obligationDigest := inputs.obligationDigest }

/-- Evaluate the cash leg. -/
def evaluate : Outcome (CatoCashDecision kernel) :=
  match inputs.haltInForce kernel with
  | some halt => haltedDecision inputs kernel halt
  | none =>
    match inputs.operation.unrecognisedFields with
    | [] => decided inputs kernel
    | field :: rest => unrecognisedDecision inputs kernel (field :: rest)

end Checks

end Atreides
