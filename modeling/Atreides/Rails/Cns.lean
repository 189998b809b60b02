import Mathlib.Data.List.Sort
import Mathlib.Data.String.Basic
import Atreides.Deadlines.Calendar
import Atreides.Foundation.Text
import Atreides.Rails.Finality

/-!
# Continuous net settlement

The equities rail. Trades are netted into one position for each security, and what settles
is the position. A settlement delivers what is available, and what is left stays owed.

## Main definitions

* `netPositions` — the positions a list of trades nets into
* `settleNetPosition` — the outcome of a position against what was allocated to it
-/

namespace Atreides

open DecimalContext (ambient)

/-! ## Profiles -/

/-- How, and on what clock, an open fail must be closed out. -/
inductive CloseOutRegime
  | notAssessed
  | nonePublished
  | mandatoryDeadline
  deriving DecidableEq, Repr

/-- How a market fixes the business date a trade is processed for. -/
inductive ProcessingDateRule
  | notAssessed
  | fixedCycleFromTradeDate
  | sessionClosureMessage
  deriving DecidableEq, Repr

/-- What a market's profile states. -/
structure MarketProfileFields where
  marketId : String
  settlementCycleDays : Option ℤ := none
  processingDateRule : ProcessingDateRule := .notAssessed
  sessionClosureMessage : Option String := none
  closeOutRegime : CloseOutRegime := .notAssessed
  closeOutDeadlineDays : Option ℤ := none
  allocationRulePublished : Bool := false
  provenance : Option String := none
  deriving DecidableEq

/-- A text that is there and not empty. -/
def stated (text : Option String) : Bool := text.any (· ≠ "")

/-- The checks a profile passes when it is built, in order. -/
def MarketProfile.validate (fields : MarketProfileFields) : Outcome Unit := do
  if fields.marketId = "" then throw (.valueError "market_id is required")
  let assessed := fields.closeOutRegime ≠ .notAssessed
  if assessed ∧ !stated fields.provenance then
    throw (.valueError ("an assessed market profile requires provenance; an " ++
      "unattributed profile is indistinguishable from a guess"))
  if ¬assessed ∧ (fields.closeOutDeadlineDays.isSome ∨ fields.settlementCycleDays.isSome ∨
      fields.processingDateRule ≠ .notAssessed) then
    throw (.valueError ("a NOT_ASSESSED profile may not state a settlement cycle, a " ++
      "close-out deadline or a processing-date rule; you cannot " ++
      "record a rule you have not read"))
  if fields.closeOutRegime = .mandatoryDeadline ∧ fields.closeOutDeadlineDays = none then
    throw (.valueError ("MANDATORY_DEADLINE requires close_out_deadline_days; asserting " ++
      "a deadline without stating it is not a rule anybody can meet"))
  if fields.closeOutRegime ≠ .mandatoryDeadline ∧ fields.closeOutDeadlineDays.isSome then
    throw (.valueError
      "close_out_deadline_days is meaningful only under MANDATORY_DEADLINE")
  let messageDetermined := fields.processingDateRule = .sessionClosureMessage
  if messageDetermined ∧ !stated fields.sessionClosureMessage then
    throw (.valueError ("SESSION_CLOSURE_MESSAGE requires the message to be named; an " ++
      "operator reconciling a rolled processing date needs the " ++
      "market's own term for it, not a flag"))
  if stated fields.sessionClosureMessage ∧ ¬messageDetermined then
    throw (.valueError
      "session_closure_message is meaningful only under SESSION_CLOSURE_MESSAGE")

/-- One market's settlement characteristics, consistent with what has been read of it. -/
structure MarketProfile extends MarketProfileFields where
  valid : MarketProfile.validate toMarketProfileFields = .ok () := by decide

/-- Business-day offset by which an open fail must be closed out, where the market has one.
A profile with a deadline always states its days. -/
def closeOutDeadline (profile : MarketProfile) (settlementDateOffsetDays : ℤ) : Option ℤ :=
  if profile.closeOutRegime = .mandatoryDeadline then
    profile.closeOutDeadlineDays.map (settlementDateOffsetDays + ·)
  else none

/-! ## Positions -/

/-- One member's net obligation in one security: a receive is positive, a deliver negative. -/
structure NetPosition where
  securityId : String
  quantity : Decimal
  settlementDateOffsetDays : ℤ
  marketId : String
  constituentTradeCount : ℕ := 0
  assignedProcessingDateOffsetDays : Option ℤ := none
  deriving DecidableEq

/-- An open fail carried forward. -/
structure FailPosition where
  securityId : String
  quantity : Decimal
  cash : Decimal
  settlementDate : Date
  asOfDate : Date
  agedBusinessDays : ℕ
  closeOutDeadlineOffsetDays : Option ℤ
  restatedByCorporateAction : Bool := false
  deriving DecidableEq

inductive CNSDisposition
  | settledInFull
  | partialAllocation
  | failedToDeliver
  | failedToReceive
  | flat
  | notNovated
  | indeterminate
  deriving DecidableEq, Repr

def CNSDisposition.value : CNSDisposition → String
  | settledInFull => "settled_in_full"
  | partialAllocation => "partial_allocation"
  | failedToDeliver => "failed_to_deliver"
  | failedToReceive => "failed_to_receive"
  | flat => "flat"
  | notNovated => "not_novated"
  | indeterminate => "indeterminate"

inductive SecuritiesBreakCode
  | failToDeliver
  | failToReceive
  | partialWithUnexplainedAllocation
  | closeOutDeadlineUnreadable
  | closeOutDeadlinePassed
  | eligibleSettledDivergence
  | quantityNotRestated
  | processingDateNotEstablished
  | allocationAgainstFlatPosition
  | outcomeNotReported
  | marketProfileMismatch
  | allocationNotFinite
  | allocationWrongSign
  | allocationExceedsPosition
  deriving DecidableEq, Repr

def SecuritiesBreakCode.value : SecuritiesBreakCode → String
  | failToDeliver => "fail_to_deliver"
  | failToReceive => "fail_to_receive"
  | partialWithUnexplainedAllocation => "partial_with_unexplained_allocation"
  | closeOutDeadlineUnreadable => "close_out_deadline_unreadable"
  | closeOutDeadlinePassed => "close_out_deadline_passed"
  | eligibleSettledDivergence => "eligible_settled_divergence"
  | quantityNotRestated => "quantity_not_restated"
  | processingDateNotEstablished => "processing_date_not_established"
  | allocationAgainstFlatPosition => "allocation_against_flat_position"
  | outcomeNotReported => "outcome_not_reported"
  | marketProfileMismatch => "market_profile_mismatch"
  | allocationNotFinite => "allocation_not_finite"
  | allocationWrongSign => "allocation_wrong_sign"
  | allocationExceedsPosition => "allocation_exceeds_position"

/-- One finding about a position. -/
@[ext]
structure SecuritiesBreak where
  code : SecuritiesBreakCode
  detail : String
  securityId : Option String := none
  detail_nonempty : detail ≠ "" := by simp

instance : DecidableEq SecuritiesBreak := fun _ _ => decidable_of_iff _ SecuritiesBreak.ext_iff.symm

/-- The outcome for one net position, with the evidence behind it. -/
structure NetSettlementResult where
  disposition : CNSDisposition
  position : NetPosition
  allocatedQuantity : Decimal
  allocatedCash : Decimal
  residual : Option FailPosition
  breaks : List SecuritiesBreak := []
  rationale : String := ""
  deriving DecidableEq

namespace NetSettlementResult

/-- The venue reported a movement against a position that is flat. -/
def disputed (r : NetSettlementResult) : Bool :=
  r.breaks.any fun b => b.code = .allocationAgainstFlatPosition

/-- A full settlement or a flat position, and nothing is disputed. -/
def completed (r : NetSettlementResult) : Bool :=
  !r.disputed && (r.disposition = .settledInFull || r.disposition = .flat)

end NetSettlementResult

/-- A figure as a caller supplies it: a decimal, a truth value, or something else, of which
only the quoted form is ever used. -/
inductive Supplied
  | decimal (d : Decimal)
  | boolean (b : Bool)
  | other (quoted : String)
  deriving DecidableEq

def Supplied.quoted : Supplied → String
  | .decimal d => d.constructorText
  | .boolean b => if b then "True" else "False"
  | .other quoted => quoted

/-- The figure, where it is a finite decimal. -/
def Supplied.finite? : Supplied → Option FiniteDecimal
  | .decimal (.finite d) => some d
  | _ => none

/-! ## Netting -/

/-- The largest magnitude a trade or a net position may have. -/
def declaredBound : FiniteDecimal := ⟨false, 1, 30⟩

/-- The context the totals are kept in. -/
def nettingContext : DecimalContext := .withPrec 80

/-- Whether the magnitude is beyond the declared bound. Taking it rounds as every operation
of the ambient context does. -/
def exceedsBound (d : FiniteDecimal) : Outcome Bool := do
  let magnitude ← d.abs ambient
  .ok (declaredBound.lt magnitude)

/-- The running totals and trade counts of the securities. -/
abbrev NettingTotals := Dict String FiniteDecimal × Dict String ℕ

/-- One trade added to the totals. -/
def netTrade (totals : NettingTotals) (trade : String × Supplied) : Outcome NettingTotals :=
  match trade.2 with
  | .boolean _ => .error (.valueError "QUANTITY_BOOLEAN_REFUSED")
  | quantity =>
    match quantity.finite? with
    | none => .error (.valueError "QUANTITY_NOT_FINITE")
    | some quantity => do
      if ← exceedsBound quantity then throw (.valueError "QUANTITY_EXCEEDS_DECLARED_CONTEXT")
      let total ← (totals.1.getD trade.1 0).add nettingContext quantity
      if ← exceedsBound total then
        throw (.valueError "NET_POSITION_EXCEEDS_DECLARED_CONTEXT")
      .ok (totals.1.set trade.1 total, totals.2.set trade.1 (totals.2.getD trade.1 0 + 1))

/-- The positions of the totals, in the order of the securities. -/
def positionsOf (marketId : String) (settlementDateOffsetDays : ℤ)
    (assignedProcessingDateOffsetDays : Option ℤ) (totals : NettingTotals) : List NetPosition :=
  (totals.1.keys.insertionSort (· ≤ ·)).map fun securityId =>
    { securityId
      quantity := .finite (totals.1.getD securityId 0)
      settlementDateOffsetDays
      marketId
      constituentTradeCount := totals.2.getD securityId 0
      assignedProcessingDateOffsetDays }

/-- Net trades of signed quantities into positions. A trade that was not novated has no net
position. -/
def netPositions (trades : List (String × Supplied)) (marketId : String)
    (settlementDateOffsetDays : ℤ) (novated : Bool := true)
    (assignedProcessingDateOffsetDays : Option ℤ := none) : Outcome (List NetPosition) :=
  if !novated then .ok []
  else do
    let totals ← Outcome.foldSteps netTrade (.empty, .empty) trades
    .ok (positionsOf marketId settlementDateOffsetDays assignedProcessingDateOffsetDays totals)

/-! ## Settlement -/

/-- What a settlement is judged from: the position and its market, what was owed and what
was reported as moved, and the dates. -/
structure SettlementInput where
  position : NetPosition
  profile : MarketProfile
  allocatedQuantity : Option Supplied := none
  signedCash : Decimal
  allocatedCash : Option Supplied
  settlementDate : Date
  asOfDate : Date
  calendar : MarketCalendar
  spansRecordDate : Bool := false
  corporateActionRatioApplied : Bool := false
  quantityRestated : Bool := false

/-- A market that fixes its processing date by a message has reported none. -/
def processingDateBreaks (position : NetPosition) (profile : MarketProfile) :
    List SecuritiesBreak :=
  if profile.processingDateRule = .sessionClosureMessage ∧
      position.assignedProcessingDateOffsetDays = none then
    [{ code := .processingDateNotEstablished
       detail := position.securityId ++ (": market " ++ (profile.marketId ++
         " fixes its processing date by " ++
         ((profile.sessionClosureMessage.filter (· ≠ "")).getD "a session-closure message" ++
         " and has reported none for this position. The " ++
         toString position.settlementDateOffsetDays ++
         "-day settlement offset carried here was derived from a timestamp, which on this " ++
         "market does not establish a business date")))
       securityId := some position.securityId }]
  else []

/-- A refused allocation: nothing is recorded as moved. -/
def refuseAllocation (position : NetPosition) (breaks : List SecuritiesBreak)
    (code : SecuritiesBreakCode) (detail : String) (h : detail ≠ "") : NetSettlementResult where
  disposition := .indeterminate
  position
  allocatedQuantity := 0
  allocatedCash := 0
  residual := none
  breaks := breaks ++ [⟨code, detail, some position.securityId, h⟩]
  rationale := detail

/-- The first of the reported figures that is no finite decimal, with its name. -/
def notFinite (i : SettlementInput) : Option (String × Supplied) :=
  [("allocated_quantity", i.allocatedQuantity), ("allocated_cash", i.allocatedCash)].findSome?
    fun figure => (figure.2.filter fun value => value.finite?.isNone).map (Prod.mk figure.1)

/-- The allocated quantity opposes the position. -/
def opposes (position : NetPosition) (allocated : FiniteDecimal) : Outcome Bool := do
  let receives ← Decimal.lt 0 position.quantity
  let delivers ← Decimal.lt position.quantity 0
  .ok ((receives && allocated.lt 0) || (delivers && (0 : FiniteDecimal).lt allocated))

/-- The allocated quantity is larger than the position. Magnitudes round as every operation
of the ambient context does. -/
def exceeds (position : NetPosition) (allocated : FiniteDecimal) : Outcome Bool := do
  if ← Decimal.eq position.quantity 0 then .ok false
  else do
    let moved ← allocated.abs ambient
    let owed ← Decimal.abs ambient position.quantity
    Decimal.lt owed (.finite moved)

/-- No outcome was reported. -/
def notReported (position : NetPosition) (breaks : List SecuritiesBreak) :
    NetSettlementResult where
  disposition := .indeterminate
  position
  allocatedQuantity := 0
  allocatedCash := 0
  residual := none
  breaks := breaks ++
    [{ code := .outcomeNotReported
       detail := "no settlement outcome was reported for this net position; " ++
         "the framework does not infer settlement from silence"
       securityId := some position.securityId }]
  rationale := "No reported outcome. INDETERMINATE, never settled."

/-- Nothing is owed. A movement reported against it is recorded and not discarded. -/
def flatPosition (position : NetPosition) (breaks : List SecuritiesBreak)
    (allocated cash : FiniteDecimal) : NetSettlementResult where
  disposition := .flat
  position
  allocatedQuantity := .finite allocated
  allocatedCash := .finite cash
  residual := none
  breaks := breaks ++
    if allocated.isZero then []
    else
      [{ code := .allocationAgainstFlatPosition
         detail := "the venue reported an allocation of " ++ allocated.text ++ " in " ++
           position.securityId ++ ", and this member's net position in it is zero across " ++
           toString position.constituentTradeCount ++ " trades. One of the two records is " ++
           "wrong and this framework cannot say which; it will not discard the venue's " ++
           "figure to make the day read clean"
         securityId := some position.securityId }]
  rationale := "Net position in " ++ position.securityId ++ " is zero across " ++
    toString position.constituentTradeCount ++ " trades. Netted out." ++
    (if allocated.isZero then "" else
      " The venue nonetheless reported an allocation of " ++ allocated.text ++
        "; recorded as a break rather than discarded.")

/-- The fail is past, or cannot be held against, the market's close-out deadline. -/
def closeOutBreaks (position : NetPosition) (profile : MarketProfile) (residual : FailPosition) :
    List SecuritiesBreak :=
  if profile.closeOutRegime = .notAssessed then
    [{ code := .closeOutDeadlineUnreadable
       detail := "open fail in " ++ position.securityId ++ " on market " ++ profile.marketId ++
         ", whose close-out rules have not been read. Whether a deadline is running is " ++
         "unknown rather than absent; closed by populating the registry"
       securityId := some position.securityId }]
  else if profile.closeOutDeadlineDays.any fun days => days < (residual.agedBusinessDays : ℤ) then
    [{ code := .closeOutDeadlinePassed
       detail := "open fail in " ++ position.securityId ++ " is past the market's " ++
         "close-out deadline at day " ++
         (residual.closeOutDeadlineOffsetDays.map toString).getD "None"
       securityId := some position.securityId }]
  else []

/-- Findings that attach to an open fail. -/
def openFailBreaks (i : SettlementInput) (residual : FailPosition) :
    Outcome (List SecuritiesBreak) := do
  let position := i.position
  let diverges ←
    if i.spansRecordDate then do
      let receives ← Decimal.lt 0 position.quantity
      let side := if receives then "pending receipt (fail long)"
        else "pending delivery (fail short)"
      .ok
        [{ code := .eligibleSettledDivergence
           detail := position.securityId ++ (" was open across a corporate action record " ++
             ("date, so the eligible balance and the settled balance diverge by " ++
             (residual.quantity.text ++ " on the " ++ side ++
             " side. The entitlement treatment is not computed here - published depository " ++
             "guidance carries this condition and does not state the outcome")))
           securityId := some position.securityId }]
    else .ok []
  .ok (closeOutBreaks position i.profile residual ++ diverges ++
    if i.corporateActionRatioApplied ∧ ¬i.quantityRestated then
      [{ code := .quantityNotRestated
         detail := "a ratio-changing corporate action applied to " ++ position.securityId ++
           " and the open quantity was not restated; the fail is denominated in shares " ++
           "that no longer exist in that form"
         securityId := some position.securityId }]
    else [])

/-- The whole position moved. -/
def settledInFull (position : NetPosition) (breaks : List SecuritiesBreak)
    (allocated cash : FiniteDecimal) : NetSettlementResult where
  disposition := .settledInFull
  position
  allocatedQuantity := .finite allocated
  allocatedCash := .finite cash
  residual := none
  breaks
  rationale := "Net position in " ++ position.securityId ++ " settled in full on a " ++
    FinalityClass.deferredNet.value ++ " basis."

/-- Some of the position moved, and the residual stays owed. -/
def partialAllocation (position : NetPosition) (profile : MarketProfile)
    (breaks : List SecuritiesBreak) (allocated cash : FiniteDecimal) (residual : FailPosition) :
    NetSettlementResult where
  disposition := .partialAllocation
  position
  allocatedQuantity := .finite allocated
  allocatedCash := .finite cash
  residual := some residual
  breaks := breaks ++
    if profile.allocationRulePublished then []
    else
      [{ code := .partialWithUnexplainedAllocation
         detail := position.securityId ++ (" allocated " ++ (allocated.text ++ " of " ++
           (position.quantity.text ++ " on a market that does not publish its allocation " ++
           "rule. The member cannot explain why it received what it received, and this " ++
           "framework will not manufacture an explanation")))
         securityId := some position.securityId }]
  rationale := "Partial allocation: " ++ allocated.text ++ " of " ++ position.quantity.text ++
    " in " ++ position.securityId ++ ". The residual is a live obligation, not a rounding " ++
    "remainder."

/-- Nothing moved, and the whole position stays owed. -/
def failed (position : NetPosition) (breaks : List SecuritiesBreak) (receives : Bool)
    (residual : FailPosition) : NetSettlementResult where
  disposition := if receives then .failedToReceive else .failedToDeliver
  position
  allocatedQuantity := 0
  allocatedCash := 0
  residual := some residual
  breaks := breaks ++
    [{ code := if receives then .failToReceive else .failToDeliver
       detail := position.securityId ++ (": nothing allocated against a net position of " ++
         position.quantity.text)
       securityId := some position.securityId }]
  rationale := "Nothing allocated. " ++
    (if receives then CNSDisposition.failedToReceive else .failedToDeliver).value ++
    " on the net position, which is the only unit that settles here - no underlying trade " ++
    "failed, because no underlying trade was the settlement object."

/-- The member is owed what did not move: securities, or cash alone. -/
def owedToMember (i : SettlementInput) : Outcome Bool := do
  if ← Decimal.lt 0 i.position.quantity then .ok true
  else if ← Decimal.eq i.position.quantity 0 then Decimal.lt 0 i.signedCash
  else .ok false

/-- A position that is not flat, against the figures reported for it. -/
def settleOpen (i : SettlementInput) (breaks : List SecuritiesBreak)
    (allocated cash : FiniteDecimal) : Outcome NetSettlementResult := do
  let outstanding ← Decimal.sub ambient i.position.quantity (.finite allocated)
  let outstandingCash ← Decimal.sub ambient i.signedCash (.finite cash)
  let quantitySettled ← Decimal.eq outstanding 0
  let cashSettled ← Decimal.eq outstandingCash 0
  if quantitySettled && cashSettled then .ok (settledInFull i.position breaks allocated cash)
  else do
    let aged ← i.calendar.businessDaysAfter i.settlementDate i.asOfDate
    let residual : FailPosition :=
      { securityId := i.position.securityId
        quantity := outstanding
        cash := outstandingCash
        settlementDate := i.settlementDate
        asOfDate := i.asOfDate
        agedBusinessDays := aged
        closeOutDeadlineOffsetDays :=
          closeOutDeadline i.profile i.position.settlementDateOffsetDays
        restatedByCorporateAction := i.quantityRestated }
    let found ← openFailBreaks i residual
    if allocated.isZero && cash.isZero then do
      let receives ← owedToMember i
      .ok (failed i.position (breaks ++ found) receives residual)
    else .ok (partialAllocation i.position i.profile (breaks ++ found) allocated cash residual)

/-- Whether nothing is owed at all. -/
def isFlat (i : SettlementInput) : Outcome Bool := do
  if ← Decimal.eq i.position.quantity 0 then Decimal.eq i.signedCash 0 else .ok false

/-- A position against figures that are finite and were not refused. -/
def settleReported (i : SettlementInput) (breaks : List SecuritiesBreak)
    (allocated cash : Option FiniteDecimal) : Outcome NetSettlementResult :=
  match allocated, cash with
  | some allocated, some cash => do
    if ← isFlat i then .ok (flatPosition i.position breaks allocated cash)
    else settleOpen i breaks allocated cash
  | _, _ => .ok (notReported i.position breaks)

/-- Classify the settlement outcome for one net position. -/
def settleNetPosition (i : SettlementInput) : Outcome NetSettlementResult :=
  let breaks := processingDateBreaks i.position i.profile
  if i.position.marketId ≠ i.profile.marketId then
    .ok (refuseAllocation i.position breaks .marketProfileMismatch
      ("MARKET_PROFILE_MISMATCH: position " ++ i.position.marketId ++
        " cannot settle under profile " ++ i.profile.marketId) (by simp))
  else
    match notFinite i with
    | some (name, value) =>
      .ok (refuseAllocation i.position breaks .allocationNotFinite
        ("ALLOCATION_NOT_FINITE: " ++ name ++ "=" ++ value.quoted) (by simp))
    | none =>
      let cash := i.allocatedCash.bind Supplied.finite?
      match i.allocatedQuantity.bind Supplied.finite? with
      | none => settleReported i breaks none cash
      | some allocated => do
        if ← opposes i.position allocated then
          .ok (refuseAllocation i.position breaks .allocationWrongSign
            "ALLOCATION_WRONG_SIGN: allocation opposes the net position" (by decide))
        else if ← exceeds i.position allocated then
          .ok (refuseAllocation i.position breaks .allocationExceedsPosition
            "ALLOCATION_EXCEEDS_POSITION: allocation is larger than the net position"
            (by decide))
        else settleReported i breaks (some allocated) cash

end Atreides
