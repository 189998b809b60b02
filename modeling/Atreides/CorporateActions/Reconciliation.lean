import Atreides.CorporateActions.Entitlement
import Atreides.CorporateActions.Movement
import Atreides.Foundation.Timestamp

/-!
# Reconciling entitlements against confirmations

What each account is entitled to under one event, compared with what the depository confirmed
it moved. A break is classified only where its cause can be read from the evidence.

## Main definitions

* `AccountReconciliation`, `account` — one account, and any break
* `CorporateActionReconciliation`, `reconcile` — every account of one event
-/

namespace Atreides

namespace CorporateActions

open DecimalContext (ambient)

/-! ## Break codes -/

/-- Breaks the equities rail's vocabulary has no term for. -/
inductive CorporateActionBreakCode
  | missingConfirmation
  | unexpectedMovement
  | wrongMovementType
  | currencyMismatch
  | securityMismatch
  | debitNotCredit
  | confirmedAgainstOtherBalance
  | electiveEvent
  | entitlementNotComputed
  | unclassifiable
  deriving DecidableEq, Repr

def CorporateActionBreakCode.value : CorporateActionBreakCode → String
  | missingConfirmation => "missing_confirmation"
  | unexpectedMovement => "unexpected_movement"
  | wrongMovementType => "wrong_movement_type"
  | currencyMismatch => "currency_mismatch"
  | securityMismatch => "security_mismatch"
  | debitNotCredit => "debit_not_credit"
  | confirmedAgainstOtherBalance => "confirmed_against_other_balance"
  | electiveEvent => "elective_event"
  | entitlementNotComputed => "entitlement_not_computed"
  | unclassifiable => "unclassifiable"

/-- Codes that leave a result undecided. -/
def indeterminateCodes : List String :=
  [CorporateActionBreakCode.electiveEvent.value,
    CorporateActionBreakCode.entitlementNotComputed.value,
    CorporateActionBreakCode.unclassifiable.value]

/-! ## Results -/

/-- A matched comparison has no breaks, and an unmatched one names them. -/
def matchedMeansNoBreaks (matched : Bool) (breakCodes : List String) (message : String) :
    Outcome Unit :=
  Outcome.refuseIf (matched = !breakCodes.isEmpty) (.valueError message)

theorem matchedMeansNoBreaks_isEmpty (codes : List String) (message : String) :
    matchedMeansNoBreaks codes.isEmpty codes message = .ok () := by
  simp [matchedMeansNoBreaks]

/-- One account: what it was entitled to, what was confirmed, and any break. -/
@[ext]
structure AccountReconciliation where
  accountId : String
  expected : Option FiniteDecimal
  confirmed : Option FiniteDecimal
  difference : Option FiniteDecimal
  confirmations : ℕ
  matched : Bool
  breakCodes : List String := []
  matched_iff : matchedMeansNoBreaks matched breakCodes
    "a matched account has no breaks; an unmatched one names them" = .ok ()

instance : DecidableEq AccountReconciliation :=
  fun _ _ => decidable_of_iff _ AccountReconciliation.ext_iff.symm

/-- Every account's reconciliation for one event, and the disposition. -/
@[ext]
structure CorporateActionReconciliation where
  eventId : String
  disposition : Disposition
  matched : Bool
  breakCodes : List String
  unavailable : List String := []
  accounts : List AccountReconciliation := []
  reconciledAt : Timestamp
  matched_iff : matchedMeansNoBreaks matched breakCodes
    "a matched reconciliation has no breaks; an unmatched one names them" = .ok ()

instance : DecidableEq CorporateActionReconciliation :=
  fun _ _ => decidable_of_iff _ CorporateActionReconciliation.ext_iff.symm

/-! ## Conditions of one report -/

/-- A balance that is stated and not zero. -/
def openBalance (balance : Option FiniteDecimal) : Bool := balance.any fun b => !b.isZero

/-- Both balances are stated, and they are different numbers. -/
def balancesDiffer : Option FiniteDecimal → Option FiniteDecimal → Bool
  | some a, some b => !a.eq b
  | _, _ => false

/-- What the depository's own balances report. -/
def depositoryConditions (report : MovementReport) : List String :=
  let balances := report.balances
  (if openBalance balances.pendingDeliveryBalance then
    [SecuritiesBreakCode.failToDeliver.value] else []) ++
  (if openBalance balances.pendingReceiptBalance then
    [SecuritiesBreakCode.failToReceive.value] else []) ++
  (if balancesDiffer balances.eligibleBalance balances.settlementPositionBalance then
    [SecuritiesBreakCode.eligibleSettledDivergence.value] else [])

/-- A movement that is not of the kind, currency or security the entitlement is in. -/
def wrongMovement (event : CorporateActionEvent) (entitlement : EntitlementResult) :
    Movement → List String
  | .cash _ currency _ =>
    if entitlement.unit = some .cash then
      if some currency ≠ entitlement.currency then
        [CorporateActionBreakCode.currencyMismatch.value] else []
    else [CorporateActionBreakCode.wrongMovementType.value]
  | .securities securityId _ _ =>
    if entitlement.unit = some .cash then [CorporateActionBreakCode.wrongMovementType.value]
    else if securityId ≠ event.securityId then
      [CorporateActionBreakCode.securityMismatch.value] else []

/-- What is wrong with the movement of a report. -/
def movementConditions (event : CorporateActionEvent) (entitlement : EntitlementResult)
    (report : MovementReport) : List String :=
  (if report.direction ≠ .credit then [CorporateActionBreakCode.debitNotCredit.value] else []) ++
    wrongMovement event entitlement report.movement

/-! ## One account -/

/-- Two balances that are both absent, or equal as numbers. -/
def sameBalance : Option FiniteDecimal → Option FiniteDecimal → Bool
  | none, none => true
  | some a, some b => a.eq b
  | _, _ => false

/-- The balance all reports were confirmed against, where it is one. -/
def commonBalance : List MovementReport → Option FiniteDecimal
  | [] => none
  | report :: rest =>
    if rest.all fun r => sameBalance report.balances.confirmedBalance r.balances.confirmedBalance
    then report.balances.confirmedBalance else none

/-- The account's quantities differ: the code that says why, where the evidence does. -/
def quantityCode (entitlement : EntitlementResult) (holder : HolderEntitlement)
    (confirmed : FiniteDecimal) (reports : List MovementReport) :
    Outcome CorporateActionBreakCode :=
  match entitlement.factor with
  | none => .error (.refused "AssertionError" "")
  | some factor =>
    match commonBalance reports with
    | none => .ok .unclassifiable
    | some other =>
      if !other.eq holder.eligibleBalance ∧ confirmed.value = factor * other.value then
        .ok .confirmedAgainstOtherBalance
      else .ok .unclassifiable

/-- The sum of what was confirmed, where anything was. -/
def confirmedTotal (reports : List MovementReport) : Outcome (Option FiniteDecimal) :=
  if reports = [] then .ok none
  else some <$> FiniteDecimal.sum ambient 0 (reports.map fun r => r.quantity.amount)

/-- The first entitlement of the account. -/
def holderOf (entitlement : EntitlementResult) (accountId : String) : Option HolderEntitlement :=
  entitlement.holders.find? fun h => h.accountId = accountId

/-- What was confirmed is not the number expected. -/
def amountsDiffer (confirmed expected : Option FiniteDecimal) : Bool := !sameBalance confirmed expected

/-- The codes of a holder whose entitlement is a number, with something confirmed. -/
def comparedCodes (event : CorporateActionEvent) (entitlement : EntitlementResult)
    (holder : HolderEntitlement) (confirmed : FiniteDecimal) (reports : List MovementReport) :
    Outcome (List String) := do
  let structural := sortedSet (reports.flatMap (movementConditions event entitlement))
  let codes := structural ++ sortedSet (reports.flatMap depositoryConditions)
  if structural = [] ∧ amountsDiffer (some confirmed) holder.quantity then
    let code ← quantityCode entitlement holder confirmed reports
    .ok (codes ++ [code.value])
  else .ok codes

/-- Every break of one account. -/
def accountCodes (event : CorporateActionEvent) (entitlement : EntitlementResult)
    (holder : Option HolderEntitlement) (confirmed : Option FiniteDecimal)
    (reports : List MovementReport) : Outcome (List String) :=
  match holder with
  | none => .ok [CorporateActionBreakCode.unexpectedMovement.value]
  | some holder =>
    match holder.quantity, confirmed with
    | none, _ => .ok [CorporateActionBreakCode.entitlementNotComputed.value]
    | some expected, none =>
      .ok (if expected.isZero then [] else [CorporateActionBreakCode.missingConfirmation.value])
    | some _, some confirmed => comparedCodes event entitlement holder confirmed reports

/-- Confirmed less expected, where both are stated. -/
def differenceOf : Option FiniteDecimal → Option FiniteDecimal → Outcome (Option FiniteDecimal)
  | some confirmed, some expected => some <$> confirmed.sub ambient expected
  | _, _ => .ok none

/-- One account's reconciliation. -/
def account (accountId : String) (event : CorporateActionEvent) (entitlement : EntitlementResult)
    (reports : List MovementReport) : Outcome AccountReconciliation := do
  let holder := holderOf entitlement accountId
  let confirmed ← confirmedTotal reports
  let expected := holder.bind (·.quantity)
  let codes ← accountCodes event entitlement holder confirmed reports
  let difference ← differenceOf confirmed expected
  .ok { accountId, expected, confirmed, difference, confirmations := reports.length
        matched := codes.isEmpty, breakCodes := codes
        matched_iff := matchedMeansNoBreaks_isEmpty codes _ }

/-! ## One event -/

/-- A confirmation is of this event and has moved. -/
def confirmationFits (event : CorporateActionEvent) (report : MovementReport) : Outcome Unit := do
  Outcome.refuseIf (report.eventId ≠ event.eventId) (.valueError
    ("a confirmation for account " ++ report.accountId ++ " is for another event"))
  Outcome.refuseIf (report.stage ≠ .confirmation)
    (.valueError "only movement confirmations are reconciled, not advices")

/-- Why the event as a whole cannot be reconciled: each code with its text. -/
def stoppedBy (event : CorporateActionEvent) (entitlement : EntitlementResult) :
    List (CorporateActionBreakCode × String) :=
  (if event.participation.elective then
    [(.electiveEvent, "the event is elective, and election outcomes are not reconciled here")]
    else []) ++
  (if entitlement.factor = none then
    [(.entitlementNotComputed, "the entitlement was not computed for this event")] else [])

/-- The result where the event as a whole cannot be reconciled. -/
def notReconciled (event : CorporateActionEvent)
    (stopped : List (CorporateActionBreakCode × String)) (h : stopped ≠ [])
    (reconciledAt : Timestamp) : CorporateActionReconciliation where
  eventId := event.eventId
  disposition := CustomerProtection.decide (stopped.map Prod.snd) [] []
  matched := false
  breakCodes := (stopped.map fun s => s.1.value).insertionSort (· ≤ ·)
  unavailable := stopped.map Prod.snd
  reconciledAt
  matched_iff := by
    have hperm := List.perm_insertionSort (· ≤ ·) (stopped.map fun s => s.1.value)
    have hne : (stopped.map fun s => s.1.value).insertionSort (· ≤ ·) ≠ [] := by
      intro hnil
      rw [hnil, List.nil_perm, List.map_eq_nil_iff] at hperm
      exact h hperm
    simp [matchedMeansNoBreaks, hne]

/-- The accounts entitled to something or confirmed something, in order. -/
def accountsOf (entitlement : EntitlementResult) (confirmations : List MovementReport) :
    List String :=
  sortedSet (entitlement.holders.map (·.accountId) ++ confirmations.map (·.accountId))

/-- The result of every account. -/
def reconciled (event : CorporateActionEvent) (accounts : List AccountReconciliation)
    (reconciledAt : Timestamp) : CorporateActionReconciliation :=
  let codes := sortedSet (accounts.flatMap (·.breakCodes))
  { eventId := event.eventId
    disposition := CustomerProtection.decide (codes.filter (· ∈ indeterminateCodes)) []
      (codes.filter (· ∉ indeterminateCodes))
    matched := codes.isEmpty
    breakCodes := codes
    accounts
    reconciledAt
    matched_iff := matchedMeansNoBreaks_isEmpty codes _ }

/-- Reconcile an entitlement against confirmations. -/
def reconcile (event : CorporateActionEvent) (entitlement : EntitlementResult)
    (confirmations : List MovementReport) (reconciledAt : Timestamp) :
    Outcome CorporateActionReconciliation := do
  Outcome.refuseIf (entitlement.eventId ≠ event.eventId)
    (.valueError "the entitlement is for another event")
  Outcome.foldSteps (fun _ report => confirmationFits event report) () confirmations
  if h : stoppedBy event entitlement ≠ [] then
    .ok (notReconciled event (stoppedBy event entitlement) h reconciledAt)
  else do
    let accounts ← Outcome.collect (fun accountId => account accountId event entitlement
      (confirmations.filter fun r => r.accountId = accountId))
      (accountsOf entitlement confirmations)
    .ok (reconciled event accounts reconciledAt)

end CorporateActions

end Atreides
