import Atreides.CorporateActions.Events

/-!
# Movement reports

What a depository says it will move, or has moved, for one account and one option: the
evidence an entitlement is reconciled against. A report holds what the message says and
asserts nothing about whether that is right.

## Main definitions

* `MovementBalances`, `Movement` — the balances and the movement a report states
* `MovementReport` — one movement advice or confirmation
-/

namespace Atreides

namespace CorporateActions

open CustomerProtection (NonNegativeMoney)

/-! ## Shapes of identifiers -/

def isCapital (c : Char) : Bool := 'A' ≤ c && c ≤ 'Z'

def isAsciiDigit (c : Char) : Bool := '0' ≤ c && c ≤ '9'

/-- Two letters, nine letters or digits, and a check digit. -/
def isIsin (text : String) : Bool :=
  let chars := text.toList
  chars.length = 12 && (chars.take 2).all isCapital &&
    ((chars.drop 2).take 9).all (fun c => isCapital c || isAsciiDigit c) &&
    (chars.drop 11).all isAsciiDigit

/-- Three digits. -/
def isOptionNumber (text : String) : Bool := text.length = 3 && text.toList.all isAsciiDigit

def isSchemeStart (c : Char) : Bool := 'a' ≤ c && c ≤ 'z'

def isSchemeChar (c : Char) : Bool := isSchemeStart c || isAsciiDigit c || c ∈ ['+', '.', '-']

/-- A scheme, and after it at least one character and no white space. -/
def isRecordUri (text : String) : Bool :=
  let (scheme, rest) := text.toList.span (· ≠ ':')
  scheme.head?.any isSchemeStart && scheme.all isSchemeChar &&
    match rest with
    | ':' :: '/' :: '/' :: path => !path.isEmpty && path.all fun c => !isWhiteSpace c
    | _ => false

/-! ## Balances and movements -/

/-- Balances as the depository reports them: negative is short. -/
structure MovementBalances where
  eligibleBalance : Option FiniteDecimal := none
  confirmedBalance : Option FiniteDecimal := none
  pendingDeliveryBalance : Option FiniteDecimal := none
  pendingReceiptBalance : Option FiniteDecimal := none
  settlementPositionBalance : Option FiniteDecimal := none
  deriving DecidableEq

/-- A cash amount, or a quantity of securities, moved or to be moved. -/
inductive Movement
  | cash (amount : NonNegativeMoney) (currency : String)
      (currency_code : isCurrencyCode currency = true := by decide)
  | securities (securityId : String) (quantity : NonNegativeMoney)
      (security_isin : isIsin securityId = true := by decide)
  deriving DecidableEq

/-- The authenticated authority record under which a movement was produced. -/
@[ext]
structure MovementAuthorityReference where
  governedEventId : String
  authorizingActor : ActorRef
  authorityRecordUri : String
  provenance : Provenance
  event_named : required governedEventId = .ok () := by decide
  uri : isRecordUri authorityRecordUri = true := by decide
  authenticated : authorizingActor.authenticated = true := by decide

instance : DecidableEq MovementAuthorityReference :=
  fun _ _ => decidable_of_iff _ MovementAuthorityReference.ext_iff.symm

inductive MovementStage
  | preliminaryAdvice
  | confirmation
  deriving DecidableEq, Repr

inductive Direction
  | credit
  | debit
  deriving DecidableEq, Repr

/-! ## Reports -/

/-- What a movement message states. -/
structure MovementReportFields where
  stage : MovementStage
  eventId : String
  eventType : EventType
  participation : Option Participation := none
  securityId : String
  accountId : String
  optionId : String
  optionType : OptionType
  defaultOption : Option Bool := none
  balances : MovementBalances
  movement : Movement
  direction : Direction
  movementDate : Date
  provenance : Provenance
  source : SourceIdentity
  authority : MovementAuthorityReference
  deriving DecidableEq

namespace MovementReportFields

variable (report : MovementReportFields)

def fitsItsStage : Outcome Unit := do
  let advice : Bool := report.stage = .preliminaryAdvice
  Outcome.refuseIf (report.authority.governedEventId ≠ report.eventId)
    (.valueError "movement authority governs another event")
  Outcome.refuseIf (advice ∧ (report.participation = none ∨ report.defaultOption = none))
    (.valueError "a preliminary advice states participation and the default option")
  Outcome.refuseIf (!advice ∧ (report.participation ≠ none ∨ report.defaultOption ≠ none))
    (.valueError "a confirmation does not state participation or the default option")
  Outcome.refuseIf (!advice ∧ report.balances.confirmedBalance = none)
    (.valueError "a confirmation states the confirmed balance")
  Outcome.refuseIf (advice ∧ report.balances.confirmedBalance ≠ none)
    (.valueError "a preliminary advice has no confirmed balance")

def validate : Outcome Unit := do
  required report.eventId
  Outcome.refuseIf (!isIsin report.securityId) (.valueError "string_pattern_mismatch")
  required report.accountId
  Outcome.refuseIf (!isOptionNumber report.optionId) (.valueError "string_pattern_mismatch")
  Outcome.refuseIf (!report.provenance.isFact) (.valueError
    ("a movement report is a reported fact: FACT_EXTERNAL or FACT_SYNTHETIC, not " ++
      report.provenance.value))
  report.fitsItsStage

end MovementReportFields

/-- One movement advice or confirmation, for one account and one option. -/
@[ext]
structure MovementReport extends MovementReportFields where
  valid : toMovementReportFields.validate = .ok () := by decide

instance : DecidableEq MovementReport :=
  fun _ _ => decidable_of_iff _ MovementReport.ext_iff.symm

/-- The amount or quantity moved, whichever the movement carries. -/
def MovementReport.quantity (report : MovementReport) : NonNegativeMoney :=
  match report.movement with
  | .cash amount _ _ => amount
  | .securities _ quantity _ => quantity

end CorporateActions

end Atreides
