import Mathlib.Data.List.Nodup
import Atreides.Books.Ledger
import Atreides.CustomerProtection.Common
import Atreides.Foundation.Date
import Atreides.Foundation.Decimal.Exact

/-!
# Corporate action events

What was announced, when, and on whose word. An event carries the dates and terms the
announcement states and nothing inferred: what is not stated is absent.

## Main definitions

* `EventDates`, `EventTerms`, `ElectionOption` — what an announcement states
* `CorporateActionEvent` — one announced corporate action on one security
* `CorporateActionEvent.same` — equality of events, with figures compared as numbers
-/

namespace Atreides

namespace CorporateActions

open CustomerProtection (NonNegativeMoney)

/-! ## Classes of events -/

/-- The classes of corporate actions. -/
inductive EventType
  | cashDividend
  | stockDividend
  | split
  | reverseSplit
  | merger
  | tenderOffer
  | rights
  | redemptionLottery
  | interestPayment
  | finalMaturity
  | partialRedemption
  | fullCall
  | capitalGainsDistribution
  | capitalDistribution
  | reinvestment
  deriving DecidableEq, Repr

def EventType.value : EventType → String
  | cashDividend => "cash_dividend"
  | stockDividend => "stock_dividend"
  | split => "split"
  | reverseSplit => "reverse_split"
  | merger => "merger"
  | tenderOffer => "tender_offer"
  | rights => "rights"
  | redemptionLottery => "redemption_lottery"
  | interestPayment => "interest_payment"
  | finalMaturity => "final_maturity"
  | partialRedemption => "partial_redemption"
  | fullCall => "full_call"
  | capitalGainsDistribution => "capital_gains_distribution"
  | capitalDistribution => "capital_distribution"
  | reinvestment => "reinvestment"

/-- Whether the holder acts, and whether acting is optional. -/
inductive Participation
  | mandatory
  | voluntary
  | mandatoryWithChoice
  deriving DecidableEq, Repr

namespace Participation

def value : Participation → String
  | mandatory => "mandatory"
  | voluntary => "voluntary"
  | mandatoryWithChoice => "mandatory_with_choice"

def elective (participation : Participation) : Bool := participation ≠ mandatory

end Participation

/-- A text that may not be empty. -/
def required (text : String) : Outcome Unit :=
  Outcome.refuseIf (text = "") (.valueError "string_too_short")

/-- Which authority or adapter reported a fact, and in which message or document. -/
@[ext]
structure SourceIdentity where
  sourceId : String
  reference : Option String := none
  named : required sourceId = .ok () := by decide

instance : DecidableEq SourceIdentity := fun _ _ => decidable_of_iff _ SourceIdentity.ext_iff.symm

/-! ## Dates -/

/-- The dates an announcement states. -/
structure EventDatesFields where
  announcementDate : Date
  recordDate : Option Date := none
  electionDeadline : Option Date := none
  protectDeadline : Option Date := none
  payableDate : Option Date := none
  deriving DecidableEq

/-- A stated date does not come before the announcement. -/
def notBeforeAnnouncement (dates : EventDatesFields) (name : String) (value : Option Date) :
    Outcome Unit :=
  match value with
  | some value =>
    Outcome.refuseIf (value < dates.announcementDate)
      (.valueError (name ++ " " ++ value.isoformat ++ " precedes the announcement date"))
  | none => .ok ()

/-- Both dates are stated, and the first comes before the second. -/
def statedBefore : Option Date → Option Date → Bool
  | some a, some b => a < b
  | _, _ => false

def EventDatesFields.ordered (dates : EventDatesFields) : Outcome Unit := do
  notBeforeAnnouncement dates "record_date" dates.recordDate
  notBeforeAnnouncement dates "election_deadline" dates.electionDeadline
  notBeforeAnnouncement dates "protect_deadline" dates.protectDeadline
  notBeforeAnnouncement dates "payable_date" dates.payableDate
  Outcome.refuseIf (statedBefore dates.protectDeadline dates.electionDeadline)
    (.valueError "a protect deadline cannot precede the election deadline it covers")
  Outcome.refuseIf (statedBefore dates.payableDate dates.recordDate)
    (.valueError "a payable date cannot precede the record date")

/-- Dates in order. -/
@[ext]
structure EventDates extends EventDatesFields where
  in_order : toEventDatesFields.ordered = .ok () := by decide

instance : DecidableEq EventDates := fun _ _ => decidable_of_iff _ EventDates.ext_iff.symm

/-! ## Terms -/

/-- The terms an announcement states. -/
structure EventTermsFields where
  cashRatePerShare : Option NonNegativeMoney := none
  currency : Option String := none
  stockRatePerShare : Option NonNegativeMoney := none
  splitNew : Option ℤ := none
  splitOld : Option ℤ := none
  interestAmountPerFace : Option NonNegativeMoney := none
  redemptionPricePerFace : Option NonNegativeMoney := none
  reinvestmentPricePerShare : Option NonNegativeMoney := none
  deriving DecidableEq

/-- A side of a split, where it is stated, is positive. -/
def positiveSide (side : Option ℤ) : Outcome Unit :=
  Outcome.refuseIf (side.any (· ≤ 0)) (.valueError "greater_than")

/-- A cash term other than the cash rate is stated. -/
def EventTermsFields.otherCash (terms : EventTermsFields) : Bool :=
  terms.interestAmountPerFace.isSome || terms.redemptionPricePerFace.isSome ||
    terms.reinvestmentPricePerShare.isSome

def EventTermsFields.paired (terms : EventTermsFields) : Outcome Unit := do
  Outcome.refuseIf (!terms.currency.all isCurrencyCode) (.valueError "string_pattern_mismatch")
  positiveSide terms.splitNew
  positiveSide terms.splitOld
  Outcome.refuseIf (terms.splitNew.isNone ≠ terms.splitOld.isNone)
    (.valueError "a split ratio states both sides or neither")
  Outcome.refuseIf (terms.cashRatePerShare.isNone ≠ terms.currency.isNone ∧ !terms.otherCash)
    (.valueError "a cash rate is stated with its currency, and only then")
  Outcome.refuseIf (terms.currency.isNone ∧ terms.otherCash)
    (.valueError "a stated monetary term requires its currency")

/-- Terms that are stated with what they need. -/
@[ext]
structure EventTerms extends EventTermsFields where
  complete : toEventTermsFields.paired = .ok () := by decide

instance : DecidableEq EventTerms := fun _ _ => decidable_of_iff _ EventTerms.ext_iff.symm

/-- No terms are stated. -/
def EventTerms.unstated : EventTerms := {}

/-- Figures that are both absent, or equal as numbers. -/
def sameFigure : Option NonNegativeMoney → Option NonNegativeMoney → Bool
  | none, none => true
  | some a, some b => a.amount.eq b.amount
  | _, _ => false

/-- Equality of terms. Figures are compared as numbers: `0.1` and `0.10` are one rate. -/
def EventTerms.same (a b : EventTerms) : Bool :=
  sameFigure a.cashRatePerShare b.cashRatePerShare && a.currency = b.currency &&
    sameFigure a.stockRatePerShare b.stockRatePerShare &&
    a.splitNew = b.splitNew && a.splitOld = b.splitOld &&
    sameFigure a.interestAmountPerFace b.interestAmountPerFace &&
    sameFigure a.redemptionPricePerFace b.redemptionPricePerFace &&
    sameFigure a.reinvestmentPricePerShare b.reinvestmentPricePerShare

/-! ## Options -/

/-- What an option delivers. -/
inductive OptionType
  | cash
  | secu
  | case
  | noac
  | othr
  deriving DecidableEq, Repr

/-- One option an elective event offers, as the announcement numbers and describes it. -/
@[ext]
structure ElectionOption where
  optionId : String
  description : String
  optionType : Option OptionType := none
  option_named : required optionId = .ok () := by decide
  described : required description = .ok () := by decide

instance : DecidableEq ElectionOption := fun _ _ => decidable_of_iff _ ElectionOption.ext_iff.symm

/-! ## Events -/

/-- What an announcement says of one corporate action. -/
structure CorporateActionEventFields where
  eventId : String
  securityId : String
  eventType : EventType
  participation : Participation
  dates : EventDates
  terms : EventTerms := .unstated
  options : List ElectionOption := []
  defaultOptionId : Option String := none
  provenance : Provenance
  source : SourceIdentity
  deriving DecidableEq

namespace CorporateActionEventFields

variable (event : CorporateActionEventFields)

def optionIds : List String := event.options.map ElectionOption.optionId

/-- An event is a reported fact. -/
def aFact : Outcome Unit :=
  Outcome.refuseIf (!event.provenance.isFact) (.valueError
    ("an event is a reported fact: FACT_EXTERNAL or FACT_SYNTHETIC, not " ++
      event.provenance.value))

/-- The default option is one of the options. The text quotes the option as it stands. -/
def defaultOffered : Outcome Unit :=
  match event.defaultOptionId with
  | some option =>
    Outcome.refuseIf (option ∉ event.optionIds)
      (.valueError ("the default option " ++ quoted option ++ " is not an option"))
  | none => .ok ()

def datesFitParticipation : Outcome Unit := do
  let elective := event.participation.elective
  Outcome.refuseIf (elective ∧ event.dates.electionDeadline = none)
    (.valueError ("a " ++ event.participation.value ++ " event states an election deadline"))
  Outcome.refuseIf (!elective ∧ event.dates.electionDeadline ≠ none)
    (.valueError "a mandatory event has no election deadline")
  Outcome.refuseIf (event.dates.protectDeadline ≠ none ∧ event.participation ≠ .voluntary)
    (.valueError "a protect deadline belongs to a voluntary event")
  Outcome.refuseIf (!elective ∧ (event.options ≠ [] ∨ event.defaultOptionId.any (· ≠ "")))
    (.valueError "a mandatory event offers no election options")
  Outcome.refuseIf (¬ event.optionIds.Nodup)
    (.valueError "an option identifier appears more than once")
  event.defaultOffered

def validate : Outcome Unit := do
  required event.eventId
  required event.securityId
  event.aFact
  event.datesFitParticipation

end CorporateActionEventFields

/-- One announced corporate action on one security. -/
@[ext]
structure CorporateActionEvent extends CorporateActionEventFields where
  valid : toCorporateActionEventFields.validate = .ok () := by decide

instance : DecidableEq CorporateActionEvent :=
  fun _ _ => decidable_of_iff _ CorporateActionEvent.ext_iff.symm

/-- Equality of events: every field is equal, the figures of the terms as numbers. -/
def CorporateActionEvent.same (a b : CorporateActionEvent) : Bool :=
  { a.toCorporateActionEventFields with terms := .unstated } =
      { b.toCorporateActionEventFields with terms := .unstated } &&
    a.terms.same b.terms

theorem sameFigure_refl (figure : Option NonNegativeMoney) : sameFigure figure figure = true := by
  cases figure with
  | none => rfl
  | some a => exact FiniteDecimal.eq_iff.mpr rfl

@[simp] theorem CorporateActionEvent.same_refl (event : CorporateActionEvent) :
    event.same event = true := by
  simp [CorporateActionEvent.same, EventTerms.same, sameFigure_refl]

end CorporateActions

end Atreides
