import Mathlib.Data.Rat.Defs
import Mathlib.Data.String.Basic
import Atreides.CorporateActions.Events
import Atreides.Foundation.Decimal.Exact
import Atreides.Foundation.Numeral
import Atreides.Foundation.SortedSet
import Atreides.Rails.Cns

/-!
# Entitlement arithmetic

What each holder of a security is entitled to under an event, computed on rational numbers
where the announcement states the arithmetic, and refused with a reason where it does not.

## Main definitions

* `RecordDatePosition`, `HolderPosition` — an account's balances at the record date
* `EntitlementResult` — every holder's entitlement for one event, and the totals
* `computeEntitlements` — the entitlements of a list of holdings
-/

namespace Atreides

namespace CorporateActions

/-! ## Positions -/

/-- Balances at a record date, each an exact finite decimal. -/
structure RecordDatePosition where
  securityId : String
  eligibleBalance : FiniteDecimal
  settlementBalance : FiniteDecimal
  pendingDeliveryBalance : FiniteDecimal := 0
  pendingReceiptBalance : FiniteDecimal := 0
  obligatedBalance : FiniteDecimal := 0
  uncoveredProtectBalance : FiniteDecimal := 0
  provenance : Option String := none
  deriving DecidableEq

/-- The eligible and settled balances are not the same number. -/
def RecordDatePosition.diverges (position : RecordDatePosition) : Bool :=
  !position.eligibleBalance.eq position.settlementBalance

/-- Why a position that is open across the record date has no entitlement. -/
def absentEntitlementTreatment (securityId : String) : String :=
  "Entitlement treatment for the open position in " ++ securityId ++ " is not " ++
    "computed. The eligible-versus-settled divergence is recorded and " ++
    "both sides are named; the allocation rule is not published in the " ++
    "depository usage guidance this framework consumes, and inventing " ++
    "one would present market practice as governance " ++
    "(AUR-CUSTODY-EQUITY-001 draft)."

inductive QuantityBasis
  | units
  | faceAmount
  deriving DecidableEq, Repr

/-- One account's balances in the event's security. -/
@[ext]
structure HolderPosition where
  accountId : String
  position : RecordDatePosition
  quantityBasis : QuantityBasis := .units
  account_named : accountId ≠ "" := by decide

/-! ## Results -/

/-- The classes whose arithmetic is computed. -/
def computedEventTypes : List EventType :=
  [.cashDividend, .stockDividend, .split, .interestPayment, .finalMaturity, .partialRedemption,
    .fullCall, .redemptionLottery, .capitalGainsDistribution, .capitalDistribution, .reinvestment]

def fixedIncomeEventTypes : List EventType :=
  [.interestPayment, .finalMaturity, .partialRedemption, .fullCall, .redemptionLottery]

/-- Why a holder received no number. -/
inductive UnavailableTreatment
  | recordDateDivergence
  | pendingDeliveryOrReceipt
  | fractionalShares
  | shortPosition
  deriving DecidableEq, Repr

def UnavailableTreatment.value : UnavailableTreatment → String
  | recordDateDivergence => "record_date_divergence"
  | pendingDeliveryOrReceipt => "pending_delivery_or_receipt"
  | fractionalShares => "fractional_shares"
  | shortPosition => "short_position"

/-- What one holder is entitled to, or why there is no entitlement. -/
structure HolderEntitlementFields where
  accountId : String
  eligibleBalance : FiniteDecimal
  quantity : Option FiniteDecimal
  unavailable : List UnavailableTreatment := []
  explanation : Option String := none
  deriving DecidableEq

def HolderEntitlementFields.aNumberOrAReason (holder : HolderEntitlementFields) : Outcome Unit := do
  Outcome.refuseIf (holder.quantity.isNone = holder.unavailable.isEmpty)
    (.valueError "a holder has a quantity or a reason it has none, never both")
  Outcome.refuseIf (holder.quantity.any (·.lt 0)) (.valueError "an entitlement is never negative")

/-- One holder's entitlement: a number or a reason. -/
@[ext]
structure HolderEntitlement extends HolderEntitlementFields where
  valid : toHolderEntitlementFields.aNumberOrAReason = .ok () := by decide

instance : DecidableEq HolderEntitlement :=
  fun _ _ => decidable_of_iff _ HolderEntitlement.ext_iff.symm

def HolderEntitlementFields.build (holder : HolderEntitlementFields) : Outcome HolderEntitlement :=
  match h : holder.aNumberOrAReason with
  | .ok () => .ok ⟨holder, h⟩
  | .error e => .error e

/-- What the quantities count. -/
inductive EntitlementUnit
  | cash
  | shares
  deriving DecidableEq, Repr

/-- The entitlements under one event, with the totals. -/
structure EntitlementResultFields where
  eventId : String
  eventType : EventType
  unit : Option EntitlementUnit
  currency : Option String
  factor : Option ℚ
  disposition : Disposition
  holders : List HolderEntitlement
  allocatedTotal : Option ℚ
  residual : Option ℚ
  eventTotal : Option ℚ
  unavailableRules : List String := []
  missingInputs : List String := []
  deriving DecidableEq

def EntitlementResultFields.conserved (result : EntitlementResultFields) : Outcome Unit := do
  let absent := [result.allocatedTotal, result.residual, result.eventTotal].map Option.isNone
  Outcome.refuseIf (absent.any id ≠ absent.all id)
    (.valueError "the totals are all stated or none is")
  match result.allocatedTotal, result.residual with
  | some allocatedTotal, some residual =>
    Outcome.refuseIf (some (allocatedTotal + residual) ≠ result.eventTotal)
      (.valueError "allocated plus residual must equal the event total")
  | _, _ => .ok ()

/-- Every holder's entitlement for one event, with totals that conserve. -/
@[ext]
structure EntitlementResult extends EntitlementResultFields where
  valid : toEntitlementResultFields.conserved = .ok () := by decide

instance : DecidableEq EntitlementResult :=
  fun _ _ => decidable_of_iff _ EntitlementResult.ext_iff.symm

def EntitlementResultFields.build (result : EntitlementResultFields) : Outcome EntitlementResult :=
  match h : result.conserved with
  | .ok () => .ok ⟨result, h⟩
  | .error e => .error e

/-! ## Arithmetic -/

/-- Divide a number by `p` as long as it divides, counting how often. -/
def stripFactor (p : ℕ) : ℕ → ℕ → ℕ × ℕ
  | 0, n => (n, 0)
  | fuel + 1, n =>
    if n % p = 0 then
      let (rest, count) := stripFactor p fuel (n / p)
      (rest, count + 1)
    else (n, 0)

/-- The value as an exact decimal, where it terminates. A denominator holds no factor more
often than its own size. The decimal is made from the text of an integer. -/
def exactDecimal (value : ℚ) : Outcome (Option FiniteDecimal) :=
  let (odd, twos) := stripFactor 2 value.den value.den
  let (rest, fives) := stripFactor 5 value.den odd
  if rest ≠ 1 then .ok none
  else
    let places := max twos fives
    let numerator := value.num * 10 ^ places / value.den
    (fun _ => some ⟨numerator < 0, numerator.natAbs, -places⟩) <$> intText numerator

/-- The factor of an event, what it counts, and why there is none: gaps in the rules, and
inputs that are missing. -/
structure FactorReading where
  factor : Option ℚ := none
  unit : Option EntitlementUnit := none
  unavailableRules : List String := []
  missingInputs : List String := []

namespace FactorReading

def missing (inputs : List String) : FactorReading := { missingInputs := inputs }

def unavailable (rule : String) : FactorReading := { unavailableRules := [rule] }

/-- A stated rate is the factor; a rate that is not stated is missing. -/
def ofRate (rate : Option CustomerProtection.NonNegativeMoney) (unit : EntitlementUnit)
    (name : String) : FactorReading :=
  match rate with
  | none => missing [name]
  | some rate => { factor := some rate.amount.value, unit := some unit }

end FactorReading

/-- The shares a reinvestment buys with the cash of one share. -/
def reinvestmentFactor (terms : EventTerms) : FactorReading :=
  match terms.cashRatePerShare, terms.reinvestmentPricePerShare with
  | none, _ => .missing ["terms.cash_rate_per_share"]
  | some _, none => .missing ["terms.reinvestment_price_per_share"]
  | some rate, some price =>
    if price.amount.isZero then
      .unavailable "a zero reinvestment price cannot determine shares"
    else { factor := some (rate.amount.value / price.amount.value), unit := some .shares }

/-- The additional shares of a forward split. -/
def splitFactor (terms : EventTerms) : Outcome FactorReading :=
  match terms.splitNew, terms.splitOld with
  | some new, some old =>
    if new ≤ old then do
      let newText ← intText new
      let oldText ← intText old
      .ok (.unavailable ("a split announced as " ++ newText ++ " for " ++ oldText ++
        " does not increase the position: a reverse split is not computed here"))
    else .ok { factor := some ((new - old : ℤ) / old), unit := some .shares }
  | _, _ => .ok (.missing ["terms.split_new", "terms.split_old"])

/-- The factor for the event's class. -/
def factorOf (event : CorporateActionEvent) : Outcome FactorReading :=
  if event.eventType ∉ computedEventTypes then
    .ok (.unavailable ("entitlement arithmetic for " ++ event.eventType.value ++
      " is not computed here: only cash dividend, stock dividend and forward split"))
  else if event.eventType = .interestPayment then
    .ok (.ofRate event.terms.interestAmountPerFace .cash "terms.interest_amount_per_face")
  else if event.eventType ∈
      [EventType.finalMaturity, .partialRedemption, .fullCall, .redemptionLottery] then
    .ok (.ofRate event.terms.redemptionPricePerFace .cash "terms.redemption_price_per_face")
  else if event.eventType = .reinvestment then .ok (reinvestmentFactor event.terms)
  else if event.eventType ∈
      [EventType.cashDividend, .capitalGainsDistribution, .capitalDistribution] then
    .ok (.ofRate event.terms.cashRatePerShare .cash "terms.cash_rate_per_share")
  else if event.eventType = .stockDividend then
    .ok (.ofRate event.terms.stockRatePerShare .shares "terms.stock_rate_per_share")
  else splitFactor event.terms

/-- Why a holder has no entitlement, in the order the conditions are asked. -/
def reasonsFor (position : RecordDatePosition) (attributable : ℚ) (unit : EntitlementUnit) :
    List UnavailableTreatment :=
  (if position.eligibleBalance.lt 0 then [.shortPosition] else []) ++
    (if position.diverges then [.recordDateDivergence] else []) ++
    (if !position.pendingDeliveryBalance.isZero ∨ !position.pendingReceiptBalance.isZero then
      [.pendingDeliveryOrReceipt] else []) ++
    (if unit = .shares ∧ attributable.den ≠ 1 then [.fractionalShares] else [])

/-- The number of a holder with no reason to have none. -/
def entitledQuantity (reasons : List UnavailableTreatment) (attributable : ℚ) :
    Outcome (Option FiniteDecimal) :=
  if reasons = [] then exactDecimal attributable else .ok none

/-- The holder's entitlement, and the exact quantity attributable to the holder. -/
def holderEntitlement (holding : HolderPosition) (factor : ℚ) (unit : EntitlementUnit) :
    Outcome (HolderEntitlement × ℚ) := do
  let position := holding.position
  let attributable := factor * position.eligibleBalance.value
  let reasons := reasonsFor position attributable unit
  let explained : Bool :=
    .recordDateDivergence ∈ reasons ∨ .pendingDeliveryOrReceipt ∈ reasons
  let quantity ← entitledQuantity reasons attributable
  let entitlement ← HolderEntitlementFields.build
    { accountId := holding.accountId
      eligibleBalance := position.eligibleBalance
      quantity
      unavailable := reasons
      explanation := if explained then some (absentEntitlementTreatment position.securityId)
        else none }
  .ok (entitlement, attributable)

/-- The totals a list of holders adds up to: what was allocated, and what was not. -/
abbrev EntitlementTotals := List HolderEntitlement × ℚ × ℚ

def addHolding (factor : ℚ) (unit : EntitlementUnit) (totals : EntitlementTotals)
    (holding : HolderPosition) : Outcome EntitlementTotals := do
  let (entitlement, attributable) ← holderEntitlement holding factor unit
  let (holders, allocated, residual) := totals
  if entitlement.quantity = none then
    .ok (holders ++ [entitlement], allocated, residual + attributable)
  else .ok (holders ++ [entitlement], allocated + attributable, residual)

/-- A holding is in the event's security, in the quantity its arithmetic needs. -/
def holdingFits (event : CorporateActionEvent) (holding : HolderPosition) : Outcome Unit := do
  Outcome.refuseIf (holding.position.securityId ≠ event.securityId) (.valueError
    ("account " ++ holding.accountId ++ " holds " ++ holding.position.securityId ++
      ", not the event's security " ++ event.securityId))
  Outcome.refuseIf (event.eventType ∈ fixedIncomeEventTypes ∧ holding.quantityBasis ≠ .faceAmount)
    (.valueError "a fixed income entitlement requires a face amount quantity")

/-- The result where nothing is computed. -/
def notComputed (event : CorporateActionEvent) (reading : FactorReading) : EntitlementResult where
  eventId := event.eventId
  eventType := event.eventType
  unit := none
  currency := none
  factor := none
  disposition := CustomerProtection.decide reading.unavailableRules reading.missingInputs []
  holders := []
  allocatedTotal := none
  residual := none
  eventTotal := none
  unavailableRules := reading.unavailableRules
  missingInputs := reading.missingInputs
  valid := rfl

/-- Every holder's entitlement for the event. -/
def computeEntitlements (event : CorporateActionEvent) (holdings : List HolderPosition) :
    Outcome EntitlementResult := do
  Outcome.refuseIf (¬ (holdings.map (·.accountId)).Nodup)
    (.valueError "an account appears more than once")
  Outcome.foldSteps (fun _ holding => holdingFits event holding) () holdings
  let reading ← factorOf event
  match reading.factor, reading.unit with
  | some factor, some unit => do
    let (holders, allocated, residual) ← Outcome.foldSteps (addHolding factor unit) ([], 0, 0)
      (holdings.insertionSort fun a b => a.accountId ≤ b.accountId)
    let gaps := sortedSet (holders.flatMap fun holder => holder.unavailable.map (·.value))
    EntitlementResultFields.build
      { eventId := event.eventId
        eventType := event.eventType
        unit := some unit
        currency := if unit = .cash then event.terms.currency else none
        factor := some factor
        disposition := CustomerProtection.decide gaps [] []
        holders
        allocatedTotal := some allocated
        residual := some residual
        eventTotal := some (allocated + residual) }
  | _, _ => .ok (notComputed event reading)

end CorporateActions

end Atreides
