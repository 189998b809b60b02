import Atreides.Clearing.Ficc
import Atreides.Deadlines.Calendar
import Atreides.Foundation.Decimal.Quantize

/-!
# Repo clearing

A repo has a start leg and, once its close is dated, a close leg. The start leg takes the
collateral in and pays the start money; the close leg gives the collateral back and takes the
close money, which is the start money with interest, rounded half up to the cent. The legs of a
repo on the delivery-versus-payment service are obligations for netting.

## Main definitions

* `RepoTrade`, `RepoTrade.closeMoney` — the trade, and what its close pays
* `produceRepoResult` — the legs of a trade, attested
* `dvpLegsForNetting` — the obligations a result hands to netting
-/

namespace Atreides

namespace Clearing

open DecimalContext (ambient)

/-! ## Trades -/

inductive RepoService
  | dvp
  | gcf
  deriving DecidableEq, Repr

inductive RepoTerm
  | overnight
  | term
  | openEnded
  deriving DecidableEq, Repr

inductive RepoLeg
  | start
  | close
  deriving DecidableEq, Repr

def RepoLeg.value : RepoLeg → String
  | start => "START"
  | close => "CLOSE"

inductive SponsoredExecution
  | doneWith
  | doneAway
  deriving DecidableEq, Repr

/-- A repo trade, before it is checked. -/
structure RepoTradeFields where
  tradeId : String
  memberId : String
  service : RepoService
  term : RepoTerm
  startDate : Date
  closeDate : Option Date
  collateralPar : FiniteDecimal
  startMoney : FiniteDecimal
  currency : String := "USD"
  repoRatePercent : FiniteDecimal
  dayCountBasis : ℕ := 360
  cusip : Option String := none
  collateralClass : Option String := none
  clearingBank : Option String := none
  haircutPercent : FiniteDecimal
  memberMarginApproximation : FiniteDecimal
  sponsoredExecution : Option SponsoredExecution := none
  deriving DecidableEq

namespace RepoTradeFields

variable (trade : RepoTradeFields)

/-- The checks of each field by itself. -/
def fieldsInRange : Bool :=
  trade.tradeId ≠ "" && trade.memberId ≠ "" && FiniteDecimal.lt 0 trade.collateralPar &&
    FiniteDecimal.lt 0 trade.startMoney && isCurrency trade.currency &&
    FiniteDecimal.le 0 trade.repoRatePercent && 0 < trade.dayCountBasis &&
    trade.cusip.all isCusip && FiniteDecimal.le 0 trade.haircutPercent &&
    FiniteDecimal.le 0 trade.memberMarginApproximation

/-- The close date, where there is one, is a business day the right distance away. -/
def checkClose (calendar : MarketCalendar) : Outcome Unit :=
  match trade.closeDate with
  | none => .ok ()
  | some close => do
    let isOpen ← calendar.isBusinessDay close
    Outcome.refuseIf (isOpen = false)
      (.refused "ValidationError" "repo close date must be a government securities business day")
    let businessDays ← calendar.businessDaysAfter trade.startDate close
    Outcome.refuseIf (trade.term = .overnight ∧ businessDays ≠ 1)
      (.refused "ValidationError" "OVERNIGHT repo must close exactly one business day after start")
    Outcome.refuseIf (trade.term = .term ∧ businessDays ≤ 1)
      (.refused "ValidationError"
        "TERM repo must close more than one business day after start")

def check (calendar : MarketCalendar) : Outcome Unit := do
  Outcome.refuseIf (trade.fieldsInRange = false) (.refused "ValidationError" "RepoTrade")
  let isOpen ← calendar.isBusinessDay trade.startDate
  Outcome.refuseIf (isOpen = false)
    (.refused "ValidationError"
      "repo start date must be a loaded government securities business day")
  Outcome.refuseIf (trade.term = .openEnded ∧ trade.closeDate ≠ none)
    (.refused "ValidationError" "OPEN repo has no fixed close date")
  Outcome.refuseIf (trade.term ≠ .openEnded ∧ trade.closeDate.all (· ≤ trade.startDate))
    (.refused "ValidationError" "overnight and term repo require a later close date")
  trade.checkClose calendar
  Outcome.refuseIf (trade.service = .dvp ∧
      (trade.cusip = none ∨ trade.collateralClass ≠ none ∨ trade.clearingBank ≠ none))
    (.refused "ValidationError" "DVP requires CUSIP and has no generic collateral allocation")
  Outcome.refuseIf (trade.service = .gcf ∧
      (trade.cusip ≠ none ∨ ¬ isStated trade.collateralClass ∨ ¬ isStated trade.clearingBank))
    (.refused "ValidationError" "GCF requires CUSIP-less collateral class and clearing bank")

end RepoTradeFields

/-- A repo trade that passed its checks. -/
structure RepoTrade (calendar : MarketCalendar) extends RepoTradeFields where
  checked : toRepoTradeFields.check calendar = .ok ()

namespace RepoTradeFields

variable (trade : RepoTradeFields)

/-- The start money with interest to a close date, as it is computed: money times rate, over a
hundred, times days, over the basis, with each step in the ambient arithmetic. -/
def moneyAt (close : Date) : Outcome FiniteDecimal := do
  let days := FiniteDecimal.ofInt (close.ordinal - trade.startDate.ordinal : ℤ)
  let product ← FiniteDecimal.mul ambient trade.startMoney trade.repoRatePercent
  let yearly ← FiniteDecimal.div ambient product 100
  let total ← FiniteDecimal.mul ambient yearly days
  let interest ← FiniteDecimal.div ambient total (FiniteDecimal.ofInt trade.dayCountBasis)
  FiniteDecimal.add ambient trade.startMoney interest

def unroundedCloseMoney : Outcome (Option FiniteDecimal) :=
  match trade.closeDate with
  | none => .ok none
  | some close => some <$> trade.moneyAt close

/-- What the close pays, in whole cents. -/
def closeMoney : Outcome (Option FiniteDecimal) :=
  match trade.closeDate with
  | none => .ok none
  | some close => do
    let unrounded ← trade.moneyAt close
    some <$> FiniteDecimal.quantizeHalfUp ambient unrounded (-2)

end RepoTradeFields

/-! ## Documents -/

/-- One leg of a repo. -/
structure RepoLegObligation where
  obligationId : String
  tradeId : String
  leg : RepoLeg
  settlementDate : Option Date
  signedPar : FiniteDecimal
  signedMoney : Option FiniteDecimal
  unroundedSignedMoney : Option FiniteDecimal
  currency : String
  cusip : Option String
  collateralClass : Option String
  settlementPath : String
  facts : List EvidenceFact
  deriving DecidableEq

structure GcfAllocation where
  tradeId : String
  collateralClass : String
  clearingBank : String
  allocatedPar : FiniteDecimal
  returnedPar : Option FiniteDecimal
  deriving DecidableEq

structure RepoDocument where
  clearingAgency : ClearingAgency
  clearingMethod : RepoService
  observedMemberId : String
  accessPath : String
  sponsoredExecution : Option SponsoredExecution
  repoRatePercent : FiniteDecimal
  dayCountBasis : ℕ
  term : RepoTerm
  haircutPercent : FiniteDecimal
  memberMarginApproximation : FiniteDecimal
  legs : List RepoLegObligation
  gcfAllocation : Option GcfAllocation
  deriving DecidableEq

inductive ClearingStatus
  | established
  | indeterminate
  deriving DecidableEq, Repr

structure RepoResult where
  status : ClearingStatus
  reason : Option String := none
  payloadDigest : Option String := none
  payload : Option Bytes := none
  deriving DecidableEq

/-- How a document becomes bytes, and how bytes are read as one. -/
structure RepoCodec where
  canonicalBytes : RepoDocument → Bytes
  readDocument : Bytes → Outcome RepoDocument

/-- The canonical bytes of a document read back as it. -/
def RepoCodec.ReadsBack (codec : RepoCodec) (document : RepoDocument) : Prop :=
  codec.readDocument (codec.canonicalBytes document) = .ok document

/-! ## Results -/

theorem finality_reasoned : "settlement finality was not recorded" ≠ "" := by decide

/-- The facts of a leg: each stage is recorded, but finality only of a leg that settled. -/
def legFacts (label : String) (finality : Bool) : Outcome (List EvidenceFact) :=
  Outcome.collect (fun stage =>
    fact stage
      (if stage ≠ .settlementFinality ∨ finality then some (label ++ ":" ++ stage.value) else none)
      "settlement finality was not recorded" finality_reasoned) evidenceStages

def settlementPathOf : RepoService → String
  | .dvp => "DVP_NETTING"
  | .gcf => "GCF_TRIPARTY"

/-- The leg that takes the collateral in. -/
def startLeg (trade : RepoTradeFields) (settledLegs : List RepoLeg) :
    Outcome RepoLegObligation := do
  let money ← FiniteDecimal.neg ambient trade.startMoney
  let label := trade.tradeId ++ ":" ++ RepoLeg.start.value
  let facts ← legFacts label (.start ∈ settledLegs)
  .ok
    { obligationId := label
      tradeId := trade.tradeId
      leg := .start
      settlementDate := some trade.startDate
      signedPar := trade.collateralPar
      signedMoney := some money
      unroundedSignedMoney := some money
      currency := trade.currency
      cusip := trade.cusip
      collateralClass := trade.collateralClass
      settlementPath := settlementPathOf trade.service
      facts }

/-- The leg that gives the collateral back. -/
def closeLeg (trade : RepoTradeFields) (settledLegs : List RepoLeg) (money : FiniteDecimal) :
    Outcome RepoLegObligation := do
  let par ← FiniteDecimal.neg ambient trade.collateralPar
  let unrounded ← trade.unroundedCloseMoney
  let label := trade.tradeId ++ ":" ++ RepoLeg.close.value
  let facts ← legFacts label (.close ∈ settledLegs)
  .ok
    { obligationId := label
      tradeId := trade.tradeId
      leg := .close
      settlementDate := trade.closeDate
      signedPar := par
      signedMoney := some money
      unroundedSignedMoney := unrounded
      currency := trade.currency
      cusip := trade.cusip
      collateralClass := trade.collateralClass
      settlementPath := settlementPathOf trade.service
      facts }

/-- The legs of a trade: two where the close pays something, else the start alone. -/
def repoLegs (trade : RepoTradeFields) (settledLegs : List RepoLeg)
    (closeMoney : Option FiniteDecimal) : Outcome (List RepoLegObligation) := do
  let start ← startLeg trade settledLegs
  match closeMoney with
  | none => .ok [start]
  | some money => do
    let close ← closeLeg trade settledLegs money
    .ok [start, close]

def gcfAllocation (trade : RepoTradeFields) (closeMoney : Option FiniteDecimal) :
    Option GcfAllocation :=
  if trade.service = .gcf then
    some
      { tradeId := trade.tradeId
        collateralClass := trade.collateralClass.getD ""
        clearingBank := trade.clearingBank.getD ""
        allocatedPar := trade.collateralPar
        returnedPar := closeMoney.map fun _ => trade.collateralPar }
  else none

/-- The document of an established arrangement. -/
def repoDocument (agency : ClearingAgency) (arrangement : AccessArrangement)
    (trade : RepoTradeFields) (settledLegs : List RepoLeg) : Outcome RepoDocument := do
  let closeMoney ← trade.closeMoney
  let legs ← repoLegs trade settledLegs closeMoney
  .ok
    { clearingAgency := agency
      clearingMethod := trade.service
      observedMemberId := arrangement.clearingMemberId
      accessPath := arrangement.path.value
      sponsoredExecution := trade.sponsoredExecution
      repoRatePercent := trade.repoRatePercent
      dayCountBasis := trade.dayCountBasis
      term := trade.term
      haircutPercent := trade.haircutPercent
      memberMarginApproximation := trade.memberMarginApproximation
      legs
      gcfAllocation := gcfAllocation trade closeMoney }

def repoIndeterminate (reason : String) : RepoResult :=
  { status := .indeterminate, reason := some reason }

def produceRepoResult (kernel : Kernel) (codec : RepoCodec) {calendar : MarketCalendar}
    (trade : RepoTrade calendar) (access : AccessDetermination)
    (agency : ClearingAgency := .ficcGsd) (settledLegs : List RepoLeg := []) :
    Outcome RepoResult :=
  if agency = .cmeSecuritiesClearing then
    .ok (repoIndeterminate "CME Securities Clearing repo rules are declared but not built")
  else
    match access with
    | .indeterminate reason =>
      .ok (repoIndeterminate ("repo access is indeterminate: " ++ reason))
    | .established arrangement =>
      if arrangement.clearingMemberId ≠ trade.memberId then
        .ok (repoIndeterminate "trade is not observed from the relied-on FICC member seat")
      else if arrangement.path = .sponsored ∧ trade.sponsoredExecution = none then
        .ok (repoIndeterminate "sponsored repo requires done-with or done-away evidence")
      else do
        let document ← repoDocument agency arrangement trade.toRepoTradeFields settledLegs
        let payload := codec.canonicalBytes document
        .ok
          { status := .established
            payloadDigest := some (kernel.digestBytes payload)
            payload := some payload }

/-- The obligation of one leg that is dated and has its money. -/
def legForNetting (document : RepoDocument) (leg : RepoLegObligation) :
    Outcome NovatedObligation :=
  match leg.settlementDate, leg.signedMoney with
  | some settlementDate, some signedMoney =>
    NovatedObligation.create
      { obligationId := leg.obligationId
        tradeIds := [leg.tradeId]
        memberId := document.observedMemberId
        cusip := leg.cusip.getD ""
        settlementDate
        signedQuantity := leg.signedPar
        signedSettlementAmount := signedMoney
        settlementCurrency := leg.currency
        novationEvidenceId := leg.obligationId ++ ":NOVATION" }
  | _, _ => .error (.valueError "DVP netting requires dated cash obligations")

/-- The legs of a result on the delivery-versus-payment service, as obligations for netting. -/
def dvpLegsForNetting (codec : RepoCodec) (result : RepoResult) :
    Outcome (List NovatedObligation) :=
  match result.status, result.payload with
  | .established, some payload => do
    let document ← codec.readDocument payload
    if document.clearingMethod = .dvp then do
      Outcome.refuseIf
        (∃ leg ∈ document.legs, leg.settlementDate = none ∨ leg.signedMoney = none)
        (.valueError "DVP netting requires dated cash obligations")
      Outcome.collect (legForNetting document) document.legs
    else .ok []
  | _, _ => .ok []

end Clearing

end Atreides
