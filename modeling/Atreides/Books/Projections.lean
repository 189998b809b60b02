import Atreides.Books.Ledger
import Atreides.CustomerProtection.Control
import Atreides.CustomerProtection.Inputs
import Atreides.Deadlines.Calendar

/-!
# Projections of the books

The inputs of the customer protection computations, derived from a replay of the journal:
balances by account, issue and location first, then the fail and borrow lines of the
reserve computations, the loaned stock, and what margin accounts leave to be held. A line
the books do not support stays absent with a reason.

## Main definitions

* `Scan`, `scanLine` — the balances of the journal
* `ReserveSources`, `reserveLine` — the fail and borrow lines
* `Margins`, `marginPosition` — fully paid and excess margin quantities
* `projectCustomerProtection` — all inputs from one replay
-/

namespace Atreides

open CustomerProtection
open DecimalContext (ambient)

/-! ## Vocabulary -/

/-- Declared elections of the synthetic firm. -/
structure SyntheticFirmProfile where
  profileName : String
  netCapitalStandard : NetCapitalStandard
  brokerDealerCategory : BrokerDealerCategory
  deriving DecidableEq

def syntheticFirmProfile : SyntheticFirmProfile where
  profileName := "ATREIDES_EQ1_SYNTHETIC_CARRYING_ALTERNATIVE"
  netCapitalStandard := .alternative
  brokerDealerCategory := .carrying

/-- What a projection reads of the margin result of an account. -/
structure MarginResult where
  accountId : String
  longMarketValue : FiniteDecimal
  debitBalance : FiniteDecimal
  deriving DecidableEq

/-- A fail or borrow line that no reserve line takes up. -/
structure ProjectionExclusion where
  sourceEventId : String
  accountType : AccountType
  issue : String
  activity : ReserveActivity
  reason : String
  ageCalendarDays : Option ℤ := none
  deriving DecidableEq

structure ProjectionAudit where
  mappingVersion : String
  derived : List String
  notDerived : List String
  reasons : Dict String String
  booksDigest : String
  exclusions : List ProjectionExclusion := []
  stockLoanedMarketValue : FiniteDecimal
  stockBorrowedContractValue : FiniteDecimal
  syntheticFirmProfile : String

/-- The inputs of all customer protection computations. -/
structure ProtectionInputs where
  reserve : ReserveInputs
  pabReserve : ReserveInputs
  netCapital : NetCapitalInputs
  control : ControlInputs
  audit : ProjectionAudit
  firmProfile : SyntheticFirmProfile

/-! The mapping of account types to Exhibit A lines, as the mapping file states it. -/

def mappingVersion : String := "eq1b-exhibit-a/2"

def customerFreeCreditRuleId : String := "15c3-3a.item.01"

def customerFailToReceiveRuleId : String := "15c3-3a.item.04"

def customerMarginDebitRuleId : String := "15c3-3a.item.10"

def customerStockBorrowedRuleId : String := "15c3-3a.item.11"

def customerFailToDeliverRuleId : String := "15c3-3a.item.12"

/-- The reserve line of a fail or borrow account type. -/
def specialRule : AccountType → Option String
  | .failToReceive => some customerFailToReceiveRuleId
  | .stockBorrowed => some customerStockBorrowedRuleId
  | .failToDeliver => some customerFailToDeliverRuleId
  | _ => none

/-- The rule of the location type of an account type. -/
def locationRule : AccountType → String
  | .dtc => "15c3-3.control.c1"
  | .bankControl => "15c3-3.control.c5"
  | .failToDeliver => "15c3-3.noncontrol.d2"
  | .failToReceive => "15c3-3.noncontrol.d2"
  | .stockLoaned => "15c3-3.noncontrol.d1"
  | .inTransfer => "15c3-3.noncontrol.d4"
  | _ => "UNMAPPED_LOCATION"

def AccountType.isCustomer : AccountType → Bool
  | .customerCash | .customerMargin => true
  | _ => false

/-- What a projection is asked for, beside the books. -/
structure ProjectionRequest where
  asOf : Date
  prices : Dict String Decimal
  netWorth : Decimal
  calendar : MarketCalendar
  marginResults : List MarginResult
  firmProfile : SyntheticFirmProfile := Atreides.syntheticFirmProfile
  excessMarginThreshold : Option Decimal := none

/-! ## Balances -/

/-- The balances of the journal. The source keeps the ownership of each issue twice, as
`ownership` and as `positions`; they are one dictionary here. -/
structure Scan where
  customerCash : Dict String FiniteDecimal := .empty
  ownership : Dict String FiniteDecimal := .empty
  locationBalances : Dict (String × String) FiniteDecimal := .empty
  customerPositions : Dict String (Dict String FiniteDecimal) := .empty

/-- The dollars of a customer line, added to the cash of its account. -/
def addCash (cash : Dict String FiniteDecimal) (line : LedgerLine) :
    Outcome (Dict String FiniteDecimal) :=
  if line.accountType.isCustomer ∧ line.currency = some "USD" then
    cash.addTo ambient line.accountId line.money
  else .ok cash

/-- The quantity of a customer line, added to the position of its account. -/
def addPosition (positions : Dict String (Dict String FiniteDecimal)) (line : LedgerLine)
    (issue : String) : Outcome (Dict String (Dict String FiniteDecimal)) :=
  if line.accountType.isCustomer then
    positions.addToInner ambient line.accountId issue line.quantity
  else .ok positions

/-- One line added to the balances. -/
def scanLine (scan : Scan) (line : LedgerLine) : Outcome Scan := do
  let customerCash ← addCash scan.customerCash line
  let scan := { scan with customerCash }
  match line.issue, line.recordSide with
  | some issue, .ownership => do
    let ownership ← scan.ownership.addTo ambient issue line.quantity
    let customerPositions ← addPosition scan.customerPositions line issue
    .ok { scan with ownership, customerPositions }
  | some issue, .location => do
    let locationBalances ←
      scan.locationBalances.addTo ambient (issue, locationRule line.accountType) line.quantity
    .ok { scan with locationBalances }
  | _, _ => .ok scan

/-- A balance that is not zero is held at its location, in its magnitude. -/
def addHolding (holdings : Dict String (List Holding))
    (item : (String × String) × FiniteDecimal) : Outcome (Dict String (List Holding)) :=
  if item.2.isZero then .ok holdings
  else do
    let quantity ← item.2.abs ambient
    let quantity ← NonNegativeMoney.check quantity
    .ok (holdings.set item.1.1
      (holdings.getD item.1.1 [] ++ [{ location := item.1.2, quantity }]))

/-- The debit balances of the customers, added up. -/
def customerDebitsOf (balances : List FiniteDecimal) : Outcome FiniteDecimal := do
  let debits ← Outcome.collect (fun balance => do
    let debit ← balance.neg ambient
    .ok (debit.max 0)) balances
  FiniteDecimal.sum ambient 0 debits

/-- The credit balances of the customers, added up. -/
def freeCreditsOf (balances : List FiniteDecimal) : Outcome FiniteDecimal :=
  FiniteDecimal.sum ambient 0 (balances.map fun balance => balance.max 0)

/-! ## Fail and borrow lines -/

/-- The reserve lines so far. -/
structure ReserveSources where
  customerLines : Dict String (Option Decimal)
  pabLines : Dict String (Option Decimal)
  stockBorrowedContractValue : FiniteDecimal := 0
  exclusions : List ProjectionExclusion := []

/-- No Exhibit A line is derived yet. -/
def noLines : Dict String (Option Decimal) :=
  .ofPairs ((exhibitACredits ++ exhibitADebits).map fun ruleId => (ruleId, none))

/-- Add an amount to a line; a line that is absent, or zero, starts at zero. -/
def addLine (target : Dict String (Option Decimal)) (ruleId : String) (amount : Decimal) :
    Outcome (Dict String (Option Decimal)) := do
  let current := ((target.getD ruleId none).filter Decimal.truthy).getD 0
  let total ← current.add ambient amount
  .ok (target.set ruleId (some total))

/-- The facts of an entry by account type and issue; a later fact replaces an earlier one. -/
def sourceFacts (entry : JournalEntry) : Dict (AccountType × String) ReserveSourceFact :=
  .ofPairs (entry.reserveSourceFacts.map fun fact => ((fact.accountType, fact.issue), fact))

/-- The price of an issue. -/
def priceOf (prices : Dict String Decimal) (issue : String) : Outcome Decimal :=
  match prices.get? issue with
  | none => .error (.keyError issue)
  | some price => .ok price

/-- The contract value of a line, or its market value where a fail to receive is older than
thirty days and the market is above the contract. -/
def reserveValue (prices : Dict String Decimal) (accountType : AccountType) (issue : String)
    (age : ℤ) (quantity contractValue : FiniteDecimal) : Outcome Decimal :=
  if accountType = .failToReceive ∧ 30 < age then do
    let price ← priceOf prices issue
    let marketValue ← Decimal.mul ambient quantity price
    let excess ← marketValue.sub ambient contractValue
    let excess ← excess.max 0
    Decimal.add ambient contractValue excess
  else .ok contractValue

/-- The contract value of a borrow line, added to the value borrowed. -/
def addBorrowed (total : FiniteDecimal) (accountType : AccountType)
    (contractValue : FiniteDecimal) : Outcome FiniteDecimal :=
  if accountType = .stockBorrowed then total.add ambient contractValue else .ok total

/-- A source trade settles on a loaded business day, not after the computation. -/
def settlementAge (request : ProjectionRequest) (settlementDate : Date) : Outcome ℤ := do
  let loaded ← request.calendar.isBusinessDay settlementDate
  let age := request.asOf.daysSince settlementDate
  if !loaded then
    .error (.valueError "reserve source settlement date must be a loaded business day")
  else if age < 0 then
    .error (.valueError "reserve source settlement date cannot be after the computation")
  else .ok age

/-- The fact, the age and the contract value of a fail or borrow line. -/
structure SourceLine where
  fact : ReserveSourceFact
  age : ℤ
  quantity : FiniteDecimal
  contractValue : FiniteDecimal

/-- Read a fail or borrow line of an entry. -/
def sourceLine (request : ProjectionRequest) (entry : JournalEntry) (line : LedgerLine)
    (issue : String) : Outcome SourceLine :=
  match (sourceFacts entry).get? (line.accountType, issue) with
  | none => .error (.keyError issue)
  | some fact => do
    let age ← settlementAge request fact.settlementDate
    let quantity ← line.quantity.abs ambient
    let contractValue ← quantity.mul ambient fact.contractPrice
    .ok ⟨fact, age, quantity, contractValue⟩

/-- Post a value to the reserve lines of the activity it belongs to. -/
def ReserveSources.post (sources : ReserveSources) (activity : ReserveActivity) (ruleId : String)
    (value : Decimal) (excluded : ProjectionExclusion) : Outcome ReserveSources :=
  match activity with
  | .customer => do
    let customerLines ← addLine sources.customerLines ruleId value
    .ok { sources with customerLines }
  | .pab => do
    let pabLines ← addLine sources.pabLines ruleId value
    .ok { sources with pabLines }
  | .firm => .ok { sources with exclusions := sources.exclusions ++ [excluded] }

/-- One line of an entry added to the reserve lines. -/
def reserveLine (request : ProjectionRequest) (sources : ReserveSources)
    (source : JournalEntry × LedgerLine) : Outcome ReserveSources :=
  let (entry, line) := source
  match line.issue, specialRule line.accountType with
  | some issue, some ruleId =>
    do
      let source ← sourceLine request entry line issue
      let stockBorrowedContractValue ←
        addBorrowed sources.stockBorrowedContractValue line.accountType source.contractValue
      let sources := { sources with stockBorrowedContractValue }
      let excluded (reason : String) : ProjectionExclusion :=
        ⟨entry.sourceEventId, line.accountType, issue, source.fact.activity, reason,
          some source.age⟩
      if line.accountType = .failToDeliver ∧ 30 < source.age then
        .ok { sources with exclusions := sources.exclusions ++
          [excluded "fail to deliver older than 30 calendar days excluded from item 12"] }
      else do
        let value ← reserveValue request.prices line.accountType issue source.age
          source.quantity source.contractValue
        sources.post source.fact.activity ruleId value
          (excluded "firm proprietary activity is outside customer and PAB computations")
  | _, _ => .ok sources

/-- The market value of a line of loaned stock, added to the others. -/
def loanedLine (prices : Dict String Decimal) (total : Decimal) (line : LedgerLine) :
    Outcome Decimal :=
  match line.accountType, line.issue with
  | .stockLoaned, some issue => do
    let quantity ← line.quantity.abs ambient
    let price ← priceOf prices issue
    let value ← Decimal.mul ambient quantity price
    total.add ambient value
  | _, _ => .ok total

/-! ## Margin accounts -/

def excessMarginMethod : String :=
  "declared method PRO_RATA_ROUNDED_UP: Rule 15c3-3(a)(5) excess value over the pinned " ++
    "percentage of the debit balance, taken pro rata from every long holding"

/-- The share of an account's value that its excess value is. -/
def excessShare (longMarketValue : FiniteDecimal) (excessValue : Decimal) : Outcome Decimal :=
  if longMarketValue.le 0 then .ok 0 else excessValue.div ambient longMarketValue

/-- The part of a holding that is excess margin: the share of the account's value beyond
the pinned percentage of its debit, rounded up. -/
def excessQuantity (threshold : Decimal) (result : MarginResult) (quantity : FiniteDecimal) :
    Outcome Decimal := do
  let pinned ← threshold.mul ambient result.debitBalance
  let excess ← Decimal.sub ambient result.longMarketValue pinned
  let excessValue ← excess.max 0
  let share ← excessShare result.longMarketValue excessValue
  let part ← Decimal.mul ambient quantity share
  let rounded ← part.ceilToIntegral
  Decimal.min quantity rounded

/-- What must be held for customers, by issue, and why it is stated as it is. -/
structure Margins where
  fullyPaid : Dict String FiniteDecimal := .empty
  excessMargin : Dict String (Option Decimal) := .empty
  reasons : Dict String String

/-- Add to an excess margin that may be unknown already. -/
def addExcess (current : Option Decimal) (excess : Decimal) : Outcome (Option Decimal) :=
  match current with
  | none => .ok none
  | some current => some <$> current.add ambient excess

def excessMarginReason (issue : String) : String := "15c3-3.excess_margin[" ++ issue ++ "]"

/-- The excess margin of an issue cannot be told. -/
def Margins.unknown (margins : Margins) (issue reason : String) : Margins :=
  { margins with
    excessMargin := margins.excessMargin.set issue none
    reasons := margins.reasons.set (excessMarginReason issue) reason }

/-- One customer position added to what must be held. -/
def marginPosition (results : Dict String MarginResult) (threshold : Option Decimal)
    (margins : Margins) (position : String × String × FiniteDecimal) : Outcome Margins :=
  let (accountId, issue, quantity) := position
  if quantity.le 0 then .ok margins
  else
    match results.get? accountId with
    | none => .ok (margins.unknown issue ("margin result for account " ++ accountId ++
        " is absent"))
    | some result =>
      if result.debitBalance.eq 0 then do
        let fullyPaid ← margins.fullyPaid.addTo ambient issue quantity
        .ok { margins with fullyPaid }
      else
        match threshold with
        | none => .ok (margins.unknown issue
            ("the margin result computes money requirements but not excess-margin " ++
              "security quantity"))
        | some threshold => do
          let excess ← excessQuantity threshold result quantity
          let total ← addExcess (margins.excessMargin.getD issue (some 0)) excess
          .ok { margins with
            excessMargin := margins.excessMargin.set issue total
            reasons :=
              if (margins.reasons.get? (excessMarginReason issue)).isSome then margins.reasons
              else margins.reasons.set (excessMarginReason issue) excessMarginMethod }

/-! ## The projection -/

/-- Every line of the journal with its entry. -/
def entryLines (books : EquitiesBooks) : List (JournalEntry × LedgerLine) :=
  books.entries.flatMap fun entry => entry.lines.map fun line => (entry, line)

/-- The positions of a nested dictionary, one after the other. -/
def flatPositions (positions : Dict String (Dict String FiniteDecimal)) :
    List (String × String × FiniteDecimal) :=
  positions.items.flatMap fun account =>
    account.2.items.map fun item => (account.1, item.1, item.2)

/-- The entries of a dictionary in the order of its keys. -/
def sortedItems (d : Dict String FiniteDecimal) : List (String × FiniteDecimal) :=
  (d.keys.insertionSort (· ≤ ·)).map fun key => (key, d.getD key 0)

/-- The lines of a reserve computation. -/
def lineBalances (lines : Dict String (Option Decimal)) : Outcome (List LineBalance) :=
  Outcome.collect (fun item => do
    let amount ← NonNegativeMoney.checkOptional item.2
    .ok ⟨item.1, amount⟩) lines.items

def reserveInputs (request : ProjectionRequest) (accounts : ReserveAccounts)
    (lines : Dict String (Option Decimal)) : Outcome ReserveInputs := do
  let lines ← lineBalances lines
  .ok {
    accounts
    asOf := request.asOf
    standard := request.firmProfile.netCapitalStandard
    mode := .weekly
    lines
    averageTotalCredits := none
    qualifiedSecuritiesDeposit := none }

/-- The firm's position in one issue, at its price. -/
def marketPosition (prices : Dict String Decimal) (item : String × FiniteDecimal) :
    Outcome Position := do
  let price ← priceOf prices item.1
  let long ← Decimal.mul ambient (item.2.max 0) price
  let negated ← item.2.neg ambient
  let short ← Decimal.mul ambient (negated.max 0) price
  let longMarketValue ← NonNegativeMoney.check long
  let shortMarketValue ← NonNegativeMoney.check short
  if h : item.1 ≠ "" then
    .ok { issue := item.1, assetClass := AssetClass.equity.value, longMarketValue,
          shortMarketValue, issue_nonempty := h }
  else .error (.valueError "string_too_short")

/-- What must be held of one issue, and where it is. -/
def issueRequirement (margins : Margins) (holdings : Dict String (List Holding))
    (item : String × FiniteDecimal) : Outcome IssueRequirement := do
  let fullyPaid ← NonNegativeMoney.check (margins.fullyPaid.getD item.1 0)
  let excessMargin ← NonNegativeMoney.checkOptional (margins.excessMargin.getD item.1 (some 0))
  let booksTotal ← NonNegativeMoney.check item.2
  if h : item.1 ≠ "" then
    .ok { issue := item.1, fullyPaid := some fullyPaid, excessMargin,
          booksTotal := some booksTotal, holdings := holdings.getD item.1 [], issue_nonempty := h }
  else .error (.valueError "string_too_short")

/-- The rule ids of the lines that are there, or of those that are not, sorted. -/
def ruleIdsWhere (lines : Dict String (Option Decimal)) (present : Bool) : List String :=
  ((lines.items.filter fun item => item.2.isSome = present).map Prod.fst).insertionSort (· ≤ ·)

/-- Why what is not derived is not. -/
def initialReasons (notDerived : List String) : Dict String String :=
  (Dict.ofPairs (notDerived.map fun ruleId =>
      (ruleId, "not derivable from currently wired equities sources"))).setAll [
    ("17a-11.reports_lending_activity_monthly",
      "the books do not state whether the firm files monthly lending reports"),
    ("17a-11.securities_loaned_and_repo_payable",
      "stock-loan value is derived, but repo payable is not wired to the equities books"),
    ("17a-11.securities_borrowed_and_reverse_repo_value",
      "stock-borrow value is derived, but reverse-repo value is not wired to the " ++
        "equities books")]

/-- Build all inputs from the same replay of the journal. -/
def projectCustomerProtection (digest : EquitiesBooks → String) (books : EquitiesBooks)
    (request : ProjectionRequest) : Outcome ProtectionInputs := do
  let lines := books.entries.flatMap JournalEntry.lines
  let scan ← Outcome.foldSteps scanLine {} lines
  let holdings ← Outcome.foldSteps addHolding .empty scan.locationBalances.items
  let customerDebits ← customerDebitsOf scan.customerCash.values
  let freeCredits ← freeCreditsOf scan.customerCash.values
  let sources ← Outcome.foldSteps (reserveLine request)
    { customerLines := noLines, pabLines := noLines } (entryLines books)
  let stockLoaned ← Outcome.foldSteps (loanedLine request.prices) 0 lines
  let customerLines := (sources.customerLines.set customerFreeCreditRuleId
    (some (.finite freeCredits))).set customerMarginDebitRuleId (some (.finite customerDebits))
  let notDerived := ruleIdsWhere customerLines false
  let reserve ← reserveInputs request .customer customerLines
  let pabReserve ← reserveInputs request .pab sources.pabLines
  let positions ← Outcome.collect (marketPosition request.prices) (sortedItems scan.ownership)
  let netWorth ← Money.check request.netWorth
  let aggregateDebitItems ← NonNegativeMoney.check customerDebits
  let netCapital : NetCapitalInputs :=
    { asOf := request.asOf
      standard := request.firmProfile.netCapitalStandard
      category := request.firmProfile.brokerDealerCategory
      netWorth := some netWorth
      positions
      aggregateDebitItems := some aggregateDebitItems }
  let margins ← Outcome.foldSteps
    (marginPosition (.ofPairs (request.marginResults.map fun result => (result.accountId, result)))
      request.excessMarginThreshold)
    { reasons := initialReasons notDerived } (flatPositions scan.customerPositions)
  let issues ← Outcome.collect (issueRequirement margins holdings) (sortedItems scan.ownership)
  let stockLoanedMarketValue ← Money.check stockLoaned
  .ok {
    reserve
    pabReserve
    netCapital
    control := { asOf := request.asOf, issues }
    audit := {
      mappingVersion
      derived := ruleIdsWhere customerLines true
      notDerived
      reasons := margins.reasons
      booksDigest := digest books
      exclusions := sources.exclusions
      stockLoanedMarketValue
      stockBorrowedContractValue := sources.stockBorrowedContractValue
      syntheticFirmProfile := request.firmProfile.profileName }
    firmProfile := request.firmProfile }

end Atreides
