import Mathlib.Data.String.Basic
import Mathlib.Data.Fintype.Defs
import Mathlib.Data.List.Sort
import Atreides.Foundation.Date
import Atreides.Foundation.Tally
import Atreides.Foundation.Text
import Atreides.Kernel

/-!
# The equities book of record

A journal of balanced entries, appended to and never rewritten, and the stock-record
breaks its verification raises. Lines, facts and entries carry what their validators
check, so an entry that does not balance cannot be built.

## Main definitions

* `LedgerLine`, `ReserveSourceFact`, `JournalEntry` — one posting and its parts
* `EquitiesBooks` — the journal, its index by source event and the recorded breaks
* `EquitiesBooks.post`, `quantities`, `verifyStockRecord` — the operations
-/

namespace Atreides

/-! ## Vocabulary -/

inductive AccountType
  | customerCash
  | customerMargin
  | firmProprietary
  | pab
  | failToReceive
  | stockBorrowed
  | dtc
  | bankControl
  | failToDeliver
  | stockLoaned
  | inTransfer
  | cash
  | reserveBankCustomer
  | reserveBankPab
  deriving DecidableEq, Repr

instance : Fintype AccountType where
  elems := {.customerCash, .customerMargin, .firmProprietary, .pab, .failToReceive,
    .stockBorrowed, .dtc, .bankControl, .failToDeliver, .stockLoaned, .inTransfer, .cash,
    .reserveBankCustomer, .reserveBankPab}
  complete accountType := by cases accountType <;> decide

def AccountType.value : AccountType → String
  | customerCash => "CUSTOMER_CASH"
  | customerMargin => "CUSTOMER_MARGIN"
  | firmProprietary => "FIRM_PROPRIETARY"
  | pab => "PAB"
  | failToReceive => "FAIL_TO_RECEIVE"
  | stockBorrowed => "STOCK_BORROWED"
  | dtc => "DTC"
  | bankControl => "BANK_CONTROL"
  | failToDeliver => "FAIL_TO_DELIVER"
  | stockLoaned => "STOCK_LOANED"
  | inTransfer => "IN_TRANSFER"
  | cash => "CASH"
  | reserveBankCustomer => "RESERVE_BANK_CUSTOMER"
  | reserveBankPab => "RESERVE_BANK_PAB"

/-- The account types a reserve source fact may name. -/
def AccountType.isReserveSource : AccountType → Bool
  | failToReceive | stockBorrowed | failToDeliver => true
  | _ => false

inductive RecordSide
  | ownership
  | location
  | money
  deriving DecidableEq, Repr

inductive PostingSource
  | tradeCapture
  | allocation
  | cnsSettlement
  | cnsFail
  | corporateAction
  | cashMovement
  | stockLoan
  | marginInterest
  | reversal
  deriving DecidableEq, Repr

inductive ReserveActivity
  | customer
  | pab
  | firm
  deriving DecidableEq, Repr

inductive EffectiveDateBasis
  | tradeDate
  | settlementDate
  | payDate
  | valueDate
  deriving DecidableEq, Repr

/-- Three capital letters. -/
def isCurrencyCode (s : String) : Bool :=
  s.length = 3 && s.toList.all fun c => 'A' ≤ c && c ≤ 'Z'

/-! ## Facts, lines and entries -/

/-- Source-trade facts needed to classify and value the fail and borrow lines. -/
@[ext]
structure ReserveSourceFact where
  accountType : AccountType
  issue : String
  activity : ReserveActivity
  settlementDate : Date
  contractPrice : FiniteDecimal
  issue_nonempty : issue ≠ ""
  contractPrice_pos : FiniteDecimal.lt 0 contractPrice = true
  isReserveSource : accountType.isReserveSource = true

instance : DecidableEq ReserveSourceFact :=
  fun _ _ => decidable_of_iff _ ReserveSourceFact.ext_iff.symm

/-- A line carries a quantity of an issue or an amount of money, and the side it needs. -/
def oneUnit (issue : Option String) (quantity : FiniteDecimal) (currency : Option String)
    (money : FiniteDecimal) (recordSide : RecordSide) : Outcome Unit :=
  let security := issue.isSome && !quantity.isZero && currency.isNone
  let cash := currency.isSome && !money.isZero && issue.isNone
  if security = cash then
    .error (.valueError "ledger line must carry exactly one of security quantity or money")
  else if security && recordSide = .money then
    .error (.valueError "security line requires an ownership or location side")
  else if cash && recordSide ≠ .money then
    .error (.valueError "money line requires the MONEY side")
  else .ok ()

/-- One side of a posting. -/
@[ext]
structure LedgerLine where
  accountId : String
  accountType : AccountType
  recordSide : RecordSide
  issue : Option String := none
  quantity : FiniteDecimal := 0
  currency : Option String := none
  money : FiniteDecimal := 0
  accountId_nonempty : accountId ≠ "" := by decide
  currency_code : currency.all isCurrencyCode = true := by decide
  one_unit : oneUnit issue quantity currency money recordSide = .ok () := by decide

theorem LedgerLine.no_currency : (none : Option String).all isCurrencyCode = true := rfl

instance : DecidableEq LedgerLine := fun _ _ => decidable_of_iff _ LedgerLine.ext_iff.symm

/-- Evidence that the entry was posted to the books and records. -/
structure BooksPosting where
  postedRecordId : String
  postingAuthority : ActorRef
  effectiveTime : Timestamp
  sourceEventId : String
  provenance : Provenance
  deriving DecidableEq

/-- An amount added under a key, where there is one. -/
def addUnder (nets : Dict String FiniteDecimal) (key : Option String) (amount : FiniteDecimal) :
    Outcome (Dict String FiniteDecimal) :=
  match key with
  | some key => nets.addTo .ambient key amount
  | none => .ok nets

/-- The net quantity of each issue and the net money of each currency over the lines. -/
def netOfLines (lines : List LedgerLine) :
    Outcome (Dict String FiniteDecimal × Dict String FiniteDecimal) :=
  Outcome.foldSteps (fun nets line => do
    let securities ← addUnder nets.1 line.issue line.quantity
    let money ← addUnder nets.2 line.currency line.money
    .ok (securities, money)) (.empty, .empty) lines

/-- The keys of a dictionary that hold a nonzero amount, sorted. -/
def unbalancedKeys (d : Dict String FiniteDecimal) : List String :=
  ((d.items.filter fun item => !item.2.isZero).map Prod.fst).insertionSort (· ≤ ·)

/-- The fail and borrow lines of an entry, as account type and issue. -/
def reserveLines (lines : List LedgerLine) : List (AccountType × Option String) :=
  (lines.filter fun line => line.accountType.isReserveSource).map
    fun line => (line.accountType, line.issue)

/-- The account types and issues the facts of an entry name. -/
def reserveFacts (facts : List ReserveSourceFact) : List (AccountType × Option String) :=
  facts.map fun fact => (fact.accountType, some fact.issue)

/-- An entry names its own event, balances, and is attributable. -/
def balancedAndAttributable (sourceEventId : String) (source : PostingSource)
    (lines : List LedgerLine) (posting : BooksPosting) (facts : List ReserveSourceFact)
    (reversesEntryId : Option String) (synthetic : Bool) : Outcome Unit := do
  if posting.sourceEventId ≠ sourceEventId then
    throw (.valueError "posting evidence names a different source event")
  let (securities, money) ← netOfLines lines
  let unbalancedIssues := unbalancedKeys securities
  let unbalancedCurrencies := unbalancedKeys money
  if unbalancedIssues ≠ [] ∨ unbalancedCurrencies ≠ [] then
    throw (.valueError ("journal entry is unbalanced: issues=" ++ quotedList unbalancedIssues ++
      ", currencies=" ++ quotedList unbalancedCurrencies))
  if source = .reversal ∧ reversesEntryId = none then
    throw (.valueError "a reversal must name the entry it reverses")
  if source ≠ .reversal ∧ reversesEntryId ≠ none then
    throw (.valueError "only a reversal may name a reversed entry")
  if source = .marginInterest ∧ !synthetic then
    throw (.valueError "margin interest accrual must be labelled synthetic")
  if ¬ (reserveLines lines ⊆ reserveFacts facts ∧ reserveFacts facts ⊆ reserveLines lines) then
    throw (.valueError "every fail and stock borrow line requires one matching source fact")

/-- One balanced, attributable entry of the journal. -/
@[ext]
structure JournalEntry where
  entryId : String
  sourceEventId : String
  source : PostingSource
  effectiveDate : Date
  effectiveDateBasis : EffectiveDateBasis
  authority : String
  lines : List LedgerLine
  posting : BooksPosting
  reserveSourceFacts : List ReserveSourceFact := []
  reversesEntryId : Option String := none
  synthetic : Bool := false
  entryId_nonempty : entryId ≠ ""
  sourceEventId_nonempty : sourceEventId ≠ ""
  authority_nonempty : authority ≠ ""
  two_lines : 2 ≤ lines.length
  balanced_and_attributable : balancedAndAttributable sourceEventId source lines posting
    reserveSourceFacts reversesEntryId synthetic = .ok ()

instance : DecidableEq JournalEntry := fun _ _ => decidable_of_iff _ JournalEntry.ext_iff.symm

/-! ## Breaks and results -/

/-- A difference between what the books own and where it was found. -/
@[ext]
structure StockRecordBreak where
  breakId : String
  issue : String
  ownershipQuantity : FiniteDecimal
  locationQuantity : FiniteDecimal
  difference : FiniteDecimal
  owner : String
  state : String := "OPEN"
  owner_nonempty : owner ≠ ""

instance : DecidableEq StockRecordBreak :=
  fun _ _ => decidable_of_iff _ StockRecordBreak.ext_iff.symm

structure DuplicatePosting where
  sourceEventId : String
  originalEntryId : String
  duplicateEntryId : String
  deriving DecidableEq

structure PostingResult where
  posted : Bool
  entry : JournalEntry
  duplicate : Option DuplicatePosting := none
  breakReason : Option String := none
  deriving DecidableEq

/-- The journal, the entry of each source event, and the breaks on record. -/
structure EquitiesBooks where
  breakOwner : String
  entries : List JournalEntry
  bySource : Dict String JournalEntry
  breaks : List StockRecordBreak

namespace EquitiesBooks

/-- Books with nothing posted. -/
def new (breakOwner : String) : EquitiesBooks := ⟨breakOwner, [], .empty, []⟩

/-- Post an entry once per source event. An event posted before returns the original
entry; a reversal must name an entry of the journal. -/
def post (canonicalBytesOf : JournalEntry → List UInt8) (books : EquitiesBooks)
    (entry : JournalEntry) : Outcome (EquitiesBooks × PostingResult) :=
  match books.bySource.get? entry.sourceEventId with
  | some original =>
    let identical := canonicalBytesOf original = canonicalBytesOf entry
    .ok (books, {
      posted := false
      entry := original
      duplicate := some ⟨entry.sourceEventId, original.entryId, entry.entryId⟩
      breakReason :=
        if identical then none
        else some "source_event_id was reused with different posting economics" })
  | none =>
    if entry.reversesEntryId.any fun reversed =>
        !books.entries.any fun prior => prior.entryId = reversed then
      .error (.valueError "reversal refers to an entry not present in the journal")
    else
      .ok ({ books with
          entries := books.entries ++ [entry]
          bySource := books.bySource.set entry.sourceEventId entry },
        { posted := true, entry })

/-- The net quantity of each issue on each side, over the whole journal. -/
def quantities (books : EquitiesBooks) :
    Outcome (Dict String (Dict RecordSide FiniteDecimal)) :=
  Outcome.foldSteps (fun result line =>
    match line.issue with
    | some issue => result.addToInner .ambient issue line.recordSide line.quantity
    | none => .ok result) .empty (books.entries.flatMap JournalEntry.lines)

/-- Where an issue was found: as observed, or as the location lines of the books say. -/
def locationOf (observed : Option (Dict String Decimal)) (issue : String)
    (sides : Dict RecordSide FiniteDecimal) : Outcome Decimal :=
  match observed with
  | some locations => .ok (locations.getD issue 0)
  | none => Decimal.finite <$> FiniteDecimal.neg .ambient (sides.getD .location 0)

/-- The break on record for an issue that is still open. -/
def openBreak (breaks : List StockRecordBreak) (issue : String) : Option StockRecordBreak :=
  breaks.find? fun item => item.issue = issue && item.state = "OPEN"

/-- The identifier of the break that would be recorded next. -/
def nextBreakId (breaks : List StockRecordBreak) (issue : String) : String :=
  "STOCK-RECORD-" ++ issue ++ "-" ++ toString (breaks.length + 1)

/-- A record accepts finite quantities and a named owner only. -/
def buildBreak (breakId issue owner : String) (ownership : FiniteDecimal) :
    Decimal → Decimal → Outcome StockRecordBreak
  | .finite location, .finite difference =>
    if h : owner ≠ "" then
      .ok { breakId, issue, ownershipQuantity := ownership, locationQuantity := location,
            difference, owner, owner_nonempty := h }
    else .error (.valueError "owner")
  | _, _ => .error (.valueError "finite_number")

/-- Equality of two records: quantities are compared as numbers. -/
def sameBreak (a b : StockRecordBreak) : Bool :=
  a.breakId = b.breakId && a.issue = b.issue &&
    a.ownershipQuantity.eq b.ownershipQuantity && a.locationQuantity.eq b.locationQuantity &&
    a.difference.eq b.difference && a.owner = b.owner && a.state = b.state

/-- Check one issue. The breaks are what the check leaves behind, also when it raises. -/
def verifyIssue (owner : String) (observed : Option (Dict String Decimal)) (issue : String)
    (sides : Dict RecordSide FiniteDecimal) (breaks : List StockRecordBreak) :
    List StockRecordBreak × Outcome Unit :=
  let ownership := sides.getD .ownership 0
  match (do
      let location ← locationOf observed issue sides
      let difference ← Decimal.sub .ambient ownership location
      .ok (location, difference) : Outcome (Decimal × Decimal)) with
  | .error e => (breaks, .error e)
  | .ok (location, difference) =>
    let record (breaks : List StockRecordBreak) : List StockRecordBreak × Outcome Unit :=
      match buildBreak (nextBreakId breaks issue) issue owner ownership location difference with
      | .error e => (breaks, .error e)
      | .ok recorded => (breaks ++ [recorded], .ok ())
    if difference.truthy then
      match openBreak breaks issue with
      | none => record breaks
      | some existing =>
        match Decimal.eq existing.difference difference with
        | .error e => (breaks, .error e)
        | .ok true => (breaks, .ok ())
        -- the difference changed: the open record is removed and a new one appended
        | .ok false => record (breaks.eraseP fun item => sameBreak item existing)
    else (breaks, .ok ())

/-- Check the issues in turn, until one raises. -/
def verifyIssues (owner : String) (observed : Option (Dict String Decimal)) :
    List (String × Dict RecordSide FiniteDecimal) → List StockRecordBreak →
      List StockRecordBreak × Outcome Unit
  | [], breaks => (breaks, .ok ())
  | (issue, sides) :: rest, breaks =>
    match verifyIssue owner observed issue sides breaks with
    | (breaks', .error e) => (breaks', .error e)
    | (breaks', .ok ()) => verifyIssues owner observed rest breaks'

/-- Compare what the books own with where it was found, issue by issue, and record the
differences. The books are what the call leaves behind, also when it raises. -/
def verifyStockRecord (books : EquitiesBooks) (observed : Option (Dict String Decimal)) :
    EquitiesBooks × Outcome (List StockRecordBreak) :=
  match books.quantities with
  | .error e => (books, .error e)
  | .ok quantities =>
    let (breaks, outcome) :=
      verifyIssues books.breakOwner observed quantities.items books.breaks
    ({ books with breaks }, (fun _ => breaks) <$> outcome)

end EquitiesBooks

end Atreides
