import Atreides.Books.Ledger
import Atreides.Foundation.Decimal.Cancel
import Atreides.Foundation.KeyTotals
import Atreides.Simulator.ReserveDeposits

/-!
# Migration of accounts

The statement of a prior clearer is posted to new books, one entry a line, and an independent
reading of the books is compared with the statement. The reading adds up what the books hold;
what it expects of an account is the last line of it.

## Main definitions

* `migrationBooks` — the books of a statement
* `migrationConserved` — the comparison with a statement
* `Conserves` — the statements whose books are found conserved

## Main results

* `foldSteps_addHeld` — the reading of the books as two tallies
* `postLines_spec`, `postLines_returns` — what the books of a statement hold
* `migration_conserved_iff` — the check accepts just the complete migrations of a statement
  exactly where the statement conserves itself
-/

namespace Atreides

namespace Simulator

/-! ## Lines and entries -/

/-- A ledger line, with the checks it passes when it is built. -/
def ledgerLine (accountId : String) (accountType : AccountType) (recordSide : RecordSide)
    (issue : Option String) (quantity : Decimal) (currency : Option String) (money : Decimal) :
    Outcome LedgerLine :=
  match quantity, money with
  | .finite q, .finite m =>
    if hid : accountId ≠ "" then
      if hcode : currency.all isCurrencyCode = true then
        Outcome.checked (oneUnit issue q currency m recordSide) fun hunit => {
          accountId, accountType, recordSide, issue, quantity := q, currency, money := m
          accountId_nonempty := hid, currency_code := hcode, one_unit := hunit }
      else .error (.valueError "String should match pattern '^[A-Z]\x7b3\x7d$'")
    else .error (.valueError "String should have at least 1 character")
  | _, _ => .error (.valueError "Input should be a finite number")

/-- Who posts for the simulated firm. -/
def estateActor : ActorRef where
  actorId := identifier "act_" 71
  actorKind := .deterministicService
  role := "sim-1b-estate-adapter"
  entitlementRefs := ["SIM-1B"]
  authenticated := true

def conversionPosting (number : ℕ) (day : Date) : BooksPosting where
  postedRecordId := "CONV-1-" ++ toString number
  postingAuthority := estateActor
  effectiveTime := .midnight day
  sourceEventId := identifier "evt_" number
  provenance := .factSynthetic

/-- A line of the prior clearer's statement. -/
structure StatementLine where
  account : String
  issue : String
  quantity : Decimal
  cashCredit : Decimal
  deriving DecidableEq

/-- The number of the event that posts the line at a place. -/
def migrationEvent (index : ℕ) : ℕ := 710000000 + index

/-- The lines of an entry: the customer's securities and their location, the customer's cash and
its funding. -/
def migrationLines (line : StatementLine) (transferred : Bool) : Outcome (List LedgerLine) := do
  let owned ← ledgerLine line.account .customerCash .ownership line.issue line.quantity none 0
  let quantity ← line.quantity.neg .ambient
  let located ← ledgerLine "SYN-PRIOR-CLEARER" (if transferred then .dtc else .firmProprietary)
    .location line.issue quantity none 0
  let credited ← ledgerLine line.account .customerCash .money none 0 (some "USD") line.cashCredit
  let cash ← line.cashCredit.neg .ambient
  let funded ← ledgerLine "SYN-CONVERSION-FUNDING" .cash .money none 0 (some "USD") cash
  .ok [owned, located, credited, funded]

/-- The entry of a line, with the checks it passes when it is built. -/
def migrationEntry (day : Date) (transferred : Bool) (line : StatementLine) (index : ℕ) :
    Outcome JournalEntry := do
  let lines ← migrationLines line transferred
  if htwo : 2 ≤ lines.length then
    Outcome.checked (balancedAndAttributable (identifier "evt_" (migrationEvent index))
      .cashMovement lines (conversionPosting (migrationEvent index) day) [] none true)
      fun hbalanced => {
        entryId := "CONV-1-MIGRATION-" ++ toString index
        sourceEventId := identifier "evt_" (migrationEvent index)
        source := .cashMovement
        effectiveDate := day
        effectiveDateBasis := .valueDate
        authority := "CONV-1_SYNTHETIC_PRIOR_CLEARER_STATEMENT"
        lines
        posting := conversionPosting (migrationEvent index) day
        synthetic := true
        entryId_nonempty := by simp
        sourceEventId_nonempty := by simp [identifier]
        authority_nonempty := by decide
        two_lines := htwo
        balanced_and_attributable := hbalanced }
  else .error (.valueError "Tuple should have at least 2 items after validation")

section

variable (canonicalBytesOf : JournalEntry → List UInt8) (day : Date) (transferred : Bool)

/-- Post the entry of a numbered line. -/
def postLine (books : EquitiesBooks) (numbered : StatementLine × ℕ) : Outcome EquitiesBooks := do
  let entry ← migrationEntry day transferred numbered.1 numbered.2
  let (books, _) ← books.post canonicalBytesOf entry
  .ok books

/-- The books of a statement. -/
def migrationBooks (lines : List StatementLine) : Outcome EquitiesBooks :=
  Outcome.foldSteps (postLine canonicalBytesOf day transferred) (.new "CONV_1_SETTLEMENT_OPS")
    (lines.zipIdx 1)

end

/-! ## The check -/

/-- What a ledger line adds to the customers' securities that the books hold. -/
def addSecurities (held : Dict (String × String) FiniteDecimal) (line : LedgerLine) :
    Outcome (Dict (String × String) FiniteDecimal) :=
  match line.issue with
  | some issue =>
    if line.accountType = .customerCash ∧ line.recordSide = .ownership ∧ issue ≠ "" then
      held.addTo .ambient (line.accountId, issue) line.quantity
    else .ok held
  | none => .ok held

/-- What a ledger line adds to their cash. -/
def addCash (held : Dict String FiniteDecimal) (line : LedgerLine) :
    Outcome (Dict String FiniteDecimal) :=
  if line.accountType = .customerCash ∧ line.currency = some "USD" then
    held.addTo .ambient line.accountId line.money
  else .ok held

def addHeld (held : Dict (String × String) FiniteDecimal × Dict String FiniteDecimal)
    (line : LedgerLine) :
    Outcome (Dict (String × String) FiniteDecimal × Dict String FiniteDecimal) := do
  let securities ← addSecurities held.1 line
  let cash ← addCash held.2 line
  .ok (securities, cash)

/-- The books hold what the statement says, the last line of an account and issue counting for
all of them. -/
def migrationConserved (books : EquitiesBooks) (lines : List StatementLine) : Outcome Bool := do
  let expectedQuantity := Dict.ofPairs (lines.map fun line => ((line.account, line.issue),
    line.quantity))
  let expectedCash := Dict.ofPairs (lines.map fun line => (line.account, line.cashCredit))
  let held ← Outcome.foldSteps addHeld (.empty, .empty) (books.entries.flatMap JournalEntry.lines)
  let same ← held.1.sameNumbers expectedQuantity
  if same then held.2.sameNumbers expectedCash else .ok false

/-! ## Amounts that can be posted -/

/-- An amount that can be posted with its negative: finite, and neither it nor its rounded negative
is zero. -/
def Posts (amount : Decimal) : Prop :=
  ∃ d n : FiniteDecimal, amount = .finite d ∧ d.neg .ambient = .ok n ∧ d.isZero = false ∧
    n.isZero = false

theorem oneUnit_security {issue : String} {quantity : FiniteDecimal} {side : RecordSide}
    (hside : side ≠ .money) :
    oneUnit (some issue) quantity none 0 side = .ok () ↔ quantity.isZero = false := by
  rw [oneUnit]
  cases hzero : quantity.isZero <;> simp [hside]

theorem oneUnit_money {currency : String} {money : FiniteDecimal} :
    oneUnit none 0 (some currency) money .money = .ok () ↔ money.isZero = false := by
  rw [oneUnit]
  cases hzero : money.isZero <;> simp

section

variable {accountId : String} {accountType : AccountType} {recordSide : RecordSide}
  {issue currency : Option String} {quantity money : Decimal} {built : LedgerLine}

/-- What a line that was built holds. -/
theorem ledgerLine_spec
    (h : ledgerLine accountId accountType recordSide issue quantity currency money = .ok built) :
    accountId ≠ "" ∧ oneUnit issue built.quantity currency built.money recordSide = .ok () ∧
      built.accountId = accountId ∧ built.accountType = accountType ∧
      built.recordSide = recordSide ∧ built.issue = issue ∧ built.currency = currency ∧
      quantity = .finite built.quantity ∧ money = .finite built.money := by
  unfold ledgerLine at h
  cases quantity with
  | infinite _ => cases h
  | nan _ _ _ => cases h
  | finite q =>
    cases money with
    | infinite _ => cases h
    | nan _ _ _ => cases h
    | finite m =>
      split_ifs at h with hid hcode
      obtain ⟨hunit, rfl⟩ := Outcome.checked_eq_ok.mp h
      exact ⟨hid, hunit, rfl, rfl, rfl, rfl, rfl, rfl, rfl⟩

theorem ledgerLine_returns {q m : FiniteDecimal} (hid : accountId ≠ "")
    (hcode : currency.all isCurrencyCode = true)
    (hunit : oneUnit issue q currency m recordSide = .ok ()) :
    ∃ built, ledgerLine accountId accountType recordSide issue (.finite q) currency (.finite m) =
      .ok built := by
  unfold ledgerLine
  dsimp only
  rw [dif_pos hid, dif_pos hcode]
  exact ⟨_, Outcome.checked_eq_ok.mpr ⟨hunit, rfl⟩⟩

end

/-! ## What an entry reads as -/

/-- The customer's securities on a ledger line. -/
def customerSecurity (line : LedgerLine) : List ((String × String) × FiniteDecimal) :=
  match line.issue with
  | some issue =>
    if line.accountType = .customerCash ∧ line.recordSide = .ownership ∧ issue ≠ "" then
      [((line.accountId, issue), line.quantity)]
    else []
  | none => []

/-- The customer's cash on a ledger line. -/
def customerCash (line : LedgerLine) : List (String × FiniteDecimal) :=
  if line.accountType = .customerCash ∧ line.currency = some "USD" then
    [(line.accountId, line.money)]
  else []

theorem addSecurities_eq (held : Dict (String × String) FiniteDecimal) (line : LedgerLine) :
    addSecurities held line = held.addAll .ambient (customerSecurity line) := by
  unfold addSecurities customerSecurity
  rcases line.issue with _ | issue
  · rfl
  · dsimp only
    split_ifs
    · exact (Dict.addAll_singleton _).symm
    · rfl

theorem addCash_eq (held : Dict String FiniteDecimal) (line : LedgerLine) :
    addCash held line = held.addAll .ambient (customerCash line) := by
  rw [addCash, customerCash]
  split_ifs
  · exact (Dict.addAll_singleton _).symm
  · rfl

/-- What the reading of ledger lines comes to is a tally of securities and one of cash. -/
theorem foldSteps_addHeld {lines : List LedgerLine}
    {securities securities' : Dict (String × String) FiniteDecimal}
    {cash cash' : Dict String FiniteDecimal} :
    Outcome.foldSteps addHeld (securities, cash) lines = .ok (securities', cash') ↔
      securities.addAll .ambient (lines.flatMap customerSecurity) = .ok securities' ∧
        cash.addAll .ambient (lines.flatMap customerCash) = .ok cash' := by
  induction lines generalizing securities cash with
  | nil =>
    rw [Outcome.foldSteps_nil, List.flatMap_nil, List.flatMap_nil, Dict.addAll_nil,
      Dict.addAll_nil]
    simp
  | cons line rest ih =>
    rw [Outcome.foldSteps_cons, List.flatMap_cons, List.flatMap_cons, Dict.addAll_append,
      Dict.addAll_append, Outcome.bind_eq_ok, Outcome.bind_eq_ok, Outcome.bind_eq_ok]
    constructor
    · rintro ⟨⟨s, c⟩, hline, hrest⟩
      obtain ⟨hs, hc⟩ := ih.mp hrest
      rw [addHeld, Outcome.bind_eq_ok] at hline
      obtain ⟨s₁, hs₁, hline⟩ := hline
      rw [Outcome.bind_eq_ok] at hline
      obtain ⟨c₁, hc₁, heq⟩ := hline
      cases heq
      rw [addSecurities_eq] at hs₁
      rw [addCash_eq] at hc₁
      exact ⟨⟨s, hs₁, hs⟩, c, hc₁, hc⟩
    · rintro ⟨⟨s, hs₁, hs⟩, c, hc₁, hc⟩
      refine ⟨(s, c), ?_, ih.mpr ⟨hs, hc⟩⟩
      rw [addHeld, addSecurities_eq, hs₁, Outcome.ok_bind, addCash_eq, hc₁, Outcome.ok_bind]

/-- A line of a statement that the books take: an account with a name, and amounts that can be
posted. -/
structure Postable (line : StatementLine) : Prop where
  account_named : line.account ≠ ""
  quantity_posts : Posts line.quantity
  cash_posts : Posts line.cashCredit

/-! ## The lines of an entry -/

section

variable {accountId issue : String} {accountType : AccountType} {recordSide : RecordSide}
  {amount : Decimal} {built : LedgerLine}

/-- What a line of securities holds. -/
theorem security_spec (hside : recordSide ≠ .money)
    (h : ledgerLine accountId accountType recordSide (some issue) amount none 0 = .ok built) :
    accountId ≠ "" ∧ built.quantity.isZero = false ∧ amount = .finite built.quantity ∧
      built.accountId = accountId ∧ built.accountType = accountType ∧
      built.recordSide = recordSide ∧ built.issue = some issue ∧ built.currency = none := by
  obtain ⟨hid, hunit, haccount, htype, hrecord, hissue, hcurrency, hquantity, hmoney⟩ :=
    ledgerLine_spec h
  have hnone : built.money = 0 := (Decimal.finite.inj hmoney).symm
  rw [hnone] at hunit
  exact ⟨hid, (oneUnit_security hside).mp hunit, hquantity, haccount, htype, hrecord, hissue,
    hcurrency⟩

/-- What a line of money holds. -/
theorem money_spec
    (h : ledgerLine accountId accountType .money none 0 (some "USD") amount = .ok built) :
    accountId ≠ "" ∧ built.money.isZero = false ∧ amount = .finite built.money ∧
      built.accountId = accountId ∧ built.accountType = accountType ∧ built.issue = none ∧
      built.currency = some "USD" := by
  obtain ⟨hid, hunit, haccount, htype, -, hissue, hcurrency, hquantity, hmoney⟩ :=
    ledgerLine_spec h
  have hnone : built.quantity = 0 := (Decimal.finite.inj hquantity).symm
  rw [hnone] at hunit
  exact ⟨hid, oneUnit_money.mp hunit, hmoney, haccount, htype, hissue, hcurrency⟩

end

theorem neg_eq_ok {amount negative : Decimal} {d n : FiniteDecimal}
    (hamount : amount = .finite d) (hnegative : negative = .finite n)
    (h : amount.neg .ambient = .ok negative) : d.neg .ambient = .ok n := by
  subst hamount hnegative
  obtain ⟨_, hn, hfinite⟩ := Outcome.map_eq_ok.mp (show Decimal.finite <$> d.neg .ambient = _ from h)
  cases hfinite
  exact hn

/-- The net of a pair of amounts that cancel is balanced. -/
theorem unbalancedKeys_of_cancel {k : String} {d n : FiniteDecimal} (h : d.neg .ambient = .ok n) :
    ∃ nets nets', addUnder .empty (some k) d = .ok nets ∧ addUnder nets (some k) n = .ok nets' ∧
      unbalancedKeys nets' = [] := by
  obtain ⟨r, z, hr, hz, hzero⟩ := FiniteDecimal.add_then_neg h
  refine ⟨Dict.empty.set k r, (Dict.empty.set k r).set k z, ?_, ?_, ?_⟩
  · show Dict.addTo .ambient Dict.empty k d = _
    rw [Dict.addTo, Dict.getD, Dict.get?_empty, Option.getD_none, hr, Outcome.ok_bind]
  · show Dict.addTo .ambient (Dict.empty.set k r) k n = _
    rw [Dict.addTo, Dict.getD, Dict.get?_set_self, Option.getD_some, hz, Outcome.ok_bind]
  · have hitems : ((Dict.empty.set k r).set k z).items = [(k, z)] := by
      simp [Dict.set, Dict.store, Dict.empty]
    rw [unbalancedKeys, hitems]
    simp [FiniteDecimal.isZero_iff.mpr hzero]

section

variable {canonicalBytesOf : JournalEntry → List UInt8} {day : Date} {transferred : Bool}
  {line : StatementLine} {index : ℕ}

/-- The securities and the cash that the lines of an entry are read as. -/
def securityItems (line : StatementLine) : List ((String × String) × FiniteDecimal) :=
  if line.issue = "" then [] else finiteAmounts [((line.account, line.issue), line.quantity)]

def cashItems (line : StatementLine) : List (String × FiniteDecimal) :=
  finiteAmounts [(line.account, line.cashCredit)]

/-- What the lines of an entry are read as, and that they balance. -/
structure Entered (line : StatementLine) (lines : List LedgerLine) : Prop where
  postable : Postable line
  securities : lines.flatMap customerSecurity = securityItems line
  cash : lines.flatMap customerCash = cashItems line
  two_lines : 2 ≤ lines.length
  reserve_lines : reserveLines lines = []
  balanced : ∃ securities money, netOfLines lines = .ok (securities, money) ∧
    unbalancedKeys securities = [] ∧ unbalancedKeys money = []

theorem migrationLines_spec {lines : List LedgerLine}
    (h : migrationLines line transferred = .ok lines) : Entered line lines := by
  rw [migrationLines, Outcome.bind_eq_ok] at h
  obtain ⟨owned, howned, h⟩ := h
  rw [Outcome.bind_eq_ok] at h
  obtain ⟨quantity, hquantity, h⟩ := h
  rw [Outcome.bind_eq_ok] at h
  obtain ⟨located, hlocated, h⟩ := h
  rw [Outcome.bind_eq_ok] at h
  obtain ⟨credited, hcredited, h⟩ := h
  rw [Outcome.bind_eq_ok] at h
  obtain ⟨cash, hcash, h⟩ := h
  rw [Outcome.bind_eq_ok] at h
  obtain ⟨funded, hfunded, h⟩ := h
  cases h
  obtain ⟨hname, hzero₁, hq, haccount₁, htype₁, hside₁, hissue₁, hcurrency₁⟩ :=
    security_spec (by decide) howned
  obtain ⟨-, hzero₂, hnq, -, htype₂, hside₂, hissue₂, hcurrency₂⟩ :=
    security_spec (by decide) hlocated
  obtain ⟨-, hzero₃, hc, haccount₃, htype₃, hissue₃, hcurrency₃⟩ := money_spec hcredited
  obtain ⟨-, hzero₄, hnc, -, htype₄, hissue₄, hcurrency₄⟩ := money_spec hfunded
  have hneg := neg_eq_ok hq hnq hquantity
  have hneg' := neg_eq_ok hc hnc hcash
  have hlocation : located.accountType ≠ .customerCash ∧
      located.accountType.isReserveSource = false := by
    rw [htype₂]
    cases transferred <;> decide
  refine ⟨⟨hname, ⟨_, _, hq, hneg, hzero₁, hzero₂⟩, ⟨_, _, hc, hneg', hzero₃, hzero₄⟩⟩, ?_, ?_,
    by simp, ?_, ?_⟩
  · simp [customerSecurity, securityItems, finiteAmounts, hissue₁, htype₁, hside₁, haccount₁,
      hissue₂, hside₂, hissue₃, hissue₄, hq, ite_not]
  · simp [customerCash, cashItems, finiteAmounts, hcurrency₁, hcurrency₂, htype₃, hcurrency₃,
      haccount₃, htype₄, hc]
  · have hcustomer : AccountType.customerCash.isReserveSource = false := rfl
    have hcash : AccountType.cash.isReserveSource = false := rfl
    simp [reserveLines, htype₁, htype₃, htype₄, hlocation.2, hcustomer, hcash]
  · obtain ⟨nets, securities, hnets, hsecurities, hbalanced⟩ :=
      @unbalancedKeys_of_cancel line.issue _ _ hneg
    obtain ⟨nets', money, hnets', hmoney, hbalanced'⟩ := @unbalancedKeys_of_cancel "USD" _ _ hneg'
    refine ⟨securities, money, ?_, hbalanced, hbalanced'⟩
    have hkeep : ∀ d : Dict String FiniteDecimal, ∀ x, addUnder d none x = .ok d := fun _ _ => rfl
    rw [netOfLines]
    simp [Outcome.foldSteps_cons, hissue₁, hissue₂, hissue₃, hissue₄, hcurrency₁, hcurrency₂,
      hcurrency₃, hcurrency₄, hkeep, hnets, hsecurities, hnets', hmoney]

theorem migrationLines_returns (h : Postable line) :
    ∃ lines, migrationLines line transferred = .ok lines := by
  obtain ⟨hname, ⟨q, nq, hq, hneg, hzero, hzero'⟩, c, nc, hc, hneg', hcash, hcash'⟩ := h
  have hnq : line.quantity.neg .ambient = .ok (.finite nq) := by
    rw [hq]
    exact congrArg (Decimal.finite <$> ·) hneg
  have hnc : line.cashCredit.neg .ambient = .ok (.finite nc) := by
    rw [hc]
    exact congrArg (Decimal.finite <$> ·) hneg'
  have hdollars : Option.all isCurrencyCode (some "USD") = true := by decide
  have howned : ∃ built, ledgerLine line.account .customerCash .ownership line.issue line.quantity
      none 0 = .ok built := by
    rw [hq]
    exact ledgerLine_returns hname LedgerLine.no_currency
      ((oneUnit_security (by decide)).mpr hzero)
  have hlocated : ∃ built, ledgerLine "SYN-PRIOR-CLEARER"
      (if transferred then .dtc else .firmProprietary) .location line.issue (.finite nq) none 0 =
        .ok built :=
    ledgerLine_returns (by decide) LedgerLine.no_currency
      ((oneUnit_security (by decide)).mpr hzero')
  have hcredited : ∃ built, ledgerLine line.account .customerCash .money none 0 (some "USD")
      line.cashCredit = .ok built := by
    rw [hc]
    exact ledgerLine_returns hname hdollars (oneUnit_money.mpr hcash)
  have hfunded : ∃ built, ledgerLine "SYN-CONVERSION-FUNDING" .cash .money none 0 (some "USD")
      (.finite nc) = .ok built :=
    ledgerLine_returns (by decide) hdollars (oneUnit_money.mpr hcash')
  obtain ⟨owned, howned⟩ := howned
  obtain ⟨located, hlocated⟩ := hlocated
  obtain ⟨credited, hcredited⟩ := hcredited
  obtain ⟨funded, hfunded⟩ := hfunded
  exact ⟨[owned, located, credited, funded], by
    rw [migrationLines, howned, Outcome.ok_bind, hnq, Outcome.ok_bind, hlocated, Outcome.ok_bind,
      hcredited, Outcome.ok_bind, hnc, Outcome.ok_bind, hfunded, Outcome.ok_bind]⟩

/-- The lines of an entry pass its checks. -/
theorem Entered.balances {lines : List LedgerLine} (h : Entered line lines) (number : ℕ)
    (day : Date) : balancedAndAttributable (identifier "evt_" number) .cashMovement lines
      (conversionPosting number day) [] none true = .ok () := by
  obtain ⟨securities, money, hnet, hsecurities, hmoney⟩ := h.balanced
  have hevent : (conversionPosting number day).sourceEventId = identifier "evt_" number := rfl
  rw [balancedAndAttributable, hnet, h.reserve_lines]
  simp [hevent, hsecurities, hmoney, reserveFacts]

/-- What an entry holds. -/
theorem migrationEntry_spec {entry : JournalEntry}
    (h : migrationEntry day transferred line index = .ok entry) :
    Entered line entry.lines ∧ entry.sourceEventId = identifier "evt_" (migrationEvent index) ∧
      entry.reversesEntryId = none := by
  rw [migrationEntry, Outcome.bind_eq_ok] at h
  obtain ⟨lines, hlines, h⟩ := h
  rw [dif_pos (migrationLines_spec hlines).two_lines] at h
  obtain ⟨-, rfl⟩ := Outcome.checked_eq_ok.mp h
  exact ⟨migrationLines_spec hlines, rfl, rfl⟩

theorem migrationEntry_returns (h : Postable line) :
    ∃ entry, migrationEntry day transferred line index = .ok entry := by
  have hreturns : ∃ lines, migrationLines line transferred = .ok lines := migrationLines_returns h
  obtain ⟨lines, hlines⟩ := hreturns
  have hentered := migrationLines_spec hlines
  rw [migrationEntry, hlines, Outcome.ok_bind, dif_pos hentered.two_lines]
  exact ⟨_, Outcome.checked_eq_ok.mpr ⟨hentered.balances _ _, rfl⟩⟩

/-! ## The books of a statement -/

/-- The books have posted no event of a number from this one on. -/
def NoneFrom (books : EquitiesBooks) (index : ℕ) : Prop :=
  ∀ n, index ≤ n → books.bySource.get? (identifier "evt_" (migrationEvent n)) = none

/-- What a line posts to the books. -/
theorem postLine_spec {books books' : EquitiesBooks} (hnone : NoneFrom books index)
    (h : postLine canonicalBytesOf day transferred books (line, index) = .ok books') :
    ∃ entry, Entered line entry.lines ∧ books'.entries = books.entries ++ [entry] ∧
      NoneFrom books' (index + 1) := by
  rw [postLine, Outcome.bind_eq_ok] at h
  obtain ⟨entry, hentry, h⟩ := h
  obtain ⟨hentered, hevent, hreverses⟩ := migrationEntry_spec hentry
  rw [EquitiesBooks.post, hevent, hnone index le_rfl, hreverses] at h
  cases h
  refine ⟨entry, hentered, rfl, ?_⟩
  intro n hn
  have hother : identifier "evt_" (migrationEvent index) ≠ identifier "evt_" (migrationEvent n) := by
    intro hsame
    have hnumber := identifier_injective hsame
    rw [migrationEvent, migrationEvent] at hnumber
    omega
  show (books.bySource.set _ entry).get? _ = none
  rw [Dict.get?_set_of_ne _ hother]
  exact hnone n (by omega)

theorem postLine_returns {books : EquitiesBooks} (hnone : NoneFrom books index)
    (h : Postable line) :
    ∃ books', postLine canonicalBytesOf day transferred books (line, index) = .ok books' := by
  have hreturns : ∃ entry, migrationEntry day transferred line index = .ok entry :=
    migrationEntry_returns h
  obtain ⟨entry, hentry⟩ := hreturns
  obtain ⟨-, hevent, hreverses⟩ := migrationEntry_spec hentry
  rw [postLine, hentry, Outcome.ok_bind, EquitiesBooks.post, hevent, hnone index le_rfl, hreverses]
  exact ⟨_, rfl⟩

theorem postLines_spec {lines : List StatementLine} {books books' : EquitiesBooks}
    (hnone : NoneFrom books index)
    (h : Outcome.foldSteps (postLine canonicalBytesOf day transferred) books
      (lines.zipIdx index) = .ok books') :
    (∀ line ∈ lines, Postable line) ∧ ∃ entries, books'.entries = books.entries ++ entries ∧
      (entries.flatMap JournalEntry.lines).flatMap customerSecurity =
        lines.flatMap securityItems ∧
      (entries.flatMap JournalEntry.lines).flatMap customerCash = lines.flatMap cashItems := by
  induction lines generalizing index books with
  | nil =>
    cases h
    exact ⟨by simp, [], by simp, rfl, rfl⟩
  | cons line rest ih =>
    rw [List.zipIdx_cons, Outcome.foldSteps_cons, Outcome.bind_eq_ok] at h
    obtain ⟨after, hline, hrest⟩ := h
    obtain ⟨entry, hentered, hentries, hnone'⟩ := postLine_spec hnone hline
    obtain ⟨hpostable, entries, hentries', hsecurities, hcash⟩ := ih hnone' hrest
    refine ⟨List.forall_mem_cons.mpr ⟨hentered.postable, hpostable⟩, entry :: entries, ?_, ?_, ?_⟩
    · rw [hentries', hentries, List.append_assoc, List.singleton_append]
    · rw [List.flatMap_cons, List.flatMap_append, List.flatMap_cons, hentered.securities,
        hsecurities]
    · rw [List.flatMap_cons, List.flatMap_append, List.flatMap_cons, hentered.cash, hcash]

theorem postLines_returns {lines : List StatementLine} {books : EquitiesBooks}
    (hnone : NoneFrom books index) (h : ∀ line ∈ lines, Postable line) :
    ∃ books', Outcome.foldSteps (postLine canonicalBytesOf day transferred) books
      (lines.zipIdx index) = .ok books' := by
  induction lines generalizing index books with
  | nil => exact ⟨books, rfl⟩
  | cons line rest ih =>
    obtain ⟨hline, hrest⟩ := List.forall_mem_cons.mp h
    have hreturns : ∃ after, postLine canonicalBytesOf day transferred books (line, index) =
        .ok after := postLine_returns hnone hline
    obtain ⟨after, hafter⟩ := hreturns
    obtain ⟨entry, -, -, hnone'⟩ := postLine_spec hnone hafter
    rw [List.zipIdx_cons, Outcome.foldSteps_cons, hafter, Outcome.ok_bind]
    exact ih hnone' hrest

end

/-! ## Statements that conserve themselves -/

/-- The quantities of a statement by account and issue, and its cash by account. -/
def quantityPairs (lines : List StatementLine) : List ((String × String) × Decimal) :=
  lines.map fun line => ((line.account, line.issue), line.quantity)

def cashPairs (lines : List StatementLine) : List (String × Decimal) :=
  lines.map fun line => (line.account, line.cashCredit)

theorem quantityPairs_cons (line : StatementLine) (rest : List StatementLine) :
    quantityPairs (line :: rest) =
      ((line.account, line.issue), line.quantity) :: quantityPairs rest := rfl

theorem cashPairs_cons (line : StatementLine) (rest : List StatementLine) :
    cashPairs (line :: rest) = (line.account, line.cashCredit) :: cashPairs rest := rfl

/-- The lines can be posted, every issue has a name, and the last line of an account and issue, and
of an account, holds the total of all of them. -/
structure Conserves (lines : List StatementLine) : Prop where
  posts : ∀ line ∈ lines, Postable line
  issues_named : ∀ line ∈ lines, line.issue ≠ ""
  quantities : LastIsTotal .ambient (quantityPairs lines)
  cash : LastIsTotal .ambient (cashPairs lines)

/-- The totals of a statement, by account and named issue, and by account, as the working precision
adds them up. -/
structure Totals (lines : List StatementLine) (quantity : String → String → ℚ)
    (cash : String → ℚ) : Prop where
  quantity_total : ∀ account issue, issue ≠ "" →
    ∃ total, runningTotal .ambient (account, issue) (finiteAmounts (quantityPairs lines)) =
      .ok total ∧ total.value = quantity account issue
  cash_total : ∀ account, ∃ total,
    runningTotal .ambient account (finiteAmounts (cashPairs lines)) = .ok total ∧
      total.value = cash account

/-- The check accepts the books of the statement, and no books of lines that come to other
totals. -/
structure AcceptsCompleteOnly (canonicalBytesOf : JournalEntry → List UInt8)
    (stated : List StatementLine) : Prop where
  accepts_own : ∀ day transferred, ∃ books,
    migrationBooks canonicalBytesOf day transferred stated = .ok books ∧
      migrationConserved books stated = .ok true
  rejects_others : ∀ day transferred posted books quantity cash quantity' cash',
    migrationBooks canonicalBytesOf day transferred posted = .ok books →
      Totals posted quantity cash → Totals stated quantity' cash' →
        ((∃ account issue, issue ≠ "" ∧ quantity account issue ≠ quantity' account issue) ∨
          ∃ account, cash account ≠ cash' account) →
        migrationConserved books stated = .ok false

theorem flatMap_cashItems (lines : List StatementLine) :
    lines.flatMap cashItems = finiteAmounts (cashPairs lines) := by
  induction lines with
  | nil => rfl
  | cons line rest ih =>
    rw [List.flatMap_cons, ih, cashPairs_cons, finiteAmounts_cons, cashItems]

theorem flatMap_securityItems {lines : List StatementLine}
    (h : ∀ line ∈ lines, line.issue ≠ "") :
    lines.flatMap securityItems = finiteAmounts (quantityPairs lines) := by
  induction lines with
  | nil => rfl
  | cons line rest ih =>
    obtain ⟨hline, hrest⟩ := List.forall_mem_cons.mp h
    rw [List.flatMap_cons, ih hrest, quantityPairs_cons, finiteAmounts_cons, securityItems,
      if_neg hline]

/-- What is read is of a named issue. -/
theorem issue_named_of_mem {lines : List StatementLine}
    {item : (String × String) × FiniteDecimal} (h : item ∈ lines.flatMap securityItems) :
    item.1.2 ≠ "" := by
  obtain ⟨line, -, hitem⟩ := List.mem_flatMap.mp h
  rw [securityItems] at hitem
  split_ifs at hitem with hunnamed
  · cases hitem
  · rw [finiteAmounts] at hitem
    cases hquantity : line.quantity <;> simp [hquantity] at hitem
    rw [hitem]
    exact hunnamed

/-- What lines are read as under a named issue. -/
theorem runningTotal_securityItems (lines : List StatementLine) {account issue : String}
    (h : issue ≠ "") :
    runningTotal .ambient (account, issue) (lines.flatMap securityItems) =
      runningTotal .ambient (account, issue) (finiteAmounts (quantityPairs lines)) := by
  have hfilter : ∀ lines : List StatementLine,
      (lines.flatMap securityItems).filter (fun p => decide (p.1 = (account, issue))) =
        (finiteAmounts (quantityPairs lines)).filter fun p => decide (p.1 = (account, issue)) := by
    intro lines
    induction lines with
    | nil => rfl
    | cons line rest ih =>
      rw [List.flatMap_cons, List.filter_append, ih, quantityPairs_cons, finiteAmounts_cons,
        List.filter_append, securityItems]
      split_ifs with hunnamed
      · -- a line without an issue adds nothing under one that has a name
        cases hquantity : line.quantity <;>
          simp [finiteAmounts, hunnamed, h.symm]
      · rfl
  rw [runningTotal, runningTotal, hfilter]

section

variable {canonicalBytesOf : JournalEntry → List UInt8} {day : Date} {transferred : Bool}
  {posted stated : List StatementLine} {books : EquitiesBooks}

theorem noneFrom_new (breakOwner : String) (index : ℕ) : NoneFrom (.new breakOwner) index :=
  fun _ _ => rfl

/-- What the check makes of the books of lines that were posted. -/
theorem migrationConserved_eq_ok
    (h : migrationBooks canonicalBytesOf day transferred posted = .ok books) {accepted : Bool} :
    migrationConserved books stated = .ok accepted ↔
      ∃ securities cash, tally .ambient (posted.flatMap securityItems) = .ok securities ∧
        tally .ambient (posted.flatMap cashItems) = .ok cash ∧
        (do
          let same ← securities.sameNumbers (.ofPairs (quantityPairs stated))
          if same then cash.sameNumbers (.ofPairs (cashPairs stated)) else .ok false) =
            .ok accepted := by
  obtain ⟨-, entries, hentries, hsecurities, hcash⟩ := postLines_spec (noneFrom_new _ _) h
  rw [EquitiesBooks.new, List.nil_append] at hentries
  rw [migrationConserved, hentries, Outcome.bind_eq_ok]
  constructor
  · rintro ⟨⟨securities, cash⟩, hheld, hsame⟩
    obtain ⟨hs, hc⟩ := foldSteps_addHeld.mp hheld
    rw [hsecurities] at hs
    rw [hcash] at hc
    exact ⟨securities, cash, hs, hc, hsame⟩
  · rintro ⟨securities, cash, hs, hc, hsame⟩
    rw [tally, ← hsecurities] at hs
    rw [tally, ← hcash] at hc
    exact ⟨(securities, cash), foldSteps_addHeld.mpr ⟨hs, hc⟩, hsame⟩

theorem finite_quantityPairs (h : ∀ line ∈ stated, Postable line) :
    ∀ p ∈ quantityPairs stated, ∃ z, p.2 = .finite z := by
  intro p hp
  obtain ⟨line, hline, rfl⟩ := List.mem_map.mp hp
  obtain ⟨d, -, hd, -⟩ := (h line hline).quantity_posts
  exact ⟨d, hd⟩

theorem finite_cashPairs (h : ∀ line ∈ stated, Postable line) :
    ∀ p ∈ cashPairs stated, ∃ z, p.2 = .finite z := by
  intro p hp
  obtain ⟨line, hline, rfl⟩ := List.mem_map.mp hp
  obtain ⟨d, -, hd, -⟩ := (h line hline).cash_posts
  exact ⟨d, hd⟩

/-- A statement whose own books are accepted conserves itself. -/
theorem conserves_of_accepted
    (h : migrationBooks canonicalBytesOf day transferred stated = .ok books)
    (haccepted : migrationConserved books stated = .ok true) : Conserves stated := by
  obtain ⟨hpostable, -⟩ := postLines_spec (noneFrom_new _ _) h
  obtain ⟨securities, cash, hs, hc, hsame⟩ := (migrationConserved_eq_ok h).mp haccepted
  obtain ⟨same, hquantities, hsame⟩ := Outcome.bind_eq_ok.mp hsame
  cases same with
  | false => cases hsame
  | true =>
    have hnamed : ∀ line ∈ stated, line.issue ≠ "" := by
      intro line hline
      -- every key that the statement expects is one that the books hold
      have hexpected : (line.account, line.issue) ∈ (Dict.ofPairs (quantityPairs stated)).keys := by
        rw [Dict.mem_keys_ofPairs, quantityPairs, List.map_map]
        exact List.mem_map_of_mem hline
      have hkeys := ((sameNumbers_eq_true_iff (finite_of_get?_ofPairs
        (finite_quantityPairs hpostable))).mp hquantities).1
      rw [← hkeys, mem_keys_tally hs, List.mem_map] at hexpected
      obtain ⟨item, hitem, hkey⟩ := hexpected
      have hissue := issue_named_of_mem hitem
      rw [hkey] at hissue
      exact hissue
    rw [flatMap_securityItems hnamed] at hs
    rw [flatMap_cashItems] at hc
    exact ⟨hpostable, hnamed,
      (sameNumbers_own_iff (finite_quantityPairs hpostable)).mp ⟨securities, hs, hquantities⟩,
      (sameNumbers_own_iff (finite_cashPairs hpostable)).mp ⟨cash, hc, hsame⟩⟩

/-- The books of a statement that conserves itself are accepted. -/
theorem Conserves.accepts_own (h : Conserves stated) :
    ∃ books, migrationBooks canonicalBytesOf day transferred stated = .ok books ∧
      migrationConserved books stated = .ok true := by
  have hbuilt : ∃ books, migrationBooks canonicalBytesOf day transferred stated = .ok books :=
    postLines_returns (noneFrom_new _ _) h.posts
  obtain ⟨books, hbooks⟩ := hbuilt
  obtain ⟨securities, hs, hquantities⟩ :=
    (sameNumbers_own_iff (finite_quantityPairs h.posts)).mpr h.quantities
  obtain ⟨cash, hc, hcash⟩ := (sameNumbers_own_iff (finite_cashPairs h.posts)).mpr h.cash
  refine ⟨books, hbooks, (migrationConserved_eq_ok hbooks).mpr ⟨securities, cash, ?_, ?_, ?_⟩⟩
  · rw [flatMap_securityItems h.issues_named]
    exact hs
  · rw [flatMap_cashItems]
    exact hc
  · rw [hquantities, Outcome.ok_bind, if_pos rfl]
    exact hcash

/-- Lines that come to other totals than a statement that conserves itself are refused. -/
theorem Conserves.rejects (h : Conserves stated) {quantity quantity' : String → String → ℚ}
    {cash cash' : String → ℚ}
    (hbooks : migrationBooks canonicalBytesOf day transferred posted = .ok books)
    (hposted : Totals posted quantity cash) (hstated : Totals stated quantity' cash')
    (hdiffer : (∃ account issue, issue ≠ "" ∧ quantity account issue ≠ quantity' account issue) ∨
      ∃ account, cash account ≠ cash' account) :
    migrationConserved books stated = .ok false := by
  have hsecurities : ∃ securities, tally .ambient (posted.flatMap securityItems) =
      .ok securities := by
    refine tally_returns_iff.mpr ?_
    intro key
    obtain ⟨account, issue⟩ := key
    by_cases hissue : issue = ""
    · refine ⟨0, runningTotal_of_not_mem fun hkey => ?_⟩
      obtain ⟨item, hitem, hkey⟩ := List.mem_map.mp hkey
      exact issue_named_of_mem hitem (by rw [hkey, hissue])
    · rw [runningTotal_securityItems posted hissue]
      obtain ⟨total, htotal, -⟩ := hposted.quantity_total account issue hissue
      exact ⟨total, htotal⟩
  have hheld : ∃ held, tally .ambient (posted.flatMap cashItems) = .ok held := by
    refine tally_returns_iff.mpr ?_
    intro account
    rw [flatMap_cashItems]
    obtain ⟨total, htotal, -⟩ := hposted.cash_total account
    exact ⟨total, htotal⟩
  obtain ⟨securities, hs⟩ := hsecurities
  obtain ⟨held, hc⟩ := hheld
  have hfinite := finite_quantityPairs h.posts
  have hfinite' := finite_cashPairs h.posts
  obtain ⟨same, hsame⟩ := sameNumbers_returns securities (finite_of_get?_ofPairs hfinite)
  obtain ⟨same', hsame'⟩ := sameNumbers_returns held (finite_of_get?_ofPairs hfinite')
  -- what is found the same has the totals of the statement
  have hquantities : same = true → ∀ account issue, issue ≠ "" →
      quantity account issue = quantity' account issue := by
    rintro rfl account issue hissue
    obtain ⟨total, htotal, hvalue⟩ :=
      runningTotal_of_sameNumbers hfinite h.quantities hsame (account, issue)
    obtain ⟨total', htotal', hvalue'⟩ := hstated.quantity_total account issue hissue
    obtain ⟨total'', htotal'', hvalue''⟩ := hposted.quantity_total account issue hissue
    rw [← runningTotal_securityItems posted hissue, getD_tally hs] at htotal''
    rw [htotal] at htotal'
    cases htotal'
    cases htotal''
    rw [← hvalue'', ← hvalue', hvalue]
  have hcash : same' = true → ∀ account, cash account = cash' account := by
    rintro rfl account
    obtain ⟨total, htotal, hvalue⟩ := runningTotal_of_sameNumbers hfinite' h.cash hsame' account
    obtain ⟨total', htotal', hvalue'⟩ := hstated.cash_total account
    obtain ⟨total'', htotal'', hvalue''⟩ := hposted.cash_total account
    rw [← flatMap_cashItems, getD_tally hc] at htotal''
    rw [htotal] at htotal'
    cases htotal'
    cases htotal''
    rw [← hvalue'', ← hvalue', hvalue]
  refine (migrationConserved_eq_ok hbooks).mpr ⟨securities, held, hs, hc, ?_⟩
  rw [hsame, Outcome.ok_bind]
  cases same with
  | false => rfl
  | true =>
    rw [if_pos rfl, hsame']
    cases same' with
    | false => rfl
    | true =>
      obtain ⟨account, issue, hissue, hne⟩ | ⟨account, hne⟩ := hdiffer
      · exact absurd (hquantities rfl account issue hissue) hne
      · exact absurd (hcash rfl account) hne

/-- Where the sums of a statement are exact, its totals are the exact sums. -/
theorem totals_of_exact {lines : List StatementLine}
    (hquantity : ∀ k, ExactSums .ambient (amountsOf k (finiteAmounts (quantityPairs lines))))
    (hcash : ∀ k, ExactSums .ambient (amountsOf k (finiteAmounts (cashPairs lines)))) :
    Totals lines
      (fun account issue => (amountsOf (account, issue) (finiteAmounts (quantityPairs lines))).sum)
      fun account => (amountsOf account (finiteAmounts (cashPairs lines))).sum := by
  obtain ⟨securities, hs⟩ := tally_returns hquantity
  obtain ⟨held, hc⟩ := tally_returns hcash
  refine ⟨fun account issue _ => ?_, fun account => ?_⟩
  · exact ⟨_, getD_tally hs _, value_tally hs (hquantity _)⟩
  · exact ⟨_, getD_tally hc _, value_tally hc (hcash _)⟩

end

/-- Three shares of one account, on two lines of the statement. -/
def sharesTwice : List StatementLine :=
  [⟨"SYN-CUST-1", "SYN-EQ-62", 1, 10⟩, ⟨"SYN-CUST-1", "SYN-EQ-62", 2, 20⟩]

/-- A customer without cash. -/
def sharesOnly : List StatementLine := [⟨"SYN-CUST-2", "SYN-EQ-62", 5, 0⟩]

end Simulator

end Atreides
