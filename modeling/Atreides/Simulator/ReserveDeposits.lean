import Mathlib.Algebra.BigOperators.Group.List.Basic
import Mathlib.Algebra.Order.Floor.Ring
import Mathlib.Data.Rat.Floor
import Mathlib.Tactic.Linarith
import Atreides.Books.Ledger
import Atreides.Deadlines.BusinessDays

/-!
# Reserve deposits

The cash a simulated firm moves into and out of its two reserve bank accounts, as of one business
day, and the balances read back from the journal at the deadline and for good. Amounts are exact
numbers here; what is moved is whole cents.

## Main definitions

* `CashEntry`, `postEntry` — the journal, as far as cash is read from it
* `reserveBankBalances` — the balances of entries effective by a day
* `postReserveDeposits` — the deposits and withdrawals of one day
* `depositBreach` — a deposit was needed and did not meet the requirement in time

## Main results

* `reserve_deposits_settled` — where each account stands at the deadline, by its outcome
-/

namespace Atreides

namespace Simulator

/-! ## The journal -/

/-- A line of an entry, with the money it carries. -/
structure CashLine where
  accountType : AccountType
  currency : Option String
  money : ℚ
  deriving DecidableEq

structure CashEntry where
  sourceEventId : String
  effectiveDate : Date
  lines : List CashLine
  deriving DecidableEq

/-- Post an entry once per source event. -/
def postEntry (books : List CashEntry) (entry : CashEntry) : List CashEntry :=
  if books.any fun prior => prior.sourceEventId = entry.sourceEventId then books
  else books ++ [entry]

/-- The two reserve computations. -/
inductive Computation
  | customer
  | pab
  deriving DecidableEq, Repr

def Computation.name : Computation → String
  | customer => "customer"
  | pab => "pab"

def Computation.accountType : Computation → AccountType
  | customer => .reserveBankCustomer
  | pab => .reserveBankPab

/-- The place of a computation in a run. -/
def Computation.index : Computation → ℕ
  | customer => 0
  | pab => 1

/-- Add a line to the balance of its account, where it carries dollars of one. -/
def addLine (balances : Computation → ℚ) (line : CashLine) : Computation → ℚ := fun c =>
  if line.accountType = c.accountType ∧ line.currency = some "USD" then balances c + line.money
  else balances c

/-- The balances of the reserve bank accounts, from entries effective on or before a day. -/
def reserveBankBalances (books : List CashEntry) (through : Date) : Computation → ℚ :=
  books.foldl (fun balances entry =>
    if through < entry.effectiveDate then balances else entry.lines.foldl addLine balances)
    fun _ => 0

/-! ## Deposits -/

/-- A computation's drawn behaviour, and the share of the deposit that a short one leaves
unpaid. -/
structure DepositDraw where
  outcome : String
  shortFraction : ℚ

structure DepositPolicy where
  customer : DepositDraw
  pab : DepositDraw

def DepositPolicy.draw (policy : DepositPolicy) : Computation → DepositDraw
  | .customer => policy.customer
  | .pab => policy.pab

/-- What was done for one computation, read back from the journal. -/
structure ReserveDeposit where
  computation : String
  openingBalance : ℚ
  requirement : Option ℚ
  needed : Option ℚ
  drawnOutcome : String
  outcome : String
  amount : ℚ
  depositDate : Option Date
  deadline : Date
  balanceAtDeadline : ℚ
  closingBalance : ℚ

/-- Up to whole cents, and down to them. -/
def ceilCents (amount : ℚ) : ℚ := ⌈amount * 100⌉ / 100

def floorCents (amount : ℚ) : ℚ := ⌊amount * 100⌋ / 100

/-- The id of a number, with its digits filled up. -/
def identifier (start : String) (value : ℕ) : String := start ++ Date.padded 26 value

/-- A balanced movement between firm cash and a reserve bank account. -/
def depositEntry (c : Computation) (eventNumber : ℕ) (amount : ℚ) (effective : Date) :
    CashEntry where
  sourceEventId := identifier "evt_" eventNumber
  effectiveDate := effective
  lines := [⟨c.accountType, some "USD", amount⟩, ⟨.cash, some "USD", -amount⟩]

/-- What is to be moved for a computation, and when. -/
structure DepositPlan where
  outcome : String
  amount : ℚ := 0
  depositDate : Option Date := none

/-- The plan for what is needed. A withdrawal and a full deposit leave the account no lower than
the requirement, a short deposit goes down to whole cents. -/
def planDeposit (calendar : MarketCalendar) (deadline : Date) :
    Option ℚ → Option DepositDraw → Outcome DepositPlan
  | none, _ => .ok ⟨"NOT_COMPUTED", 0, none⟩
  | some needed, none =>
    .ok ⟨if 0 < needed then "NOT_DECLARED_IN_PACK" else "NO_DEPOSIT_NEEDED", 0, none⟩
  | some needed, some draw =>
    if needed < 0 then
      if ceilCents needed = 0 then .ok ⟨"NO_DEPOSIT_NEEDED", 0, none⟩
      else .ok ⟨"WITHDRAWAL_TO_REQUIREMENT", ceilCents needed, some deadline⟩
    else if needed = 0 then .ok ⟨"NO_DEPOSIT_NEEDED", 0, none⟩
    else if draw.outcome = "SHORT" then
      .ok ⟨"SHORT", floorCents (needed * (1 - draw.shortFraction)), some deadline⟩
    else if draw.outcome = "LATE" then do
      let depositDate ← calendar.addBusinessDays deadline 1
      .ok ⟨"LATE", ceilCents needed, some depositDate⟩
    else .ok ⟨"ON_TIME", ceilCents needed, some deadline⟩

/-- What a run of deposits is given: the journal, the two requirements, the opening balances, which
may have been posted before, and the policy, where one is declared. -/
structure DepositRun where
  books : List CashEntry
  runNumber : ℕ
  businessDate : Date
  calendar : MarketCalendar
  requirement : Computation → Option ℚ
  opening : Computation → ℚ
  policy : Option DepositPolicy
  openingAlreadyPosted : Bool

/-- The last day there is. -/
def lastDay : Date := ⟨3652059, by decide, le_rfl⟩

namespace DepositRun

/-- The number of a computation's first event. -/
def baseEvent (run : DepositRun) (c : Computation) : ℕ :=
  400000000 + run.runNumber * 10 + c.index * 3

def needed (run : DepositRun) (c : Computation) : Option ℚ :=
  (run.requirement c).map fun requirement => requirement - run.opening c

/-- The journal with the opening balance of a computation brought forward. -/
def broughtForward (run : DepositRun) (books : List CashEntry) (c : Computation) :
    List CashEntry :=
  if run.opening c ≠ 0 ∧ ¬ run.openingAlreadyPosted = true then
    postEntry books (depositEntry c (run.baseEvent c) (run.opening c) run.businessDate)
  else books

/-- The journal with what a plan moves. -/
def moved (run : DepositRun) (books : List CashEntry) (c : Computation) (plan : DepositPlan) :
    List CashEntry :=
  match plan.depositDate with
  | some date =>
    if plan.amount ≠ 0 then
      postEntry books (depositEntry c (run.baseEvent c + 1) plan.amount date)
    else books
  | none => books

/-- One computation: bring its opening balance forward, plan, and move. -/
def settle (run : DepositRun) (deadline : Date) (books : List CashEntry) (c : Computation) :
    Outcome (List CashEntry × DepositPlan) := do
  let plan ← planDeposit run.calendar deadline (run.needed c) (run.policy.map (·.draw c))
  .ok (run.moved (run.broughtForward books c) c plan, plan)

/-- What is reported of a computation, its balances read from the journal in the end. -/
def report (run : DepositRun) (deadline : Date) (books : List CashEntry) (c : Computation)
    (plan : DepositPlan) : ReserveDeposit where
  computation := c.name
  openingBalance := run.opening c
  requirement := run.requirement c
  needed := run.needed c
  drawnOutcome := (run.policy.map fun policy => (policy.draw c).outcome).getD "NOT_DECLARED_IN_PACK"
  outcome := plan.outcome
  amount := plan.amount
  depositDate := plan.depositDate
  deadline := deadline
  balanceAtDeadline := reserveBankBalances books deadline c
  closingBalance := reserveBankBalances books lastDay c

end DepositRun

/-- Post both computations' deposits and read them back. The deadline is the second business day
after; what the engine then computes anew from the balances is left to it. -/
def postReserveDeposits (run : DepositRun) : Outcome (List CashEntry × List ReserveDeposit) := do
  let deadline ← run.calendar.addBusinessDays run.businessDate 2
  let (books, customer) ← run.settle deadline run.books .customer
  let (books, pab) ← run.settle deadline books .pab
  .ok (books, [run.report deadline books .customer customer, run.report deadline books .pab pab])

/-- The outcomes that leave a computation short at its deadline. -/
def depositBreachOutcomes : List String := ["SHORT", "LATE", "NOT_DECLARED_IN_PACK"]

/-- A deposit was needed and did not meet the requirement in time. -/
def depositBreach (deposit : ReserveDeposit) : Bool :=
  (deposit.needed.any fun needed => 0 < needed) && depositBreachOutcomes.contains deposit.outcome

/-! ## Whole cents -/

theorem le_ceilCents (amount : ℚ) : amount ≤ ceilCents amount := by
  have hceil := Int.le_ceil (amount * 100)
  rw [ceilCents, le_div_iff₀ (by norm_num)]
  exact hceil

theorem ceilCents_lt (amount : ℚ) : ceilCents amount < amount + 1 / 100 := by
  have hceil := Int.ceil_lt_add_one (amount * 100)
  rw [ceilCents, div_lt_iff₀ (by norm_num)]
  linarith

theorem floorCents_le (amount : ℚ) : floorCents amount ≤ amount := by
  have hfloor := Int.floor_le (amount * 100)
  rw [floorCents, div_le_iff₀ (by norm_num)]
  exact hfloor

/-! ## Balances -/

/-- What an entry adds to the account of a computation. -/
def CashEntry.adds (entry : CashEntry) (c : Computation) : ℚ :=
  ((entry.lines.filter fun line =>
    line.accountType = c.accountType ∧ line.currency = some "USD").map CashLine.money).sum

theorem foldl_addLine (lines : List CashLine) (c : Computation) : ∀ balances : Computation → ℚ,
    lines.foldl addLine balances c = balances c + ((lines.filter fun line =>
      line.accountType = c.accountType ∧ line.currency = some "USD").map CashLine.money).sum := by
  induction lines with
  | nil =>
    intro balances
    simp
  | cons line lines ih =>
    intro balances
    rw [List.foldl_cons, ih, addLine]
    by_cases hline : line.accountType = c.accountType ∧ line.currency = some "USD"
    · rw [if_pos hline, List.filter_cons_of_pos (by simpa using hline), List.map_cons,
        List.sum_cons]
      ring
    · rw [if_neg hline, List.filter_cons_of_neg (by simpa using hline)]

/-- One entry more adds what it adds where it is effective in time. -/
theorem reserveBankBalances_append (books : List CashEntry) (entry : CashEntry) (through : Date)
    (c : Computation) :
    reserveBankBalances (books ++ [entry]) through c = reserveBankBalances books through c +
      if entry.effectiveDate ≤ through then entry.adds c else 0 := by
  rw [reserveBankBalances, List.foldl_append, List.foldl_cons, List.foldl_nil]
  by_cases hlate : through < entry.effectiveDate
  · have hnot : ¬ entry.effectiveDate ≤ through := by
      rw [Date.lt_iff] at hlate
      rw [Date.le_iff]
      omega
    rw [if_pos hlate, if_neg hnot, add_zero, reserveBankBalances]
  · have htimely : entry.effectiveDate ≤ through := by
      rw [Date.lt_iff] at hlate
      rw [Date.le_iff]
      omega
    rw [if_neg hlate, if_pos htimely, foldl_addLine, CashEntry.adds, reserveBankBalances]

/-- Where every entry that adds to an account is effective by a day, no later day sees more. -/
theorem reserveBankBalances_eq {books : List CashEntry} {c : Computation} {day later : Date}
    (h : ∀ entry ∈ books, entry.adds c ≠ 0 → entry.effectiveDate ≤ day) (hlater : day ≤ later) :
    reserveBankBalances books day c = reserveBankBalances books later c := by
  induction books using List.reverseRecOn with
  | nil => rfl
  | append_singleton books entry ih =>
    have hrest := ih fun prior hprior => h prior (List.mem_append_left _ hprior)
    rw [reserveBankBalances_append, reserveBankBalances_append, hrest]
    by_cases hadds : entry.adds c = 0
    · simp [hadds]
    · have hday := h entry (by simp) hadds
      have hlast : entry.effectiveDate ≤ later := by
        rw [Date.le_iff] at *
        omega
      rw [if_pos hday, if_pos hlast]

theorem adds_depositEntry (c other : Computation) (eventNumber : ℕ) (amount : ℚ)
    (effective : Date) :
    (depositEntry c eventNumber amount effective).adds other = if other = c then amount else 0 := by
  cases c <;> cases other <;> simp [depositEntry, CashEntry.adds, Computation.accountType]

/-! ## Source events -/

theorem identifier_injective {start : String} {m n : ℕ}
    (h : identifier start m = identifier start n) : m = n := by
  have hchars := congrArg String.toList h
  rw [identifier, identifier, String.toList_append, String.toList_append] at hchars
  exact Date.padded_injective (String.toList_injective (List.append_cancel_left hchars))

/-- No entry of the journal is of the event. -/
def Fresh (books : List CashEntry) (eventNumber : ℕ) : Prop :=
  ∀ entry ∈ books, entry.sourceEventId ≠ identifier "evt_" eventNumber

variable {books : List CashEntry} {c : Computation} {eventNumber : ℕ} {amount : ℚ}
  {effective : Date}

theorem Fresh.postEntry_eq (h : Fresh books eventNumber) :
    postEntry books (depositEntry c eventNumber amount effective) =
      books ++ [depositEntry c eventNumber amount effective] := by
  rw [postEntry, if_neg]
  rw [List.any_eq_true]
  rintro ⟨prior, hprior, hsame⟩
  exact h prior hprior (of_decide_eq_true hsame)

/-- An entry of another event leaves an event free. -/
theorem Fresh.postEntry (h : Fresh books eventNumber) {other : ℕ} (hother : other ≠ eventNumber) :
    Fresh (postEntry books (depositEntry c other amount effective)) eventNumber := by
  rw [Simulator.postEntry]
  split_ifs
  · exact h
  · intro entry hentry hsame
    rcases List.mem_append.mp hentry with hentry | hentry
    · exact h entry hentry hsame
    · rw [List.mem_singleton.mp hentry] at hsame
      exact hother (identifier_injective hsame)

/-- What an entry of a free event adds to the balances. -/
theorem Fresh.balances (h : Fresh books eventNumber) (through : Date) (other : Computation) :
    reserveBankBalances (Simulator.postEntry books (depositEntry c eventNumber amount effective))
        through other =
      reserveBankBalances books through other +
        if other = c ∧ effective ≤ through then amount else 0 := by
  rw [h.postEntry_eq, reserveBankBalances_append, adds_depositEntry]
  by_cases hother : other = c
  · simp [hother, depositEntry]
  · simp [hother]

/-! ## One computation -/

/-- What a plan has moved by a day. -/
def DepositPlan.effect (plan : DepositPlan) (through : Date) : ℚ :=
  match plan.depositDate with
  | some date => if date ≤ through then plan.amount else 0
  | none => 0

namespace DepositRun

variable {run : DepositRun} {plan : DepositPlan}

/-- The events of the two computations. -/
def events (run : DepositRun) (c : Computation) : List ℕ :=
  [run.baseEvent c, run.baseEvent c + 1]

theorem fresh_settled {other : Computation} (h : ∀ n ∈ run.events other, Fresh books n)
    (hother : other ≠ c) :
    ∀ n ∈ run.events other, Fresh (run.moved (run.broughtForward books c) c plan) n := by
  have hapart : ∀ n ∈ run.events other, run.baseEvent c ≠ n ∧ run.baseEvent c + 1 ≠ n := by
    intro n hn
    simp only [events, baseEvent, List.mem_cons, List.not_mem_nil, or_false] at hn ⊢
    have hindex : c.index ≠ other.index := by
      cases c <;> cases other <;> first | exact absurd rfl hother | decide
    omega
  intro n hn
  have hforward : Fresh (run.broughtForward books c) n := by
    rw [broughtForward]
    split_ifs
    · exact (h n hn).postEntry (hapart n hn).1
    · exact h n hn
  rw [moved]
  split
  next date hdate =>
    split_ifs
    · exact hforward.postEntry (hapart n hn).2
    · exact hforward
  next => exact hforward

/-- What bringing a balance forward and moving what is planned add to the balances. -/
theorem balances_settled (h : ∀ n ∈ run.events c, Fresh books n) {through : Date}
    (hthrough : run.businessDate ≤ through) (other : Computation) :
    reserveBankBalances (run.moved (run.broughtForward books c) c plan) through other =
      reserveBankBalances books through other +
        if other = c then
          (if run.openingAlreadyPosted = true then 0 else run.opening c) + plan.effect through
        else 0 := by
  have hfirst : Fresh books (run.baseEvent c) := h _ (by simp [events])
  have hsecond : Fresh (run.broughtForward books c) (run.baseEvent c + 1) := by
    rw [broughtForward]
    have hfree : Fresh books (run.baseEvent c + 1) := h _ (by simp [events])
    split_ifs
    · exact hfree.postEntry (by omega)
    · exact hfree
  have hforward : reserveBankBalances (run.broughtForward books c) through other =
      reserveBankBalances books through other +
        if other = c then (if run.openingAlreadyPosted = true then 0 else run.opening c)
        else 0 := by
    rw [broughtForward]
    by_cases hposted : run.openingAlreadyPosted = true
    · rw [if_neg (by simp [hposted])]
      simp [hposted]
    · by_cases hzero : run.opening c = 0
      · rw [if_neg (by simp [hzero])]
        simp [hzero]
      · rw [if_pos ⟨hzero, hposted⟩, hfirst.balances]
        simp [hthrough, hposted]
  have hmoved : reserveBankBalances (run.moved (run.broughtForward books c) c plan) through
      other = reserveBankBalances (run.broughtForward books c) through other +
        if other = c then plan.effect through else 0 := by
    rw [moved, DepositPlan.effect]
    rcases plan.depositDate with _ | date
    · simp
    · by_cases hzero : plan.amount = 0
      · simp [hzero]
      · simp only [ne_eq, hzero, not_false_eq_true, if_true]
        rw [hsecond.balances]
        by_cases hother : other = c <;> simp [hother]
  rw [hmoved, hforward]
  by_cases hother : other = c
  · simp only [hother, if_true]
    ring
  · simp [hother]

/-! ## Where the accounts stand -/

/-- The opening balances are those of the journal: what it holds of them is effective by the
deadline, they have been posted in full or not at all, and the events of this run are free. -/
structure OpeningStands (run : DepositRun) (deadline : Date) : Prop where
  effective : ∀ entry ∈ run.books, ∀ c, entry.adds c ≠ 0 → entry.effectiveDate ≤ deadline
  balance : ∀ c, reserveBankBalances run.books lastDay c =
    if run.openingAlreadyPosted = true then run.opening c else 0
  fresh : ∀ c, ∀ n ∈ run.events c, Fresh run.books n

theorem le_lastDay (day : Date) : day ≤ lastDay := day.ordinal_le

/-- In the end an account holds its opening balance and what its plan has moved. -/
theorem OpeningStands.balances {deadline : Date} (hopening : run.OpeningStands deadline)
    (hdeadline : run.businessDate ≤ deadline) (plan : Computation → DepositPlan)
    {through : Date} (hthrough : deadline ≤ through) (c : Computation) :
    reserveBankBalances
        (run.moved (run.broughtForward
          (run.moved (run.broughtForward run.books .customer) .customer (plan .customer)) .pab)
          .pab (plan .pab)) through c =
      run.opening c + (plan c).effect through := by
  have hbusiness : run.businessDate ≤ through := by
    rw [Date.le_iff] at *
    omega
  have hfresh := hopening.fresh
  have hpab := @fresh_settled run.books .customer run (plan .customer) .pab (hfresh .pab)
    (by decide)
  have hbefore : reserveBankBalances run.books through c =
      if run.openingAlreadyPosted = true then run.opening c else 0 := by
    rw [← hopening.balance c]
    have hearly : ∀ entry ∈ run.books, entry.adds c ≠ 0 → entry.effectiveDate ≤ through := by
      intro entry hentry hadds
      have := hopening.effective entry hentry c hadds
      rw [Date.le_iff] at *
      omega
    exact reserveBankBalances_eq hearly (le_lastDay through)
  rw [balances_settled hpab hbusiness, balances_settled (hfresh .customer) hbusiness, hbefore]
  by_cases hposted : run.openingAlreadyPosted = true
  · cases c <;> simp [hposted]
  · cases c <;> simp [hposted]

/-- Where an account stands at the deadline, by the outcome of its deposit. -/
structure Settled (requirement : ℚ) (deposit : ReserveDeposit) : Prop where
  onTime : deposit.outcome = "ON_TIME" → requirement ≤ deposit.balanceAtDeadline ∧
    deposit.balanceAtDeadline < requirement + 1 / 100
  below : deposit.outcome = "SHORT" ∨ deposit.outcome = "LATE" →
    deposit.balanceAtDeadline < requirement
  withdrawal : deposit.outcome = "WITHDRAWAL_TO_REQUIREMENT" →
    requirement ≤ deposit.balanceAtDeadline
  breach : depositBreach deposit = true ↔
    0 < requirement - deposit.openingBalance ∧ deposit.balanceAtDeadline < requirement

/-- What a plan has moved in the end is its amount. -/
theorem effect_lastDay {deadline : Date} {needed : Option ℚ} {draw : Option DepositDraw}
    {calendar : MarketCalendar} (h : planDeposit calendar deadline needed draw = .ok plan) :
    plan.effect lastDay = plan.amount := by
  have hdated : ∀ {date : Date}, plan.depositDate = some date →
      plan.effect lastDay = plan.amount := by
    intro date hdate
    rw [DepositPlan.effect, hdate]
    exact if_pos (le_lastDay date)
  rcases needed with _ | needed
  · cases h
    rfl
  rcases draw with _ | draw
  · cases h
    rfl
  rw [planDeposit] at h
  split_ifs at h
  · cases h
    rfl
  · cases h
    exact hdated rfl
  · cases h
    rfl
  · cases h
    exact hdated rfl
  · obtain ⟨date, -, h⟩ := Outcome.bind_eq_ok.mp h
    cases h
    exact hdated rfl
  · cases h
    exact hdated rfl

section

variable {requirement : ℚ} {deposit : ReserveDeposit}

theorem depositBreach_iff (hneeded : deposit.needed = some (requirement - deposit.openingBalance)) :
    depositBreach deposit = true ↔ 0 < requirement - deposit.openingBalance ∧
      deposit.outcome ∈ depositBreachOutcomes := by
  simp [depositBreach, hneeded]

/-- An account that holds the requirement at the deadline, and no more than a cent above it where a
deposit was made in full. -/
theorem Settled.of_le
    (hneeded : deposit.needed = some (requirement - deposit.openingBalance))
    (houtcome : deposit.outcome ∈ ["ON_TIME", "WITHDRAWAL_TO_REQUIREMENT", "NO_DEPOSIT_NEEDED"])
    (hle : requirement ≤ deposit.balanceAtDeadline)
    (hcent : deposit.outcome = "ON_TIME" → deposit.balanceAtDeadline < requirement + 1 / 100) :
    Settled requirement deposit := by
  have hother : ∀ outcome ∈ ["ON_TIME", "WITHDRAWAL_TO_REQUIREMENT", "NO_DEPOSIT_NEEDED"],
      outcome ∉ depositBreachOutcomes ∧ outcome ≠ "SHORT" ∧ outcome ≠ "LATE" := by decide
  obtain ⟨hnot, hshort, hlate⟩ := hother _ houtcome
  refine ⟨fun h => ⟨hle, hcent h⟩, fun h => ?_, fun _ => hle, ?_⟩
  · exact absurd h (not_or.mpr ⟨hshort, hlate⟩)
  · rw [depositBreach_iff hneeded]
    constructor
    · intro h
      exact absurd h.2 hnot
    · intro h
      exact absurd h.2 (not_lt.mpr hle)

/-- An account that falls short of the requirement at the deadline. -/
theorem Settled.of_lt
    (hneeded : deposit.needed = some (requirement - deposit.openingBalance))
    (hpositive : 0 < requirement - deposit.openingBalance)
    (houtcome : deposit.outcome ∈ depositBreachOutcomes)
    (hlt : deposit.balanceAtDeadline < requirement) : Settled requirement deposit := by
  have hother : ∀ outcome ∈ depositBreachOutcomes,
      outcome ≠ "ON_TIME" ∧ outcome ≠ "WITHDRAWAL_TO_REQUIREMENT" := by decide
  obtain ⟨htime, hwithdrawal⟩ := hother _ houtcome
  refine ⟨fun h => absurd h htime, fun _ => hlt, fun h => absurd h hwithdrawal, ?_⟩
  rw [depositBreach_iff hneeded]
  exact ⟨fun _ => ⟨hpositive, hlt⟩, fun _ => ⟨hpositive, houtcome⟩⟩

/-- What a plan for a determinate requirement leaves at the deadline. -/
theorem settled_of_plan {deadline : Date} {draw : Option DepositDraw} {calendar : MarketCalendar}
    (hplan : planDeposit calendar deadline (some (requirement - deposit.openingBalance)) draw =
      .ok plan)
    (hfraction : ∀ d, draw = some d → 0 < d.shortFraction)
    (hneeded : deposit.needed = some (requirement - deposit.openingBalance))
    (houtcome : deposit.outcome = plan.outcome)
    (hbalance : deposit.balanceAtDeadline = deposit.openingBalance + plan.effect deadline) :
    Settled requirement deposit := by
  have hnow : ∀ {outcome : String} {amount : ℚ},
      DepositPlan.effect ⟨outcome, amount, some deadline⟩ deadline = amount := fun {_ _} =>
    if_pos (Nat.le_refl _)
  have hnone : ∀ {outcome : String}, DepositPlan.effect ⟨outcome, 0, none⟩ deadline = 0 := rfl
  rcases draw with _ | draw
  · -- without a policy nothing is moved
    cases hplan
    rw [hnone, add_zero] at hbalance
    by_cases hpositive : 0 < requirement - deposit.openingBalance
    · rw [if_pos hpositive] at houtcome
      refine Settled.of_lt hneeded hpositive (by rw [houtcome]; decide) ?_
      linarith
    · rw [if_neg hpositive] at houtcome
      refine Settled.of_le hneeded (by rw [houtcome]; decide) ?_ fun h => ?_
      · linarith
      · rw [houtcome] at h
        exact absurd h (by decide)
  rw [planDeposit] at hplan
  split_ifs at hplan with hnegative hwhole hzero hshort hlate
  · cases hplan
    have houtcome : deposit.outcome = "NO_DEPOSIT_NEEDED" := houtcome
    rw [hnone, add_zero] at hbalance
    refine Settled.of_le hneeded (by rw [houtcome]; decide) ?_ fun h => ?_
    · linarith
    · rw [houtcome] at h
      exact absurd h (by decide)
  · cases hplan
    have houtcome : deposit.outcome = "WITHDRAWAL_TO_REQUIREMENT" := houtcome
    rw [hnow] at hbalance
    have hceil := le_ceilCents (requirement - deposit.openingBalance)
    refine Settled.of_le hneeded (by rw [houtcome]; decide) ?_ fun h => ?_
    · linarith
    · rw [houtcome] at h
      exact absurd h (by decide)
  · cases hplan
    have houtcome : deposit.outcome = "NO_DEPOSIT_NEEDED" := houtcome
    rw [hnone, add_zero] at hbalance
    refine Settled.of_le hneeded (by rw [houtcome]; decide) ?_ fun h => ?_
    · linarith
    · rw [houtcome] at h
      exact absurd h (by decide)
  · -- a short deposit leaves a share unpaid, and goes down to whole cents
    cases hplan
    have houtcome : deposit.outcome = "SHORT" := houtcome
    rw [hnow] at hbalance
    have hpositive : 0 < requirement - deposit.openingBalance :=
      lt_of_le_of_ne (not_lt.mp hnegative) (Ne.symm hzero)
    have hfloor := floorCents_le
      ((requirement - deposit.openingBalance) * (1 - draw.shortFraction))
    have hunpaid := mul_pos hpositive (hfraction draw rfl)
    refine Settled.of_lt hneeded hpositive (by rw [houtcome]; decide) ?_
    linarith
  · -- a late deposit is effective on a later business day
    obtain ⟨date, hdate, hplan⟩ := Outcome.bind_eq_ok.mp hplan
    cases hplan
    have houtcome : deposit.outcome = "LATE" := houtcome
    have hpositive : 0 < requirement - deposit.openingBalance :=
      lt_of_le_of_ne (not_lt.mp hnegative) (Ne.symm hzero)
    have hlater : ¬ date ≤ deadline := by
      obtain ⟨hafter, -⟩ := (calendar.scanFrom_spec deadline hdate).2.2 Nat.one_pos
      rw [Date.lt_iff] at hafter
      rw [Date.le_iff]
      omega
    have heffect : DepositPlan.effect ⟨"LATE", ceilCents (requirement - deposit.openingBalance),
        some date⟩ deadline = 0 := if_neg hlater
    rw [heffect, add_zero] at hbalance
    refine Settled.of_lt hneeded hpositive (by rw [houtcome]; decide) ?_
    linarith
  · cases hplan
    have houtcome : deposit.outcome = "ON_TIME" := houtcome
    rw [hnow] at hbalance
    have hceil := le_ceilCents (requirement - deposit.openingBalance)
    have hcent := ceilCents_lt (requirement - deposit.openingBalance)
    refine Settled.of_le hneeded (by rw [houtcome]; decide) ?_ fun h => ?_
    · linarith
    · linarith

end

end DepositRun

open DepositRun in
/-- Each account stands at the deadline as its outcome says, a breach is reported just where a
deposit was needed and the account falls short, and what was moved is the closing balance less the
opening one. -/
theorem reserve_deposits_settled {run : DepositRun} {deadline : Date} {books : List CashEntry}
    {deposits : List ReserveDeposit}
    (hdeadline : run.calendar.addBusinessDays run.businessDate 2 = .ok deadline)
    (hopening : run.OpeningStands deadline)
    (hfraction : ∀ policy, run.policy = some policy → ∀ c, 0 < (policy.draw c).shortFraction)
    (h : postReserveDeposits run = .ok (books, deposits)) :
    ∃ deposit : Computation → ReserveDeposit, deposits = [deposit .customer, deposit .pab] ∧
      ∀ c, (deposit c).requirement = run.requirement c ∧
        (deposit c).openingBalance = run.opening c ∧
        (deposit c).balanceAtDeadline = reserveBankBalances books deadline c ∧
        (deposit c).closingBalance = reserveBankBalances books lastDay c ∧
        (deposit c).amount = (deposit c).closingBalance - (deposit c).openingBalance ∧
        ∀ requirement, run.requirement c = some requirement →
          Settled requirement (deposit c) := by
  rw [postReserveDeposits, hdeadline, Outcome.ok_bind] at h
  obtain ⟨⟨afterCustomer, customer⟩, hcustomer, h⟩ := Outcome.bind_eq_ok.mp h
  obtain ⟨⟨afterPab, pab⟩, hpab, h⟩ := Outcome.bind_eq_ok.mp h
  obtain ⟨planned, hplanned, hfirst⟩ := Outcome.bind_eq_ok.mp hcustomer
  obtain ⟨planned', hplanned', hsecond⟩ := Outcome.bind_eq_ok.mp hpab
  cases hfirst
  cases hsecond
  cases h
  have hafter : run.businessDate ≤ deadline :=
    (run.calendar.scanFrom_spec run.businessDate hdeadline).1
  let plan : Computation → DepositPlan := fun
    | .customer => customer
    | .pab => pab
  have hplan : ∀ c, planDeposit run.calendar deadline (run.needed c)
      (run.policy.map (·.draw c)) = .ok (plan c) := by
    intro c
    cases c
    · exact hplanned
    · exact hplanned'
  refine ⟨fun c => run.report deadline (run.moved (run.broughtForward
    (run.moved (run.broughtForward run.books .customer) .customer (plan .customer)) .pab)
    .pab (plan .pab)) c (plan c), rfl, fun c => ⟨rfl, rfl, rfl, rfl, ?_, ?_⟩⟩
  · have hclosing := hopening.balances hafter plan (le_lastDay deadline) c
    rw [effect_lastDay (hplan c)] at hclosing
    simp only [report, hclosing]
    ring
  · intro requirement hrequirement
    have hneeded : run.needed c = some (requirement - run.opening c) := by
      rw [needed, hrequirement]
      rfl
    have hsized := hplan c
    rw [hneeded] at hsized
    have hnow := hopening.balances hafter plan (Nat.le_refl _) c
    refine settled_of_plan hsized ?_ hneeded rfl hnow
    intro draw hdraw
    obtain ⟨policy, hpolicy, rfl⟩ := Option.map_eq_some_iff.mp hdraw
    exact hfraction policy hpolicy c

/-! ## A run -/

/-- A calendar of one year without holidays, whose weekdays are all business days. -/
def weekdays : MarketCalendar where
  market := .usEquities
  holidays := .ofPairs [(2027, [])]
  datesMatchYears := by decide +kernel

/-- A run with an earlier deposit in the journal: the customer's deposit is drawn late, the other
account is drawn down. -/
def drawnLate : DepositRun where
  books := [depositEntry .customer 61 100 (.of 2027 3 1), depositEntry .pab 62 50 (.of 2027 3 3)]
  runNumber := 61
  businessDate := .of 2027 3 1
  calendar := weekdays
  requirement := fun
    | .customer => some (301 / 3)
    | .pab => some (121 / 3)
  opening := fun
    | .customer => 100
    | .pab => 50
  policy := some { customer := ⟨"LATE", 1 / 4⟩, pab := ⟨"ON_TIME", 1 / 4⟩ }
  openingAlreadyPosted := true

theorem drawnLate_opening : drawnLate.OpeningStands (.of 2027 3 3) where
  effective := by
    intro entry hentry c _
    rcases List.mem_cons.mp hentry with rfl | hentry
    · decide +kernel
    · rw [List.mem_singleton.mp hentry]
      exact Nat.le_refl _
  balance := by
    intro c
    cases c <;> decide +kernel
  fresh := by
    intro c
    unfold Fresh
    cases c <;> decide +kernel

/-- The customer's account falls short at the deadline and is topped up after it, which is a
breach; the other account is left at the requirement, rounded up to a cent. -/
theorem reserve_deposits_settled_drawnLate :
    ∃ books deposits, postReserveDeposits drawnLate = .ok (books, deposits) ∧
      ∃ deposit : Computation → ReserveDeposit, deposits = [deposit .customer, deposit .pab] ∧
        ∀ c, (deposit c).requirement = drawnLate.requirement c ∧
          (deposit c).openingBalance = drawnLate.opening c ∧
          (deposit c).balanceAtDeadline = reserveBankBalances books (.of 2027 3 3) c ∧
          (deposit c).closingBalance = reserveBankBalances books lastDay c ∧
          (deposit c).amount = (deposit c).closingBalance - (deposit c).openingBalance ∧
          ∀ requirement, drawnLate.requirement c = some requirement →
            DepositRun.Settled requirement (deposit c) := by
  have hdeadline : drawnLate.calendar.addBusinessDays drawnLate.businessDate 2 =
      .ok (.of 2027 3 3) := by decide +kernel
  have hreturns : (postReserveDeposits drawnLate).toBool = true := by decide +kernel
  rcases hrun : postReserveDeposits drawnLate with e | ⟨books, deposits⟩
  · rw [hrun] at hreturns
    cases hreturns
  · refine ⟨books, deposits, rfl, ?_⟩
    refine reserve_deposits_settled hdeadline drawnLate_opening ?_ hrun
    intro policy hpolicy c
    cases hpolicy
    cases c <;> norm_num [DepositPolicy.draw]

end Simulator

end Atreides
