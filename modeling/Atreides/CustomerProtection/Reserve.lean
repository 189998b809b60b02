import Atreides.CustomerProtection.Inputs
import Atreides.CustomerProtection.Reading
import Atreides.Foundation.SortedSet

/-!
# The reserve formula

One reserve requirement, customer or for the proprietary accounts of broker-dealers: credits
less reduced debits, times the deposit factor, against the deposit that counts. Every percentage,
threshold and line comes from the rule table. A figure that cannot be computed is unknown, and
so is every figure that is made of it.

## Main definitions

* `ReserveFigures`, `ReserveResult` — what a computation reports
* `reserveLines`, `dailyRequired`, `reduction`, `depositFactor`, `deposits` — its parts
* `computeReserve` — the computation

## Main results

* `assures_reserveFigures` — what is known of each figure, by how much was there
* `reserve_fails_safe` — a computation that passes knows every figure, and one that lacks a line,
  a rate or a factor knows no requirement
-/

namespace Atreides

namespace CustomerProtection

open DecimalContext (ambient)

/-! ## Rules -/

def item10 : String := "15c3-3a.item.10"

def noteE3 : String := "15c3-3a.note_e3.debit_reduction"

def pabNote4 : String := "15c3-3a.pab_note_4.no_note_e3"

def weeklyBasis : String := "15c3-1.a1iiA.weekly_basis"

def weeklyReduction : String := "15c3-1.a1iiA.weekly_debit_reduction"

def dailyReduction : String := "15c3-1.a1iiA.daily_debit_reduction"

def pabMonthly : String := "15c3-3.e3iii.pab_monthly"

def pabMonthlyRecovery : String := "15c3-3.e3iii.clean_weekly_computations"

def dailyThreshold : String := "15c3-3.e3iB1.daily_threshold"

def dailyExitNotice : String := "15c3-3.e3iB2.exit_notice"

def voluntaryNotice : String := "15c3-3.e3v.voluntary_daily_notice"

def monthlyAiCeiling : String := "15c3-3.e3iC.monthly_ai_ceiling"

def monthlyFundsCeiling : String := "15c3-3.e3iC.monthly_customer_funds_ceiling"

def monthlyFactor : String := "15c3-3.e3iC.monthly_deposit_factor"

def pabFromCustomer : String := "15c3-3.e4.pab_from_customer_excess_debits"

def affiliatedExcluded : String := "15c3-3.e5.affiliated_bank_excluded"

def bankEquityCap : String := "15c3-3.e5.bank_equity_cap"

/-- The rules whose figure a computation reads. -/
def reserveFigureRules : List String :=
  [noteE3, weeklyReduction, dailyReduction, pabMonthlyRecovery, dailyThreshold, dailyExitNotice,
    voluntaryNotice, monthlyAiCeiling, monthlyFundsCeiling, monthlyFactor, bankEquityCap]

/-! ## Results -/

def ReserveAccounts.value : ReserveAccounts → String
  | customer => "customer"
  | pab => "pab"

/-- The figures of a computation. -/
structure ReserveFigures where
  totalCredits : Option Money
  totalDebits : Option Money
  debitReductionRate : Option Money
  debitReduction : Option Money
  netDebits : Option Money
  excessOfCreditsOverDebits : Option Money
  depositFactor : Option Money
  requirement : Option Money
  excessDebits : Option Money
  customerExcessDebitsApplied : Option Money
  requirementAfterCustomerExcessDebits : Option Money
  eligibleDeposit : Option Money
  excludedDeposit : Option Money
  shortfall : Option Money
  dailyRequired : Option Bool
  deriving DecidableEq

/-- The computation, its evidence, and its disposition. -/
structure ReserveResult extends ReserveFigures where
  accounts : ReserveAccounts
  asOf : Date
  disposition : Disposition
  missingRules : List String
  missingInputs : List String
  unrecognisedInputs : List String
  breaches : List String
  reasons : List String
  rulesUsed : List RuleRef
  deriving DecidableEq

/-! ## Lines -/

namespace ReserveInputs

variable (inputs : ReserveInputs)

/-- The supplied balances by line; a line that comes again hides its earlier balance. -/
def supplied : Dict String (Option NonNegativeMoney) :=
  Dict.ofPairs (inputs.lines.map fun line => (line.ruleId, line.amount))

/-- The supplied balance of a line. -/
def suppliedAmount (ruleId : String) : Option FiniteDecimal :=
  (inputs.supplied.get? ruleId).join.map NonNegativeMoney.amount

/-- The supplied lines that are none of Exhibit A. -/
def unrecognised : List String :=
  (inputs.supplied.keys.filter fun ruleId => ruleId ∉ exhibitACredits ++ exhibitADebits).map
    fun ruleId => "line " ++ ruleId ++ " is not an Exhibit A line"

end ReserveInputs

open Reading

/-- A reader with the Exhibit A lines of its table that are not modeled flagged. -/
def withUnmodeled (rules : RuleReader) : RuleReader :=
  let listed := rules.ofKind .exhibitACredit ++ rules.ofKind .exhibitADebit
  let unmodeled := listed.filter fun ruleId => ruleId ∉ exhibitACredits ++ exhibitADebits
  unmodeled.foldl (fun rules ruleId =>
    rules.flag (ruleId ++ " (listed in the loaded Exhibit A, not modeled)")) rules

/-- Flag the Exhibit A lines of the loaded text that are not modeled. -/
def flagUnmodeled : Reading Unit :=
  Computation.update fun s => { s with rules := withUnmodeled s.rules }

/-- One line's balance, where the line is loaded and the balance supplied. -/
def balance (inputs : ReserveInputs) (ruleId : String) : Reading (Option FiniteDecimal) := do
  let lineLoaded ← present ruleId
  requireInput ruleId (inputs.suppliedAmount ruleId)
  pure (if lineLoaded then inputs.suppliedAmount ruleId else none)

/-- The sum of the balances of some lines. -/
def totalBalance (inputs : ReserveInputs) (ruleIds : List String) :
    Reading (Option FiniteDecimal) := do
  let balances ← Computation.collect (balance inputs) ruleIds
  total balances

/-- Total credits and total debits, unknown where a line is missing. The supplied lines that are
none of Exhibit A are `ReserveInputs.unrecognised`. -/
def reserveLines (inputs : ReserveInputs) :
    Reading (Option FiniteDecimal × Option FiniteDecimal) := do
  flagUnmodeled
  let credits ← totalBalance inputs exhibitACredits
  let debits ← totalBalance inputs exhibitADebits
  pure (credits, debits)

/-! ## Daily computation -/

/-- Whether the phase-in after the threshold was met has ended. -/
def phasedIn (inputs : ReserveInputs) : Reading (Option Bool) :=
  match inputs.dailyRequirementEffectiveDate with
  | none => do
    missInput "daily_requirement_effective_date"
    pure none
  | some effective =>
    if effective ≤ inputs.asOf then pure (some true)
    else do
      reason ("the six-month daily-computation phase-in has not reached its evidenced " ++
        "effective date")
      pure (some false)

/-- Whether a firm below the threshold is still subject to daily computation. -/
def afterExit (inputs : ReserveInputs) : Reading (Option Bool) :=
  match inputs.previouslyDailyRequired, inputs.dailyExitNoticeDate with
  | none, _ => do
    missInput "previously_daily_required"
    pure none
  | some true, some notice => do
    let noticeDays ← value dailyExitNotice
    match noticeDays with
    | none => pure none
    | some noticeDays => do
      let ends ← Computation.ofOutcome (notice.addDays noticeDays.truncate)
      pure (some (inputs.asOf < ends))
  | some previously, _ => pure (some previously)

/-- Whether the firm is subject to daily computation, by its average total credits. -/
def requiredAt (inputs : ReserveInputs) (threshold average : FiniteDecimal) :
    Reading (Option Bool) :=
  if threshold.le average then phasedIn inputs else afterExit inputs

/-- Whether the firm is subject to daily computation; a computation that is not daily then is a
breach. -/
def dailyRequired (inputs : ReserveInputs) : Reading (Option Bool) := do
  let threshold ← value dailyThreshold
  requireInput "average_total_credits" inputs.averageTotalCredits
  match inputs.averageTotalCredits, threshold with
  | some average, some threshold => do
    let required ← requiredAt inputs threshold average.amount
    breachIf (required = some true ∧ inputs.mode ≠ .daily)
      ("the firm is subject to Rule 15c3-3(e)(3)(i)(B) daily computation; " ++
        "this computation is not daily")
    pure required
  | _, _ => pure none

/-- Whether a voluntary daily election was noticed far enough ahead. -/
def voluntaryDailyNoticed (inputs : ReserveInputs) : Reading Bool := do
  let days ← value voluntaryNotice
  match days, inputs.voluntaryDailyNoticeDate with
  | none, _ => pure false
  | some _, none => do
    reason "no voluntary daily notice given; the weekly reduction applies"
    pure false
  | some days, some notice => do
    let earliest ← Computation.ofOutcome (notice.addDays days.truncate)
    if inputs.asOf < earliest then do
      reason ("voluntary daily notice given less than the required period before this " ++
        "computation (Rule 15c3-3(e)(3)(v)); the weekly reduction applies")
      pure false
    else pure true

/-! ## The debit reduction -/

/-- A rule's rate, and the reduction of a figure by it. -/
def reducedBy (ruleId : String) (base : Option FiniteDecimal) :
    Reading (Option FiniteDecimal × Option FiniteDecimal) := do
  let rate ← value ruleId
  let amount ← both (FiniteDecimal.mul ambient) rate base
  pure (rate, amount)

/-- The other accounts are not reduced. -/
def pabReduction : Reading (Option FiniteDecimal × Option FiniteDecimal) := do
  let loaded ← present pabNote4
  pure (if loaded then (some 0, some 0) else (none, none))

/-- A monthly computation under the alternative standard is a breach. -/
def checkWeeklyBasis (inputs : ReserveInputs) : Reading Unit :=
  if inputs.mode = .monthly then do
    let loaded ← present weeklyBasis
    breachIf loaded ("a firm on the alternative standard computes at least weekly " ++
      "(Rule 15c3-1(a)(1)(ii)(A)); this computation is monthly")
  else pure ()

/-- Whether the alternative standard's daily rate applies. -/
def usesDailyRate (inputs : ReserveInputs) (required : Option Bool) : Reading Bool :=
  if inputs.mode = .daily then
    if required = some true then pure true else voluntaryDailyNoticed inputs
  else pure false

/-- The debit reduction rate and amount. -/
def reduction (inputs : ReserveInputs) (debits : Option FiniteDecimal) (required : Option Bool) :
    Reading (Option FiniteDecimal × Option FiniteDecimal) :=
  match inputs.accounts, inputs.standard with
  | .pab, _ => pabReduction
  | .customer, .aggregateIndebtedness => reducedBy noteE3 (inputs.suppliedAmount item10)
  | .customer, .alternative => do
    checkWeeklyBasis inputs
    let daily ← usesDailyRate inputs required
    reducedBy (if daily then dailyReduction else weeklyReduction) debits

/-! ## The deposit factor -/

/-- Fewer clean weekly computations than the recovery requires are a breach. -/
def checkCleanWeeks : Option NonNegativeMoney → Option FiniteDecimal → Reading Unit
  | some clean, some required => breachIf (clean.amount.lt required)
      ("monthly PAB computation is unavailable until the required clean " ++
        "weekly-computation recovery is complete")
  | _, _ => pure ()

/-- The recovery a firm owes after a monthly computation required an additional deposit. -/
def checkRecovery (inputs : ReserveInputs) : Reading Unit :=
  if inputs.pabLastMonthlyRequiredAdditionalDeposit = some true then do
    let required ← value pabMonthlyRecovery
    requireInput "pab_clean_weekly_computations" inputs.pabCleanWeeklyComputations
    checkCleanWeeks inputs.pabCleanWeeklyComputations required
  else pure ()

/-- The factor of a monthly computation of the proprietary accounts. -/
def pabMonthlyFactor (inputs : ReserveInputs) : Reading (Option FiniteDecimal) := do
  let loaded ← present pabMonthly
  if loaded then do
    requireInput "carries_customer_accounts" inputs.carriesCustomerAccounts
    requireInput "conducts_proprietary_trading_business" inputs.conductsProprietaryTradingBusiness
    requireInput "pab_last_monthly_required_additional_deposit"
      inputs.pabLastMonthlyRequiredAdditionalDeposit
    breachIf (inputs.carriesCustomerAccounts = some true ∨
        inputs.conductsProprietaryTradingBusiness = some true)
      ("monthly PAB computation is not available to a firm that carries customer " ++
        "accounts or conducts a proprietary trading business")
    checkRecovery inputs
    pure (some 1)
  else pure none

/-- A monthly customer computation above the ceilings is a breach. -/
def checkCeilings (inputs : ReserveInputs) (ceiling fundsCeiling : Option FiniteDecimal) :
    Reading Unit :=
  match ceiling, fundsCeiling, inputs.aggregateIndebtedness, inputs.netCapital,
    inputs.aggregateCustomerFunds with
  | some ceiling, some fundsCeiling, some indebtedness, some netCapital, some funds => do
    let limit ← Computation.ofOutcome (ceiling.mul ambient netCapital)
    breachIf (limit.lt indebtedness.amount || fundsCeiling.lt funds.amount)
      ("monthly computation is not available: aggregate indebtedness or customer " ++
        "funds exceed the Rule 15c3-3(e)(3)(i)(C) ceilings")
  | _, _, _, _, _ => pure ()

/-- The factor of a monthly customer computation. -/
def customerMonthlyFactor (inputs : ReserveInputs) : Reading (Option FiniteDecimal) := do
  let ceiling ← value monthlyAiCeiling
  let fundsCeiling ← value monthlyFundsCeiling
  let factor ← value monthlyFactor
  requireInput "aggregate_indebtedness" inputs.aggregateIndebtedness
  requireInput "net_capital" inputs.netCapital
  requireInput "aggregate_customer_funds" inputs.aggregateCustomerFunds
  checkCeilings inputs ceiling fundsCeiling
  pure factor

/-- What the excess of credits is multiplied by. -/
def depositFactor (inputs : ReserveInputs) : Reading (Option FiniteDecimal) :=
  match inputs.mode, inputs.accounts with
  | .monthly, .pab => pabMonthlyFactor inputs
  | .monthly, .customer => customerMonthlyFactor inputs
  | _, _ => pure (some 1)

/-! ## Deposits -/

/-- The part of one bank's cash that counts. -/
def eligibleCash (cap : Option FiniteDecimal) (affiliatedRule : Bool)
    (deposit : BankCashDeposit) : Reading (Option FiniteDecimal) :=
  if deposit.affiliated then pure (if affiliatedRule then some 0 else none)
  else
    match deposit.bankEquityCapital, cap with
    | none, _ => do
      missInput ("bank_equity_capital[" ++ deposit.bank ++ "]")
      pure none
    | some _, none => pure none
    | some equity, some cap => do
      let limit ← Computation.ofOutcome (cap.mul ambient equity.amount)
      pure (some (deposit.amount.amount.min limit))

/-- The cap on cash at one bank, where there is cash. -/
def cashCap (inputs : ReserveInputs) : Reading (Option FiniteDecimal) :=
  if inputs.cashDeposits = [] then pure (some 0) else value bankEquityCap

/-- Whether cash at affiliated banks is known to be excluded, where there is some. -/
def affiliatedRuleLoaded (inputs : ReserveInputs) : Reading Bool :=
  if inputs.cashDeposits.any BankCashDeposit.affiliated then present affiliatedExcluded
  else pure true

/-- The deposit that counts, and the amount excluded. -/
def deposits (inputs : ReserveInputs) :
    Reading (Option FiniteDecimal × Option FiniteDecimal) := do
  let cap ← cashCap inputs
  let affiliatedRule ← affiliatedRuleLoaded inputs
  let eligible ← Computation.collect (eligibleCash cap affiliatedRule) inputs.cashDeposits
  requireInput "qualified_securities_deposit" inputs.qualifiedSecuritiesDeposit
  let cash ← total eligible
  match cash, inputs.qualifiedSecuritiesDeposit with
  | some cash, some qualified => do
    let whole ← Computation.ofOutcome (FiniteDecimal.sum ambient 0
      (inputs.cashDeposits.map fun deposit => deposit.amount.amount))
    let excluded ← Computation.ofOutcome (whole.sub ambient cash)
    let counted ← Computation.ofOutcome (cash.add ambient qualified.amount)
    pure (some counted, some excluded)
  | _, _ => pure (none, none)

/-- The part of a requirement that excess debits of the customer computation satisfy. -/
def customerExcessApplied (inputs : ReserveInputs) (requirement : Option FiniteDecimal) :
    Reading (Option FiniteDecimal) :=
  match inputs.accounts, inputs.customerExcessDebits with
  | .customer, _ => pure (some 0)
  | .pab, none => pure (some 0)
  | .pab, some excess =>
    if inputs.customerComputationAsOf ≠ some inputs.asOf then do
      reason "customer excess debits are from another date; Rule 15c3-3(e)(4) uses the same date"
      pure (some 0)
    else do
      let loaded ← present pabFromCustomer
      pure (if loaded then requirement.map fun requirement => requirement.min excess.amount
        else none)

/-! ## The computation -/

/-- The requirement: the excess of credits, or zero, times the factor. -/
def requirementOf : Option FiniteDecimal → Option FiniteDecimal → Reading (Option FiniteDecimal) :=
  both fun excess factor => (excess.max 0).mul ambient factor

/-- The excess of debits, or zero. -/
def excessDebitsOf : Option FiniteDecimal → Reading (Option FiniteDecimal)
  | none => pure none
  | some excess => do
    let opposite ← Computation.ofOutcome (excess.neg ambient)
    pure (some (opposite.max 0))

/-- What a requirement exceeds a deposit by, or zero. -/
def excessOver (after eligible : FiniteDecimal) : Outcome FiniteDecimal := do
  let missing ← after.sub ambient eligible
  .ok (missing.max 0)

/-- The requirement less the deposit that counts, or zero. -/
def shortfallOf : Option FiniteDecimal → Option FiniteDecimal → Reading (Option FiniteDecimal) :=
  both excessOver

/-- A shortfall is a breach. -/
def checkShortfall (inputs : ReserveInputs) : Option FiniteDecimal → Reading Unit
  | none => pure ()
  | some shortfall => breachIf (FiniteDecimal.lt 0 shortfall)
      (inputs.accounts.value ++ " reserve deposit is short of the requirement by " ++
        shortfall.text)

/-- The figures of a computation, in the order the rules are read. -/
def reserveFigures (inputs : ReserveInputs) : Reading ReserveFigures := do
  let (credits, debits) ← reserveLines inputs
  let required ← dailyRequired inputs
  let (rate, reduction) ← reduction inputs debits required
  let factor ← depositFactor inputs
  let netDebits ← both (FiniteDecimal.sub ambient) debits reduction
  let excess ← both (FiniteDecimal.sub ambient) credits netDebits
  let requirement ← requirementOf excess factor
  let excessDebits ← excessDebitsOf excess
  let applied ← customerExcessApplied inputs requirement
  let after ← both (FiniteDecimal.sub ambient) requirement applied
  let (eligible, excluded) ← deposits inputs
  let shortfall ← shortfallOf after eligible
  checkShortfall inputs shortfall
  pure {
    totalCredits := credits
    totalDebits := debits
    debitReductionRate := rate
    debitReduction := reduction
    netDebits
    excessOfCreditsOverDebits := excess
    depositFactor := factor
    requirement
    excessDebits
    customerExcessDebitsApplied := applied
    requirementAfterCustomerExcessDebits := after
    eligibleDeposit := eligible
    excludedDeposit := excluded
    shortfall
    dailyRequired := required }

/-- Compute one reserve requirement. -/
def computeReserve (inputs : ReserveInputs) (table : RuleTable) : Outcome ReserveResult := do
  let (figures, found) ← reserveFigures inputs { rules := { table } }
  let missingRules := found.rules.missing
  .ok { figures with
    accounts := inputs.accounts
    asOf := inputs.asOf
    disposition := CustomerProtection.decide (missingRules ++ inputs.unrecognised)
      found.missingInputs found.breaches
    missingRules
    missingInputs := Atreides.sortedSet found.missingInputs
    unrecognisedInputs := inputs.unrecognised
    breaches := found.breaches
    reasons := found.reasons
    rulesUsed := found.rules.used }

/-! ## What each part makes known -/

section Parts

variable {table : RuleTable} {inputs : ReserveInputs}

/-- A line the computation cannot use: not loaded, or without a supplied balance. -/
def Lacks (inputs : ReserveInputs) (table : RuleTable) (ruleId : String) : Prop :=
  inputs.suppliedAmount ruleId = none ∨ table.get ruleId = none

theorem withUnmodeled_spec (rules : RuleReader) :
    (withUnmodeled rules).table = rules.table ∧
      ((withUnmodeled rules).missingRules = [] → rules.missingRules = []) := by
  rw [withUnmodeled]
  generalize List.filter _ _ = unmodeled
  induction unmodeled generalizing rules with
  | nil => exact ⟨rfl, id⟩
  | cons ruleId rest ih =>
    obtain ⟨htable, hmissing⟩ := ih
      (rules.flag (ruleId ++ " (listed in the loaded Exhibit A, not modeled)"))
    refine ⟨htable, fun h => ?_⟩
    -- a flagged reader misses something
    exact absurd (hmissing h) (List.ne_nil_of_mem (Dict.mem_noteKey.mpr (Or.inr rfl)))

theorem assures_flagUnmodeled : Assures table flagUnmodeled fun _ _ => True := by
  refine Ensures.update (fun s hs => (withUnmodeled_spec s.rules).1.trans hs) fun ev s hev => ?_
  refine ⟨?_, trivial⟩
  cases ev with
  | any => trivial
  | rules => exact (withUnmodeled_spec s.rules).2 hev
  | complete => exact ⟨(withUnmodeled_spec s.rules).2 hev.1, hev.2⟩

theorem assures_balance (ruleId : String) : Assures table (balance inputs ruleId) fun ev v =>
    (v = none ↔ Lacks inputs table ruleId) ∧ (ev ≠ .any → table.get ruleId ≠ none) ∧
      (ev = .complete → v ≠ none) := by
  refine Ensures.bind Assures.present fun loaded => ?_
  refine Ensures.bind Assures.requireInput fun _ => ?_
  refine Ensures.pure fun ev hsupplied ⟨hrules, hloaded⟩ => ?_
  rcases hget : table.get ruleId with _ | found
  · have hfalse : loaded = false := by simpa [hget] using hloaded
    have hany : ev = .any := by
      by_contra hev
      rw [hrules hev] at hfalse
      cases hfalse
    simp [hfalse, hany, Lacks, hget]
  · have htrue : loaded = true := by simpa [hget] using hloaded
    simpa [htrue, Lacks, hget] using hsupplied

/-- A list of figures lacks one exactly where one of the lines does. -/
theorem none_mem_iff {ruleIds : List String} {values : List (Option FiniteDecimal)}
    {P Q : String → Prop} {R : Option FiniteDecimal → Prop}
    (h : List.Forall₂ (fun ruleId v => (v = none ↔ P ruleId) ∧ Q ruleId ∧ R v) ruleIds values) :
    none ∈ values ↔ ∃ ruleId ∈ ruleIds, P ruleId := by
  induction h with
  | nil => simp
  | cons hhead _ ih =>
    rw [List.mem_cons, List.exists_mem_cons_iff, ih, eq_comm, hhead.1]

theorem forall_of_forall₂ {ruleIds : List String} {values : List (Option FiniteDecimal)}
    {P Q : String → Prop} {R : Option FiniteDecimal → Prop}
    (h : List.Forall₂ (fun ruleId v => (v = none ↔ P ruleId) ∧ Q ruleId ∧ R v) ruleIds values) :
    (∀ ruleId ∈ ruleIds, Q ruleId) ∧ ∀ v ∈ values, R v := by
  induction h with
  | nil => simp
  | cons hhead _ ih =>
    exact ⟨List.forall_mem_cons.mpr ⟨hhead.2.1, ih.1⟩,
      List.forall_mem_cons.mpr ⟨hhead.2.2, ih.2⟩⟩

theorem assures_totalBalance (ruleIds : List String) :
    Assures table (totalBalance inputs ruleIds) fun ev v =>
      (v = none ↔ ∃ ruleId ∈ ruleIds, Lacks inputs table ruleId) ∧
        (ev ≠ .any → ∀ ruleId ∈ ruleIds, table.get ruleId ≠ none) ∧
        (ev = .complete → v ≠ none) := by
  refine Ensures.bind (Ensures.collect fun ruleId _ => assures_balance ruleId) fun balances => ?_
  refine (Assures.total balances).weaken fun ev v ⟨hnone, _⟩ hbalances => ?_
  obtain ⟨hloaded, hknown⟩ := forall_of_forall₂ hbalances
  refine ⟨hnone.trans (none_mem_iff hbalances), fun hev ruleId hmem => hloaded ruleId hmem hev,
    fun hev hv => ?_⟩
  exact hknown none (hnone.mp hv) hev rfl

theorem assures_reserveLines : Assures table (reserveLines inputs) fun ev p =>
    (p.1 = none ↔ ∃ ruleId ∈ exhibitACredits, Lacks inputs table ruleId) ∧
      (p.2 = none ↔ ∃ ruleId ∈ exhibitADebits, Lacks inputs table ruleId) ∧
      (ev ≠ .any → ∀ ruleId ∈ exhibitACredits ++ exhibitADebits, table.get ruleId ≠ none) ∧
      (ev = .complete → p.1 ≠ none ∧ p.2 ≠ none) := by
  refine Ensures.bind assures_flagUnmodeled fun _ => ?_
  refine Ensures.bind (assures_totalBalance exhibitACredits) fun credits => ?_
  refine Ensures.bind (assures_totalBalance exhibitADebits) fun debits => ?_
  refine Ensures.pure fun ev ⟨hdebits, hdloaded, hdknown⟩ ⟨hcredits, hcloaded, hcknown⟩ _ => ?_
  refine ⟨hcredits, hdebits, fun hev ruleId hmem => ?_, fun hev => ⟨hcknown hev, hdknown hev⟩⟩
  rcases List.mem_append.mp hmem with hmem | hmem
  · exact hcloaded hev ruleId hmem
  · exact hdloaded hev ruleId hmem

theorem assures_addDays (date : Date) (days : ℤ) :
    Assures table (Computation.ofOutcome (date.addDays days)) fun _ _ => True :=
  Ensures.ofOutcome (fun _ _ _ => trivial) fun _ he => Or.inr (Date.addDays_error he)

theorem assures_phasedIn : Assures table (phasedIn inputs) fun ev v =>
    ev = .complete → v ≠ none := by
  rw [phasedIn]
  split
  · refine Ensures.bind Assures.missInput fun _ => ?_
    exact Ensures.pure fun ev hev hcomplete => absurd hcomplete hev
  · split_ifs
    · exact Ensures.pure fun _ _ => by simp
    · refine Ensures.bind Assures.reason fun _ => ?_
      exact Ensures.pure fun _ _ _ => by simp

variable (hstates : table.StatesFigures reserveFigureRules)

include hstates in
theorem assures_afterExit : Assures table (afterExit inputs) fun ev v =>
    ev = .complete → v ≠ none := by
  rw [afterExit]
  split
  · refine Ensures.bind Assures.missInput fun _ => ?_
    exact Ensures.pure fun ev hev hcomplete => absurd hcomplete hev
  · refine Ensures.bind (Assures.value (hstates _ (by simp [reserveFigureRules]))) fun days => ?_
    split
    · exact Ensures.pure fun ev ⟨hknown, _⟩ hcomplete => absurd rfl (hknown (by simp [hcomplete]))
    · refine Ensures.bind (assures_addDays _ _) fun ends => ?_
      exact Ensures.pure fun _ _ _ _ => by simp
  · exact Ensures.pure fun _ _ => by simp

include hstates in
theorem assures_requiredAt (threshold average : FiniteDecimal) :
    Assures table (requiredAt inputs threshold average) fun ev v =>
      ev = .complete → v ≠ none := by
  rw [requiredAt]
  split_ifs
  · exact assures_phasedIn
  · exact assures_afterExit hstates

include hstates in
theorem assures_dailyRequired : Assures table (dailyRequired inputs) fun ev v =>
    ev = .complete → v ≠ none := by
  refine Ensures.bind (Assures.value (hstates _ (by simp [reserveFigureRules]))) fun threshold => ?_
  refine Ensures.bind Assures.requireInput fun _ => ?_
  rcases inputs.averageTotalCredits with _ | average
  · exact Ensures.pure fun ev hsupplied _ hcomplete => absurd rfl (hsupplied hcomplete)
  rcases threshold with _ | threshold
  · exact Ensures.pure fun ev _ ⟨hknown, _⟩ hcomplete => absurd rfl (hknown (by simp [hcomplete]))
  · refine Ensures.bind (assures_requiredAt hstates threshold average.amount) fun required => ?_
    refine Ensures.bind Assures.breachIf fun _ => ?_
    exact Ensures.pure fun ev _ hknown _ _ => hknown

include hstates in
theorem assures_voluntaryDailyNoticed :
    Assures table (voluntaryDailyNoticed inputs) fun _ _ => True := by
  refine Ensures.bind (Assures.value (hstates _ (by simp [reserveFigureRules]))) fun days => ?_
  split
  · exact Ensures.pure fun _ _ => trivial
  · refine Ensures.bind Assures.reason fun _ => ?_
    exact Ensures.pure fun _ _ _ => trivial
  · refine Ensures.bind (assures_addDays _ _) fun earliest => ?_
    split_ifs
    · refine Ensures.bind Assures.reason fun _ => ?_
      exact Ensures.pure fun _ _ _ _ => trivial
    · exact Ensures.pure fun _ _ _ => trivial

/-- A rate and the reduction of a base by it. -/
theorem assures_reducedBy {ruleId : String} (hmem : ruleId ∈ reserveFigureRules)
    (hstates : table.StatesFigures reserveFigureRules) (base : Option FiniteDecimal) :
    Assures table (reducedBy ruleId base) fun ev p =>
      (ev ≠ .any → p.1 ≠ none) ∧ (p.2 = none ↔ p.1 = none ∨ base = none) := by
  refine Ensures.bind (Assures.value (hstates _ hmem)) fun rate => ?_
  refine Ensures.bind (Assures.both Assures.overflowOnly_mul rate base) fun amount => ?_
  exact Ensures.pure fun ev ⟨hamount, _⟩ ⟨hrate, _⟩ => ⟨hrate, hamount⟩

/-- The base that a reduction is a rate of, where there is one. -/
def reductionBase (inputs : ReserveInputs) (debits : Option FiniteDecimal) :
    Option FiniteDecimal :=
  match inputs.accounts, inputs.standard with
  | .pab, _ => some 0
  | .customer, .aggregateIndebtedness => inputs.suppliedAmount item10
  | .customer, .alternative => debits

theorem assures_pabReduction : Assures table pabReduction fun ev p =>
    (ev ≠ .any → p.1 ≠ none) ∧ (p.2 = none ↔ p.1 = none) := by
  refine Ensures.bind Assures.present fun loaded => ?_
  refine Ensures.pure fun ev ⟨hloaded, _⟩ => ?_
  cases loaded with
  | true => simp
  | false => simpa using hloaded

theorem assures_checkWeeklyBasis : Assures table (checkWeeklyBasis inputs) fun _ _ => True := by
  rw [checkWeeklyBasis]
  split_ifs
  · refine Ensures.bind Assures.present fun loaded => ?_
    exact Assures.breachIf.weaken fun _ _ _ _ => trivial
  · exact Ensures.pure fun _ => trivial

include hstates in
theorem assures_usesDailyRate (required : Option Bool) :
    Assures table (usesDailyRate inputs required) fun _ _ => True := by
  rw [usesDailyRate]
  split_ifs
  · exact Ensures.pure fun _ => trivial
  · exact assures_voluntaryDailyNoticed hstates
  · exact Ensures.pure fun _ => trivial

include hstates in
theorem assures_reduction (debits : Option FiniteDecimal) (required : Option Bool) :
    Assures table (reduction inputs debits required) fun ev p =>
      (ev ≠ .any → p.1 ≠ none) ∧
        (p.2 = none ↔ p.1 = none ∨ reductionBase inputs debits = none) := by
  rw [reduction, reductionBase]
  split
  · exact assures_pabReduction.weaken fun _ _ h => by simpa using h
  · exact assures_reducedBy (by simp [reserveFigureRules]) hstates _
  · refine Ensures.bind assures_checkWeeklyBasis fun _ => ?_
    refine Ensures.bind (assures_usesDailyRate hstates required) fun daily => ?_
    have hmem : (if daily then dailyReduction else weeklyReduction) ∈ reserveFigureRules := by
      cases daily <;> simp [reserveFigureRules]
    exact (assures_reducedBy hmem hstates debits).weaken fun _ _ h _ _ => h

theorem assures_checkCleanWeeks (clean : Option NonNegativeMoney)
    (required : Option FiniteDecimal) :
    Assures table (checkCleanWeeks clean required) fun _ _ => True := by
  rw [checkCleanWeeks.eq_def]
  split
  · exact Assures.breachIf.weaken fun _ _ _ => trivial
  · exact Ensures.pure fun _ => trivial

include hstates in
theorem assures_checkRecovery : Assures table (checkRecovery inputs) fun _ _ => True := by
  rw [checkRecovery]
  split_ifs
  · refine Ensures.bind (Assures.value (hstates _ (by simp [reserveFigureRules]))) fun _ => ?_
    refine Ensures.bind Assures.requireInput fun _ => ?_
    exact (assures_checkCleanWeeks _ _).weaken fun _ _ _ _ _ => trivial
  · exact Ensures.pure fun _ => trivial

include hstates in
theorem assures_pabMonthlyFactor : Assures table (pabMonthlyFactor inputs) fun ev v =>
    ev ≠ .any → v ≠ none := by
  refine Ensures.bind Assures.present fun loaded => ?_
  split_ifs with hloaded
  · refine Ensures.bind Assures.requireInput fun _ => ?_
    refine Ensures.bind Assures.requireInput fun _ => ?_
    refine Ensures.bind Assures.requireInput fun _ => ?_
    refine Ensures.bind Assures.breachIf fun _ => ?_
    refine Ensures.bind (assures_checkRecovery hstates) fun _ => ?_
    exact Ensures.pure fun _ _ _ _ _ _ _ _ => by simp
  · exact Ensures.pure fun ev ⟨hrules, _⟩ hev => absurd (hrules hev) hloaded

theorem assures_checkCeilings (ceiling fundsCeiling : Option FiniteDecimal) :
    Assures table (checkCeilings inputs ceiling fundsCeiling) fun _ _ => True := by
  rw [checkCeilings.eq_def]
  split
  · refine Ensures.bind (Assures.arithmetic (Assures.overflowOnly_mul _ _)) fun limit => ?_
    exact Assures.breachIf.weaken fun _ _ _ _ => trivial
  · exact Ensures.pure fun _ => trivial

include hstates in
theorem assures_customerMonthlyFactor : Assures table (customerMonthlyFactor inputs) fun ev v =>
    ev ≠ .any → v ≠ none := by
  refine Ensures.bind (Assures.value (hstates _ (by simp [reserveFigureRules]))) fun ceiling => ?_
  refine Ensures.bind (Assures.value (hstates _ (by simp [reserveFigureRules]))) fun funds => ?_
  refine Ensures.bind (Assures.value (hstates _ (by simp [reserveFigureRules]))) fun factor => ?_
  refine Ensures.bind Assures.requireInput fun _ => ?_
  refine Ensures.bind Assures.requireInput fun _ => ?_
  refine Ensures.bind Assures.requireInput fun _ => ?_
  refine Ensures.bind (assures_checkCeilings ceiling funds) fun _ => ?_
  exact Ensures.pure fun _ _ _ _ _ ⟨hfactor, _⟩ _ _ => hfactor

include hstates in
theorem assures_depositFactor : Assures table (depositFactor inputs) fun ev v =>
    ev ≠ .any → v ≠ none := by
  rw [depositFactor]
  split
  · exact assures_pabMonthlyFactor hstates
  · exact assures_customerMonthlyFactor hstates
  · exact Ensures.pure fun _ _ => by simp

/-- One bank's cash is known where its cap and the rule on affiliated banks are. -/
theorem assures_eligibleCash (cap : Option FiniteDecimal) (affiliatedRule : Bool)
    (deposit : BankCashDeposit) : Assures table (eligibleCash cap affiliatedRule deposit)
      fun ev v => ev = .complete → cap ≠ none → (deposit.affiliated = true → affiliatedRule = true) →
        v ≠ none := by
  rw [eligibleCash.eq_def]
  by_cases haffiliated : deposit.affiliated = true
  · rw [if_pos haffiliated]
    refine Ensures.pure fun _ _ _ hrule => ?_
    simp [hrule haffiliated]
  · rw [if_neg haffiliated]
    split
    · refine Ensures.bind Assures.missInput fun _ => ?_
      exact Ensures.pure fun _ hev hcomplete => absurd hcomplete hev
    · exact Ensures.pure fun _ _ hcap => absurd rfl hcap
    · refine Ensures.bind (Assures.arithmetic (Assures.overflowOnly_mul _ _)) fun limit => ?_
      exact Ensures.pure fun _ _ _ _ _ => by simp

include hstates in
theorem assures_cashCap : Assures table (cashCap inputs) fun ev v => ev ≠ .any → v ≠ none := by
  rw [cashCap]
  split_ifs
  · exact Ensures.pure fun _ _ => by simp
  · exact (Assures.value (hstates _ (by simp [reserveFigureRules]))).weaken fun _ _ h => h.1

theorem assures_affiliatedRuleLoaded : Assures table (affiliatedRuleLoaded inputs) fun ev loaded =>
    ev ≠ .any → loaded = true := by
  rw [affiliatedRuleLoaded]
  split_ifs
  · exact Assures.present.weaken fun _ _ h => h.1
  · exact Ensures.pure fun _ _ => rfl

include hstates in
theorem assures_deposits : Assures table (deposits inputs) fun ev p =>
    (p.1 = none ↔ p.2 = none) ∧ (ev = .complete → p.1 ≠ none) := by
  refine Ensures.bind (assures_cashCap hstates) fun cap => ?_
  refine Ensures.bind assures_affiliatedRuleLoaded fun affiliatedRule => ?_
  refine Ensures.bind (Ensures.collect fun deposit _ =>
    assures_eligibleCash cap affiliatedRule deposit) fun eligible => ?_
  refine Ensures.bind Assures.requireInput fun _ => ?_
  refine Ensures.bind (Assures.total eligible) fun cash => ?_
  split
  · refine Ensures.bind (Assures.arithmetic fun _ h => FiniteDecimal.sum_error h) fun whole => ?_
    refine Ensures.bind (Assures.arithmetic (Assures.overflowOnly_sub _ _)) fun excluded => ?_
    refine Ensures.bind (Assures.arithmetic (Assures.overflowOnly_add _ _)) fun counted => ?_
    exact Ensures.pure fun _ _ _ _ _ _ _ _ _ => by simp
  · next hunknown =>
    refine Ensures.pure fun ev ⟨hcash, _⟩ hsupplied heligible hrule hcap => ⟨by simp, ?_⟩
    intro hcomplete
    have hany : ev ≠ .any := by simp [hcomplete]
    -- every bank's cash is known, and so is the sum
    have hknown : none ∉ eligible := by
      intro hnone
      obtain ⟨deposit, -, hv⟩ := exists_of_forall₂_mem heligible hnone
      exact hv hcomplete (hcap hany) (fun _ => hrule hany) rfl
    obtain ⟨x, hx⟩ := Option.ne_none_iff_exists'.mp (mt hcash.mp hknown)
    obtain ⟨y, hy⟩ := Option.ne_none_iff_exists'.mp (hsupplied hcomplete)
    exact absurd hy (hunknown x y hx)

theorem assures_customerExcessApplied (requirement : Option FiniteDecimal) :
    Assures table (customerExcessApplied inputs requirement) fun ev v =>
      ev ≠ .any → requirement ≠ none → v ≠ none := by
  rw [customerExcessApplied]
  split
  · exact Ensures.pure fun _ _ _ => by simp
  · exact Ensures.pure fun _ _ _ => by simp
  · split_ifs
    · refine Ensures.bind Assures.reason fun _ => ?_
      exact Ensures.pure fun _ _ _ _ => by simp
    · refine Ensures.bind Assures.present fun loaded => ?_
      refine Ensures.pure fun ev ⟨hloaded, _⟩ hev hrequirement => ?_
      rw [hloaded hev, if_pos rfl, Ne, Option.map_eq_none_iff]
      exact hrequirement

/-! ## What the figures are made of -/

/-- Each figure is unknown exactly where one that it is made of is. -/
structure ReserveFigures.Follow (inputs : ReserveInputs) (table : RuleTable)
    (f : ReserveFigures) : Prop where
  credits : f.totalCredits = none ↔ ∃ ruleId ∈ exhibitACredits, Lacks inputs table ruleId
  debits : f.totalDebits = none ↔ ∃ ruleId ∈ exhibitADebits, Lacks inputs table ruleId
  reduction : f.debitReduction = none ↔
    f.debitReductionRate = none ∨ reductionBase inputs f.totalDebits = none
  net_debits : f.netDebits = none ↔ f.totalDebits = none ∨ f.debitReduction = none
  excess : f.excessOfCreditsOverDebits = none ↔ f.totalCredits = none ∨ f.netDebits = none
  excess_debits : f.excessDebits = none ↔ f.excessOfCreditsOverDebits = none
  requirement : f.requirement = none ↔
    f.excessOfCreditsOverDebits = none ∨ f.depositFactor = none
  after : f.requirementAfterCustomerExcessDebits = none ↔
    f.requirement = none ∨ f.customerExcessDebitsApplied = none
  deposit : f.eligibleDeposit = none ↔ f.excludedDeposit = none
  shortfall : f.shortfall = none ↔
    f.requirementAfterCustomerExcessDebits = none ∨ f.eligibleDeposit = none

/-- The lines are loaded, and the rate and the factor are known. -/
structure ReserveFigures.RulesRead (table : RuleTable) (f : ReserveFigures) : Prop where
  lines : ∀ ruleId ∈ exhibitACredits ++ exhibitADebits, table.get ruleId ≠ none
  rate : f.debitReductionRate ≠ none
  factor : f.depositFactor ≠ none

/-- Every figure is known, and nothing is short. -/
structure ReserveFigures.Complete (f : ReserveFigures) : Prop where
  credits : f.totalCredits ≠ none
  debits : f.totalDebits ≠ none
  rate : f.debitReductionRate ≠ none
  reduction : f.debitReduction ≠ none
  net_debits : f.netDebits ≠ none
  excess : f.excessOfCreditsOverDebits ≠ none
  factor : f.depositFactor ≠ none
  requirement : f.requirement ≠ none
  excess_debits : f.excessDebits ≠ none
  applied : f.customerExcessDebitsApplied ≠ none
  after : f.requirementAfterCustomerExcessDebits ≠ none
  eligible : f.eligibleDeposit ≠ none
  excluded : f.excludedDeposit ≠ none
  daily : f.dailyRequired ≠ none
  not_short : ∃ shortfall ∈ f.shortfall, shortfall.value = 0

theorem assures_excessDebitsOf (excess : Option FiniteDecimal) :
    Assures table (excessDebitsOf excess) fun _ v => v = none ↔ excess = none := by
  rcases excess with _ | excess
  · exact Ensures.pure fun _ => by simp
  · refine Ensures.bind (Assures.arithmetic fun _ h => DecimalContext.fix_error h) fun _ => ?_
    exact Ensures.pure fun _ _ => by simp

theorem overflowOnly_requirement :
    Assures.OverflowOnly fun excess factor => (excess.max 0).mul ambient factor :=
  fun _ _ _ h => DecimalContext.fix_error h

theorem overflowOnly_excessOver : Assures.OverflowOnly excessOver := by
  intro after eligible e h
  obtain h | ⟨_, -, h⟩ := Outcome.bind_eq_error.mp h
  · exact DecimalContext.fix_error h
  · cases h

/-- A maximum with zero is not negative. -/
theorem value_max_zero_nonneg (d : FiniteDecimal) : 0 ≤ (d.max 0).value := by
  rw [FiniteDecimal.max]
  split_ifs with h
  · simp
  · rw [FiniteDecimal.lt_iff, not_lt] at h
    simpa using h

/-- A shortfall is not negative, and one that is a breach is positive. -/
theorem assures_shortfallOf (after eligible : Option FiniteDecimal) :
    Assures table (shortfallOf after eligible) fun _ v =>
      (v = none ↔ after = none ∨ eligible = none) ∧ ∀ shortfall ∈ v, 0 ≤ shortfall.value := by
  refine (Assures.both overflowOnly_excessOver after eligible).weaken fun _ v ⟨hnone, hop⟩ => ?_
  refine ⟨hnone, fun shortfall hv => ?_⟩
  have hknown : ¬ (after = none ∨ eligible = none) := by
    rw [← hnone, hv]
    simp
  rw [not_or] at hknown
  obtain ⟨x, hx⟩ := Option.ne_none_iff_exists'.mp hknown.1
  obtain ⟨y, hy⟩ := Option.ne_none_iff_exists'.mp hknown.2
  obtain ⟨missing, -, hmax⟩ := Outcome.bind_eq_ok.mp (hop x hx y hy shortfall hv)
  cases hmax
  exact value_max_zero_nonneg missing

theorem assures_checkShortfall (shortfall : Option FiniteDecimal) :
    Assures table (checkShortfall inputs shortfall) fun ev _ =>
      ev = .complete → ∀ s ∈ shortfall, s.value ≤ 0 := by
  rcases shortfall with _ | shortfall
  · exact Ensures.pure fun _ => by simp
  · refine Assures.breachIf.weaken fun ev _ hbreach hcomplete s hs => ?_
    cases hs
    have hnot := hbreach hcomplete
    rw [← Bool.not_eq_true, FiniteDecimal.lt_iff, not_lt] at hnot
    simpa using hnot

include hstates in
/-- What is known of the figures: each follows those it is made of, with all the rules the lines,
the rate and the factor are there, and with everything there nothing is unknown or short. -/
theorem assures_reserveFigures : Assures table (reserveFigures inputs) fun ev f =>
    f.Follow inputs table ∧ (ev ≠ .any → f.RulesRead table) ∧ (ev = .complete → f.Complete) := by
  refine Ensures.bind assures_reserveLines fun ⟨credits, debits⟩ => ?_
  refine Ensures.bind (assures_dailyRequired hstates) fun required => ?_
  refine Ensures.bind (assures_reduction hstates debits required) fun ⟨rate, reduced⟩ => ?_
  refine Ensures.bind (assures_depositFactor hstates) fun factor => ?_
  refine Ensures.bind (Assures.both Assures.overflowOnly_sub debits reduced) fun netDebits => ?_
  refine Ensures.bind (Assures.both Assures.overflowOnly_sub credits netDebits) fun excess => ?_
  refine Ensures.bind (Assures.both overflowOnly_requirement excess factor) fun requirement => ?_
  refine Ensures.bind (assures_excessDebitsOf excess) fun excessDebits => ?_
  refine Ensures.bind (assures_customerExcessApplied requirement) fun applied => ?_
  refine Ensures.bind (Assures.both Assures.overflowOnly_sub requirement applied) fun after => ?_
  refine Ensures.bind (assures_deposits hstates) fun ⟨eligible, excluded⟩ => ?_
  refine Ensures.bind (assures_shortfallOf after eligible) fun shortfall => ?_
  refine Ensures.bind (assures_checkShortfall shortfall) fun _ => ?_
  refine Ensures.pure fun ev hnotShort ⟨hshortfall, hnonneg⟩ ⟨hdeposit, heligible⟩ ⟨hafter, _⟩
    happlied hexcessDebits ⟨hrequirement, _⟩ ⟨hexcess, _⟩ ⟨hnetDebits, _⟩ hfactor
    ⟨hrate, hreduced⟩ hdaily ⟨hcredits, hdebits, hlines, hknown⟩ => ?_
  refine ⟨⟨hcredits, hdebits, hreduced, hnetDebits, hexcess, hexcessDebits, hrequirement, hafter,
    hdeposit, hshortfall⟩, fun hev => ⟨hlines hev, hrate hev, hfactor hev⟩, fun hev => ?_⟩
  have hrates : ev ≠ .any := by simp [hev]
  obtain ⟨hcreditsKnown, hdebitsKnown⟩ := hknown hev
  have hbase : reductionBase inputs debits ≠ none := by
    rw [reductionBase]
    split
    · simp
    · -- Item 10 is one of the debit lines
      exact fun h => hdebitsKnown (hdebits.mpr ⟨item10, by simp [exhibitADebits, item10], Or.inl h⟩)
    · exact hdebitsKnown
  have hreduction : reduced ≠ none := fun h => (hreduced.mp h).elim (hrate hrates) hbase
  have hnet : netDebits ≠ none := fun h => (hnetDebits.mp h).elim hdebitsKnown hreduction
  have hexcessKnown : excess ≠ none := fun h => (hexcess.mp h).elim hcreditsKnown hnet
  have hrequired : requirement ≠ none :=
    fun h => (hrequirement.mp h).elim hexcessKnown (hfactor hrates)
  have happliedKnown := happlied hrates hrequired
  have hafterKnown : after ≠ none := fun h => (hafter.mp h).elim hrequired happliedKnown
  have heligibleKnown := heligible hev
  obtain ⟨short, hshort⟩ : ∃ short, shortfall = some short :=
    Option.ne_none_iff_exists'.mp fun h => (hshortfall.mp h).elim hafterKnown heligibleKnown
  exact {
    credits := hcreditsKnown
    debits := hdebitsKnown
    rate := hrate hrates
    reduction := hreduction
    net_debits := hnet
    excess := hexcessKnown
    factor := hfactor hrates
    requirement := hrequired
    excess_debits := fun h => hexcessKnown (hexcessDebits.mp h)
    applied := happliedKnown
    after := hafterKnown
    eligible := heligibleKnown
    excluded := fun h => heligibleKnown (hdeposit.mpr h)
    daily := hdaily hev
    not_short := ⟨short, hshort, le_antisymm (hnotShort hev short hshort)
      (hnonneg short hshort)⟩ }

end Parts

/-! ## What a computation reports -/

section Report

variable {table : RuleTable} {inputs : ReserveInputs} {result : ReserveResult}

theorem missing_eq_nil {rules : RuleReader} : rules.missing = [] ↔ rules.missingRules = [] := by
  have hperm := List.perm_insertionSort (· ≤ ·) rules.missingRules
  constructor
  · intro h
    rw [RuleReader.missing] at h
    rw [h] at hperm
    exact hperm.symm.eq_nil
  · intro h
    rw [RuleReader.missing, h]
    rfl

theorem computeReserve_eq_ok : computeReserve inputs table = .ok result ↔
    ∃ figures found, reserveFigures inputs { rules := { table } } = .ok (figures, found) ∧
      result = { figures with
        accounts := inputs.accounts
        asOf := inputs.asOf
        disposition := CustomerProtection.decide (found.rules.missing ++ inputs.unrecognised)
          found.missingInputs found.breaches
        missingRules := found.rules.missing
        missingInputs := Atreides.sortedSet found.missingInputs
        unrecognisedInputs := inputs.unrecognised
        breaches := found.breaches
        reasons := found.reasons
        rulesUsed := found.rules.used } := by
  rw [computeReserve, Outcome.bind_eq_ok]
  constructor
  · rintro ⟨⟨figures, found⟩, hfigures, h⟩
    cases h
    exact ⟨figures, found, hfigures, rfl⟩
  · rintro ⟨figures, found, hfigures, rfl⟩
    exact ⟨(figures, found), hfigures, rfl⟩

/-- The outcome is INDETERMINATE exactly where a rule is missing or a line is none of
Exhibit A. -/
theorem indeterminate_iff (h : computeReserve inputs table = .ok result) :
    result.disposition = .indeterminate ↔
      result.missingRules ≠ [] ∨ result.unrecognisedInputs ≠ [] := by
  obtain ⟨figures, found, -, rfl⟩ := computeReserve_eq_ok.mp h
  simp only [CustomerProtection.decide]
  split_ifs with hmissing hinputs
  · rw [Ne, List.append_eq_nil_iff, not_and_or] at hmissing
    simpa using hmissing
  · rw [not_not, List.append_eq_nil_iff] at hmissing
    simp [hmissing.1, hmissing.2]
  · rw [not_not, List.append_eq_nil_iff] at hmissing
    simp [hmissing.1, hmissing.2]

variable (hstates : table.StatesFigures reserveFigureRules)

include hstates in
/-- What is known of the figures of a result. -/
theorem figures_of_computeReserve (h : computeReserve inputs table = .ok result) :
    result.Follow inputs table ∧ (result.missingRules = [] → result.RulesRead table) ∧
      (result.disposition = .pass → result.Complete ∧ result.missingRules = [] ∧
        result.missingInputs = [] ∧ result.unrecognisedInputs = [] ∧ result.breaches = []) := by
  obtain ⟨figures, found, hfigures, rfl⟩ := computeReserve_eq_ok.mp h
  obtain ⟨-, hhas⟩ := (assures_reserveFigures hstates).ok { rules := { table } } _ _ rfl hfigures
  refine ⟨(hhas .any trivial).2.1, fun hmissing => ?_, fun hpass => ?_⟩
  · exact (hhas .rules (missing_eq_nil.mp hmissing)).2.2.1 (by simp)
  · obtain ⟨hrules, hinputs, hbreaches⟩ := decide_eq_pass.mp hpass
    obtain ⟨hmissing, hunrecognised⟩ := List.append_eq_nil_iff.mp hrules
    refine ⟨?_, hmissing, sortedSet_eq_nil.mpr hinputs, hunrecognised, hbreaches⟩
    exact (hhas .complete ⟨missing_eq_nil.mp hmissing, hinputs, hbreaches⟩).2.2.2 rfl

include hstates in
theorem computeReserve_error {e : PyError} (h : computeReserve inputs table = .error e) :
    Overflows e := by
  obtain h | ⟨⟨figures, found⟩, -, h⟩ := Outcome.bind_eq_error.mp h
  · exact (assures_reserveFigures hstates).error { rules := { table } } _ rfl h
  · cases h

/-- An unknown total, reduction or factor makes the requirement and the shortfall unknown. -/
theorem ReserveFigures.Follow.requirement_unknown {f : ReserveFigures}
    (h : f.Follow inputs table)
    (hunknown : f.totalCredits = none ∨ f.totalDebits = none ∨ f.debitReduction = none ∨
      f.depositFactor = none) : f.requirement = none ∧ f.shortfall = none := by
  have hrequirement : f.requirement = none := by
    rw [h.requirement, h.excess, h.net_debits]
    tauto
  exact ⟨hrequirement, h.shortfall.mpr (Or.inl (h.after.mpr (Or.inl hrequirement)))⟩

end Report

/-! ## Lines in another order -/

section Lines

variable {table : RuleTable} {inputs : ReserveInputs} {lines' : List LineBalance}

/-- No line has two balances. -/
def ReserveInputs.Unambiguous (inputs : ReserveInputs) : Prop :=
  ∀ a ∈ inputs.lines, ∀ b ∈ inputs.lines, a.ruleId = b.ruleId → a = b

theorem supplied_eq_some_iff (hone : inputs.Unambiguous) {ruleId : String}
    {amount : Option NonNegativeMoney} :
    inputs.supplied.get? ruleId = some amount ↔ ⟨ruleId, amount⟩ ∈ inputs.lines := by
  rw [ReserveInputs.supplied, Dict.get?_ofPairs_iff]
  · simp only [List.mem_map, Prod.mk.injEq]
    constructor
    · rintro ⟨line, hline, rfl, rfl⟩
      exact hline
    · exact fun hline => ⟨_, hline, rfl, rfl⟩
  · intro p hp q hq hname
    obtain ⟨a, ha, rfl⟩ := List.mem_map.mp hp
    obtain ⟨b, hb, rfl⟩ := List.mem_map.mp hq
    rw [hone a ha b hb hname]

variable (hone : inputs.Unambiguous) (hperm : lines'.Perm inputs.lines)

include hone hperm in
theorem suppliedAmount_perm (ruleId : String) :
    ReserveInputs.suppliedAmount { inputs with lines := lines' } ruleId =
      inputs.suppliedAmount ruleId := by
  have hone' : ReserveInputs.Unambiguous { inputs with lines := lines' } :=
    fun a ha b hb => hone a (hperm.mem_iff.mp ha) b (hperm.mem_iff.mp hb)
  have hget : (ReserveInputs.supplied { inputs with lines := lines' }).get? ruleId =
      inputs.supplied.get? ruleId := by
    apply Option.ext
    intro amount
    rw [supplied_eq_some_iff hone', supplied_eq_some_iff hone]
    exact hperm.mem_iff
  rw [ReserveInputs.suppliedAmount, ReserveInputs.suppliedAmount, hget]

include hperm in
theorem unrecognised_perm :
    (ReserveInputs.unrecognised { inputs with lines := lines' }).Perm inputs.unrecognised := by
  have hkeys : (ReserveInputs.supplied { inputs with lines := lines' }).keys.Perm
      inputs.supplied.keys := by
    apply (List.perm_ext_iff_of_nodup (Dict.keys_nodup _) (Dict.keys_nodup _)).mpr
    intro ruleId
    simp only [ReserveInputs.supplied, Dict.mem_keys_ofPairs, List.mem_map, hperm.mem_iff]
  exact (hkeys.filter _).map _

/-- The figures depend on the lines only through the balances found. -/
theorem reserveFigures_congr
    (h : ∀ ruleId, ReserveInputs.suppliedAmount { inputs with lines := lines' } ruleId =
      inputs.suppliedAmount ruleId) :
    reserveFigures { inputs with lines := lines' } = reserveFigures inputs := by
  have hbalance : balance { inputs with lines := lines' } = balance inputs := by
    funext ruleId
    simp only [balance, h]
  have hlines : reserveLines { inputs with lines := lines' } = reserveLines inputs := by
    simp only [reserveLines, totalBalance, hbalance]
  have hreduction : reduction { inputs with lines := lines' } = reduction inputs := by
    funext debits required
    simp only [reduction, h]
    rfl
  unfold reserveFigures
  rw [hlines, hreduction]
  rfl

include hone hperm in
/-- Lines in another order give the same result, but for the order of those unrecognised. -/
theorem computeReserve_perm {result : ReserveResult}
    (h : computeReserve inputs table = .ok result) :
    ∃ result', computeReserve { inputs with lines := lines' } table = .ok result' ∧
      { result' with unrecognisedInputs := result.unrecognisedInputs } = result ∧
      result'.unrecognisedInputs.Perm result.unrecognisedInputs := by
  obtain ⟨figures, found, hfigures, rfl⟩ := computeReserve_eq_ok.mp h
  have hsame : reserveFigures { inputs with lines := lines' } { rules := { table } } =
      .ok (figures, found) := by
    rw [reserveFigures_congr (suppliedAmount_perm hone hperm), hfigures]
  refine ⟨_, computeReserve_eq_ok.mpr ⟨figures, found, hsame, rfl⟩, ?_, unrecognised_perm hperm⟩
  have hnil : ReserveInputs.unrecognised { inputs with lines := lines' } = [] ↔
      inputs.unrecognised = [] :=
    ⟨fun hnil => ((unrecognised_perm hperm).symm.trans (by rw [hnil])).eq_nil,
      fun hnil => ((unrecognised_perm hperm).trans (by rw [hnil])).eq_nil⟩
  have hdisposition : CustomerProtection.decide
      (found.rules.missing ++ ReserveInputs.unrecognised { inputs with lines := lines' })
        found.missingInputs found.breaches =
      CustomerProtection.decide (found.rules.missing ++ inputs.unrecognised) found.missingInputs
        found.breaches := by
    simp only [CustomerProtection.decide, ne_eq, List.append_eq_nil_iff, hnil]
  simp only [hdisposition]

end Lines

/-! ## Failing safe -/

/-- A table with the rules of a monthly customer computation, but for some. -/
def aprilTable (absent : List String) : RuleTable where
  items :=
    let item := fun (kind : RuleKind) (value : Option FiniteDecimal) (id : String) =>
      RuleItem.mk id kind "17 CFR 240.15c3-3" "april-text" "" value
    (exhibitACredits.map (item .exhibitACredit none) ++
      exhibitADebits.map (item .exhibitADebit none) ++
      [item .usd (some 500000000) dailyThreshold, item .calendarDays (some 60) dailyExitNotice,
        item .percent (some ⟨false, 1, -2⟩) noteE3, item .percent (some 8) monthlyAiCeiling,
        item .usd (some 1000000) monthlyFundsCeiling,
        item .percent (some ⟨false, 105, -2⟩) monthlyFactor]).filter fun item => item.id ∉ absent

/-- A monthly customer computation with ten on every line. -/
def aprilInputs (previouslyDaily : Bool) : ReserveInputs where
  accounts := .customer
  asOf := Date.of 2026 4 30
  standard := .aggregateIndebtedness
  mode := .monthly
  lines := (exhibitACredits ++ exhibitADebits).map fun ruleId => ⟨ruleId, some { amount := 10 }⟩
  averageTotalCredits := some { amount := 1000 }
  previouslyDailyRequired := some previouslyDaily
  dailyExitNoticeDate := some (Date.of 9999 12 31)
  aggregateIndebtedness := some { amount := 100 }
  netCapital := some 50
  aggregateCustomerFunds := some { amount := 1000 }
  qualifiedSecuritiesDeposit := some { amount := 40 }

end CustomerProtection

end Atreides
