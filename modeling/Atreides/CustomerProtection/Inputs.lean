import Atreides.CustomerProtection.Common
import Atreides.Foundation.Date

/-!
# What the reserve and the net capital computations read

The Exhibit A lines of a reserve computation and the positions of a net capital
computation, as the books state them. A balance that was not supplied is absent, never
zero.

## Main definitions

* `exhibitACredits`, `exhibitADebits` — the rule ids of the Exhibit A lines
* `LineBalance`, `ReserveInputs` — one reserve computation
* `Position`, `NetCapitalInputs` — one net capital computation
-/

namespace Atreides

namespace CustomerProtection

/-! ## Reserve -/

/-- Exhibit A credit lines, Items 1 to 9, as rule ids. -/
def exhibitACredits : List String :=
  ["15c3-3a.item.01", "15c3-3a.item.02", "15c3-3a.item.03", "15c3-3a.item.04",
    "15c3-3a.item.05", "15c3-3a.item.06", "15c3-3a.item.07", "15c3-3a.item.08",
    "15c3-3a.item.09"]

/-- Exhibit A debit lines, Items 10 to 15, as rule ids. -/
def exhibitADebits : List String :=
  ["15c3-3a.item.10", "15c3-3a.item.11", "15c3-3a.item.12", "15c3-3a.item.13",
    "15c3-3a.item.14", "15c3-3a.item.15"]

inductive ReserveAccounts
  | customer
  | pab
  deriving DecidableEq, Repr

/-- The firm's net capital ratio standard. -/
inductive NetCapitalStandard
  | aggregateIndebtedness
  | alternative
  deriving DecidableEq, Repr

/-- How often the firm computes. -/
inductive ComputationMode
  | weekly
  | daily
  | monthly
  deriving DecidableEq, Repr

/-- One Exhibit A line as the books state it. -/
structure LineBalance where
  ruleId : String
  amount : Option NonNegativeMoney
  deriving DecidableEq

/-- Cash on deposit in a reserve bank account at one bank. -/
structure BankCashDeposit where
  bank : String
  amount : NonNegativeMoney
  affiliated : Bool
  bankEquityCapital : Option NonNegativeMoney := none
  deriving DecidableEq

/-- Everything one reserve computation reads. -/
structure ReserveInputs where
  accounts : ReserveAccounts
  asOf : Date
  standard : NetCapitalStandard
  mode : ComputationMode
  lines : List LineBalance
  averageTotalCredits : Option NonNegativeMoney
  dailyRequirementEffectiveDate : Option Date := none
  previouslyDailyRequired : Option Bool := none
  dailyExitNoticeDate : Option Date := none
  voluntaryDailyNoticeDate : Option Date := none
  aggregateIndebtedness : Option NonNegativeMoney := none
  netCapital : Option Money := none
  aggregateCustomerFunds : Option NonNegativeMoney := none
  carriesCustomerAccounts : Option Bool := none
  conductsProprietaryTradingBusiness : Option Bool := none
  pabLastMonthlyRequiredAdditionalDeposit : Option Bool := none
  pabCleanWeeklyComputations : Option NonNegativeMoney := none
  cashDeposits : List BankCashDeposit := []
  qualifiedSecuritiesDeposit : Option NonNegativeMoney
  customerExcessDebits : Option NonNegativeMoney := none
  customerComputationAsOf : Option Date := none
  deriving DecidableEq

/-! ## Net capital -/

/-- The firm's activity, which sets its activity minimum. -/
inductive BrokerDealerCategory
  | carrying
  | k2iExempt
  | dealer
  | introducing
  | investmentCompanyShares
  | other
  deriving DecidableEq, Repr

/-- Haircut classes. -/
inductive AssetClass
  | government
  | equity
  deriving DecidableEq, Repr

def AssetClass.value : AssetClass → String
  | government => "government"
  | equity => "equity"

/-- How government haircuts are computed. -/
inductive GovernmentElection
  | category
  | subcategory
  deriving DecidableEq, Repr

/-- One addition to or deduction from net worth, as the books state it. -/
@[ext]
structure CapitalAdjustment where
  description : String
  paragraph : String
  amount : Option NonNegativeMoney
  description_nonempty : description ≠ "" := by decide
  paragraph_nonempty : paragraph ≠ "" := by decide

instance : DecidableEq CapitalAdjustment :=
  fun _ _ => decidable_of_iff _ CapitalAdjustment.ext_iff.symm

/-- The firm's position in one issue, at market value. -/
@[ext]
structure Position where
  issue : String
  assetClass : String
  longMarketValue : NonNegativeMoney
  shortMarketValue : NonNegativeMoney
  monthsToMaturity : Option NonNegativeMoney := none
  issue_nonempty : issue ≠ "" := by decide

instance : DecidableEq Position := fun _ _ => decidable_of_iff _ Position.ext_iff.symm

/-- Everything one net capital computation reads. -/
structure NetCapitalInputs where
  asOf : Date
  standard : NetCapitalStandard
  category : BrokerDealerCategory
  netWorth : Option Money
  additions : List CapitalAdjustment := []
  deductions : List CapitalAdjustment := []
  positions : List Position := []
  governmentElection : GovernmentElection := .category
  electsA3CrossCategoryExclusion : Option Bool := none
  electsA4FuturesDeliverableInclusion : Option Bool := none
  qualifiesA5GovernmentDealerReduction : Option Bool := none
  aggregateIndebtedness : Option NonNegativeMoney := none
  monthsInBusiness : Option NonNegativeMoney := none
  aggregateDebitItems : Option NonNegativeMoney := none
  reportsLendingActivityMonthly : Option Bool := none
  securitiesLoanedAndRepoPayable : Option NonNegativeMoney := none
  securitiesBorrowedAndReverseRepoValue : Option NonNegativeMoney := none
  deriving DecidableEq

end CustomerProtection

end Atreides
