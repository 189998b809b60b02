import Atreides.CustomerProtection.Haircuts
import Atreides.CustomerProtection.Reserve

/-!
# Net capital and early warning

Net worth with the additions and less the deductions of the books is tentative net capital, and
less the haircuts it is net capital. The requirement is the greater of the ratio of the firm's
standard and the minimum of its activity. A figure that cannot be computed is unknown, and so is
every figure that is made of it.

## Main definitions

* `NetCapitalFigures`, `NetCapitalResult` — what a computation reports
* `haircuts`, `ratioRequirement`, `earlyWarnings` — its parts
* `computeNetCapital` — the computation
-/

namespace Atreides

namespace CustomerProtection

open DecimalContext (ambient)

/-! ## Rules -/

def aiCeiling : String := "15c3-1.a1i.ai_ceiling"

def aiCeilingFirstYear : String := "15c3-1.a1i.ai_ceiling_first_year"

def firstYearMonths : String := "15c3-1.a1i.first_year_months"

def altFloor : String := "15c3-1.a1ii.alternative_floor"

def altPercent : String := "15c3-1.a1ii.alternative_debit_percent"

def warnAi : String := "17a-11.b1.ai_warning"

def warnAlt : String := "17a-11.b2.alternative_warning"

def warnMinimum : String := "17a-11.b3.minimum_warning"

def warnLeverage : String := "17a-11.b5.leverage_warning"

def BrokerDealerCategory.value : BrokerDealerCategory → String
  | carrying => "carrying"
  | k2iExempt => "k2i_exempt"
  | dealer => "dealer"
  | introducing => "introducing"
  | investmentCompanyShares => "investment_company_shares"
  | other => "other"

/-- The rule that states the minimum of an activity. -/
def minimumRule : BrokerDealerCategory → String
  | .carrying => "15c3-1.a2i.minimum.carrying"
  | .k2iExempt => "15c3-1.a2ii.minimum.k2i_exempt"
  | .dealer => "15c3-1.a2iii.minimum.dealer"
  | .introducing => "15c3-1.a2iv.minimum.introducing"
  | .investmentCompanyShares => "15c3-1.a2v.minimum.investment_company_shares"
  | .other => "15c3-1.a2vi.minimum.other"

/-- The rules whose figure a computation reads. -/
def netCapitalFigureRules : List String :=
  [aiCeiling, aiCeilingFirstYear, firstYearMonths, altFloor, altPercent, warnAi, warnAlt,
    warnMinimum, warnLeverage, govOffset, equityRate, equityLesserThreshold, equityExcessRate,
    minimumRule .carrying, minimumRule .k2iExempt, minimumRule .dealer, minimumRule .introducing,
    minimumRule .investmentCompanyShares, minimumRule .other] ++
    bandKeys.map bandRate ++ bandKeys.map bandUpper

/-! ## Results -/

/-- One early warning trigger, not proof that notice was given. -/
structure EarlyWarning where
  ruleId : String
  paragraph : String
  triggered : Option Bool
  threshold : Option Money
  measure : Option Money
  cushion : Option Money
  note : String
  deriving DecidableEq

/-- The figures of a computation. -/
structure NetCapitalFigures where
  netWorth : Option Money
  totalAdditions : Option Money
  totalDeductions : Option Money
  tentativeNetCapital : Option Money
  haircuts : Option Money
  haircutLines : List HaircutLine
  netCapital : Option Money
  ratioRequirement : Option Money
  ratioRequirementExact : Option Bool
  activityMinimum : Option Money
  minimumRequirement : Option Money
  excessNetCapital : Option Money
  earlyWarnings : List EarlyWarning
  deriving DecidableEq

/-- The computation, its evidence, and its disposition. -/
structure NetCapitalResult extends NetCapitalFigures where
  asOf : Date
  standard : NetCapitalStandard
  disposition : Disposition
  missingRules : List String
  missingInputs : List String
  breaches : List String
  reasons : List String
  rulesUsed : List RuleRef
  deriving DecidableEq

open Reading

/-! ## Tentative net capital -/

/-- The amount of an adjustment, where the books state it. -/
def adjustmentAmount (name : String) (adjustment : CapitalAdjustment) :
    Reading (Option FiniteDecimal) := do
  requireInput (name ++ "[" ++ adjustment.description ++ "]") adjustment.amount
  pure (adjustment.amount.map NonNegativeMoney.amount)

/-- The sum of some adjustments. -/
def totalAdjustments (adjustments : List CapitalAdjustment) (name : String) :
    Reading (Option FiniteDecimal) := do
  let amounts ← Computation.collect (adjustmentAmount name) adjustments
  total amounts

/-- Net worth with the additions and less the deductions. -/
def tentativeOf :
    Option Money → Option FiniteDecimal → Option FiniteDecimal → Reading (Option FiniteDecimal)
  | some netWorth, some additions, some deductions => do
    let grossed ← Computation.ofOutcome (netWorth.add ambient additions)
    let tentative ← Computation.ofOutcome (grossed.sub ambient deductions)
    pure (some tentative)
  | _, _, _ => pure none

/-! ## Haircuts by class -/

/-- A provision that changes the government haircut and is not modeled, and whether the firm
states that it applies. -/
structure Provision where
  stated : Option Bool
  name : String
  paragraph : String
  provision : String

def governmentProvisions (inputs : NetCapitalInputs) : List Provision :=
  [⟨inputs.electsA3CrossCategoryExclusion, "elects_a3_cross_category_exclusion",
      "(c)(2)(vi)(A)(3)", "the election to exclude offsetting securities across categories"⟩,
    ⟨inputs.electsA4FuturesDeliverableInclusion, "elects_a4_futures_deliverable_inclusion",
      "(c)(2)(vi)(A)(4)",
      "the election to include securities deliverable against government futures"⟩,
    ⟨inputs.qualifiesA5GovernmentDealerReduction, "qualifies_a5_government_dealer_reduction",
      "(c)(2)(vi)(A)(5)",
      "the 75 percent deduction for a qualifying government securities dealer"⟩]

/-- Whether a provision is stated not to apply. -/
def ruleOut (p : Provision) : Reading Bool :=
  match p.stated with
  | none => do
    missInput p.name
    pure false
  | some true => do
    flag ("Rule 15c3-1" ++ p.paragraph ++ ", " ++ p.provision ++ ", applies and is not modeled")
    pure false
  | some false => pure true

/-- Whether the firm has stated that none of the provisions applies. -/
def governmentProvisionsRuledOut (inputs : NetCapitalInputs) : Reading Bool := do
  let ruledOut ← Computation.collect ruleOut (governmentProvisions inputs)
  pure (ruledOut.all id)

namespace NetCapitalInputs

variable (inputs : NetCapitalInputs)

/-- The asset classes of the positions that have no haircut. -/
def unknownClasses : List String :=
  Atreides.sortedSet ((inputs.positions.map Position.assetClass).filter fun name =>
    name ∉ [AssetClass.government.value, AssetClass.equity.value])

def positionsOfClass (assetClass : AssetClass) : List Position :=
  inputs.positions.filter fun p => p.assetClass = assetClass.value

end NetCapitalInputs

def flagUnknown (assetClass : String) : Reading Unit :=
  flag ("no haircut is loaded for asset class " ++ quoted assetClass)

/-- The lines of the government positions, where no provision can change them. -/
def governmentHaircuts (inputs : NetCapitalInputs) : Reading (Option (List HaircutLine)) :=
  if inputs.positionsOfClass .government = [] then pure (some [])
  else do
    -- both run, so one pass names every missing maturity and every unstated provision
    let ruledOut ← governmentProvisionsRuledOut inputs
    let lines ← governmentHaircut (inputs.positionsOfClass .government) inputs.governmentElection
    pure (if ruledOut then lines else none)

def equityHaircuts (inputs : NetCapitalInputs) : Reading (Option (List HaircutLine)) :=
  if inputs.positionsOfClass .equity = [] then pure (some [])
  else equityHaircut (inputs.positionsOfClass .equity)

/-- The sum of all lines, unknown where those of a class are. -/
def totalHaircuts : List String → Option (List HaircutLine) → Option (List HaircutLine) →
    Reading (Option FiniteDecimal × List HaircutLine)
  | [], some government, some equity => do
    let amount ← Computation.ofOutcome
      (FiniteDecimal.sum ambient 0 ((government ++ equity).map HaircutLine.amount))
    pure (some amount, government ++ equity)
  | _, government, equity => pure (none, government.getD [] ++ equity.getD [])

/-- The haircuts and their lines. -/
def haircuts (inputs : NetCapitalInputs) :
    Reading (Option FiniteDecimal × List HaircutLine) := do
  let _ ← Computation.collect flagUnknown inputs.unknownClasses
  let government ← governmentHaircuts inputs
  let equity ← equityHaircuts inputs
  totalHaircuts inputs.unknownClasses government equity

/-! ## The requirement -/

/-- The requirement of the standard, whether it is exact, and the multiple of net capital that
indebtedness may reach. -/
structure RatioRequirement where
  requirement : Option FiniteDecimal := none
  exact : Option Bool := none
  multiple : Option FiniteDecimal := none

/-- The greater of the floor and the percentage of debit items. -/
def alternativeRequirement (inputs : NetCapitalInputs) : Reading RatioRequirement := do
  let floor ← value altFloor
  let percent ← value altPercent
  requireInput "aggregate_debit_items" inputs.aggregateDebitItems
  match inputs.aggregateDebitItems, floor, percent with
  | some debits, some floor, some percent => do
    let share ← Computation.ofOutcome (percent.mul ambient debits.amount)
    pure { requirement := some (floor.max share), exact := some true }
  | _, _, _ => pure {}

/-- The multiple that applies after the months the firm has been in business. -/
def indebtednessMultiple (inputs : NetCapitalInputs) : Reading (Option FiniteDecimal) := do
  let firstYear ← value firstYearMonths
  match inputs.monthsInBusiness, firstYear with
  | some months, some firstYear =>
    value (if months.amount.lt firstYear then aiCeilingFirstYear else aiCeiling)
  | _, _ => pure none

/-- Whether a division was exact: the quotient times the divisor is the dividend. -/
def exactQuotient (dividend divisor quotient : FiniteDecimal) : Bool :=
  (quotient.exactMul divisor).eq dividend

/-- Aggregate indebtedness divided by the multiple. -/
def indebtednessRequirement (inputs : NetCapitalInputs) : Reading RatioRequirement := do
  requireInput "aggregate_indebtedness" inputs.aggregateIndebtedness
  requireInput "months_in_business" inputs.monthsInBusiness
  let multiple ← indebtednessMultiple inputs
  match multiple, inputs.aggregateIndebtedness with
  | some multiple, some indebtedness => do
    let quotient ← Computation.ofOutcome (indebtedness.amount.div ambient multiple)
    pure ⟨some quotient, some (exactQuotient indebtedness.amount multiple quotient),
      some multiple⟩
  | multiple, _ => pure { multiple }

def ratioRequirement (inputs : NetCapitalInputs) : Reading RatioRequirement :=
  match inputs.standard with
  | .alternative => alternativeRequirement inputs
  | .aggregateIndebtedness => indebtednessRequirement inputs

/-- The greater of two figures, unknown where one of them is. -/
def greater : Option FiniteDecimal → Option FiniteDecimal → Option FiniteDecimal
  | some a, some b => some (a.max b)
  | _, _ => none

/-! ## Breaches -/

/-- Whether both figures are known and the first is below the second. -/
def below : Option FiniteDecimal → Option FiniteDecimal → Bool
  | some a, some b => a.lt b
  | _, _ => false

/-- Net capital below the minimum of the activity is a breach. -/
def checkActivity (inputs : NetCapitalInputs) (netCapital activity : Option FiniteDecimal) :
    Reading Unit :=
  breachIf (below netCapital activity) ("net capital is below the Rule 15c3-1(a)(2) minimum " ++
    "for a " ++ inputs.category.value ++ " firm")

/-- Indebtedness above its multiple of net capital is a breach, or net capital below the
requirement of the alternative standard. -/
def checkStandard (inputs : NetCapitalInputs) (netCapital : Option FiniteDecimal)
    (ratio : RatioRequirement) : Reading Unit :=
  match inputs.standard, netCapital, ratio.multiple, inputs.aggregateIndebtedness with
  | .aggregateIndebtedness, some netCapital, some multiple, some indebtedness => do
    let limit ← Computation.ofOutcome (multiple.mul ambient netCapital)
    breachIf (limit.lt indebtedness.amount)
      "aggregate indebtedness exceeds the Rule 15c3-1(a)(1)(i) multiple of net capital"
  | .aggregateIndebtedness, _, _, _ => pure ()
  | .alternative, _, _, _ => breachIf (below netCapital ratio.requirement)
      "net capital is below the Rule 15c3-1(a)(1)(ii) requirement"

/-! ## Early warning -/

/-- Compare a measure with its threshold: a warning where it is under one it should reach, or over
one it should not exceed. -/
def warning (ruleId paragraph note : String) (lessThan : Bool)
    (threshold measure : Option FiniteDecimal) : Reading EarlyWarning :=
  match threshold, measure with
  | some limit, some figure => do
    let cushion ← Computation.ofOutcome
      (if lessThan then figure.sub ambient limit else limit.sub ambient figure)
    let triggered := if lessThan then figure.lt limit else limit.lt figure
    pure ⟨ruleId, paragraph, some triggered, threshold, measure, some cushion, note⟩
  | _, _ => pure ⟨ruleId, paragraph, none, threshold, measure, none, note⟩

/-- A loaded multiple of a figure. -/
def multipleOf (ruleId : String) (figure : Option FiniteDecimal) :
    Reading (Option FiniteDecimal) := do
  let multiple ← value ruleId
  both (FiniteDecimal.mul ambient) multiple figure

/-- The warning of the firm's standard. -/
def standardWarning (inputs : NetCapitalInputs) (netCapital : Option FiniteDecimal) :
    Reading EarlyWarning :=
  match inputs.standard with
  | .aggregateIndebtedness => do
    let threshold ← multipleOf warnAi netCapital
    warning warnAi "17a-11(b)(1)"
      "aggregate indebtedness against the loaded multiple of net capital" false threshold
      (inputs.aggregateIndebtedness.map NonNegativeMoney.amount)
  | .alternative => do
    let threshold ← multipleOf warnAlt (inputs.aggregateDebitItems.map NonNegativeMoney.amount)
    warning warnAlt "17a-11(b)(2)"
      "net capital against the loaded percentage of aggregate debit items" true threshold
      netCapital

def minimumWarning (netCapital minimum : Option FiniteDecimal) : Reading EarlyWarning := do
  let threshold ← multipleOf warnMinimum minimum
  warning warnMinimum "17a-11(b)(3)"
    "net capital against the loaded multiple of the minimum requirement" true threshold netCapital

/-- One of the two leverage measures against the loaded multiple of tentative net capital. -/
def leverageWarning (threshold : Option FiniteDecimal)
    (measure : String × Option NonNegativeMoney) : Reading EarlyWarning := do
  requireInput measure.1 measure.2
  warning warnLeverage "17a-11(b)(5)"
    (measure.1 ++ " against the loaded multiple of tentative net capital") false threshold
    (measure.2.map NonNegativeMoney.amount)

def leverageMeasures (inputs : NetCapitalInputs) : List (String × Option NonNegativeMoney) :=
  [("securities_loaned_and_repo_payable", inputs.securitiesLoanedAndRepoPayable),
    ("securities_borrowed_and_reverse_repo_value", inputs.securitiesBorrowedAndReverseRepoValue)]

/-- The leverage warnings, unless the firm reports this activity monthly. -/
def leverageWarnings (inputs : NetCapitalInputs) (tentative : Option FiniteDecimal) :
    Reading (List EarlyWarning) :=
  if inputs.reportsLendingActivityMonthly = some true then do
    reason "Rule 17a-11(b)(5) not assessed: the firm reports this activity monthly"
    pure []
  else do
    requireInput "reports_lending_activity_monthly" inputs.reportsLendingActivityMonthly
    let threshold ← multipleOf warnLeverage tentative
    Computation.collect (leverageWarning threshold) (leverageMeasures inputs)

def earlyWarnings (inputs : NetCapitalInputs) (netCapital tentative minimum : Option FiniteDecimal) :
    Reading (List EarlyWarning) := do
  let standard ← standardWarning inputs netCapital
  let least ← minimumWarning netCapital minimum
  let leverage ← leverageWarnings inputs tentative
  pure (standard :: least :: leverage)

/-- A warning that is triggered is a breach. -/
def checkWarning (w : EarlyWarning) : Reading Unit :=
  breachIf (w.triggered = some true) ("early warning: Rule " ++ w.paragraph ++ ", " ++ w.note)

/-! ## The computation -/

/-- The figures of a computation, in the order the rules are read. -/
def netCapitalFigures (inputs : NetCapitalInputs) : Reading NetCapitalFigures := do
  requireInput "net_worth" inputs.netWorth
  let additions ← totalAdjustments inputs.additions "additions"
  let deductions ← totalAdjustments inputs.deductions "deductions"
  let tentative ← tentativeOf inputs.netWorth additions deductions
  let (haircuts, lines) ← haircuts inputs
  let netCapital ← both (FiniteDecimal.sub ambient) tentative haircuts
  let ratio ← ratioRequirement inputs
  let activity ← value (minimumRule inputs.category)
  let minimum := greater ratio.requirement activity
  let excess ← both (FiniteDecimal.sub ambient) netCapital minimum
  checkActivity inputs netCapital activity
  checkStandard inputs netCapital ratio
  let warnings ← earlyWarnings inputs netCapital tentative minimum
  let _ ← Computation.collect checkWarning warnings
  pure {
    netWorth := inputs.netWorth
    totalAdditions := additions
    totalDeductions := deductions
    tentativeNetCapital := tentative
    haircuts
    haircutLines := lines
    netCapital
    ratioRequirement := ratio.requirement
    ratioRequirementExact := ratio.exact
    activityMinimum := activity
    minimumRequirement := minimum
    excessNetCapital := excess
    earlyWarnings := warnings }

/-- Compute net capital, the requirement and early warning. -/
def computeNetCapital (inputs : NetCapitalInputs) (table : RuleTable) :
    Outcome NetCapitalResult := do
  let (figures, found) ← netCapitalFigures inputs { rules := { table } }
  let missingRules := found.rules.missing
  .ok { figures with
    asOf := inputs.asOf
    standard := inputs.standard
    disposition := CustomerProtection.decide missingRules found.missingInputs found.breaches
    missingRules
    missingInputs := Atreides.sortedSet found.missingInputs
    breaches := found.breaches
    reasons := found.reasons
    rulesUsed := found.rules.used }

end CustomerProtection

end Atreides
