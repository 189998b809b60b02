import Atreides.Deadlines.Rules

/-!
# Deadline advisories

Three advisories: when a reserve deposit is due, by when an account transfer is validated and
completed, and when securities are counted again. Each reads a rule table, a calendar and some
times, and answers with a disposition, what is due, and what was breached.

## Main definitions

* `assessReserveDeposit`, `assessAcats`, `assessSecurityCount` — the advisories
-/

namespace Atreides

/-- What every advisory answers with. -/
structure DeadlineAssessment where
  disposition : Disposition
  missingRules : List String := []
  missingInputs : List String := []
  breaches : List String := []
  deriving DecidableEq

/-- What a breach leaves an advisory at. -/
def dispositionOf (breaches : List String) : Disposition :=
  if breaches = [] then .pass else .hold

/-- The rule table: the one that is given, or the one that is loaded as of a day. -/
def tableFor (loadRuleTable : Date → Outcome DeadlineRuleTable)
    (table : Option DeadlineRuleTable) (evaluatedAt : Timestamp) : Outcome DeadlineRuleTable :=
  match table with
  | some table => .ok table
  | none => loadRuleTable evaluatedAt.date

/-- A time that an assessment records has an offset. -/
def recordAware (evaluatedAt : Timestamp) : Outcome Unit :=
  Outcome.refuseIf (evaluatedAt.utcOffset = none) (.valueError "timezone_aware")

/-! ## The reserve deposit -/

namespace ReserveDeposit

inductive ReserveComputationBasis
  | weekly
  | requiredDaily
  | qualifyingMonthly
  | additional
  | voluntaryDaily
  deriving DecidableEq, Repr

namespace ReserveComputationBasis

def value : ReserveComputationBasis → String
  | weekly => "WEEKLY"
  | requiredDaily => "REQUIRED_DAILY"
  | qualifyingMonthly => "QUALIFYING_MONTHLY"
  | additional => "ADDITIONAL"
  | voluntaryDaily => "VOLUNTARY_DAILY"

/-- The basis a text names. -/
def ofValue (text : String) : Option ReserveComputationBasis :=
  [weekly, requiredDaily, qualifyingMonthly, additional, voluntaryDaily].find? fun basis =>
    basis.value = text

def ruleId : ReserveComputationBasis → String
  | weekly => "rule_15c3_3.reserve.weekly"
  | requiredDaily => "rule_15c3_3.reserve.required_daily"
  | qualifyingMonthly => "rule_15c3_3.reserve.qualifying_monthly"
  | additional => "rule_15c3_3.reserve.additional"
  | voluntaryDaily => "rule_15c3_3.reserve.voluntary_daily"

end ReserveComputationBasis

def offsetRuleId : String := "rule_15c3_3.reserve.opening_offset"

structure ReserveComputation where
  computationId : String
  computedAt : Timestamp
  /-- the basis, or a text in its place -/
  basis : Option String
  deriving DecidableEq

/-- The opening of banking business: a time of day, and its offset unless it is naive. -/
structure BankingOpen where
  microsecondOfDay : ℕ
  utcOffset : Option ℤ
  microsecondOfDay_lt : microsecondOfDay < microsecondsPerDay

structure ReserveDepositAssessment extends DeadlineAssessment where
  dueAt : Option Timestamp := none
  evaluatedAt : Timestamp
  computationId : String
  computationBasis : Option String
  paragraphReference : Option String := none
  tableVersion : String
  ruleIds : List String := []
  sourceSha256 : Option String := none
  deriving DecidableEq

variable (computation : ReserveComputation) (table : DeadlineRuleTable) (evaluatedAt : Timestamp)

/-- An assessment without a due time. -/
def undated (assessment : DeadlineAssessment) (ruleIds : List String) :
    ReserveDepositAssessment where
  toDeadlineAssessment := assessment
  evaluatedAt := evaluatedAt
  computationId := computation.computationId
  computationBasis := computation.basis
  tableVersion := table.tableVersion
  ruleIds := ruleIds

/-- The due time: the opening of banking business of the due day, and the offset after it. -/
def dueAt (calendar : DeadlineCalendar) (opening : BankingOpen) (basisRule offsetRule : DeadlineRule)
    (computed : Date) : Outcome Timestamp := do
  let days ← wholeValue basisRule ": parameter is not an integer"
  let dueDate ← calendar.addBusinessDays computed days
  let hours ← wholeValue offsetRule ": parameter is not an integer"
  Timestamp.addHours ⟨dueDate, opening.microsecondOfDay, opening.utcOffset,
    opening.microsecondOfDay_lt⟩ hours

/-- The deposit is due at a time, and overdue after it. -/
def dated (calendar : DeadlineCalendar) (opening : BankingOpen)
    (basisRule offsetRule : DeadlineRule) : Outcome ReserveDepositAssessment := do
  let due ← dueAt calendar opening basisRule offsetRule computation.computedAt.date
  let overdue ← due.isBefore evaluatedAt
  let breaches := if overdue then ["rule_15c3_3.reserve_deposit_overdue"] else []
  .ok {
    disposition := dispositionOf breaches
    breaches
    dueAt := some due
    evaluatedAt
    computationId := computation.computationId
    computationBasis := computation.basis
    paragraphReference := some basisRule.citation
    tableVersion := table.tableVersion
    ruleIds := [basisRule.ruleId, offsetRule.ruleId]
    sourceSha256 := some basisRule.sourceSha256 }

/-- The deposit of a computation with a basis. -/
def ofBasis (basis : ReserveComputationBasis) (calendar : Option DeadlineCalendar)
    (bankingOpen : Option BankingOpen) : Outcome ReserveDepositAssessment :=
  let ruleIds := [basis.ruleId, offsetRuleId]
  let undated := fun assessment => undated computation table evaluatedAt assessment ruleIds
  match table.get basis.ruleId, table.get offsetRuleId with
  | some basisRule, some offsetRule =>
    match bankingOpen with
    | none => .ok (undated { disposition := .indeterminate
                             missingRules := ["opening_of_banking_business"] })
    | some opening =>
      if opening.utcOffset = none then
        .ok (undated { disposition := .indeterminate
                       missingRules := ["opening_of_banking_business"] })
      else match calendar with
      | none => .ok (undated { disposition := .hold, missingInputs := ["business_calendar"] })
      | some calendar =>
        if basisRule.unit ≠ .businessDays ∨ offsetRule.unit ≠ .clockTime then
          .ok (undated { disposition := .indeterminate
                         missingRules := ["rule_15c3_3.reserve.units"] })
        else dated computation table evaluatedAt calendar opening basisRule offsetRule
  | _, _ => .ok (undated { disposition := .indeterminate, missingRules := table.missing ruleIds })

/-- The deposit of a computation, by a table. -/
def assess (calendar : Option DeadlineCalendar) (bankingOpen : Option BankingOpen) :
    Outcome ReserveDepositAssessment :=
  match computation.basis with
  | none => .ok (undated computation table evaluatedAt
      { disposition := .hold, missingInputs := ["computation_basis"] } [])
  | some text =>
    match ReserveComputationBasis.ofValue text with
    | none => .ok (undated computation table evaluatedAt
        { disposition := .indeterminate, missingRules := ["computation_basis:" ++ text] } [])
    | some basis => ofBasis computation table evaluatedAt basis calendar bankingOpen

end ReserveDeposit

open ReserveDeposit in
/-- When the deposit of a reserve computation is due, and whether it is overdue. -/
def assessReserveDeposit (loadRuleTable : Date → Outcome DeadlineRuleTable)
    (computation : ReserveComputation) (evaluatedAt : Timestamp)
    (calendar : Option DeadlineCalendar) (bankingOpen : Option BankingOpen)
    (table : Option DeadlineRuleTable) : Outcome ReserveDepositAssessment := do
  let loaded ← tableFor loadRuleTable table evaluatedAt
  let assessment ← assess computation loaded evaluatedAt calendar bankingOpen
  recordAware evaluatedAt
  .ok assessment

/-! ## The account transfer -/

namespace Acats

def validationRuleId : String := "finra_11870.validation"

def completionRuleId : String := "finra_11870.completion"

structure AcatsTransfer where
  transferId : String
  instructionAt : Timestamp
  validationAt : Option Timestamp := none
  deriving DecidableEq

structure AcatsAssessment extends DeadlineAssessment where
  evaluatedAt : Timestamp
  transferId : String
  validationDue : Option Date := none
  completionDue : Option Date := none
  tableVersion : String
  ruleCitations : List String := []
  sourceSha256 : Option String := none
  deriving DecidableEq

variable (transfer : AcatsTransfer) (table : DeadlineRuleTable) (evaluatedAt : Timestamp)

/-- An assessment without due dates. -/
def undated (assessment : DeadlineAssessment) : AcatsAssessment where
  toDeadlineAssessment := assessment
  evaluatedAt := evaluatedAt
  transferId := transfer.transferId
  tableVersion := table.tableVersion

/-- The version of the source that the table holds is in force on a day. -/
def currentOn (source : RuleSource) (day : Date) : Bool :=
  source.effectiveDate.any (· ≤ day) && source.expiresAt.any (day ≤ ·)

/-- The table holds a version of the transfer rules that is in force on a day. -/
def current (table : DeadlineRuleTable) (day : Date) : Bool :=
  (table.sources.find? fun source => source.sourceId = "finra-11870").any (currentOn · day)

/-- A due date, where there is a day to count from. -/
def dueFrom (calendar : DeadlineCalendar) (rule : DeadlineRule) (start : Option Date) :
    Outcome (Option Date) :=
  match start with
  | none => .ok none
  | some start => do
    let days ← wholeValue rule ": deadline day count is not an integer"
    let due ← calendar.addBusinessDays start days
    .ok (some due)

/-- What is late: the validation that did not come, the one that came late, and the completion. -/
def breachesOf (validated : Option Date) (evaluated : Date) (validationDue completionDue :
    Option Date) : List String :=
  (if validated = none ∧ validationDue.any (· < evaluated) then
    ["finra_11870.validation_overdue"] else []) ++
  (if validated.any fun validated => validationDue.any (· < validated) then
    ["finra_11870.validation_late"] else []) ++
  (if completionDue.any (· < evaluated) then ["finra_11870.completion_overdue"] else [])

/-- The transfer has due dates. -/
def dated (calendar : DeadlineCalendar) (validationRule completionRule : DeadlineRule) :
    Outcome AcatsAssessment := do
  let validationDue ← dueFrom calendar validationRule (some transfer.instructionAt.date)
  let completionDue ← dueFrom calendar completionRule (transfer.validationAt.map Timestamp.date)
  let breaches := breachesOf (transfer.validationAt.map Timestamp.date) evaluatedAt.date
    validationDue completionDue
  .ok {
    disposition := dispositionOf breaches
    breaches
    evaluatedAt
    transferId := transfer.transferId
    validationDue
    completionDue
    tableVersion := table.tableVersion
    ruleCitations := [validationRule.citation, completionRule.citation]
    sourceSha256 := some validationRule.sourceSha256 }

/-- The transfer, by a table. -/
def assess (calendar : Option DeadlineCalendar) : Outcome AcatsAssessment :=
  let undated := undated transfer table evaluatedAt
  if !current table evaluatedAt.date then
    .ok (undated { disposition := .indeterminate
                   missingRules := ["finra_11870.current_acats_version"] })
  else match table.get validationRuleId, table.get completionRuleId with
  | some validationRule, some completionRule =>
    match calendar with
    | none => .ok (undated { disposition := .hold, missingInputs := ["business_calendar"] })
    | some calendar =>
      if validationRule.unit ≠ .businessDays then
        .ok (undated { disposition := .indeterminate
                       missingRules := [validationRuleId ++ ":unsupported_unit"] })
      else if completionRule.unit ≠ .businessDays then
        .ok (undated { disposition := .indeterminate
                       missingRules := [completionRuleId ++ ":unsupported_unit"] })
      else dated transfer table evaluatedAt calendar validationRule completionRule
  | _, _ => .ok (undated { disposition := .indeterminate
                           missingRules := table.missing [validationRuleId, completionRuleId] })

end Acats

open Acats in
/-- By when a transfer is validated and completed, and what is late. -/
def assessAcats (loadRuleTable : Date → Outcome DeadlineRuleTable) (transfer : AcatsTransfer)
    (evaluatedAt : Timestamp) (calendar : Option DeadlineCalendar)
    (table : Option DeadlineRuleTable) : Outcome AcatsAssessment := do
  let loaded ← tableFor loadRuleTable table evaluatedAt
  let assessment ← assess transfer loaded evaluatedAt calendar
  recordAware evaluatedAt
  .ok assessment

/-! ## The security count -/

namespace SecurityCount

def minimumRuleId : String := "rule_17a_13.minimum_spacing"

def maximumRuleId : String := "rule_17a_13.maximum_spacing"

def recordingRuleId : String := "rule_17a_13.difference_recording"

structure SecurityCountInput where
  priorCountDates : List Date
  countDate : Option Date := none
  deriving DecidableEq

structure SecurityCountAssessment extends DeadlineAssessment where
  evaluatedAt : Timestamp
  priorCountDate : Option Date := none
  countDate : Option Date
  nextCountEarliest : Option Date := none
  nextCountLatest : Option Date := none
  differenceRecordingDue : Option Date := none
  spacingValid : Option Bool := none
  tableVersion : String
  ruleCitations : List String := []
  sourceSha256 : Option String := none
  deriving DecidableEq

variable (count : SecurityCountInput) (table : DeadlineRuleTable) (evaluatedAt : Timestamp)

/-- An assessment without dates. -/
def undated (assessment : DeadlineAssessment) : SecurityCountAssessment where
  toDeadlineAssessment := assessment
  evaluatedAt := evaluatedAt
  countDate := count.countDate
  tableVersion := table.tableVersion

/-- The last of some days. -/
def latestOf (first : Date) (rest : List Date) : Date :=
  rest.foldl (fun latest day => if latest < day then day else latest) first

/-- The window of the next count. -/
structure Window where
  prior : Date
  earliest : Date
  latest : Date

def windowOf (minimum maximum : DeadlineRule) (prior : Date) : Outcome Window := do
  let least ← wholeValue minimum ": parameter is not an integer"
  let earliest ← prior.addMonths least
  let most ← wholeValue maximum ": parameter is not an integer"
  let latest ← prior.addMonths most
  .ok ⟨prior, earliest, latest⟩

/-- When a difference is recorded, where securities were counted. -/
def recordingDue (calendar : DeadlineCalendar) (recording : DeadlineRule)
    (countDate : Option Date) : Outcome (Option Date) :=
  match countDate with
  | none => .ok none
  | some day => do
    let days ← wholeValue recording ": parameter is not an integer"
    let due ← calendar.addBusinessDays day days
    .ok (some due)

/-- A count outside the window, or none when the window has closed. -/
def breachesOf (window : Window) (countDate : Option Date) (evaluated : Date) : List String :=
  match countDate with
  | some day =>
    (if day < window.earliest then ["rule_17a_13.count_too_soon"] else []) ++
      if window.latest < day then ["rule_17a_13.count_too_late"] else []
  | none => if window.latest < evaluated then ["rule_17a_13.count_overdue"] else []

/-- The count has a window. -/
def dated (calendar : DeadlineCalendar) (minimum maximum recording : DeadlineRule) (prior : Date) :
    Outcome SecurityCountAssessment := do
  let window ← windowOf minimum maximum prior
  let differenceRecordingDue ← recordingDue calendar recording count.countDate
  let breaches := breachesOf window count.countDate evaluatedAt.date
  .ok {
    disposition := dispositionOf breaches
    breaches
    evaluatedAt
    priorCountDate := some window.prior
    countDate := count.countDate
    nextCountEarliest := some window.earliest
    nextCountLatest := some window.latest
    differenceRecordingDue
    spacingValid := count.countDate.map fun day => window.earliest ≤ day && day ≤ window.latest
    tableVersion := table.tableVersion
    ruleCitations := [minimum.citation, maximum.citation, recording.citation]
    sourceSha256 := some minimum.sourceSha256 }

/-- The count, by a table. -/
def assess (calendar : Option DeadlineCalendar) : Outcome SecurityCountAssessment :=
  let undated := undated count table evaluatedAt
  match table.get minimumRuleId, table.get maximumRuleId, table.get recordingRuleId with
  | some minimum, some maximum, some recording =>
    match count.priorCountDates with
    | [] => .ok (undated { disposition := .hold, missingInputs := ["prior_count_date"] })
    | first :: rest =>
      match calendar with
      | none => .ok (undated { disposition := .hold, missingInputs := ["business_calendar"] })
      | some calendar =>
        if minimum.unit ≠ .months ∨ maximum.unit ≠ .months then
          .ok (undated { disposition := .indeterminate
                         missingRules := ["rule_17a_13.spacing_units"] })
        else if recording.unit ≠ .businessDays then
          .ok (undated { disposition := .indeterminate
                         missingRules := [recordingRuleId ++ ":unsupported_unit"] })
        else dated count table evaluatedAt calendar minimum maximum recording (latestOf first rest)
  | _, _, _ => .ok (undated { disposition := .indeterminate
                              missingRules := table.missing
                                [minimumRuleId, maximumRuleId, recordingRuleId] })

end SecurityCount

open SecurityCount in
/-- When securities are counted again, and whether the count is overdue. -/
def assessSecurityCount (loadRuleTable : Date → Outcome DeadlineRuleTable)
    (count : SecurityCountInput) (evaluatedAt : Timestamp) (calendar : Option DeadlineCalendar)
    (table : Option DeadlineRuleTable) : Outcome SecurityCountAssessment := do
  let loaded ← tableFor loadRuleTable table evaluatedAt
  let assessment ← assess count loaded evaluatedAt calendar
  recordAware evaluatedAt
  .ok assessment

end Atreides
