import Atreides.Deadlines.Calendar
import Atreides.Foundation.Timestamp
import Atreides.Kernel

/-!
# Deadline rules

The parameters of the deadlines, each with the citation it is from, and the arithmetic of days,
months and hours that turns them into dates.

## Main definitions

* `DeadlineRuleTable` — the loaded parameters and their sources
* `wholeValue` — a parameter as a whole number
* `Date.addMonths`, `Timestamp.addHours` — later dates and times
-/

/-- The number has no fraction. -/
def FiniteDecimal.isWhole (d : FiniteDecimal) : Bool :=
  0 ≤ d.exponent || d.coefficient % 10 ^ (-d.exponent).toNat = 0

namespace Atreides

inductive RuleUnit
  | businessDays
  | settlementDays
  | calendarDays
  | months
  | clockTime
  deriving DecidableEq, Repr

/-- A source, and the days on which the version that was retrieved is in force. -/
structure RuleSource where
  sourceId : String
  effectiveDate : Option Date := none
  expiresAt : Option Date := none
  deriving DecidableEq

structure DeadlineRule where
  ruleId : String
  citation : String
  sourceSha256 : String
  value : FiniteDecimal
  unit : RuleUnit
  requiresCallerOpeningTime : Bool := false
  deriving DecidableEq

structure DeadlineRuleTable where
  tableVersion : String
  sources : List RuleSource
  rules : List DeadlineRule
  deriving DecidableEq

/-- The rule of an identifier. -/
def DeadlineRuleTable.get (table : DeadlineRuleTable) (ruleId : String) : Option DeadlineRule :=
  table.rules.find? fun rule => rule.ruleId = ruleId

/-- Those of the identifiers that the table has no rule for. -/
def DeadlineRuleTable.missing (table : DeadlineRuleTable) (ruleIds : List String) : List String :=
  ruleIds.filter fun ruleId => (table.get ruleId).isNone

/-- A parameter as a whole number. -/
def wholeValue (rule : DeadlineRule) (refusal : String) : Outcome ℤ :=
  if rule.value.isWhole then .ok rule.value.truncate
  else .error (.valueError (rule.ruleId ++ refusal))

end Atreides

/-! ## Later dates and times -/

namespace Date

/-- The days of a month. -/
def daysInMonth (year month : ℕ) : ℕ :=
  if month = 12 then 31 else daysBeforeMonth year (month + 1) - daysBeforeMonth year month

/-- The same day some months later, or the last day of a month that is too short. -/
def addMonths (start : Date) (months : ℤ) : Outcome Date :=
  let monthIndex := (start.month - 1 : ℤ) + months
  let year := start.year + monthIndex / 12
  let month := (monthIndex % 12).toNat + 1
  let day := min start.day (daysInMonth year.toNat month)
  if year < 1 ∨ 9999 < year then .error (.valueError s!"year {year} is out of range")
  else if h : 1 ≤ ordinalOf year.toNat month day ∧ ordinalOf year.toNat month day ≤ 3652059 then
    .ok (.of year.toNat month day h)
  else .error (.valueError "day is out of range for month")

end Date

namespace Timestamp

/-- The time some hours later, in the offset it has. -/
def addHours (t : Timestamp) (hours : ℤ) : Outcome Timestamp := do
  let microseconds := t.microsecondOfDay + hours * 3600000000
  let date ← t.date.addDays (microseconds / microsecondsPerDay)
  .ok ⟨date, (microseconds % microsecondsPerDay).toNat, t.utcOffset,
    by simp only [microsecondsPerDay]; omega⟩

end Timestamp
