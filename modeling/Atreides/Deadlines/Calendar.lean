import Atreides.Foundation.Date
import Atreides.Foundation.Dict

/-!
# Market calendars

Business-day decisions from dated holiday data. A year without data cannot be decided,
and asking about it is refused.

## Main definitions

* `DeadlineCalendar` — what a deadline asks of a calendar
* `MarketCalendar` — the loaded years and their holidays
* `MarketCalendar.isBusinessDay`, `businessDaysAfter`, `addBusinessDays` — the decisions
* `MarketCalendar.toDeadlineCalendar` — the calendar, as a deadline sees it
-/

namespace Atreides

inductive Market
  | usGovernmentSecurities
  | usEquities
  deriving DecidableEq, Repr

def Market.value : Market → String
  | usGovernmentSecurities => "US_GOVERNMENT_SECURITIES"
  | usEquities => "US_EQUITIES"

/-- The decisions of a calendar are inputs: which day comes a number of business days, or of
settlement days, after another. -/
structure DeadlineCalendar where
  addBusinessDays : Date → ℤ → Outcome Date
  addSettlementDays : Date → ℤ → Outcome Date := addBusinessDays

/-- The holidays of each loaded year, every one a day of that year. -/
structure MarketCalendar where
  market : Market
  holidays : Dict ℕ (List Date)
  datesMatchYears : ∀ entry ∈ holidays.items, ∀ day ∈ entry.2, day.year = entry.1

namespace MarketCalendar

/-- A weekday that is not a holiday; a year without data cannot be decided. -/
def isBusinessDay (calendar : MarketCalendar) (value : Date) : Outcome Bool :=
  match calendar.holidays.get? value.year with
  | none => .error (.valueError
      s!"{calendar.market.value} calendar has no loaded data for {value.year}")
  | some days => .ok (value.weekday < 5 && value ∉ days)

/-- Step the cursor `days` times and count the business days it lands on. -/
def countForward (calendar : MarketCalendar) : ℕ → Date → ℕ → Outcome ℕ
  | 0, _, total => .ok total
  | days + 1, cursor, total => do
    let cursor ← cursor.next
    let counted ← calendar.isBusinessDay cursor
    countForward calendar days cursor (if counted then total + 1 else total)

/-- Business days after `start`, up to and including `close`. -/
def businessDaysAfter (calendar : MarketCalendar) (start close : Date) : Outcome ℕ :=
  if close ≤ start then .ok 0
  else calendar.countForward (close.ordinal - start.ordinal) start 0

/-- Step the cursor until it has landed on the remaining business days. The first argument is
what the calendar of dates has left: at its end there is no next day. -/
def stepForward (calendar : MarketCalendar) : ℕ → Date → ℕ → Outcome Date
  | _, cursor, 0 => .ok cursor
  | 0, _, _ + 1 => .error .dateOutOfRange
  | left + 1, cursor, remaining + 1 => do
    let cursor ← cursor.next
    let counted ← calendar.isBusinessDay cursor
    stepForward calendar left cursor (if counted then remaining else remaining + 1)

/-- The business day that comes a number of business days after `start`. -/
def addBusinessDays (calendar : MarketCalendar) (start : Date) (days : ℤ) : Outcome Date :=
  if days < 0 then .error (.valueError "business-day count cannot be negative")
  else calendar.stepForward (3652059 - start.ordinal) start days.toNat

def addSettlementDays (calendar : MarketCalendar) (start : Date) (days : ℤ) : Outcome Date :=
  calendar.addBusinessDays start days

def toDeadlineCalendar (calendar : MarketCalendar) : DeadlineCalendar where
  addBusinessDays := calendar.addBusinessDays
  addSettlementDays := calendar.addSettlementDays

theorem businessDaysAfter_self (calendar : MarketCalendar) (day : Date) :
    calendar.businessDaysAfter day day = .ok 0 := by
  simp [businessDaysAfter, Date.le_iff]

end MarketCalendar

end Atreides
