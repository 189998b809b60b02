import Mathlib.Data.String.Basic
import Atreides.Deadlines.BusinessDays
import Atreides.Foundation.SortedSet

/-!
# Normalized market data

Rows of published observations are checked before they are used. The check collects what is wrong
with the rows one by one, with the rows of one date and metric, and with the days each metric
covers, and returns it as a sorted list.

## Main definitions

* `NormalizedRow` — an observation of a metric on a date
* `usGovernmentSecurities` — the calendar the check reads
* `collectRow` — what one row adds to the errors
* `walk` — the days of a metric, one by one
* `validateRows` — the check
-/

namespace Atreides

namespace MarketData

/-! ## The calendar -/

/-- The days of a year, by month and day of the month. -/
def daysOfYear (year : ℕ) (days : List (ℕ × ℕ)) : List Date :=
  (days.filterMap fun day =>
    if h : 1 ≤ Date.ordinalOf year day.1 day.2 ∧ Date.ordinalOf year day.1 day.2 ≤ 3652059 then
      some (Date.of year day.1 day.2 h)
    else none).filter fun day => day.year = year

/-- The holidays of the loaded years. -/
def governmentHolidays : Dict ℕ (List Date) :=
  .ofPairs (([
    (2019, [(1, 1), (1, 21), (2, 18), (4, 19), (5, 27), (7, 4), (9, 2), (10, 14), (11, 11),
      (11, 28), (12, 25)]),
    (2020, [(1, 1), (1, 20), (2, 17), (4, 10), (5, 25), (7, 3), (9, 7), (10, 12), (11, 11),
      (11, 26), (12, 25)]),
    (2023, [(1, 2), (1, 16), (2, 20), (4, 7), (5, 29), (6, 19), (7, 4), (9, 4), (10, 9),
      (11, 10), (11, 23), (12, 25)]),
    (2026, [(1, 1), (1, 19), (2, 16), (4, 3), (5, 25), (6, 19), (7, 3), (9, 7), (10, 12),
      (11, 11), (11, 26), (12, 25)]),
    (2027, [(1, 1), (1, 18), (2, 15), (3, 26), (5, 31), (6, 18), (7, 5), (9, 6), (10, 11),
      (11, 11), (11, 25), (12, 24)])] :
    List (ℕ × List (ℕ × ℕ))).map fun item => (item.1, daysOfYear item.1 item.2))

theorem governmentHolidays_match : ∀ entry ∈ governmentHolidays.items, ∀ day ∈ entry.2,
    day.year = entry.1 := by
  intro entry hentry day hday
  have hfound := Dict.get?_eq_some_iff.mpr hentry
  obtain ⟨item, -, hitem⟩ := List.mem_map.mp (Dict.mem_of_get?_ofPairs hfound)
  obtain ⟨hyear, hdays⟩ := Prod.mk.inj hitem
  rw [← hdays] at hday
  rw [← hyear]
  simpa using (List.mem_filter.mp hday).2

/-- The calendar of the government securities market. -/
def usGovernmentSecurities : MarketCalendar :=
  ⟨.usGovernmentSecurities, governmentHolidays, governmentHolidays_match⟩

/-! ## Rows -/

def allowedUnits : List String := ["percent", "basis_points", "usd", "count", "ratio"]

def rateMin : Decimal := .finite ⟨true, 10, 0⟩

def rateMax : Decimal := 100

/-- A row as a parser builds it. All the columns are there and none is named like an identifier, so
the checks of the columns find nothing. -/
structure NormalizedRow where
  date : Date
  metric : String
  value : Decimal
  unit : String
  deriving DecidableEq

/-- What tells a row from the others. -/
def NormalizedRow.key (row : NormalizedRow) : String × String := (row.date.isoformat, row.metric)

/-- The text of a pair of texts. -/
def keyText (key : String × String) : String := "(" ++ quoted key.1 ++ ", " ++ quoted key.2 ++ ")"

def unitText (row : NormalizedRow) : String := "invalid unit: " ++ row.unit

def rangeText (row : NormalizedRow) : String :=
  "percent out of range: " ++ row.metric ++ "=" ++ row.value.text

def duplicateText (key : String × String) : String :=
  "duplicate key with differing values: " ++ keyText key

/-- Whether a percent is admitted; a comparison with a NaN raises. -/
def inRange (value : Decimal) : Outcome Bool := do
  let above ← Decimal.le rateMin value
  if above then Decimal.le value rateMax else .ok false

def unitErrors (row : NormalizedRow) : List String :=
  if row.unit ∈ allowedUnits then [] else [unitText row]

def rangeErrors (row : NormalizedRow) : Outcome (List String) :=
  if row.unit = "percent" then do
    let inside ← inRange row.value
    .ok (if inside then [] else [rangeText row])
  else .ok []

/-- A row of a key that was seen with another value. -/
def duplicateErrors (seen : Dict (String × String) Decimal) (row : NormalizedRow) :
    Outcome (List String) :=
  match seen.get? row.key with
  | none => .ok []
  | some earlier => do
    let same ← Decimal.eq earlier row.value
    .ok (if same then [] else [duplicateText row.key])

/-- What the loop over the rows has collected. -/
structure Collected where
  errors : List String
  seen : Dict (String × String) Decimal
  dates : List Date
  metrics : List String

/-- What is collected before the first row. -/
def nothingCollected : Collected := ⟨[], .empty, [], []⟩

def collectRow (state : Collected) (row : NormalizedRow) : Outcome Collected := do
  let range ← rangeErrors row
  let duplicate ← duplicateErrors state.seen row
  .ok {
    errors := state.errors ++ unitErrors row ++ range ++ duplicate
    seen := state.seen.set row.key row.value
    dates := state.dates ++ [row.date]
    metrics := Dict.noteKey state.metrics row.metric }

/-! ## Days -/

/-- The dates of a metric. -/
def datesOf (rows : List NormalizedRow) (metric : String) : List Date :=
  (rows.filter fun row => row.metric = metric).map NormalizedRow.date

/-- The set of some dates, as day numbers in order. -/
def dateSet (dates : List Date) : List ℕ := sortedSet (dates.map Date.ordinal)

def completenessText : String := "calendar completeness differs between metrics"

/-- The metrics do not all cover the same dates. -/
def completenessErrors (rows : List NormalizedRow) (metrics : List String) : List String :=
  if 1 < (metrics.map fun metric => dateSet (datesOf rows metric)).dedup.length then
    [completenessText]
  else []

def gapText (metric : String) (day : Date) : String :=
  "calendar gap: " ++ metric ++ " " ++ day.isoformat

/-- Walk over a number of days and report the business days that are not present. A day that the
calendar cannot decide is reported and ends the walk. -/
def walk (calendar : MarketCalendar) (metric : String) (present : List Date) :
    ℕ → Date → Outcome (List String)
  | 0, _ => .ok []
  | left + 1, cursor =>
    match calendar.isBusinessDay cursor with
    | .error (.valueError message) => .ok [message]
    | .error e => .error e
    | .ok businessDay => do
      let gap := if businessDay ∧ cursor ∉ present then [gapText metric cursor] else []
      let cursor ← cursor.next
      let rest ← walk calendar metric present left cursor
      .ok (gap ++ rest)

def earliest (first : Date) (rest : List Date) : Date :=
  rest.foldl (fun start day => if day < start then day else start) first

def latest (first : Date) (rest : List Date) : Date :=
  rest.foldl (fun close day => if close < day then day else close) first

/-- What is wrong with the rows, in the days of a calendar. -/
def checkRows (calendar : MarketCalendar) (rows : List NormalizedRow) : Outcome (List String) := do
  let state ← Outcome.foldSteps collectRow nothingCollected rows
  match state.dates with
  | [] => .ok (sortedSet state.errors)
  | first :: rest => do
    let start := earliest first rest
    let days := (latest first rest).ordinal + 1 - start.ordinal
    let gaps ← Outcome.collect
      (fun metric => walk calendar metric (datesOf rows metric) days start) state.metrics
    .ok (sortedSet (state.errors ++ completenessErrors rows state.metrics ++ gaps.flatten))

def validateRows (rows : List NormalizedRow) : Outcome (List String) :=
  checkRows usGovernmentSecurities rows

end MarketData

end Atreides
