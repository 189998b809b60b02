import Mathlib.Data.Option.Basic
import Atreides.Foundation.Timestamp

/-!
# Reading timestamps

A timestamp is read from its text in the ISO 8601 forms: a calendar date or a week date, with or
without dashes, then any one character, then a time of day to any precision, and an offset from
universal time or none. Fields are read from the left, and what a field cannot use is left to
the next. Whatever cannot be read is a value error.

## Main definitions

* `readDate`, `readTime` — a date, and a time of day with its offset
* `Timestamp.fromisoformat` — the timestamp of a text

## Main results

* `Timestamp.fromisoformat_error` — what cannot be read raises a value error
-/

namespace IsoFormat

/-! ## Fields -/

/-- Read so many digits, after those read before. -/
def readDigits : ℕ → ℕ → List Char → Option (ℕ × List Char)
  | 0, value, rest => some (value, rest)
  | _ + 1, _, [] => none
  | width + 1, value, c :: rest =>
    if c.isDigit then readDigits width (10 * value + (c.toNat - 48)) rest else none

/-- Something is left of a text. A null character ends it. -/
def isLeft (chars : List Char) : Bool := chars.head?.any (· ≠ Char.ofNat 0)

/-! ## Dates -/

/-- Where the date of a text ends. -/
def dateEnd (chars : List Char) : Option ℕ :=
  let length := chars.length
  let charAt := fun place => chars.getD place (Char.ofNat 0)
  if length = 7 then some 7
  else if charAt 4 = '-' then
    if charAt 5 = 'W' then
      if 8 < length ∧ charAt 8 = '-' then
        if length = 9 then none
        -- a dash before two digits ends the date, before one it starts the day
        else if 10 < length ∧ (charAt 10).isDigit then some 8
        else some 10
      else some 8
    else some 10
  else if charAt 4 = 'W' then
    let digitsEnd := 7 + ((chars.drop 7).takeWhile Char.isDigit).length
    if digitsEnd < 9 then some digitsEnd
    else if digitsEnd % 2 = 0 then some 7
    else some 8
  else some 8

/-- The date of a year, month and day. -/
def dateOf (year month day : ℕ) : Outcome Date := do
  Outcome.refuseIf (year < 1 ∨ 9999 < year)
    (.valueError ("year " ++ toString year ++ " is out of range"))
  Outcome.refuseIf (month < 1 ∨ 12 < month) (.valueError "month must be in 1..12")
  let nextMonth := if month = 12 then Date.daysBeforeMonth year 12 + 31
    else Date.daysBeforeMonth year (month + 1)
  Outcome.refuseIf (day < 1 ∨ nextMonth < Date.daysBeforeMonth year month + day)
    (.valueError "day is out of range for month")
  if h : 1 ≤ Date.ordinalOf year month day ∧ Date.ordinalOf year month day ≤ 3652059 then
    .ok (Date.of year month day h)
  else .error (.valueError "day is out of range for month")

/-- The first Monday of the weeks of a year. -/
def weekOneMonday (year : ℕ) : ℕ :=
  let firstDay := Date.ordinalOf year 1 1
  let firstWeekday := (firstDay + 6) % 7
  if 3 < firstWeekday then firstDay - firstWeekday + 7 else firstDay - firstWeekday

/-- Whether the weeks of a year are fifty-three. -/
def isLongYear (year : ℕ) : Bool :=
  let firstWeekday := (Date.ordinalOf year 1 1 + 6) % 7
  firstWeekday = 3 || (firstWeekday = 2 && Date.isLeap year)

/-- The date of a year of four digits, a week and a day of the week, where the week is one of the
year's. -/
def dateOfWeek (year week day : ℕ) : Option (Outcome Date) :=
  if week < 1 ∨ 53 < week ∨ (week = 53 ∧ (year = 0 ∨ isLongYear year = false)) then none
  else if day < 1 ∨ 7 < day then none
  -- the days before the calendar have no month
  else if year = 0 then some (.error (.valueError "month must be in 1..12"))
  else
    let ordinal := weekOneMonday year + (week - 1) * 7 + (day - 1)
    some <|
      if h : 1 ≤ ordinal ∧ ordinal ≤ 3652059 then .ok ⟨ordinal, h.1, h.2⟩
      else .error (.valueError "year 10000 is out of range")

/-- What follows the dash between two fields, where the date has dashes. -/
def afterDash (dashed : Bool) (chars : List Char) : Option (List Char) :=
  if !dashed then some chars
  else if chars.head? = some '-' then some chars.tail
  else none

/-- Read the week and the day of a date. The day may be missing. -/
def readWeekDate (year : ℕ) (dashed : Bool) (chars : List Char) : Option (Outcome Date) := do
  let (week, rest) ← readDigits 2 0 chars
  if rest.isEmpty then dateOfWeek year week 1
  else
    let rest ← afterDash dashed rest
    let (day, _) ← readDigits 1 0 rest
    dateOfWeek year week day

/-- Read the month and the day of a date. -/
def readMonthDate (year : ℕ) (dashed : Bool) (chars : List Char) : Option (Outcome Date) := do
  let (month, rest) ← readDigits 2 0 chars
  let rest ← afterDash dashed rest
  let (day, _) ← readDigits 2 0 rest
  some (dateOf year month day)

/-- Read a date. Its fields are checked once the rest of the text has been read. -/
def readDate (chars : List Char) : Option (Outcome Date) := do
  let (year, rest) ← readDigits 4 0 chars
  let dashed : Bool := rest.head? = some '-'
  let rest ← afterDash dashed rest
  if rest.head? = some 'W' then readWeekDate year dashed rest.tail
  else readMonthDate year dashed rest

/-! ## Times -/

/-- The fields of a time of day or an offset, and whether anything follows them. -/
structure ClockFields where
  hour : ℕ
  minute : ℕ := 0
  second : ℕ := 0
  microsecond : ℕ := 0
  leftover : Bool

/-- What follows a field. -/
inductive ClockStep
  | done (leftover : Bool)
  | field (rest : List Char)
  | fraction (rest : List Char)

/-- What follows a field, where the fields are divided by colons or by nothing. A single
character of one byte ends the fields whatever it is. -/
def clockStep (colons : Bool) : List Char → Option ClockStep
  | [] => some (.done false)
  | [c] => if c.toNat < 128 then some (.done (isLeft [c])) else none
  | c :: rest =>
    if colons && c = ':' then some (.field rest)
    else if c = '.' ∨ c = ',' then some (.fraction rest)
    else if !colons then some (.field (c :: rest))
    else none

/-- Read a fraction of a second. Digits past the sixth are dropped. -/
def readFraction (fields : ClockFields) (chars : List Char) : Option ClockFields := do
  let width := min 6 chars.length
  let (value, rest) ← readDigits width 0 chars
  return {
    fields with
    microsecond := value * 10 ^ (6 - width)
    leftover := isLeft (rest.dropWhile Char.isDigit) }

/-- Read the hours, the minutes, the seconds and a fraction, as far as they go. -/
def readClock (chars : List Char) : Option ClockFields := do
  let (hour, rest) ← readDigits 2 0 chars
  let colons := rest.head? = some ':'
  match ← clockStep colons rest with
  | .done leftover => return { hour, leftover }
  | .fraction rest => readFraction { hour, leftover := false } rest
  | .field rest =>
    let (minute, rest) ← readDigits 2 0 rest
    match ← clockStep colons rest with
    | .done leftover => return { hour, minute, leftover }
    | .fraction rest => readFraction { hour, minute, leftover := false } rest
    | .field rest =>
      let (second, rest) ← readDigits 2 0 rest
      match ← clockStep colons rest with
      | .done leftover => return { hour, minute, second, leftover }
      | .fraction rest => readFraction { hour, minute, second, leftover := false } rest
      | .field rest => readFraction { hour, minute, second, leftover := false } rest

/-- A character that starts an offset. -/
def startsOffset (c : Char) : Bool := c = '+' || c = '-' || c = 'Z'

/-- Read a time of day and its offset, in seconds and microseconds, where it has one. -/
def readTime (chars : List Char) : Option (ClockFields × Option (ℤ × ℤ)) := do
  let clock ← readClock (chars.takeWhile fun c => !startsOffset c)
  match chars.dropWhile fun c => !startsOffset c with
  | [] =>
    guard (clock.leftover = false)
    return (clock, none)
  | sign :: rest =>
    if sign = 'Z' then
      guard (isLeft rest = false)
      return (clock, some (0, 0))
    else
      let zone ← readClock rest
      guard (zone.leftover = false)
      let direction : ℤ := if sign = '-' then -1 else 1
      return (clock, some
        (direction * (zone.hour * 3600 + zone.minute * 60 + zone.second : ℕ),
          direction * zone.microsecond))

/-- The text of a span in an error. -/
def spanText (microseconds : ℤ) : String :=
  let days := microseconds / microsecondsPerDay
  let seconds := microseconds % microsecondsPerDay / 1000000
  let rest := microseconds % 1000000
  "datetime.timedelta(" ++ String.intercalate ", "
    ((if days = 0 then [] else ["days=" ++ toString days]) ++
      (if seconds = 0 then [] else ["seconds=" ++ toString seconds]) ++
        if rest = 0 then [] else ["microseconds=" ++ toString rest]) ++ ")"

/-- The offset that was read. Less than a second is no offset. -/
def offsetOf : Option (ℤ × ℤ) → Outcome (Option ℤ)
  | none => .ok none
  | some (seconds, microseconds) =>
    if seconds = 0 then .ok (some 0)
    else
      let offset := seconds * 1000000 + microseconds
      if -(microsecondsPerDay : ℤ) < offset ∧ offset < microsecondsPerDay then .ok (some offset)
      else
        .error (.valueError ("offset must be a timedelta strictly between -timedelta(hours=24) " ++
          "and timedelta(hours=24), not " ++ spanText offset ++ "."))

/-- The microsecond of the day the fields name. -/
def microsecondOf (clock : ClockFields) : Outcome (Fin microsecondsPerDay) := do
  Outcome.refuseIf (23 < clock.hour) (.valueError "hour must be in 0..23")
  Outcome.refuseIf (59 < clock.minute) (.valueError "minute must be in 0..59")
  Outcome.refuseIf (59 < clock.second) (.valueError "second must be in 0..59")
  let microsecond := ((clock.hour * 60 + clock.minute) * 60 + clock.second) * 1000000 +
    clock.microsecond
  if h : microsecond < microsecondsPerDay then .ok ⟨microsecond, h⟩
  else .error (.valueError "microsecond must be in 0..999999")

/-- Read a date and a time. The date alone is midnight. -/
def readBoth (chars : List Char) :
    Option (Outcome Date × ClockFields × Option (ℤ × ℤ)) := do
  guard (7 ≤ chars.length)
  let place ← dateEnd chars
  let date ← readDate (chars.take place)
  match chars.drop place with
  | [] => return (date, { hour := 0, leftover := false }, none)
  | _ :: rest =>
    let (clock, offset) ← readTime rest
    return (date, clock, offset)

end IsoFormat

open IsoFormat

/-- The timestamp of a text. -/
def Timestamp.fromisoformat (text : String) : Outcome Timestamp :=
  match readBoth text.toList with
  | none => .error (.valueError ("Invalid isoformat string: " ++ quoted text))
  | some (date, clock, offset) => do
    let utcOffset ← offsetOf offset
    let date ← date
    let microsecond ← microsecondOf clock
    return ⟨date, microsecond, utcOffset, microsecond.isLt⟩

/-! ## Errors -/

namespace IsoFormat

/-- Where a computation fails, it raises a value error. -/
def FailsByValue {α : Type} (x : Outcome α) : Prop :=
  ∀ e, x = .error e → ∃ message, e = .valueError message

theorem FailsByValue.ok {α : Type} (a : α) : FailsByValue (.ok a) := nofun

theorem FailsByValue.error {α : Type} (message : String) :
    FailsByValue (.error (.valueError message) : Outcome α) := by
  intro e h
  cases h
  exact ⟨message, rfl⟩

theorem FailsByValue.refuseIf (p : Prop) [Decidable p] (message : String) :
    FailsByValue (Outcome.refuseIf p (.valueError message)) := by
  rw [Outcome.refuseIf]
  split_ifs
  · exact FailsByValue.error message
  · exact FailsByValue.ok ()

theorem FailsByValue.bind {α β : Type} {x : Outcome α} {f : α → Outcome β}
    (hx : FailsByValue x) (hf : ∀ a, FailsByValue (f a)) : FailsByValue (x >>= f) := by
  intro e h
  rcases Outcome.bind_eq_error.mp h with hfirst | ⟨a, -, hsecond⟩
  · exact hx e hfirst
  · exact hf a e hsecond

theorem dateOf_failsByValue (year month day : ℕ) : FailsByValue (dateOf year month day) := by
  refine (FailsByValue.refuseIf _ _).bind fun _ => ?_
  refine (FailsByValue.refuseIf _ _).bind fun _ => ?_
  refine (FailsByValue.refuseIf _ _).bind fun _ => ?_
  split_ifs
  · exact FailsByValue.ok _
  · exact FailsByValue.error _

theorem dateOfWeek_failsByValue {year week day : ℕ} {date : Outcome Date}
    (h : dateOfWeek year week day = some date) : FailsByValue date := by
  rw [dateOfWeek] at h
  split_ifs at h
  · cases h
    exact FailsByValue.error _
  · cases h
    split
    · exact FailsByValue.ok _
    · exact FailsByValue.error _

theorem readDate_failsByValue {chars : List Char} {date : Outcome Date}
    (h : readDate chars = some date) : FailsByValue date := by
  simp only [readDate, readWeekDate, readMonthDate, Option.bind_eq_bind] at h
  obtain ⟨⟨year, rest⟩, -, h⟩ := Option.bind_eq_some_iff.mp h
  obtain ⟨rest', -, h⟩ := Option.bind_eq_some_iff.mp h
  split at h
  · obtain ⟨⟨week, rest''⟩, -, h⟩ := Option.bind_eq_some_iff.mp h
    split at h
    · exact dateOfWeek_failsByValue h
    · obtain ⟨_, -, h⟩ := Option.bind_eq_some_iff.mp h
      obtain ⟨_, -, h⟩ := Option.bind_eq_some_iff.mp h
      exact dateOfWeek_failsByValue h
  · obtain ⟨_, -, h⟩ := Option.bind_eq_some_iff.mp h
    obtain ⟨_, -, h⟩ := Option.bind_eq_some_iff.mp h
    obtain ⟨_, -, h⟩ := Option.bind_eq_some_iff.mp h
    cases h
    exact dateOf_failsByValue _ _ _

theorem readBoth_failsByValue {chars : List Char} {date : Outcome Date} {clock : ClockFields}
    {offset : Option (ℤ × ℤ)} (h : readBoth chars = some (date, clock, offset)) :
    FailsByValue date := by
  simp only [readBoth, Option.bind_eq_bind] at h
  obtain ⟨-, -, h⟩ := Option.bind_eq_some_iff.mp h
  obtain ⟨place, -, h⟩ := Option.bind_eq_some_iff.mp h
  obtain ⟨date', hdate, h⟩ := Option.bind_eq_some_iff.mp h
  split at h
  · cases h
    exact readDate_failsByValue hdate
  · obtain ⟨_, -, h⟩ := Option.bind_eq_some_iff.mp h
    cases h
    exact readDate_failsByValue hdate

theorem offsetOf_failsByValue (offset : Option (ℤ × ℤ)) : FailsByValue (offsetOf offset) := by
  rcases offset with _ | ⟨seconds, microseconds⟩
  · exact FailsByValue.ok _
  · simp only [offsetOf]
    split_ifs
    · exact FailsByValue.ok _
    · exact FailsByValue.ok _
    · exact FailsByValue.error _

theorem microsecondOf_failsByValue (clock : ClockFields) : FailsByValue (microsecondOf clock) := by
  refine (FailsByValue.refuseIf _ _).bind fun _ => ?_
  refine (FailsByValue.refuseIf _ _).bind fun _ => ?_
  refine (FailsByValue.refuseIf _ _).bind fun _ => ?_
  dsimp only
  split_ifs
  · exact FailsByValue.ok _
  · exact FailsByValue.error _

end IsoFormat

/-- A text that names no timestamp raises a value error. -/
theorem Timestamp.fromisoformat_error (text : String) :
    FailsByValue (Timestamp.fromisoformat text) := by
  rw [Timestamp.fromisoformat]
  split
  · exact FailsByValue.error _
  next date clock offset hread =>
    refine (offsetOf_failsByValue offset).bind fun _ => ?_
    refine (readBoth_failsByValue hread).bind fun _ => ?_
    refine (microsecondOf_failsByValue clock).bind fun _ => ?_
    exact FailsByValue.ok _
