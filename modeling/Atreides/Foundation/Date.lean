import Mathlib.Data.Nat.Basic
import Atreides.Foundation.Outcome
import Atreides.Foundation.Text

/-!
# Dates

Dates of the proleptic Gregorian calendar, from the first day of the year 1 to the last
day of the year 9999, as day numbers. The first of January of the year 1 is day 1.

## Main definitions

* `Date` — a date, with its `year`, `month`, `day` and `weekday`
* `Date.isoformat` — the text of a date

## Main results

* `Date.ordinalOf_ymd` — a date is the date of its year, month and day
* `Date.isoformat_injective` — the text determines the date
-/

/-- A date, by its day number. -/
structure Date where
  ordinal : ℕ
  ordinal_pos : 1 ≤ ordinal
  ordinal_le : ordinal ≤ 3652059
  deriving DecidableEq

namespace Date

theorem ext_ordinal {a b : Date} (h : a.ordinal = b.ordinal) : a = b := by
  cases a
  cases b
  simp_all

instance : LT Date := ⟨fun a b => a.ordinal < b.ordinal⟩

instance : LE Date := ⟨fun a b => a.ordinal ≤ b.ordinal⟩

instance (a b : Date) : Decidable (a < b) := inferInstanceAs (Decidable (a.ordinal < b.ordinal))

instance (a b : Date) : Decidable (a ≤ b) := inferInstanceAs (Decidable (a.ordinal ≤ b.ordinal))

theorem lt_iff {a b : Date} : a < b ↔ a.ordinal < b.ordinal := Iff.rfl

theorem le_iff {a b : Date} : a ≤ b ↔ a.ordinal ≤ b.ordinal := Iff.rfl

/-- Days in the years before the year `y`. -/
def daysBeforeYear (y : ℕ) : ℕ := (y - 1) * 365 + (y - 1) / 4 - (y - 1) / 100 + (y - 1) / 400

/-- Whether the year has a twenty-ninth of February. -/
def isLeap (y : ℕ) : Bool := y % 4 = 0 && (y % 100 ≠ 0 || y % 400 = 0)

/-- Days in the months of the year `y` before the month `m`. -/
def daysBeforeMonth (y m : ℕ) : ℕ :=
  [0, 31, 59, 90, 120, 151, 181, 212, 243, 273, 304, 334].getD (m - 1) 0 +
    if 2 < m && isLeap y then 1 else 0

/-- The day number of a year, month and day. -/
def ordinalOf (y m d : ℕ) : ℕ := daysBeforeYear y + daysBeforeMonth y m + d

/-- The date of a year, month and day that name one. -/
def of (y m d : ℕ) (h : 1 ≤ ordinalOf y m d ∧ ordinalOf y m d ≤ 3652059 := by decide) : Date :=
  ⟨ordinalOf y m d, h.1, h.2⟩

/-- The year, by whole cycles of 400, 100, 4 and single years. The last day of a cycle
that ends in a leap year is counted into it. -/
def year (a : Date) : ℕ :=
  let n := a.ordinal - 1
  let n400 := n / 146097
  let n100 := n % 146097 / 36524
  let n4 := n % 146097 % 36524 / 1461
  let n1 := n % 146097 % 36524 % 1461 / 365
  let first := n400 * 400 + n100 * 100 + n4 * 4 + n1 + 1
  if n1 = 4 ∨ n100 = 4 then first - 1 else first

/-- The day's number in its year, from 1. -/
def dayOfYear (a : Date) : ℕ := a.ordinal - daysBeforeYear a.year

/-- The last of the first `m` months that begins before the given day of the year. -/
def monthUpTo (y dayOfYear : ℕ) : ℕ → ℕ
  | 0 => 1
  | m + 1 => if daysBeforeMonth y (m + 1) < dayOfYear then m + 1 else monthUpTo y dayOfYear m

/-- The month, from 1 to 12. -/
def month (a : Date) : ℕ := monthUpTo a.year a.dayOfYear 12

/-- The day of the month. -/
def day (a : Date) : ℕ := a.dayOfYear - daysBeforeMonth a.year a.month

/-- The day of the week, from Monday as 0 to Sunday as 6. -/
def weekday (a : Date) : ℕ := (a.ordinal + 6) % 7

/-- The day after, unless the calendar ends. -/
def next (a : Date) : Outcome Date :=
  if h : a.ordinal + 1 ≤ 3652059 then .ok ⟨a.ordinal + 1, by omega, h⟩
  else .error .dateOutOfRange

/-- The date some days later, unless the calendar does not reach there. -/
def addDays (a : Date) (days : ℤ) : Outcome Date :=
  if h : 1 ≤ a.ordinal + days ∧ a.ordinal + days ≤ 3652059 then
    .ok ⟨(a.ordinal + days).toNat, by omega, by omega⟩
  else .error .dateOutOfRange

theorem addDays_error {a : Date} {days : ℤ} {e : PyError} (h : a.addDays days = .error e) :
    e = .dateOutOfRange := by
  rw [addDays] at h
  split_ifs at h
  cases h
  rfl

theorem ordinal_addDays {a b : Date} {days : ℤ} (h : a.addDays days = .ok b) :
    (b.ordinal : ℤ) = a.ordinal + days := by
  rw [addDays] at h
  split_ifs at h with hrange
  cases h
  exact Int.toNat_of_nonneg (by omega)

/-- Whole days from `b` to `a`. -/
def daysSince (a b : Date) : ℤ := a.ordinal - b.ordinal

/-! ## Year, month and day -/

/-- The days before a year, by the cycles of 400, 100 and 4 years before it. -/
theorem daysBeforeYear_of_cycles (n400 n100 n4 n1 : ℕ) (h100 : n100 < 4) (h4 : n4 < 25)
    (h1 : n1 < 4) :
    daysBeforeYear (n400 * 400 + n100 * 100 + n4 * 4 + n1 + 1) =
      n400 * 146097 + n100 * 36524 + n4 * 1461 + n1 * 365 := by
  have hby4 : (n400 * 400 + n100 * 100 + n4 * 4 + n1) / 4 = n400 * 100 + n100 * 25 + n4 := by
    omega
  have hby100 : (n400 * 400 + n100 * 100 + n4 * 4 + n1) / 100 = n400 * 4 + n100 := by omega
  have hby400 : (n400 * 400 + n100 * 100 + n4 * 4 + n1) / 400 = n400 := by omega
  simp only [daysBeforeYear, Nat.add_sub_cancel, hby4, hby100, hby400]
  omega

theorem daysBeforeYear_lt (a : Date) : daysBeforeYear a.year < a.ordinal := by
  have hpos := a.ordinal_pos
  simp only [year]
  generalize hn : a.ordinal - 1 = n
  generalize hn400 : n / 146097 = n400
  generalize hn100 : n % 146097 / 36524 = n100
  generalize hn4 : n % 146097 % 36524 / 1461 = n4
  generalize hn1 : n % 146097 % 36524 % 1461 / 365 = n1
  split_ifs with h
  · -- the last day of a leap cycle belongs to the year the cycle ends in
    by_cases h100 : n100 = 4
    · have hn4 : n4 = 0 := by omega
      have hn1 : n1 = 0 := by omega
      have hyear : n400 * 400 + n100 * 100 + n4 * 4 + n1 + 1 - 1 =
          n400 * 400 + 3 * 100 + 24 * 4 + 3 + 1 := by omega
      rw [hyear, daysBeforeYear_of_cycles n400 3 24 3 (by omega) (by omega) (by omega)]
      omega
    · have hyear : n400 * 400 + n100 * 100 + n4 * 4 + n1 + 1 - 1 =
          n400 * 400 + n100 * 100 + n4 * 4 + 3 + 1 := by omega
      rw [hyear, daysBeforeYear_of_cycles n400 n100 n4 3 (by omega) (by omega) (by omega)]
      omega
  · rw [daysBeforeYear_of_cycles n400 n100 n4 n1 (by omega) (by omega) (by omega)]
    omega

theorem daysBeforeMonth_monthUpTo_lt {y d : ℕ} (hd : 0 < d) (m : ℕ) :
    daysBeforeMonth y (monthUpTo y d m) < d := by
  induction m with
  | zero => simpa [monthUpTo, daysBeforeMonth] using hd
  | succ m ih =>
    rw [monthUpTo]
    split_ifs with h
    · exact h
    · exact ih

/-- A date is the date of its year, month and day. -/
theorem ordinalOf_ymd (a : Date) : ordinalOf a.year a.month a.day = a.ordinal := by
  have hyear := a.daysBeforeYear_lt
  have hpos : 0 < a.dayOfYear := by
    simp only [dayOfYear]
    omega
  have hmonth : daysBeforeMonth a.year a.month < a.dayOfYear :=
    daysBeforeMonth_monthUpTo_lt hpos 12
  simp only [ordinalOf, day]
  simp only [dayOfYear] at hmonth ⊢
  omega

/-! ## Texts -/

/-- A number written with at least `width` digits. -/
def padded (width n : ℕ) : String :=
  String.ofList (List.replicate (width - (toString n).length) '0') ++ toString n

/-- The date as year, month and day, in this order. -/
def isoformat (a : Date) : String :=
  padded 4 a.year ++ "-" ++ padded 2 a.month ++ "-" ++ padded 2 a.day

/-- A number is written with digits alone. -/
theorem isDigit_of_mem_padded {width n : ℕ} {c : Char} (h : c ∈ (padded width n).toList) :
    c.isDigit = true := by
  simp only [padded, String.toList_append, String.toList_ofList, List.mem_append,
    Nat.toString_eq_ofList_toDigits] at h
  rcases h with h | h
  · rw [List.eq_of_mem_replicate h]
    decide
  · exact Nat.isDigit_of_mem_toDigits (by decide) (by decide) h

private theorem dash_not_mem_padded (width n : ℕ) : '-' ∉ (padded width n).toList :=
  fun h => absurd (isDigit_of_mem_padded h) (by decide)

/-- Leading zeros do not change the number a text is read as. -/
private theorem ofDigitChars_padded (width n : ℕ) :
    Nat.ofDigitChars 10 (padded width n).toList 0 = n := by
  have hzeros : ∀ (k : ℕ) (ds : List Char),
      Nat.ofDigitChars 10 (List.replicate k '0' ++ ds) 0 = Nat.ofDigitChars 10 ds 0 := by
    intro k ds
    induction k with
    | zero => rfl
    | succ k ih =>
      rw [List.replicate_succ, List.cons_append, Nat.ofDigitChars_cons]
      exact ih
  simp only [padded, String.toList_append, String.toList_ofList, hzeros,
    Nat.toString_eq_ofList_toDigits, Nat.ofDigitChars_ten_toDigits]

theorem padded_injective {width m n : ℕ} (h : padded width m = padded width n) : m = n := by
  rw [← ofDigitChars_padded width m, h, ofDigitChars_padded]

/-- Three texts joined by dashes, the last two of them without a dash, determine the three. -/
private theorem dashed_injective {a b c a' b' c' : List Char} (hc : '-' ∉ c) (hc' : '-' ∉ c')
    (hb : '-' ∉ b) (hb' : '-' ∉ b')
    (h : a ++ '-' :: (b ++ '-' :: c) = a' ++ '-' :: (b' ++ '-' :: c')) :
    a = a' ∧ b = b' ∧ c = c' := by
  have hlast : c = c' := by
    have hwhole : (a ++ '-' :: b) ++ '-' :: c = (a' ++ '-' :: b') ++ '-' :: c' := by simpa using h
    exact tail_eq_of_append_dash hc hc' hwhole
  subst hlast
  have hfront : (a ++ '-' :: b) ++ '-' :: c = (a' ++ '-' :: b') ++ '-' :: c := by simpa using h
  have hmiddle : b = b' :=
    tail_eq_of_append_dash hb hb' (List.append_cancel_right hfront)
  subst hmiddle
  exact ⟨List.append_cancel_right (List.append_cancel_right hfront), rfl, rfl⟩

private theorem isoformat_toList (a : Date) :
    a.isoformat.toList = (padded 4 a.year).toList ++
      '-' :: ((padded 2 a.month).toList ++ '-' :: (padded 2 a.day).toList) := by
  have hdash : "-".toList = ['-'] := rfl
  simp only [isoformat, String.toList_append, hdash, List.append_assoc, List.nil_append,
    List.cons_append]

/-- A date is written with digits and dashes. -/
theorem isDigit_or_dash_of_mem_isoformat {a : Date} {c : Char} (h : c ∈ a.isoformat.toList) :
    c.isDigit = true ∨ c = '-' := by
  simp only [isoformat_toList, List.mem_append, List.mem_cons] at h
  rcases h with h | h | h | h | h
  · exact .inl (isDigit_of_mem_padded h)
  · exact .inr h
  · exact .inl (isDigit_of_mem_padded h)
  · exact .inr h
  · exact .inl (isDigit_of_mem_padded h)

/-- The text determines the date. -/
theorem isoformat_injective {a b : Date} (h : a.isoformat = b.isoformat) : a = b := by
  have hchars := congrArg String.toList h
  rw [isoformat_toList, isoformat_toList] at hchars
  obtain ⟨hyear, hmonth, hday⟩ := dashed_injective (dash_not_mem_padded 2 a.day)
    (dash_not_mem_padded 2 b.day) (dash_not_mem_padded 2 a.month)
    (dash_not_mem_padded 2 b.month) hchars
  apply ext_ordinal
  rw [← a.ordinalOf_ymd, ← b.ordinalOf_ymd,
    padded_injective (String.toList_injective hyear),
    padded_injective (String.toList_injective hmonth),
    padded_injective (String.toList_injective hday)]

end Date
