import Mathlib.Algebra.GroupWithZero.Nat
import Atreides.Foundation.IsoFormat

/-!
# Reading dates

A date is read from a text of seven, eight or ten bytes. The text a date is written as is read as
the date.

## Main definitions

* `Date.fromisoformat` — the date of a text

## Main results

* `Date.fromisoformat_error` — what cannot be read raises a value error
* `Date.fromisoformat_isoformat` — the text of a date is read as the date
-/

open IsoFormat

namespace Date

/-- The date of a text. -/
def fromisoformat (text : String) : Outcome Date :=
  let unreadable := .error (.valueError ("Invalid isoformat string: " ++ quoted text))
  if (text.toList.map Char.utf8Size).sum ∈ [7, 8, 10] then (readDate text.toList).getD unreadable else unreadable

/-- A text that names no date raises a value error. -/
theorem fromisoformat_error (text : String) : FailsByValue (fromisoformat text) := by
  rw [fromisoformat]
  split_ifs
  · rcases hread : readDate text.toList with _ | date
    · exact FailsByValue.error _
    · exact readDate_failsByValue hread
  · exact FailsByValue.error _

/-! ## The year, the month and the day -/

/-- A date lies in its year, and before its last day where the year is not a leap year. -/
theorem ordinal_le_year (a : Date) :
    a.ordinal ≤ daysBeforeYear a.year + 366 ∧
      (isLeap a.year = false → a.ordinal ≤ daysBeforeYear a.year + 365) := by
  have hpos := a.ordinal_pos
  simp only [year]
  generalize hn : a.ordinal - 1 = n
  generalize hn400 : n / 146097 = n400
  generalize hn100 : n % 146097 / 36524 = n100
  generalize hn4 : n % 146097 % 36524 / 1461 = n4
  generalize hn1 : n % 146097 % 36524 % 1461 / 365 = n1
  split_ifs with h
  · -- the last day of a leap cycle
    have hcycle : ∃ y100 y4, y100 < 4 ∧ y4 < 25 ∧
        n400 * 400 + n100 * 100 + n4 * 4 + n1 + 1 - 1 = n400 * 400 + y100 * 100 + y4 * 4 + 3 + 1 ∧
        n + 1 = n400 * 146097 + y100 * 36524 + y4 * 1461 + 3 * 365 + 366 ∧
          (y4 ≠ 24 ∨ y100 = 3) := by
      by_cases h100 : n100 = 4
      · exact ⟨3, 24, by omega, by omega, by omega, by omega, by omega⟩
      · exact ⟨n100, n4, by omega, by omega, by omega, by omega, by omega⟩
    obtain ⟨y100, y4, h100, h4, hyear, hday, hlast⟩ := hcycle
    rw [hyear, daysBeforeYear_of_cycles n400 y100 y4 3 h100 h4 (by omega)]
    refine ⟨by omega, fun hleap => ?_⟩
    exfalso
    rw [isLeap, Bool.and_eq_false_iff, Bool.or_eq_false_iff, decide_eq_false_iff_not,
      decide_eq_false_iff_not, decide_eq_false_iff_not] at hleap
    omega
  · rw [daysBeforeYear_of_cycles n400 n100 n4 n1 (by omega) (by omega) (by omega)]
    omega

theorem year_pos (a : Date) : 1 ≤ a.year := by
  simp only [year]
  split_ifs with h <;> omega

theorem year_le (a : Date) : a.year ≤ 9999 := by
  have hle := a.ordinal_le
  simp only [year]
  split_ifs with h <;> omega

theorem dayOfYear_pos (a : Date) : 0 < a.dayOfYear := by
  have hlt := a.daysBeforeYear_lt
  rw [dayOfYear]
  omega

/-- No later month begins before the day. -/
theorem le_monthUpTo {y d m k : ℕ} (hm : 1 ≤ m) (hk : m ≤ k) (h : daysBeforeMonth y m < d) :
    m ≤ monthUpTo y d k := by
  induction k with
  | zero => omega
  | succ k ih =>
    rw [monthUpTo]
    split_ifs with hlast
    · exact hk
    · have hne : m ≠ k + 1 := by
        rintro rfl
        exact hlast h
      exact ih (by omega)

theorem monthUpTo_bounds (y d k : ℕ) : 1 ≤ monthUpTo y d k ∧ monthUpTo y d k ≤ max k 1 := by
  induction k with
  | zero => exact ⟨le_rfl, le_rfl⟩
  | succ k ih =>
    rw [monthUpTo]
    split_ifs
    · omega
    · omega

theorem month_bounds (a : Date) : 1 ≤ a.month ∧ a.month ≤ 12 := monthUpTo_bounds _ _ 12

theorem one_le_day (a : Date) : 1 ≤ a.day := by
  have hmonth : daysBeforeMonth a.year a.month < a.dayOfYear :=
    daysBeforeMonth_monthUpTo_lt a.dayOfYear_pos 12
  rw [day]
  omega

/-- The day lies in its month. -/
theorem day_le (a : Date) :
    daysBeforeMonth a.year a.month + a.day ≤
      if a.month = 12 then daysBeforeMonth a.year 12 + 31
      else daysBeforeMonth a.year (a.month + 1) := by
  have hbefore : daysBeforeMonth a.year a.month < a.dayOfYear :=
    daysBeforeMonth_monthUpTo_lt a.dayOfYear_pos 12
  have hday : daysBeforeMonth a.year a.month + a.day = a.dayOfYear := by
    rw [day]
    omega
  rw [hday]
  split_ifs with hlast
  · have hyear := a.ordinal_le_year
    have hdays : daysBeforeMonth a.year 12 = 334 + if isLeap a.year then 1 else 0 := by
      simp [daysBeforeMonth]
    rw [hdays, dayOfYear]
    rcases hleap : isLeap a.year with _ | _
    · have hplain := hyear.2 hleap
      rw [if_neg Bool.false_ne_true]
      omega
    · rw [if_pos rfl]
      omega
  · by_contra hlater
    have hbounds := a.month_bounds
    have hnext : a.month + 1 ≤ a.month :=
      le_monthUpTo (by omega) (by omega) (not_le.mp hlater)
    omega

/-- The number a day in a month exceeds ninety-nine never does. -/
theorem day_lt (a : Date) : a.day < 100 := by
  have hle := a.day_le
  have hbounds := a.month_bounds
  have hspan : ∀ m ∈ List.range 11, ∀ leap ∈ [0, 1],
      [0, 31, 59, 90, 120, 151, 181, 212, 243, 273, 304, 334].getD (m + 1) 0 + leap ≤
        [0, 31, 59, 90, 120, 151, 181, 212, 243, 273, 304, 334].getD m 0 + 99 := by decide
  split_ifs at hle with hlast
  · rw [hlast] at hle
    omega
  · have hmonth := hspan (a.month - 1) (by rw [List.mem_range]; omega)
    simp only [daysBeforeMonth] at hle
    have hsame : a.month - 1 + 1 = a.month := by omega
    have hnext : a.month + 1 - 1 = a.month := by omega
    rw [hsame] at hmonth
    rw [hnext] at hle
    have hone := hmonth 1 (by decide)
    split_ifs at hle <;> omega

/-! ## Reading what was written -/

theorem readDigits_digits {digits : List Char} (h : ∀ c ∈ digits, c.isDigit = true)
    (value : ℕ) (rest : List Char) :
    IsoFormat.readDigits digits.length value (digits ++ rest) =
      some (Nat.ofDigitChars 10 digits value, rest) := by
  induction digits generalizing value with
  | nil => rfl
  | cons c digits ih =>
    rw [List.length_cons, List.cons_append, IsoFormat.readDigits,
      if_pos (h c List.mem_cons_self), ih fun d hd => h d (List.mem_cons_of_mem _ hd),
      Nat.ofDigitChars_cons]
    rfl

/-- A number of few digits is written with as many as are asked for. -/
theorem length_padded {width n : ℕ} (hpos : 0 < width) (h : n < 10 ^ width) :
    (padded width n).toList.length = width := by
  have hlength : (toString n).toList.length ≤ width := by
    rw [Nat.toString_eq_ofList_toDigits, String.toList_ofList]
    exact (Nat.length_toDigits_le_iff (by decide) hpos).mpr h
  rw [padded, String.toList_append, String.toList_ofList, List.length_append,
    List.length_replicate, ← String.length_toList]
  omega

theorem ofDigitChars_toList_padded (width n : ℕ) :
    Nat.ofDigitChars 10 (padded width n).toList 0 = n := by
  rw [padded, String.toList_append, String.toList_ofList, Nat.ofDigitChars_append,
    Nat.ofDigitChars_replicate_zero, Nat.mul_zero, Nat.toString_eq_ofList_toDigits,
    String.toList_ofList, Nat.ofDigitChars_ten_toDigits]

/-- A number of few digits is read as it was written. -/
theorem readDigits_padded {width n : ℕ} (hpos : 0 < width) (h : n < 10 ^ width)
    (rest : List Char) :
    IsoFormat.readDigits width 0 ((padded width n).toList ++ rest) = some (n, rest) := by
  have hdigits : ∀ c ∈ (padded width n).toList, c.isDigit = true := fun c hc =>
    isDigit_of_mem_padded hc
  have hread := readDigits_digits hdigits 0 rest
  rwa [length_padded hpos h, ofDigitChars_toList_padded] at hread

/-- The year, the month and the day of a date name it. -/
theorem dateOf_ymd (a : Date) : dateOf a.year a.month a.day = .ok a := by
  have hyear := a.year_pos
  have hyearLe := a.year_le
  have hmonth := a.month_bounds
  have hday := a.one_le_day
  have hdayLe := a.day_le
  have hordinal := a.ordinalOf_ymd
  have hinYear : ¬ (a.year < 1 ∨ 9999 < a.year) := by omega
  have hinMonths : ¬ (a.month < 1 ∨ 12 < a.month) := by omega
  have hinMonth : ¬ (a.day < 1 ∨ (if a.month = 12 then daysBeforeMonth a.year 12 + 31
      else daysBeforeMonth a.year (a.month + 1)) < daysBeforeMonth a.year a.month + a.day) := by
    omega
  have hinCalendar : 1 ≤ ordinalOf a.year a.month a.day ∧
      ordinalOf a.year a.month a.day ≤ 3652059 := by
    rw [hordinal]
    exact ⟨a.ordinal_pos, a.ordinal_le⟩
  rw [dateOf, Outcome.refuseIf_bind hinYear, Outcome.refuseIf_bind hinMonths]
  dsimp only
  rw [Outcome.refuseIf_bind hinMonth, dif_pos hinCalendar]
  exact congrArg Except.ok (ext_ordinal hordinal)

/-- The text of a date is read as the date. -/
theorem fromisoformat_isoformat (a : Date) : fromisoformat a.isoformat = .ok a := by
  have hdash : "-".toList = ['-'] := rfl
  have hchars : a.isoformat.toList = (padded 4 a.year).toList ++
      '-' :: ((padded 2 a.month).toList ++ '-' :: (padded 2 a.day).toList) := by
    simp only [isoformat, String.toList_append, hdash, List.append_assoc, List.nil_append,
      List.cons_append]
  have hyear : a.year < 10 ^ 4 := by
    have := a.year_le
    omega
  have hmonth : a.month < 10 ^ 2 := by
    have := a.month_bounds
    omega
  have hday : a.day < 10 ^ 2 := a.day_lt
  have hone : ∀ c ∈ a.isoformat.toList, c.utf8Size = 1 := by
    intro c hc
    rw [Char.utf8Size_eq_one_iff]
    rcases isDigit_or_dash_of_mem_isoformat hc with hdigit | rfl
    · have hrange : 48 ≤ c.toNat ∧ c.toNat ≤ 57 := by
        simpa [Char.isDigit, UInt32.le_iff_toNat_le] using hdigit
      rw [UInt32.le_iff_toNat_le]
      exact hrange.2.trans (by decide)
    · decide
  have hbytes : (a.isoformat.toList.map Char.utf8Size).sum = 10 := by
    have hsum : ∀ chars : List Char, (chars.map fun _ => 1).sum = chars.length := by
      intro chars
      induction chars with
      | nil => rfl
      | cons c chars ih =>
        rw [List.map_cons, List.sum_cons, ih, List.length_cons, Nat.add_comm]
    rw [List.map_congr_left hone, hsum, hchars, List.length_append, List.length_cons,
      List.length_append, List.length_cons, length_padded (by decide) hyear,
      length_padded (by decide) hmonth, length_padded (by decide) hday]
  have hread : readDate a.isoformat.toList = some (.ok a) := by
    have hlast := readDigits_padded (by decide) hday []
    rw [List.append_nil] at hlast
    have hmiddle := readDigits_padded (by decide) hmonth ('-' :: (padded 2 a.day).toList)
    have hnotWeek : ((padded 2 a.month).toList ++ '-' :: (padded 2 a.day).toList).head? ≠
        some 'W' := by
      intro hweek
      rcases List.mem_append.mp (List.mem_of_mem_head? hweek) with hmem | hmem
      · exact absurd (isDigit_of_mem_padded hmem) (by decide)
      · rcases List.mem_cons.mp hmem with hmark | hmem
        · exact absurd hmark (by decide)
        · exact absurd (isDigit_of_mem_padded hmem) (by decide)
    have hdashed : ∀ chars : List Char, afterDash true ('-' :: chars) = some chars := by
      intro chars
      rfl
    have hdash' : ∀ chars : List Char, decide (('-' :: chars).head? = some '-') = true := by
      intro chars
      rfl
    rw [readDate, hchars, readDigits_padded (by decide) hyear, Option.bind_eq_bind,
      Option.bind_some]
    dsimp only
    rw [hdash', hdashed, Option.bind_eq_bind, Option.bind_some, if_neg hnotWeek, readMonthDate,
      hmiddle, Option.bind_eq_bind, Option.bind_some]
    dsimp only
    rw [hdashed, Option.bind_eq_bind, Option.bind_some, hlast, Option.bind_some, dateOf_ymd]
  rw [fromisoformat, if_pos (by rw [hbytes]; decide), hread]
  rfl

end Date
