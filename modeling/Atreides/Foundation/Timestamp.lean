import Atreides.Foundation.Date
import Atreides.Foundation.Decimal.Basic

/-!
# Timestamps

A wall-clock time to the microsecond, with its offset from universal time unless it is
naive. Two timestamps with an offset are compared by the instants they name.

## Main definitions

* `Timestamp` — a date, a time of day and an offset
* `Timestamp.instant` — the instant a timestamp names
* `Timestamp.isBefore` — the order of two timestamps, where they have one
* `Timestamp.secondsSince` — the seconds between two timestamps
* `Timestamp.isoformat` — its text

## Main results

* `Timestamp.isoformat_injective` — the text determines the timestamp
-/

/-- Microseconds in a day. -/
def microsecondsPerDay : ℕ := 86400000000

/-- A wall-clock time, with its offset from universal time in microseconds unless it is
naive. -/
structure Timestamp where
  date : Date
  microsecondOfDay : ℕ
  utcOffset : Option ℤ
  microsecondOfDay_lt : microsecondOfDay < microsecondsPerDay := by decide
  deriving DecidableEq

namespace Timestamp

/-- A time in universal time. -/
def utc (date : Date) (microsecondOfDay : ℕ)
    (h : microsecondOfDay < microsecondsPerDay := by decide) : Timestamp :=
  ⟨date, microsecondOfDay, some 0, h⟩

/-- The first instant of a day, in universal time. -/
def midnight (date : Date) : Timestamp := utc date 0

/-- The time is stated in universal time. -/
def isUtc (t : Timestamp) : Bool := t.utcOffset = some 0

/-- The instant, in microseconds. A naive time counts as universal time. -/
def instant (t : Timestamp) : ℤ :=
  t.date.ordinal * microsecondsPerDay + t.microsecondOfDay - t.utcOffset.getD 0

/-- Whether one time is before another. A naive time and one with an offset have no order. -/
def isBefore (s t : Timestamp) : Outcome Bool :=
  if s.utcOffset.isSome = t.utcOffset.isSome then .ok (s.instant < t.instant)
  else .error (.typeError "can't compare offset-naive and offset-aware datetimes")

/-- The whole seconds of a span in microseconds. The span is divided in floating point first,
so that it may round up to a second in spans of centuries. -/
def wholeSeconds (microseconds : ℤ) : ℤ :=
  let n := microseconds.natAbs
  let shift := 52 - Nat.log2 (n / 10 ^ 6)
  microseconds.sign * (roundHalfEven (n * 2 ^ shift) 6 / 2 ^ shift : ℕ)

/-- The seconds from one time to another. A naive time and one with an offset have no span. -/
def secondsSince (t s : Timestamp) : Outcome ℤ :=
  if s.utcOffset.isSome = t.utcOffset.isSome then .ok (wholeSeconds (t.instant - s.instant))
  else .error (.typeError "can't subtract offset-naive and offset-aware datetimes")

/-- A time of day or an offset: hours and minutes, and what is left where it is not zero. -/
private def clock (always : Bool) (microseconds : ℕ) : String :=
  let seconds := microseconds / 1000000
  let fraction := microseconds % 1000000
  Date.padded 2 (seconds / 3600) ++ ":" ++ Date.padded 2 (seconds / 60 % 60) ++
    (if always || seconds % 60 ≠ 0 || fraction ≠ 0 then
      ":" ++ Date.padded 2 (seconds % 60) else "") ++
    (if fraction ≠ 0 then "." ++ Date.padded 6 fraction else "")

/-- The text of the time: date, time of day, and the offset unless it is naive. -/
def isoformat (t : Timestamp) : String :=
  t.date.isoformat ++ "T" ++ clock true t.microsecondOfDay ++
    match t.utcOffset with
    | none => ""
    | some offset => (if offset < 0 then "-" else "+") ++ clock false offset.natAbs

/-! ## Texts -/

/-- The characters of a number after a mark, where it is written at all. -/
private def marked (written : Bool) (mark : Char) (width n : ℕ) : List Char :=
  if written then mark :: (Date.padded width n).toList else []

private theorem marked_toList {text : String} {mark : Char} (hmark : text.toList = [mark])
    (written : Prop) [Decidable written] (width n : ℕ) :
    (if written then text ++ Date.padded width n else "").toList =
      marked (decide written) mark width n := by
  by_cases h : written
  · rw [if_pos h, decide_eq_true h, String.toList_append, hmark]
    rfl
  · rw [if_neg h, decide_eq_false h]
    rfl

private theorem clock_toList (always : Bool) (n : ℕ) :
    (clock always n).toList = (Date.padded 2 (n / 1000000 / 3600)).toList ++
      ':' :: ((Date.padded 2 (n / 1000000 / 60 % 60)).toList ++
        (marked (always || n / 1000000 % 60 ≠ 0 || n % 1000000 ≠ 0) ':' 2 (n / 1000000 % 60) ++
          marked (n % 1000000 ≠ 0) '.' 6 (n % 1000000))) := by
  have hcolon : ":".toList = [':'] := rfl
  have hpoint : ".".toList = ['.'] := rfl
  simp only [clock, String.toList_append, marked_toList hcolon, marked_toList hpoint,
    Bool.decide_eq_true]
  rw [hcolon, List.append_assoc, List.append_assoc, List.append_assoc, List.singleton_append]

/-- A mark is not a digit, so a number ends before it. -/
private theorem head_marked {mark : Char} (hmark : mark.isDigit = false) {written : Bool}
    {width n : ℕ} {rest : List Char} (hrest : ∀ c, rest.head? = some c → c.isDigit = false)
    (c : Char) (h : (marked written mark width n ++ rest).head? = some c) :
    c.isDigit = false := by
  cases written with
  | false => exact hrest c h
  | true => exact Option.some.inj h ▸ hmark

private theorem head_fraction {written : Bool} {n : ℕ} (c : Char)
    (h : (marked written '.' 6 n).head? = some c) : c.isDigit = false := by
  rw [← List.append_nil (marked written '.' 6 n)] at h
  exact head_marked (by decide) (fun c hc => by cases hc) c h

private theorem marked_injective {mark : Char} {written : Bool} {width m n : ℕ}
    (h : marked true mark width m = marked written mark width n) : m = n := by
  cases written with
  | false => cases h
  | true => exact Date.padded_injective (String.toList_injective (List.cons.inj h).2)

/-- The fraction of a second is determined by its text. -/
private theorem fraction_eq {m n : ℕ}
    (h : marked (m ≠ 0) '.' 6 m = marked (n ≠ 0) '.' 6 n) : m = n := by
  by_cases hm : m = 0
  · by_cases hn : n = 0
    · rw [hm, hn]
    · rw [decide_eq_true hn] at h
      exact (marked_injective h.symm).symm
  · rw [decide_eq_true hm] at h
    exact marked_injective h

/-- The seconds of a time are determined by its text, where they are left out only when zero. -/
private theorem rest_eq {written written' : Bool} {s t m n : ℕ}
    (hs : written = false → s = 0 ∧ m = 0) (ht : written' = false → t = 0 ∧ n = 0)
    (h : marked written ':' 2 s ++ marked (m ≠ 0) '.' 6 m =
      marked written' ':' 2 t ++ marked (n ≠ 0) '.' 6 n) : s = t ∧ m = n := by
  cases written with
  | false =>
    obtain ⟨rfl, rfl⟩ := hs rfl
    cases written' with
    | false =>
      obtain ⟨rfl, rfl⟩ := ht rfl
      exact ⟨rfl, rfl⟩
    | true => cases h
  | true =>
    cases written' with
    | false =>
      obtain ⟨rfl, rfl⟩ := ht rfl
      cases h
    | true =>
      obtain ⟨hseconds, hfraction⟩ := parts_eq_of_append
        (fun c hc => Date.isDigit_of_mem_padded hc) (fun c hc => Date.isDigit_of_mem_padded hc)
        head_fraction head_fraction (List.cons.inj h).2
      exact ⟨Date.padded_injective (String.toList_injective hseconds), fraction_eq hfraction⟩

/-- A time of day or an offset is determined by its text. -/
private theorem clock_injective {always : Bool} {m n : ℕ}
    (h : clock always m = clock always n) : m = n := by
  have hchars := congrArg String.toList h
  rw [clock_toList, clock_toList] at hchars
  have hcolon : ∀ (rest : List Char) (c : Char), (':' :: rest).head? = some c →
      c.isDigit = false := by
    rintro rest c ⟨⟩
    decide
  obtain ⟨hhours, hchars⟩ := parts_eq_of_append
    (fun c hc => Date.isDigit_of_mem_padded hc) (fun c hc => Date.isDigit_of_mem_padded hc)
    (hcolon _) (hcolon _) hchars
  obtain ⟨hminutes, hchars⟩ := parts_eq_of_append
    (fun c hc => Date.isDigit_of_mem_padded hc) (fun c hc => Date.isDigit_of_mem_padded hc)
    (head_marked (by decide) head_fraction) (head_marked (by decide) head_fraction)
    (List.cons.inj hchars).2
  have hnone : ∀ {s f : ℕ}, (always || s ≠ 0 || f ≠ 0) = false → s = 0 ∧ f = 0 := by
    intro s f hsf
    simp only [Bool.or_eq_false_iff, decide_eq_false_iff_not, not_not] at hsf
    exact ⟨hsf.1.2, hsf.2⟩
  obtain ⟨hseconds, hfraction⟩ := rest_eq hnone hnone hchars
  have hhours := Date.padded_injective (String.toList_injective hhours)
  have hminutes := Date.padded_injective (String.toList_injective hminutes)
  clear h hchars hcolon hnone
  omega

private theorem mem_clock {always : Bool} {n : ℕ} {c : Char} (h : c ∈ (clock always n).toList) :
    (c.isDigit || c = ':' || c = '.') = true := by
  have hmarked : ∀ {written : Bool} {mark : Char} {width k : ℕ},
      c ∈ marked written mark width k → c = mark ∨ c.isDigit = true := by
    intro written mark width k hc
    cases written with
    | false => cases hc
    | true =>
      rcases List.mem_cons.mp hc with hc | hc
      · exact .inl hc
      · exact .inr (Date.isDigit_of_mem_padded hc)
  rw [clock_toList] at h
  simp only [List.mem_append, List.mem_cons] at h
  simp only [Bool.or_eq_true, decide_eq_true_eq]
  rcases h with h | h | h | h | h
  · exact .inl (.inl (Date.isDigit_of_mem_padded h))
  · exact .inl (.inr h)
  · exact .inl (.inl (Date.isDigit_of_mem_padded h))
  · rcases hmarked h with h | h
    · exact .inl (.inr h)
    · exact .inl (.inl h)
  · rcases hmarked h with h | h
    · exact .inr h
    · exact .inl (.inl h)

/-- The characters of an offset, where there is one. -/
private def zone : Option ℤ → List Char
  | none => []
  | some offset => (if offset < 0 then '-' else '+') :: (clock false offset.natAbs).toList

private theorem isoformat_toList (t : Timestamp) :
    t.isoformat.toList = t.date.isoformat.toList ++
      'T' :: ((clock true t.microsecondOfDay).toList ++ zone t.utcOffset) := by
  have hmark : "T".toList = ['T'] := rfl
  have hzone : (match t.utcOffset with
      | none => ""
      | some offset =>
        (if offset < 0 then "-" else "+") ++ clock false offset.natAbs).toList =
      zone t.utcOffset := by
    rcases t.utcOffset with _ | offset
    · rfl
    · by_cases hnegative : offset < 0
      · simp only [zone, if_pos hnegative, String.toList_append]
        rfl
      · simp only [zone, if_neg hnegative, String.toList_append]
        rfl
  rw [isoformat, String.toList_append, String.toList_append, String.toList_append, hmark, hzone,
    List.append_assoc, List.append_assoc, List.singleton_append]

private theorem zone_injective {o o' : Option ℤ} (h : zone o = zone o') : o = o' := by
  rcases o with _ | offset
  · rcases o' with _ | offset'
    · rfl
    · cases h
  · rcases o' with _ | offset'
    · cases h
    · obtain ⟨hsign, hclock⟩ := List.cons.inj h
      have habs := clock_injective (String.toList_injective hclock)
      have hnegative : offset < 0 ↔ offset' < 0 := by
        by_cases hoffset : offset < 0
        · by_cases hoffset' : offset' < 0
          · exact iff_of_true hoffset hoffset'
          · rw [if_pos hoffset, if_neg hoffset'] at hsign
            exact absurd hsign (by decide)
        · by_cases hoffset' : offset' < 0
          · rw [if_neg hoffset, if_pos hoffset'] at hsign
            exact absurd hsign (by decide)
          · exact iff_of_false hoffset hoffset'
      rw [Option.some_inj]
      omega

/-- A time is written with digits and the marks between its parts. -/
theorem mem_isoformat {t : Timestamp} {c : Char} (h : c ∈ t.isoformat.toList) :
    c.isDigit = true ∨ c ∈ ['-', 'T', ':', '.', '+'] := by
  have hclock : ∀ {always : Bool} {n : ℕ}, c ∈ (clock always n).toList →
      c.isDigit = true ∨ c ∈ ['-', 'T', ':', '.', '+'] := by
    intro always n hc
    have hmem := mem_clock hc
    simp only [Bool.or_eq_true, decide_eq_true_eq] at hmem
    rcases hmem with (hdigit | rfl) | rfl
    · exact .inl hdigit
    · exact .inr (by decide)
    · exact .inr (by decide)
  rw [isoformat_toList, List.mem_append, List.mem_cons, List.mem_append] at h
  rcases h with h | rfl | h | h
  · rcases Date.isDigit_or_dash_of_mem_isoformat h with hdigit | rfl
    · exact .inl hdigit
    · exact .inr (by decide)
  · exact .inr (by decide)
  · exact hclock h
  · rcases hoffset : t.utcOffset with _ | offset
    · rw [hoffset] at h
      cases h
    · rw [hoffset, zone, List.mem_cons] at h
      rcases h with rfl | h
      · split_ifs
        · exact .inr (by decide)
        · exact .inr (by decide)
      · exact hclock h

theorem isoformat_ne_empty (t : Timestamp) : t.isoformat ≠ "" := by
  intro h
  have hchars := t.isoformat_toList
  rw [String.toList_eq_nil_iff.mpr h] at hchars
  simp at hchars

/-- The text determines the time. -/
theorem isoformat_injective {s t : Timestamp} (h : s.isoformat = t.isoformat) : s = t := by
  have hchars := congrArg String.toList h
  rw [isoformat_toList, isoformat_toList] at hchars
  have hdate : ∀ {a : Date}, ∀ c ∈ a.isoformat.toList, decide (c ≠ 'T') = true := by
    intro a c hc
    rw [decide_eq_true_iff]
    rintro rfl
    rcases Date.isDigit_or_dash_of_mem_isoformat hc with hdigit | hdash
    · exact absurd hdigit (by decide)
    · exact absurd hdash (by decide)
  have hmark : ∀ (rest : List Char) (c : Char), ('T' :: rest).head? = some c →
      decide (c ≠ 'T') = false := by
    rintro rest c ⟨⟩
    decide
  have hsign : ∀ {o : Option ℤ} (c : Char), (zone o).head? = some c →
      (c.isDigit || c = ':' || c = '.') = false := by
    intro o c hc
    rcases o with _ | offset
    · cases hc
    · rw [zone, List.head?_cons, Option.some_inj] at hc
      subst hc
      split_ifs
      · decide
      · decide
  obtain ⟨hdates, hchars⟩ := parts_eq_of_append hdate hdate (hmark _) (hmark _) hchars
  obtain ⟨hclock, hzone⟩ := parts_eq_of_append (fun c hc => mem_clock hc)
    (fun c hc => mem_clock hc) hsign hsign (List.cons.inj hchars).2
  obtain ⟨date, microsecondOfDay, utcOffset, hlt⟩ := s
  obtain rfl := Date.isoformat_injective (String.toList_injective hdates)
  obtain rfl := clock_injective (String.toList_injective hclock)
  obtain rfl := zone_injective hzone
  rfl

end Timestamp
