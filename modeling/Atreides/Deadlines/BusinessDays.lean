import Mathlib.Data.Set.Card
import Mathlib.Order.Interval.Finset.Nat
import Atreides.Deadlines.Calendar

/-!
# Counting business days

The two scans of a market calendar are inverse to each other: one walks forward to the business
day of a number, the other counts the business days up to a day. Both are walks along the days,
and stop only where the calendar of dates ends or a year without data begins.

## Main definitions

* `businessDays` — the business days after one day, up to another
* `Scan` — the walk of the loop, as its own relation
* `Reaches` — the days that the walk to a business day comes by

## Main results

* `add_business_days` — what the two scans return, and where they raise
-/

namespace Date

variable {a b c : Date}

theorem ordinal_next (h : a.next = .ok b) : b.ordinal = a.ordinal + 1 := by
  rw [next] at h
  split_ifs at h
  cases h
  rfl

theorem next_error {e : PyError} (h : a.next = .error e) :
    a.ordinal = 3652059 ∧ e = .dateOutOfRange := by
  rw [next] at h
  split_ifs at h with hrange
  cases h
  exact ⟨le_antisymm a.ordinal_le (by omega), rfl⟩

/-- The first day after a day is the next one. -/
theorem le_of_next (h : a.next = .ok b) (hlt : a < c) : b ≤ c := by
  rw [le_iff, ordinal_next h]
  exact hlt

/-- What holds of a day when it holds of the next one holds of every day. -/
theorem forward_induction {P : Date → Prop} (h : ∀ a, (∀ b, a.next = .ok b → P b) → P a)
    (a : Date) : P a := by
  generalize hleft : 3652059 - a.ordinal = left
  induction left using Nat.strong_induction_on generalizing a with
  | h left ih =>
    apply h
    intro b hb
    have hordinal := ordinal_next hb
    have hrange := b.ordinal_le
    exact ih (3652059 - b.ordinal) (by omega) b rfl

end Date

namespace Atreides

namespace MarketCalendar

/-! ## Business days -/

/-- The calendar has data for the day's year. -/
def Loaded (calendar : MarketCalendar) (day : Date) : Prop :=
  (calendar.holidays.get? day.year).isSome = true

/-- What a day of a year without data is refused with. -/
def indeterminate (calendar : MarketCalendar) (day : Date) : PyError :=
  .valueError s!"{calendar.market.value} calendar has no loaded data for {day.year}"

variable {calendar : MarketCalendar} {day start close : Date}

theorem isBusinessDay_of_not_loaded (h : ¬ calendar.Loaded day) :
    calendar.isBusinessDay day = .error (calendar.indeterminate day) := by
  rw [Loaded, Option.not_isSome_iff_eq_none] at h
  rw [isBusinessDay, h]
  rfl

theorem loaded_of_isBusinessDay {answer : Bool} (h : calendar.isBusinessDay day = .ok answer) :
    calendar.Loaded day := by
  by_contra hloaded
  rw [isBusinessDay_of_not_loaded hloaded] at h
  cases h

theorem isBusinessDay_of_loaded (h : calendar.Loaded day) :
    ∃ answer, calendar.isBusinessDay day = .ok answer := by
  obtain ⟨days, hdays⟩ := Option.isSome_iff_exists.mp h
  rw [isBusinessDay, hdays]
  exact ⟨_, rfl⟩

/-- The business days after a day, up to and including another. -/
def businessDays (calendar : MarketCalendar) (start close : Date) : Set Date :=
  {day | start < day ∧ day ≤ close ∧ calendar.isBusinessDay day = .ok true}

theorem businessDays_finite (calendar : MarketCalendar) (start close : Date) :
    (calendar.businessDays start close).Finite := by
  have hfinite : ((Set.Iic close.ordinal : Set ℕ).preimage Date.ordinal).Finite :=
    (Set.finite_Iic close.ordinal).preimage fun _ _ _ _ h => Date.ext_ordinal h
  exact hfinite.subset fun day hday => hday.2.1

theorem businessDays_self (calendar : MarketCalendar) (start : Date) :
    calendar.businessDays start start = ∅ := by
  ext day
  simp only [businessDays, Date.lt_iff, Date.le_iff, Set.mem_ofPred_eq, Set.mem_empty_iff_false,
    iff_false]
  omega

/-- The days after a day are the next one and those after it. -/
theorem ncard_businessDays_next {next : Date} {answer : Bool} (hnext : start.next = .ok next)
    (hanswer : calendar.isBusinessDay next = .ok answer) (hclose : next ≤ close) :
    (calendar.businessDays start close).ncard =
      (calendar.businessDays next close).ncard + if answer then 1 else 0 := by
  have hordinal := Date.ordinal_next hnext
  have hafter : ∀ day, start < day ↔ day = next ∨ next < day := by
    intro day
    rw [Date.lt_iff, Date.lt_iff]
    constructor
    · intro h
      rcases Nat.lt_or_ge next.ordinal day.ordinal with hlt | hge
      · exact .inr hlt
      · exact .inl (Date.ext_ordinal (by omega))
    · rintro (rfl | h)
      · omega
      · omega
  cases answer with
  | true =>
    have hinsert : calendar.businessDays start close =
        insert next (calendar.businessDays next close) := by
      ext day
      rw [Set.mem_insert_iff, businessDays, businessDays, Set.mem_ofPred_eq, Set.mem_ofPred_eq,
        hafter]
      constructor
      · rintro ⟨rfl | hlt, hle, hday⟩
        · exact .inl rfl
        · exact .inr ⟨hlt, hle, hday⟩
      · rintro (rfl | ⟨hlt, hle, hday⟩)
        · exact ⟨.inl rfl, hclose, hanswer⟩
        · exact ⟨.inr hlt, hle, hday⟩
    have hnotMem : next ∉ calendar.businessDays next close := fun h => Nat.lt_irrefl _ h.1
    rw [hinsert, Set.ncard_insert_of_notMem hnotMem (calendar.businessDays_finite next close)]
    rfl
  | false =>
    have hsame : calendar.businessDays start close = calendar.businessDays next close := by
      ext day
      rw [businessDays, businessDays, Set.mem_ofPred_eq, Set.mem_ofPred_eq, hafter]
      constructor
      · rintro ⟨rfl | hlt, hle, hday⟩
        · rw [hanswer] at hday
          cases hday
        · exact ⟨hlt, hle, hday⟩
      · rintro ⟨hlt, hle, hday⟩
        exact ⟨.inr hlt, hle, hday⟩
    rw [hsame]
    rfl

/-! ## The loop -/

/-- The loop of `addBusinessDays`: from a cursor, with the business days that remain, it leaves an
outcome. -/
inductive Scan (calendar : MarketCalendar) : Date → ℕ → Outcome Date → Prop
  | done (cursor : Date) : Scan calendar cursor 0 (.ok cursor)
  | ended {cursor : Date} {remaining : ℕ} {e : PyError} (h : cursor.next = .error e) :
    Scan calendar cursor (remaining + 1) (.error e)
  | undecided {cursor next : Date} {remaining : ℕ} {e : PyError} (hnext : cursor.next = .ok next)
    (h : calendar.isBusinessDay next = .error e) : Scan calendar cursor (remaining + 1) (.error e)
  | counted {cursor next : Date} {remaining : ℕ} {outcome : Outcome Date}
    (hnext : cursor.next = .ok next) (h : calendar.isBusinessDay next = .ok true)
    (hrest : Scan calendar next remaining outcome) : Scan calendar cursor (remaining + 1) outcome
  | passed {cursor next : Date} {remaining : ℕ} {outcome : Outcome Date}
    (hnext : cursor.next = .ok next) (h : calendar.isBusinessDay next = .ok false)
    (hrest : Scan calendar next (remaining + 1) outcome) :
    Scan calendar cursor (remaining + 1) outcome

/-- The scan for a number of business days, as far as the dates go. -/
def scanFrom (calendar : MarketCalendar) (start : Date) (n : ℕ) : Outcome Date :=
  calendar.stepForward (3652059 - start.ordinal) start n

theorem addBusinessDays_eq (start : Date) (n : ℕ) :
    calendar.addBusinessDays start n = calendar.scanFrom start n := by
  rw [addBusinessDays, if_neg (by omega), Int.toNat_natCast, scanFrom]

@[simp] theorem scanFrom_zero (start : Date) : calendar.scanFrom start 0 = .ok start := by
  rw [scanFrom, stepForward]

/-- One turn of the loop. What the dates have left never runs out before they do. -/
theorem scanFrom_succ (start : Date) (n : ℕ) :
    calendar.scanFrom start (n + 1) = (do
      let next ← start.next
      let counted ← calendar.isBusinessDay next
      calendar.scanFrom next (if counted then n else n + 1)) := by
  rw [scanFrom]
  cases hnext : start.next with
  | error e =>
    obtain ⟨hlast, rfl⟩ := Date.next_error hnext
    rw [hlast]
    rfl
  | ok next =>
    have hordinal := Date.ordinal_next hnext
    have hrange := next.ordinal_le
    have hleft : 3652059 - start.ordinal = 3652059 - next.ordinal + 1 := by omega
    rw [hleft, stepForward, hnext]
    rfl

theorem scanFrom_undecided {next : Date} {n : ℕ} {e : PyError} (hnext : start.next = .ok next)
    (h : calendar.isBusinessDay next = .error e) :
    calendar.scanFrom start (n + 1) = .error e := by
  rw [scanFrom_succ, hnext, Outcome.ok_bind, h]
  rfl

theorem scanFrom_decided {next : Date} {n : ℕ} {answer : Bool} (hnext : start.next = .ok next)
    (h : calendar.isBusinessDay next = .ok answer) :
    calendar.scanFrom start (n + 1) = calendar.scanFrom next (if answer then n else n + 1) := by
  rw [scanFrom_succ, hnext, Outcome.ok_bind, h]
  rfl

/-- The loop ends, with what the scan returns. -/
theorem scan_scanFrom (start : Date) :
    ∀ n, Scan calendar start n (calendar.scanFrom start n) := by
  induction start using Date.forward_induction with
  | h start ih =>
    intro n
    cases n with
    | zero => exact scanFrom_zero start ▸ .done start
    | succ n =>
      cases hnext : start.next with
      | error e =>
        have hscan : calendar.scanFrom start (n + 1) = .error e := by
          rw [scanFrom_succ, hnext]
          rfl
        exact hscan ▸ .ended hnext
      | ok next =>
        cases hanswer : calendar.isBusinessDay next with
        | error e => exact scanFrom_undecided hnext hanswer ▸ .undecided hnext hanswer
        | ok answer =>
          rw [scanFrom_decided hnext hanswer]
          cases answer with
          | true => exact .counted hnext hanswer (ih next hnext n)
          | false => exact .passed hnext hanswer (ih next hnext (n + 1))

/-! ## The days of a scan -/

/-- A scan ends on a day it does not pass, with the business days it was to count. -/
theorem scanFrom_spec (start : Date) :
    ∀ {n : ℕ} {day : Date}, calendar.scanFrom start n = .ok day →
      start ≤ day ∧ (calendar.businessDays start day).ncard = n ∧
        (0 < n → start < day ∧ calendar.isBusinessDay day = .ok true) := by
  induction start using Date.forward_induction with
  | h start ih =>
    intro n day h
    cases n with
    | zero =>
      rw [scanFrom_zero] at h
      cases h
      exact ⟨Nat.le_refl _, by rw [businessDays_self, Set.ncard_empty],
        fun h => absurd h (Nat.lt_irrefl 0)⟩
    | succ n =>
      rw [scanFrom_succ] at h
      obtain ⟨next, hnext, h⟩ := Outcome.bind_eq_ok.mp h
      obtain ⟨answer, hanswer, h⟩ := Outcome.bind_eq_ok.mp h
      have hordinal := Date.ordinal_next hnext
      obtain ⟨hle, hcount, hlast⟩ := ih next hnext h
      have hafter : start < day := by
        rw [Date.le_iff] at hle
        rw [Date.lt_iff]
        omega
      have htotal := ncard_businessDays_next hnext hanswer hle
      cases answer with
      | true =>
        refine ⟨Nat.le_of_lt hafter, by rw [htotal, hcount]; rfl, fun _ => ⟨hafter, ?_⟩⟩
        -- the day is the next one, or the scan went on from there
        cases n with
        | zero =>
          rw [if_pos rfl, scanFrom_zero] at h
          cases h
          exact hanswer
        | succ n => exact (hlast (Nat.succ_pos n)).2
      | false =>
        refine ⟨Nat.le_of_lt hafter, by rw [htotal, hcount]; rfl, fun _ => ⟨hafter, ?_⟩⟩
        exact (hlast (Nat.succ_pos n)).2

/-- Two scans, one after the other, are one. -/
theorem scanFrom_add (start : Date) :
    ∀ a b, calendar.scanFrom start (a + b) =
      calendar.scanFrom start a >>= fun day => calendar.scanFrom day b := by
  induction start using Date.forward_induction with
  | h start ih =>
    intro a b
    cases a with
    | zero => rw [scanFrom_zero, Nat.zero_add, Outcome.ok_bind]
    | succ a =>
      have hsum : a + 1 + b = a + b + 1 := by omega
      rw [hsum]
      cases hnext : start.next with
      | error e =>
        rw [scanFrom_succ, scanFrom_succ, hnext]
        rfl
      | ok next =>
        cases hanswer : calendar.isBusinessDay next with
        | error e =>
          rw [scanFrom_undecided hnext hanswer, scanFrom_undecided hnext hanswer]
          rfl
        | ok answer =>
          rw [scanFrom_decided hnext hanswer, scanFrom_decided hnext hanswer]
          cases answer with
          | true => exact ih next hnext a b
          | false =>
            have hrest := ih next hnext (a + 1) b
            rw [hsum] at hrest
            exact hrest

/-- Counting the days of a scan returns what it was to count. -/
theorem countForward_of_scanFrom (start : Date) :
    ∀ {n : ℕ} {day : Date} (total : ℕ), calendar.scanFrom start n = .ok day →
      calendar.countForward (day.ordinal - start.ordinal) start total = .ok (total + n) := by
  induction start using Date.forward_induction with
  | h start ih =>
    intro n day total h
    cases n with
    | zero =>
      rw [scanFrom_zero] at h
      cases h
      rw [Nat.sub_self, countForward, Nat.add_zero]
    | succ n =>
      rw [scanFrom_succ] at h
      obtain ⟨next, hnext, h⟩ := Outcome.bind_eq_ok.mp h
      obtain ⟨answer, hanswer, h⟩ := Outcome.bind_eq_ok.mp h
      have hordinal := Date.ordinal_next hnext
      have hle := Date.le_iff.mp (scanFrom_spec next h).1
      have hdays : day.ordinal - start.ordinal = day.ordinal - next.ordinal + 1 := by omega
      rw [hdays, countForward, hnext, Outcome.ok_bind, hanswer, Outcome.ok_bind,
        ih next hnext _ h]
      cases answer with
      | true =>
        congr 1
        simp only [if_pos]
        omega
      | false => rfl

theorem businessDaysAfter_of_scanFrom {n : ℕ} (h : calendar.scanFrom start n = .ok day) :
    calendar.businessDaysAfter start day = .ok n := by
  rw [businessDaysAfter]
  split_ifs with hle
  · -- a scan that does not move counts nothing
    cases n with
    | zero => rfl
    | succ n =>
      have hlt := ((scanFrom_spec start h).2.2 (Nat.succ_pos n)).1
      exact absurd hle (Nat.not_le_of_lt hlt)
  · rw [countForward_of_scanFrom start 0 h, Nat.zero_add]

/-! ## Days that cannot be decided -/

/-- The scan for a number of business days comes by a day: until the day before it every day after
the start had data, and the business days were fewer. -/
def Reaches (calendar : MarketCalendar) (start : Date) (n : ℕ) (day : Date) : Prop :=
  start < day ∧ ∀ earlier, start ≤ earlier → earlier < day →
    (start < earlier → calendar.Loaded earlier) ∧
      (calendar.businessDays start earlier).ncard < n

theorem not_reaches_zero (start day : Date) : ¬ calendar.Reaches start 0 day := by
  intro h
  have hstart := (h.2 start (Nat.le_refl _) h.1).2
  exact Nat.not_lt_zero _ hstart

/-- The next day is reached, and past it, where it has data, what a scan from there reaches. -/
theorem reaches_next {next : Date} {n : ℕ} {answer : Bool} (hnext : start.next = .ok next)
    (hanswer : calendar.isBusinessDay next = .ok answer) (hday : day ≠ next) :
    calendar.Reaches start (n + 1) day ↔
      calendar.Reaches next (if answer then n else n + 1) day := by
  have hordinal := Date.ordinal_next hnext
  have hne : day.ordinal ≠ next.ordinal := fun h => hday (Date.ext_ordinal h)
  constructor
  · rintro ⟨hlt, hall⟩
    rw [Date.lt_iff] at hlt
    refine ⟨by rw [Date.lt_iff]; omega, ?_⟩
    intro earlier hle hearlier
    rw [Date.le_iff] at hle
    have hafter : start < earlier := by
      rw [Date.lt_iff]
      omega
    obtain ⟨hloaded, hcount⟩ := hall earlier (Nat.le_of_lt hafter) hearlier
    rw [ncard_businessDays_next hnext hanswer hle] at hcount
    refine ⟨fun _ => hloaded hafter, ?_⟩
    cases answer with
    | true =>
      simp only [if_pos] at hcount ⊢
      omega
    | false => exact hcount
  · rintro ⟨hlt, hall⟩
    rw [Date.lt_iff] at hlt
    refine ⟨by rw [Date.lt_iff]; omega, ?_⟩
    intro earlier hle hearlier
    rw [Date.le_iff] at hle
    rcases Nat.eq_or_lt_of_le hle with hsame | hafter
    · cases Date.ext_ordinal hsame
      refine ⟨fun h => absurd h (Nat.lt_irrefl _), ?_⟩
      rw [businessDays_self, Set.ncard_empty]
      exact Nat.succ_pos n
    · have hle' : next ≤ earlier := Date.le_of_next hnext hafter
      obtain ⟨hloaded, hcount⟩ := hall earlier hle' hearlier
      rw [ncard_businessDays_next hnext hanswer hle']
      constructor
      · intro _
        rcases Nat.eq_or_lt_of_le hle' with hsame | hlt'
        · cases Date.ext_ordinal hsame
          exact loaded_of_isBusinessDay hanswer
        · exact hloaded hlt'
      · cases answer with
        | true =>
          simp only [if_pos] at hcount ⊢
          omega
        | false => exact hcount

/-- A scan is refused exactly at the day without data that it reaches. -/
theorem scanFrom_indeterminate_iff (start : Date) :
    ∀ n, (∃ day, calendar.scanFrom start n = .error (calendar.indeterminate day)) ↔
      ∃ day, calendar.Reaches start n day ∧ ¬ calendar.Loaded day := by
  induction start using Date.forward_induction with
  | h start ih =>
    intro n
    cases n with
    | zero =>
      constructor
      · rintro ⟨day, h⟩
        rw [scanFrom_zero] at h
        cases h
      · rintro ⟨day, h, -⟩
        exact absurd h (not_reaches_zero start day)
    | succ n =>
      cases hnext : start.next with
      | error e =>
        obtain ⟨hlast, rfl⟩ := Date.next_error hnext
        constructor
        · rintro ⟨day, h⟩
          rw [scanFrom_succ, hnext] at h
          cases h
        · rintro ⟨day, h, -⟩
          have hlt := Date.lt_iff.mp h.1
          have hrange := day.ordinal_le
          omega
      | ok next =>
        by_cases hloaded : calendar.Loaded next
        · obtain ⟨answer, hanswer⟩ := isBusinessDay_of_loaded hloaded
          rw [scanFrom_decided hnext hanswer, ih next hnext]
          apply exists_congr
          intro day
          apply and_congr_left
          intro hday
          have hne : day ≠ next := fun h => hday (h ▸ hloaded)
          exact (reaches_next hnext hanswer hne).symm
        · have hrefused := isBusinessDay_of_not_loaded hloaded
          have hordinal := Date.ordinal_next hnext
          constructor
          · intro _
            refine ⟨next, ⟨by rw [Date.lt_iff]; omega, ?_⟩, hloaded⟩
            intro earlier hle hlt
            -- only the start is before the next day
            rw [Date.le_iff] at hle
            rw [Date.lt_iff] at hlt
            have hsame : start = earlier := Date.ext_ordinal (by omega)
            cases hsame
            refine ⟨fun h => absurd h (Nat.lt_irrefl _), ?_⟩
            rw [businessDays_self, Set.ncard_empty]
            exact Nat.succ_pos n
          · intro _
            exact ⟨next, scanFrom_undecided hnext hrefused⟩

/-- A count is refused exactly where one of the days it counts has no data. -/
theorem countForward_indeterminate_iff (start : Date) :
    ∀ {close : Date} (total : ℕ), start ≤ close →
      ((∃ day, calendar.countForward (close.ordinal - start.ordinal) start total =
          .error (calendar.indeterminate day)) ↔
        ∃ day, start < day ∧ day ≤ close ∧ ¬ calendar.Loaded day) := by
  induction start using Date.forward_induction with
  | h start ih =>
    intro close total hle
    rw [Date.le_iff] at hle
    rcases Nat.eq_or_lt_of_le hle with hsame | hlt
    · cases Date.ext_ordinal hsame
      constructor
      · rintro ⟨day, h⟩
        rw [Nat.sub_self, countForward] at h
        cases h
      · rintro ⟨day, hafter, hbefore, -⟩
        exact absurd hbefore (Nat.not_le_of_lt hafter)
    · cases hnext : start.next with
      | error e =>
        obtain ⟨hlast, -⟩ := Date.next_error hnext
        have hrange := close.ordinal_le
        omega
      | ok next =>
        have hordinal := Date.ordinal_next hnext
        have hclose : next ≤ close := Date.le_of_next hnext hlt
        have hdays : close.ordinal - start.ordinal = close.ordinal - next.ordinal + 1 := by omega
        rw [hdays, countForward, hnext, Outcome.ok_bind]
        by_cases hloaded : calendar.Loaded next
        · obtain ⟨answer, hanswer⟩ := isBusinessDay_of_loaded hloaded
          rw [hanswer, Outcome.ok_bind, ih next hnext _ hclose]
          constructor
          · rintro ⟨day, hafter, hbefore, hday⟩
            rw [Date.lt_iff] at hafter
            exact ⟨day, by rw [Date.lt_iff]; omega, hbefore, hday⟩
          · rintro ⟨day, hafter, hbefore, hday⟩
            have hle' : next ≤ day := Date.le_of_next hnext hafter
            have hne : next.ordinal ≠ day.ordinal := fun heq =>
              hday (Date.ext_ordinal heq ▸ hloaded)
            exact ⟨day, Nat.lt_of_le_of_ne hle' hne, hbefore, hday⟩
        · rw [isBusinessDay_of_not_loaded hloaded]
          constructor
          · intro _
            exact ⟨next, by rw [Date.lt_iff]; omega, hclose, hloaded⟩
          · intro _
            exact ⟨next, rfl⟩

/-! ## The two scans -/

/-- What `addBusinessDays` and `businessDaysAfter` return on any calendar, and where they raise for
want of data. -/
theorem add_business_days (calendar : MarketCalendar) (start : Date) :
    (∀ n : ℕ, Scan calendar start n (calendar.addBusinessDays start n)) ∧
    (∀ (n : ℕ) (day : Date), 0 < n → calendar.addBusinessDays start n = .ok day →
      start < day ∧ calendar.isBusinessDay day = .ok true ∧
        (calendar.businessDays start day).ncard = n) ∧
    (∀ a b : ℕ, calendar.addBusinessDays start (a + b) =
      calendar.addBusinessDays start a >>= fun day => calendar.addBusinessDays day b) ∧
    (∀ (a b : ℕ) (earlier later : Date), a < b → calendar.addBusinessDays start a = .ok earlier →
      calendar.addBusinessDays start b = .ok later → earlier < later) ∧
    (∀ (n : ℕ) (day : Date), calendar.addBusinessDays start n = .ok day →
      calendar.businessDaysAfter start day = .ok n) ∧
    (∀ n : ℕ, (∃ day, calendar.addBusinessDays start n = .error (calendar.indeterminate day)) ↔
      ∃ day, calendar.Reaches start n day ∧ ¬ calendar.Loaded day) ∧
    (∀ close : Date,
      (∃ day, calendar.businessDaysAfter start close = .error (calendar.indeterminate day)) ↔
        ∃ day, start < day ∧ day ≤ close ∧ ¬ calendar.Loaded day) := by
  have hcast : ∀ a b : ℕ, (a : ℤ) + (b : ℤ) = ((a + b : ℕ) : ℤ) := fun a b => by omega
  simp only [hcast, addBusinessDays_eq]
  refine ⟨scan_scanFrom start, ?_, scanFrom_add start, ?_, ?_, scanFrom_indeterminate_iff start, ?_⟩
  · intro n day hn h
    obtain ⟨-, hcount, hlast⟩ := scanFrom_spec start h
    exact ⟨(hlast hn).1, (hlast hn).2, hcount⟩
  · intro a b earlier later hlt hearlier hlater
    obtain ⟨more, rfl⟩ := Nat.exists_eq_add_of_lt hlt
    rw [Nat.add_assoc, scanFrom_add, hearlier, Outcome.ok_bind] at hlater
    exact ((scanFrom_spec earlier hlater).2.2 (Nat.succ_pos more)).1
  · intro n day h
    exact businessDaysAfter_of_scanFrom h
  · intro close
    rw [businessDaysAfter]
    split_ifs with hle
    · constructor
      · rintro ⟨day, h⟩
        cases h
      · rintro ⟨day, hafter, hbefore, -⟩
        rw [Date.lt_iff] at hafter
        rw [Date.le_iff] at hle hbefore
        omega
    · have hlt : start ≤ close := by
        rw [Date.le_iff] at hle ⊢
        omega
      exact countForward_indeterminate_iff start 0 hlt

/-- A year with one holiday, on a Monday in May. -/
def springCalendar : MarketCalendar where
  market := .usGovernmentSecurities
  holidays := .ofPairs [(2026, [.of 2026 5 25])]
  datesMatchYears := by decide +kernel

/-- The first business day after the Friday before the holiday is the Tuesday after it. -/
theorem add_business_days_spring :
    (springCalendar.businessDays (.of 2026 5 22) (.of 2026 5 26)).ncard = 1 ∧
      springCalendar.businessDaysAfter (.of 2026 5 22) (.of 2026 5 26) = .ok 1 := by
  have hresult : springCalendar.addBusinessDays (.of 2026 5 22) (1 : ℕ) = .ok (.of 2026 5 26) := by
    decide +kernel
  obtain ⟨-, hnth, -, -, hinverse, -, -⟩ := add_business_days springCalendar (.of 2026 5 22)
  exact ⟨(hnth 1 _ Nat.one_pos hresult).2.2, hinverse 1 _ hresult⟩

end MarketCalendar

end Atreides
