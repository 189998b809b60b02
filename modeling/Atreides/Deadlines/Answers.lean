import Atreides.Deadlines.BusinessDays
import Atreides.Deadlines.Rule204
import Atreides.Deadlines.Spelling
import Mathlib.Tactic.IntervalCases

/-!
# When an advisory answers

Each advisory refuses to count before it has its rules, a calendar, and the opening it counts from,
and says what is missing. Once it counts, nothing is absorbed: a parameter that is not whole, a year
the calendar has no data for, a day past the calendar's end, and an opening that the rule did not
ask for all escape as exceptions. For each advisory, when it answers is determined.

## Main definitions

* `ReserveDeposit.Asked`, `Rule204.Asked`, `Acats.Asked`, `SecurityCount.Asked` — the advisory
  counts
* `ReserveDeposit.Countable` and its siblings — what it counts with can be counted
* `ReserveDeposit.Answers` and its siblings — it answers, and passes only on what is known

## Main results

* `MarketCalendar.addBusinessDays_returns_iff` — when the calendar counts to a day
* `deadlines_answer_iff` — each advisory answers exactly where it can count
-/

/-! ## Later dates and times -/

namespace Date

theorem addDays_returns_iff {a : Date} {days : ℤ} :
    (a.addDays days).Returns ↔ 1 ≤ a.ordinal + days ∧ a.ordinal + days ≤ 3652059 := by
  rw [addDays]
  split_ifs with h
  · exact iff_of_true ⟨_, rfl⟩ h
  · exact iff_of_false (by rintro ⟨b, hb⟩; cases hb) h

theorem day_pos (a : Date) : 0 < a.day := by
  have hyear := a.daysBeforeYear_lt
  have hpos : 0 < a.dayOfYear := by
    simp only [dayOfYear]
    omega
  have hmonth : daysBeforeMonth a.year a.month < a.dayOfYear :=
    daysBeforeMonth_monthUpTo_lt hpos 12
  simp only [day]
  omega

/-- The months of a year do not go past its end. -/
theorem daysBeforeMonth_add_daysInMonth_le (y : ℕ) {m : ℕ} (hpos : 1 ≤ m) (hle : m ≤ 12) :
    daysBeforeMonth y m + daysInMonth y m ≤ if isLeap y then 366 else 365 := by
  rw [daysInMonth]
  interval_cases m <;> simp only [daysBeforeMonth] <;> cases isLeap y <;> decide

/-- A day of a month of a year that dates reach is a date. -/
theorem ordinalOf_range {y m d : ℕ} (hy : 1 ≤ y ∧ y ≤ 9999) (hm : 1 ≤ m ∧ m ≤ 12)
    (hd : 1 ≤ d ∧ d ≤ daysInMonth y m) : 1 ≤ ordinalOf y m d ∧ ordinalOf y m d ≤ 3652059 := by
  have hmonth := daysBeforeMonth_add_daysInMonth_le y hm.1 hm.2
  rw [ordinalOf]
  refine ⟨by omega, ?_⟩
  obtain rfl | hlt := eq_or_lt_of_le hy.2
  · -- the last year has no leap day
    have hlast : isLeap 9999 = false := by decide
    have hbefore : daysBeforeYear 9999 = 3651694 := by decide
    simp only [hlast, Bool.false_eq_true, if_false] at hmonth
    omega
  · have hbefore : daysBeforeYear y ≤ 3651329 := by
      rw [daysBeforeYear]
      omega
    split_ifs at hmonth <;> omega

theorem addMonths_returns_iff {start : Date} {months : ℤ} :
    (start.addMonths months).Returns ↔
      1 ≤ start.year + ((start.month - 1 : ℤ) + months) / 12 ∧
        start.year + ((start.month - 1 : ℤ) + months) / 12 ≤ 9999 := by
  rw [addMonths]
  generalize hyear : (start.year : ℤ) + ((start.month - 1 : ℤ) + months) / 12 = year
  generalize hmonth : (((start.month - 1 : ℤ) + months) % 12).toNat + 1 = month
  have hmonths : 1 ≤ month ∧ month ≤ 12 := by omega
  split_ifs with hrange hvalid
  · exact iff_of_false (by rintro ⟨b, hb⟩; cases hb) (by omega)
  · exact iff_of_true ⟨_, rfl⟩ (by omega)
  · -- the day is one of the month
    have hyears : 1 ≤ year.toNat ∧ year.toNat ≤ 9999 := by omega
    have hday : 1 ≤ min start.day (daysInMonth year.toNat month) := by
      have hpos := start.day_pos
      have hlong : 1 ≤ daysInMonth year.toNat month := by
        obtain ⟨hfirst, hlast⟩ := hmonths
        rw [daysInMonth]
        clear hmonth
        interval_cases month <;> simp only [daysBeforeMonth] <;> cases isLeap year.toNat <;> decide
      omega
    exact absurd (ordinalOf_range hyears hmonths ⟨hday, min_le_right _ _⟩) hvalid

end Date

namespace Timestamp

theorem addHours_returns_iff {t : Timestamp} {hours : ℤ} :
    (t.addHours hours).Returns ↔
      1 ≤ t.date.ordinal + (t.microsecondOfDay + hours * 3600000000) / microsecondsPerDay ∧
        t.date.ordinal + (t.microsecondOfDay + hours * 3600000000) / microsecondsPerDay ≤
          3652059 := by
  rw [← Date.addDays_returns_iff]
  constructor
  · rintro ⟨later, h⟩
    exact ⟨later.date, (addHours_eq_ok.mp h).1⟩
  · rintro ⟨date, hdate⟩
    rw [addHours]
    simp only [hdate, Outcome.ok_bind]
    exact ⟨_, rfl⟩

end Timestamp

namespace Atreides

/-! ## Counting business days -/

namespace MarketCalendar

variable {calendar : MarketCalendar}

/-- The scan ends on a day exactly where some day is as many business days away, and every year on
the way to it has data. -/
theorem scanFrom_returns_iff (start : Date) :
    ∀ n, (calendar.scanFrom start n).Returns ↔
      ∃ close, start ≤ close ∧ (∀ day, start < day → day ≤ close → calendar.Loaded day) ∧
        (calendar.businessDays start close).ncard = n := by
  induction start using Date.forward_induction with
  | h start ih =>
    intro n
    cases n with
    | zero =>
      rw [scanFrom_zero]
      refine iff_of_true ⟨start, rfl⟩ ⟨start, Nat.le_refl _, ?_, ?_⟩
      · intro day hafter hbefore
        rw [Date.lt_iff] at hafter
        rw [Date.le_iff] at hbefore
        omega
      · rw [businessDays_self, Set.ncard_empty]
    | succ n =>
      -- a day that is some business days away is not the first one
      have hmoves : ∀ close, start ≤ close →
          (calendar.businessDays start close).ncard = n + 1 → start < close := by
        intro close hclose hcount
        by_contra hstill
        have hsame : close = start := by
          apply Date.ext_ordinal
          rw [Date.le_iff] at hclose
          rw [Date.lt_iff] at hstill
          omega
        rw [hsame, businessDays_self, Set.ncard_empty] at hcount
        omega
      cases hnext : start.next with
      | error e =>
        rw [scanFrom_succ, hnext]
        apply iff_of_false
        · rintro ⟨day, h⟩
          cases h
        · rintro ⟨close, hclose, -, hcount⟩
          have hlt := hmoves close hclose hcount
          have hend := (Date.next_error hnext).1
          have hle := close.ordinal_le
          rw [Date.lt_iff] at hlt
          omega
      | ok next =>
        have hordinal := Date.ordinal_next hnext
        have hfirst : start < next := by
          rw [Date.lt_iff]
          omega
        by_cases hloaded : calendar.Loaded next
        · obtain ⟨answer, hanswer⟩ := isBusinessDay_of_loaded hloaded
          rw [scanFrom_decided hnext hanswer, ih next hnext]
          constructor
          · rintro ⟨close, hclose, hdata, hcount⟩
            refine ⟨close, ?_, ?_, ?_⟩
            · rw [Date.le_iff] at hclose ⊢
              omega
            · intro day hafter hbefore
              by_cases hday : day = next
              · rw [hday]
                exact hloaded
              · have hne : day.ordinal ≠ next.ordinal := fun h => hday (Date.ext_ordinal h)
                rw [Date.lt_iff] at hafter
                exact hdata day (by rw [Date.lt_iff]; omega) hbefore
            · rw [ncard_businessDays_next hnext hanswer hclose, hcount]
              split_ifs <;> rfl
          · rintro ⟨close, hclose, hdata, hcount⟩
            have hlater := Date.le_of_next hnext (hmoves close hclose hcount)
            refine ⟨close, hlater, ?_, ?_⟩
            · intro day hafter hbefore
              rw [Date.lt_iff] at hafter
              exact hdata day (by rw [Date.lt_iff]; omega) hbefore
            · rw [ncard_businessDays_next hnext hanswer hlater] at hcount
              split_ifs at hcount ⊢ <;> omega
        · rw [scanFrom_undecided hnext (isBusinessDay_of_not_loaded hloaded)]
          apply iff_of_false
          · rintro ⟨day, h⟩
            cases h
          · rintro ⟨close, hclose, hdata, hcount⟩
            exact hloaded (hdata next hfirst
              (Date.le_of_next hnext (hmoves close hclose hcount)))

/-- The calendar counts to a day exactly where some day is as many business days away, and every
year on the way to it has data. -/
theorem addBusinessDays_returns_iff (start : Date) (n : ℕ) :
    (calendar.addBusinessDays start n).Returns ↔
      ∃ close, start ≤ close ∧ (∀ day, start < day → day ≤ close → calendar.Loaded day) ∧
        (calendar.businessDays start close).ncard = n := by
  rw [addBusinessDays_eq]
  exact scanFrom_returns_iff start n

end MarketCalendar

/-! ## The reserve deposit -/

namespace ReserveDeposit

/-- The deposit is counted: its basis has a rule, and the calendar, an opening of banking business
with an offset and the units are there. -/
structure Asked (basis : Option String) (table : DeadlineRuleTable)
    (calendar : Option DeadlineCalendar) (bankingOpen : Option BankingOpen)
    (counting : DeadlineCalendar) (opening : BankingOpen) (basisRule offsetRule : DeadlineRule) :
    Prop where
  basisRule_eq : ∃ named, basis.bind ReserveComputationBasis.ofValue = some named ∧
    table.get named.ruleId = some basisRule
  offsetRule_eq : table.get offsetRuleId = some offsetRule
  calendar_eq : calendar = some counting
  bankingOpen_eq : bankingOpen = some opening
  opening_aware : opening.utcOffset ≠ none
  basisRule_unit : basisRule.unit = .businessDays
  offsetRule_unit : offsetRule.unit = .clockTime

/-- The parameters are whole, the calendar counts to a day, and the hours after the opening of that
day do not leave the dates. -/
def CountsTo (counting : DeadlineCalendar) (opening : BankingOpen)
    (basisRule offsetRule : DeadlineRule) (computed due : Date) : Prop :=
  basisRule.value.isWhole ∧ offsetRule.value.isWhole ∧
    counting.addBusinessDays computed basisRule.value.truncate = .ok due ∧
      let days := (opening.microsecondOfDay + offsetRule.value.truncate * 3600000000) /
        microsecondsPerDay
      1 ≤ due.ordinal + days ∧ due.ordinal + days ≤ 3652059

/-- Where the deposit is counted, it can be. -/
def Countable (computation : ReserveComputation) (table : DeadlineRuleTable)
    (calendar : Option DeadlineCalendar) (bankingOpen : Option BankingOpen) : Prop :=
  ∀ counting opening basisRule offsetRule,
    Asked computation.basis table calendar bankingOpen counting opening basisRule offsetRule →
      ∃ due, CountsTo counting opening basisRule offsetRule computation.computedAt.date due

/-- The advisory answers, and passes only with everything it counts with, before the due time. -/
def Answers (computation : ReserveComputation) (table : DeadlineRuleTable)
    (evaluatedAt : Timestamp) (calendar : Option DeadlineCalendar)
    (bankingOpen : Option BankingOpen) (outcome : Outcome ReserveDepositAssessment) : Prop :=
  ∃ assessment, outcome = .ok assessment ∧ (assessment.disposition = .pass →
    ∃ counting opening basisRule offsetRule day due,
      Asked computation.basis table calendar bankingOpen counting opening basisRule offsetRule ∧
        CountsTo counting opening basisRule offsetRule computation.computedAt.date day ∧
          assessment.dueAt = some due ∧
            due.instant = dueInstant opening offsetRule.value.truncate day ∧
              evaluatedAt.instant ≤ due.instant)

variable {computation : ReserveComputation} {table : DeadlineRuleTable} {evaluatedAt : Timestamp}
  {calendar : Option DeadlineCalendar} {bankingOpen : Option BankingOpen}
  {counting : DeadlineCalendar} {opening : BankingOpen} {basisRule offsetRule : DeadlineRule}

theorem assess_asked
    (h : Asked computation.basis table calendar bankingOpen counting opening basisRule offsetRule) :
    assess computation table evaluatedAt calendar bankingOpen =
      dated computation table evaluatedAt counting opening basisRule offsetRule := by
  obtain ⟨named, hnamed, hbasisRule⟩ := h.basisRule_eq
  obtain ⟨text, htext, hvalue⟩ := Option.bind_eq_some_iff.mp hnamed
  have hunits : ¬ (basisRule.unit ≠ .businessDays ∨ offsetRule.unit ≠ .clockTime) := by
    simp [h.basisRule_unit, h.offsetRule_unit]
  rw [assess, htext]
  simp only [hvalue, ofBasis, hbasisRule, h.offsetRule_eq, h.calendar_eq, h.bankingOpen_eq,
    if_neg h.opening_aware, if_neg hunits]

/-- A deposit that is not counted is answered, and does not pass. -/
theorem assess_unasked
    (h : ∀ counting opening basisRule offsetRule, ¬ Asked computation.basis table calendar
      bankingOpen counting opening basisRule offsetRule) :
    ∃ assessment, assess computation table evaluatedAt calendar bankingOpen = .ok assessment ∧
      assessment.disposition ≠ .pass := by
  rw [assess]
  cases htext : computation.basis with
  | none => exact ⟨_, rfl, fun h => by cases h⟩
  | some text =>
    dsimp only
    cases hvalue : ReserveComputationBasis.ofValue text with
    | none => exact ⟨_, rfl, fun h => by cases h⟩
    | some named =>
      dsimp only
      rw [ofBasis]
      cases hbasisRule : table.get named.ruleId with
      | none => exact ⟨_, rfl, fun h => by cases h⟩
      | some basisRule =>
        cases hoffsetRule : table.get offsetRuleId with
        | none => exact ⟨_, rfl, fun h => by cases h⟩
        | some offsetRule =>
          cases bankingOpen with
          | none => exact ⟨_, rfl, fun h => by cases h⟩
          | some opening =>
            dsimp only
            by_cases hopening : opening.utcOffset = none
            · rw [if_pos hopening]
              exact ⟨_, rfl, fun h => by cases h⟩
            · rw [if_neg hopening]
              cases calendar with
              | none => exact ⟨_, rfl, fun h => by cases h⟩
              | some counting =>
                dsimp only
                by_cases hunits : basisRule.unit ≠ .businessDays ∨ offsetRule.unit ≠ .clockTime
                · rw [if_pos hunits]
                  exact ⟨_, rfl, fun h => by cases h⟩
                · rw [not_or, not_not, not_not] at hunits
                  exact absurd ⟨⟨named, by rw [htext, Option.bind_some, hvalue], hbasisRule⟩,
                    hoffsetRule, rfl, rfl, hopening, hunits.1, hunits.2⟩
                    (h counting opening basisRule offsetRule)

/-- The due time is known exactly where it can be counted. -/
theorem dueAt_returns_iff {computed : Date} :
    (dueAt counting opening basisRule offsetRule computed).Returns ↔
      ∃ day, CountsTo counting opening basisRule offsetRule computed day := by
  constructor
  · rintro ⟨t, h⟩
    obtain ⟨hbasis, hoffset, day, hday, hhours⟩ := dueAt_eq_ok.mp h
    exact ⟨day, hbasis, hoffset, hday, Timestamp.addHours_returns_iff.mp ⟨t, hhours⟩⟩
  · rintro ⟨day, hbasis, hoffset, hday, hrange⟩
    obtain ⟨t, hhours⟩ := Timestamp.addHours_returns_iff (t := opening.on day).mpr hrange
    exact ⟨t, dueAt_eq_ok.mpr ⟨hbasis, hoffset, day, hday, hhours⟩⟩

/-- An assessment with a due time passes up to that time. -/
theorem dated_of_due (hopening : opening.utcOffset ≠ none)
    (hevaluated : evaluatedAt.utcOffset.isSome) {due : Timestamp}
    (hdue : dueAt counting opening basisRule offsetRule computation.computedAt.date = .ok due) :
    ∃ assessment, dated computation table evaluatedAt counting opening basisRule offsetRule =
      .ok assessment ∧ assessment.dueAt = some due ∧
        (assessment.disposition = .pass → evaluatedAt.instant ≤ due.instant) := by
  obtain ⟨-, -, day, -, hday⟩ := dueAt_eq_ok.mp hdue
  have haware : due.utcOffset.isSome := by
    rw [(instant_addHours hday).2]
    exact Option.isSome_iff_ne_none.mpr hopening
  rw [dated, hdue, Outcome.ok_bind, Timestamp.isBefore_of_aware haware hevaluated, Outcome.ok_bind]
  refine ⟨_, rfl, rfl, ?_⟩
  intro hpass
  by_contra hlate
  have hbefore : decide (due.instant < evaluatedAt.instant) = true := by
    rw [decide_eq_true_eq]
    omega
  simp only [hbefore, if_true] at hpass
  cases hpass

/-- The advisory answers exactly where it can count. -/
theorem answered_iff (load : Date → Outcome DeadlineRuleTable) {given : Option DeadlineRuleTable}
    (hloaded : tableFor load given evaluatedAt = .ok table)
    (hevaluated : evaluatedAt.utcOffset.isSome) :
    Answers computation table evaluatedAt calendar bankingOpen
        (assessReserveDeposit load computation evaluatedAt calendar bankingOpen given) ↔
      Countable computation table calendar bankingOpen := by
  have hassess : assessReserveDeposit load computation evaluatedAt calendar bankingOpen given =
      assess computation table evaluatedAt calendar bankingOpen := by
    rw [assessReserveDeposit, hloaded, recordAware_of_aware hevaluated]
    simp only [Outcome.ok_bind]
    cases assess computation table evaluatedAt calendar bankingOpen <;> rfl
  rw [hassess]
  constructor
  · rintro ⟨assessment, hok, -⟩ counting opening basisRule offsetRule hasked
    rw [assess_asked hasked, dated] at hok
    obtain ⟨due, hdue, -⟩ := Outcome.bind_eq_ok.mp hok
    exact dueAt_returns_iff.mp ⟨due, hdue⟩
  · intro hcountable
    by_cases hasked : ∃ counting opening basisRule offsetRule, Asked computation.basis table
        calendar bankingOpen counting opening basisRule offsetRule
    · obtain ⟨counting, opening, basisRule, offsetRule, hasked⟩ := hasked
      obtain ⟨due, hdue⟩ :=
        dueAt_returns_iff.mpr (hcountable counting opening basisRule offsetRule hasked)
      obtain ⟨hbasis, hoffset, day, hday, hhours⟩ := dueAt_eq_ok.mp hdue
      rw [assess_asked hasked]
      obtain ⟨assessment, hok, hdueAt, hpass⟩ := dated_of_due hasked.opening_aware hevaluated hdue
      refine ⟨assessment, hok, ?_⟩
      intro hpassed
      exact ⟨counting, opening, basisRule, offsetRule, day, due, hasked,
        ⟨hbasis, hoffset, hday, Timestamp.addHours_returns_iff.mp ⟨due, hhours⟩⟩, hdueAt,
        (instant_addHours hhours).1, hpass hpassed⟩
    · push Not at hasked
      obtain ⟨assessment, hok, hheld⟩ := assess_unasked hasked
      exact ⟨assessment, hok, fun hpassed => absurd hpassed hheld⟩

end ReserveDeposit

/-! ## The close-out of a fail to deliver -/

namespace Rule204

/-- The close-out is counted: its origin has a rule, and the opening of trading that the rule asks
for is there, with an offset. -/
structure Asked (originClass : Option String) (table : DeadlineRuleTable)
    (regularTradingOpen : Option TradingOpen) (rule : DeadlineRule) : Prop where
  rule_eq : ∃ origin, originClass.bind Rule204Origin.ofValue = some origin ∧
    table.get origin.ruleId = some rule
  open_aware : rule.requiresCallerOpeningTime = true → aware regularTradingOpen = true

/-- The calendar counts to a day, or the days after the trade do not leave the dates. -/
def CountsTo (fail : Rule204Fail) (calendar : Option DeadlineCalendar) (rule : DeadlineRule)
    (day : Date) : Prop :=
  (rule.unit = .settlementDays ∧ ∃ counting, calendar = some counting ∧
    counting.addSettlementDays fail.settlementDate rule.value.truncate = .ok day) ∨
  (rule.unit = .calendarDays ∧ (day.ordinal : ℤ) = fail.tradeDate.ordinal + rule.value.truncate)

/-- The units of the rule leave a day to count to, and there is a calendar where one is needed. -/
def Dated (calendar : Option DeadlineCalendar) (rule : DeadlineRule) : Prop :=
  (rule.unit = .settlementDays ∧ calendar ≠ none) ∨ rule.unit = .calendarDays

/-- Where the close-out is counted, its parameter is whole; and where there is a day to count to,
the day can be counted to, and the opening of trading is there with an offset, also where the rule
did not ask for one. -/
def Countable (fail : Rule204Fail) (table : DeadlineRuleTable)
    (calendar : Option DeadlineCalendar) (regularTradingOpen : Option TradingOpen) : Prop :=
  ∀ rule, Asked fail.originClass table regularTradingOpen rule → rule.value.isWhole ∧
    (Dated calendar rule → aware regularTradingOpen = true ∧ ∃ day, CountsTo fail calendar rule day)

/-- The advisory answers, and passes only with everything it counts with, before the due time. -/
def Answers (fail : Rule204Fail) (table : DeadlineRuleTable) (evaluatedAt : Timestamp)
    (calendar : Option DeadlineCalendar) (regularTradingOpen : Option TradingOpen)
    (outcome : Outcome Rule204Assessment) : Prop :=
  ∃ assessment, outcome = .ok assessment ∧ (assessment.disposition = .pass →
    ∃ rule opening day due, Asked fail.originClass table regularTradingOpen rule ∧
      rule.value.isWhole ∧ CountsTo fail calendar rule day ∧
        regularTradingOpen = some opening ∧ assessment.dueAt = some due ∧
          due = ReserveDeposit.BankingOpen.on opening day ∧ due.utcOffset.isSome ∧
            evaluatedAt.instant ≤ due.instant)

variable {fail : Rule204Fail} {table : DeadlineRuleTable} {evaluatedAt : Timestamp}
  {calendar : Option DeadlineCalendar} {regularTradingOpen : Option TradingOpen}
  {rule : DeadlineRule} {origin : Rule204Origin}

theorem assess_asked (h : Asked fail.originClass table regularTradingOpen rule) :
    ∃ ruleId, assess fail table evaluatedAt calendar regularTradingOpen =
      closeOut fail table evaluatedAt ruleId rule calendar regularTradingOpen := by
  obtain ⟨origin, horigin, hrule⟩ := h.rule_eq
  obtain ⟨text, htext, hvalue⟩ := Option.bind_eq_some_iff.mp horigin
  refine ⟨origin.ruleId, ?_⟩
  have hasked : ¬ (rule.requiresCallerOpeningTime && !aware regularTradingOpen) = true := by
    have haware := h.open_aware
    cases hrequires : rule.requiresCallerOpeningTime with
    | false => simp
    | true => simp [haware hrequires]
  rw [assess, htext]
  dsimp only
  rw [hvalue]
  dsimp only
  rw [ofOrigin, hrule]
  dsimp only
  rw [if_neg hasked]

/-- A close-out that is not counted is answered, and does not pass. -/
theorem assess_unasked (h : ∀ rule, ¬ Asked fail.originClass table regularTradingOpen rule) :
    ∃ assessment, assess fail table evaluatedAt calendar regularTradingOpen = .ok assessment ∧
      assessment.disposition ≠ .pass := by
  rw [assess]
  cases htext : fail.originClass with
  | none => exact ⟨_, rfl, fun h => by cases h⟩
  | some text =>
    dsimp only
    cases hvalue : Rule204Origin.ofValue text with
    | none => exact ⟨_, rfl, fun h => by cases h⟩
    | some origin =>
      dsimp only
      rw [ofOrigin]
      cases hrule : table.get origin.ruleId with
      | none => exact ⟨_, rfl, fun h => by cases h⟩
      | some rule =>
        dsimp only
        split_ifs with hmissing
        · exact ⟨_, rfl, fun h => by cases h⟩
        · apply absurd _ (h rule)
          refine ⟨⟨origin, by rw [htext, Option.bind_some, hvalue], hrule⟩, ?_⟩
          intro hrequires
          simpa [hrequires] using hmissing

/-- Where there is a day to count to, the count returns exactly where it can be counted to. -/
theorem dueDate_of_dated {ruleId : String} (h : Dated calendar rule)
    {day : Except DeadlineAssessment Date} :
    dueDate fail ruleId rule calendar rule.value.truncate = .ok day ↔
      ∃ due, day = .ok due ∧ CountsTo fail calendar rule due := by
  rw [dueDate.eq_def]
  obtain ⟨hunit, hcalendar⟩ | hunit := h
  · obtain ⟨counting, rfl⟩ := Option.ne_none_iff_exists'.mp hcalendar
    rw [hunit]
    dsimp only
    rw [Outcome.bind_eq_ok]
    constructor
    · rintro ⟨due, hdue, heq⟩
      cases heq
      exact ⟨due, rfl, .inl ⟨hunit, counting, rfl, hdue⟩⟩
    · rintro ⟨due, rfl, hcounts⟩
      obtain ⟨-, counting', hsame, hdue⟩ | ⟨hother, -⟩ := hcounts
      · cases hsame
        exact ⟨due, hdue, rfl⟩
      · rw [hunit] at hother
        cases hother
  · rw [hunit]
    dsimp only
    rw [Outcome.bind_eq_ok]
    constructor
    · rintro ⟨due, hdue, heq⟩
      cases heq
      exact ⟨due, rfl, .inr ⟨hunit, Date.ordinal_addDays hdue⟩⟩
    · rintro ⟨due, rfl, hcounts⟩
      obtain ⟨hother, -⟩ | ⟨-, hordinal⟩ := hcounts
      · rw [hunit] at hother
        cases hother
      · refine ⟨due, ?_, rfl⟩
        have hpos := due.ordinal_pos
        have hle := due.ordinal_le
        obtain ⟨reached, hreached⟩ := Date.addDays_returns_iff.mpr
          (by omega : 1 ≤ (fail.tradeDate.ordinal : ℤ) + rule.value.truncate ∧
            (fail.tradeDate.ordinal : ℤ) + rule.value.truncate ≤ 3652059)
        have hsame : reached = due := by
          apply Date.ext_ordinal
          have := Date.ordinal_addDays hreached
          omega
        rw [← hsame]
        exact hreached

/-- Where there is no day to count to, the advisory answers, and does not pass. -/
theorem dueDate_of_not_dated {ruleId : String} {days : ℤ} (h : ¬ Dated calendar rule) :
    ∃ assessment, dueDate fail ruleId rule calendar days = .ok (.error assessment) ∧
      assessment.disposition ≠ .pass := by
  rw [Dated, not_or] at h
  rw [dueDate.eq_def]
  cases hunit : rule.unit with
  | settlementDays =>
    cases calendar with
    | none => exact ⟨_, rfl, fun h => by cases h⟩
    | some counting => exact absurd ⟨hunit, Option.some_ne_none counting⟩ h.1
  | calendarDays => exact absurd hunit h.2
  | _ => exact ⟨_, rfl, fun h => by cases h⟩

/-- The day of the close-out has an assessment exactly where the opening has an offset. -/
theorem dated_returns_iff (hevaluated : evaluatedAt.utcOffset.isSome) {day : Date} :
    (dated fail table evaluatedAt rule regularTradingOpen day).Returns ↔
      aware regularTradingOpen = true := by
  cases regularTradingOpen with
  | none => exact iff_of_false (by rintro ⟨a, h⟩; cases h) (by decide)
  | some opening =>
    simp only [dated, aware, Option.any_some, Timestamp.isBefore, hevaluated]
    by_cases haware : opening.utcOffset.isSome
    · rw [if_pos haware]
      exact iff_of_true ⟨_, rfl⟩ haware
    · rw [if_neg haware]
      exact iff_of_false (by rintro ⟨a, h⟩; cases h) haware

/-- An assessment of a day passes up to the opening of that day. -/
theorem of_dated {opening : TradingOpen} {day : Date}
    {assessment : Rule204Assessment}
    (h : dated fail table evaluatedAt rule (some opening) day = .ok assessment) :
    assessment.dueAt = some (ReserveDeposit.BankingOpen.on opening day) ∧
      (assessment.disposition = .pass →
        evaluatedAt.instant ≤ (ReserveDeposit.BankingOpen.on opening day).instant) := by
  rw [dated, Outcome.bind_eq_ok] at h
  obtain ⟨overdue, hoverdue, h⟩ := h
  cases h
  refine ⟨rfl, ?_⟩
  intro hpass
  rw [Timestamp.isBefore] at hoverdue
  split_ifs at hoverdue
  cases hoverdue
  by_contra hlate
  have hbefore : (ReserveDeposit.BankingOpen.on opening day).instant < evaluatedAt.instant := by
    omega
  rw [ReserveDeposit.BankingOpen.on] at hbefore
  simp only [byRule, undated, hbefore, decide_true, if_true] at hpass
  cases hpass

/-- The advisory answers exactly where it can count. -/
theorem answered_iff (load : Date → Outcome DeadlineRuleTable) {given : Option DeadlineRuleTable}
    (hloaded : tableFor load given evaluatedAt = .ok table)
    (hevaluated : evaluatedAt.utcOffset.isSome) :
    Answers fail table evaluatedAt calendar regularTradingOpen
        (assessRule204 load fail evaluatedAt calendar regularTradingOpen given) ↔
      Countable fail table calendar regularTradingOpen := by
  have hassess : assessRule204 load fail evaluatedAt calendar regularTradingOpen given =
      assess fail table evaluatedAt calendar regularTradingOpen := by
    rw [assessRule204, hloaded, recordAware_of_aware hevaluated]
    simp only [Outcome.ok_bind]
    cases assess fail table evaluatedAt calendar regularTradingOpen <;> rfl
  rw [hassess]
  constructor
  · rintro ⟨assessment, hok, -⟩ rule hasked
    obtain ⟨ruleId, hcloseOut⟩ := assess_asked hasked
    rw [hcloseOut, closeOut] at hok
    obtain ⟨days, hdays, hok⟩ := Outcome.bind_eq_ok.mp hok
    obtain ⟨hwhole, rfl⟩ := wholeValue_eq_ok.mp hdays
    refine ⟨hwhole, ?_⟩
    intro hdated
    obtain ⟨found, hfound, hok⟩ := Outcome.bind_eq_ok.mp hok
    obtain ⟨due, rfl, hcounts⟩ := (dueDate_of_dated hdated).mp hfound
    exact ⟨(dated_returns_iff hevaluated).mp ⟨assessment, hok⟩, due, hcounts⟩
  · intro hcountable
    by_cases hasked : ∃ rule, Asked fail.originClass table regularTradingOpen rule
    · obtain ⟨rule, hasked⟩ := hasked
      obtain ⟨ruleId, hcloseOut⟩ := assess_asked hasked
      obtain ⟨hwhole, hdays⟩ := hcountable rule hasked
      have hvalue : ∀ refusal, wholeValue rule refusal = .ok rule.value.truncate :=
        fun refusal => wholeValue_eq_ok.mpr ⟨hwhole, rfl⟩
      rw [hcloseOut, closeOut, hvalue, Outcome.ok_bind]
      by_cases hdated : Dated calendar rule
      · obtain ⟨haware, day, hcounts⟩ := hdays hdated
        obtain ⟨opening, rfl⟩ : ∃ opening, regularTradingOpen = some opening := by
          cases regularTradingOpen with
          | none => cases haware
          | some opening => exact ⟨opening, rfl⟩
        rw [(dueDate_of_dated hdated).mpr ⟨day, rfl, hcounts⟩, Outcome.ok_bind]
        obtain ⟨assessment, hok⟩ :=
          (dated_returns_iff hevaluated).mpr haware
        obtain ⟨hdueAt, hpass⟩ := of_dated hok
        refine ⟨assessment, hok, ?_⟩
        intro hpassed
        exact ⟨rule, opening, day, _, hasked, hwhole, hcounts, rfl, hdueAt, rfl, haware,
          hpass hpassed⟩
      · obtain ⟨held, hheld, hfailed⟩ := dueDate_of_not_dated hdated
        rw [hheld, Outcome.ok_bind]
        exact ⟨_, rfl, fun hpassed => absurd hpassed hfailed⟩
    · push Not at hasked
      obtain ⟨assessment, hok, hheld⟩ := assess_unasked hasked
      exact ⟨assessment, hok, fun hpassed => absurd hpassed hheld⟩

end Rule204

/-! ## The account transfer -/

namespace Acats

/-- The transfer is counted: its rules are there, in business days, and in force on the day of the
evaluation, and there is a calendar. -/
structure Asked (table : DeadlineRuleTable) (evaluatedAt : Timestamp)
    (calendar : Option DeadlineCalendar) (counting : DeadlineCalendar)
    (validationRule completionRule : DeadlineRule) : Prop where
  in_force : current table evaluatedAt.date = true
  calendar_eq : calendar = some counting
  decided : Decided table calendar validationRule completionRule

/-- Where the transfer is counted, the calendar counts from its days. -/
def Countable (transfer : AcatsTransfer) (table : DeadlineRuleTable) (evaluatedAt : Timestamp)
    (calendar : Option DeadlineCalendar) : Prop :=
  ∀ counting validationRule completionRule,
    Asked table evaluatedAt calendar counting validationRule completionRule →
      ∃ validationDue completionDue,
        DueOn counting validationRule completionRule transfer.instructionAt.date
          (transfer.validationAt.map Timestamp.date) validationDue completionDue

/-- The advisory answers, and passes only with everything it counts with. -/
def Answers (transfer : AcatsTransfer) (table : DeadlineRuleTable) (evaluatedAt : Timestamp)
    (calendar : Option DeadlineCalendar) (outcome : Outcome AcatsAssessment) : Prop :=
  ∃ assessment, outcome = .ok assessment ∧ (assessment.disposition = .pass →
    ∃ counting validationRule completionRule validationDue completionDue,
      Asked table evaluatedAt calendar counting validationRule completionRule ∧
        DueOn counting validationRule completionRule transfer.instructionAt.date
          (transfer.validationAt.map Timestamp.date) validationDue completionDue ∧
            assessment.validationDue = some validationDue ∧
              assessment.completionDue = completionDue)

variable {transfer : AcatsTransfer} {table : DeadlineRuleTable} {evaluatedAt : Timestamp}
  {calendar : Option DeadlineCalendar} {counting : DeadlineCalendar}
  {validationRule completionRule : DeadlineRule}

/-- A transfer that is not counted is answered, and does not pass. -/
theorem assess_unasked
    (h : ∀ counting validationRule completionRule,
      ¬ Asked table evaluatedAt calendar counting validationRule completionRule) :
    ∃ assessment, assess transfer table evaluatedAt calendar = .ok assessment ∧
      assessment.disposition ≠ .pass := by
  have hheld : ∀ {answer : Disposition × Option Date × Option Date × List String},
      answer.1 ≠ .pass →
        (assess transfer table evaluatedAt calendar).toOption.map AcatsAssessment.answer =
          some answer → ∃ assessment, assess transfer table evaluatedAt calendar = .ok assessment ∧
            assessment.disposition ≠ .pass := by
    rintro answer hanswer hsome
    obtain ⟨assessment, hok, rfl⟩ := Outcome.toOption_map_eq_some_iff.mp hsome
    exact ⟨assessment, hok, hanswer⟩
  by_cases hcurrent : current table evaluatedAt.date
  · by_cases hdecided : ∃ validationRule completionRule,
        Decided table calendar validationRule completionRule
    · obtain ⟨validationRule, completionRule, hdecided⟩ := hdecided
      cases calendar with
      | none => exact hheld (by decide) (assess_hold hdecided hcurrent)
      | some counting =>
        exact absurd ⟨hcurrent, rfl, hdecided⟩ (h counting validationRule completionRule)
    · push Not at hdecided
      exact hheld (by decide) (assess_undecided hdecided)
  · exact hheld (by decide) (assess_stale hcurrent)

/-- The advisory answers exactly where it can count. -/
theorem answered_iff (load : Date → Outcome DeadlineRuleTable) {given : Option DeadlineRuleTable}
    (hloaded : tableFor load given evaluatedAt = .ok table)
    (hevaluated : evaluatedAt.utcOffset.isSome) :
    Answers transfer table evaluatedAt calendar
        (assessAcats load transfer evaluatedAt calendar given) ↔
      Countable transfer table evaluatedAt calendar := by
  have hassess : assessAcats load transfer evaluatedAt calendar given =
      assess transfer table evaluatedAt calendar := by
    rw [assessAcats, hloaded, recordAware_of_aware hevaluated]
    simp only [Outcome.ok_bind]
    cases assess transfer table evaluatedAt calendar <;> rfl
  rw [hassess]
  constructor
  · rintro ⟨assessment, hok, -⟩ counting validationRule completionRule hasked
    obtain ⟨hcurrent, rfl, hdecided⟩ := hasked
    rw [assess_dated hdecided hcurrent] at hok
    obtain ⟨validationDue, completionDue, hdue, -⟩ := dated_answer_iff.mp ⟨assessment, hok, rfl⟩
    exact ⟨validationDue, completionDue, hdue⟩
  · intro hcountable
    by_cases hasked : ∃ counting validationRule completionRule,
        Asked table evaluatedAt calendar counting validationRule completionRule
    · obtain ⟨counting, validationRule, completionRule, hasked⟩ := hasked
      obtain ⟨validationDue, completionDue, hdue⟩ :=
        hcountable counting validationRule completionRule hasked
      have hsome : ∃ assessment, dated transfer table evaluatedAt counting validationRule
          completionRule = .ok assessment ∧ assessment.answer =
            verdict (transfer.validationAt.map Timestamp.date) evaluatedAt.date validationDue
              completionDue :=
        dated_answer_iff.mpr ⟨validationDue, completionDue, hdue, rfl⟩
      obtain ⟨assessment, hok, hanswer⟩ := hsome
      obtain ⟨hcurrent, rfl, hdecided⟩ := hasked
      refine ⟨assessment, by rw [assess_dated hdecided hcurrent]; exact hok, ?_⟩
      intro _
      exact ⟨counting, validationRule, completionRule, validationDue, completionDue,
        ⟨hcurrent, rfl, hdecided⟩, hdue, congrArg (fun answer => answer.2.1) hanswer,
        congrArg (fun answer => answer.2.2.1) hanswer⟩
    · push Not at hasked
      obtain ⟨assessment, hok, hheld⟩ := assess_unasked hasked
      exact ⟨assessment, hok, fun hpassed => absurd hpassed hheld⟩

end Acats

/-! ## The security count -/

namespace SecurityCount

/-- The count is counted: its rules are there, in their units, and a prior count and a calendar. -/
structure Asked (count : SecurityCountInput) (table : DeadlineRuleTable)
    (calendar : Option DeadlineCalendar) (counting : DeadlineCalendar)
    (minimum maximum recording : DeadlineRule) (prior : Date) : Prop where
  minimum_eq : table.get minimumRuleId = some minimum
  maximum_eq : table.get maximumRuleId = some maximum
  recording_eq : table.get recordingRuleId = some recording
  prior_eq : ∃ first rest, count.priorCountDates = first :: rest ∧ prior = latestOf first rest
  calendar_eq : calendar = some counting
  minimum_unit : minimum.unit = .months
  maximum_unit : maximum.unit = .months
  recording_unit : recording.unit = .businessDays

/-- The parameter is whole, and the months after the day do not leave the years. -/
def MonthsAfter (rule : DeadlineRule) (prior : Date) : Prop :=
  rule.value.isWhole ∧
    1 ≤ prior.year + ((prior.month - 1 : ℤ) + rule.value.truncate) / 12 ∧
      prior.year + ((prior.month - 1 : ℤ) + rule.value.truncate) / 12 ≤ 9999

/-- The window of the next count is known, and a difference found by a count has a day by which it
is recorded. -/
def Counts (count : SecurityCountInput) (counting : DeadlineCalendar)
    (minimum maximum recording : DeadlineRule) (prior : Date) : Prop :=
  MonthsAfter minimum prior ∧ MonthsAfter maximum prior ∧
    ∀ day, count.countDate = some day → recording.value.isWhole ∧
      ∃ due, counting.addBusinessDays day recording.value.truncate = .ok due

/-- Where the count is counted, it can be. -/
def Countable (count : SecurityCountInput) (table : DeadlineRuleTable)
    (calendar : Option DeadlineCalendar) : Prop :=
  ∀ counting minimum maximum recording prior,
    Asked count table calendar counting minimum maximum recording prior →
      Counts count counting minimum maximum recording prior

/-- The advisory answers, and passes only with everything it counts with. -/
def Answers (count : SecurityCountInput) (table : DeadlineRuleTable)
    (calendar : Option DeadlineCalendar) (outcome : Outcome SecurityCountAssessment) : Prop :=
  ∃ assessment, outcome = .ok assessment ∧ (assessment.disposition = .pass →
    ∃ counting minimum maximum recording prior,
      Asked count table calendar counting minimum maximum recording prior ∧
        Counts count counting minimum maximum recording prior ∧
          assessment.nextCountEarliest.isSome ∧ assessment.nextCountLatest.isSome)

variable {count : SecurityCountInput} {table : DeadlineRuleTable} {evaluatedAt : Timestamp}
  {calendar : Option DeadlineCalendar} {counting : DeadlineCalendar}
  {minimum maximum recording : DeadlineRule} {prior : Date}

theorem assess_asked
    (h : Asked count table calendar counting minimum maximum recording prior) :
    assess count table evaluatedAt calendar =
      dated count table evaluatedAt counting minimum maximum recording prior := by
  obtain ⟨first, rest, hprior, rfl⟩ := h.prior_eq
  have hunits : ¬ (minimum.unit ≠ .months ∨ maximum.unit ≠ .months) := by
    simp [h.minimum_unit, h.maximum_unit]
  have hunit : ¬ recording.unit ≠ .businessDays := by simp [h.recording_unit]
  rw [assess, h.minimum_eq, h.maximum_eq, h.recording_eq, hprior, h.calendar_eq]
  simp only [if_neg hunits, if_neg hunit]

/-- A count that is not counted is answered, and does not pass. -/
theorem assess_unasked
    (h : ∀ counting minimum maximum recording prior,
      ¬ Asked count table calendar counting minimum maximum recording prior) :
    ∃ assessment, assess count table evaluatedAt calendar = .ok assessment ∧
      assessment.disposition ≠ .pass := by
  rw [assess]
  cases hminimum : table.get minimumRuleId with
  | none => exact ⟨_, rfl, fun h => by cases h⟩
  | some minimum =>
    cases hmaximum : table.get maximumRuleId with
    | none => exact ⟨_, rfl, fun h => by cases h⟩
    | some maximum =>
      cases hrecording : table.get recordingRuleId with
      | none => exact ⟨_, rfl, fun h => by cases h⟩
      | some recording =>
        cases hprior : count.priorCountDates with
        | nil => exact ⟨_, rfl, fun h => by cases h⟩
        | cons first rest =>
          cases calendar with
          | none => exact ⟨_, rfl, fun h => by cases h⟩
          | some counting =>
            dsimp only
            by_cases hunits : minimum.unit ≠ .months ∨ maximum.unit ≠ .months
            · rw [if_pos hunits]
              exact ⟨_, rfl, fun h => by cases h⟩
            · rw [if_neg hunits]
              by_cases hunit : recording.unit ≠ .businessDays
              · rw [if_pos hunit]
                exact ⟨_, rfl, fun h => by cases h⟩
              · rw [not_or, not_not, not_not] at hunits
                rw [not_not] at hunit
                exact absurd ⟨hminimum, hmaximum, hrecording, ⟨first, rest, hprior, rfl⟩, rfl,
                  hunits.1, hunits.2, hunit⟩ (h counting minimum maximum recording
                    (latestOf first rest))

theorem recordingDue_returns_iff {countDate : Option Date} :
    (recordingDue counting recording countDate).Returns ↔
      ∀ day, countDate = some day → recording.value.isWhole ∧
        ∃ due, counting.addBusinessDays day recording.value.truncate = .ok due := by
  cases countDate with
  | none => exact iff_of_true ⟨none, rfl⟩ fun _ h => by cases h
  | some day =>
    simp only [recordingDue, Outcome.Returns, Outcome.bind_eq_ok, wholeValue_eq_ok]
    constructor
    · rintro ⟨_, _, ⟨hwhole, rfl⟩, due, hdue, -⟩ day' hday
      cases hday
      exact ⟨hwhole, due, hdue⟩
    · intro h
      obtain ⟨hwhole, due, hdue⟩ := h day rfl
      exact ⟨some due, _, ⟨hwhole, rfl⟩, due, hdue, rfl⟩

theorem windowOf_returns_iff :
    (windowOf minimum maximum prior).Returns ↔
      MonthsAfter minimum prior ∧ MonthsAfter maximum prior := by
  rw [MonthsAfter, MonthsAfter, ← Date.addMonths_returns_iff, ← Date.addMonths_returns_iff]
  constructor
  · rintro ⟨window, h⟩
    obtain ⟨hminimum, hmaximum, hearliest, hlatest, -⟩ := windowOf_eq_ok.mp h
    exact ⟨⟨hminimum, _, hearliest⟩, hmaximum, _, hlatest⟩
  · rintro ⟨⟨hminimum, earliest, hearliest⟩, hmaximum, latest, hlatest⟩
    exact ⟨⟨prior, earliest, latest⟩,
      windowOf_eq_ok.mpr ⟨hminimum, hmaximum, hearliest, hlatest, rfl⟩⟩

/-- The count has an assessment exactly where it can be counted, with the window it was counted
in. -/
theorem dated_returns_iff :
    (dated count table evaluatedAt counting minimum maximum recording prior).Returns ↔
      Counts count counting minimum maximum recording prior := by
  rw [Counts, ← and_assoc, ← windowOf_returns_iff, ← recordingDue_returns_iff]
  constructor
  · rintro ⟨assessment, h⟩
    rw [dated, Outcome.bind_eq_ok] at h
    obtain ⟨window, hwindow, h⟩ := h
    obtain ⟨due, hdue, -⟩ := Outcome.bind_eq_ok.mp h
    exact ⟨⟨window, hwindow⟩, due, hdue⟩
  · rintro ⟨⟨window, hwindow⟩, due, hdue⟩
    rw [dated, hwindow, Outcome.ok_bind, hdue, Outcome.ok_bind]
    exact ⟨_, rfl⟩

theorem of_dated {assessment : SecurityCountAssessment}
    (h : dated count table evaluatedAt counting minimum maximum recording prior =
      .ok assessment) :
    assessment.nextCountEarliest.isSome ∧ assessment.nextCountLatest.isSome := by
  rw [dated, Outcome.bind_eq_ok] at h
  obtain ⟨window, hwindow, h⟩ := h
  obtain ⟨due, hdue, h⟩ := Outcome.bind_eq_ok.mp h
  cases h
  exact ⟨rfl, rfl⟩

/-- The advisory answers exactly where it can count. -/
theorem answered_iff (load : Date → Outcome DeadlineRuleTable) {given : Option DeadlineRuleTable}
    (hloaded : tableFor load given evaluatedAt = .ok table)
    (hevaluated : evaluatedAt.utcOffset.isSome) :
    Answers count table calendar (assessSecurityCount load count evaluatedAt calendar given) ↔
      Countable count table calendar := by
  have hassess : assessSecurityCount load count evaluatedAt calendar given =
      assess count table evaluatedAt calendar := by
    rw [assessSecurityCount, hloaded, recordAware_of_aware hevaluated]
    simp only [Outcome.ok_bind]
    cases assess count table evaluatedAt calendar <;> rfl
  rw [hassess]
  constructor
  · rintro ⟨assessment, hok, -⟩ counting minimum maximum recording prior hasked
    rw [assess_asked hasked] at hok
    exact dated_returns_iff.mp ⟨assessment, hok⟩
  · intro hcountable
    by_cases hasked : ∃ counting minimum maximum recording prior,
        Asked count table calendar counting minimum maximum recording prior
    · obtain ⟨counting, minimum, maximum, recording, prior, hasked⟩ := hasked
      have hcounts := hcountable counting minimum maximum recording prior hasked
      rw [assess_asked hasked]
      obtain ⟨assessment, hok⟩ := dated_returns_iff.mpr hcounts
      exact ⟨assessment, hok, fun _ => ⟨counting, minimum, maximum, recording, prior, hasked,
        hcounts, of_dated hok⟩⟩
    · push Not at hasked
      obtain ⟨assessment, hok, hheld⟩ := assess_unasked hasked
      exact ⟨assessment, hok, fun hpassed => absurd hpassed hheld⟩

end SecurityCount

/-! ## The four advisories -/

/-- Each advisory answers, and passes only on what is known, exactly where it can count. A market
calendar counts to a day exactly where every year on the way has data. -/
theorem deadlines_answer_iff (load : Date → Outcome DeadlineRuleTable)
    (given : Option DeadlineRuleTable) (table : DeadlineRuleTable) (evaluatedAt : Timestamp)
    (calendar : Option DeadlineCalendar) (bankingOpen : Option ReserveDeposit.BankingOpen)
    (regularTradingOpen : Option Rule204.TradingOpen)
    (computation : ReserveDeposit.ReserveComputation) (fail : Rule204.Rule204Fail)
    (transfer : Acats.AcatsTransfer) (count : SecurityCount.SecurityCountInput)
    (hloaded : tableFor load given evaluatedAt = .ok table)
    (hevaluated : evaluatedAt.utcOffset.isSome) :
    (ReserveDeposit.Answers computation table evaluatedAt calendar bankingOpen
        (assessReserveDeposit load computation evaluatedAt calendar bankingOpen given) ↔
      ReserveDeposit.Countable computation table calendar bankingOpen) ∧
    (Rule204.Answers fail table evaluatedAt calendar regularTradingOpen
        (assessRule204 load fail evaluatedAt calendar regularTradingOpen given) ↔
      Rule204.Countable fail table calendar regularTradingOpen) ∧
    (Acats.Answers transfer table evaluatedAt calendar
        (assessAcats load transfer evaluatedAt calendar given) ↔
      Acats.Countable transfer table evaluatedAt calendar) ∧
    (SecurityCount.Answers count table calendar
        (assessSecurityCount load count evaluatedAt calendar given) ↔
      SecurityCount.Countable count table calendar) ∧
    ∀ (market : MarketCalendar) (start : Date) (n : ℕ),
      (market.addBusinessDays start n).Returns ↔
        ∃ close, start ≤ close ∧ (∀ day, start < day → day ≤ close → market.Loaded day) ∧
          (market.businessDays start close).ncard = n :=
  ⟨ReserveDeposit.answered_iff load hloaded hevaluated, Rule204.answered_iff load hloaded hevaluated,
    Acats.answered_iff load hloaded hevaluated, SecurityCount.answered_iff load hloaded hevaluated,
    fun _ start n => MarketCalendar.addBusinessDays_returns_iff start n⟩

/-! ### A week of a year that ends before the deposit is due -/

/-- A weekly computation of the evening before the last day of the loaded year. -/
def yearEndComputation : ReserveDeposit.ReserveComputation :=
  ⟨"weekly-58", Timestamp.utc (Date.of 2026 12 30) 72000000000, some "WEEKLY"⟩

/-- A rule for the fails of long sales that does not ask for the opening of trading. -/
def closeOutTable : DeadlineRuleTable where
  tableVersion := "2026-10-09"
  sources := []
  rules := [
    { ruleId := "rule_204.long", citation := "17 CFR 242.204(a)(1)",
      sourceSha256 := "4c4223552ab13f947bbc2c2cec19af70fc4ee1ea5b1baeb9443c3e2665a581bf",
      value := ⟨false, 3, 0⟩, unit := .settlementDays }]

/-- A hundred shares of a long sale that were not delivered. -/
def longFail : Rule204.Rule204Fail where
  security := "SYNTHETIC-EQUITY"
  tradeDate := Date.of 2026 12 21
  settlementDate := Date.of 2026 12 22
  failQuantity := ⟨false, 100, 0⟩
  originClass := some "LONG"
  failQuantity_pos := by decide +kernel

/-- The deposit is counted into a year the calendar has no data for, and the close-out is counted to
an opening nobody gave: neither advisory answers. -/
theorem deadlines_answer_counterexample :
    ¬ ReserveDeposit.Answers yearEndComputation weeklyTable noonAfter
        (some autumnCalendar.toDeadlineCalendar) (some morningOpening)
        (assessReserveDeposit (fun _ => .ok weeklyTable) yearEndComputation noonAfter
          (some autumnCalendar.toDeadlineCalendar) (some morningOpening) (some weeklyTable)) ∧
      ¬ Rule204.Answers longFail closeOutTable noonAfter (some autumnCalendar.toDeadlineCalendar)
        none (assessRule204 (fun _ => .ok closeOutTable) longFail noonAfter
          (some autumnCalendar.toDeadlineCalendar) none (some closeOutTable)) := by
  constructor
  · rintro ⟨assessment, hok, -⟩
    have hraised : (assessReserveDeposit (fun _ => .ok weeklyTable) yearEndComputation noonAfter
        (some autumnCalendar.toDeadlineCalendar) (some morningOpening)
        (some weeklyTable)).toOption.isNone := by decide +kernel
    rw [hok] at hraised
    cases hraised
  · rintro ⟨assessment, hok, -⟩
    have hraised : (assessRule204 (fun _ => .ok closeOutTable) longFail noonAfter
        (some autumnCalendar.toDeadlineCalendar) none
        (some closeOutTable)).toOption.isNone := by decide +kernel
    rw [hok] at hraised
    cases hraised

/-- A count without a prior count is answered. -/
theorem deadlines_answer_first_count :
    SecurityCount.Answers ⟨[], none⟩ weeklyTable (some autumnCalendar.toDeadlineCalendar)
      (assessSecurityCount (fun _ => .ok weeklyTable) ⟨[], none⟩ noonAfter
        (some autumnCalendar.toDeadlineCalendar) (some weeklyTable)) := by
  obtain ⟨-, -, -, hcount, -⟩ := deadlines_answer_iff (fun _ => .ok weeklyTable) (some weeklyTable)
    weeklyTable noonAfter (some autumnCalendar.toDeadlineCalendar) (some morningOpening)
    (some morningOpening) yearEndComputation longFail eveningTransfer ⟨[], none⟩ rfl rfl
  apply hcount.mpr
  intro counting minimum maximum recording prior hasked
  obtain ⟨first, rest, hprior, -⟩ := hasked.prior_eq
  cases hprior

end Atreides
