import Atreides.Deadlines.Engines

/-!
# Deadlines and the spelling of times

The same instant can be written in many offsets, and on two dates. An advisory takes the date of a
time in the offset it is written in, and counts from there: two spellings of one case can have
two answers. For each advisory, the spellings for which they are the same are determined.

## Main definitions

* `Timestamp.SameInstant` — two spellings of one instant
* `ReserveDeposit.SpelledAlike`, `Acats.SpelledAlike`, `SecurityCount.SpelledAlike` — the dates of
  two spellings lead to the same days

## Main results

* `answers_alike_iff` — the answers are the same exactly for spellings that lead to the same days
-/

/-- Two spellings of one instant, each with an offset. -/
structure Timestamp.SameInstant (s t : Timestamp) : Prop where
  left_aware : s.utcOffset.isSome
  right_aware : t.utcOffset.isSome
  instant : s.instant = t.instant

namespace Timestamp

theorem SameInstant.refl_left {s t : Timestamp} (h : s.SameInstant t) : s.SameInstant s :=
  ⟨h.left_aware, h.left_aware, rfl⟩

/-- The order of two times with offsets is that of their instants. -/
theorem isBefore_of_aware {s t : Timestamp} (hs : s.utcOffset.isSome) (ht : t.utcOffset.isSome) :
    s.isBefore t = .ok (decide (s.instant < t.instant)) := by
  rw [isBefore, hs, ht, if_pos rfl]

theorem addHours_eq_ok {t later : Timestamp} {hours : ℤ} :
    t.addHours hours = .ok later ↔
      t.date.addDays ((t.microsecondOfDay + hours * 3600000000) / microsecondsPerDay) =
        .ok later.date ∧
      later.microsecondOfDay =
        ((t.microsecondOfDay + hours * 3600000000) % microsecondsPerDay).toNat ∧
      later.utcOffset = t.utcOffset := by
  rw [addHours, Outcome.bind_eq_ok]
  constructor
  · rintro ⟨date, hdate, heq⟩
    cases heq
    exact ⟨hdate, rfl, rfl⟩
  · rintro ⟨hdate, hmicro, hoffset⟩
    refine ⟨_, hdate, ?_⟩
    cases later
    simp_all

end Timestamp

namespace Atreides

theorem wholeValue_eq_ok {rule : DeadlineRule} {refusal : String} {n : ℤ} :
    wholeValue rule refusal = .ok n ↔ rule.value.isWhole ∧ rule.value.truncate = n := by
  rw [wholeValue]
  split_ifs with h <;> simp [h]

theorem tableFor_some (load : Date → Outcome DeadlineRuleTable) (table : DeadlineRuleTable)
    (evaluatedAt : Timestamp) : tableFor load (some table) evaluatedAt = .ok table := rfl

theorem recordAware_of_aware {evaluatedAt : Timestamp} (h : evaluatedAt.utcOffset.isSome) :
    recordAware evaluatedAt = .ok () := by
  apply Outcome.refuseIf_eq_ok.mpr
  intro hnone
  simp [hnone] at h

/-! ## The reserve deposit -/

namespace ReserveDeposit

/-- Two spellings of one computation. -/
structure ReserveComputation.Respelled (computation computation' : ReserveComputation) : Prop where
  computationId : computation.computationId = computation'.computationId
  basis : computation.basis = computation'.basis
  computedAt : computation.computedAt.SameInstant computation'.computedAt

/-- What the assessment says: the disposition, the instant that is due, and what was breached. -/
def ReserveDepositAssessment.answer (assessment : ReserveDepositAssessment) :
    Disposition × Option ℤ × List String :=
  (assessment.disposition, assessment.dueAt.map Timestamp.instant, assessment.breaches)

/-- The deposit is due some business days after its computation: its basis has a rule, and the
calendar, the opening of banking business and the parameters are there. -/
structure Counted (basis : Option String) (table : DeadlineRuleTable)
    (calendar : Option DeadlineCalendar) (bankingOpen : Option BankingOpen)
    (counting : DeadlineCalendar) (opening : BankingOpen) (basisRule offsetRule : DeadlineRule) :
    Prop where
  basisRule_eq : ∃ named, basis.bind ReserveComputationBasis.ofValue = some named ∧
    table.get named.ruleId = some basisRule
  offsetRule_eq : table.get offsetRuleId = some offsetRule
  calendar_eq : calendar = some counting
  bankingOpen_eq : bankingOpen = some opening
  opening_aware : opening.utcOffset ≠ none
  basisRule_unit : basisRule.unit = .businessDays
  offsetRule_unit : offsetRule.unit = .clockTime
  basisRule_whole : basisRule.value.isWhole
  offsetRule_whole : offsetRule.value.isWhole

theorem Counted.unique {basis : Option String} {table : DeadlineRuleTable}
    {calendar : Option DeadlineCalendar} {bankingOpen : Option BankingOpen}
    {counting counting' : DeadlineCalendar} {opening opening' : BankingOpen}
    {basisRule basisRule' offsetRule offsetRule' : DeadlineRule}
    (h : Counted basis table calendar bankingOpen counting opening basisRule offsetRule)
    (h' : Counted basis table calendar bankingOpen counting' opening' basisRule' offsetRule') :
    counting = counting' ∧ opening = opening' ∧ basisRule = basisRule' ∧
      offsetRule = offsetRule' := by
  obtain ⟨named, hnamed, hbasisRule⟩ := h.basisRule_eq
  obtain ⟨named', hnamed', hbasisRule'⟩ := h'.basisRule_eq
  obtain rfl : named = named' := Option.some.inj (hnamed.symm.trans hnamed')
  exact ⟨Option.some.inj (h.calendar_eq.symm.trans h'.calendar_eq),
    Option.some.inj (h.bankingOpen_eq.symm.trans h'.bankingOpen_eq),
    Option.some.inj (hbasisRule.symm.trans hbasisRule'),
    Option.some.inj (h.offsetRule_eq.symm.trans h'.offsetRule_eq)⟩

/-- The opening of banking business on a day. -/
def BankingOpen.on (opening : BankingOpen) (day : Date) : Timestamp :=
  ⟨day, opening.microsecondOfDay, opening.utcOffset, opening.microsecondOfDay_lt⟩

/-- The calendar counts to a day, and the hours after the opening of that day are a time. -/
def DueOn (counting : DeadlineCalendar) (opening : BankingOpen)
    (basisRule offsetRule : DeadlineRule) (computed due : Date) : Prop :=
  counting.addBusinessDays computed basisRule.value.truncate = .ok due ∧
    ((opening.on due).addHours offsetRule.value.truncate).Returns

/-- From the dates of the two spellings, the calendar counts to the same due day. -/
def SpelledAlike (computation computation' : ReserveComputation) (table : DeadlineRuleTable)
    (calendar : Option DeadlineCalendar) (bankingOpen : Option BankingOpen) : Prop :=
  ∀ counting opening basisRule offsetRule,
    Counted computation.basis table calendar bankingOpen counting opening basisRule offsetRule →
      ∀ due, DueOn counting opening basisRule offsetRule computation.computedAt.date due ↔
        DueOn counting opening basisRule offsetRule computation'.computedAt.date due

/-- The instant some hours after the opening of a day. -/
def dueInstant (opening : BankingOpen) (hours : ℤ) (due : Date) : ℤ :=
  due.ordinal * microsecondsPerDay + (opening.microsecondOfDay + hours * 3600000000) -
    opening.utcOffset.getD 0

theorem dueInstant_injective (opening : BankingOpen) (hours : ℤ) :
    Function.Injective (dueInstant opening hours) := by
  intro a b h
  apply Date.ext_ordinal
  simp only [dueInstant, microsecondsPerDay] at h
  omega

theorem instant_addHours {opening : BankingOpen} {hours : ℤ} {due : Date} {t : Timestamp}
    (h : (opening.on due).addHours hours = .ok t) :
    t.instant = dueInstant opening hours due ∧ t.utcOffset = opening.utcOffset := by
  obtain ⟨hdate, hmicro, hoffset⟩ := Timestamp.addHours_eq_ok.mp h
  refine ⟨?_, hoffset⟩
  have hordinal := Date.ordinal_addDays hdate
  simp only [Timestamp.instant, dueInstant, BankingOpen.on, hoffset, hmicro] at hordinal ⊢
  rw [hordinal]
  simp only [microsecondsPerDay]
  omega

theorem dueAt_eq_ok {counting : DeadlineCalendar} {opening : BankingOpen}
    {basisRule offsetRule : DeadlineRule} {computed : Date} {t : Timestamp} :
    dueAt counting opening basisRule offsetRule computed = .ok t ↔
      basisRule.value.isWhole ∧ offsetRule.value.isWhole ∧
        ∃ due, counting.addBusinessDays computed basisRule.value.truncate = .ok due ∧
          (opening.on due).addHours offsetRule.value.truncate = .ok t := by
  simp only [dueAt, Outcome.bind_eq_ok, wholeValue_eq_ok]
  constructor
  · rintro ⟨_, ⟨hbasis, rfl⟩, due, hdue, _, ⟨hoffset, rfl⟩, ht⟩
    exact ⟨hbasis, hoffset, due, hdue, ht⟩
  · rintro ⟨hbasis, hoffset, due, hdue, ht⟩
    exact ⟨_, ⟨hbasis, rfl⟩, due, hdue, _, ⟨hoffset, rfl⟩, ht⟩

/-- What an assessment with a due instant says. -/
def verdict (evaluated due : ℤ) : Disposition × Option ℤ × List String :=
  let breaches := if due < evaluated then ["rule_15c3_3.reserve_deposit_overdue"] else []
  (dispositionOf breaches, some due, breaches)

/-- An assessment that has a due time says what the instants of the two times say. -/
theorem dated_answer {computation : ReserveComputation} {table : DeadlineRuleTable}
    {evaluatedAt : Timestamp} {counting : DeadlineCalendar} {opening : BankingOpen}
    {basisRule offsetRule : DeadlineRule} (hopening : opening.utcOffset ≠ none)
    (hevaluated : evaluatedAt.utcOffset.isSome) :
    (dated computation table evaluatedAt counting opening basisRule offsetRule).toOption.map
        ReserveDepositAssessment.answer =
      (dueAt counting opening basisRule offsetRule computation.computedAt.date).toOption.map
        fun due => verdict evaluatedAt.instant due.instant := by
  rw [dated]
  cases hdue : dueAt counting opening basisRule offsetRule computation.computedAt.date with
  | error e => rfl
  | ok due =>
    obtain ⟨-, -, day, -, hday⟩ := dueAt_eq_ok.mp hdue
    have haware : due.utcOffset.isSome := by
      rw [(instant_addHours hday).2]
      exact Option.isSome_iff_ne_none.mpr hopening
    rw [Outcome.ok_bind, Timestamp.isBefore_of_aware haware hevaluated, Outcome.ok_bind]
    simp [Except.toOption, ReserveDepositAssessment.answer, verdict]

/-- A parameter that is not whole is refused, wherever the count begins. -/
theorem dated_not_whole {computation : ReserveComputation} {table : DeadlineRuleTable}
    {evaluatedAt : Timestamp} {counting : DeadlineCalendar} {opening : BankingOpen}
    {basisRule offsetRule : DeadlineRule}
    (h : ¬ (basisRule.value.isWhole ∧ offsetRule.value.isWhole)) :
    (dated computation table evaluatedAt counting opening basisRule offsetRule).toOption = none := by
  rw [dated]
  cases hdue : dueAt counting opening basisRule offsetRule computation.computedAt.date with
  | error e => rfl
  | ok due =>
    obtain ⟨hbasis, hoffset, -⟩ := dueAt_eq_ok.mp hdue
    exact absurd ⟨hbasis, hoffset⟩ h

/-- With what it needs, the deposit is assessed by its due time. -/
theorem assess_counted {computation : ReserveComputation} {table : DeadlineRuleTable}
    {evaluatedAt : Timestamp} {calendar : Option DeadlineCalendar}
    {bankingOpen : Option BankingOpen} {counting : DeadlineCalendar} {opening : BankingOpen}
    {basisRule offsetRule : DeadlineRule}
    (h : Counted computation.basis table calendar bankingOpen counting opening basisRule
      offsetRule) :
    assess computation table evaluatedAt calendar bankingOpen =
      dated computation table evaluatedAt counting opening basisRule offsetRule := by
  obtain ⟨named, hnamed, hbasisRule⟩ := h.basisRule_eq
  obtain ⟨text, htext, hvalue⟩ := Option.bind_eq_some_iff.mp hnamed
  have hunits : ¬ (basisRule.unit ≠ .businessDays ∨ offsetRule.unit ≠ .clockTime) := by
    simp [h.basisRule_unit, h.offsetRule_unit]
  rw [assess, htext]
  simp only [hvalue, ofBasis, hbasisRule, h.offsetRule_eq, h.calendar_eq, h.bankingOpen_eq,
    if_neg h.opening_aware, if_neg hunits]

/-- Without something it needs, the answer does not read a time. -/
theorem assess_uncounted {computation computation' : ReserveComputation}
    {table : DeadlineRuleTable} {evaluatedAt evaluatedAt' : Timestamp}
    {calendar : Option DeadlineCalendar} {bankingOpen : Option BankingOpen}
    (hbasis : computation.basis = computation'.basis)
    (h : ∀ counting opening basisRule offsetRule,
      ¬ Counted computation.basis table calendar bankingOpen counting opening basisRule
        offsetRule) :
    (assess computation table evaluatedAt calendar bankingOpen).toOption.map
        ReserveDepositAssessment.answer =
      (assess computation' table evaluatedAt' calendar bankingOpen).toOption.map
        ReserveDepositAssessment.answer := by
  rw [assess, assess, ← hbasis]
  cases htext : computation.basis with
  | none => rfl
  | some text =>
    cases hvalue : ReserveComputationBasis.ofValue text with
    | none => simp [Except.toOption, undated, ReserveDepositAssessment.answer, hvalue]
    | some named =>
      simp only [hvalue, ofBasis]
      cases hbasisRule : table.get named.ruleId with
      | none => rfl
      | some basisRule =>
        cases hoffsetRule : table.get offsetRuleId with
        | none => rfl
        | some offsetRule =>
          cases bankingOpen with
          | none => rfl
          | some opening =>
            by_cases hopening : opening.utcOffset = none
            · simp only [if_pos hopening]
              rfl
            cases calendar with
            | none =>
              simp only [if_neg hopening]
              rfl
            | some counting =>
              simp only [if_neg hopening]
              by_cases hunits : basisRule.unit ≠ .businessDays ∨ offsetRule.unit ≠ .clockTime
              · simp only [if_pos hunits]
                rfl
              simp only [if_neg hunits]
              -- the units are there, so a parameter is not whole
              have hwhole : ¬ (basisRule.value.isWhole ∧ offsetRule.value.isWhole) := by
                rintro ⟨hbasisWhole, hoffsetWhole⟩
                rw [not_or, not_not, not_not] at hunits
                exact h counting opening basisRule offsetRule
                  ⟨⟨named, by rw [htext, Option.bind_some, hvalue], hbasisRule⟩, hoffsetRule, rfl,
                    rfl, hopening, hunits.1, hunits.2, hbasisWhole, hoffsetWhole⟩
              rw [dated_not_whole hwhole, dated_not_whole hwhole]

theorem verdict_injective (evaluated : ℤ) : Function.Injective (verdict evaluated) := by
  intro a b h
  simp only [verdict, Prod.mk.injEq, Option.some.injEq] at h
  exact h.2.1

theorem assessReserveDeposit_eq (load : Date → Outcome DeadlineRuleTable)
    (computation : ReserveComputation) {evaluatedAt : Timestamp}
    (hevaluated : evaluatedAt.utcOffset.isSome) (calendar : Option DeadlineCalendar)
    (bankingOpen : Option BankingOpen) (table : DeadlineRuleTable) :
    assessReserveDeposit load computation evaluatedAt calendar bankingOpen (some table) =
      assess computation table evaluatedAt calendar bankingOpen := by
  rw [assessReserveDeposit, tableFor_some, recordAware_of_aware hevaluated]
  simp only [Outcome.ok_bind]
  cases assess computation table evaluatedAt calendar bankingOpen <;> rfl

/-- An instant is due exactly where the calendar counts to its day. -/
theorem dueAt_instant_iff {counting : DeadlineCalendar} {opening : BankingOpen}
    {basisRule offsetRule : DeadlineRule} (hbasis : basisRule.value.isWhole)
    (hoffset : offsetRule.value.isWhole) {computed : Date} {i : ℤ} :
    (∃ t, dueAt counting opening basisRule offsetRule computed = .ok t ∧ t.instant = i) ↔
      ∃ due, DueOn counting opening basisRule offsetRule computed due ∧
        dueInstant opening offsetRule.value.truncate due = i := by
  constructor
  · rintro ⟨t, ht, rfl⟩
    obtain ⟨-, -, due, hdue, hhours⟩ := dueAt_eq_ok.mp ht
    exact ⟨due, ⟨hdue, t, hhours⟩, (instant_addHours hhours).1.symm⟩
  · rintro ⟨due, ⟨hdue, t, hhours⟩, rfl⟩
    exact ⟨t, dueAt_eq_ok.mpr ⟨hbasis, hoffset, due, hdue, hhours⟩, (instant_addHours hhours).1⟩

/-- Two counts reach the same instants exactly when they reach the same days. -/
theorem dueAt_instants_iff {counting : DeadlineCalendar} {opening : BankingOpen}
    {basisRule offsetRule : DeadlineRule} (hbasis : basisRule.value.isWhole)
    (hoffset : offsetRule.value.isWhole) {computed computed' : Date} :
    (dueAt counting opening basisRule offsetRule computed).toOption.map Timestamp.instant =
        (dueAt counting opening basisRule offsetRule computed').toOption.map Timestamp.instant ↔
      ∀ due, DueOn counting opening basisRule offsetRule computed due ↔
        DueOn counting opening basisRule offsetRule computed' due := by
  have hinjective := dueInstant_injective opening offsetRule.value.truncate
  simp only [Outcome.toOption_map_eq_iff, dueAt_instant_iff hbasis hoffset]
  constructor
  · intro h due
    have hdue := h (dueInstant opening offsetRule.value.truncate due)
    simpa [hinjective.eq_iff] using hdue
  · intro h i
    simp only [h]

/-- The deposits of two spellings have one answer exactly when the counts end on one day. -/
theorem answer_alike_iff (load : Date → Outcome DeadlineRuleTable)
    {computation computation' : ReserveComputation} {evaluatedAt evaluatedAt' : Timestamp}
    (hcomputation : computation.Respelled computation')
    (hevaluated : evaluatedAt.SameInstant evaluatedAt') (calendar : Option DeadlineCalendar)
    (bankingOpen : Option BankingOpen) (table : DeadlineRuleTable) :
    (assessReserveDeposit load computation evaluatedAt calendar bankingOpen
        (some table)).toOption.map ReserveDepositAssessment.answer =
      (assessReserveDeposit load computation' evaluatedAt' calendar bankingOpen
        (some table)).toOption.map ReserveDepositAssessment.answer ↔
    SpelledAlike computation computation' table calendar bankingOpen := by
  rw [assessReserveDeposit_eq load computation hevaluated.left_aware,
    assessReserveDeposit_eq load computation' hevaluated.right_aware]
  by_cases hcounted : ∃ counting opening basisRule offsetRule, Counted computation.basis table
      calendar bankingOpen counting opening basisRule offsetRule
  · obtain ⟨counting, opening, basisRule, offsetRule, h⟩ := hcounted
    have h' := h
    rw [hcomputation.basis] at h'
    rw [assess_counted h, assess_counted h', dated_answer h.opening_aware hevaluated.left_aware,
      dated_answer h.opening_aware hevaluated.right_aware, ← hevaluated.instant]
    have hsplit : ∀ due : Outcome Timestamp,
        due.toOption.map (fun due => verdict evaluatedAt.instant due.instant) =
          (due.toOption.map Timestamp.instant).map (verdict evaluatedAt.instant) := by
      intro due
      rw [Option.map_map]
      rfl
    rw [hsplit, hsplit, (Option.map_injective (verdict_injective _)).eq_iff,
      dueAt_instants_iff h.basisRule_whole h.offsetRule_whole]
    constructor
    · intro hdue counting' opening' basisRule' offsetRule' hcounted
      obtain ⟨rfl, rfl, rfl, rfl⟩ := hcounted.unique h
      exact hdue
    · intro halike
      exact halike counting opening basisRule offsetRule h
  · push Not at hcounted
    constructor
    · intro _ counting opening basisRule offsetRule h
      exact absurd h (hcounted counting opening basisRule offsetRule)
    · intro _
      exact assess_uncounted hcomputation.basis hcounted

end ReserveDeposit

/-! ## The account transfer -/

namespace Acats

/-- Two spellings of one transfer. -/
structure AcatsTransfer.Respelled (transfer transfer' : AcatsTransfer) : Prop where
  transferId : transfer.transferId = transfer'.transferId
  instructionAt : transfer.instructionAt.SameInstant transfer'.instructionAt
  validationAt : Option.Rel Timestamp.SameInstant transfer.validationAt transfer'.validationAt

theorem AcatsTransfer.Respelled.validationAt_eq_none_iff {transfer transfer' : AcatsTransfer}
    (h : transfer.Respelled transfer') :
    transfer.validationAt = none ↔ transfer'.validationAt = none := by
  have hvalidation := h.validationAt
  generalize transfer.validationAt = validated at *
  generalize transfer'.validationAt = validated' at *
  cases hvalidation <;> simp

/-- What the assessment says: the disposition, the days that are due, and what was breached. -/
def AcatsAssessment.answer (assessment : AcatsAssessment) :
    Disposition × Option Date × Option Date × List String :=
  (assessment.disposition, assessment.validationDue, assessment.completionDue, assessment.breaches)

/-- Whether the transfer's rules are in force decides its answer: they are there, and no calendar
or two rules in business days. -/
def Decided (table : DeadlineRuleTable) (calendar : Option DeadlineCalendar)
    (validationRule completionRule : DeadlineRule) : Prop :=
  table.get validationRuleId = some validationRule ∧
    table.get completionRuleId = some completionRule ∧
      (calendar = none ∨
        validationRule.unit = .businessDays ∧ completionRule.unit = .businessDays)

/-- The calendar counts from the day of the instruction and that of the validation, where there is
one, to two days. -/
def DueOn (counting : DeadlineCalendar) (validationRule completionRule : DeadlineRule)
    (instructed : Date) (validated : Option Date) (validationDue : Date)
    (completionDue : Option Date) : Prop :=
  validationRule.value.isWhole ∧
    counting.addBusinessDays instructed validationRule.value.truncate = .ok validationDue ∧
      match validated with
      | none => completionDue = none
      | some validated => completionRule.value.isWhole ∧ ∃ due,
          counting.addBusinessDays validated completionRule.value.truncate = .ok due ∧
            completionDue = some due

/-- The days of the two spellings lie on the same side of the days that are due. -/
def SameSide (validated validated' : Option Date) (evaluated evaluated' validationDue : Date)
    (completionDue : Option Date) : Prop :=
  (validated = none → (validationDue < evaluated ↔ validationDue < evaluated')) ∧
    (validated.any (validationDue < ·) = validated'.any (validationDue < ·)) ∧
      ∀ due, completionDue = some due → (due < evaluated ↔ due < evaluated')

/-- The days of the two spellings have the rules in force, or not; where they are, the calendar
counts to the same days, and the days of the spellings lie on the same side of these. -/
structure SpelledAlike (transfer transfer' : AcatsTransfer) (evaluatedAt evaluatedAt' : Timestamp)
    (table : DeadlineRuleTable) (calendar : Option DeadlineCalendar) : Prop where
  in_force : ∀ validationRule completionRule,
    Decided table calendar validationRule completionRule →
      current table evaluatedAt.date = current table evaluatedAt'.date
  due_alike : ∀ validationRule completionRule,
    Decided table calendar validationRule completionRule → current table evaluatedAt.date →
      ∀ counting, calendar = some counting → ∀ validationDue completionDue,
        DueOn counting validationRule completionRule transfer.instructionAt.date
            (transfer.validationAt.map Timestamp.date) validationDue completionDue ↔
          DueOn counting validationRule completionRule transfer'.instructionAt.date
            (transfer'.validationAt.map Timestamp.date) validationDue completionDue
  same_side : ∀ validationRule completionRule,
    Decided table calendar validationRule completionRule → current table evaluatedAt.date →
      ∀ counting, calendar = some counting → ∀ validationDue completionDue,
        DueOn counting validationRule completionRule transfer.instructionAt.date
            (transfer.validationAt.map Timestamp.date) validationDue completionDue →
          SameSide (transfer.validationAt.map Timestamp.date)
            (transfer'.validationAt.map Timestamp.date) evaluatedAt.date evaluatedAt'.date
            validationDue completionDue

/-- What an assessment with due days says. -/
def verdict (validated : Option Date) (evaluated validationDue : Date)
    (completionDue : Option Date) : Disposition × Option Date × Option Date × List String :=
  let breaches := breachesOf validated evaluated (some validationDue) completionDue
  (dispositionOf breaches, some validationDue, completionDue, breaches)

theorem dueFrom_eq_ok {counting : DeadlineCalendar} {rule : DeadlineRule} {start due : Option Date} :
    dueFrom counting rule start = .ok due ↔
      match start with
      | none => due = none
      | some start => rule.value.isWhole ∧ ∃ day,
          counting.addBusinessDays start rule.value.truncate = .ok day ∧ due = some day := by
  cases start with
  | none => simp [dueFrom, eq_comm]
  | some start =>
    simp only [dueFrom, Outcome.bind_eq_ok, wholeValue_eq_ok]
    constructor
    · rintro ⟨_, ⟨hwhole, rfl⟩, day, hday, hdue⟩
      cases hdue
      exact ⟨hwhole, day, hday, rfl⟩
    · rintro ⟨hwhole, day, hday, rfl⟩
      exact ⟨_, ⟨hwhole, rfl⟩, day, hday, rfl⟩

/-- An assessment that has due days says what these and the days of the spelling say. -/
theorem dated_answer_iff {transfer : AcatsTransfer} {table : DeadlineRuleTable}
    {evaluatedAt : Timestamp} {counting : DeadlineCalendar}
    {validationRule completionRule : DeadlineRule}
    {answer : Disposition × Option Date × Option Date × List String} :
    (∃ assessment, dated transfer table evaluatedAt counting validationRule completionRule =
        .ok assessment ∧ assessment.answer = answer) ↔
      ∃ validationDue completionDue,
        DueOn counting validationRule completionRule transfer.instructionAt.date
            (transfer.validationAt.map Timestamp.date) validationDue completionDue ∧
          verdict (transfer.validationAt.map Timestamp.date) evaluatedAt.date validationDue
            completionDue = answer := by
  simp only [dated, Outcome.bind_eq_ok, dueFrom_eq_ok]
  constructor
  · rintro ⟨assessment, ⟨_, ⟨hwhole, validationDue, hday, rfl⟩, completionDue, hcompletion, heq⟩,
      rfl⟩
    cases heq
    exact ⟨validationDue, completionDue, ⟨hwhole, hday, hcompletion⟩, rfl⟩
  · rintro ⟨validationDue, completionDue, ⟨hwhole, hday, hcompletion⟩, rfl⟩
    exact ⟨_, ⟨_, ⟨hwhole, validationDue, hday, rfl⟩, completionDue, hcompletion, rfl⟩, rfl⟩

/-- A list of three messages, each where its condition holds, tells the conditions. -/
theorem breaches_ext_iff {a b c : String} (hab : a ≠ b) (hac : a ≠ c) (hbc : b ≠ c)
    {p q r p' q' r' : Prop} [Decidable p] [Decidable q] [Decidable r] [Decidable p'] [Decidable q']
    [Decidable r'] :
    ((if p then [a] else []) ++ (if q then [b] else []) ++ if r then [c] else []) =
        ((if p' then [a] else []) ++ (if q' then [b] else []) ++ if r' then [c] else []) ↔
      (p ↔ p') ∧ (q ↔ q') ∧ (r ↔ r') := by
  constructor
  · intro h
    have hmem : ∀ x, x ∈ ((if p then [a] else []) ++ (if q then [b] else []) ++
        if r then [c] else []) ↔ x ∈ ((if p' then [a] else []) ++ (if q' then [b] else []) ++
        if r' then [c] else []) := by
      intro x
      rw [h]
    have ha := hmem a
    have hb := hmem b
    have hc := hmem c
    simp only [List.mem_append, List.mem_ite_nil_right, List.mem_singleton, hab, hac, hbc,
      hab.symm, hac.symm, hbc.symm, and_true, and_false, or_false, false_or] at ha hb hc
    exact ⟨ha, hb, hc⟩
  · rintro ⟨hp, hq, hr⟩
    simp only [hp, hq, hr]

/-- The breaches tell on which side of the due days the days of a spelling lie. -/
theorem breachesOf_eq_iff {validated validated' : Option Date} {evaluated evaluated' : Date}
    {validationDue : Date} {completionDue : Option Date}
    (hvalidated : validated = none ↔ validated' = none) :
    breachesOf validated evaluated (some validationDue) completionDue =
        breachesOf validated' evaluated' (some validationDue) completionDue ↔
      SameSide validated validated' evaluated evaluated' validationDue completionDue := by
  have hcompletion : (∀ due, completionDue = some due → (due < evaluated ↔ due < evaluated')) ↔
      (completionDue.any (· < evaluated) ↔ completionDue.any (· < evaluated')) := by
    cases completionDue with
    | none => simp
    | some due => simp
  rw [SameSide, hcompletion, ← Bool.coe_iff_coe, breachesOf, breachesOf, breaches_ext_iff
    (by decide) (by decide) (by decide)]
  simp only [Option.any_some, decide_eq_true_eq, ← hvalidated]
  constructor
  · rintro ⟨hoverdue, hlate, hdue⟩
    refine ⟨fun hnone => ?_, hlate, hdue⟩
    simpa [hnone] using hoverdue
  · rintro ⟨hoverdue, hlate, hdue⟩
    exact ⟨and_congr_right hoverdue, hlate, hdue⟩

/-- The transfer has an answer that reads no due day. -/
theorem assess_undecided {transfer : AcatsTransfer} {table : DeadlineRuleTable}
    {evaluatedAt : Timestamp} {calendar : Option DeadlineCalendar}
    (h : ∀ validationRule completionRule,
      ¬ Decided table calendar validationRule completionRule) :
    (assess transfer table evaluatedAt calendar).toOption.map AcatsAssessment.answer =
      some (.indeterminate, none, none, []) := by
  rw [assess]
  by_cases hcurrent : current table evaluatedAt.date
  · simp only [hcurrent, Bool.not_true, Bool.false_eq_true, if_false]
    cases hvalidation : table.get validationRuleId with
    | none => rfl
    | some validationRule =>
      cases hcompletion : table.get completionRuleId with
      | none => rfl
      | some completionRule =>
        have hundecided := h validationRule completionRule
        rw [Decided, hvalidation, hcompletion] at hundecided
        cases calendar with
        | none => exact absurd ⟨rfl, rfl, .inl rfl⟩ hundecided
        | some counting =>
          by_cases hunit : validationRule.unit = .businessDays
          · have hunit' : completionRule.unit ≠ .businessDays := by
              intro hunit'
              exact hundecided ⟨rfl, rfl, .inr ⟨hunit, hunit'⟩⟩
            simp only [hunit, ne_eq, not_true_eq_false, if_false, hunit', not_false_eq_true,
              if_true]
            rfl
          · simp only [ne_eq, hunit, not_false_eq_true, if_true]
            rfl
  · simp only [hcurrent, Bool.not_false, if_true]
    rfl

/-- Rules that are not in force leave the transfer undecided. -/
theorem assess_stale {transfer : AcatsTransfer} {table : DeadlineRuleTable}
    {evaluatedAt : Timestamp} {calendar : Option DeadlineCalendar}
    (h : ¬ current table evaluatedAt.date) :
    (assess transfer table evaluatedAt calendar).toOption.map AcatsAssessment.answer =
      some (.indeterminate, none, none, []) := by
  rw [assess]
  simp only [h, Bool.not_false, if_true]
  rfl

theorem assess_hold {transfer : AcatsTransfer} {table : DeadlineRuleTable}
    {evaluatedAt : Timestamp} {validationRule completionRule : DeadlineRule}
    (h : Decided table none validationRule completionRule)
    (hcurrent : current table evaluatedAt.date) :
    (assess transfer table evaluatedAt none).toOption.map AcatsAssessment.answer =
      some (.hold, none, none, []) := by
  rw [assess, h.1, h.2.1]
  simp only [hcurrent, Bool.not_true, Bool.false_eq_true, if_false]
  rfl

theorem assess_dated {transfer : AcatsTransfer} {table : DeadlineRuleTable}
    {evaluatedAt : Timestamp} {counting : DeadlineCalendar}
    {validationRule completionRule : DeadlineRule}
    (h : Decided table (some counting) validationRule completionRule)
    (hcurrent : current table evaluatedAt.date) :
    assess transfer table evaluatedAt (some counting) =
      dated transfer table evaluatedAt counting validationRule completionRule := by
  obtain ⟨hvalidation, hcompletion, hunits⟩ := h
  obtain ⟨hunit, hunit'⟩ := hunits.resolve_left (Option.some_ne_none counting)
  rw [assess, hvalidation, hcompletion]
  simp only [hcurrent, Bool.not_true, Bool.false_eq_true, if_false, hunit, hunit', ne_eq,
    not_true_eq_false]

theorem dispositionOf_ne_indeterminate (breaches : List String) :
    dispositionOf breaches ≠ .indeterminate := by
  rw [dispositionOf]
  split_ifs <;> decide

/-- Rules that are in force, and decide, leave another answer than rules that are not. -/
theorem assess_ne_stale {transfer : AcatsTransfer} {table : DeadlineRuleTable}
    {evaluatedAt : Timestamp} {calendar : Option DeadlineCalendar}
    {validationRule completionRule : DeadlineRule}
    (h : Decided table calendar validationRule completionRule)
    (hcurrent : current table evaluatedAt.date) :
    (assess transfer table evaluatedAt calendar).toOption.map AcatsAssessment.answer ≠
      some (.indeterminate, none, none, []) := by
  cases calendar with
  | none =>
    rw [assess_hold h hcurrent]
    simp
  | some counting =>
    rw [assess_dated h hcurrent]
    intro heq
    have hsome := Outcome.toOption_map_eq_some_iff.mp heq
    obtain ⟨validationDue, completionDue, -, hverdict⟩ := dated_answer_iff.mp hsome
    exact dispositionOf_ne_indeterminate _ (congrArg Prod.fst hverdict)

theorem assessAcats_eq (load : Date → Outcome DeadlineRuleTable) (transfer : AcatsTransfer)
    {evaluatedAt : Timestamp} (hevaluated : evaluatedAt.utcOffset.isSome)
    (calendar : Option DeadlineCalendar) (table : DeadlineRuleTable) :
    assessAcats load transfer evaluatedAt calendar (some table) =
      assess transfer table evaluatedAt calendar := by
  rw [assessAcats, tableFor_some, recordAware_of_aware hevaluated]
  simp only [Outcome.ok_bind]
  cases assess transfer table evaluatedAt calendar <;> rfl

theorem verdict_eq_iff {validated validated' : Option Date} {evaluated evaluated' : Date}
    {validationDue validationDue' : Date} {completionDue completionDue' : Option Date} :
    verdict validated evaluated validationDue completionDue =
        verdict validated' evaluated' validationDue' completionDue' ↔
      validationDue = validationDue' ∧ completionDue = completionDue' ∧
        breachesOf validated evaluated (some validationDue) completionDue =
          breachesOf validated' evaluated' (some validationDue') completionDue' := by
  simp only [verdict, Prod.mk.injEq, Option.some.injEq]
  constructor
  · rintro ⟨-, hvalidation, hcompletion, hbreaches⟩
    exact ⟨hvalidation, hcompletion, hbreaches⟩
  · rintro ⟨rfl, rfl, hbreaches⟩
    exact ⟨by rw [hbreaches], rfl, rfl, hbreaches⟩

/-- Two transfers with due days have one answer exactly when the counts end on the same days, and
the days of the spellings lie on the same side of these. -/
theorem dated_alike_iff {transfer transfer' : AcatsTransfer} {table : DeadlineRuleTable}
    {evaluatedAt evaluatedAt' : Timestamp} {counting : DeadlineCalendar}
    {validationRule completionRule : DeadlineRule}
    (hvalidated : transfer.validationAt = none ↔ transfer'.validationAt = none) :
    (dated transfer table evaluatedAt counting validationRule completionRule).toOption.map
          AcatsAssessment.answer =
        (dated transfer' table evaluatedAt' counting validationRule completionRule).toOption.map
          AcatsAssessment.answer ↔
      ∀ validationDue completionDue,
        (DueOn counting validationRule completionRule transfer.instructionAt.date
            (transfer.validationAt.map Timestamp.date) validationDue completionDue ↔
          DueOn counting validationRule completionRule transfer'.instructionAt.date
            (transfer'.validationAt.map Timestamp.date) validationDue completionDue) ∧
        (DueOn counting validationRule completionRule transfer.instructionAt.date
            (transfer.validationAt.map Timestamp.date) validationDue completionDue →
          SameSide (transfer.validationAt.map Timestamp.date)
            (transfer'.validationAt.map Timestamp.date) evaluatedAt.date evaluatedAt'.date
            validationDue completionDue) := by
  have hnone : transfer.validationAt.map Timestamp.date = none ↔
      transfer'.validationAt.map Timestamp.date = none := by
    rw [Option.map_eq_none_iff, Option.map_eq_none_iff, hvalidated]
  simp only [Outcome.toOption_map_eq_iff, dated_answer_iff, ← breachesOf_eq_iff hnone]
  constructor
  · intro h validationDue completionDue
    refine ⟨⟨fun hdue => ?_, fun hdue => ?_⟩, fun hdue => ?_⟩
    · obtain ⟨due, done, hdue', hverdict⟩ := (h _).mp ⟨validationDue, completionDue, hdue, rfl⟩
      obtain ⟨rfl, rfl, -⟩ := verdict_eq_iff.mp hverdict
      exact hdue'
    · obtain ⟨due, done, hdue', hverdict⟩ := (h _).mpr ⟨validationDue, completionDue, hdue, rfl⟩
      obtain ⟨rfl, rfl, -⟩ := verdict_eq_iff.mp hverdict
      exact hdue'
    · obtain ⟨due, done, -, hverdict⟩ := (h _).mp ⟨validationDue, completionDue, hdue, rfl⟩
      obtain ⟨rfl, rfl, hbreaches⟩ := verdict_eq_iff.mp hverdict
      exact hbreaches.symm
  · intro h answer
    constructor
    · rintro ⟨validationDue, completionDue, hdue, rfl⟩
      obtain ⟨halike, hside⟩ := h validationDue completionDue
      exact ⟨validationDue, completionDue, halike.mp hdue,
        verdict_eq_iff.mpr ⟨rfl, rfl, (hside hdue).symm⟩⟩
    · rintro ⟨validationDue, completionDue, hdue, rfl⟩
      obtain ⟨halike, hside⟩ := h validationDue completionDue
      exact ⟨validationDue, completionDue, halike.mpr hdue,
        verdict_eq_iff.mpr ⟨rfl, rfl, hside (halike.mpr hdue)⟩⟩

/-- The transfers of two spellings have one answer exactly when their days lead to the same
days, and lie alike. -/
theorem answer_alike_iff (load : Date → Outcome DeadlineRuleTable)
    {transfer transfer' : AcatsTransfer} {evaluatedAt evaluatedAt' : Timestamp}
    (htransfer : transfer.Respelled transfer') (hevaluated : evaluatedAt.SameInstant evaluatedAt')
    (calendar : Option DeadlineCalendar) (table : DeadlineRuleTable) :
    (assessAcats load transfer evaluatedAt calendar (some table)).toOption.map
          AcatsAssessment.answer =
        (assessAcats load transfer' evaluatedAt' calendar (some table)).toOption.map
          AcatsAssessment.answer ↔
      SpelledAlike transfer transfer' evaluatedAt evaluatedAt' table calendar := by
  rw [assessAcats_eq load transfer hevaluated.left_aware,
    assessAcats_eq load transfer' hevaluated.right_aware]
  by_cases hdecided : ∃ validationRule completionRule,
      Decided table calendar validationRule completionRule
  · obtain ⟨validationRule, completionRule, h⟩ := hdecided
    have hunique : ∀ {validationRule' completionRule'},
        Decided table calendar validationRule' completionRule' →
          validationRule = validationRule' ∧ completionRule = completionRule' := by
      intro validationRule' completionRule' h'
      exact ⟨Option.some.inj (h.1.symm.trans h'.1), Option.some.inj (h.2.1.symm.trans h'.2.1)⟩
    by_cases hcurrent : current table evaluatedAt.date = true <;>
      by_cases hcurrent' : current table evaluatedAt'.date = true
    · -- in force on both days: the counts decide
      cases calendar with
      | none =>
        rw [assess_hold h hcurrent, assess_hold h hcurrent']
        constructor
        · intro _
          exact ⟨fun _ _ _ => hcurrent.trans hcurrent'.symm,
            fun _ _ _ _ _ hnone => absurd hnone.symm (Option.some_ne_none _),
            fun _ _ _ _ _ hnone => absurd hnone.symm (Option.some_ne_none _)⟩
        · intro _
          rfl
      | some counting =>
        rw [assess_dated h hcurrent, assess_dated h hcurrent',
          dated_alike_iff htransfer.validationAt_eq_none_iff]
        constructor
        · intro hdue
          refine ⟨fun _ _ _ => hcurrent.trans hcurrent'.symm, ?_, ?_⟩
          · intro validationRule' completionRule' h' _ counting' hcounting validationDue
              completionDue
            obtain ⟨rfl, rfl⟩ := hunique h'
            cases hcounting
            exact (hdue validationDue completionDue).1
          · intro validationRule' completionRule' h' _ counting' hcounting validationDue
              completionDue
            obtain ⟨rfl, rfl⟩ := hunique h'
            cases hcounting
            exact (hdue validationDue completionDue).2
        · intro halike validationDue completionDue
          exact ⟨halike.due_alike _ _ h hcurrent counting rfl validationDue completionDue,
            halike.same_side _ _ h hcurrent counting rfl validationDue completionDue⟩
    · rw [assess_stale hcurrent']
      constructor
      · intro heq
        exact absurd heq (assess_ne_stale h hcurrent)
      · intro halike
        exact absurd ((halike.in_force _ _ h).symm.trans hcurrent) hcurrent'
    · rw [assess_stale hcurrent]
      constructor
      · intro heq
        exact absurd heq.symm (assess_ne_stale h hcurrent')
      · intro halike
        exact absurd ((halike.in_force _ _ h).trans hcurrent') hcurrent
    · rw [assess_stale hcurrent, assess_stale hcurrent']
      constructor
      · intro _
        refine ⟨fun _ _ _ => ?_, fun _ _ _ h => absurd h hcurrent,
          fun _ _ _ h => absurd h hcurrent⟩
        rw [Bool.not_eq_true] at hcurrent hcurrent'
        rw [hcurrent, hcurrent']
      · intro _
        rfl
  · push Not at hdecided
    rw [assess_undecided hdecided, assess_undecided hdecided]
    constructor
    · intro _
      exact ⟨fun _ _ h => absurd h (hdecided _ _), fun _ _ h => absurd h (hdecided _ _),
        fun _ _ h => absurd h (hdecided _ _)⟩
    · intro _
      rfl

end Acats

/-! ## The security count -/

namespace SecurityCount

/-- What the assessment says: the disposition, the days that are due, and what was breached. -/
def SecurityCountAssessment.answer (assessment : SecurityCountAssessment) :
    Disposition × Option Date × Option Date × Option Date × List String :=
  (assessment.disposition, assessment.nextCountEarliest, assessment.nextCountLatest,
    assessment.differenceRecordingDue, assessment.breaches)

/-- The count is watched: its rules, a prior count and a calendar are there, and no count has
come. -/
structure Watched (count : SecurityCountInput) (table : DeadlineRuleTable)
    (calendar : Option DeadlineCalendar) (minimum maximum : DeadlineRule) (prior : Date) : Prop where
  minimum_eq : table.get minimumRuleId = some minimum
  maximum_eq : table.get maximumRuleId = some maximum
  recording_unit : ∃ recording, table.get recordingRuleId = some recording ∧
    recording.unit = .businessDays
  prior_eq : ∃ first rest, count.priorCountDates = first :: rest ∧ prior = latestOf first rest
  calendar_isSome : calendar.isSome
  minimum_unit : minimum.unit = .months
  maximum_unit : maximum.unit = .months
  minimum_whole : minimum.value.isWhole
  maximum_whole : maximum.value.isWhole
  minimum_returns : (prior.addMonths minimum.value.truncate).Returns
  countDate_eq : count.countDate = none

/-- The days of the two spellings lie on the same side of the last day for the next count. -/
def SpelledAlike (count : SecurityCountInput) (evaluatedAt evaluatedAt' : Timestamp)
    (table : DeadlineRuleTable) (calendar : Option DeadlineCalendar) : Prop :=
  ∀ minimum maximum prior, Watched count table calendar minimum maximum prior →
    ∀ latest, prior.addMonths maximum.value.truncate = .ok latest →
      (latest < evaluatedAt.date ↔ latest < evaluatedAt'.date)

theorem windowOf_eq_ok {minimum maximum : DeadlineRule} {prior : Date} {window : Window} :
    windowOf minimum maximum prior = .ok window ↔
      minimum.value.isWhole ∧ maximum.value.isWhole ∧
        prior.addMonths minimum.value.truncate = .ok window.earliest ∧
          prior.addMonths maximum.value.truncate = .ok window.latest ∧ window.prior = prior := by
  simp only [windowOf, Outcome.bind_eq_ok, wholeValue_eq_ok]
  constructor
  · rintro ⟨_, ⟨hminimum, rfl⟩, earliest, hearliest, _, ⟨hmaximum, rfl⟩, latest, hlatest, heq⟩
    cases heq
    exact ⟨hminimum, hmaximum, hearliest, hlatest, rfl⟩
  · rintro ⟨hminimum, hmaximum, hearliest, hlatest, rfl⟩
    exact ⟨_, ⟨hminimum, rfl⟩, _, hearliest, _, ⟨hmaximum, rfl⟩, _, hlatest, rfl⟩

theorem assessSecurityCount_eq (load : Date → Outcome DeadlineRuleTable)
    (count : SecurityCountInput) {evaluatedAt : Timestamp}
    (hevaluated : evaluatedAt.utcOffset.isSome) (calendar : Option DeadlineCalendar)
    (table : DeadlineRuleTable) :
    assessSecurityCount load count evaluatedAt calendar (some table) =
      assess count table evaluatedAt calendar := by
  rw [assessSecurityCount, tableFor_some, recordAware_of_aware hevaluated]
  simp only [Outcome.ok_bind]
  cases assess count table evaluatedAt calendar <;> rfl

/-- A window that is the same on both days leaves one answer. -/
theorem dated_alike {count : SecurityCountInput} {table : DeadlineRuleTable}
    {evaluatedAt evaluatedAt' : Timestamp} {counting : DeadlineCalendar}
    {minimum maximum recording : DeadlineRule} {prior : Date}
    (h : ∀ window, windowOf minimum maximum prior = .ok window →
      breachesOf window count.countDate evaluatedAt.date =
        breachesOf window count.countDate evaluatedAt'.date) :
    (dated count table evaluatedAt counting minimum maximum recording prior).toOption.map
        SecurityCountAssessment.answer =
      (dated count table evaluatedAt' counting minimum maximum recording prior).toOption.map
        SecurityCountAssessment.answer := by
  simp only [dated]
  cases hwindow : windowOf minimum maximum prior with
  | error e => rfl
  | ok window =>
    cases hdue : recordingDue counting recording count.countDate with
    | error e => simp
    | ok due => simp [Except.toOption, SecurityCountAssessment.answer, h window hwindow]

/-- Where nothing is watched, the answer does not read the day. -/
theorem assess_unwatched {count : SecurityCountInput} {table : DeadlineRuleTable}
    {evaluatedAt evaluatedAt' : Timestamp} {calendar : Option DeadlineCalendar}
    (h : ∀ minimum maximum prior, ¬ Watched count table calendar minimum maximum prior) :
    (assess count table evaluatedAt calendar).toOption.map SecurityCountAssessment.answer =
      (assess count table evaluatedAt' calendar).toOption.map SecurityCountAssessment.answer := by
  rw [assess, assess]
  cases hminimum : table.get minimumRuleId with
  | none => rfl
  | some minimum =>
    cases hmaximum : table.get maximumRuleId with
    | none => rfl
    | some maximum =>
      cases hrecording : table.get recordingRuleId with
      | none => rfl
      | some recording =>
        cases hprior : count.priorCountDates with
        | nil => rfl
        | cons first rest =>
          cases calendar with
          | none => rfl
          | some counting =>
            by_cases hunits : minimum.unit ≠ .months ∨ maximum.unit ≠ .months
            · simp only [if_pos hunits]
              rfl
            by_cases hunit : recording.unit ≠ .businessDays
            · simp only [if_neg hunits, if_pos hunit]
              rfl
            simp only [if_neg hunits, if_neg hunit]
            rw [not_or, not_not, not_not] at hunits
            rw [not_not] at hunit
            apply dated_alike
            intro window hwindow
            obtain ⟨hminimumWhole, hmaximumWhole, hearliest, -⟩ := windowOf_eq_ok.mp hwindow
            cases hcount : count.countDate with
            | some day => rfl
            | none =>
              exact absurd ⟨hminimum, hmaximum, ⟨recording, hrecording, hunit⟩,
                ⟨first, rest, hprior, rfl⟩, rfl, hunits.1, hunits.2, hminimumWhole, hmaximumWhole,
                ⟨window.earliest, hearliest⟩, hcount⟩ (h minimum maximum (latestOf first rest))

/-- The watched count is overdue after the last day for it. -/
theorem assess_watched {count : SecurityCountInput} {table : DeadlineRuleTable}
    {evaluatedAt : Timestamp} {calendar : Option DeadlineCalendar} {minimum maximum : DeadlineRule}
    {prior earliest : Date} (h : Watched count table calendar minimum maximum prior)
    (hearliest : prior.addMonths minimum.value.truncate = .ok earliest) :
    (assess count table evaluatedAt calendar).toOption.map SecurityCountAssessment.answer =
      (prior.addMonths maximum.value.truncate).toOption.map fun latest =>
        let breaches := if latest < evaluatedAt.date then ["rule_17a_13.count_overdue"] else []
        (dispositionOf breaches, some earliest, some latest, none, breaches) := by
  obtain ⟨recording, hrecording, hunit⟩ := h.recording_unit
  obtain ⟨first, rest, hprior, rfl⟩ := h.prior_eq
  obtain ⟨counting, rfl⟩ := Option.isSome_iff_exists.mp h.calendar_isSome
  have hunits : ¬ (minimum.unit ≠ .months ∨ maximum.unit ≠ .months) := by
    simp [h.minimum_unit, h.maximum_unit]
  have hdays : ∀ refusal, wholeValue minimum refusal = .ok minimum.value.truncate :=
    fun refusal => wholeValue_eq_ok.mpr ⟨h.minimum_whole, rfl⟩
  have hdays' : ∀ refusal, wholeValue maximum refusal = .ok maximum.value.truncate :=
    fun refusal => wholeValue_eq_ok.mpr ⟨h.maximum_whole, rfl⟩
  rw [assess, h.minimum_eq, h.maximum_eq, hrecording, hprior]
  simp only [if_neg hunits, ne_eq, hunit, not_true_eq_false, if_false, dated, windowOf, hdays,
    hdays', Outcome.ok_bind, hearliest]
  cases (latestOf first rest).addMonths maximum.value.truncate with
  | error e => rfl
  | ok latest =>
    simp [Except.toOption, SecurityCountAssessment.answer, h.countDate_eq, recordingDue,
      breachesOf]

theorem ite_singleton_eq_iff {a : String} {p q : Prop} [Decidable p] [Decidable q] :
    (if p then [a] else []) = (if q then [a] else []) ↔ (p ↔ q) := by
  split_ifs with hp hq <;> simp [*]

/-- The counts of two spellings have one answer exactly when their days lie alike. -/
theorem answer_alike_iff (load : Date → Outcome DeadlineRuleTable) (count : SecurityCountInput)
    {evaluatedAt evaluatedAt' : Timestamp} (hevaluated : evaluatedAt.SameInstant evaluatedAt')
    (calendar : Option DeadlineCalendar) (table : DeadlineRuleTable) :
    (assessSecurityCount load count evaluatedAt calendar (some table)).toOption.map
          SecurityCountAssessment.answer =
        (assessSecurityCount load count evaluatedAt' calendar (some table)).toOption.map
          SecurityCountAssessment.answer ↔
      SpelledAlike count evaluatedAt evaluatedAt' table calendar := by
  rw [assessSecurityCount_eq load count hevaluated.left_aware,
    assessSecurityCount_eq load count hevaluated.right_aware]
  by_cases hwatched : ∃ minimum maximum prior, Watched count table calendar minimum maximum prior
  · obtain ⟨minimum, maximum, prior, h⟩ := hwatched
    obtain ⟨earliest, hearliest⟩ := h.minimum_returns
    rw [assess_watched h hearliest, assess_watched h hearliest]
    have hunique : ∀ {minimum' maximum' prior'},
        Watched count table calendar minimum' maximum' prior' →
          maximum = maximum' ∧ prior = prior' := by
      intro minimum' maximum' prior' h'
      obtain ⟨first, rest, hprior, rfl⟩ := h.prior_eq
      obtain ⟨first', rest', hprior', rfl⟩ := h'.prior_eq
      cases hprior.symm.trans hprior'
      exact ⟨Option.some.inj (h.maximum_eq.symm.trans h'.maximum_eq), rfl⟩
    cases hlatest : prior.addMonths maximum.value.truncate with
    | error e =>
      constructor
      · intro _ minimum' maximum' prior' h' latest hlatest'
        obtain ⟨rfl, rfl⟩ := hunique h'
        cases hlatest.symm.trans hlatest'
      · intro _
        rfl
    | ok latest =>
      constructor
      · intro heq minimum' maximum' prior' h' latest' hlatest'
        obtain ⟨rfl, rfl⟩ := hunique h'
        cases hlatest.symm.trans hlatest'
        have hbreaches := congrArg (Option.map (fun answer => answer.2.2.2.2)) heq
        simpa [Except.toOption, ite_singleton_eq_iff] using hbreaches
      · intro halike
        simp only [Except.toOption, Option.map_some, halike minimum maximum prior h latest hlatest]
  · push Not at hwatched
    constructor
    · intro _ minimum maximum prior h
      exact absurd h (hwatched minimum maximum prior)
    · intro _
      exact assess_unwatched hwatched

end SecurityCount

/-! ## The three advisories -/

/-- Two spellings of one case have one answer from each advisory exactly when the days that their
dates lead to are the same, and the dates lie on the same side of these: the date of a time is
the one of the offset it is written in. -/
theorem answers_alike_iff (load : Date → Outcome DeadlineRuleTable) (table : DeadlineRuleTable)
    (calendar : Option DeadlineCalendar) (bankingOpen : Option ReserveDeposit.BankingOpen)
    (computation computation' : ReserveDeposit.ReserveComputation)
    (transfer transfer' : Acats.AcatsTransfer) (count : SecurityCount.SecurityCountInput)
    (evaluatedAt evaluatedAt' : Timestamp) (hcomputation : computation.Respelled computation')
    (htransfer : transfer.Respelled transfer')
    (hevaluated : evaluatedAt.SameInstant evaluatedAt') :
    ((assessReserveDeposit load computation evaluatedAt calendar bankingOpen
          (some table)).toOption.map ReserveDeposit.ReserveDepositAssessment.answer =
        (assessReserveDeposit load computation' evaluatedAt' calendar bankingOpen
          (some table)).toOption.map ReserveDeposit.ReserveDepositAssessment.answer ↔
      ReserveDeposit.SpelledAlike computation computation' table calendar bankingOpen) ∧
    ((assessAcats load transfer evaluatedAt calendar (some table)).toOption.map
          Acats.AcatsAssessment.answer =
        (assessAcats load transfer' evaluatedAt' calendar (some table)).toOption.map
          Acats.AcatsAssessment.answer ↔
      Acats.SpelledAlike transfer transfer' evaluatedAt evaluatedAt' table calendar) ∧
    ((assessSecurityCount load count evaluatedAt calendar (some table)).toOption.map
          SecurityCount.SecurityCountAssessment.answer =
        (assessSecurityCount load count evaluatedAt' calendar (some table)).toOption.map
          SecurityCount.SecurityCountAssessment.answer ↔
      SecurityCount.SpelledAlike count evaluatedAt evaluatedAt' table calendar) :=
  ⟨ReserveDeposit.answer_alike_iff load hcomputation hevaluated calendar bankingOpen table,
    Acats.answer_alike_iff load htransfer hevaluated calendar table,
    SecurityCount.answer_alike_iff load count hevaluated calendar table⟩

/-! ## A deposit computed around midnight -/

/-- The rules of a weekly deposit: two business days, and an hour after the opening. -/
def weeklyTable : DeadlineRuleTable where
  tableVersion := "2026-10-09"
  sources := []
  rules := [
    { ruleId := "rule_15c3_3.reserve.weekly", citation := "17 CFR 240.15c3-3(e)(3)(i)(A)",
      sourceSha256 := "c7d7067f656bb6032182c0d81530a78d6d80d59cc4a842be84d9e43d13609443",
      value := ⟨false, 2, 0⟩, unit := .businessDays },
    { ruleId := "rule_15c3_3.reserve.opening_offset", citation := "17 CFR 240.15c3-3(e)(3)(i)(A)",
      sourceSha256 := "c7d7067f656bb6032182c0d81530a78d6d80d59cc4a842be84d9e43d13609443",
      value := ⟨false, 1, 0⟩, unit := .clockTime }]

/-- A loaded year of the government securities market, with the first holiday of its autumn. -/
def autumnCalendar : MarketCalendar where
  market := .usGovernmentSecurities
  holidays := ⟨[(2026, [Date.of 2026 9 7])], by decide⟩
  datesMatchYears := by decide +kernel

/-- Half past nine, four hours behind universal time. -/
def morningOpening : ReserveDeposit.BankingOpen :=
  ⟨34200000000, some (-14400000000), by decide⟩

/-- A weekly computation of half past eleven in the evening. -/
def eveningComputation : ReserveDeposit.ReserveComputation :=
  ⟨"weekly-38", ⟨Date.of 2026 9 16, 84600000000, some (-14400000000), by decide⟩, some "WEEKLY"⟩

/-- The same computation, in universal time. -/
def eveningComputationUtc : ReserveDeposit.ReserveComputation :=
  ⟨"weekly-38", Timestamp.utc (Date.of 2026 9 17) 12600000000, some "WEEKLY"⟩

/-- Noon of the second business day after the evening of the computation. -/
def noonAfter : Timestamp := Timestamp.utc (Date.of 2026 9 18) 57600000000

theorem eveningComputation_respelled :
    eveningComputation.Respelled eveningComputationUtc where
  computationId := rfl
  basis := rfl
  computedAt := ⟨rfl, rfl, by decide +kernel⟩

/-- The deposit of one evening is overdue at noon two business days later, or is due a weekend
after it. -/
theorem evening_deposit_not_alike :
    eveningComputation.Respelled eveningComputationUtc ∧
      (assessReserveDeposit (fun _ => .ok weeklyTable) eveningComputation noonAfter
          (some autumnCalendar.toDeadlineCalendar) (some morningOpening)
          (some weeklyTable)).toOption.map ReserveDeposit.ReserveDepositAssessment.answer ≠
        (assessReserveDeposit (fun _ => .ok weeklyTable) eveningComputationUtc noonAfter
          (some autumnCalendar.toDeadlineCalendar) (some morningOpening)
          (some weeklyTable)).toOption.map ReserveDeposit.ReserveDepositAssessment.answer :=
  ⟨eveningComputation_respelled, by decide +kernel⟩

/-- A transfer instructed at the time of the computation, and not validated. -/
def eveningTransfer : Acats.AcatsTransfer := ⟨"acats-38", eveningComputation.computedAt, none⟩

theorem answers_alike_iff_evening :
    (eveningComputation.Respelled eveningComputationUtc ∧
      eveningTransfer.Respelled eveningTransfer ∧ noonAfter.SameInstant noonAfter) ∧
    ((assessReserveDeposit (fun _ => .ok weeklyTable) eveningComputation noonAfter
          (some autumnCalendar.toDeadlineCalendar) (some morningOpening)
          (some weeklyTable)).toOption.map ReserveDeposit.ReserveDepositAssessment.answer =
        (assessReserveDeposit (fun _ => .ok weeklyTable) eveningComputationUtc noonAfter
          (some autumnCalendar.toDeadlineCalendar) (some morningOpening)
          (some weeklyTable)).toOption.map ReserveDeposit.ReserveDepositAssessment.answer ↔
      ReserveDeposit.SpelledAlike eveningComputation eveningComputationUtc weeklyTable
        (some autumnCalendar.toDeadlineCalendar) (some morningOpening)) :=
  have htransfer : eveningTransfer.Respelled eveningTransfer :=
    ⟨rfl, eveningComputation_respelled.computedAt.refl_left, .none⟩
  have hnoon : noonAfter.SameInstant noonAfter := ⟨rfl, rfl, rfl⟩
  ⟨⟨eveningComputation_respelled, htransfer, hnoon⟩,
    (answers_alike_iff (fun _ => .ok weeklyTable) weeklyTable
      (some autumnCalendar.toDeadlineCalendar) (some morningOpening) eveningComputation
      eveningComputationUtc eveningTransfer eveningTransfer ⟨[], none⟩ noonAfter noonAfter
      eveningComputation_respelled htransfer hnoon).1⟩

end Atreides
