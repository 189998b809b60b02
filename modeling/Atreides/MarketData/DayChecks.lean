import Mathlib.Data.Finset.Dedup
import Atreides.MarketData.RowChecks

/-!
# The check of the rows as a whole

What the check reports does not depend on the order of the rows: a row or a key is reported for
itself, and the days of a metric are walked from the earliest date to the latest. The check comes
to an answer just where the values of the rows can be compared, and then the answer is empty just
where the rows are clean.

## Main definitions

* `DayReport` — what is reported of the days
* `Clean` — the rows that nothing is wrong with
* `Validates` — the check answers, whatever the order of the rows, and says whether they are clean

## Main results

* `walk_eq_nil_iff` — the walk over days that are all decided and present reports nothing
* `checkRows_spec` — what the check reports
* `validate_rows_iff` — the check does as it says just where the values can be compared
-/

namespace Atreides

namespace MarketData

/-! ## The walk -/

section Walk

variable {calendar : MarketCalendar} (metric : String)

/-- The last day of all is in a year without data. -/
def EndsUndecided (calendar : MarketCalendar) : Prop :=
  ∀ day : Date, day.ordinal = 3652059 → ¬ calendar.Loaded day

theorem walk_of_not_loaded (present : List Date) {cursor : Date} (h : ¬ calendar.Loaded cursor)
    (left : ℕ) :
    ∃ message, walk calendar metric present (left + 1) cursor = .ok [message] := by
  rw [walk, MarketCalendar.isBusinessDay_of_not_loaded h]
  exact ⟨_, rfl⟩

/-- On a day that is decided the walk looks at the day and goes on to the next. -/
theorem walk_of_loaded (hend : EndsUndecided calendar) {cursor : Date}
    (h : calendar.Loaded cursor) :
    ∃ next answer, next.ordinal = cursor.ordinal + 1 ∧
      calendar.isBusinessDay cursor = .ok answer ∧
      ∀ present left, walk calendar metric present (left + 1) cursor =
        (walk calendar metric present left next >>= fun rest =>
          .ok ((if answer ∧ cursor ∉ present then [gapText metric cursor] else []) ++ rest)) := by
  obtain ⟨answer, hanswer⟩ := MarketCalendar.isBusinessDay_of_loaded h
  have hlt : cursor.ordinal + 1 ≤ 3652059 := by
    have hle := cursor.ordinal_le
    have hne : cursor.ordinal ≠ 3652059 := fun hlast => hend cursor hlast h
    omega
  have hnext : cursor.next = .ok ⟨cursor.ordinal + 1, by omega, hlt⟩ := by
    rw [Date.next, dif_pos hlt]
  refine ⟨⟨cursor.ordinal + 1, by omega, hlt⟩, answer, rfl, hanswer, ?_⟩
  intro present left
  rw [walk, hanswer]
  dsimp only
  rw [hnext, Outcome.ok_bind]

theorem walk_returns (hend : EndsUndecided calendar) (present : List Date) (left : ℕ) (cursor : Date) :
    (walk calendar metric present left cursor).Returns := by
  induction left generalizing cursor with
  | zero => exact ⟨_, rfl⟩
  | succ left ih =>
    by_cases h : calendar.Loaded cursor
    · obtain ⟨next, answer, -, -, hwalk⟩ := walk_of_loaded metric hend h
      obtain ⟨rest, hrest⟩ := ih next
      rw [hwalk, hrest]
      exact ⟨_, rfl⟩
    · obtain ⟨message, hmessage⟩ := walk_of_not_loaded metric present h left
      exact ⟨_, hmessage⟩

/-- The walk asks only which days are present. -/
theorem walk_congr (hend : EndsUndecided calendar) {present present' : List Date}
    (h : ∀ day, day ∈ present ↔ day ∈ present') (left : ℕ) (cursor : Date) :
    walk calendar metric present left cursor = walk calendar metric present' left cursor := by
  induction left generalizing cursor with
  | zero => rfl
  | succ left ih =>
    by_cases hloaded : calendar.Loaded cursor
    · obtain ⟨next, answer, -, -, hwalk⟩ := walk_of_loaded metric hend hloaded
      rw [hwalk, hwalk, ih]
      simp only [h]
    · rw [walk, walk, MarketCalendar.isBusinessDay_of_not_loaded hloaded]
      rfl

/-- The walk reports nothing just where every day is decided and every business day is present. -/
theorem walk_eq_nil_iff (hend : EndsUndecided calendar) (present : List Date) (left : ℕ)
    (cursor : Date) :
    walk calendar metric present left cursor = .ok [] ↔
      ∀ day : Date, cursor ≤ day → day.ordinal < cursor.ordinal + left →
        calendar.Loaded day ∧ (calendar.isBusinessDay day = .ok true → day ∈ present) := by
  induction left generalizing cursor with
  | zero =>
    refine iff_of_true rfl ?_
    intro day hle hlt
    rw [Date.le_iff] at hle
    omega
  | succ left ih =>
    by_cases hloaded : calendar.Loaded cursor
    · obtain ⟨next, answer, hnext, hanswer, hwalk⟩ := walk_of_loaded metric hend hloaded
      obtain ⟨rest, hrest⟩ := walk_returns metric hend present left next
      have hnil : walk calendar metric present (left + 1) cursor = .ok [] ↔
          ¬ (answer = true ∧ cursor ∉ present) ∧ walk calendar metric present left next = .ok [] := by
        rw [hwalk, hrest, Outcome.ok_bind]
        by_cases hgap : answer = true ∧ cursor ∉ present
        · simp [hgap]
        · simp [hgap]
      rw [hnil, ih]
      constructor
      · rintro ⟨hgap, hrest⟩ day hle hlt
        by_cases hday : day = cursor
        · subst hday
          refine ⟨hloaded, fun hbusiness => ?_⟩
          rw [hanswer] at hbusiness
          cases hbusiness
          by_contra habsent
          exact hgap ⟨rfl, habsent⟩
        · have hne : day.ordinal ≠ cursor.ordinal := fun hsame => hday (Date.ext_ordinal hsame)
          rw [Date.le_iff] at hle
          exact hrest day (Date.le_iff.mpr (by omega)) (by omega)
      · intro h
        refine ⟨?_, ?_⟩
        · rintro ⟨rfl, habsent⟩
          exact habsent ((h cursor (Date.le_iff.mpr le_rfl) (by omega)).2 hanswer)
        · intro day hle hlt
          rw [Date.le_iff] at hle
          exact h day (Date.le_iff.mpr (by omega)) (by omega)
    · obtain ⟨message, hmessage⟩ := walk_of_not_loaded metric present hloaded left
      rw [hmessage]
      refine iff_of_false (by simp) ?_
      intro h
      exact hloaded (h cursor (Date.le_iff.mpr le_rfl) (by omega)).1

end Walk

/-! ## Dates -/

theorem earliest_spec (first : Date) (rest : List Date) :
    earliest first rest ∈ first :: rest ∧ ∀ day ∈ first :: rest, earliest first rest ≤ day := by
  induction rest generalizing first with
  | nil => simp [earliest, Date.le_iff]
  | cons day rest ih =>
    have hstep : earliest first (day :: rest) =
        earliest (if day < first then day else first) rest := rfl
    obtain ⟨hmem, hle⟩ := ih (if day < first then day else first)
    rw [hstep]
    have hfirst := hle _ List.mem_cons_self
    refine ⟨?_, ?_⟩
    · obtain hsame | hrest := List.mem_cons.mp hmem
      · rw [hsame]
        split_ifs <;> simp
      · exact List.mem_cons_of_mem _ (List.mem_cons_of_mem _ hrest)
    · intro other hother
      rw [List.mem_cons, List.mem_cons] at hother
      simp only [Date.le_iff, Date.lt_iff] at hfirst hle ⊢
      obtain rfl | rfl | hother := hother
      · split_ifs at hfirst ⊢ <;> omega
      · split_ifs at hfirst ⊢ <;> omega
      · exact hle other (List.mem_cons_of_mem _ hother)

theorem latest_spec (first : Date) (rest : List Date) :
    latest first rest ∈ first :: rest ∧ ∀ day ∈ first :: rest, day ≤ latest first rest := by
  induction rest generalizing first with
  | nil => simp [latest, Date.le_iff]
  | cons day rest ih =>
    have hstep : latest first (day :: rest) =
        latest (if first < day then day else first) rest := rfl
    obtain ⟨hmem, hle⟩ := ih (if first < day then day else first)
    rw [hstep]
    have hfirst := hle _ List.mem_cons_self
    refine ⟨?_, ?_⟩
    · obtain hsame | hrest := List.mem_cons.mp hmem
      · rw [hsame]
        split_ifs <;> simp
      · exact List.mem_cons_of_mem _ (List.mem_cons_of_mem _ hrest)
    · intro other hother
      rw [List.mem_cons, List.mem_cons] at hother
      simp only [Date.le_iff, Date.lt_iff] at hfirst hle ⊢
      obtain rfl | rfl | hother := hother
      · split_ifs at hfirst ⊢ <;> omega
      · split_ifs at hfirst ⊢ <;> omega
      · exact hle other (List.mem_cons_of_mem _ hother)

/-- A frozen set of dates is told by its members. -/
theorem dateSet_eq_iff {dates dates' : List Date} :
    dateSet dates = dateSet dates' ↔ ∀ day, day ∈ dates ↔ day ∈ dates' := by
  have hmem : ∀ (dates : List Date) (day : Date), day.ordinal ∈ dateSet dates ↔ day ∈ dates := by
    intro dates day
    rw [dateSet, mem_sortedSet, List.mem_map]
    constructor
    · rintro ⟨other, hother, hsame⟩
      rwa [← Date.ext_ordinal hsame]
    · intro hday
      exact ⟨day, hday, rfl⟩
  constructor
  · intro h day
    rw [← hmem dates, ← hmem dates', h]
  · intro h
    apply sortedSet_congr
    intro ordinal
    simp only [List.mem_map, h]

section

variable {rows rows' : List NormalizedRow} {metric : String} {day : Date} {e : String}

theorem mem_datesOf :
    day ∈ datesOf rows metric ↔ ∃ row ∈ rows, row.metric = metric ∧ row.date = day := by
  simp [datesOf, and_assoc]

theorem mem_completenessErrors {metrics : List String} :
    e ∈ completenessErrors rows metrics ↔
      (∃ a ∈ metrics, ∃ b ∈ metrics, ¬ ∀ day, day ∈ datesOf rows a ↔ day ∈ datesOf rows b) ∧
        e = completenessText := by
  have hlength : 1 < (metrics.map fun metric => dateSet (datesOf rows metric)).dedup.length ↔
      ∃ a ∈ metrics, ∃ b ∈ metrics, dateSet (datesOf rows a) ≠ dateSet (datesOf rows b) := by
    rw [← List.card_toFinset, Finset.one_lt_card]
    simp
  rw [completenessErrors]
  simp only [← dateSet_eq_iff]
  split_ifs with h
  · simp [hlength.mp h]
  · rw [hlength] at h
    simp [h]

/-! ## What is reported -/

/-- What is reported of the days that the rows cover. -/
inductive DayReport (calendar : MarketCalendar) (rows : List NormalizedRow) : String → Prop
  | completeness {a b : NormalizedRow} : a ∈ rows → b ∈ rows →
      (¬ ∀ day, day ∈ datesOf rows a.metric ↔ day ∈ datesOf rows b.metric) →
      DayReport calendar rows completenessText
  | walk {row first last : NormalizedRow} {found : List String} {e : String} : row ∈ rows →
      first ∈ rows → last ∈ rows →
      (∀ other ∈ rows, first.date ≤ other.date ∧ other.date ≤ last.date) →
      MarketData.walk calendar row.metric (datesOf rows row.metric)
        (last.date.ordinal + 1 - first.date.ordinal) first.date = .ok found →
      e ∈ found → DayReport calendar rows e

variable {calendar : MarketCalendar}

/-- What the check reports, where the values can be compared. -/
theorem checkRows_spec (hend : EndsUndecided calendar) (h : Comparable rows) :
    ∃ errors, checkRows calendar rows = .ok (sortedSet errors) ∧
      ∀ e, e ∈ errors ↔ RowReport rows e ∨ DayReport calendar rows e := by
  obtain ⟨state, hstate⟩ := collected_iff.mpr h
  obtain ⟨herrors, -, hdates, hmetrics⟩ := collected_spec hstate
  rw [checkRows, hstate, Outcome.ok_bind]
  cases hrows : state.dates with
  | nil =>
    -- without a date there is no row
    rw [hrows] at hdates
    have hempty : rows = [] := List.map_eq_nil_iff.mp hdates.symm
    refine ⟨state.errors, rfl, ?_⟩
    intro e
    rw [herrors]
    refine ⟨Or.inl, ?_⟩
    rintro (hrow | hday)
    · exact hrow
    · subst hempty
      cases hday with
      | completeness ha => cases ha
      | walk hrow => cases hrow
  | cons first rest =>
    obtain ⟨hstart, hearliest⟩ := earliest_spec first rest
    obtain ⟨hclose, hlatest⟩ := latest_spec first rest
    rw [← hrows, hdates] at hstart hearliest hclose hlatest
    obtain ⟨start, hstartRow, hstartDate⟩ := List.mem_map.mp hstart
    obtain ⟨close, hcloseRow, hcloseDate⟩ := List.mem_map.mp hclose
    have hgaps : ∃ gaps, Outcome.collect (fun metric => walk calendar metric (datesOf rows metric)
        ((latest first rest).ordinal + 1 - (earliest first rest).ordinal) (earliest first rest))
          state.metrics = .ok gaps ∧ ∀ gap ∈ gaps, True := by
      refine Outcome.collect_forall_iff.mpr fun metric _ => ?_
      obtain ⟨found, hfound⟩ := walk_returns metric hend (datesOf rows metric)
        ((latest first rest).ordinal + 1 - (earliest first rest).ordinal) (earliest first rest)
      exact ⟨found, hfound, trivial⟩
    obtain ⟨gaps, hgaps, -⟩ := hgaps
    refine ⟨state.errors ++ completenessErrors rows state.metrics ++ gaps.flatten, ?_, ?_⟩
    · dsimp only
      rw [hgaps]
      rfl
    · intro e
      rw [List.mem_append, List.mem_append, herrors, mem_completenessErrors, List.mem_flatten,
        or_assoc]
      apply or_congr_right
      constructor
      · rintro (⟨⟨a, ha, b, hb, hdiffer⟩, rfl⟩ | ⟨found, hfound, he⟩)
        · rw [hmetrics] at ha hb
          obtain ⟨rowA, hrowA, rfl⟩ := List.mem_map.mp ha
          obtain ⟨rowB, hrowB, rfl⟩ := List.mem_map.mp hb
          exact .completeness hrowA hrowB hdiffer
        · obtain ⟨metric, hmetric, hwalk⟩ := Outcome.exists_of_mem_collect hgaps hfound
          rw [hmetrics] at hmetric
          obtain ⟨row, hrow, rfl⟩ := List.mem_map.mp hmetric
          rw [← hstartDate, ← hcloseDate] at hwalk
          refine .walk hrow hstartRow hcloseRow ?_ hwalk he
          intro other hother
          rw [hstartDate, hcloseDate]
          have hdate : other.date ∈ rows.map NormalizedRow.date := List.mem_map_of_mem hother
          exact ⟨hearliest _ hdate, hlatest _ hdate⟩
      · intro h
        cases h with
        | @completeness rowA rowB ha hb hdiffer =>
          refine Or.inl ⟨⟨rowA.metric, ?_, rowB.metric, ?_, hdiffer⟩, rfl⟩
          · exact (hmetrics _).mpr (List.mem_map_of_mem ha)
          · exact (hmetrics _).mpr (List.mem_map_of_mem hb)
        | @walk row low high found e hrow hlow hhigh hbounds hwalk he =>
          -- the earliest date and the latest are the ones the loop found
          have hlowDate : low.date = earliest first rest := by
            have hle := (hbounds start hstartRow).1
            have hge := hearliest _ (List.mem_map_of_mem hlow)
            rw [hstartDate] at hle
            rw [Date.le_iff] at hle hge
            exact Date.ext_ordinal (by omega)
          have hhighDate : high.date = latest first rest := by
            have hge := (hbounds close hcloseRow).2
            have hle := hlatest _ (List.mem_map_of_mem hhigh)
            rw [hcloseDate] at hge
            rw [Date.le_iff] at hle hge
            exact Date.ext_ordinal (by omega)
          rw [hlowDate, hhighDate] at hwalk
          have hmetric : row.metric ∈ state.metrics :=
            (hmetrics _).mpr (List.mem_map_of_mem hrow)
          obtain ⟨found', hfound', hwalk'⟩ := Outcome.mem_of_collect hgaps hmetric
          rw [hwalk] at hwalk'
          cases hwalk'
          exact Or.inr ⟨found, hfound', he⟩

/-! ## The order of the rows -/

theorem valuesUnder_perm (h : rows.Perm rows') (key : String × String) :
    (valuesUnder key rows).Perm (valuesUnder key rows') := (h.filter _).map _

theorem Comparable.perm (hrows : Comparable rows) (h : rows.Perm rows') : Comparable rows' := by
  refine ⟨fun row hrow => hrows.percents row (h.mem_iff.mpr hrow), ?_⟩
  intro key hlength value hvalue
  have hperm := valuesUnder_perm h key
  exact hrows.repeated key (hperm.length_eq ▸ hlength) value (hperm.mem_iff.mpr hvalue)

theorem RowReport.perm (hreport : RowReport rows e) (h : rows.Perm rows') : RowReport rows' e := by
  cases hreport with
  | unit hrow hunit => exact .unit (h.mem_iff.mp hrow) hunit
  | range hrow hpercent hrange => exact .range (h.mem_iff.mp hrow) hpercent hrange
  | @duplicate key hdiffer =>
    apply RowReport.duplicate
    rwa [← (valuesUnder_perm h key).pairwise_iff fun hsame => Decimal.Same.symm hsame]

theorem mem_datesOf_perm (h : rows.Perm rows') (metric : String) (day : Date) :
    day ∈ datesOf rows metric ↔ day ∈ datesOf rows' metric :=
  ((h.filter _).map _).mem_iff

theorem DayReport.perm (hend : EndsUndecided calendar) (hreport : DayReport calendar rows e)
    (h : rows.Perm rows') : DayReport calendar rows' e := by
  cases hreport with
  | completeness ha hb hdiffer =>
    refine .completeness (h.mem_iff.mp ha) (h.mem_iff.mp hb) ?_
    simpa only [mem_datesOf_perm h] using hdiffer
  | walk hrow hfirst hlast hbounds hwalk he =>
    refine .walk (h.mem_iff.mp hrow) (h.mem_iff.mp hfirst) (h.mem_iff.mp hlast) ?_ ?_ he
    · intro other hother
      exact hbounds other (h.mem_iff.mpr hother)
    · rw [← hwalk]
      exact (walk_congr _ hend (mem_datesOf_perm h _) _ _).symm

/-- The answer does not depend on the order of the rows. -/
theorem checkRows_perm (hend : EndsUndecided calendar) (hrows : Comparable rows)
    (h : rows.Perm rows') : checkRows calendar rows' = checkRows calendar rows := by
  obtain ⟨errors, hchecked, herrors⟩ := checkRows_spec hend hrows
  obtain ⟨errors', hchecked', herrors'⟩ := checkRows_spec hend (hrows.perm h)
  rw [hchecked, hchecked']
  refine congrArg _ (sortedSet_congr fun e => ?_)
  rw [herrors, herrors']
  constructor
  · rintro (hrow | hday)
    · exact Or.inl (hrow.perm h.symm)
    · exact Or.inr (hday.perm hend h.symm)
  · rintro (hrow | hday)
    · exact Or.inl (hrow.perm h)
    · exact Or.inr (hday.perm hend h)

/-! ## Clean rows -/

/-- The rows that nothing is wrong with. -/
structure Clean (calendar : MarketCalendar) (rows : List NormalizedRow) : Prop where
  units_allowed : ∀ row ∈ rows, row.unit ∈ allowedUnits
  percents_admitted : ∀ row ∈ rows, row.unit = "percent" → Admitted row.value
  one_value : rows.Pairwise fun a b =>
    a.date = b.date → a.metric = b.metric → Decimal.Same a.value b.value
  same_dates : ∀ a ∈ rows, ∀ b ∈ rows, ∃ c ∈ rows, c.metric = a.metric ∧ c.date = b.date
  years_loaded : ∀ a ∈ rows, ∀ b ∈ rows, ∀ day, a.date ≤ day → day ≤ b.date → calendar.Loaded day
  business_days_present : ∀ a ∈ rows, ∀ b ∈ rows, ∀ day, a.date ≤ day → day ≤ b.date →
    calendar.isBusinessDay day = .ok true → ∀ c ∈ rows, ∃ d ∈ rows, d.metric = c.metric ∧ d.date = day

theorem key_eq_iff {a b : NormalizedRow} :
    a.key = b.key ↔ a.date = b.date ∧ a.metric = b.metric := by
  rw [NormalizedRow.key, NormalizedRow.key, Prod.mk.injEq]
  exact and_congr_left' ⟨Date.isoformat_injective, congrArg _⟩

/-- Every key has one value just where rows of one date and metric have. -/
theorem one_value_iff :
    (∀ key, (valuesUnder key rows).Pairwise Decimal.Same) ↔ rows.Pairwise fun a b =>
      a.date = b.date → a.metric = b.metric → Decimal.Same a.value b.value := by
  have hkey : ∀ key, (valuesUnder key rows).Pairwise Decimal.Same ↔
      rows.Pairwise fun a b => a.key = key → b.key = key → Decimal.Same a.value b.value := by
    intro key
    rw [valuesUnder, List.pairwise_map, List.pairwise_filter]
    simp only [decide_eq_true_eq]
  simp only [hkey, List.pairwise_iff_getElem]
  constructor
  · intro h i j hi hj hlt hdate hmetric
    exact h rows[i].key i j hi hj hlt rfl (key_eq_iff.mpr ⟨hdate, hmetric⟩).symm
  · intro h key i j hi hj hlt hfirst hsecond
    obtain ⟨hdate, hmetric⟩ := key_eq_iff.mp (hfirst.trans hsecond.symm)
    exact h i j hi hj hlt hdate hmetric

/-- There is a row of the earliest date and one of the latest. -/
theorem exists_bounds (h : rows ≠ []) : ∃ first ∈ rows, ∃ last ∈ rows,
    ∀ other ∈ rows, first.date ≤ other.date ∧ other.date ≤ last.date := by
  obtain ⟨row, rest, rfl⟩ := List.exists_cons_of_ne_nil h
  obtain ⟨hstart, hearliest⟩ := earliest_spec row.date (rest.map NormalizedRow.date)
  obtain ⟨hclose, hlatest⟩ := latest_spec row.date (rest.map NormalizedRow.date)
  rw [← List.map_cons] at hstart hearliest hclose hlatest
  obtain ⟨first, hfirst, hfirstDate⟩ := List.mem_map.mp hstart
  obtain ⟨last, hlast, hlastDate⟩ := List.mem_map.mp hclose
  refine ⟨first, hfirst, last, hlast, ?_⟩
  intro other hother
  have hdate := List.mem_map_of_mem (f := NormalizedRow.date) hother
  rw [hfirstDate, hlastDate]
  exact ⟨hearliest _ hdate, hlatest _ hdate⟩

/-- Nothing is reported of the rows themselves just where the first three conditions hold. -/
theorem no_rowReport_iff :
    (∀ e, ¬ RowReport rows e) ↔ (∀ row ∈ rows, row.unit ∈ allowedUnits) ∧
      (∀ row ∈ rows, row.unit = "percent" → Admitted row.value) ∧
      ∀ key, (valuesUnder key rows).Pairwise Decimal.Same := by
  constructor
  · intro h
    refine ⟨?_, ?_, ?_⟩
    · intro row hrow
      by_contra hunit
      exact h _ (.unit hrow hunit)
    · intro row hrow hpercent
      by_contra hrange
      exact h _ (.range hrow hpercent hrange)
    · intro key
      by_contra hdiffer
      exact h _ (.duplicate hdiffer)
  · rintro ⟨hunits, hpercents, hvalues⟩ e hreport
    cases hreport with
    | unit hrow hunit => exact hunit (hunits _ hrow)
    | range hrow hpercent hrange => exact hrange (hpercents _ hrow hpercent)
    | duplicate hdiffer => exact hdiffer (hvalues _)

/-- Nothing is reported of the days just where the last three conditions hold. -/
theorem no_dayReport_iff (hend : EndsUndecided calendar) :
    (∀ e, ¬ DayReport calendar rows e) ↔
      (∀ a ∈ rows, ∀ b ∈ rows, ∃ c ∈ rows, c.metric = a.metric ∧ c.date = b.date) ∧
      (∀ a ∈ rows, ∀ b ∈ rows, ∀ day, a.date ≤ day → day ≤ b.date → calendar.Loaded day) ∧
      ∀ a ∈ rows, ∀ b ∈ rows, ∀ day, a.date ≤ day → day ≤ b.date →
        calendar.isBusinessDay day = .ok true →
          ∀ c ∈ rows, ∃ d ∈ rows, d.metric = c.metric ∧ d.date = day := by
  constructor
  · intro h
    by_cases hempty : rows = []
    · subst hempty
      simp
    obtain ⟨first, hfirst, last, hlast, hbounds⟩ := exists_bounds hempty
    have hdays : ∀ row ∈ rows, ∀ day : Date, first.date ≤ day → day ≤ last.date →
        calendar.Loaded day ∧
          (calendar.isBusinessDay day = .ok true → day ∈ datesOf rows row.metric) := by
      intro row hrow day hlow hhigh
      obtain ⟨found, hfound⟩ := walk_returns row.metric hend (datesOf rows row.metric)
        (last.date.ordinal + 1 - first.date.ordinal) first.date
      have hnil : found = [] := by
        apply List.eq_nil_iff_forall_not_mem.mpr
        intro e he
        exact h e (.walk hrow hfirst hlast hbounds hfound he)
      rw [hnil, walk_eq_nil_iff _ hend] at hfound
      rw [Date.le_iff] at hlow hhigh
      exact hfound day hlow (by omega)
    have hwithin : ∀ a ∈ rows, ∀ b ∈ rows, ∀ day : Date, a.date ≤ day → day ≤ b.date →
        first.date ≤ day ∧ day ≤ last.date := by
      intro a ha b hb day hlow hhigh
      have hfirstLe := (hbounds a ha).1
      have hlastLe := (hbounds b hb).2
      rw [Date.le_iff] at *
      exact ⟨hfirstLe.trans hlow, hhigh.trans hlastLe⟩
    refine ⟨?_, ?_, ?_⟩
    · intro a ha b hb
      by_contra hmissing
      refine h _ (.completeness ha hb ?_)
      intro hsame
      have hday : b.date ∈ datesOf rows b.metric := mem_datesOf.mpr ⟨b, hb, rfl, rfl⟩
      exact hmissing (mem_datesOf.mp ((hsame _).mpr hday))
    · intro a ha b hb day hlow hhigh
      obtain ⟨hfirstLe, hlastLe⟩ := hwithin a ha b hb day hlow hhigh
      exact (hdays a ha day hfirstLe hlastLe).1
    · intro a ha b hb day hlow hhigh hbusiness c hc
      obtain ⟨hfirstLe, hlastLe⟩ := hwithin a ha b hb day hlow hhigh
      exact mem_datesOf.mp ((hdays c hc day hfirstLe hlastLe).2 hbusiness)
  · rintro ⟨hsame, hloaded, hpresent⟩ e hreport
    cases hreport with
    | @completeness a b ha hb hdiffer =>
      apply hdiffer
      intro day
      constructor
      · intro hday
        obtain ⟨row, hrow, -, rfl⟩ := mem_datesOf.mp hday
        exact mem_datesOf.mpr (hsame b hb row hrow)
      · intro hday
        obtain ⟨row, hrow, -, rfl⟩ := mem_datesOf.mp hday
        exact mem_datesOf.mpr (hsame a ha row hrow)
    | @walk row first last found e hrow hfirst hlast hbounds hwalk he =>
      have hnil := (walk_eq_nil_iff row.metric hend (datesOf rows row.metric)
        (last.date.ordinal + 1 - first.date.ordinal) first.date).mpr (by
          intro day hle hlt
          have hhigh : day ≤ last.date := by
            rw [Date.le_iff] at hle ⊢
            omega
          exact ⟨hloaded first hfirst last hlast day hle hhigh, fun hbusiness =>
            mem_datesOf.mpr (hpresent first hfirst last hlast day hle hhigh hbusiness row hrow)⟩)
      rw [hwalk] at hnil
      cases hnil
      cases he

theorem clean_iff (hend : EndsUndecided calendar) :
    Clean calendar rows ↔ ∀ e, ¬ (RowReport rows e ∨ DayReport calendar rows e) := by
  have hsplit : (∀ e, ¬ (RowReport rows e ∨ DayReport calendar rows e)) ↔
      (∀ e, ¬ RowReport rows e) ∧ ∀ e, ¬ DayReport calendar rows e := by
    simp only [not_or, forall_and]
  rw [hsplit, no_rowReport_iff, no_dayReport_iff hend, one_value_iff]
  constructor
  · intro h
    exact ⟨⟨h.units_allowed, h.percents_admitted, h.one_value⟩, h.same_dates, h.years_loaded,
      h.business_days_present⟩
  · rintro ⟨⟨hunits, hpercents, hvalues⟩, hsame, hloaded, hpresent⟩
    exact ⟨hunits, hpercents, hvalues, hsame, hloaded, hpresent⟩

/-- The check answers, with the same list for every order of the rows, and the list is empty just
where the rows are clean. -/
def Validates (rows : List NormalizedRow) : Prop :=
  ∃ errors, (∀ rows', rows.Perm rows' → validateRows rows' = .ok errors) ∧
    (errors = [] ↔ Clean usGovernmentSecurities rows)

theorem usGovernmentSecurities_ends : EndsUndecided usGovernmentSecurities := by
  intro day hday hloaded
  have hyear : day.year = 9999 := by
    rw [Date.year, hday]
    rfl
  rw [MarketCalendar.Loaded, hyear] at hloaded
  revert hloaded
  decide +kernel

/-- The check does as it says just where the values of the rows can be compared. -/
theorem validate_rows_iff (rows : List NormalizedRow) : Validates rows ↔ Comparable rows := by
  have hend := usGovernmentSecurities_ends
  constructor
  · rintro ⟨errors, hchecked, -⟩
    have hrun := hchecked rows (List.Perm.refl rows)
    rw [validateRows, checkRows, Outcome.bind_eq_ok] at hrun
    obtain ⟨state, hstate, -⟩ := hrun
    exact collected_iff.mp ⟨state, hstate⟩
  · intro hrows
    obtain ⟨errors, hchecked, herrors⟩ := checkRows_spec hend hrows
    refine ⟨sortedSet errors, ?_, ?_⟩
    · intro rows' hperm
      rw [validateRows, checkRows_perm hend hrows hperm, hchecked]
    · rw [sortedSet_eq_nil, List.eq_nil_iff_forall_not_mem, clean_iff hend]
      simp only [herrors]

end

/-- A rate that was published as a NaN. -/
def unpublishedRate : NormalizedRow := ⟨.of 2027 3 9, "SOFR", .nan false false 0, "percent"⟩

/-- A volume that is a signalling NaN. -/
def signallingVolume : NormalizedRow :=
  ⟨.of 2027 3 9, "REPO-DVP_TV_TOT-F", .nan false true 0, "usd"⟩

/-- The check raises on the rate, and on the volume where it comes twice. -/
theorem validate_rows_misses :
    validateRows [unpublishedRate] = .error .invalidOperation ∧
      validateRows [signallingVolume, signallingVolume] = .error .invalidOperation ∧
      ¬ ∀ rows, Validates rows := by
  have hraises : validateRows [unpublishedRate] = .error .invalidOperation := rfl
  refine ⟨hraises, by decide +kernel, ?_⟩
  intro hall
  obtain ⟨errors, hchecked, -⟩ := hall [unpublishedRate]
  rw [hchecked _ (List.Perm.refl _)] at hraises
  cases hraises

end MarketData

end Atreides
