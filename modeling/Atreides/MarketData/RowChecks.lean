import Atreides.MarketData.Normalize
import Atreides.Foundation.Decimal.SameValue
import Atreides.Foundation.Decimal.Values

/-!
# What the check of the rows finds

The loop over the rows reports a row by itself, and a key by the values that come under it one
after the other. As having the same value is symmetric and passes along, a key is reported just
where two of its values differ, wherever they stand.

## Main definitions

* `valuesUnder` — the values of a key
* `Comparable` — the rows whose values can be compared
* `RowReport` — what is reported of the rows themselves

## Main results

* `collectRow_spec`, `collectRow_returns_iff` — what one row does
* `collected_spec`, `collected_iff` — what the loop over the rows leaves, and when it does
-/

namespace Atreides

namespace MarketData

/-! ## One row -/

/-- A percent in the admitted range. -/
def Admitted (value : Decimal) : Prop := ∃ v, value.HasValue v ∧ -10 ≤ v ∧ v ≤ 100

theorem inRange_finite (d : FiniteDecimal) :
    inRange (.finite d) = .ok (decide (-10 ≤ d.value ∧ d.value ≤ 100)) := by
  have hmin : rateMin.HasValue (-10) :=
    ⟨⟨true, 10, 0⟩, rfl, by norm_num [FiniteDecimal.value, FiniteDecimal.toInt]⟩
  have hmax : rateMax.HasValue 100 :=
    ⟨⟨false, 100, 0⟩, rfl, by norm_num [FiniteDecimal.value, FiniteDecimal.toInt]⟩
  have hd : (Decimal.finite d).HasValue d.value := ⟨d, rfl, rfl⟩
  rw [inRange, hmin.le hd, Outcome.ok_bind, hd.le hmax]
  by_cases hlow : -10 ≤ d.value
  · simp [hlow]
  · simp [hlow]

theorem inRange_eq_true_iff {value : Decimal} : inRange value = .ok true ↔ Admitted value := by
  cases value with
  | finite d =>
    rw [inRange_finite, Except.ok.injEq, decide_eq_true_iff]
    constructor
    · rintro ⟨hlow, hhigh⟩
      exact ⟨d.value, ⟨d, rfl, rfl⟩, hlow, hhigh⟩
    · rintro ⟨v, ⟨d', hd, rfl⟩, hlow, hhigh⟩
      cases hd
      exact ⟨hlow, hhigh⟩
  | infinite negative =>
    constructor
    · intro h
      cases negative <;> cases h
    · rintro ⟨v, ⟨d, hd, -⟩, -⟩
      cases hd
  | nan negative signaling payload =>
    constructor
    · intro h
      cases h
    · rintro ⟨v, ⟨d, hd, -⟩, -⟩
      cases hd

/-- A percent is judged unless it is no number. -/
theorem inRange_returns_iff {value : Decimal} :
    (inRange value).Returns ↔ value.isNaN = false := by
  cases value with
  | finite d =>
    rw [inRange_finite]
    exact iff_of_true ⟨_, rfl⟩ rfl
  | infinite negative => cases negative <;> exact iff_of_true ⟨_, rfl⟩ rfl
  | nan negative signaling payload =>
    refine iff_of_false ?_ (by simp [Decimal.isNaN])
    rintro ⟨_, h⟩
    cases h

section

variable {row : NormalizedRow} {rows : List NormalizedRow} {found : List String} {e : String}

theorem mem_unitErrors : e ∈ unitErrors row ↔ row.unit ∉ allowedUnits ∧ e = unitText row := by
  rw [unitErrors]
  split_ifs with hallowed <;> simp [hallowed]

theorem mem_rangeErrors (h : rangeErrors row = .ok found) :
    e ∈ found ↔ (row.unit = "percent" ∧ ¬ Admitted row.value) ∧ e = rangeText row := by
  rw [rangeErrors] at h
  split_ifs at h with hpercent
  · obtain ⟨inside, hinside, hfound⟩ := Outcome.bind_eq_ok.mp h
    rw [← inRange_eq_true_iff, hinside]
    cases inside
    · cases hfound
      simp [hpercent]
    · cases hfound
      simp
  · cases h
    simp [hpercent]

theorem rangeErrors_returns_iff :
    (rangeErrors row).Returns ↔ (row.unit = "percent" → row.value.isNaN = false) := by
  rw [rangeErrors, ← inRange_returns_iff]
  split_ifs with hpercent
  · constructor
    · rintro ⟨found, h⟩ -
      obtain ⟨inside, hinside, -⟩ := Outcome.bind_eq_ok.mp h
      exact ⟨inside, hinside⟩
    · intro h
      obtain ⟨inside, hinside⟩ := h hpercent
      exact ⟨_, Outcome.bind_eq_ok.mpr ⟨inside, hinside, rfl⟩⟩
  · simp [hpercent]

variable {seen : Dict (String × String) Decimal}

theorem mem_duplicateErrors (h : duplicateErrors seen row = .ok found) :
    e ∈ found ↔ (∃ earlier, seen.get? row.key = some earlier ∧ ¬ Decimal.Same earlier row.value) ∧
      e = duplicateText row.key := by
  rw [duplicateErrors] at h
  rcases hget : seen.get? row.key with _ | earlier
  · rw [hget] at h
    cases h
    simp
  · rw [hget] at h
    obtain ⟨same, hsame, hfound⟩ := Outcome.bind_eq_ok.mp h
    cases same
    · cases hfound
      simp [Decimal.Same, hsame]
    · cases hfound
      simp [Decimal.Same, hsame]

theorem duplicateErrors_returns_iff :
    (duplicateErrors seen row).Returns ↔ ∀ earlier, seen.get? row.key = some earlier →
      earlier.isSignaling = false ∧ row.value.isSignaling = false := by
  rw [duplicateErrors]
  rcases hget : seen.get? row.key with _ | earlier
  · simp
  · constructor
    · rintro ⟨found, h⟩ other hother
      cases hother
      obtain ⟨same, hsame, -⟩ := Outcome.bind_eq_ok.mp h
      exact Decimal.eq_returns_iff.mp ⟨same, hsame⟩
    · intro h
      obtain ⟨same, hsame⟩ := Decimal.eq_returns_iff.mpr (h earlier rfl)
      exact ⟨_, Outcome.bind_eq_ok.mpr ⟨same, hsame, rfl⟩⟩

/-! ## The loop over the rows -/

/-- The values of a key. -/
def valuesUnder (key : String × String) (rows : List NormalizedRow) : List Decimal :=
  (rows.filter fun row => row.key = key).map NormalizedRow.value

theorem valuesUnder_concat_self : valuesUnder row.key (rows ++ [row]) =
    valuesUnder row.key rows ++ [row.value] := by
  simp [valuesUnder]

theorem valuesUnder_concat_of_ne {key : String × String} (h : row.key ≠ key) :
    valuesUnder key (rows ++ [row]) = valuesUnder key rows := by
  simp [valuesUnder, h]

/-- The rows whose values can be compared: no percent is a NaN, and no value of a key that comes
again is a signalling one. -/
structure Comparable (rows : List NormalizedRow) : Prop where
  percents : ∀ row ∈ rows, row.unit = "percent" → row.value.isNaN = false
  repeated : ∀ key, 2 ≤ (valuesUnder key rows).length →
    ∀ value ∈ valuesUnder key rows, value.isSignaling = false

/-- What is reported of the rows, whatever the days they are of. -/
inductive RowReport (rows : List NormalizedRow) : String → Prop
  | unit {row : NormalizedRow} : row ∈ rows → row.unit ∉ allowedUnits → RowReport rows (unitText row)
  | range {row : NormalizedRow} : row ∈ rows → row.unit = "percent" → ¬ Admitted row.value →
      RowReport rows (rangeText row)
  | duplicate {key : String × String} : ¬ (valuesUnder key rows).Pairwise Decimal.Same →
      RowReport rows (duplicateText key)

/-- What the loop has collected of some rows. -/
structure Collects (rows : List NormalizedRow) (state : Collected) : Prop where
  errors : ∀ e, e ∈ state.errors ↔ RowReport rows e
  seen : ∀ key, state.seen.get? key = (valuesUnder key rows).getLast?
  dates : state.dates = rows.map NormalizedRow.date
  metrics : ∀ metric, metric ∈ state.metrics ↔ metric ∈ rows.map NormalizedRow.metric

/-- What one more row adds to what is reported. -/
theorem rowReport_concat : RowReport (rows ++ [row]) e ↔ RowReport rows e ∨
    (row.unit ∉ allowedUnits ∧ e = unitText row) ∨
    ((row.unit = "percent" ∧ ¬ Admitted row.value) ∧ e = rangeText row) ∨
    ((∃ earlier, (valuesUnder row.key rows).getLast? = some earlier ∧
      ¬ Decimal.Same earlier row.value) ∧ e = duplicateText row.key) := by
  have hpairwise : (valuesUnder row.key rows ++ [row.value]).Pairwise Decimal.Same ↔
      (valuesUnder row.key rows).Pairwise Decimal.Same ∧ ∀ last,
        (valuesUnder row.key rows).getLast? = some last → Decimal.Same last row.value :=
    pairwise_concat_iff (R := Decimal.Same) fun _ _ _ => Decimal.Same.trans
  constructor
  · intro h
    cases h with
    | @unit other hother hunit =>
      obtain hrows | hlast := List.mem_append.mp hother
      · exact Or.inl (.unit hrows hunit)
      · obtain rfl := List.mem_singleton.mp hlast
        exact Or.inr (Or.inl ⟨hunit, rfl⟩)
    | @range other hother hpercent hrange =>
      obtain hrows | hlast := List.mem_append.mp hother
      · exact Or.inl (.range hrows hpercent hrange)
      · obtain rfl := List.mem_singleton.mp hlast
        exact Or.inr (Or.inr (Or.inl ⟨⟨hpercent, hrange⟩, rfl⟩))
    | @duplicate key hdiffer =>
      by_cases hkey : row.key = key
      · subst hkey
        rw [valuesUnder_concat_self, hpairwise, not_and_or] at hdiffer
        obtain hbefore | hlast := hdiffer
        · exact Or.inl (.duplicate hbefore)
        · push Not at hlast
          exact Or.inr (Or.inr (Or.inr ⟨hlast, rfl⟩))
      · rw [valuesUnder_concat_of_ne hkey] at hdiffer
        exact Or.inl (.duplicate hdiffer)
  · have hmem : row ∈ rows ++ [row] := List.mem_append_right _ List.mem_cons_self
    rintro (h | ⟨hunit, rfl⟩ | ⟨⟨hpercent, hrange⟩, rfl⟩ | ⟨hlast, rfl⟩)
    · cases h with
      | unit hother hunit => exact .unit (List.mem_append_left _ hother) hunit
      | range hother hpercent hrange => exact .range (List.mem_append_left _ hother) hpercent hrange
      | @duplicate key hdiffer =>
        apply RowReport.duplicate
        by_cases hkey : row.key = key
        · subst hkey
          rw [valuesUnder_concat_self, hpairwise]
          exact fun h => hdiffer h.1
        · rwa [valuesUnder_concat_of_ne hkey]
    · exact .unit hmem hunit
    · exact .range hmem hpercent hrange
    · apply RowReport.duplicate
      rw [valuesUnder_concat_self, hpairwise, not_and_or]
      push Not
      exact Or.inr hlast

/-- What one row does to what was collected. -/
theorem collectRow_spec {state state' : Collected} (hstate : Collects rows state)
    (h : collectRow state row = .ok state') : Collects (rows ++ [row]) state' := by
  rw [collectRow, Outcome.bind_eq_ok] at h
  obtain ⟨range, hrange, h⟩ := h
  obtain ⟨duplicate, hduplicate, h⟩ := Outcome.bind_eq_ok.mp h
  cases h
  refine ⟨?_, ?_, ?_, ?_⟩
  · intro e
    rw [rowReport_concat, List.mem_append, List.mem_append, List.mem_append, hstate.errors,
      mem_unitErrors, mem_rangeErrors hrange, mem_duplicateErrors hduplicate, hstate.seen, or_assoc,
      or_assoc]
  · intro key
    rw [Dict.get?_set]
    split_ifs with hkey
    · subst hkey
      rw [valuesUnder_concat_self, List.getLast?_concat]
    · rw [valuesUnder_concat_of_ne hkey, hstate.seen]
  · simp [hstate.dates]
  · intro metric
    rw [Dict.mem_noteKey, hstate.metrics]
    simp [eq_comm]

/-- Where a list has something before its last item, all its items are of a kind just where those
before are, if they are more than one, and so are the last two. -/
theorem repeated_concat_iff {α : Type} {P : α → Prop} {xs : List α} {x : α} :
    (2 ≤ (xs ++ [x]).length → ∀ a ∈ xs ++ [x], P a) ↔
      (2 ≤ xs.length → ∀ a ∈ xs, P a) ∧ ∀ last, xs.getLast? = some last → P last ∧ P x := by
  induction xs using List.reverseRecOn with
  | nil => simp
  | append_singleton front last _ =>
    rw [List.getLast?_concat]
    constructor
    · intro h
      have hall := h (by simp)
      refine ⟨fun _ a ha => hall a (List.mem_append_left _ ha), ?_⟩
      intro other hother
      cases hother
      exact ⟨hall last (by simp), hall x (by simp)⟩
    · rintro ⟨hbefore, hlast⟩ - a ha
      obtain ⟨hp, hx⟩ := hlast last rfl
      obtain ha | ha := List.mem_append.mp ha
      · cases front with
        | nil =>
          obtain rfl := List.mem_singleton.mp ha
          exact hp
        | cons first rest => exact hbefore (by simp) a ha
      · rw [List.mem_singleton.mp ha]
        exact hx

theorem comparable_of_concat (h : Comparable (rows ++ [row])) : Comparable rows := by
  refine ⟨fun other hother => h.percents other (List.mem_append_left _ hother), ?_⟩
  intro key
  by_cases hkey : row.key = key
  · have hown := h.repeated key
    subst hkey
    rw [valuesUnder_concat_self, repeated_concat_iff] at hown
    exact hown.1
  · have hother := h.repeated key
    rwa [valuesUnder_concat_of_ne hkey] at hother

/-- The rows can be compared with one more row just where that row can be compared with what was
collected. -/
theorem comparable_concat {state : Collected} (hstate : Collects rows state) :
    Comparable (rows ++ [row]) ↔ Comparable rows ∧ (collectRow state row).Returns := by
  have hreturns : (collectRow state row).Returns ↔
      (rangeErrors row).Returns ∧ (duplicateErrors state.seen row).Returns := by
    constructor
    · rintro ⟨state', h⟩
      rw [collectRow, Outcome.bind_eq_ok] at h
      obtain ⟨range, hrange, h⟩ := h
      obtain ⟨duplicate, hduplicate, -⟩ := Outcome.bind_eq_ok.mp h
      exact ⟨⟨range, hrange⟩, duplicate, hduplicate⟩
    · rintro ⟨⟨range, hrange⟩, duplicate, hduplicate⟩
      rw [collectRow, hrange, Outcome.ok_bind, hduplicate]
      exact ⟨_, rfl⟩
  rw [hreturns, rangeErrors_returns_iff, duplicateErrors_returns_iff, hstate.seen]
  constructor
  · intro h
    have hown := h.repeated row.key
    rw [valuesUnder_concat_self, repeated_concat_iff] at hown
    exact ⟨comparable_of_concat h, h.percents row (by simp), hown.2⟩
  · rintro ⟨hrows, hpercent, hlast⟩
    refine ⟨?_, ?_⟩
    · intro other hother
      obtain hmem | hmem := List.mem_append.mp hother
      · exact hrows.percents other hmem
      · rw [List.mem_singleton.mp hmem]
        exact hpercent
    · intro key
      by_cases hkey : row.key = key
      · subst hkey
        rw [valuesUnder_concat_self, repeated_concat_iff]
        exact ⟨hrows.repeated row.key, hlast⟩
      · rw [valuesUnder_concat_of_ne hkey]
        exact hrows.repeated key

theorem collects_nil : Collects [] nothingCollected := by
  refine ⟨?_, fun _ => rfl, rfl, fun _ => Iff.rfl⟩
  intro e
  refine iff_of_false List.not_mem_nil ?_
  intro h
  cases h with
  | unit hrow => cases hrow
  | range hrow => cases hrow
  | duplicate hdiffer => exact hdiffer List.Pairwise.nil

/-- What the loop over the rows leaves. -/
theorem collected_spec {state : Collected}
    (h : Outcome.foldSteps collectRow nothingCollected rows = .ok state) : Collects rows state := by
  induction rows using List.reverseRecOn generalizing state with
  | nil =>
    cases h
    exact collects_nil
  | append_singleton rows row ih =>
    rw [Outcome.foldSteps_append, Outcome.bind_eq_ok] at h
    obtain ⟨before, hbefore, h⟩ := h
    rw [Outcome.foldSteps_cons, Outcome.bind_eq_ok] at h
    obtain ⟨after, hafter, hlast⟩ := h
    cases hlast
    exact collectRow_spec (ih hbefore) hafter

/-- The loop comes to its end just where the values can be compared. -/
theorem collected_iff :
    (∃ state, Outcome.foldSteps collectRow nothingCollected rows = .ok state) ↔
      Comparable rows := by
  induction rows using List.reverseRecOn with
  | nil =>
    refine iff_of_true ⟨_, rfl⟩ ⟨?_, ?_⟩
    · intro row hrow
      cases hrow
    · intro key hlength
      cases hlength
  | append_singleton rows row ih =>
    rw [Outcome.foldSteps_append]
    constructor
    · rintro ⟨state, h⟩
      obtain ⟨before, hbefore, h⟩ := Outcome.bind_eq_ok.mp h
      obtain ⟨after, hafter, -⟩ := Outcome.bind_eq_ok.mp h
      exact (comparable_concat (collected_spec hbefore)).mpr ⟨ih.mp ⟨before, hbefore⟩, after, hafter⟩
    · intro h
      obtain ⟨before, hbefore⟩ := ih.mpr (comparable_of_concat h)
      obtain ⟨-, after, hafter⟩ := (comparable_concat (collected_spec hbefore)).mp h
      rw [hbefore, Outcome.ok_bind, Outcome.foldSteps_cons, hafter, Outcome.ok_bind]
      exact ⟨after, rfl⟩

end

end MarketData

end Atreides
