import Atreides.Margin.Invariance

/-!
# What a margin result says

A result passes precisely where neither the maintenance rule nor the house calls for money: what
decides is the larger of the two requirements. The initial requirement of what was newly traded
has no part in it, so that a result may pass with an initial call outstanding. The result does not
depend on the order of the positions or the lots they are held in where nothing of them is
rounded, and more cash never makes it worse, however the sums are rounded.

## Main definitions

* `MoreCash` — an account with more cash

## Main results

* `pass_iff`, `initialCall_iff` — what decides the outcome, and the initial call
* `computeMargin_moreCash` — more cash calls for no more money
* `margin_outcome` — the three together
-/

namespace Atreides

namespace Margin

open Arithmetic (zero ofDecimal)
open FiniteDecimal (Same)
open Outcome (Agree)

variable {loaded : LoadedRules FiniteDecimal} {account more : MarginAccount FiniteDecimal}
  {setting : MarginSetting} {houseRate : FiniteDecimal} {result after : MarginResult FiniteDecimal}

/-! ## The calls -/

section Calls

variable {initial maintenance house equity : FiniteDecimal} {calls : List (MarginCall FiniteDecimal)}

/-- An initial call is for what the equity, floored at zero, falls short. -/
theorem regTCall_eq_ok (h : regTCall loaded setting initial equity = .ok calls) :
    (initial.value ≤ max equity.value 0 ∧ calls = []) ∨
      ∃ call, max equity.value 0 < initial.value ∧ calls = [call] ∧ call.kind = "REG_T" ∧
        Arithmetic.sub initial (Arithmetic.max equity zero) = .ok call.amount ∧
        (∃ days, rate loaded "reg_t.payment_period" = .ok days ∧ ∃ due,
          setting.calendar.addBusinessDays setting.tradeDate (Arithmetic.truncate days) = .ok due ∧
            call.dueDate = some due) := by
  rw [regTCall, lt_eq_decide, value_max, value_zero] at h
  split_ifs at h with hcalled
  · simp only [Outcome.bind_eq_ok] at h
    obtain ⟨amount, hamount, days, hdays, due, hdue, h⟩ := h
    cases h
    exact Or.inr ⟨_, of_decide_eq_true hcalled, rfl, rfl, hamount, days, hdays, due, hdue, rfl⟩
  · cases h
    exact Or.inl ⟨not_lt.mp fun hlt => hcalled (decide_eq_true hlt), rfl⟩

/-- A maintenance call is for what the equity falls short. -/
theorem maintenanceCall_eq_ok (h : maintenanceCall setting maintenance equity = .ok calls) :
    (maintenance.value ≤ equity.value ∧ calls = []) ∨
      ∃ call, equity.value < maintenance.value ∧ calls = [call] ∧ call.kind = "MAINTENANCE" ∧
        Arithmetic.sub maintenance equity = .ok call.amount ∧
        (∃ due, setting.calendar.addBusinessDays setting.tradeDate
          setting.maintenanceCallDueBusinessDays = .ok due ∧ call.dueDate = some due) := by
  rw [maintenanceCall, lt_eq_decide] at h
  split_ifs at h with hcalled
  · simp only [Outcome.bind_eq_ok] at h
    obtain ⟨amount, hamount, due, hdue, h⟩ := h
    cases h
    exact Or.inr ⟨_, of_decide_eq_true hcalled, rfl, rfl, hamount, due, hdue, rfl⟩
  · cases h
    exact Or.inl ⟨not_lt.mp fun hlt => hcalled (decide_eq_true hlt), rfl⟩

/-- A house call is for what the equity falls short, where the house requires more. -/
theorem houseCall_eq_ok (h : houseCall maintenance house equity = .ok calls) :
    ((house.value ≤ maintenance.value ∨ house.value ≤ equity.value) ∧ calls = []) ∨
      ∃ call, maintenance.value < house.value ∧ equity.value < house.value ∧ calls = [call] ∧
        call.kind = "HOUSE" ∧ Arithmetic.sub house equity = .ok call.amount ∧
        call.dueDate = none := by
  rw [houseCall, lt_eq_decide, lt_eq_decide, ← Bool.decide_and] at h
  split_ifs at h with hcalled
  · obtain ⟨hmore, hshort⟩ := of_decide_eq_true hcalled
    obtain ⟨amount, hamount, h⟩ := Outcome.bind_eq_ok.mp h
    cases h
    exact Or.inr ⟨_, hmore, hshort, rfl, rfl, hamount, rfl⟩
  · cases h
    rw [decide_eq_true_iff, not_and_or, not_lt, not_lt] at hcalled
    exact Or.inl ⟨hcalled, rfl⟩

end Calls

/-! ## What a decision is made of -/

/-- What a decision is made of: the requirements, by how much the governing one is not met, and
the calls of each rule. -/
theorem decided_eq_ok {f : Figures FiniteDecimal}
    (h : decided loaded account setting f houseRate = .ok result) :
    ∃ required deficiency regT maintenance house,
      requirements loaded account f houseRate = .ok required ∧
      Arithmetic.sub (Arithmetic.max required.maintenance required.house) f.equity =
        .ok deficiency ∧
      regTCall loaded setting required.initial f.equity = .ok regT ∧
      maintenanceCall setting required.maintenance f.equity = .ok maintenance ∧
      houseCall required.maintenance required.house f.equity = .ok house ∧
      result.calls = regT ++ maintenance ++ house ∧
      result.disposition = (if Arithmetic.lt zero deficiency then .hold else .pass) ∧
      result.equity = f.equity ∧ result.regTInitialRequirement = some required.initial := by
  simp only [decided, Outcome.bind_eq_ok] at h
  obtain ⟨required, hrequired, deficiency, hdeficiency, regT, hregT, maintenance, hmaintenance,
    house, hhouse, liquidation, -, excess, -, h⟩ := h
  cases h
  exact ⟨required, deficiency, regT, maintenance, house, hrequired, hdeficiency, hregT,
    hmaintenance, hhouse, rfl, rfl, rfl, rfl⟩

/-- A result is undecided, or a decision with every rate. -/
theorem computeMargin_eq_ok {sha256 : String → String} {rows : List RuleRow}
    (h : computeMargin sha256 rows account setting houseRate = .ok result) :
    ∃ f, figures account = .ok f ∧
      ((allMissing (loadRules (N := FiniteDecimal) sha256 rows) ≠ [] ∧
          result = undecided (loadRules sha256 rows) account f) ∨
        (allMissing (loadRules (N := FiniteDecimal) sha256 rows) = [] ∧
          decided (loadRules sha256 rows) account setting f houseRate = .ok result)) := by
  obtain ⟨f, hf, h⟩ := Outcome.bind_eq_ok.mp h
  refine ⟨f, hf, ?_⟩
  split_ifs at h with hmissing
  · cases h
    exact Or.inl ⟨hmissing, rfl⟩
  · exact Or.inr ⟨not_not.mp hmissing, h⟩

/-- The equity is a difference: a number that the context holds. -/
theorem represents_equity {f : Figures FiniteDecimal} (h : figures account = .ok f) :
    DecimalContext.ambient.Represents f.equity.value := by
  simp only [figures, Outcome.bind_eq_ok] at h
  obtain ⟨long, -, short, -, owed, -, assets, -, covered, -, equity, hequity, h⟩ := h
  cases h
  exact FiniteDecimal.represents_of_sub hequity

/-- Requirements are products and sums: numbers that the context holds. -/
theorem represents_requirements {f : Figures FiniteDecimal} {required : Requirements FiniteDecimal}
    (h : requirements loaded account f houseRate = .ok required) :
    DecimalContext.ambient.Represents required.maintenance.value ∧
      DecimalContext.ambient.Represents required.house.value := by
  simp only [requirements, Outcome.bind_eq_ok] at h
  obtain ⟨newLong, -, newShort, -, bought, -, initialRate, -, initial, -, longRate, -, ofLong,
    hofLong, maintenance, hmaintenance, gross, -, house, hhouse, h⟩ := h
  cases h
  refine ⟨?_, DecimalContext.represents_of_fix hhouse⟩
  refine Outcome.foldSteps_preserves
    (fun total : FiniteDecimal => DecimalContext.ambient.Represents total.value) ?_
    (DecimalContext.represents_of_fix hofLong) hmaintenance
  intro total p next htotal hnext
  rw [addShortMaintenance] at hnext
  split_ifs at hnext
  · cases hnext
    exact htotal
  · simp only [Outcome.bind_eq_ok] at hnext
    obtain ⟨shares, -, market, -, ⟨percent, perShare⟩, -, byValue, -, byShare, -, hnext⟩ := hnext
    exact DecimalContext.represents_of_fix hnext

/-! ## What passes -/

/-- The kinds of calls that decide the outcome. -/
def governingKinds : List String := ["MAINTENANCE", "HOUSE"]

theorem deficiency_pos_iff {f : Figures FiniteDecimal} {required : Requirements FiniteDecimal}
    {deficiency : FiniteDecimal} (hf : figures account = .ok f)
    (hrequired : requirements loaded account f houseRate = .ok required)
    (h : Arithmetic.sub (Arithmetic.max required.maintenance required.house) f.equity =
      .ok deficiency) :
    0 < deficiency.value ↔ f.equity.value < max required.maintenance.value required.house.value := by
  obtain ⟨hmaintenance, hhouse⟩ := represents_requirements hrequired
  have hgoverning : DecimalContext.ambient.Represents
      (Arithmetic.max required.maintenance required.house).value := by
    rw [value_max]
    obtain hmax | hmax := max_choice required.maintenance.value required.house.value
    · rwa [hmax]
    · rwa [hmax]
  rw [FiniteDecimal.sub_pos_iff h hgoverning (represents_equity hf), value_max]

/-- A decision passes precisely where it calls for no maintenance and the house calls for
nothing. -/
theorem pass_iff {sha256 : String → String} {rows : List RuleRow}
    (h : computeMargin sha256 rows account setting houseRate = .ok result)
    (hdecided : result.disposition ≠ .indeterminate) :
    result.disposition = .pass ↔ ∀ call ∈ result.calls, call.kind ∉ governingKinds := by
  obtain ⟨f, hf, ⟨-, rfl⟩ | ⟨-, hdecision⟩⟩ := computeMargin_eq_ok h
  · exact absurd rfl hdecided
  obtain ⟨required, deficiency, regT, maintenance, house, hrequired, hdeficiency, hregT,
    hmaintenance, hhouse, hcalls, hdisposition, -, -⟩ := decided_eq_ok hdecision
  have hpos := deficiency_pos_iff hf hrequired hdeficiency
  have hpass : result.disposition = .pass ↔
      max required.maintenance.value required.house.value ≤ f.equity.value := by
    rw [hdisposition, lt_eq_decide, value_zero, ← not_lt, ← hpos]
    by_cases hlt : 0 < deficiency.value <;> simp [hlt]
  have hinitial : ∀ call ∈ regT, call.kind ∉ governingKinds := by
    obtain ⟨-, rfl⟩ | ⟨call, -, rfl, hkind, -⟩ := regTCall_eq_ok hregT
    · simp
    · simp [hkind, governingKinds]
  rw [hpass, hcalls, max_le_iff]
  obtain ⟨hmet, rfl⟩ | ⟨call, hshort, rfl, hkind, -⟩ := maintenanceCall_eq_ok hmaintenance
  · obtain ⟨hmet', rfl⟩ | ⟨call', -, hshort', rfl, hkind', -⟩ := houseCall_eq_ok hhouse
    · refine iff_of_true ⟨hmet, hmet'.elim (fun hle => hle.trans hmet) id⟩ ?_
      simpa using hinitial
    · refine iff_of_false (fun hle => absurd hle.2 (not_le.mpr hshort')) fun hnone => ?_
      exact hnone call' (by simp) (by simp [hkind', governingKinds])
  · refine iff_of_false (fun hle => absurd hle.1 (not_le.mpr hshort)) fun hnone => ?_
    exact hnone call (by simp) (by simp [hkind, governingKinds])

/-- An initial call is outstanding precisely where the initial requirement is above the equity and
above zero, whatever the outcome. -/
theorem initialCall_iff {sha256 : String → String} {rows : List RuleRow}
    (h : computeMargin sha256 rows account setting houseRate = .ok result)
    (hdecided : result.disposition ≠ .indeterminate) :
    ∃ initial, result.regTInitialRequirement = some initial ∧
      ((∃ call ∈ result.calls, call.kind = "REG_T") ↔
        max result.equity.value 0 < initial.value) := by
  obtain ⟨f, hf, ⟨-, rfl⟩ | ⟨-, hdecision⟩⟩ := computeMargin_eq_ok h
  · exact absurd rfl hdecided
  obtain ⟨required, deficiency, regT, maintenance, house, hrequired, -, hregT, hmaintenance, hhouse,
    hcalls, -, hequity, hinitial⟩ := decided_eq_ok hdecision
  refine ⟨required.initial, hinitial, ?_⟩
  rw [hcalls, hequity]
  have hothers : ∀ call ∈ maintenance ++ house, call.kind ≠ "REG_T" := by
    intro call hcall
    obtain hcall | hcall := List.mem_append.mp hcall
    · obtain ⟨-, rfl⟩ | ⟨call', -, rfl, hkind, -⟩ := maintenanceCall_eq_ok hmaintenance
      · exact absurd hcall List.not_mem_nil
      · rw [List.mem_singleton.mp hcall, hkind]
        decide
    · obtain ⟨-, rfl⟩ | ⟨call', -, -, rfl, hkind, -⟩ := houseCall_eq_ok hhouse
      · exact absurd hcall List.not_mem_nil
      · rw [List.mem_singleton.mp hcall, hkind]
        decide
  rw [List.append_assoc]
  obtain ⟨hmet, rfl⟩ | ⟨call, hshort, rfl, hkind, -⟩ := regTCall_eq_ok hregT
  · refine iff_of_false ?_ (not_lt.mpr hmet)
    rintro ⟨call, hcall, hkind⟩
    exact hothers call hcall hkind
  · exact iff_of_true ⟨call, by simp, hkind⟩ hshort

/-! ## More cash -/

/-- An account with more cash, and the same positions. -/
structure MoreCash (account more : MarginAccount FiniteDecimal) : Prop where
  accountId : more.accountId = account.accountId
  positions : more.positions = account.positions
  cashBalance : account.cashBalance.value ≤ more.cashBalance.value

/-- Every call of the second list is one of the first, for no larger an amount. -/
def Relieved (calls calls' : List (MarginCall FiniteDecimal)) : Prop :=
  ∀ call ∈ calls', ∃ earlier ∈ calls, earlier.kind = call.kind ∧ earlier.dueDate = call.dueDate ∧
    call.amount.value ≤ earlier.amount.value

namespace Relieved

variable {calls calls' more more' : List (MarginCall FiniteDecimal)}

@[simp] theorem nil (calls : List (MarginCall FiniteDecimal)) : Relieved calls [] := by
  intro call hcall
  exact absurd hcall List.not_mem_nil

theorem singleton {c d : MarginCall FiniteDecimal} (hkind : c.kind = d.kind)
    (hdue : c.dueDate = d.dueDate) (hamount : d.amount.value ≤ c.amount.value) :
    Relieved [c] [d] := by
  intro call hcall
  rw [List.mem_singleton.mp hcall]
  exact ⟨c, List.mem_singleton_self c, hkind, hdue, hamount⟩

theorem append (h : Relieved calls calls') (h' : Relieved more more') :
    Relieved (calls ++ more) (calls' ++ more') := by
  intro call hcall
  obtain hcall | hcall := List.mem_append.mp hcall
  · obtain ⟨earlier, hmem, hsame⟩ := h call hcall
    exact ⟨earlier, List.mem_append_left more hmem, hsame⟩
  · obtain ⟨earlier, hmem, hsame⟩ := h' call hcall
    exact ⟨earlier, List.mem_append_right calls hmem, hsame⟩

end Relieved

section Cash

variable {initial maintenance house equity equity' : FiniteDecimal}
  {calls calls' : List (MarginCall FiniteDecimal)}

theorem regTCall_relieved (hle : equity.value ≤ equity'.value)
    (h : regTCall loaded setting initial equity = .ok calls)
    (h' : regTCall loaded setting initial equity' = .ok calls') : Relieved calls calls' := by
  have hfloor : max equity.value 0 ≤ max equity'.value 0 := max_le_max_right 0 hle
  obtain ⟨-, rfl⟩ | ⟨call', hshort', rfl, hkind', hamount', days', hdays', due', hdue', hdate'⟩ :=
    regTCall_eq_ok h'
  · exact Relieved.nil calls
  obtain ⟨hmet, -⟩ | ⟨call, -, rfl, hkind, hamount, days, hdays, due, hdue, hdate⟩ :=
    regTCall_eq_ok h
  · exact absurd (hfloor.trans_lt hshort') (not_lt.mpr hmet)
  rw [hdays] at hdays'
  cases hdays'
  rw [hdue] at hdue'
  cases hdue'
  apply Relieved.singleton (hkind.trans hkind'.symm) (hdate.trans hdate'.symm)
  apply FiniteDecimal.sub_mono hamount' hamount le_rfl
  rwa [value_max, value_max, value_zero]

theorem maintenanceCall_relieved (hle : equity.value ≤ equity'.value)
    (h : maintenanceCall setting maintenance equity = .ok calls)
    (h' : maintenanceCall setting maintenance equity' = .ok calls') : Relieved calls calls' := by
  obtain ⟨-, rfl⟩ | ⟨call', hshort', rfl, hkind', hamount', due', hdue', hdate'⟩ :=
    maintenanceCall_eq_ok h'
  · exact Relieved.nil calls
  obtain ⟨hmet, -⟩ | ⟨call, -, rfl, hkind, hamount, due, hdue, hdate⟩ := maintenanceCall_eq_ok h
  · exact absurd (hle.trans_lt hshort') (not_lt.mpr hmet)
  rw [hdue] at hdue'
  cases hdue'
  exact Relieved.singleton (hkind.trans hkind'.symm) (hdate.trans hdate'.symm)
    (FiniteDecimal.sub_mono hamount' hamount le_rfl hle)

theorem houseCall_relieved (hle : equity.value ≤ equity'.value)
    (h : houseCall maintenance house equity = .ok calls)
    (h' : houseCall maintenance house equity' = .ok calls') : Relieved calls calls' := by
  obtain ⟨-, rfl⟩ | ⟨call', hmore, hshort', rfl, hkind', hamount', hdate'⟩ := houseCall_eq_ok h'
  · exact Relieved.nil calls
  obtain ⟨hmet, -⟩ | ⟨call, -, -, rfl, hkind, hamount, hdate⟩ := houseCall_eq_ok h
  · obtain hmet | hmet := hmet
    · exact absurd hmore (not_lt.mpr hmet)
    · exact absurd (hle.trans_lt hshort') (not_lt.mpr hmet)
  · exact Relieved.singleton (hkind.trans hkind'.symm) (hdate.trans hdate'.symm)
      (FiniteDecimal.sub_mono hamount' hamount le_rfl hle)

namespace MoreCash

variable (h : MoreCash account more)
include h

/-- More cash is more equity, on the same market values. -/
theorem figures_le {f g : Figures FiniteDecimal} (hf : figures account = .ok f)
    (hg : figures more = .ok g) :
    g.long = f.long ∧ g.short = f.short ∧ f.equity.value ≤ g.equity.value := by
  simp only [figures, h.positions, Outcome.bind_eq_ok] at hf hg
  obtain ⟨long, hlong, short, hshort, owed, howed, assets, hassets, covered, hcovered, equity,
    hequity, hf⟩ := hf
  obtain ⟨long', hlong', short', hshort', owed', howed', assets', hassets', covered', hcovered',
    equity', hequity', hg⟩ := hg
  rw [hlong] at hlong'
  rw [hshort] at hshort'
  cases hlong'
  cases hshort'
  cases hf
  cases hg
  have hdebit : owed'.value ≤ owed.value := FiniteDecimal.neg_mono howed howed' h.cashBalance
  have hcredit : assets.value ≤ assets'.value := by
    apply FiniteDecimal.add_mono hassets hassets' le_rfl
    rw [value_max, value_max]
    exact max_le_max_right _ h.cashBalance
  have hcover : covered.value ≤ covered'.value :=
    FiniteDecimal.sub_mono hcovered hcovered' hcredit le_rfl
  refine ⟨rfl, rfl, FiniteDecimal.sub_mono hequity hequity' hcover ?_⟩
  rw [value_max, value_max]
  exact max_le_max_right _ hdebit

/-- What is required is of the positions alone. -/
theorem requirements_eq {f g : Figures FiniteDecimal} (hlong : g.long = f.long)
    (hshort : g.short = f.short) :
    requirements loaded more g houseRate = requirements loaded account f houseRate := by
  simp only [requirements, h.positions, hlong, hshort]

/-- More cash introduces no call and increases none, and makes no outcome worse. -/
theorem computeMargin_moreCash {sha256 : String → String} {rows : List RuleRow}
    (hresult : computeMargin sha256 rows account setting houseRate = .ok result)
    (hafter : computeMargin sha256 rows more setting houseRate = .ok after) :
    Relieved result.calls after.calls ∧ (after.disposition = result.disposition ∨
      result.disposition = .hold ∧ after.disposition = .pass) := by
  obtain ⟨f, hf, ⟨hmissing, rfl⟩ | ⟨hmissing, hdecision⟩⟩ := computeMargin_eq_ok hresult
  · obtain ⟨g, hg, ⟨-, rfl⟩ | ⟨hnone, -⟩⟩ := computeMargin_eq_ok hafter
    · exact ⟨Relieved.nil _, Or.inl rfl⟩
    · exact absurd hnone hmissing
  obtain ⟨g, hg, ⟨hsome, -⟩ | ⟨-, hdecision'⟩⟩ := computeMargin_eq_ok hafter
  · exact absurd hmissing hsome
  obtain ⟨hlong, hshort, hequity⟩ := h.figures_le hf hg
  obtain ⟨required, deficiency, regT, maintenance, house, hrequired, hdeficiency, hregT,
    hmaintenance, hhouse, hcalls, hdisposition, -, -⟩ := decided_eq_ok hdecision
  obtain ⟨required', deficiency', regT', maintenance', house', hrequired', hdeficiency', hregT',
    hmaintenance', hhouse', hcalls', hdisposition', -, -⟩ := decided_eq_ok hdecision'
  rw [h.requirements_eq hlong hshort, hrequired] at hrequired'
  cases hrequired'
  constructor
  · rw [hcalls, hcalls']
    exact ((regTCall_relieved hequity hregT hregT').append
      (maintenanceCall_relieved hequity hmaintenance hmaintenance')).append
        (houseCall_relieved hequity hhouse hhouse')
  · have hless : deficiency'.value ≤ deficiency.value :=
      FiniteDecimal.sub_mono hdeficiency' hdeficiency le_rfl hequity
    rw [hdisposition, hdisposition', lt_eq_decide, lt_eq_decide, value_zero]
    by_cases hpos : 0 < deficiency'.value
    · have hpos' : 0 < deficiency.value := hpos.trans_le hless
      exact Or.inl (by simp [hpos, hpos'])
    · by_cases hpos' : 0 < deficiency.value <;> simp [hpos, hpos']

end MoreCash

end Cash

/-! ## The outcome -/

/-- Whatever the rules, a decision passes precisely where it calls for no maintenance and the
house calls for nothing, and an initial call is outstanding precisely where the initial
requirement is above the equity and above zero. Where nothing of the positions is rounded, the
engine raises the same exception or returns a result of the same content on the positions in
another order, and held in other lots of their own side: the advice has the positions in another
order, and in the very same one where only the order of the account differs and no two positions
have one absolute value. More cash introduces no call, increases none and makes no outcome
worse. -/
theorem margin_outcome (sha256 : String → String) (rows : List RuleRow) (setting : MarginSetting)
    (houseRate : FiniteDecimal) :
    (∀ account result, computeMargin sha256 rows account setting houseRate = .ok result →
      result.disposition ≠ .indeterminate →
      (result.disposition = .pass ↔ ∀ call ∈ result.calls, call.kind ∉ governingKinds) ∧
      ∃ initial, result.regTInitialRequirement = some initial ∧
        ((∃ call ∈ result.calls, call.kind = "REG_T") ↔
          max result.equity.value 0 < initial.value)) ∧
    (∀ account other : MarginAccount FiniteDecimal, account.accountId = other.accountId →
      account.cashBalance = other.cashBalance → account.positions.Perm other.positions →
      Unrounded (loadRules sha256 rows) account.positions →
      Agree (SameResult List.Perm) (computeMargin sha256 rows account setting houseRate)
        (computeMargin sha256 rows other setting houseRate) ∧
      ((account.positions.map fun p => |p.quantity.value * p.price.value|).Nodup →
        Agree (SameResult Eq) (computeMargin sha256 rows account setting houseRate)
          (computeMargin sha256 rows other setting houseRate))) ∧
    (∀ account other : MarginAccount FiniteDecimal, account.accountId = other.accountId →
      account.cashBalance = other.cashBalance → Relotted account.positions other.positions →
      Unrounded (loadRules sha256 rows) account.positions →
      Unrounded (loadRules sha256 rows) other.positions →
      Agree (SameResult fun issues issues' => ∀ issue, issue ∈ issues ↔ issue ∈ issues')
        (computeMargin sha256 rows account setting houseRate)
        (computeMargin sha256 rows other setting houseRate)) ∧
    ∀ account more result after, MoreCash account more →
      computeMargin sha256 rows account setting houseRate = .ok result →
      computeMargin sha256 rows more setting houseRate = .ok after →
      Relieved result.calls after.calls ∧ (after.disposition = result.disposition ∨
        result.disposition = .hold ∧ after.disposition = .pass) := by
  refine ⟨?_, ?_, ?_, ?_⟩
  · intro account result h hdecided
    exact ⟨pass_iff h hdecided, initialCall_iff h hdecided⟩
  · intro account other hid hcash hperm hunrounded
    have hsame : SameHoldings (loadRules sha256 rows) account other :=
      ⟨hid, hcash, Relotted.perm hperm, hunrounded, hunrounded.perm hperm⟩
    refine ⟨computeMargin_agree hsame ?_, fun hdistinct => computeMargin_agree hsame ?_⟩
    · exact ranked_perm.trans ((hperm.map _).trans ranked_perm.symm)
    · rw [ranked_eq hperm hdistinct]
  · intro account other hid hcash hlots hunrounded hunrounded'
    apply computeMargin_agree ⟨hid, hcash, hlots, hunrounded, hunrounded'⟩
    intro issue
    rw [ranked_perm.mem_iff, ranked_perm.mem_iff]
    exact hlots.issue_iff issue
  · intro account more result after h hresult hafter
    exact h.computeMargin_moreCash hresult hafter

/-! ### Accounts of one and two issues -/

theorem one_hundred_pos : Arithmetic.lt zero (100 : FiniteDecimal) = true := by decide

/-- A long position of one issue at a hundred, newly traded. -/
def boughtAtHundred (quantity : FiniteDecimal) : MarginPosition FiniteDecimal :=
  ⟨"ISSUE-50A", quantity, 100, true, by decide, one_hundred_pos⟩

/-- A long position of another issue at a hundred. -/
def heldAtHundred : MarginPosition FiniteDecimal :=
  ⟨"ISSUE-50B", 1, 100, false, by decide, one_hundred_pos⟩

theorem four_pos : Arithmetic.lt zero (4 : FiniteDecimal) = true := by decide

/-- A long position of a third issue at four. -/
def heldAtFour : MarginPosition FiniteDecimal :=
  ⟨"ISSUE-50C", 1, 4, false, by decide, four_pos⟩

def accountOf50 (cashBalance : FiniteDecimal) (positions : List (MarginPosition FiniteDecimal)) :
    MarginAccount FiniteDecimal :=
  ⟨"ACCT-50", cashBalance, positions, by decide⟩

/-- Thanksgiving and Christmas are holidays. -/
def winterCalendar : MarketCalendar where
  market := .usEquities
  holidays := .ofPairs [(2026, [.of 2026 11 26, .of 2026 12 25])]
  datesMatchYears := by decide

/-- A decision on the day before Thanksgiving. -/
def winterSetting : MarginSetting := ⟨.of 2026 11 25, winterCalendar.toDeadlineCalendar, 2⟩

def houseRate30 : FiniteDecimal := ⟨false, 30, -2⟩

def marginOf50 (cashBalance : FiniteDecimal) (positions : List (MarginPosition FiniteDecimal)) :
    Outcome (MarginResult FiniteDecimal) :=
  computeMargin pinnedSources marginTable (accountOf50 cashBalance positions) winterSetting
    houseRate30

/-- The issues that the advice of a result names. -/
def advisedOf (result : MarginResult FiniteDecimal) : Option (List String) :=
  result.liquidation.map LiquidationRecommendation.positions

/-- A purchase that leaves forty of equity behind a hundred passes, with an initial call
outstanding. Of two positions of one value, the advice has the first of the account first. Two
small positions are lost beside a large one that comes before them, and not beside one that comes
after them. Lots on both sides are a short position. -/
theorem margin_outcome_counterexample :
    (∃ result, marginOf50 ⟨true, 60, 0⟩ [boughtAtHundred 1] = .ok result ∧
      (result.disposition, result.calls.map MarginCall.kind) = (.pass, ["REG_T"])) ∧
    (∃ result, marginOf50 ⟨true, 190, 0⟩ [boughtAtHundred 1, heldAtHundred] = .ok result ∧
      advisedOf result = some ["ISSUE-50A", "ISSUE-50B"]) ∧
    (∃ result, marginOf50 ⟨true, 190, 0⟩ [heldAtHundred, boughtAtHundred 1] = .ok result ∧
      advisedOf result = some ["ISSUE-50B", "ISSUE-50A"]) ∧
    (∃ result, marginOf50 0 [boughtAtHundred ⟨false, 1, 26⟩, heldAtFour, heldAtFour] = .ok result ∧
      result.longMarketValue = ⟨false, 10 ^ 27, 1⟩) ∧
    (∃ result, marginOf50 0 [heldAtFour, heldAtFour, boughtAtHundred ⟨false, 1, 26⟩] = .ok result ∧
      result.longMarketValue = ⟨false, 10 ^ 27 + 1, 1⟩) ∧
    (∃ result, marginOf50 0 [boughtAtHundred 1] = .ok result ∧ result.shortMarketValue = 0) ∧
    ∃ result, marginOf50 0 [boughtAtHundred 2, boughtAtHundred ⟨true, 1, 0⟩] = .ok result ∧
      result.shortMarketValue = 100 := by
  refine ⟨?_, ?_, ?_, ?_, ?_, ?_, ?_⟩
  all_goals exact Outcome.map_eq_ok.mp (by decide +kernel)

/-! ### Positions of whole dollars -/

/-- Whole numbers of few digits have exact sums. -/
theorem exactSums_of_int {xs : List ℤ} (h : sumAbs (xs.map Int.cast) < 10 ^ 28) :
    ExactSums .ambient (xs.map Int.cast) := by
  have hfits : FitsOn .ambient 0 (xs.map Int.cast) := by
    refine ⟨by decide, by decide, ?_, by simpa [DecimalContext.ambient] using h⟩
    intro x hx
    obtain ⟨n, -, rfl⟩ := List.mem_map.mp hx
    exact ⟨n, by simp⟩
  exact hfits.exactSums

/-- Long positions of whole dollars, whose maintenance is in whole dollars too, are not rounded. -/
theorem unrounded_of_int {positions : List (MarginPosition FiniteDecimal)} {values : List ℤ}
    {ofLong : ℤ} (hlong : ∀ p ∈ positions, 0 ≤ p.quantity.value)
    (hvalues : positions.map longTerm = values.map Int.cast)
    (hofLong : (positions.map longTerm).sum * rateValue loaded "finra.long_maintenance" = ofLong)
    (hfew : sumAbs (values.map Int.cast) < 10 ^ 28) (hshort : |(ofLong : ℚ)| < 10 ^ 28) :
    Unrounded loaded positions := by
  have hnone : ∀ p ∈ positions, shortShares p = 0 := fun p hp =>
    shortShares_eq_zero (not_lt.mpr (hlong p hp))
  have hzeros : ∀ f : MarginPosition FiniteDecimal → ℚ, (∀ p ∈ positions, f p = 0) →
      positions.map f = (positions.map fun _ => (0 : ℤ)).map Int.cast := by
    intro f hf
    rw [List.map_map]
    exact List.map_congr_left fun p hp => by simp [hf p hp]
  have hempty : ∀ xs : List (MarginPosition FiniteDecimal),
      sumAbs ((xs.map fun _ => (0 : ℤ)).map Int.cast) = 0 := by
    intro xs
    induction xs with
    | nil => rfl
    | cons x xs ih => simpa using ih
  constructor
  · intro p hp hneg
    exact absurd hneg (not_lt.mpr (hlong p hp))
  · intro p hp
    rw [shortTerm, hnone p hp, zero_mul, zero_mul]
    exact DecimalContext.represents_zero _
  · intro p hp
    rw [hnone p hp, zero_mul]
    exact DecimalContext.represents_zero _
  · rw [hvalues]
    exact exactSums_of_int hfew
  · rw [hzeros shortTerm fun p hp => by rw [shortTerm, hnone p hp, zero_mul]]
    exact exactSums_of_int (by rw [hempty]; norm_num)
  · rw [hofLong, hzeros (maintenanceTerm loaded) fun p hp => by
      rw [maintenanceTerm_eq, hnone p hp, zero_mul], ← List.map_cons (f := Int.cast)]
    exact exactSums_of_int (by rwa [List.map_cons, sumAbs_cons, hempty, add_zero])

theorem longRate_value :
    rateValue (loadRules pinnedSources marginTable) "finra.long_maintenance" = 1 / 4 := by
  change FiniteDecimal.value ⟨false, 25, -2⟩ = _
  norm_num [FiniteDecimal.value, FiniteDecimal.toInt]

theorem value_literal (n : ℕ) : (⟨false, n, 0⟩ : FiniteDecimal).value = n := by
  simp [FiniteDecimal.value, FiniteDecimal.toInt]

theorem longTerm_bought (n : ℕ) : longTerm (boughtAtHundred ⟨false, n, 0⟩) = 100 * n := by
  have hprice : FiniteDecimal.value 100 = 100 := value_literal 100
  rw [longTerm, longShares, boughtAtHundred, value_literal, hprice,
    max_eq_left (Nat.cast_nonneg n)]
  ring

theorem longTerm_four : longTerm heldAtFour = 4 := by
  have hone : FiniteDecimal.value 1 = 1 := (value_literal 1).trans Nat.cast_one
  have hprice : FiniteDecimal.value 4 = 4 := value_literal 4
  norm_num [longTerm, longShares, heldAtFour, hone, hprice]

/-- Four shares at a hundred beside one at four. -/
theorem unrounded_four :
    Unrounded (loadRules pinnedSources marginTable) [boughtAtHundred 4, heldAtFour] := by
  have hbought : longTerm (boughtAtHundred 4) = 400 := (longTerm_bought 4).trans (by norm_num)
  apply @unrounded_of_int _ _ [400, 4] 101
  · intro p hp
    obtain rfl | hp := List.mem_cons.mp hp
    · exact value_zero ▸ FiniteDecimal.le_iff.mp (by decide)
    · rw [List.mem_singleton.mp hp]
      exact value_zero ▸ FiniteDecimal.le_iff.mp (by decide)
  · norm_num [longTerm_four, hbought]
  · norm_num [longTerm_four, hbought, longRate_value]
  · norm_num
  · norm_num

/-- The four shares in lots of one and three. -/
theorem unrounded_lots : Unrounded (loadRules pinnedSources marginTable)
    [boughtAtHundred 1, boughtAtHundred 3, heldAtFour] := by
  have hone : longTerm (boughtAtHundred 1) = 100 := (longTerm_bought 1).trans (by norm_num)
  have hthree : longTerm (boughtAtHundred 3) = 300 := (longTerm_bought 3).trans (by norm_num)
  apply @unrounded_of_int _ _ [100, 300, 4] 101
  · intro p hp
    simp only [List.mem_cons, List.not_mem_nil, or_false] at hp
    obtain rfl | rfl | rfl := hp <;> exact value_zero ▸ FiniteDecimal.le_iff.mp (by decide)
  · norm_num [longTerm_four, hone, hthree]
  · norm_num [longTerm_four, hone, hthree, longRate_value]
  · norm_num
  · norm_num

theorem lots_four : Lots (boughtAtHundred 4) [boughtAtHundred 1, boughtAtHundred 3] where
  some_lot := List.cons_ne_nil _ _
  issue := by simp [boughtAtHundred]
  price := by simp [boughtAtHundred]
  newTrade := by simp [boughtAtHundred]
  side := by
    left
    intro p hp
    simp only [List.mem_cons, List.not_mem_nil, or_false] at hp
    obtain rfl | rfl := hp <;> exact value_zero ▸ FiniteDecimal.le_iff.mp (by decide)
  sum := by
    change FiniteDecimal.value ⟨false, 1, 0⟩ + (FiniteDecimal.value ⟨false, 3, 0⟩ + 0) =
      FiniteDecimal.value ⟨false, 4, 0⟩
    norm_num [value_literal]

/-- Four shares in another order and in lots give one result, and the cash that pays for a
purchase relieves it of its call. -/
theorem margin_outcome_four :
    Agree (SameResult List.Perm) (marginOf50 0 [boughtAtHundred 4, heldAtFour])
      (marginOf50 0 [heldAtFour, boughtAtHundred 4]) ∧
    Agree (SameResult fun issues issues' => ∀ issue, issue ∈ issues ↔ issue ∈ issues')
      (marginOf50 0 [boughtAtHundred 4, heldAtFour])
      (marginOf50 0 [boughtAtHundred 1, boughtAtHundred 3, heldAtFour]) ∧
    ∃ result after, marginOf50 ⟨true, 60, 0⟩ [boughtAtHundred 1] = .ok result ∧
      marginOf50 0 [boughtAtHundred 1] = .ok after ∧ Relieved result.calls after.calls := by
  obtain ⟨-, hperm, hlots, hcash⟩ :=
    margin_outcome pinnedSources marginTable winterSetting houseRate30
  refine ⟨?_, ?_, ?_⟩
  · exact (hperm (accountOf50 0 [boughtAtHundred 4, heldAtFour])
      (accountOf50 0 [heldAtFour, boughtAtHundred 4]) rfl rfl (List.Perm.swap _ _ _)
      unrounded_four).1
  · exact hlots (accountOf50 0 [boughtAtHundred 4, heldAtFour])
      (accountOf50 0 [boughtAtHundred 1, boughtAtHundred 3, heldAtFour]) rfl rfl
      (Relotted.split lots_four _) unrounded_four unrounded_lots
  · have hresult : ∃ result, marginOf50 ⟨true, 60, 0⟩ [boughtAtHundred 1] = .ok result ∧
        result.disposition = .pass := Outcome.map_eq_ok.mp (by decide +kernel)
    have hafter : ∃ after, marginOf50 0 [boughtAtHundred 1] = .ok after ∧
        after.disposition = .pass := Outcome.map_eq_ok.mp (by decide +kernel)
    obtain ⟨result, hresult, -⟩ := hresult
    obtain ⟨after, hafter, -⟩ := hafter
    have hmore : MoreCash (accountOf50 ⟨true, 60, 0⟩ [boughtAtHundred 1])
        (accountOf50 0 [boughtAtHundred 1]) := ⟨rfl, rfl, FiniteDecimal.le_iff.mp (by decide)⟩
    exact ⟨result, after, hresult, hafter, (hcash _ _ result after hmore hresult hafter).1⟩

end Margin

end Atreides
