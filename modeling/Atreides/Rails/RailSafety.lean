import Atreides.Rails.Clearance

/-!
# Whether the recommended rail can carry the operation

The ladder is a list of preferred rails, tried in order for openness and capacity, before a
sweep over the rails that can carry the operation. A preferred rail is not asked whether it
is available outside business hours, so a ledger-final one can be recommended where it is
not.

## Main definitions

* `SafeRail` — a rail is supplied, is no placeholder and can carry the operation now
* `preferredRails`, `Fits`, `FirstFit` — the ladder's preferences
* `CarriesOutsideHours` — no preferred rail is chosen that keeps hours

## Main results

* `recommendRail_eq` — the ladder as one list of rails
* `safeRail_iff` — a cleared rail is safe exactly when no chosen preference keeps hours
-/

namespace Atreides

variable {operation : OperationContext} {rails : Dict CashRail RailState}

/-- A rail is supplied, is no placeholder, and can carry the operation now. -/
def SafeRail (inputs : GateInputs) (rail : CashRail) : Prop :=
  rail ≠ .portsWholesale ∧ ∃ state, inputs.rails.get? rail = some state ∧
    serviceable state inputs.operation = .ok true

/-! ## The ladder as a list -/

/-- The rails the ladder prefers, in the order it tries them. -/
def preferredRails (operation : OperationContext) (ofrStlfsi4 : StressReading) : List CashRail :=
  (if ofrStlfsi4.reaches ofrStressPreferenceThreshold then grossFinal else []) ++
    (if operation.isLvpsMaterial then grossFinal else []) ++
    (if operation.withinBusinessHours then [] else [.fednow]) ++
    (if operation.tokenizedDepositSupported then [.tokenizedDeposit] else []) ++ [.fedwire]

/-- The comparison of the window rule is the one every preferred rail gets. -/
theorem withinCap_eq (state : RailState) (operation : OperationContext) :
    withinCap state operation = not <$> overCap state operation := by
  rw [withinCap, overCap]
  rcases state.valueCap with _ | cap
  · rfl
  · simp only [Decimal.le, Decimal.lt, Bool.or_comm cap.isNaN]
    split_ifs
    · rfl
    · rfl

theorem windowRule_eq (operation : OperationContext) (rails : Dict CashRail RailState) :
    windowRule operation rails = tryRail operation rails .fednow := by
  rw [windowRule, tryRail]
  rcases rails.get? .fednow with _ | state
  · rfl
  · simp only [withinCap_eq]
    split_ifs
    · rfl
    · rcases overCap state operation with e | _ | _ <;> rfl

/-- The rail a rule chooses is the first of its list. -/
theorem map_choose (applies : Bool) (candidates : List CashRail) (rationale : String) :
    Option.map Prod.fst <$> choose applies (prefer operation rails candidates) rationale =
      prefer operation rails (if applies then candidates else []) := by
  rw [choose]
  rcases applies with _ | _
  · rfl
  · simp only [if_true]
    rcases prefer operation rails candidates with e | _ | rail <;> rfl

/-- The rail the sweep chooses, without the rule behind it. -/
def sweptRail (operation : OperationContext) (item : CashRail × RailState) :
    Outcome (Option CashRail) :=
  Option.map Prod.fst <$> sweepRail operation item

/-- Without a linkage, the ladder tries the preferred rails and then sweeps the others. -/
theorem recommendRail_eq (hlinked : operation.depositoryLinkedRail = none)
    (ofrStlfsi4 : StressReading) :
    Option.map Prod.fst <$> recommendRail operation rails ofrStlfsi4 =
      Outcome.firstAnswer
        ((preferredRails operation ofrStlfsi4).map (tryRail operation rails) ++
          (sortedRails rails).map (sweptRail operation)) := by
  have hwindow : windowRule operation rails = prefer operation rails [.fednow] := by
    rw [windowRule_eq, prefer, List.map_singleton]
    rcases tryRail operation rails .fednow with e | _ | rail <;> rfl
  have hflip : (if (!operation.withinBusinessHours) = true then [CashRail.fednow] else []) =
      if operation.withinBusinessHours = true then [] else [CashRail.fednow] := by
    rcases operation.withinBusinessHours <;> rfl
  rw [recommendRail, hlinked]
  simp only [Outcome.map_firstAnswer, List.map_append, preferenceRules, List.map_cons,
    List.map_nil, hwindow, map_choose, List.map_map, preferredRails, hflip]
  have hgroups := Outcome.firstAnswer_groups
    [(if ofrStlfsi4.reaches ofrStressPreferenceThreshold then grossFinal else []).map
        (tryRail operation rails),
      (if operation.isLvpsMaterial then grossFinal else []).map (tryRail operation rails),
      (if operation.withinBusinessHours then [] else [.fednow]).map (tryRail operation rails),
      (if operation.tokenizedDepositSupported then [.tokenizedDeposit] else []).map
        (tryRail operation rails),
      [CashRail.fedwire].map (tryRail operation rails)]
    ((sortedRails rails).map (sweptRail operation))
  simp only [List.flatten_cons, List.flatten_nil, List.append_nil, List.append_assoc] at hgroups ⊢
  exact hgroups

/-! ## The first preferred rail that fits -/

variable {inputs : GateInputs} {kernel : Kernel} {rail : CashRail} {state : RailState}

/-- A rail is supplied, open, and carries the value of the operation. -/
def Fits (inputs : GateInputs) (rail : CashRail) (state : RailState) : Prop :=
  inputs.rails.get? rail = some state ∧ state.usable = true ∧
    overCap state inputs.operation = .ok false

/-- The first preferred rail that fits. -/
def FirstFit (inputs : GateInputs) (rail : CashRail) (state : RailState) : Prop :=
  ∃ before rest, preferredRails inputs.operation inputs.ofrStlfsi4 = before ++ rail :: rest ∧
    (∀ earlier ∈ before, ∀ state, ¬ Fits inputs earlier state) ∧ Fits inputs rail state

theorem tryRail_eq_some {found : CashRail}
    (h : tryRail inputs.operation inputs.rails rail = .ok (some found)) :
    found = rail ∧ ∃ state, Fits inputs rail state := by
  rw [tryRail] at h
  rcases hget : inputs.rails.get? rail with _ | state <;> rw [hget] at h
  · cases h
  · simp only at h
    split_ifs at h with husable
    · cases h
    · rw [Outcome.bind_eq_ok] at h
      obtain ⟨exceeds, hover, h⟩ := h
      rcases exceeds with _ | _
      · cases h
        exact ⟨rfl, state, hget, by simpa using husable, hover⟩
      · cases h

theorem not_fits_of_tryRail (h : tryRail inputs.operation inputs.rails rail = .ok none) :
    ¬ Fits inputs rail state := by
  rintro ⟨hget, husable, hover⟩
  rw [tryRail, hget] at h
  simp [husable, hover] at h

theorem FirstFit.unique {rail' : CashRail} {state' : RailState} (h : FirstFit inputs rail state)
    (h' : FirstFit inputs rail' state') : rail = rail' ∧ state = state' := by
  obtain ⟨before, rest, hsplit, hnone, hfits⟩ := h
  obtain ⟨before', rest', hsplit', hnone', hfits'⟩ := h'
  have hrail : rail = rail' := by
    rw [hsplit, List.append_eq_append_iff] at hsplit'
    -- one of the two comes first, unless they stand at the same place
    rcases hsplit' with ⟨between, rfl, hrest⟩ | ⟨between, rfl, hrest⟩
    · rcases between with _ | ⟨first', between⟩
      · cases hrest
        rfl
      · cases hrest
        exact absurd hfits (hnone' rail (by simp) state)
    · rcases between with _ | ⟨first', between⟩
      · cases hrest
        rfl
      · cases hrest
        exact absurd hfits' (hnone rail' (by simp) state')
  subst hrail
  exact ⟨rfl, Option.some.inj (hfits.1.symm.trans hfits'.1)⟩

/-- The rail the preferences choose is the first that fits. -/
theorem firstFit_of_preferred
    (h : Outcome.firstAnswer ((preferredRails inputs.operation inputs.ofrStlfsi4).map
      (tryRail inputs.operation inputs.rails)) = .ok (some rail)) :
    ∃ state, FirstFit inputs rail state := by
  obtain ⟨before, check, rest, hsplit, hbefore, hcheck⟩ := Outcome.firstAnswer_eq_some h
  obtain ⟨earlier, later, hpreferred, rfl, hlater⟩ := List.map_eq_append_iff.mp hsplit
  obtain ⟨chosen, others, rfl, rfl, rfl⟩ := List.map_eq_cons_iff.mp hlater
  obtain ⟨rfl, state, hfits⟩ := tryRail_eq_some hcheck
  refine ⟨state, earlier, others, hpreferred, fun other hother s => ?_, hfits⟩
  exact not_fits_of_tryRail (hbefore _ (List.mem_map_of_mem hother))

theorem ne_portsWholesale_of_preferred {ofrStlfsi4 : StressReading}
    (h : rail ∈ preferredRails operation ofrStlfsi4) : rail ≠ .portsWholesale := by
  rintro rfl
  revert h
  simp only [preferredRails, grossFinal]
  split_ifs <;> simp

theorem get?_of_mem_sortedRails {item : CashRail × RailState} (h : item ∈ sortedRails rails) :
    rails.get? item.1 = some item.2 := by
  rw [Dict.get?_eq_some_iff]
  exact (List.perm_insertionSort _ _).mem_iff.mp h

/-! ## Safety -/

/-- The operation is within business hours or on one institution's book, the rail is
determined by a linkage, or the preferred rail that would be chosen is no ledger-final one. -/
def CarriesOutsideHours (inputs : GateInputs) : Prop :=
  inputs.operation.withinBusinessHours = true ∨
    inputs.operation.settlementPerimeter = .member .onUs ∨
    inputs.operation.depositoryLinkedRail.isSome = true ∨
    ∀ rail state, FirstFit inputs rail state → state.isLedgerFinal = false

theorem safeRail_of_linked {linked : CashRail} {rationale : String}
    (hlinked : inputs.operation.depositoryLinkedRail = some (.member linked))
    (h : recommendRail inputs.operation inputs.rails inputs.ofrStlfsi4 =
      .ok (some (rail, rationale))) : SafeRail inputs rail := by
  rw [recommendRail, hlinked] at h
  simp only [Outcome.bind_eq_ok] at h
  obtain ⟨blocker, hblocker, h⟩ := h
  rcases blocker with _ | why
  · cases h
    rw [linkedRailBlocker] at hblocker
    rcases hget : inputs.rails.get? rail with _ | state <;> rw [hget] at hblocker
    · cases hblocker
    · simp only at hblocker
      by_cases hports : rail = .portsWholesale
      · rw [if_pos hports] at hblocker
        cases hblocker
      · rw [if_neg hports] at hblocker
        rcases hcarries : serviceable state inputs.operation with e | _ | _ <;>
          rw [hcarries] at hblocker
        · cases hblocker
        · -- a rail that cannot carry the operation has a blocker
          simp only [Outcome.ok_bind, Bool.false_eq_true, if_false] at hblocker
          split_ifs at hblocker
          · cases hblocker
          · rw [Outcome.bind_eq_ok] at hblocker
            obtain ⟨exceeds, -, hblocker⟩ := hblocker
            rcases exceeds with _ | _ <;> cases hblocker
        · exact ⟨hports, state, hget, hcarries⟩
  · cases h

/-- A rail the sweep chooses is safe. -/
theorem safeRail_of_swept
    (h : Outcome.firstAnswer ((sortedRails inputs.rails).map (sweptRail inputs.operation)) =
      .ok (some rail)) : SafeRail inputs rail := by
  obtain ⟨before, check, rest, hsplit, -, hcheck⟩ := Outcome.firstAnswer_eq_some h
  have hmem : check ∈ (sortedRails inputs.rails).map (sweptRail inputs.operation) := by
    rw [hsplit]
    exact List.mem_append_right _ List.mem_cons_self
  obtain ⟨item, hitem, rfl⟩ := List.mem_map.mp hmem
  rw [sweptRail, sweepRail] at hcheck
  split_ifs at hcheck with husable hports
  · cases hcheck
  · cases hcheck
  · rcases hcarries : serviceable item.2 inputs.operation with e | _ | _ <;>
      rw [hcarries] at hcheck
    · cases hcheck
    · cases hcheck
    · cases hcheck
      exact ⟨hports, item.2, get?_of_mem_sortedRails hitem, hcarries⟩

/-- A rail that fits can carry the operation now unless it keeps hours. -/
theorem serviceable_of_fits (h : Fits inputs rail state) :
    serviceable state inputs.operation = .ok true ↔
      inputs.operation.withinBusinessHours = true ∨
        inputs.operation.settlementPerimeter = .member .onUs ∨ state.isLedgerFinal = false := by
  rw [serviceable, h.2.1, h.2.2]
  rcases inputs.operation.withinBusinessHours with _ | _
  · rcases state.isLedgerFinal with _ | _
    · simp [continuouslyAvailable]
    · simp [continuouslyAvailable]
  · simp

/-- A cleared rail is safe exactly when the preferred rail that would be chosen, if one
fits, does not keep hours that the operation is outside of. -/
theorem safeRail_iff (h : Cleared kernel inputs rail) :
    SafeRail inputs rail ↔ CarriesOutsideHours inputs := by
  obtain ⟨rationale, hrecommended⟩ := h.recommended
  rcases hlinked : inputs.operation.depositoryLinkedRail with _ | linked
  · have hladder := @recommendRail_eq _ inputs.rails hlinked inputs.ofrStlfsi4
    rw [hrecommended] at hladder
    rcases Outcome.firstAnswer_append_eq_some hladder.symm with hpreferred | ⟨hnone, hswept⟩
    · obtain ⟨state, hfirst⟩ := firstFit_of_preferred hpreferred
      have hfirst' := hfirst
      obtain ⟨before, rest, hsplit, -, hfits⟩ := hfirst
      have hmem : rail ∈ preferredRails inputs.operation inputs.ofrStlfsi4 := by
        simp [hsplit]
      have hports : rail ≠ .portsWholesale := ne_portsWholesale_of_preferred hmem
      have hsafe : SafeRail inputs rail ↔ serviceable state inputs.operation = .ok true := by
        constructor
        · rintro ⟨-, other, hget, hcarries⟩
          rw [hfits.1] at hget
          cases hget
          exact hcarries
        · intro hcarries
          exact ⟨hports, state, hfits.1, hcarries⟩
      rw [hsafe, serviceable_of_fits hfits, CarriesOutsideHours, hlinked]
      have hkind : (∀ other s, FirstFit inputs other s → s.isLedgerFinal = false) ↔
          state.isLedgerFinal = false := by
        constructor
        · intro hall
          exact hall rail state hfirst'
        · intro hkind other s hother
          rw [← (hfirst'.unique hother).2]
          exact hkind
      rw [hkind]
      simp
    · refine iff_of_true (safeRail_of_swept hswept) (Or.inr (Or.inr (Or.inr ?_)))
      rintro other state ⟨before, rest, hsplit, -, hfits⟩
      have htried : tryRail inputs.operation inputs.rails other = .ok none := by
        apply hnone
        rw [hsplit]
        simp
      exact absurd hfits (not_fits_of_tryRail htried)
  · rcases linked with linked | shown
    · exact iff_of_true (safeRail_of_linked hlinked hrecommended)
        (Or.inr (Or.inr (Or.inl (by rw [hlinked]; rfl))))
    · rw [recommendRail, hlinked] at hrecommended
      cases hrecommended

/-- Where the gate proceeds, the rail it recommends is safe exactly when the operation is
carried outside hours. -/
theorem proceeds_safe_iff (kernel : Kernel) (inputs : GateInputs)
    (decision : CatoCashDecision kernel) (h : evaluate inputs kernel = .ok decision)
    (hproceed : decision.decision = .proceed) :
    (∃ rail, decision.recommendedRail = some rail ∧ SafeRail inputs rail) ↔
      CarriesOutsideHours inputs := by
  obtain ⟨rail, hrail⟩ := exists_rail_of_proceeds h hproceed
  have hcleared : Cleared kernel inputs rail := proceeds_iff.mp ⟨decision, h, hproceed, hrail⟩
  rw [← safeRail_iff hcleared]
  constructor
  · rintro ⟨other, hother, hsafe⟩
    rw [hrail] at hother
    cases hother
    exact hsafe
  · intro hsafe
    exact ⟨rail, hrail, hsafe⟩

/-! ### A tokenized deposit after hours -/

/-- A rail that is open without a cutoff or a cap. -/
def openRail (rail : CashRail) : CashRail × RailState :=
  (rail, { rail := .member rail, status := .member .available })

/-- A payment of ten that is funded twice over. -/
def paymentOfTen (rails : List CashRail) (tokenized withinBusinessHours : Bool) : GateInputs where
  operation :=
    { notional := 10
      currency := "USD"
      isMaterial := false
      isLvpsMaterial := false
      tokenizedDepositSupported := tokenized
      withinBusinessHours }
  funding :=
    { projectedFundedPosition := 20
      netObligation := 10
      netDebitCapHeadroom := 0
      clearingFundSufficient := true }
  rails := .ofPairs (rails.map openRail)
  ofrStlfsi4 := ⟨some 0, "0.0"⟩

/-- A payment whose checks all pass is cleared for the rail the ladder finds. -/
theorem cleared_of_ladder {rails : List CashRail} {tokenized withinBusinessHours : Bool}
    (hpassed : Outcome.firstAnswer
      (gateChecks (paymentOfTen rails tokenized withinBusinessHours)) = .ok none)
    (hladder : Option.map Prod.fst <$>
      recommendRail (paymentOfTen rails tokenized withinBusinessHours).operation
        (paymentOfTen rails tokenized withinBusinessHours).rails
        (paymentOfTen rails tokenized withinBusinessHours).ofrStlfsi4 = .ok (some rail)) :
    Cleared plainKernel (paymentOfTen rails tokenized withinBusinessHours) rail := by
  refine ⟨rfl, rfl, Outcome.firstAnswer_eq_none_iff.mp hpassed, ?_, rfl, rfl, rfl⟩
  obtain ⟨chosen, hchosen, hrail⟩ := Outcome.map_eq_ok.mp hladder
  obtain ⟨⟨found, rationale⟩, rfl, rfl⟩ := Option.map_eq_some_iff.mp hrail
  exact ⟨rationale, hchosen⟩

/-- The wire is the default rail within business hours. -/
theorem wire_cleared : Cleared plainKernel (paymentOfTen [.fedwire] false true) .fedwire :=
  cleared_of_ladder (by decide +kernel) (by decide +kernel)

/-- After hours, with one deferred-net rail open, the tokenized deposit is recommended. -/
theorem tokenized_cleared : Cleared plainKernel
    (paymentOfTen [.chips, .tokenizedDeposit] true false) .tokenizedDeposit :=
  cleared_of_ladder (by decide +kernel) (by decide +kernel)

theorem proceeds_safe_iff_wire : ∃ decision,
    evaluate (paymentOfTen [.fedwire] false true) plainKernel = .ok decision ∧
      decision.decision = .proceed ∧
      ((∃ rail, decision.recommendedRail = some rail ∧
          SafeRail (paymentOfTen [.fedwire] false true) rail) ↔
        CarriesOutsideHours (paymentOfTen [.fedwire] false true)) := by
  obtain ⟨decision, hevaluate, hproceed, -⟩ := proceeds_iff.mpr wire_cleared
  exact ⟨decision, hevaluate, hproceed,
    proceeds_safe_iff plainKernel _ decision hevaluate hproceed⟩

/-- The tokenized deposit is not available after hours to a perimeter nobody assessed. -/
theorem tokenized_not_safe :
    ¬ ∀ (kernel : Kernel) (inputs : GateInputs) (decision : CatoCashDecision kernel),
      evaluate inputs kernel = .ok decision → decision.decision = .proceed →
        ∃ rail, decision.recommendedRail = some rail ∧ SafeRail inputs rail := by
  intro h
  obtain ⟨decision, hevaluate, hproceed, hrail⟩ := proceeds_iff.mpr tokenized_cleared
  obtain ⟨rail, hrail', -, state, hget, hcarries⟩ := h _ _ decision hevaluate hproceed
  rw [hrail] at hrail'
  cases hrail'
  have hstate : (paymentOfTen [.chips, .tokenizedDeposit] true false).rails.get?
      .tokenizedDeposit = some (openRail .tokenizedDeposit).2 := by decide
  rw [hstate] at hget
  cases hget
  exact absurd hcarries (by decide)

end Atreides
