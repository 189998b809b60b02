import Atreides.Rails.CatoCash

/-!
# What a cleared operation has passed

The gate proceeds exactly when no halt is in force, every field names a member, every check
passes the question on, the ladder recommends a rail, and the obligation the decision is
bound to is well formed.

## Main definitions

* `Cleared` — what the gate asks before it proceeds on a rail

## Main results

* `proceeds_iff` — the gate proceeds on a rail exactly when it is cleared for it
-/

namespace Atreides

variable {kernel : Kernel} {inputs : GateInputs}

/-! ## Checks never proceed -/

theorem holdIf_decision {condition : Bool} {reason : ReasonCode} {rationale : String}
    {v : Verdict} (h : holdIf condition reason rationale = .ok (some v)) :
    v.decision ≠ .proceed := by
  rw [holdIf] at h
  rcases condition with _ | _
  · cases h
  · cases h
    exact nofun

theorem escalateIf_decision {condition : Bool} {reason : ReasonCode} {rationale : String}
    {v : Verdict} (h : escalateIf condition reason rationale = .ok (some v)) :
    v.decision ≠ .proceed := by
  rw [escalateIf] at h
  rcases condition with _ | _
  · cases h
  · cases h
    exact nofun

theorem checkWindow_decision {v : Verdict} (h : checkWindow inputs = .ok (some v)) :
    v.decision ≠ .proceed := by
  rw [checkWindow] at h
  split_ifs at h
  · cases h
  rw [Outcome.bind_eq_ok] at h
  obtain ⟨carried, -, h⟩ := h
  rcases carried with _ | _
  · simp only [Bool.false_eq_true, if_false, windowVerdict, Outcome.bind_eq_ok] at h
    obtain ⟨waits, -, h⟩ := h
    rcases waits with _ | _
    · exact holdIf_decision h
    · exact holdIf_decision h
  · cases h

theorem checkCounterparty_decision {v : Verdict} (h : checkCounterparty inputs = .ok (some v)) :
    v.decision ≠ .proceed := by
  rw [checkCounterparty] at h
  rcases hnamed : inputs.operation.counterparty with _ | counterparty <;> rw [hnamed] at h
  · cases h
  · simp only at h
    rcases hstanding : counterparty.standing <;> rw [hstanding] at h
    · exact holdIf_decision h
    · cases h
    · exact escalateIf_decision h
    · exact holdIf_decision h
    · exact holdIf_decision h

/-- A check that asks the policy holds where it answers. -/
theorem checkAge_decision {v : Verdict} :
    (checkStressAge inputs = .ok (some v) → v.decision ≠ .proceed) ∧
    (∀ item, checkRailAge inputs item = .ok (some v) → v.decision ≠ .proceed) ∧
    (checkCounterpartyAge inputs = .ok (some v) → v.decision ≠ .proceed) := by
  refine ⟨fun h => ?_, fun item h => ?_, fun h => ?_⟩
  · rw [checkStressAge] at h
    rcases hpolicy : inputs.policy with _ | policy <;> rw [hpolicy] at h
    · cases h
    · exact holdIf_decision h
  · rw [checkRailAge] at h
    rcases hpolicy : inputs.policy with _ | policy <;> rw [hpolicy] at h
    · cases h
    · exact holdIf_decision h
  · rw [checkCounterpartyAge] at h
    rcases hpolicy : inputs.policy with _ | policy <;> rw [hpolicy] at h
    · cases h
    · rcases hnamed : inputs.operation.counterparty with _ | counterparty <;> rw [hnamed] at h
      · cases h
      · exact holdIf_decision h

/-- A check that answers holds or escalates. -/
theorem gateChecks_decision {check : Outcome (Option Verdict)} (hcheck : check ∈ gateChecks inputs)
    {v : Verdict} (h : check = .ok (some v)) : v.decision ≠ .proceed := by
  simp only [gateChecks, earlyChecks, lateChecks, List.mem_append, List.mem_cons, List.mem_map,
    List.not_mem_nil, or_false] at hcheck
  subst h
  rcases hcheck with (((h | h) | ⟨item, -, h⟩) | h | h | h | h | h | h | h | h) | h | h | h | h
  · exact holdIf_decision h.symm
  · exact checkAge_decision.1 h.symm
  · exact checkAge_decision.2.1 item h
  · exact checkAge_decision.2.2 h.symm
  · exact escalateIf_decision h.symm
  · exact holdIf_decision h.symm
  · exact checkCounterparty_decision h.symm
  · exact holdIf_decision h.symm
  · rw [checkFunded, eq_comm, Outcome.bind_eq_ok] at h
    obtain ⟨_, -, h⟩ := h
    exact holdIf_decision h
  · rw [checkRiskControls, eq_comm, Outcome.bind_eq_ok] at h
    obtain ⟨_, -, h⟩ := h
    exact holdIf_decision h
  · exact holdIf_decision h.symm
  · exact checkWindow_decision h.symm
  · exact holdIf_decision h.symm
  · exact holdIf_decision h.symm
  · exact holdIf_decision h.symm

/-! ## Clearance -/

/-- The obligation a decision would be bound to is well formed. -/
structure Bindable (kernel : Kernel) (inputs : GateInputs) : Prop where
  together : inputs.obligationId.isNone = inputs.obligationDigest.isNone
  identifier : checkObligationId kernel inputs.obligationId = .ok ()
  digest : inputs.obligationDigest.all isDigestText = true

/-- What the gate asks before it proceeds on a rail. -/
structure Cleared (kernel : Kernel) (inputs : GateInputs) (rail : CashRail) : Prop where
  no_halt : inputs.haltInForce kernel = none
  recognised : inputs.operation.unrecognisedFields = []
  passed : ∀ check ∈ gateChecks inputs, check = .ok none
  recommended : ∃ rationale, recommendRail inputs.operation inputs.rails inputs.ofrStlfsi4 =
    .ok (some (rail, rationale))
  bindable : Bindable kernel inputs

theorem build_fields {fields : DecisionFields} {decision : CatoCashDecision kernel}
    (h : fields.build kernel = .ok decision) : decision.toDecisionFields = fields := by
  rw [DecisionFields.build] at h
  split at h
  · cases h
    rfl
  · cases h

/-- Fields that record their checks make a decision exactly when their obligation is well
formed. -/
theorem check_eq_ok_iff {fields : DecisionFields} (hchecks : fields.checksEvaluated ≠ [])
    (hid : fields.obligationId = inputs.obligationId)
    (hdigest : fields.obligationDigest = inputs.obligationDigest)
    (hversion : fields.gateSetVersion ≠ "") :
    fields.check kernel = .ok () ↔ Bindable kernel inputs := by
  rw [DecisionFields.check, hid, hdigest]
  constructor
  · intro h
    by_cases htogether : inputs.obligationId.isNone = inputs.obligationDigest.isNone
    · rcases hidentifier : checkObligationId kernel inputs.obligationId with e | ⟨⟩
      · simp [hchecks, htogether, hidentifier] at h
      · by_cases htext : inputs.obligationDigest.all isDigestText = true
        · exact ⟨htogether, hidentifier, htext⟩
        · simp [hchecks, htogether, hidentifier, htext] at h
    · simp [hchecks, htogether] at h
  · rintro ⟨htogether, hidentifier, htext⟩
    simp [hchecks, htogether, hidentifier, htext, hversion]

theorem gateSetVersion_ne_empty : gateSetVersion ≠ "" := by decide

/-- Fields that proceed on a rail and record their checks make a decision that does. -/
theorem exists_build {fields : DecisionFields} {rail : CashRail}
    (hchecks : fields.checksEvaluated ≠ []) (hid : fields.obligationId = inputs.obligationId)
    (hdigest : fields.obligationDigest = inputs.obligationDigest)
    (hversion : fields.gateSetVersion ≠ "") (hbindable : Bindable kernel inputs)
    (hproceed : fields.decision = .proceed) (hrail : fields.recommendedRail = some rail) :
    ∃ decision, fields.build kernel = .ok decision ∧ decision.decision = .proceed ∧
      decision.recommendedRail = some rail := by
  have hcheck := (check_eq_ok_iff hchecks hid hdigest hversion).mpr hbindable
  rw [DecisionFields.build]
  split
  · exact ⟨_, rfl, hproceed, hrail⟩
  · rename_i hrefused
    rw [hcheck] at hrefused
    cases hrefused

theorem unrecognisedFields_eq_nil {operation : OperationContext}
    (h : operation.unrecognisedFields = []) :
    ∃ outcome, operation.determinationOutcome = .member outcome := by
  rcases houtcome : operation.determinationOutcome with outcome | shown
  · exact ⟨outcome, rfl⟩
  · simp [OperationContext.unrecognisedFields, houtcome, Coerced.isUnrecognised] at h

/-- The verdict of a gate is to proceed exactly when no check answers and the ladder
recommends a rail. -/
theorem verdict_proceed_iff {v : Verdict} :
    verdict inputs = .ok v ∧ v.decision = .proceed ↔
      (∀ check ∈ gateChecks inputs, check = .ok none) ∧
        clear inputs = .ok v ∧ v.decision = .proceed := by
  rw [verdict]
  constructor
  · rintro ⟨hverdict, hproceed⟩
    rw [Outcome.bind_eq_ok] at hverdict
    obtain ⟨answer, hanswer, hverdict⟩ := hverdict
    rcases answer with _ | answered
    · exact ⟨Outcome.firstAnswer_eq_none_iff.mp hanswer, hverdict, hproceed⟩
    · cases hverdict
      exact absurd hproceed (Outcome.firstAnswer_forall
        (fun check hcheck answer h => gateChecks_decision hcheck h) hanswer)
  · rintro ⟨hpassed, hclear, hproceed⟩
    rw [Outcome.firstAnswer_eq_none_iff.mpr hpassed]
    exact ⟨hclear, hproceed⟩

/-- The ladder's recommendation is what makes a cleared gate proceed. -/
theorem clear_proceed_iff {rail : CashRail} :
    (∃ v, clear inputs = .ok v ∧ v.decision = .proceed ∧ v.rail = some rail) ↔
      ∃ rationale, recommendRail inputs.operation inputs.rails inputs.ofrStlfsi4 =
        .ok (some (rail, rationale)) := by
  constructor
  · rintro ⟨v, hclear, hproceed, hrail⟩
    rw [clear, Outcome.bind_eq_ok] at hclear
    obtain ⟨selection, hselection, hclear⟩ := hclear
    rcases selection with _ | ⟨chosen, rationale⟩
    · rw [Outcome.bind_eq_ok] at hclear
      obtain ⟨why, -, hclear⟩ := hclear
      cases hclear
      cases hproceed
    · cases hclear
      cases hrail
      exact ⟨rationale, hselection⟩
  · rintro ⟨rationale, hselection⟩
    rw [clear, hselection]
    exact ⟨_, rfl, rfl, rfl⟩

/-- A verdict that proceeds names a rail. -/
theorem clear_rail {v : Verdict} (h : clear inputs = .ok v) (hproceed : v.decision = .proceed) :
    ∃ rail, v.rail = some rail := by
  rw [clear, Outcome.bind_eq_ok] at h
  obtain ⟨selection, -, h⟩ := h
  rcases selection with _ | ⟨chosen, rationale⟩
  · rw [Outcome.bind_eq_ok] at h
    obtain ⟨why, -, h⟩ := h
    cases h
    cases hproceed
  · cases h
    exact ⟨chosen, rfl⟩

theorem isFunded_of_checkFunded (h : checkFunded inputs = .ok none) :
    inputs.funding.isFunded = .ok true := by
  rw [checkFunded, Outcome.bind_eq_ok] at h
  obtain ⟨isFunded, hfunded, h⟩ := h
  rcases isFunded with _ | _
  · cases h
  · exact hfunded

theorem checkFunded_mem : checkFunded inputs ∈ gateChecks inputs := by
  simp [gateChecks, earlyChecks]

/-- A decision that proceeds was decided by the checks and the ladder. -/
theorem decided_of_proceeds {decision : CatoCashDecision kernel}
    (h : evaluate inputs kernel = .ok decision) (hproceed : decision.decision = .proceed) :
    inputs.haltInForce kernel = none ∧ inputs.operation.unrecognisedFields = [] ∧
      decided inputs kernel = .ok decision := by
  rw [evaluate] at h
  rcases hhalt : inputs.haltInForce kernel with _ | halt
  · rcases hfields : inputs.operation.unrecognisedFields with _ | ⟨field, rest⟩
    · rw [hhalt, hfields] at h
      exact ⟨rfl, rfl, h⟩
    · rw [hhalt, hfields] at h
      simp only [unrecognisedDecision, Outcome.bind_eq_ok] at h
      obtain ⟨snapshot, -, hbuild⟩ := h
      rw [build_fields hbuild] at hproceed
      cases hproceed
  · rw [hhalt] at h
    simp only [haltedDecision, Outcome.bind_eq_ok] at h
    obtain ⟨snapshot, -, hbuild⟩ := h
    rw [build_fields hbuild] at hproceed
    cases hproceed

/-- A decision that proceeds follows a verdict on an obligation that is well formed. -/
theorem verdict_of_decided {decision : CatoCashDecision kernel}
    (h : decided inputs kernel = .ok decision) :
    Bindable kernel inputs ∧ ∃ v, verdict inputs = .ok v ∧ decision.decision = v.decision ∧
      decision.recommendedRail = v.rail := by
  simp only [decided, Outcome.bind_eq_ok] at h
  obtain ⟨checks, hchecks, snapshot, -, kind, -, v, hverdict, hbuild⟩ := h
  have hvalid := decision.admitted
  rw [build_fields hbuild] at hvalid
  rw [checksEvaluated, Outcome.bind_eq_ok] at hchecks
  obtain ⟨isFunded, -, hchecks⟩ := hchecks
  cases hchecks
  refine ⟨(check_eq_ok_iff (List.cons_ne_nil _ _) rfl rfl gateSetVersion_ne_empty).mp hvalid,
    v, hverdict, ?_, ?_⟩
  · rw [build_fields hbuild]
  · rw [build_fields hbuild]

/-- A decision that proceeds recommends a rail. -/
theorem exists_rail_of_proceeds {decision : CatoCashDecision kernel}
    (h : evaluate inputs kernel = .ok decision) (hproceed : decision.decision = .proceed) :
    ∃ rail, decision.recommendedRail = some rail := by
  obtain ⟨-, -, hdecided⟩ := decided_of_proceeds h hproceed
  obtain ⟨-, v, hverdict, hdecision, hrail⟩ := verdict_of_decided hdecided
  rw [hdecision] at hproceed
  obtain ⟨-, hclear, -⟩ := verdict_proceed_iff.mp ⟨hverdict, hproceed⟩
  rw [hrail]
  exact clear_rail hclear hproceed

/-- The gate proceeds on a rail exactly when it is cleared for it. -/
theorem proceeds_iff {rail : CashRail} :
    (∃ decision, evaluate inputs kernel = .ok decision ∧ decision.decision = .proceed ∧
      decision.recommendedRail = some rail) ↔ Cleared kernel inputs rail := by
  constructor
  · rintro ⟨decision, hevaluate, hproceed, hrail⟩
    obtain ⟨hhalt, hfields, hdecided⟩ := decided_of_proceeds hevaluate hproceed
    obtain ⟨hbindable, v, hverdict, hdecision, hchosen⟩ := verdict_of_decided hdecided
    rw [hdecision] at hproceed
    rw [hchosen] at hrail
    obtain ⟨hpassed, hclear, -⟩ := verdict_proceed_iff.mp ⟨hverdict, hproceed⟩
    exact ⟨hhalt, hfields, hpassed, clear_proceed_iff.mp ⟨v, hclear, hproceed, hrail⟩, hbindable⟩
  · intro h
    have hfunded := isFunded_of_checkFunded (h.passed _ checkFunded_mem)
    obtain ⟨v, hclear, hproceed, hrail⟩ := clear_proceed_iff.mpr h.recommended
    obtain ⟨hverdict, -⟩ := verdict_proceed_iff.mpr ⟨h.passed, hclear, hproceed⟩
    obtain ⟨outcome, houtcome⟩ := unrecognisedFields_eq_nil h.recognised
    obtain ⟨class', hclass⟩ : ∃ class',
        obligationFinalityClass inputs.operation.determinationOutcome = .ok class' := by
      rw [houtcome]
      rcases outcome <;> exact ⟨_, rfl⟩
    rw [evaluate, h.no_halt, h.recognised]
    simp only [decided, checksEvaluated, snapshotFunding, hfunded, hclass, hverdict,
      Outcome.ok_bind]
    exact exists_build (List.cons_ne_nil _ _) rfl rfl gateSetVersion_ne_empty h.bindable hproceed
      hrail

end Atreides
