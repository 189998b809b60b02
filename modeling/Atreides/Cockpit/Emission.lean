import Atreides.Cockpit.ClearingCockpit

/-!
# What the cockpit emits

A package leaves the cockpit for human entry only if no halt is in force, the gates pass on
the tasking as it is presented, and its magnitude is below the threshold. The magnitude is
the net payment, or the net delivery where no payment is stated: a tasking with a small
payment is emitted whatever quantity it delivers. A call that raises has changed nothing.

## Main definitions

* `BelowThreshold` — the magnitude of a tasking does not reach the threshold
* `EmissionGoverned` — what a call of the third beat does

## Main results

* `emission_governed` — every call does so
* `emits_large_delivery` — the quantity is not judged where a payment is stated
-/

namespace Atreides

open DecimalContext (ambient)

/-! ## The threshold -/

/-- The magnitude of a tasking is below the threshold: as the ambient context computes its
absolute value, and exactly where the context holds the threshold. -/
structure BelowThreshold (setup : CockpitSetup) (tasking : CockpitTasking) : Prop where
  computed : ∀ magnitude, CockpitSetup.magnitude tasking = some magnitude →
    ∃ size, magnitude.abs ambient = .ok size ∧
      setup.materialMagnitudeThreshold.le (.finite size) = .ok false
  exactly : ∀ magnitude threshold, CockpitSetup.magnitude tasking = some magnitude →
    setup.materialMagnitudeThreshold = .finite threshold → ambient.Represents threshold.value →
      |magnitude.value| < threshold.value

variable {setup : CockpitSetup} {call : CockpitCall} {tasking : CockpitTasking}
  {gateResult : GateResult}

/-- Rounding the absolute value does not carry it below a threshold the context holds. -/
theorem lt_of_rounded_lt {magnitude size threshold : FiniteDecimal}
    (hrepresents : ambient.Represents threshold.value) (hsize : magnitude.abs ambient = .ok size)
    (hbelow : (Decimal.finite threshold).le (.finite size) = .ok false) :
    |magnitude.value| < threshold.value := by
  have hlt : size.value < threshold.value := by
    rw [← FiniteDecimal.lt_iff]
    simpa [Decimal.le, Decimal.isNaN, Decimal.ltNumber] using hbelow
  by_contra hreaches
  exact absurd ((FiniteDecimal.abs_le_iff hrepresents hsize).2 (not_lt.mp hreaches))
    (not_le.mpr hlt)

theorem belowThreshold_of_isMaterial (h : setup.isMaterial tasking = .ok false) :
    BelowThreshold setup tasking := by
  rw [CockpitSetup.isMaterial.eq_def] at h
  rcases hmagnitude : CockpitSetup.magnitude tasking with _ | magnitude
  · constructor
    · intro _ h'
      cases hmagnitude.symm.trans h'
    · intro _ _ h'
      cases hmagnitude.symm.trans h'
  · rw [hmagnitude] at h
    simp only [Outcome.bind_eq_ok] at h
    obtain ⟨size, hsize, hbelow⟩ := h
    refine ⟨?_, ?_⟩
    · rintro _ h'
      cases hmagnitude.symm.trans h'
      exact ⟨size, hsize, hbelow⟩
    · rintro _ threshold h' hthreshold hrepresents
      cases hmagnitude.symm.trans h'
      rw [hthreshold] at hbelow
      exact lt_of_rounded_lt hrepresents hsize hbelow

/-- Emitting needs gates that passed and a magnitude below the threshold. -/
theorem emitNow_eq_true (h : setup.emitNow tasking gateResult = .ok true) :
    gateResult.passed = true ∧ setup.isMaterial tasking = .ok false := by
  rw [CockpitSetup.emitNow] at h
  by_cases hpassed : gateResult.passed = true
  · rw [if_pos hpassed, Outcome.bind_eq_ok] at h
    obtain ⟨material, hmaterial, hnot⟩ := h
    cases material with
    | false => exact ⟨hpassed, hmaterial⟩
    | true => cases hnot
  · rw [if_neg hpassed] at h
    cases h

/-! ## Halts -/

/-- A primitive goes on only where no halt is in force. -/
theorem guardHalt_eq_ok_iff {primitive : String} :
    setup.guardHalt call primitive = .ok () ↔ setup.currentHalt call = .ok none := by
  rw [CockpitSetup.guardHalt]
  rcases setup.currentHalt call with e | (_ | context)
  · simp
  · simp
  · simp

/-! ## The store -/

namespace ClearingCockpit

variable {cockpit cockpit' : ClearingCockpit}

theorem emitSettlement_transactional (record : SettlementTaskingRecord)
    (validation : SettlementValidation) :
    Effect.Transactional (emitSettlement setup call record validation) := by
  refine Effect.Transactional.bind (Effect.Transactional.within ?_ fun _ => rfl) fun _ => ?_
  · exact SettlementOperationsAnalyst.emit_transactional
  · exact Effect.neverRaises_pure _

/-- Emitting the settlement appends the row it names, and touches nothing else. -/
theorem emitSettlement_eq_ok {record : SettlementTaskingRecord}
    {validation : SettlementValidation} {name : Option Uuid}
    (h : emitSettlement setup call record validation cockpit = .ok name cockpit') :
    ∃ row, cockpit'.store.rows = cockpit.store.rows ++ [row] ∧ name = some row.recordId := by
  rw [emitSettlement, Effect.bind_eq_ok] at h
  obtain ⟨⟨output, dsorRecord⟩, cockpit₁, hemit, hname⟩ := h
  rw [onStore, Effect.within_eq_ok] at hemit
  obtain ⟨store, hemit, rfl⟩ := hemit
  rw [Effect.pure_eq_ok] at hname
  obtain ⟨rfl, rfl⟩ := hname
  obtain ⟨-, row, hrows, hid, -⟩ := SettlementOperationsAnalyst.emit_eq_ok hemit
  exact ⟨row, hrows, by rw [hid]⟩

end ClearingCockpit

/-! ## The third beat -/

open ClearingCockpit

/-- What a call of the third beat does: it releases a package only where no halt is in force,
the gates pass on the tasking and the magnitude is below the threshold; it appends one row
for a package that is emitted or held by a gate, and none for one that is held for a quorum;
and it leaves the cockpit as it was where it raises. -/
structure EmissionGoverned (setup : CockpitSetup) (call : CockpitCall) (tasking : CockpitTasking)
    (gateResult : GateResult) (cockpit : ClearingCockpit) : Prop where
  released : ∀ package cockpit',
    emitInstructionPackage setup call tasking gateResult cockpit = .ok package cockpit' →
      package.disposition = .emitForHumanEntry →
        setup.currentHalt call = .ok none ∧
          (∃ record, setup.taskingRecord tasking = .ok record ∧
            (setup.validateSettlement record).passed = true) ∧
          BelowThreshold setup tasking
  recorded : ∀ package cockpit',
    emitInstructionPackage setup call tasking gateResult cockpit = .ok package cockpit' →
      package.disposition ≠ .quorumRequiredHold →
        ∃ row, cockpit'.store.rows = cockpit.store.rows ++ [row] ∧
          package.dsorRecordId = some row.recordId
  withheld : ∀ package cockpit',
    emitInstructionPackage setup call tasking gateResult cockpit = .ok package cockpit' →
      package.disposition = .quorumRequiredHold →
        cockpit'.store = cockpit.store ∧ package.dsorRecordId = none
  undone : ∀ e cockpit',
    emitInstructionPackage setup call tasking gateResult cockpit = .error e cockpit' →
      cockpit' = cockpit

/-- The steps of a call that returned. -/
structure EmissionSteps (setup : CockpitSetup) (call : CockpitCall) (tasking : CockpitTasking)
    (gateResult : GateResult) (cockpit : ClearingCockpit) (package : InstructionPackage)
    (cockpit' : ClearingCockpit) (emitNow : Bool) : Prop where
  no_halt : setup.currentHalt call = .ok none
  validated : ∃ record, setup.taskingRecord tasking = .ok record ∧
    (setup.validateSettlement record).passed = gateResult.passed
  judged : setup.emitNow tasking gateResult = .ok emitNow
  packed : ∃ dsorRecordId, package = setup.package tasking gateResult emitNow dsorRecordId ∧
    if !gateResult.passed || emitNow then
      ∃ row, cockpit'.store.rows = cockpit.store.rows ++ [row] ∧ dsorRecordId = some row.recordId
    else cockpit'.store = cockpit.store ∧ dsorRecordId = none

theorem emissionSteps_of_ok {cockpit cockpit' : ClearingCockpit} {package : InstructionPackage}
    (h : emitInstructionPackage setup call tasking gateResult cockpit = .ok package cockpit') :
    ∃ emitNow, EmissionSteps setup call tasking gateResult cockpit package cockpit' emitNow := by
  simp only [emitInstructionPackage, Effect.bind_eq_ok, Effect.ofOutcome_eq_ok,
    Effect.refuseIf_eq_ok, not_not] at h
  obtain ⟨⟨⟩, _, ⟨hguard, rfl⟩, ⟨⟩, _, ⟨-, rfl⟩, record, _, ⟨hrecord, rfl⟩, ⟨⟩, _,
    ⟨hpassed, rfl⟩, emitNow, _, ⟨hemitNow, rfl⟩, dsorRecordId, cockpit₁, hemit, ⟨⟩, cockpit₂,
    hnote, hpackage⟩ := h
  rw [note, Effect.modify_eq_ok] at hnote
  rw [Effect.pure_eq_ok] at hpackage
  obtain ⟨rfl, rfl⟩ := hpackage
  -- the ledger is all the last step changes
  have hstore : cockpit₂.store = cockpit₁.store := by
    rw [← hnote]
    rfl
  refine ⟨emitNow, guardHalt_eq_ok_iff.mp hguard, ⟨record, hrecord, hpassed⟩, hemitNow,
    dsorRecordId, rfl, ?_⟩
  rw [persistOutcome] at hemit
  by_cases hpersists : (!gateResult.passed || emitNow) = true
  · rw [if_pos hpersists] at hemit ⊢
    rw [hstore]
    exact emitSettlement_eq_ok hemit
  · rw [if_neg hpersists] at hemit ⊢
    rw [Effect.pure_eq_ok] at hemit
    obtain ⟨rfl, rfl⟩ := hemit
    exact ⟨hstore, rfl⟩

/-- A call only reads before it persists, and cannot raise afterwards. -/
theorem emitInstructionPackage_transactional :
    Effect.Transactional (emitInstructionPackage setup call tasking gateResult) := by
  refine Effect.Transactional.of_readOnly_bind (Effect.ReadOnly.of_outcome _) fun _ => ?_
  refine Effect.Transactional.of_readOnly_bind (Effect.ReadOnly.refuseIf _ _) fun _ => ?_
  refine Effect.Transactional.of_readOnly_bind (Effect.ReadOnly.of_outcome _) fun record => ?_
  refine Effect.Transactional.of_readOnly_bind (Effect.ReadOnly.refuseIf _ _) fun _ => ?_
  refine Effect.Transactional.of_readOnly_bind (Effect.ReadOnly.of_outcome _) fun emitNow => ?_
  refine Effect.Transactional.bind ?_ fun _ => ?_
  · rw [persistOutcome]
    split_ifs
    · exact emitSettlement_transactional _ _
    · exact (Effect.ReadOnly.of_pure _).transactional
  · exact (Effect.neverRaises_modify _).bind fun _ => Effect.neverRaises_pure _

theorem disposition_package {emitNow : Bool} {dsorRecordId : Option Uuid} :
    (setup.package tasking gateResult emitNow dsorRecordId).disposition =
      if !gateResult.passed then .gateHeld
      else if !emitNow then .quorumRequiredHold
      else .emitForHumanEntry := by
  rw [CockpitSetup.package]
  split_ifs <;> rfl

theorem dsorRecordId_package {emitNow : Bool} {dsorRecordId : Option Uuid} :
    (setup.package tasking gateResult emitNow dsorRecordId).dsorRecordId = dsorRecordId := by
  rw [CockpitSetup.package]
  split_ifs <;> rfl

/-- Every call of the third beat is governed, in every state of the cockpit. -/
theorem emission_governed (setup : CockpitSetup) (call : CockpitCall) (tasking : CockpitTasking)
    (gateResult : GateResult) (cockpit : ClearingCockpit) :
    EmissionGoverned setup call tasking gateResult cockpit where
  released := by
    intro package cockpit' h hdisposition
    obtain ⟨emitNow, hsteps⟩ := emissionSteps_of_ok h
    obtain ⟨dsorRecordId, rfl, -⟩ := hsteps.packed
    rw [disposition_package] at hdisposition
    cases hpassed : gateResult.passed with
    | false => simp [hpassed] at hdisposition
    | true =>
      cases emitNow with
      | false => simp [hpassed] at hdisposition
      | true =>
        obtain ⟨record, hrecord, hvalid⟩ := hsteps.validated
        refine ⟨hsteps.no_halt, ⟨record, hrecord, hvalid.trans hpassed⟩, ?_⟩
        exact belowThreshold_of_isMaterial (emitNow_eq_true hsteps.judged).2
  recorded := by
    intro package cockpit' h hdisposition
    obtain ⟨emitNow, hsteps⟩ := emissionSteps_of_ok h
    obtain ⟨dsorRecordId, rfl, hstore⟩ := hsteps.packed
    rw [disposition_package] at hdisposition
    have hpersists : (!gateResult.passed || emitNow) = true := by
      cases hpassed : gateResult.passed <;> cases emitNow <;> simp_all
    rw [if_pos hpersists] at hstore
    rw [dsorRecordId_package]
    exact hstore
  withheld := by
    intro package cockpit' h hdisposition
    obtain ⟨emitNow, hsteps⟩ := emissionSteps_of_ok h
    obtain ⟨dsorRecordId, rfl, hstore⟩ := hsteps.packed
    rw [disposition_package] at hdisposition
    have hpersists : ¬ (!gateResult.passed || emitNow) = true := by
      cases hpassed : gateResult.passed <;> cases emitNow <;> simp_all
    rw [if_neg hpersists] at hstore
    rw [dsorRecordId_package]
    exact hstore
  undone := fun e cockpit' h => emitInstructionPackage_transactional cockpit e cockpit' h

/-! ### A large delivery against a small payment -/

/-- A cockpit with the threshold it has by default, and encoders that answer the same for
everything. -/
def sampleSetup : CockpitSetup where
  analyst := ⟨plainKernel, fun _ => "\x7b\x7d"⟩
  preOperationStateHash _ := ⟨String.ofList (List.replicate 64 '0'), by decide +kernel⟩
  uuid5 _ := ⟨"00000000-0000-5000-8000-000000000000", by decide +kernel⟩
  ignores_capture _ _ := rfl

/-- A call of a cockpit that no one halts. -/
def sampleCall : CockpitCall where
  haltedAt := .midnight (.of 2026 5 4)
  clock := .midnight (.of 2026 5 4)
  loggedAt := .midnight (.of 2026 5 4)
  freshId := ⟨"00000000-0000-4000-8000-0000000000c1", by decide +kernel⟩

/-- A delivery of sixty million against a payment of one. -/
def largeDelivery : CockpitTasking where
  operationId := ⟨"00000000-0000-4000-8000-0000000000c2", by decide +kernel⟩
  regime := .csd
  rail := .ficcGsdDvp
  settlementKind := .dvp
  counterpartyId := "FICC"
  settlementDate := .midnight (.of 2026 5 5)
  authorityTier := .t1
  authorityId := "operator-1"
  capturedAt := .midnight (.of 2026 5 4)
  netDeliveryQuantity := some 60000000
  netPaymentAmount := some 1

/-- What the second beat answers on it. -/
def largeDeliveryPassed : GateResult where
  operationId := largeDelivery.operationId
  regime := .csd
  passed := true
  outputKind := .settlementTelemetry
  checksEvaluated := gateOrder

/-- The package of the large delivery is emitted for human entry, and its quantity reaches the
threshold. -/
theorem emits_large_delivery :
    ∃ package cockpit', emitInstructionPackage sampleSetup sampleCall largeDelivery
        largeDeliveryPassed { store := .new } = .ok package cockpit' ∧
      package.disposition = .emitForHumanEntry ∧
      ∃ quantity size, largeDelivery.netDeliveryQuantity = some quantity ∧
        quantity.abs ambient = .ok size ∧
          sampleSetup.materialMagnitudeThreshold.le (.finite size) = .ok true :=
  ⟨_, _, rfl, rfl, _, _, rfl, rfl, rfl⟩

end Atreides
