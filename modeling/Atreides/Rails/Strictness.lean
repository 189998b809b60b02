import Atreides.Rails.RailSafety

/-!
# More evidence, and the order of the rails

A counterparty, a freshness policy or a halt can only stop an operation: where the gate
proceeds with it, it proceeds without it, on the same rail. The order in which the rails are
given matters only where the search for a rail in the window can end before or at one whose
value cannot be compared.

## Main definitions

* `relaxed` — the inputs without some of the evidence
* `RailOrderFree` — every order of the rails is decided alike
* `ReadsRailsAlike` — when it is

## Main results

* `cleared_relaxed` — what is cleared stays cleared with less evidence
* `strict_and_railOrderFree_iff` — both properties, exactly
-/

namespace Atreides

variable {kernel : Kernel} {inputs : GateInputs} {rail : CashRail}

/-! ## Less evidence -/

/-- The inputs with another counterparty, policy and halt. -/
def relaxed (inputs : GateInputs) (counterparty : Option Counterparty)
    (policy : Option FreshnessPolicy) (halt : Option HaltContext) : GateInputs :=
  { inputs with
    operation := { inputs.operation with counterparty }
    freshnessPolicy := policy
    halt }

section Relaxed

variable {counterparty : Option Counterparty} {policy : Option FreshnessPolicy}
  {halt : Option HaltContext}

theorem policy_relaxed (hpolicy : policy = none ∨ policy = inputs.freshnessPolicy) :
    (relaxed inputs counterparty policy halt).policy = none ∨
      (relaxed inputs counterparty policy halt).policy = inputs.policy := by
  rcases hpolicy with rfl | rfl
  · exact Or.inl rfl
  · exact Or.inr rfl

theorem recommendRail_relaxed :
    recommendRail (relaxed inputs counterparty policy halt).operation
        (relaxed inputs counterparty policy halt).rails
        (relaxed inputs counterparty policy halt).ofrStlfsi4 =
      recommendRail inputs.operation inputs.rails inputs.ofrStlfsi4 := rfl

theorem checkWindow_relaxed :
    checkWindow (relaxed inputs counterparty policy halt) = checkWindow inputs := rfl

/-- The checks that ask the policy pass without one, and as before with the same one. -/
theorem checkAge_relaxed (hcounterparty : counterparty = none ∨
      counterparty = inputs.operation.counterparty)
    (hpolicy : policy = none ∨ policy = inputs.freshnessPolicy)
    (hstress : checkStressAge inputs = .ok none)
    (hrails : ∀ item ∈ sortedRails inputs.rails, checkRailAge inputs item = .ok none)
    (hage : checkCounterpartyAge inputs = .ok none) :
    checkStressAge (relaxed inputs counterparty policy halt) = .ok none ∧
      (∀ item ∈ sortedRails inputs.rails,
        checkRailAge (relaxed inputs counterparty policy halt) item = .ok none) ∧
      checkCounterpartyAge (relaxed inputs counterparty policy halt) = .ok none := by
  rcases @policy_relaxed inputs counterparty policy halt hpolicy with hnone | hsame
  · simp only [checkStressAge, checkRailAge, checkCounterpartyAge, hnone]
    exact ⟨trivial, fun _ _ => trivial, trivial⟩
  · refine ⟨?_, fun item hitem => ?_, ?_⟩
    · rw [checkStressAge, hsame]
      exact hstress
    · rw [checkRailAge, hsame]
      exact hrails item hitem
    · rw [checkCounterpartyAge, hsame]
      rcases hcounterparty with rfl | rfl
      · rcases inputs.policy <;> rfl
      · exact hage

/-- An operation that is cleared stays cleared, for the same rail, with less evidence. -/
theorem cleared_relaxed (hcounterparty : counterparty = none ∨
      counterparty = inputs.operation.counterparty)
    (hpolicy : policy = none ∨ policy = inputs.freshnessPolicy)
    (hhalt : halt = none ∨ halt = inputs.halt) (h : Cleared kernel inputs rail) :
    Cleared kernel (relaxed inputs counterparty policy halt) rail := by
  have hpassed := h.passed
  simp only [gateChecks, earlyChecks, lateChecks, List.mem_append, List.mem_cons, List.mem_map,
    List.not_mem_nil, or_false] at hpassed
  obtain ⟨hstress, hrails, hage⟩ := @checkAge_relaxed inputs counterparty policy halt
    hcounterparty hpolicy (hpassed _ (by simp))
    (fun item hitem => hpassed _ (Or.inl (Or.inl (Or.inr ⟨item, hitem, rfl⟩))))
    (hpassed _ (by simp))
  refine ⟨?_, h.recognised, ?_, h.recommended, ⟨h.bindable.together, h.bindable.identifier,
    h.bindable.digest⟩⟩
  · rcases hhalt with rfl | rfl
    · rfl
    · exact h.no_halt
  · intro check hcheck
    simp only [gateChecks, earlyChecks, lateChecks, List.mem_append, List.mem_cons, List.mem_map,
      List.not_mem_nil, or_false] at hcheck
    rcases hcheck with
      (((rfl | rfl) | ⟨item, hitem, rfl⟩) | rfl | rfl | rfl | rfl | rfl | rfl | rfl | rfl) |
        rfl | rfl | rfl | rfl
    · exact hpassed (checkStressReading inputs) (by simp)
    · exact hstress
    · exact hrails item hitem
    · exact hage
    · exact hpassed (checkSystemicStress inputs) (by simp)
    · exact hpassed (checkMaterial inputs) (by simp)
    · rcases hcounterparty with rfl | rfl
      · rfl
      · exact hpassed (checkCounterparty inputs) (by simp)
    · exact hpassed (checkAssertable inputs) (by simp)
    · exact hpassed (checkFunded inputs) (by simp)
    · exact hpassed (checkRiskControls inputs) (by simp)
    · exact hpassed (checkBroadStress inputs) (by simp)
    · exact hpassed (checkWindow inputs) (by simp)
    · exact hpassed (checkCorrespondent inputs) (by simp)
    · exact hpassed (checkDetermination inputs) (by simp)
    · exact hpassed (checkRevocation inputs) (by simp)

end Relaxed

/-! ## The order of the rails -/

/-- The inputs with the rails given in another order. -/
def withRails (inputs : GateInputs) (rails : Dict CashRail RailState) : GateInputs :=
  { inputs with rails }

/-- Every order of the rails is decided alike. -/
def RailOrderFree (kernel : Kernel) (inputs : GateInputs) : Prop :=
  ∀ rails : Dict CashRail RailState, rails.items.Perm inputs.rails.items →
    evaluate (withRails inputs rails) kernel = evaluate inputs kernel

section Order

variable {rails : Dict CashRail RailState}

theorem sortedRails_perm {rails' : Dict CashRail RailState}
    (h : rails'.items.Perm rails.items) : sortedRails rails' = sortedRails rails := by
  have htotal : Std.Total (fun a b : CashRail × RailState => a.1.value ≤ b.1.value) :=
    ⟨fun a b => String.le_total a.1.value b.1.value⟩
  have htrans : IsTrans (CashRail × RailState) fun a b => a.1.value ≤ b.1.value :=
    ⟨fun _ _ _ => String.le_trans⟩
  refine @List.Perm.eq_of_pairwise _ (fun a b => a.1.value ≤ b.1.value) _ _ ?_
    (List.pairwise_insertionSort _ _) (List.pairwise_insertionSort _ _) ?_
  · intro a b ha hb hab hba
    -- two entries with one identifier have one key
    have hkey : a.1 = b.1 := CashRail.value_injective (String.le_antisymm hab hba)
    have ha' : a ∈ rails.items := h.mem_iff.mp ((List.perm_insertionSort _ _).mem_iff.mp ha)
    have hb' : b ∈ rails.items := (List.perm_insertionSort _ _).mem_iff.mp hb
    exact rails.eq_of_key_eq ha' hb' hkey
  · exact (List.perm_insertionSort _ _).trans (h.trans (List.perm_insertionSort _ _).symm)

theorem linkedRailBlocker_congr {rails' : Dict CashRail RailState}
    (h : rails'.items.Perm rails.items) (linked : CashRail) (operation : OperationContext) :
    linkedRailBlocker linked rails' operation = linkedRailBlocker linked rails operation := by
  rw [linkedRailBlocker, linkedRailBlocker, Dict.get?_perm h]

/-- The ladder reads the rails by name and in the order of their identifiers. -/
theorem recommendRail_congr {rails' : Dict CashRail RailState}
    (h : rails'.items.Perm rails.items) (operation : OperationContext)
    (ofrStlfsi4 : StressReading) :
    recommendRail operation rails' ofrStlfsi4 = recommendRail operation rails ofrStlfsi4 := by
  have htry : tryRail operation rails' = tryRail operation rails := by
    funext rail
    rw [tryRail, tryRail, Dict.get?_perm h]
  have hwindow : windowRule operation rails' = windowRule operation rails := by
    rw [windowRule, windowRule, Dict.get?_perm h]
  simp only [recommendRail, linkedRailBlocker_congr h, preferenceRules, prefer, htry, hwindow,
    sortedRails_perm h]

theorem clear_congr (h : rails.items.Perm inputs.rails.items) :
    clear (withRails inputs rails) = clear inputs := by
  rw [clear, clear, ladderHold, ladderHold]
  simp only [withRails, recommendRail_congr h, linkedRailBlocker_congr h]

theorem earlyChecks_congr (h : rails.items.Perm inputs.rails.items) :
    earlyChecks (withRails inputs rails) = earlyChecks inputs := by
  have hsorted : sortedRails (withRails inputs rails).rails = sortedRails inputs.rails :=
    sortedRails_perm h
  rw [earlyChecks, earlyChecks, hsorted]
  rfl

theorem checksEvaluated_congr (h : rails.items.Perm inputs.rails.items) :
    checksEvaluated (withRails inputs rails) = checksEvaluated inputs := by
  have hsorted : sortedRails (withRails inputs rails).rails = sortedRails inputs.rails :=
    sortedRails_perm h
  rw [checksEvaluated, checksEvaluated, hsorted]
  rfl

theorem realRails_perm (h : rails.items.Perm inputs.rails.items) :
    (withRails inputs rails).realRails.Perm inputs.realRails :=
  h.filter _

/-! ### The search for a rail in the window -/

/-- The rail of an entry can carry the operation. -/
def Carries (inputs : GateInputs) (item : CashRail × RailState) : Prop :=
  serviceable item.2 inputs.operation = .ok true

/-- The value the rail of an entry carries can be compared with the operation. -/
def Readable (inputs : GateInputs) (item : CashRail × RailState) : Prop :=
  Outcome.Returns (serviceable item.2 inputs.operation)

theorem overCap_error {state : RailState} {operation : OperationContext} {e : PyError}
    (h : overCap state operation = .error e) : e = .invalidOperation := by
  rw [overCap] at h
  rcases hcap : state.valueCap with _ | cap <;> rw [hcap] at h
  · cases h
  · simp only [Decimal.lt] at h
    split_ifs at h
    · cases h
      rfl

/-- A rail that cannot be read raises an invalid operation. -/
theorem serviceable_cases (state : RailState) (operation : OperationContext) :
    Outcome.Returns (serviceable state operation) ∨
      serviceable state operation = .error .invalidOperation := by
  rw [serviceable]
  by_cases husable : (!state.usable) = true
  · rw [if_pos husable]
    exact Or.inl (Outcome.returns_ok _)
  · rw [if_neg husable]
    rcases hover : overCap state operation with e | _ | _
    · rw [overCap_error hover]
      exact Or.inr rfl
    · left
      simp only [Outcome.ok_bind, Bool.false_eq_true, if_false]
      split_ifs <;> exact Outcome.returns_ok _
    · exact Or.inl (Outcome.returns_ok _)

/-- Where a rail can be read, so can its capacity. -/
theorem openLedger_returns {item : CashRail × RailState} (h : Readable inputs item) :
    Outcome.Returns (openLedger inputs.operation item) := by
  rw [openLedger]
  split_ifs with hopen
  · rw [Bool.and_eq_true] at hopen
    obtain ⟨carried, hcarried⟩ := h
    rw [serviceable, hopen.2] at hcarried
    simp only [Bool.not_true, Bool.false_eq_true, if_false] at hcarried
    rw [Outcome.bind_eq_ok] at hcarried
    obtain ⟨exceeds, hover, -⟩ := hcarried
    rw [withinCap_eq, hover]
    exact ⟨_, rfl⟩
  · exact Outcome.returns_ok _

theorem checkWindow_of_readable (h : rails.items.Perm inputs.rails.items)
    (hreadable : ∀ item ∈ inputs.realRails, Readable inputs item) :
    checkWindow (withRails inputs rails) = checkWindow inputs := by
  have hcarries := Outcome.anyOf_perm (realRails_perm h) hreadable
  have hledger := Outcome.anyOf_perm (realRails_perm h) fun item hitem =>
    openLedger_returns (hreadable item hitem)
  have hwaits : waitsForPerimeter (withRails inputs rails) = waitsForPerimeter inputs := by
    rw [waitsForPerimeter, waitsForPerimeter]
    exact congrArg (fun found =>
      if perimeterUnread inputs.operation then found else .ok false) hledger
  rw [checkWindow, checkWindow, windowVerdict, windowVerdict, hwaits]
  exact congrArg (fun found => if inputs.operation.depositoryLinkedRail.isSome then _ else
    found >>= _) hcarries

/-- Where no rail carries the operation and one cannot be read, the search raises. -/
theorem anyOf_raises {items : List (CashRail × RailState)}
    (hnone : ∀ item ∈ items, ¬ Carries inputs item)
    (hunread : ∃ item ∈ items, ¬ Readable inputs item) :
    Outcome.anyOf (fun item => serviceable item.2 inputs.operation) items =
      .error .invalidOperation := by
  apply Outcome.anyOf_of_raises
  · intro item hitem
    rcases serviceable_cases item.2 inputs.operation with ⟨carried, hcarried⟩ | hraises
    · rcases carried with _ | _
      · exact Or.inl hcarried
      · exact absurd hcarried (hnone item hitem)
    · exact Or.inr hraises
  · obtain ⟨item, hitem, hread⟩ := hunread
    exact ⟨item, hitem, (serviceable_cases item.2 inputs.operation).resolve_left hread⟩

/-- A search that meets a rail which carries the operation finds one, unless it raises. -/
theorem anyOf_of_carries {items : List (CashRail × RailState)}
    (h : ∃ item ∈ items, Carries inputs item) :
    Outcome.anyOf (fun item => serviceable item.2 inputs.operation) items = .ok true ∨
      Outcome.anyOf (fun item => serviceable item.2 inputs.operation) items =
        .error .invalidOperation := by
  rcases hany : Outcome.anyOf (fun item => serviceable item.2 inputs.operation) items with
    e | _ | _
  · obtain ⟨item, -, hraises⟩ := Outcome.exists_of_anyOf_error hany
    rcases serviceable_cases item.2 inputs.operation with ⟨carried, hcarried⟩ | hinvalid
    · rw [hcarried] at hraises
      cases hraises
    · rw [hinvalid] at hraises
      cases hraises
      exact Or.inr hany
  · obtain ⟨item, hitem, hcarries⟩ := h
    have hpassed := Outcome.anyOf_eq_false_iff.mp hany item hitem
    rw [Carries, hpassed] at hcarries
    cases hcarries
  · exact Or.inl hany

/-! ### The verdict -/

/-- The search for a rail in the window is reached. -/
structure ReachesWindow (kernel : Kernel) (inputs : GateInputs) : Prop where
  no_halt : inputs.haltInForce kernel = none
  recognised : inputs.operation.unrecognisedFields = []
  early : Outcome.firstAnswer (earlyChecks inputs) = .ok none

/-- What is decided once a rail was found in the window. -/
def afterWindow (inputs : GateInputs) : Outcome Verdict := do
  match ← Outcome.firstAnswer (lateChecks inputs) with
  | some verdict => .ok verdict
  | none => clear inputs

/-- The search decides, raises, or leaves the decision to what comes after it. -/
theorem verdict_of_early (h : Outcome.firstAnswer (earlyChecks inputs) = .ok none) :
    (checkWindow inputs = .ok none → verdict inputs = afterWindow inputs) ∧
      (∀ e, checkWindow inputs = .error e → verdict inputs = .error e) ∧
      (∀ v, checkWindow inputs = .ok (some v) → verdict inputs = .ok v) := by
  have hfirst : Outcome.firstAnswer (gateChecks inputs) =
      Outcome.firstAnswer (checkWindow inputs :: lateChecks inputs) :=
    Outcome.firstAnswer_append_of_none (Outcome.firstAnswer_eq_none_iff.mp h)
  rw [verdict, hfirst]
  refine ⟨fun hwindow => ?_, fun e hwindow => ?_, fun v hwindow => ?_⟩
  · rw [hwindow]
    rfl
  · rw [hwindow]
    rfl
  · rw [hwindow]
    rfl

theorem checkWindow_of_linked (h : inputs.operation.depositoryLinkedRail.isSome = true) :
    checkWindow inputs = .ok none := by
  rw [checkWindow, if_pos h]

theorem checkWindow_of_anyOf {inputs : GateInputs}
    (hlinked : inputs.operation.depositoryLinkedRail.isSome = false) {found : Outcome Bool}
    (h : Outcome.anyOf (fun item => serviceable item.2 inputs.operation) inputs.realRails =
      found) : (found = .ok true → checkWindow inputs = .ok none) ∧
        (∀ e, found = .error e → checkWindow inputs = .error e) := by
  rw [checkWindow, hlinked, h]
  refine ⟨?_, ?_⟩
  · rintro rfl
    rfl
  · rintro e rfl
    rfl

/-- The search for a rail ends alike in every order, or what follows it raises anyway. -/
def ReadsRailsAlike (kernel : Kernel) (inputs : GateInputs) : Prop :=
  ¬ ReachesWindow kernel inputs ∨ inputs.operation.depositoryLinkedRail.isSome = true ∨
    (∀ item ∈ inputs.realRails, Readable inputs item) ∨
    (∀ item ∈ inputs.realRails, ¬ Carries inputs item) ∨
    afterWindow inputs = .error .invalidOperation

/-- Where no rail carries the operation, every order ends alike. -/
theorem checkWindow_of_not_carries (h : rails.items.Perm inputs.rails.items)
    (hlinked : inputs.operation.depositoryLinkedRail.isSome = false)
    (hnone : ∀ item ∈ inputs.realRails, ¬ Carries inputs item) :
    checkWindow (withRails inputs rails) = checkWindow inputs := by
  by_cases hreadable : ∀ item ∈ inputs.realRails, Readable inputs item
  · exact checkWindow_of_readable h hreadable
  · push Not at hreadable
    have hperm := realRails_perm h
    have hraises := anyOf_raises hnone hreadable
    have hraises' := @anyOf_raises inputs (withRails inputs rails).realRails
      (fun item hitem => hnone item (hperm.mem_iff.mp hitem)) (by
        obtain ⟨item, hitem, hread⟩ := hreadable
        exact ⟨item, hperm.mem_iff.mpr hitem, hread⟩)
    rw [(checkWindow_of_anyOf hlinked hraises).2 _ rfl,
      (@checkWindow_of_anyOf (withRails inputs rails) hlinked _ hraises').2 _ rfl]

/-- Where what follows the search raises, every order raises. -/
theorem verdict_of_afterWindow
    (hearly : Outcome.firstAnswer (earlyChecks inputs) = .ok none)
    (hlinked : inputs.operation.depositoryLinkedRail.isSome = false)
    (hcarries : ∃ item ∈ inputs.realRails, Carries inputs item)
    (hafter : afterWindow inputs = .error .invalidOperation) :
    verdict inputs = .error .invalidOperation := by
  rcases anyOf_of_carries hcarries with hfound | hraises
  · rw [(verdict_of_early hearly).1 ((checkWindow_of_anyOf hlinked hfound).1 rfl), hafter]
  · exact (verdict_of_early hearly).2.1 _ ((checkWindow_of_anyOf hlinked hraises).2 _ rfl)

theorem afterWindow_congr (h : rails.items.Perm inputs.rails.items) :
    afterWindow (withRails inputs rails) = afterWindow inputs := by
  rw [afterWindow, afterWindow, clear_congr h]
  rfl

theorem verdict_congr (h : rails.items.Perm inputs.rails.items)
    (hearly : Outcome.firstAnswer (earlyChecks inputs) = .ok none)
    (halike : inputs.operation.depositoryLinkedRail.isSome = true ∨
      (∀ item ∈ inputs.realRails, Readable inputs item) ∨
      (∀ item ∈ inputs.realRails, ¬ Carries inputs item) ∨
      afterWindow inputs = .error .invalidOperation) :
    verdict (withRails inputs rails) = verdict inputs := by
  have hearly' : Outcome.firstAnswer (earlyChecks (withRails inputs rails)) = .ok none := by
    rw [earlyChecks_congr h]
    exact hearly
  -- it is enough that the search ends alike
  have hsuffices : checkWindow (withRails inputs rails) = checkWindow inputs →
      verdict (withRails inputs rails) = verdict inputs := by
    intro hwindow
    obtain ⟨hpassed, hraised, hdecided⟩ := verdict_of_early hearly
    obtain ⟨hpassed', hraised', hdecided'⟩ := verdict_of_early hearly'
    rcases hcheck : checkWindow inputs with e | _ | v
    · rw [hraised e hcheck, hraised' e (hwindow.trans hcheck)]
    · rw [hpassed hcheck, hpassed' (hwindow.trans hcheck), afterWindow_congr h]
    · rw [hdecided v hcheck, hdecided' v (hwindow.trans hcheck)]
  rcases hlinked : inputs.operation.depositoryLinkedRail.isSome with _ | _
  · rcases halike with hsome | hreadable | hnone | hafter
    · rw [hlinked] at hsome
      cases hsome
    · exact hsuffices (checkWindow_of_readable h hreadable)
    · exact hsuffices (checkWindow_of_not_carries h hlinked hnone)
    · by_cases hcarries : ∃ item ∈ inputs.realRails, Carries inputs item
      · rw [verdict_of_afterWindow hearly hlinked hcarries hafter]
        refine verdict_of_afterWindow hearly' hlinked ?_ ((afterWindow_congr h).trans hafter)
        obtain ⟨item, hitem, hcarried⟩ := hcarries
        exact ⟨item, (realRails_perm h).mem_iff.mpr hitem, hcarried⟩
      · push Not at hcarries
        exact hsuffices (checkWindow_of_not_carries h hlinked hcarries)
  · apply hsuffices
    rw [checkWindow_of_linked hlinked,
      @checkWindow_of_linked (withRails inputs rails) hlinked]

/-! ### The gate -/

theorem railOrderFree_of_alike (halike : ReadsRailsAlike kernel inputs) :
    RailOrderFree kernel inputs := by
  intro rails h
  have hhalt : (withRails inputs rails).haltInForce kernel = inputs.haltInForce kernel := rfl
  rw [evaluate, evaluate, hhalt]
  rcases hforce : inputs.haltInForce kernel with _ | halt
  · have hfields : (withRails inputs rails).operation.unrecognisedFields =
        inputs.operation.unrecognisedFields := rfl
    rw [hfields]
    rcases hnone : inputs.operation.unrecognisedFields with _ | ⟨field, rest⟩
    · have hverdict : verdict (withRails inputs rails) = verdict inputs := by
        by_cases hearly : Outcome.firstAnswer (earlyChecks inputs) = .ok none
        · exact verdict_congr h hearly
            (halike.resolve_left (not_not.mpr ⟨hforce, hnone, hearly⟩))
        · have hearly' : Outcome.firstAnswer (earlyChecks (withRails inputs rails)) ≠
              .ok none := by
            rw [earlyChecks_congr h]
            exact hearly
          rw [verdict, verdict, gateChecks, gateChecks,
            Outcome.firstAnswer_append_of_ne hearly, Outcome.firstAnswer_append_of_ne hearly',
            earlyChecks_congr h, clear_congr h]
      simp only [decided, checksEvaluated_congr h, hverdict]
      rfl
    · rfl
  · rfl

theorem checkObligationId_error {id : Option String} :
    checkObligationId kernel id ≠ .error .invalidOperation := by
  rcases id with _ | id
  · exact nofun
  · rw [checkObligationId]
    split_ifs <;> exact nofun

/-- Fields that make no decision are refused as values. -/
theorem check_error {fields : DecisionFields} :
    fields.check kernel ≠ .error .invalidOperation := by
  rw [DecisionFields.check]
  by_cases hchecks : fields.decision = .proceed ∧ fields.checksEvaluated = []
  · simp [hchecks]
  · by_cases htogether : fields.obligationId.isNone = fields.obligationDigest.isNone
    · rcases hid : checkObligationId kernel fields.obligationId with e | ⟨⟩
      · have hne := @checkObligationId_error kernel fields.obligationId
        rw [hid] at hne
        simpa [hchecks, htogether] using hne
      · by_cases hdigest : fields.obligationDigest.all isDigestText = true
        · by_cases hversion : fields.gateSetVersion = ""
          · simp [hchecks, htogether, hdigest, hversion]
          · simp [hchecks, htogether, hdigest, hversion]
        · simp [hchecks, htogether, hdigest]
    · simp [hchecks, htogether]

theorem build_error {fields : DecisionFields} :
    fields.build kernel ≠ .error .invalidOperation := by
  rw [DecisionFields.build]
  split
  · intro h
    cases h
  · rename_i e hrefused
    intro h
    cases h
    exact check_error hrefused

/-- Where the search is reached, the gate raises an invalid operation exactly when the
verdict does. -/
theorem evaluate_raises_iff (h : ReachesWindow kernel inputs) :
    evaluate inputs kernel = .error .invalidOperation ↔
      verdict inputs = .error .invalidOperation := by
  have hmem : checkFunded inputs ∈ earlyChecks inputs := by simp [earlyChecks]
  have hfunded := isFunded_of_checkFunded
    (Outcome.firstAnswer_eq_none_iff.mp h.early _ hmem)
  obtain ⟨outcome, houtcome⟩ := unrecognisedFields_eq_nil h.recognised
  obtain ⟨kind, hkind⟩ : ∃ kind,
      obligationFinalityClass inputs.operation.determinationOutcome = .ok kind := by
    rw [houtcome]
    rcases outcome <;> exact ⟨_, rfl⟩
  rw [evaluate, h.no_halt, h.recognised]
  simp only [decided, checksEvaluated, snapshotFunding, hfunded, hkind, Outcome.ok_bind]
  rcases hverdict : verdict inputs with e | v
  · simp
  · rw [Outcome.ok_bind]
    exact iff_of_false build_error fun h => by cases h

theorem reachesWindow_congr (h : rails.items.Perm inputs.rails.items)
    (hreaches : ReachesWindow kernel inputs) : ReachesWindow kernel (withRails inputs rails) :=
  ⟨hreaches.no_halt, hreaches.recognised, (earlyChecks_congr h).symm ▸ hreaches.early⟩

/-- The rails with one that is no placeholder moved to the front. -/
theorem realRails_moveToFront {item : CashRail × RailState} (hitem : item ∈ inputs.realRails)
    (hmem : item ∈ inputs.rails.items) :
    ∃ rest, (withRails inputs (inputs.rails.moveToFront item hmem)).realRails = item :: rest := by
  refine ⟨_, List.filter_cons_of_pos ?_⟩
  exact (List.mem_filter.mp hitem).2

theorem alike_of_railOrderFree (h : RailOrderFree kernel inputs) :
    ReadsRailsAlike kernel inputs := by
  by_contra hnot
  simp only [ReadsRailsAlike, not_or, not_not, not_forall] at hnot
  obtain ⟨hreaches, hlinked, ⟨unread, hunread, hraises⟩, ⟨carrier, hcarrier, hcarries⟩, hafter⟩ :=
    hnot
  rw [Bool.not_eq_true] at hlinked
  have hunreadMem := (List.mem_filter.mp hunread).1
  have hcarrierMem := (List.mem_filter.mp hcarrier).1
  have hperm := inputs.rails.moveToFront_perm hunreadMem
  have hperm' := inputs.rails.moveToFront_perm hcarrierMem
  -- with the unreadable rail first the search raises
  have hfirst : evaluate (withRails inputs (inputs.rails.moveToFront unread hunreadMem)) kernel =
      .error .invalidOperation := by
    rw [evaluate_raises_iff (reachesWindow_congr hperm hreaches)]
    obtain ⟨rest, hrest⟩ := realRails_moveToFront hunread hunreadMem
    apply (verdict_of_early (reachesWindow_congr hperm hreaches).early).2.1
    refine (@checkWindow_of_anyOf
      (withRails inputs (inputs.rails.moveToFront unread hunreadMem)) hlinked
      (.error .invalidOperation) ?_).2 _ rfl
    rw [hrest, Outcome.anyOf]
    have hread := (serviceable_cases unread.2 inputs.operation).resolve_left hraises
    simp only [withRails, hread]
  -- with the rail that carries the operation first it does not
  have hsecond : evaluate (withRails inputs (inputs.rails.moveToFront carrier hcarrierMem))
      kernel ≠ .error .invalidOperation := by
    rw [ne_eq, evaluate_raises_iff (reachesWindow_congr hperm' hreaches)]
    obtain ⟨rest, hrest⟩ := realRails_moveToFront hcarrier hcarrierMem
    have hwindow : checkWindow
        (withRails inputs (inputs.rails.moveToFront carrier hcarrierMem)) = .ok none := by
      refine (@checkWindow_of_anyOf
        (withRails inputs (inputs.rails.moveToFront carrier hcarrierMem)) hlinked
        (.ok true) ?_).1 rfl
      rw [hrest, Outcome.anyOf]
      rw [Carries] at hcarries
      simp only [withRails, hcarries]
    rw [(verdict_of_early (reachesWindow_congr hperm' hreaches).early).1 hwindow,
      afterWindow_congr hperm']
    exact hafter
  exact hsecond ((h _ hperm').trans ((h _ hperm).symm.trans hfirst))

end Order

/-! ## Both properties -/

/-- With less evidence the gate still proceeds, on the same rail. -/
def Strict (kernel : Kernel) (inputs : GateInputs) : Prop :=
  ∀ counterparty policy halt,
    (counterparty = none ∨ counterparty = inputs.operation.counterparty) →
    (policy = none ∨ policy = inputs.freshnessPolicy) → (halt = none ∨ halt = inputs.halt) →
    ∀ decision : CatoCashDecision kernel, evaluate inputs kernel = .ok decision →
      decision.decision = .proceed →
      ∃ decision' : CatoCashDecision kernel,
        evaluate (relaxed inputs counterparty policy halt) kernel = .ok decision' ∧
          decision'.decision = .proceed ∧
          decision'.recommendedRail = decision.recommendedRail

theorem strict (kernel : Kernel) (inputs : GateInputs) : Strict kernel inputs := by
  intro counterparty policy halt hcounterparty hpolicy hhalt decision hevaluate hproceed
  obtain ⟨rail, hrail⟩ := exists_rail_of_proceeds hevaluate hproceed
  have hcleared : Cleared kernel inputs rail :=
    proceeds_iff.mp ⟨decision, hevaluate, hproceed, hrail⟩
  obtain ⟨decision', hevaluate', hproceed', hrail'⟩ :=
    proceeds_iff.mpr (cleared_relaxed hcounterparty hpolicy hhalt hcleared)
  exact ⟨decision', hevaluate', hproceed', hrail'.trans hrail.symm⟩

/-- More evidence only makes the gate stricter, and every order of the rails is decided
alike, exactly when the search for a rail in the window reads the rails alike. -/
theorem strict_and_railOrderFree_iff (kernel : Kernel) (inputs : GateInputs) :
    (Strict kernel inputs ∧ RailOrderFree kernel inputs) ↔ ReadsRailsAlike kernel inputs := by
  constructor
  · rintro ⟨-, horder⟩
    exact alike_of_railOrderFree horder
  · intro halike
    exact ⟨strict kernel inputs, railOrderFree_of_alike halike⟩

/-! ### A cap that is not a number -/

/-- The wire, open, and the instant rail with a cap that is not a number. -/
def unreadableCap : GateInputs :=
  { paymentOfTen [.fedwire] false true with
    rails := .ofPairs [openRail .fedwire,
      (.fednow, { rail := .member .fednow, status := .member .available,
                  valueCap := some (.nan false false 0) })] }

theorem unreadableCap_not_railOrderFree :
    ¬ ∀ (kernel : Kernel) (inputs : GateInputs),
      Strict kernel inputs ∧ RailOrderFree kernel inputs := by
  intro h
  rcases alike_of_railOrderFree (h plainKernel unreadableCap).2 with
    hearly | hlinked | hreadable | hnone | hafter
  · exact hearly ⟨rfl, rfl, by decide +kernel⟩
  · cases hlinked
  · obtain ⟨carried, hcarried⟩ := hreadable
      (.fednow, { rail := .member .fednow, status := .member .available,
                  valueCap := some (.nan false false 0) }) (by decide)
    cases hcarried
  · exact hnone (openRail .fedwire) (by decide) rfl
  · revert hafter
    decide +kernel

end Atreides
