import Atreides.Cockpit.Emission
import Atreides.Foundation.Casing
import Atreides.Foundation.Json

/-!
# The fifth beat of the cockpit

The operator enters what the portal shows, and the cockpit compares it with the package, leg by
leg. A leg is compared only where both its figures are there: a figure that was not read back
breaks no leg. A declared breach of risk control breaks its leg whatever the figures say, and
raises an escalation. Each broken leg becomes a ticket on the workbench.

## Main definitions

* `ingestPortalReadback`, `reconcileExpectedActual`, `raiseBreak` — the primitives of the beat
* `MatchesReadFigures` — what is reported as matched was read back, and agrees
* `NoLegBreaks`, `ReadInFull` — no leg that is compared breaks; nothing expected is left unread

## Main results

* `matched_iff` — a reconciliation is matched exactly when no leg that is compared breaks
* `matchesReadFigures_iff` — a match is one of read figures exactly when nothing expected is
  left unread where no leg breaks
-/

namespace Atreides

open EscalationDelivery

/-! ## Texts -/

def PortalRegime.value : PortalRegime → String
  | .ccp => "ccp"
  | .csd => "csd"

def CaomTier.value : CaomTier → String
  | .t0 => "T0"
  | .t1 => "T1"
  | .t2 => "T2"
  | .t3 => "T3"
  | .quorum => "QUORUM"

namespace BreakLeg

def value : BreakLeg → String
  | position => "position_break"
  | funding => "funding_break"
  | clearingFund => "clearing_fund_break"
  | netObligation => "net_obligation_break"
  | riskControl => "risk_control_break"

/-- The key under which a reconciliation records the figures of a leg. -/
def detailKey : BreakLeg → String
  | position => "position"
  | funding => "funding"
  | clearingFund => "clearing_fund"
  | netObligation => "net_obligation"
  | riskControl => "risk_control"

theorem detailKey_injective : Function.Injective detailKey := by
  intro leg leg' h
  cases leg <;> cases leg' <;> first | rfl | exact absurd h (by decide)

end BreakLeg

/-- The first eight characters of an identifier, as tickets and escalations name it. -/
def shortName (operationId : Uuid) : String := String.ofList (operationId.text.toList.take 8)

/-- The word of a declared breach. -/
def riskControlBreached : String := "BREACHED"

/-- A status that declares a breach, up to its case and the blanks around it. -/
def isRiskControlBreach (status : Option String) : Bool :=
  status.any fun status => upper (stripped status) = riskControlBreached

/-! ## Legs -/

section Legs

variable (expected : InstructionPackage) (readback : PortalReadback)
  (tasking : Option CockpitTasking) (expectedPosition : Option FiniteDecimal)

/-- The figures of a leg that compares two, where both are there and differ. -/
def unequalFigures (expected actual : Option FiniteDecimal) : Option (Dict String String) :=
  match actual, expected with
  | some actual, some expected =>
    if actual.eq expected then none
    else some (.ofPairs [("expected", expected.text), ("actual", actual.text)])
  | _, _ => none

/-- The net obligation against the net payment. -/
def netObligationBreak : Option (Dict String String) :=
  unequalFigures expected.netPaymentAmount readback.ccpNetObligation

/-- Any positive deficit of the clearing fund. -/
def clearingFundBreak : Option (Dict String String) :=
  match readback.clearingFundDeficit with
  | some deficit =>
    if (0 : FiniteDecimal).lt deficit then some (.ofPairs [("deficit", deficit.text)]) else none
  | none => none

/-- The credit limit the tasking was captured with. -/
def creditLimit : Option FiniteDecimal := tasking.bind CockpitTasking.intradayCreditLimit

/-- A usage that reaches the captured limit. -/
def fundingBreak : Option (Dict String String) :=
  match readback.intradayCreditUsage, creditLimit tasking with
  | some usage, some limit =>
    if limit.le usage then some (.ofPairs [("usage", usage.text), ("limit", limit.text)]) else none
  | _, _ => none

/-- A declared breach. -/
def riskControlBreak : Option (Dict String String) :=
  if isRiskControlBreach readback.riskControlStatus then
    some (.ofPairs [("status", optionText id readback.riskControlStatus)])
  else none

/-- The position the leg expects: the one stated for the call, or the delivery quantity. -/
def positionExpected : Option FiniteDecimal :=
  expectedPosition.orElse fun _ => expected.netDeliveryQuantity

/-- The position read back against the one expected. -/
def positionBreak : Option (Dict String String) :=
  unequalFigures (positionExpected expected expectedPosition) readback.positionBalance

/-- The broken legs with their figures, in the order they are compared. -/
def brokenLegs : List (BreakLeg × Dict String String) :=
  [(BreakLeg.netObligation, netObligationBreak expected readback),
    (.clearingFund, clearingFundBreak readback),
    (.funding, fundingBreak readback tasking),
    (.riskControl, riskControlBreak readback),
    (.position, positionBreak expected readback expectedPosition)].filterMap fun leg =>
      leg.2.map fun figures => (leg.1, figures)

/-- What a comparison records. -/
def reconciliationOf (escalationIds : List String) : Reconciliation where
  operationId := readback.operationId
  regime := readback.regime
  matched := (brokenLegs expected readback tasking expectedPosition).isEmpty
  breaks := (brokenLegs expected readback tasking expectedPosition).map Prod.fst
  detail := .ofPairs <| (brokenLegs expected readback tasking expectedPosition).map fun leg =>
    (leg.1.detailKey, leg.2)
  escalationIds

end Legs

/-! ## Escalating a breach -/

/-- An escalation is named by its operation and by how many the register holds with it. -/
def breachEscalationId (register : EscalationRegister) (operationId : Uuid) : String :=
  "ESC-" ++ shortName operationId ++ "-risk_control-" ++ toString (register.order.length + 1)

/-- The escalation of a declared breach. It is dated from the capture, where there is one. -/
def breachEscalation (register : EscalationRegister) (tasking : Option CockpitTasking)
    (readback : PortalReadback) (raisedAtOffsetSeconds : ℤ) : EscalationFields where
  escalationId := breachEscalationId register readback.operationId
  operationId := readback.operationId
  raisedAtOffsetSeconds
  reason := "Venue readback reports risk_control_status=" ++
    optionText quoted readback.riskControlStatus ++ " for operation " ++
    readback.operationId.text ++ " (" ++ readback.regime.value ++ "). A declared " ++
    "risk-control breach is a break even where every amount matches " ++
    "(AUR-COCKPIT-001 SVII; ATR-I-07)."
  routedTo := match tasking with
    | some tasking => "authority_tier:" ++ tasking.authorityTier.value
    | none => "authority_tier:unknown"

theorem check_breachEscalation (register : EscalationRegister) (tasking : Option CockpitTasking)
    (readback : PortalReadback) (raisedAtOffsetSeconds : ℤ) :
    (breachEscalation register tasking readback raisedAtOffsetSeconds).check = .ok () := by
  have hid : ∀ text : String, "ESC-" ++ text ≠ "" := by
    intro text h
    simpa using congrArg String.length h
  have hreason : ∀ text : String, "Venue readback reports risk_control_status=" ++ text ≠ "" := by
    intro text h
    simpa using congrArg String.length h
  have hroute : ∀ text : String, "authority_tier:" ++ text ≠ "" := by
    intro text h
    simpa using congrArg String.length h
  simp only [EscalationFields.check, Outcome.bind_eq_ok, Outcome.refuseIf_eq_ok]
  refine ⟨(), ?_, (), ?_, (), ?_, ?_⟩
  · simpa only [breachEscalation, breachEscalationId, String.append_assoc] using hid _
  · simpa only [breachEscalation, String.append_assoc] using hreason _
  · cases tasking with
    | none => simp [breachEscalation]
    | some tasking => exact hroute _
  · simp [breachEscalation]

/-- The escalation a breach is raised as. -/
def riskControlEscalation (register : EscalationRegister) (tasking : Option CockpitTasking)
    (readback : PortalReadback) (raisedAtOffsetSeconds : ℤ) : Escalation :=
  ⟨breachEscalation register tasking readback raisedAtOffsetSeconds,
    check_breachEscalation register tasking readback raisedAtOffsetSeconds⟩

/-- The offset of a readback from the capture, where there is one. -/
def raisedAtOffset (tasking : Option CockpitTasking) (readback : PortalReadback) : Outcome ℤ :=
  match tasking with
  | some tasking => readback.ingestedAt.secondsSince tasking.capturedAt
  | none => .ok 0

/-! ## Primitives -/

namespace ClearingCockpit

/-- The context of a regime. -/
def contextFor (cockpit : ClearingCockpit) : PortalRegime → Dict Uuid CockpitTasking
  | .ccp => cockpit.ccpContext
  | .csd => cockpit.csdContext

/-- The tasking a readback answers, where one was captured in its regime. -/
def taskingFor (cockpit : ClearingCockpit) (readback : PortalReadback) : Option CockpitTasking :=
  (cockpit.contextFor readback.regime).get? readback.operationId

/-- Accept what the operator entered, for an operation captured in its regime. -/
def ingestPortalReadback (setup : CockpitSetup) (call : CockpitCall) (entered : PortalReadback) :
    Effect ClearingCockpit PortalReadback := do
  Effect.ofOutcome (setup.guardHalt call "ingest_portal_readback")
  let cockpit ← get
  Effect.refuseIf (entered.operationId ∉ (cockpit.contextFor entered.regime).keys)
    (.refused "CockpitBoundaryError" ("readback for unknown " ++ entered.regime.value ++
      " operation " ++ entered.operationId.text))
  let readback := { entered with ingestedAt := call.clock }
  note call readback.operationId .reconcile (.readback readback)
  return readback

/-- Raise an escalation on the register of the cockpit. -/
def raiseEscalation (escalation : Escalation) : Effect ClearingCockpit Escalation :=
  Effect.within escalations (fun escalations cockpit => { cockpit with escalations })
    (Effect.ofStep fun register => register.raiseEscalation escalation)

/-- Escalate a declared breach, and name what was raised. -/
def escalateBreach (tasking : Option CockpitTasking) (readback : PortalReadback) :
    Effect ClearingCockpit (List String) :=
  if isRiskControlBreach readback.riskControlStatus then do
    let cockpit ← get
    let offset ← Effect.ofOutcome (raisedAtOffset tasking readback)
    let escalation ← raiseEscalation
      (riskControlEscalation cockpit.escalations tasking readback offset)
    return [escalation.escalationId]
  else return []

/-- Compare a package with a readback of its operation, leg by leg. -/
def reconcileExpectedActual (setup : CockpitSetup) (call : CockpitCall)
    (expected : InstructionPackage) (readback : PortalReadback)
    (expectedPosition : Option FiniteDecimal) : Effect ClearingCockpit Reconciliation := do
  Effect.ofOutcome (setup.guardHalt call "reconcile_expected_actual")
  Effect.refuseIf (expected.operationId ≠ readback.operationId)
    (.refused "CockpitBoundaryError" "expected/readback operation mismatch")
  let cockpit ← get
  let tasking := cockpit.taskingFor readback
  let escalationIds ← escalateBreach tasking readback
  let reconciliation :=
    reconciliationOf expected readback tasking expectedPosition escalationIds
  note call readback.operationId .reconcile (.reconciliation reconciliation)
  return reconciliation

/-- A ticket is named by its operation and its leg. -/
def breakIdOf (operationId : Uuid) (leg : BreakLeg) : String :=
  "BRK-" ++ shortName operationId ++ "-" ++ leg.value

/-- The ticket of one broken leg. -/
def breakTicket (call : CockpitCall) (reconciliation : Reconciliation)
    (dsorRecordId : Option Uuid) (leg : BreakLeg) : BreakTicket where
  breakId := breakIdOf reconciliation.operationId leg
  operationId := reconciliation.operationId
  regime := reconciliation.regime
  leg
  detail := jsonObject (reconciliation.detail.getD leg.detailKey .empty)
  dsorRecordId
  raisedAt := call.clock

/-- Route each break of a reconciliation to the workbench. -/
def raiseBreak (setup : CockpitSetup) (call : CockpitCall) (reconciliation : Reconciliation)
    (dsorRecordId : Option Uuid) : Effect ClearingCockpit (List BreakTicket) := do
  Effect.ofOutcome (setup.guardHalt call "raise_break")
  let tickets := reconciliation.breaks.map (breakTicket call reconciliation dsorRecordId)
  modify fun cockpit => { cockpit with workbench := cockpit.workbench ++ tickets }
  return tickets

end ClearingCockpit

/-! ## When a leg breaks -/

section

variable {expected : InstructionPackage} {readback : PortalReadback}
  {tasking : Option CockpitTasking} {expectedPosition : Option FiniteDecimal}

theorem unequalFigures_eq_none_iff {expected actual : Option FiniteDecimal} :
    unequalFigures expected actual = none ↔
      ∀ a ∈ actual, ∀ e ∈ expected, a.value = e.value := by
  rcases actual with _ | a
  · simp [unequalFigures]
  rcases expected with _ | e
  · simp [unequalFigures]
  by_cases h : a.eq e = true
  · simpa [unequalFigures, h] using FiniteDecimal.eq_iff.mp h
  · simpa [unequalFigures, h] using fun hvalue => h (FiniteDecimal.eq_iff.mpr hvalue)

theorem clearingFundBreak_eq_none_iff :
    clearingFundBreak readback = none ↔ ∀ deficit ∈ readback.clearingFundDeficit,
      deficit.value ≤ 0 := by
  rw [clearingFundBreak]
  rcases readback.clearingFundDeficit with _ | deficit
  · simp
  have hlt : (0 : FiniteDecimal).lt deficit = true ↔ 0 < deficit.value := by
    rw [FiniteDecimal.lt_iff, FiniteDecimal.value_zero]
  by_cases h : (0 : FiniteDecimal).lt deficit = true
  · simpa [h] using hlt.mp h
  · simpa [h] using not_lt.mp (mt hlt.mpr h)

theorem fundingBreak_eq_none_iff :
    fundingBreak readback tasking = none ↔ ∀ usage ∈ readback.intradayCreditUsage,
      ∀ limit ∈ creditLimit tasking, usage.value < limit.value := by
  rw [fundingBreak]
  rcases readback.intradayCreditUsage with _ | usage
  · simp
  rcases creditLimit tasking with _ | limit
  · simp
  by_cases h : limit.le usage = true
  · simpa [h] using FiniteDecimal.le_iff.mp h
  · simpa [h] using not_le.mp (mt FiniteDecimal.le_iff.mpr h)

theorem riskControlBreak_eq_none_iff :
    riskControlBreak readback = none ↔ isRiskControlBreach readback.riskControlStatus = false := by
  rw [riskControlBreak]
  cases isRiskControlBreach readback.riskControlStatus <;> simp

end

/-- No leg that is compared breaks. -/
structure NoLegBreaks (expected : InstructionPackage) (readback : PortalReadback)
    (tasking : Option CockpitTasking) (expectedPosition : Option FiniteDecimal) : Prop where
  obligation_agrees : ∀ actual ∈ readback.ccpNetObligation,
    ∀ payment ∈ expected.netPaymentAmount, actual.value = payment.value
  no_deficit : ∀ deficit ∈ readback.clearingFundDeficit, deficit.value ≤ 0
  usage_below : ∀ usage ∈ readback.intradayCreditUsage, ∀ limit ∈ creditLimit tasking,
    usage.value < limit.value
  no_breach : isRiskControlBreach readback.riskControlStatus = false
  position_agrees : ∀ balance ∈ readback.positionBalance,
    ∀ position ∈ positionExpected expected expectedPosition, balance.value = position.value

theorem brokenLegs_eq_nil_iff {expected : InstructionPackage} {readback : PortalReadback}
    {tasking : Option CockpitTasking} {expectedPosition : Option FiniteDecimal} :
    brokenLegs expected readback tasking expectedPosition = [] ↔
      NoLegBreaks expected readback tasking expectedPosition := by
  simp only [brokenLegs, List.filterMap_eq_nil_iff, List.forall_mem_cons, Option.map_eq_none_iff,
    netObligationBreak, positionBreak, unequalFigures_eq_none_iff, clearingFundBreak_eq_none_iff,
    fundingBreak_eq_none_iff, riskControlBreak_eq_none_iff]
  constructor
  · rintro ⟨hobligation, hdeficit, husage, hbreach, hposition, -⟩
    exact ⟨hobligation, hdeficit, husage, hbreach, hposition⟩
  · intro h
    exact ⟨h.obligation_agrees, h.no_deficit, h.usage_below, h.no_breach, h.position_agrees,
      by simp⟩

/-! ## What is recorded of a broken leg -/

section

variable {expected : InstructionPackage} {readback : PortalReadback}
  {tasking : Option CockpitTasking} {expectedPosition : Option FiniteDecimal}
  {leg : BreakLeg} {figures : Dict String String}

theorem items_ne_nil_of_unequalFigures {expected actual : Option FiniteDecimal}
    (h : unequalFigures expected actual = some figures) : figures.items ≠ [] := by
  rw [unequalFigures.eq_def] at h
  split at h
  · split_ifs at h
    cases h
    exact Dict.items_ofPairs_ne_nil _ _
  · cases h

/-- No leg breaks without a figure. -/
theorem items_ne_nil_of_mem_brokenLegs
    (h : (leg, figures) ∈ brokenLegs expected readback tasking expectedPosition) :
    figures.items ≠ [] := by
  simp only [brokenLegs, List.mem_filterMap, List.mem_cons, List.not_mem_nil, or_false,
    Option.map_eq_some_iff, Prod.mk.injEq] at h
  obtain ⟨_, rfl | rfl | rfl | rfl | rfl, found, hfound, -, rfl⟩ := h
  · exact items_ne_nil_of_unequalFigures hfound
  · rw [clearingFundBreak] at hfound
    split at hfound
    · split_ifs at hfound
      cases hfound
      exact Dict.items_ofPairs_ne_nil _ _
    · cases hfound
  · rw [fundingBreak] at hfound
    split at hfound
    · split_ifs at hfound
      cases hfound
      exact Dict.items_ofPairs_ne_nil _ _
    · cases hfound
  · rw [riskControlBreak] at hfound
    split_ifs at hfound
    cases hfound
    exact Dict.items_ofPairs_ne_nil _ _
  · exact items_ne_nil_of_unequalFigures hfound

/-- Every leg breaks at most once. -/
theorem nodup_brokenLegs :
    ((brokenLegs expected readback tasking expectedPosition).map Prod.fst).Nodup := by
  have hsublist : ∀ legs : List (BreakLeg × Option (Dict String String)),
      ((legs.filterMap fun leg => leg.2.map fun figures => (leg.1, figures)).map
        Prod.fst).Sublist (legs.map Prod.fst) := by
    intro legs
    induction legs with
    | nil => exact List.Sublist.refl _
    | cons head rest ih =>
      obtain ⟨leg, _ | figures⟩ := head
      · exact ih.cons leg
      · exact ih.cons_cons leg
  apply (hsublist _).nodup
  change [BreakLeg.netObligation, .clearingFund, .funding, .riskControl, .position].Nodup
  decide

/-- The figures recorded under the key of a leg are those the leg broke with. -/
theorem get?_detail_iff {escalationIds : List String} :
    (reconciliationOf expected readback tasking expectedPosition escalationIds).detail.get?
        leg.detailKey = some figures ↔
      (leg, figures) ∈ brokenLegs expected readback tasking expectedPosition := by
  have hone : ∀ p ∈ (brokenLegs expected readback tasking expectedPosition).map
        (fun leg => (leg.1.detailKey, leg.2)),
      ∀ q ∈ (brokenLegs expected readback tasking expectedPosition).map
        (fun leg => (leg.1.detailKey, leg.2)), p.1 = q.1 → p = q := by
    intro p hp q hq hkeys
    obtain ⟨broken, hbroken, rfl⟩ := List.mem_map.mp hp
    obtain ⟨broken', hbroken', rfl⟩ := List.mem_map.mp hq
    rw [List.inj_on_of_nodup_map nodup_brokenLegs hbroken hbroken'
      (BreakLeg.detailKey_injective hkeys)]
  rw [reconciliationOf, Dict.get?_ofPairs_iff hone, List.mem_map]
  constructor
  · rintro ⟨⟨leg', figures'⟩, hbroken, hpair⟩
    obtain ⟨hkey, rfl⟩ := Prod.mk.inj hpair
    obtain rfl := BreakLeg.detailKey_injective hkey
    exact hbroken
  · intro hbroken
    exact ⟨(leg, figures), hbroken, rfl⟩

/-- Every leg a reconciliation breaks on has its figures recorded. -/
theorem exists_figures_of_mem_breaks {escalationIds : List String}
    (h : leg ∈ (reconciliationOf expected readback tasking expectedPosition escalationIds).breaks) :
    ∃ figures, (reconciliationOf expected readback tasking expectedPosition
      escalationIds).detail.get? leg.detailKey = some figures ∧ figures.items ≠ [] := by
  obtain ⟨⟨leg, figures⟩, hbroken, rfl⟩ := List.mem_map.mp h
  exact ⟨figures, get?_detail_iff.mpr hbroken, items_ne_nil_of_mem_brokenLegs hbroken⟩

end

/-! ## Matches -/

section

variable {setup : CockpitSetup} {call : CockpitCall} {expected : InstructionPackage}
  {readback : PortalReadback} {expectedPosition : Option FiniteDecimal}
  {cockpit cockpit' : ClearingCockpit} {reconciliation : Reconciliation}

open ClearingCockpit

/-- A reconciliation returns where no halt is in force, the operations are the same, and a
breach it reads is escalated; and then it records what it compared. -/
theorem reconcileExpectedActual_eq_ok_iff :
    reconcileExpectedActual setup call expected readback expectedPosition cockpit =
        .ok reconciliation cockpit' ↔
      setup.currentHalt call = .ok none ∧ expected.operationId = readback.operationId ∧
        ∃ escalationIds escalated,
          escalateBreach (cockpit.taskingFor readback) readback cockpit =
            .ok escalationIds escalated ∧
          reconciliation = reconciliationOf expected readback (cockpit.taskingFor readback)
            expectedPosition escalationIds ∧
          cockpit' = ledgerAppend readback.operationId
            ⟨.reconcile, call.loggedAt.isoformat, .reconciliation reconciliation⟩ escalated := by
  simp only [reconcileExpectedActual, Effect.bind_eq_ok, Effect.ofOutcome_eq_ok,
    Effect.refuseIf_eq_ok, Effect.get_eq_ok, not_not, note, Effect.modify_eq_ok,
    Effect.pure_eq_ok]
  constructor
  · rintro ⟨⟨⟩, _, ⟨hguard, rfl⟩, ⟨⟩, _, ⟨hoperation, rfl⟩, _, _, ⟨rfl, rfl⟩, escalationIds,
      escalated, hescalate, ⟨⟩, _, rfl, rfl, rfl⟩
    exact ⟨guardHalt_eq_ok_iff.mp hguard, hoperation, escalationIds, escalated, hescalate, rfl,
      rfl⟩
  · rintro ⟨hhalt, hoperation, escalationIds, escalated, hescalate, rfl, rfl⟩
    exact ⟨(), _, ⟨guardHalt_eq_ok_iff.mpr hhalt, rfl⟩, (), _, ⟨hoperation, rfl⟩, _, _,
      ⟨rfl, rfl⟩, escalationIds, escalated, hescalate, (), _, rfl, rfl, rfl⟩

/-- Where no breach is declared, nothing is escalated. -/
theorem escalateBreach_of_no_breach {tasking : Option CockpitTasking}
    (h : isRiskControlBreach readback.riskControlStatus = false) :
    escalateBreach tasking readback = pure [] := by
  rw [escalateBreach, h, if_neg Bool.false_ne_true]

/-- A reconciliation is matched exactly when the call is not refused and no leg that is compared
breaks. -/
theorem matched_iff :
    (∃ reconciliation cockpit',
      reconcileExpectedActual setup call expected readback expectedPosition cockpit =
        .ok reconciliation cockpit' ∧ reconciliation.matched = true) ↔
      setup.currentHalt call = .ok none ∧ expected.operationId = readback.operationId ∧
        NoLegBreaks expected readback (cockpit.taskingFor readback) expectedPosition := by
  simp only [reconcileExpectedActual_eq_ok_iff]
  constructor
  · rintro ⟨reconciliation, cockpit', ⟨hhalt, hoperation, _, _, -, rfl, -⟩, hmatched⟩
    exact ⟨hhalt, hoperation, brokenLegs_eq_nil_iff.mp (List.isEmpty_iff.mp hmatched)⟩
  · rintro ⟨hhalt, hoperation, hlegs⟩
    -- nothing is escalated, so that the call goes on to its end
    have hescalate : escalateBreach (cockpit.taskingFor readback) readback cockpit =
        .ok [] cockpit := by
      rw [escalateBreach_of_no_breach hlegs.no_breach]
      rfl
    exact ⟨_, _, ⟨hhalt, hoperation, [], cockpit, hescalate, rfl, rfl⟩,
      List.isEmpty_iff.mpr (brokenLegs_eq_nil_iff.mpr hlegs)⟩

end

/-! ## Figures that were read -/

/-- Every figure the package and its tasking expect was read back and agrees; no deficit is
positive, and no breach is declared. -/
structure FiguresRead (expected : InstructionPackage) (readback : PortalReadback)
    (tasking : Option CockpitTasking) : Prop where
  payment_read : ∀ payment ∈ expected.netPaymentAmount,
    ∃ actual ∈ readback.ccpNetObligation, actual.value = payment.value
  quantity_read : ∀ quantity ∈ expected.netDeliveryQuantity,
    ∃ balance ∈ readback.positionBalance, balance.value = quantity.value
  limit_read : ∀ limit ∈ creditLimit tasking,
    ∃ usage ∈ readback.intradayCreditUsage, usage.value < limit.value
  no_deficit : ∀ deficit ∈ readback.clearingFundDeficit, deficit.value ≤ 0
  no_breach : isRiskControlBreach readback.riskControlStatus = false

/-- The tasking a package was made of, where one was captured in its regime. -/
def ClearingCockpit.taskingOf (cockpit : ClearingCockpit) (expected : InstructionPackage) :
    Option CockpitTasking :=
  (cockpit.contextFor expected.regime).get? expected.operationId

/-- A reconciliation reports a match of figures that were read back only. -/
def MatchesReadFigures (setup : CockpitSetup) (call : CockpitCall)
    (expected : InstructionPackage) (readback : PortalReadback)
    (expectedPosition : Option FiniteDecimal) (cockpit : ClearingCockpit) : Prop :=
  ∀ reconciliation cockpit',
    ClearingCockpit.reconcileExpectedActual setup call expected readback expectedPosition cockpit =
      .ok reconciliation cockpit' → reconciliation.matched = true →
        FiguresRead expected readback (cockpit.taskingOf expected)

/-- Nothing expected is left unread: a figure is there for each the package and its tasking
expect; a position stated in place of the quantity is that quantity; and the readback is of the
regime the limit was captured in, or below that limit all the same. -/
structure ReadInFull (expected : InstructionPackage) (readback : PortalReadback)
    (expectedPosition : Option FiniteDecimal) (tasking : Option CockpitTasking) : Prop where
  payment_present : expected.netPaymentAmount.isSome → readback.ccpNetObligation.isSome
  quantity_present : expected.netDeliveryQuantity.isSome → readback.positionBalance.isSome
  position_is_quantity : ∀ position ∈ expectedPosition,
    ∀ quantity ∈ expected.netDeliveryQuantity, position.value = quantity.value
  usage_present : (creditLimit tasking).isSome → readback.intradayCreditUsage.isSome
  limit_compared : readback.regime = expected.regime ∨
    ∀ limit ∈ creditLimit tasking, ∀ usage ∈ readback.intradayCreditUsage,
      usage.value < limit.value

section

variable {setup : CockpitSetup} {call : CockpitCall} {expected : InstructionPackage}
  {readback : PortalReadback} {expectedPosition : Option FiniteDecimal}
  {cockpit : ClearingCockpit}

theorem readInFull_of_figuresRead {tasking tasking' : Option CockpitTasking}
    (hlegs : NoLegBreaks expected readback tasking expectedPosition)
    (h : FiguresRead expected readback tasking') :
    ReadInFull expected readback expectedPosition tasking' where
  payment_present := by
    intro hpayment
    obtain ⟨payment, hpayment⟩ := Option.isSome_iff_exists.mp hpayment
    obtain ⟨actual, hactual, -⟩ := h.payment_read payment hpayment
    exact Option.isSome_of_mem hactual
  quantity_present := by
    intro hquantity
    obtain ⟨quantity, hquantity⟩ := Option.isSome_iff_exists.mp hquantity
    obtain ⟨balance, hbalance, -⟩ := h.quantity_read quantity hquantity
    exact Option.isSome_of_mem hbalance
  position_is_quantity := by
    intro position hposition quantity hquantity
    obtain ⟨balance, hbalance, hagrees⟩ := h.quantity_read quantity hquantity
    rw [← hagrees]
    apply Eq.symm
    apply hlegs.position_agrees balance hbalance
    rw [positionExpected, Option.mem_def.mp hposition]
    rfl
  usage_present := by
    intro hlimit
    obtain ⟨limit, hlimit⟩ := Option.isSome_iff_exists.mp hlimit
    obtain ⟨usage, husage, -⟩ := h.limit_read limit hlimit
    exact Option.isSome_of_mem husage
  limit_compared := by
    right
    intro limit hlimit usage husage
    obtain ⟨usage', husage', hbelow⟩ := h.limit_read limit hlimit
    rw [Option.mem_unique husage husage']
    exact hbelow

theorem figuresRead_of_readInFull (hoperation : expected.operationId = readback.operationId)
    (hlegs : NoLegBreaks expected readback (cockpit.taskingFor readback) expectedPosition)
    (h : ReadInFull expected readback expectedPosition (cockpit.taskingOf expected)) :
    FiguresRead expected readback (cockpit.taskingOf expected) where
  payment_read := by
    intro payment hpayment
    obtain ⟨actual, hactual⟩ :=
      Option.isSome_iff_exists.mp (h.payment_present (Option.isSome_of_mem hpayment))
    exact ⟨actual, hactual, hlegs.obligation_agrees actual hactual payment hpayment⟩
  quantity_read := by
    intro quantity hquantity
    obtain ⟨balance, hbalance⟩ :=
      Option.isSome_iff_exists.mp (h.quantity_present (Option.isSome_of_mem hquantity))
    refine ⟨balance, hbalance, ?_⟩
    rcases hstated : expectedPosition with _ | position
    · apply hlegs.position_agrees balance hbalance
      rw [positionExpected, hstated]
      exact hquantity
    · rw [← h.position_is_quantity position hstated quantity hquantity]
      apply hlegs.position_agrees balance hbalance
      rw [positionExpected, hstated]
      rfl
  limit_read := by
    intro limit hlimit
    obtain ⟨usage, husage⟩ :=
      Option.isSome_iff_exists.mp (h.usage_present (Option.isSome_of_mem hlimit))
    refine ⟨usage, husage, ?_⟩
    rcases h.limit_compared with hregime | hbelow
    · -- the leg was compared with the limit of the same tasking
      apply hlegs.usage_below usage husage
      rw [ClearingCockpit.taskingFor, hregime, ← hoperation]
      exact hlimit
    · exact hbelow limit hlimit usage husage
  no_deficit := hlegs.no_deficit
  no_breach := hlegs.no_breach

end

/-- A match is one of read figures exactly when, unless the call is refused or a leg that is
compared breaks, nothing expected was left unread. -/
theorem matchesReadFigures_iff (setup : CockpitSetup) (call : CockpitCall)
    (expected : InstructionPackage) (readback : PortalReadback)
    (expectedPosition : Option FiniteDecimal) (cockpit : ClearingCockpit) :
    MatchesReadFigures setup call expected readback expectedPosition cockpit ↔
      (setup.currentHalt call = .ok none → expected.operationId = readback.operationId →
        NoLegBreaks expected readback (cockpit.taskingFor readback) expectedPosition →
          ReadInFull expected readback expectedPosition (cockpit.taskingOf expected)) := by
  constructor
  · intro h hhalt hoperation hlegs
    obtain ⟨reconciliation, cockpit', hreturns, hmatched⟩ :=
      matched_iff.mpr ⟨hhalt, hoperation, hlegs⟩
    exact readInFull_of_figuresRead hlegs (h reconciliation cockpit' hreturns hmatched)
  · intro h reconciliation cockpit' hreturns hmatched
    obtain ⟨hhalt, hoperation, hlegs⟩ :=
      matched_iff.mp ⟨reconciliation, cockpit', hreturns, hmatched⟩
    exact figuresRead_of_readInFull hoperation hlegs (h hhalt hoperation hlegs)

/-- A readback of the large delivery with nothing entered on it. -/
def unreadPortal : PortalReadback where
  operationId := largeDelivery.operationId
  regime := .csd
  ingestedAt := largeDelivery.settlementDate

/-- The package emitted for the large delivery matches a readback that read neither its payment
nor its quantity. -/
theorem not_matchesReadFigures_unread :
    ∃ package cockpit, ClearingCockpit.emitInstructionPackage sampleSetup sampleCall largeDelivery
        largeDeliveryPassed (ClearingCockpit.capture { store := .new } largeDelivery) =
          .ok package cockpit ∧
      package.disposition = .emitForHumanEntry ∧
      ¬ MatchesReadFigures sampleSetup sampleCall package unreadPortal none cockpit := by
  refine ⟨_, _, rfl, rfl, ?_⟩
  intro h
  have hread := h _ _ rfl rfl
  obtain ⟨actual, hactual, -⟩ := hread.payment_read 1 rfl
  cases hactual

end Atreides
