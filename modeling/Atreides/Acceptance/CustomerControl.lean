import Atreides.Acceptance.Service
import Atreides.Foundation.Decimal.Exact

/-!
# Securities delivered for customers

An obligation under which the firm delivers securities passes only where the securities are
the firm's own, or where a control result of the settlement day shows enough of them in
control.

## Main definitions

* `InControl` — a control result establishes control of a delivery
* `Deliverable` — what a pass promises of a delivery

## Main results

* `customerSellControl_pass` — what the predicate's pass means
* `delivery_controlled` — an accepted delivery is deliverable, and its payload was attested
-/

namespace Atreides

namespace Acceptance

open CustomerProtection (ControlResult IssueControl)

/-- The entry of a control result that the check reads for an issue. -/
def entryOf (control : ControlResult) (issue : String) : Option IssueControl :=
  control.issues.find? fun item => item.issue = issue

/-- A control result establishes control of a delivery. -/
structure InControl (envelope : SettlementObligationEnvelope) (leg : SecuritiesLeg)
    (delivered : FiniteDecimal) (control : ControlResult) : Prop where
  established : control.disposition = .pass
  asOf : control.asOf = envelope.businessDate
  covered : ∃ issue checked, leg.instrumentId = some issue ∧ entryOf control issue = some checked ∧
    delivered.value ≤ checked.inControl.amount.value

/-- The delivering account is the firm's own, by an attested document. -/
def AttestedProprietary (c : ObligationCandidate) : Prop :=
  c.sellerCapacity = some "PROPRIETARY" ∧ ∃ digest, c.accountCapacityDigest = some digest

/-- The delivering account is a customer's or another broker's. -/
def OfOthers (c : ObligationCandidate) : Prop :=
  c.sellerCapacity = some "CUSTOMER" ∨ c.sellerCapacity = some "PAB"

/-- A delivery of a positive quantity that is the firm's own, or in control on the settlement
day, which then is the day of the cash too. -/
structure Deliverable (envelope : SettlementObligationEnvelope) (c : ObligationCandidate)
    (leg : SecuritiesLeg) (control : Option ControlResult) : Prop where
  covered : ∃ delivered, leg.quantity = some (.finite delivered) ∧ 0 < delivered.value ∧
    (AttestedProprietary c ∨
      ∃ result, control = some result ∧ InControl envelope leg delivered result)
  sameDay : OfOthers c → ∀ cash, c.cashLeg = some cash →
    cash.valueDate = some envelope.businessDate.isoformat

/-! ## The predicate -/

variable {library : Library} {envelope : SettlementObligationEnvelope} {payload : Bytes}
  {acceptanceId : Uuid} {evaluatedAt : Timestamp} {decidedBy : ActorRef}
  {evidence : Evidence library} {c : ObligationCandidate} {record : FrozenAcceptanceRecord}
  {leg : SecuritiesLeg} {delivered : FiniteDecimal} {capacity : String}

/-- An answer that a check stands before passes only where the check does not stop it. -/
theorem of_ite_pass {p : Prop} [Decidable p] {name detail code : String}
    {disposition : Disposition} {next : PredicateResult}
    (h : (if p then result name disposition detail code else next).disposition = .pass)
    (hstop : disposition ≠ .pass := by decide) : ¬ p ∧ next.disposition = .pass := by
  by_cases hp : p
  · rw [if_pos hp] at h
    exact absurd h hstop
  · rw [if_neg hp] at h
    exact ⟨hp, h⟩

/-- A control that is accepted for a delivery is of the issue, the day and the quantity. -/
theorem controlOfDelivery_pass {control : ControlResult}
    (h : (controlOfDelivery envelope c leg delivered capacity control).disposition = .pass) :
    InControl envelope leg delivered control ∧
      ∀ cash, c.cashLeg = some cash → cash.valueDate = some envelope.businessDate.isoformat := by
  rw [controlOfDelivery.eq_def] at h
  dsimp only at h
  obtain ⟨hdate, h⟩ := of_ite_pass h
  cases hentry : control.issues.find? fun item => some item.issue = leg.instrumentId with
  | none =>
    rw [hentry] at h
    cases h
  | some checked =>
    rw [hentry] at h
    obtain ⟨hbound, h⟩ := of_ite_pass h
    obtain ⟨hdisposition, h⟩ := of_ite_pass h
    obtain ⟨hshort, -⟩ := of_ite_pass h
    obtain ⟨hissue, hasOf⟩ := not_or.mp hbound
    obtain ⟨issue, hissue⟩ := Option.ne_none_iff_exists'.mp hissue
    constructor
    · refine ⟨not_not.mp hdisposition, Date.isoformat_injective (not_not.mp hasOf), issue, checked,
        hissue, ?_, ?_⟩
      · simpa [entryOf, hissue] using hentry
      · rw [FiniteDecimal.lt_iff, not_lt] at hshort
        exact hshort
    · intro cash hcash
      rw [hcash] at hdate
      simpa using hdate

/-- What the predicate's pass means for an obligation under which the firm delivers. -/
theorem customerSellControl_pass {control : Option ControlResult}
    (hdirection : envelope.firmSecuritiesDirection = .deliver)
    (h : (customerSellControl envelope c control).disposition = .pass)
    (hleg : c.securitiesLeg = some leg) : Deliverable envelope c leg control := by
  rw [customerSellControl.eq_def, if_neg (not_not.mpr hdirection), hleg] at h
  dsimp only at h
  split at h
  case h_2 => cases h
  rename_i delivered hquantity
  obtain ⟨hnonpositive, h⟩ := of_ite_pass h
  have hpositive : 0 < delivered.value := by
    rw [FiniteDecimal.le_iff, not_le] at hnonpositive
    simpa using hnonpositive
  cases hcapacity : c.sellerCapacity with
  | none =>
    rw [hcapacity] at h
    cases h
  | some capacity =>
    rw [hcapacity] at h
    obtain ⟨-, h⟩ := of_ite_pass h
    obtain ⟨hattested, h⟩ := of_ite_pass h
    by_cases hown : capacity = "PROPRIETARY"
    · -- the firm's own securities: no control is asked for, and no day either
      have hproprietary : AttestedProprietary c :=
        ⟨by rw [hcapacity, hown], Option.ne_none_iff_exists'.mp (by simpa using hattested)⟩
      refine ⟨⟨delivered, hquantity, hpositive, Or.inl hproprietary⟩, fun hothers => ?_⟩
      rw [OfOthers, hcapacity, hown] at hothers
      simp at hothers
    · rw [if_neg hown] at h
      cases hcontrol : control with
      | none =>
        rw [hcontrol] at h
        cases h
      | some result =>
        rw [hcontrol] at h
        obtain ⟨hin, hday⟩ := controlOfDelivery_pass h
        exact ⟨⟨delivered, hquantity, hpositive, Or.inr ⟨result, rfl, hin⟩⟩, fun _ => hday⟩

/-! ## Accepted deliveries -/

/-- A pass is of an attested payload, and a delivery that passes is deliverable. -/
theorem delivery_controlled
    (h : evaluateCandidate library envelope payload acceptanceId evaluatedAt decidedBy evidence =
      .ok record)
    (hpass : record.disposition = .pass) :
    library.kernel.digestBytes payload = envelope.payloadDigest ∧
      ∃ c, library.modelValidateJson payload = some c ∧
        (envelope.firmSecuritiesDirection = .deliver → ∀ leg, c.securitiesLeg = some leg →
          Running library evidence.halt ∧
            Deliverable envelope c leg evidence.customerControl) := by
  obtain ⟨-, c, hacceptable, -⟩ := evaluateCandidate_passes_iff.mp ⟨record, h, hpass⟩
  refine ⟨hacceptable.attested, c, hacceptable.parsed, fun hdirection leg hleg => ?_⟩
  exact ⟨hacceptable.running, customerSellControl_pass hdirection hacceptable.controlled hleg⟩

/-- Ten of an issue, delivered free for a customer. -/
def freeDelivery : ObligationCandidate where
  sourceManifest := some ⟨[⟨"EXECUTION", "exe-1",
    "sha256:" ++ String.ofList (List.replicate 64 '1'), by decide, by decide, by decide⟩]⟩
  securitiesLeg := some ⟨some "912828XX1", some 10, some "SEC-SELLER", some "SEC-BUYER"⟩
  participants := [⟨"P-SELLER", "SEC-SELLER", "DELIVERER", by decide, by decide, by decide⟩,
    ⟨"P-BUYER", "SEC-BUYER", "RECEIVER", by decide, by decide, by decide⟩]
  deliveryPattern := some "FOP"
  candidatePaths := [⟨"fedwire-fop", "Fedwire", "securities", "none", some "FOP",
    by decide, by decide, by decide, by decide⟩]
  expectedFinality := [⟨"SECURITIES", "ASSET_FINAL", "sec/1", by decide⟩]
  sellerCapacity := some "CUSTOMER"
  accountCapacityDigest := some ("sha256:" ++ String.ofList (List.replicate 64 '4'))
  participantRegistryDigest_wellFormed := no_digest

def freeDeliveryDay : Date := .of 2026 10 13

/-- The free delivery as an envelope, with bytes of its own. -/
def freeDeliveryEnvelope : SettlementObligationEnvelope where
  obligationId := "obl_01M2P20SY00000000000000001"
  payloadDigest := letterDigest [70, 79, 80]
  firmSecuritiesDirection := .deliver
  businessDate := freeDeliveryDay
  canonicalBytes := [69, 78, 86]

theorem twelve_nonneg : FiniteDecimal.le 0 12 = true := rfl

/-- Twelve of the issue are in control on the day. -/
def twelveInControl : ControlResult where
  asOf := freeDeliveryDay
  disposition := .pass
  issues := [⟨"912828XX1", none, ⟨12, twelve_nonneg⟩, default, default, none, none, none, []⟩]
  missingRules := []
  missingInputs := []
  breaches := []
  reasons := []
  rulesUsed := []

theorem delivery_controlled_free :
    letterDigest [70, 79, 80] = freeDeliveryEnvelope.payloadDigest ∧
      ∃ c, (plainLibrary freeDelivery).modelValidateJson [70, 79, 80] = some c ∧
        (freeDeliveryEnvelope.firmSecuritiesDirection = .deliver → ∀ leg,
          c.securitiesLeg = some leg → Running (plainLibrary freeDelivery) none ∧
            Deliverable freeDeliveryEnvelope c leg (some twelveInControl)) :=
  @delivery_controlled (plainLibrary freeDelivery) freeDeliveryEnvelope [70, 79, 80]
    ⟨"00000000-0000-4000-8000-0000000000d1", by decide⟩ (.midnight freeDeliveryDay)
    ⟨"act_1", .deterministicService, "acceptance", [], true⟩ ⟨none, none, some twelveInControl⟩ _
    rfl rfl

end Acceptance

end Atreides
