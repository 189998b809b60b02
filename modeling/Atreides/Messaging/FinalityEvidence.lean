import Atreides.Messaging.Readback

/-!
# Finality evidence

A reconciled readback is read as far as it goes. Only an authoritative settled entry, with
facts the kernel accepts, becomes an assertion of finality; received, accepted, refused and
settled stay distinct from it.

## Main definitions

* `FinalityEvidence` — one reading; only a final one passes and carries an assertion
* `finalityFromReadback` — the reading of one entry

## Main results

* `final_cases` — what a final reading says about the entry and the readback
-/

namespace Atreides

/-- How far a readback can be read. -/
inductive EvidenceState
  | unread
  | matched
  | accepted
  | refused
  | settled
  | final
  deriving DecidableEq, Repr

def Leg.finalityType : Leg → FinalityType
  | .asset => .assetFinal
  | .cash => .cashFinal

/-- One reading of a readback. Exactly a final reading passes and carries an assertion, and
the assertion is one of the leg asked for, without a confidence. -/
@[ext]
structure FinalityEvidence where
  state : EvidenceState
  disposition : Disposition
  reason : String
  leg : Leg
  assertion : Option FinalityAssertion := none
  reason_nonempty : reason ≠ ""
  final_iff_assertion : state = .final ↔ assertion.isSome
  final_iff_pass : state = .final ↔ disposition = .pass
  assertion_of_leg : ∀ stated ∈ assertion,
    stated.finalityType = leg.finalityType ∧ stated.confidence = none

instance : DecidableEq FinalityEvidence :=
  fun _ _ => decidable_of_iff _ FinalityEvidence.ext_iff.symm

/-- A reading that asserts nothing. -/
def openReading (state : EvidenceState) (disposition : Disposition) (reason : String) (leg : Leg)
    (hstate : state ≠ .final := by decide) (hdisposition : disposition ≠ .pass := by decide)
    (hreason : reason ≠ "" := by decide) : FinalityEvidence where
  state
  disposition
  reason
  leg
  reason_nonempty := hreason
  final_iff_assertion := by simp [hstate]
  final_iff_pass := by simp [hstate, hdisposition]
  assertion_of_leg := by simp

/-- A final reading, with its assertion. -/
def finalReading (leg : Leg) (assertion : FinalityAssertion)
    (h : assertion.finalityType = leg.finalityType ∧ assertion.confidence = none) :
    FinalityEvidence where
  state := .final
  disposition := .pass
  reason := "an authoritative settled readback emitted a kernel finality assertion"
  leg
  assertion := some assertion
  reason_nonempty := by decide
  final_iff_assertion := by simp
  final_iff_pass := by simp
  assertion_of_leg := by
    rintro stated hstated
    cases hstated
    exact h

/-- The states before settled. There is none where the venue said settled. -/
def earlier (status : SettlementStatus) (leg : Leg) : Option FinalityEvidence :=
  match status with
  | .received =>
    some (openReading .matched .hold "received is not accepted, settled, or final" leg)
  | .inProgress =>
    some (openReading .accepted .hold "acceptance in progress is not settled or final" leg)
  | .acceptedNotPosted =>
    some (openReading .accepted .hold "accepted and not posted is not settled or final" leg)
  | .acceptedWithChange =>
    some (openReading .accepted .hold "accepted on other terms is not settled or final" leg)
  | .rejected =>
    some (openReading .refused .hold
      "the venue refused the instruction, and refusal is not finality" leg)
  | .cancelled =>
    some (openReading .refused .hold
      "the venue cancelled the instruction, and cancellation is not finality" leg)
  | .unrecognized =>
    some (openReading .unread .indeterminate
      "the status code is not recognised, so finality cannot be judged" leg)
  | .settled => none

/-- The facts a caller states for an assertion. A time or a text is absent where the caller
gave something that is not one. -/
structure StatedFacts where
  leg : Leg
  governingRuleSet : Option String
  authoritativeActor : ActorRef
  authoritativeEventId : String
  effectiveTime : Option Timestamp
  observationTime : Option Timestamp
  evidenceReference : Option String
  conditionalityStatus : String
  revocabilityStatus : String
  provenance : Provenance
  deriving DecidableEq

variable (kernel : Kernel)

/-- The assertion of the stated facts, or a reading that says why they make none. -/
def settledFieldsAreLegal (facts : StatedFacts) : FinalityEvidence :=
  if !facts.provenance.isFact then
    openReading .settled .indeterminate ("the provenance is not an external or synthetic " ++
      "fact, so no finality assertion is emitted") facts.leg
  else
    match facts.effectiveTime.filter Timestamp.isUtc,
        facts.observationTime.filter Timestamp.isUtc with
    | some effective, some observed =>
      if observed.instant < effective.instant then
        openReading .settled .hold
          "the observation is before the effective time, so a fact cannot be asserted" facts.leg
      else
        match facts.governingRuleSet.filter (· ≠ ""), facts.evidenceReference.filter (· ≠ "") with
        | none, _ =>
          openReading .settled .indeterminate
            "the governing rule is missing, so the assertion cannot be verified" facts.leg
        | some _, none =>
          openReading .settled .indeterminate
            "the evidence reference is missing, so the assertion cannot be verified" facts.leg
        | some rule, some reference =>
          let assertion : FinalityAssertion :=
            { finalityType := facts.leg.finalityType
              governingRuleSet := rule
              authoritativeActor := facts.authoritativeActor
              authoritativeEventId := facts.authoritativeEventId
              effectiveTime := effective
              observationTime := observed
              evidenceReference := reference
              conditionalityStatus := facts.conditionalityStatus
              revocabilityStatus := facts.revocabilityStatus
              provenance := facts.provenance }
          if kernel.isFinalityAssertion assertion then
            finalReading facts.leg assertion ⟨rfl, rfl⟩
          else
            openReading .settled .indeterminate
              "the supplied fields are not a legal kernel finality assertion" facts.leg
    | _, _ =>
      openReading .settled .indeterminate ("the effective time or the observation time is not " ++
        "UTC, so finality cannot be judged") facts.leg

/-! ## Reading an entry -/

/-- Whether two echoed amounts are the same number, or both absent. -/
def sameAmount : Option Decimal → Option Decimal → Outcome Bool
  | none, none => .ok true
  | some x, some y => Decimal.eq x y
  | _, _ => .ok false

/-- Whether two entries are the same. Amounts are compared as numbers, unless the entries are
equal in every field; comparing a signalling NaN raises. -/
def StatusEntry.same (a b : StatusEntry) : Outcome Bool :=
  if a = b then .ok true
  else if a.statusCode ≠ b.statusCode ∨ a.status ≠ b.status ∨ a.endToEndId ≠ b.endToEndId ∨
      a.originalTransactionId ≠ b.originalTransactionId ∨ a.originalUetr ≠ b.originalUetr ∨
      a.reasonCodes ≠ b.reasonCodes then .ok false
  else do
    let amounts ← sameAmount a.echoedAmount b.echoedAmount
    .ok (amounts && a.echoedCurrency = b.echoedCurrency &&
      a.acceptanceDatetime = b.acceptanceDatetime)

/-- Whether a list of entries holds one that is the same as the given one. -/
def listed (entry : StatusEntry) : List StatusEntry → Outcome Bool
  | [] => .ok false
  | other :: rest => do
    let same ← other.same entry
    if same then .ok true else listed entry rest

/-- The reading of an entry that is in the readback. -/
def readEntry (readback : ReadbackMatch) (entry : StatusEntry) (facts : StatedFacts) :
    FinalityEvidence :=
  match entry.endToEndId.bind fun e2e => (readback.matched.get? e2e).map (Prod.mk e2e) with
  | none =>
    openReading .unread .indeterminate ("the entry has no matched end-to-end identity, so " ++
      "the status cannot be verified") facts.leg
  | some (e2e, status) =>
    if status ≠ entry.status then
      openReading .unread .indeterminate ("the match and the entry do not name the same " ++
        "status, so the status cannot be verified") facts.leg
    else
      match earlier entry.status facts.leg with
      | some reading => reading
      | none =>
        if readback.breaks.any fun item => item.endToEndId = some e2e then
          openReading .settled .hold
            "a break attaches to this settled entry, so it is not final" facts.leg
        else settledFieldsAreLegal kernel facts

/-- The reading of one entry of a reconciled readback. -/
def finalityFromReadback (readback : ReadbackMatch) (entry : Option StatusEntry)
    (facts : StatedFacts) : Outcome FinalityEvidence :=
  let notListed := openReading .unread .indeterminate
    "the entry is not in this readback, so nothing is final" facts.leg
  if readback.isAbsent then
    .ok (openReading .unread .indeterminate "the readback is absent, so nothing is final"
      facts.leg)
  else
    match entry with
    | none => .ok notListed
    | some entry => do
      let found ← listed entry readback.report.entries
      .ok (if found then readEntry kernel readback entry facts else notListed)

/-! ## Final readings -/

@[simp] theorem openReading_state (state : EvidenceState) (disposition : Disposition)
    (reason : String) (leg : Leg) (hstate : state ≠ .final) (hdisposition : disposition ≠ .pass)
    (hreason : reason ≠ "") :
    (openReading state disposition reason leg hstate hdisposition hreason).state = state := rfl

theorem earlier_eq_none_iff {status : SettlementStatus} {leg : Leg} :
    earlier status leg = none ↔ status = .settled := by
  cases status <;> simp [earlier]

theorem earlier_not_final {status : SettlementStatus} {leg : Leg} {reading : FinalityEvidence}
    (h : earlier status leg = some reading) : reading.state ≠ .final := by
  cases status <;> cases h <;> simp

theorem StatusEntry.same_true {a b : StatusEntry} (h : a.same b = .ok true) :
    a.endToEndId = b.endToEndId ∧ a.status = b.status := by
  unfold StatusEntry.same at h
  split_ifs at h with hequal hparts
  · rw [hequal]
    exact ⟨rfl, rfl⟩
  · cases h
  · simp only [ne_eq, not_or, not_not] at hparts
    exact ⟨hparts.2.2.1, hparts.2.1⟩

/-- A listed entry names an instruction and a status as one of the list does. -/
theorem listed_true {entry : StatusEntry} {entries : List StatusEntry}
    (h : listed entry entries = .ok true) :
    ∃ other ∈ entries, other.endToEndId = entry.endToEndId ∧ other.status = entry.status := by
  induction entries with
  | nil => cases h
  | cons other rest ih =>
    rw [listed, Outcome.bind_eq_ok] at h
    obtain ⟨same, hsame, hrest⟩ := h
    cases same with
    | true => exact ⟨other, List.mem_cons_self, StatusEntry.same_true hsame⟩
    | false =>
      obtain ⟨found, hfound, hnames⟩ := ih hrest
      exact ⟨found, List.mem_cons_of_mem other hfound, hnames⟩

/-- A final reading of an entry: it is settled, its identifier is matched with that status,
and no break names it. -/
theorem readEntry_final {readback : ReadbackMatch} {entry : StatusEntry} {facts : StatedFacts}
    (h : (readEntry kernel readback entry facts).state = .final) :
    entry.status = .settled ∧ ∃ e2e, entry.endToEndId = some e2e ∧
      readback.matched.get? e2e = some .settled ∧
      ∀ item ∈ readback.breaks, item.endToEndId ≠ some e2e := by
  simp only [readEntry] at h
  rcases hmatched : entry.endToEndId.bind fun e2e =>
      (readback.matched.get? e2e).map (Prod.mk e2e) with _ | ⟨e2e, status⟩
  · simp [hmatched] at h
  simp only [hmatched] at h
  by_cases hstatus : status = entry.status
  · rw [if_neg (not_not.mpr hstatus)] at h
    rcases hearlier : earlier entry.status facts.leg with _ | reading
    · rw [hearlier] at h
      rw [earlier_eq_none_iff] at hearlier
      by_cases hbreaks : readback.breaks.any fun item => item.endToEndId = some e2e
      · simp [hbreaks] at h
      · obtain ⟨e2e', he2e, hget⟩ := Option.bind_eq_some_iff.mp hmatched
        obtain ⟨status', hstatus', hpair⟩ := Option.map_eq_some_iff.mp hget
        cases hpair
        refine ⟨hearlier, e2e, he2e, ?_, ?_⟩
        · rw [hstatus', hstatus, hearlier]
        · simpa using hbreaks
    · rw [hearlier] at h
      exact absurd h (earlier_not_final hearlier)
  · simp [hstatus] at h

/-- A final reading is of a settled entry of the readback, whose identifier is matched with
that status and has no break. -/
theorem final_cases {readback : ReadbackMatch} {entry : Option StatusEntry} {facts : StatedFacts}
    {evidence : FinalityEvidence}
    (h : finalityFromReadback kernel readback entry facts = .ok evidence)
    (hfinal : evidence.state = .final) :
    ∃ settled ∈ readback.report.entries, settled.status = .settled ∧
      ∃ e2e, settled.endToEndId = some e2e ∧ (∃ given ∈ entry, given.endToEndId = some e2e) ∧
        readback.matched.get? e2e = some .settled ∧
        ∀ item ∈ readback.breaks, item.endToEndId ≠ some e2e := by
  simp only [finalityFromReadback] at h
  split_ifs at h
  · cases h
    simp at hfinal
  · rcases entry with _ | given
    · cases h
      simp at hfinal
    · obtain ⟨found, hfound, heq⟩ := Outcome.bind_eq_ok.mp h
      cases found with
      | false =>
        cases heq
        simp at hfinal
      | true =>
        cases heq
        obtain ⟨hsettled, e2e, he2e, hmatched, hbreaks⟩ := readEntry_final kernel hfinal
        obtain ⟨other, hother, hname, hstatus⟩ := listed_true hfound
        exact ⟨other, hother, hstatus.trans hsettled, e2e, hname.trans he2e,
          ⟨given, rfl, he2e⟩, hmatched, hbreaks⟩

end Atreides
