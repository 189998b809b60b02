import Atreides.Rails.FundingHeadroom

/-!
# When funding arrives

An instruction on a gross-final rail queues until the committed position covers it. The projection
tries the offsets of the committed flows, and between two of them the position does not move, so the
offset it answers is the least instant of all, not only of those it tried.

## Main definitions

* `FundingInputs.Covers` — the committed position of an instant covers the obligation
* `FundingInputs.Short` — it is read, and does not
* `FundingInputs.arrivals` — the instants of the window, from settlement on, that do
* `ReachesQueue` — no check before the queue answers

## Main results

* `queues_iff` — the projection queues until the least of these instants
-/

namespace Atreides

open DecimalContext (ambient)

namespace FundingInputs

variable (inputs : FundingInputs)

/-- The committed position of an instant covers the obligation. -/
def Covers (t : ℤ) : Prop :=
  ∃ position, positionAt inputs.openingPosition inputs.flows t true = .ok position ∧
    Decimal.le inputs.obligation position = .ok true

/-- The committed position of an instant is read, and does not cover the obligation. -/
def Short (t : ℤ) : Prop :=
  ∃ position, positionAt inputs.openingPosition inputs.flows t true = .ok position ∧
    Decimal.le inputs.obligation position = .ok false

variable {inputs} in
theorem Short.not_covers {t : ℤ} (h : inputs.Short t) : ¬ inputs.Covers t := by
  obtain ⟨position, hposition, hle⟩ := h
  rintro ⟨position', hposition', hle'⟩
  rw [hposition] at hposition'
  cases hposition'
  rw [hle] at hle'
  cases hle'

/-- The instants from settlement to the close at which the obligation is covered. -/
def arrivals : Set ℤ :=
  {t | inputs.settlementOffsetSeconds ≤ t ∧ inputs.InWindow t ∧ inputs.Covers t}

/-! ## Between two offsets -/

/-- Two instants with no committed flow between them have one position. -/
theorem covers_congr {t t' : ℤ} (h : ∀ flow ∈ inputs.flows, flow.committed = true →
    (flow.offsetSeconds ≤ t ↔ flow.offsetSeconds ≤ t')) : inputs.Covers t ↔ inputs.Covers t' := by
  have hfilter : inputs.flows.filter (fun flow => flow.offsetSeconds ≤ t &&
      (flow.committed || !true)) = inputs.flows.filter fun flow => flow.offsetSeconds ≤ t' &&
        (flow.committed || !true) := by
    apply List.filter_congr
    intro flow hflow
    cases hcommitted : flow.committed with
    | true => simp [h flow hflow hcommitted]
    | false => simp
  rw [Covers, Covers, positionAt_eq_sum, positionAt_eq_sum, hfilter]

theorem mem_fundingOffsets {offset : ℤ} : offset ∈ fundingOffsets inputs ↔
    inputs.settlementOffsetSeconds ≤ offset ∧ (offset = inputs.settlementOffsetSeconds ∨
      ∃ flow ∈ inputs.flows, flow.committed = true ∧ flow.offsetSeconds = offset) := by
  rw [fundingOffsets, List.mem_filter, List.mem_insertionSort, List.mem_dedup, List.mem_append,
    List.mem_singleton, List.mem_map, decide_eq_true_eq, and_comm]
  simp only [List.mem_filter, and_assoc, or_comm]

theorem fundingOffsets_pairwise : (fundingOffsets inputs).Pairwise (· ≤ ·) :=
  (List.pairwise_insertionSort _ _).filter _

/-- Some offset tried has the position of an instant. -/
theorem exists_offset {t : ℤ} (ht : inputs.settlementOffsetSeconds ≤ t) :
    ∃ offset ∈ fundingOffsets inputs, offset ≤ t ∧ (inputs.Covers t ↔ inputs.Covers offset) := by
  have hnonempty : ((fundingOffsets inputs).toFinset.filter (· ≤ t)).Nonempty := by
    refine ⟨inputs.settlementOffsetSeconds, ?_⟩
    rw [Finset.mem_filter, List.mem_toFinset, mem_fundingOffsets]
    exact ⟨⟨le_rfl, .inl rfl⟩, ht⟩
  obtain ⟨offset, hoffset, hgreatest⟩ := Finset.exists_max_image _ id hnonempty
  rw [Finset.mem_filter, List.mem_toFinset] at hoffset
  refine ⟨offset, hoffset.1, hoffset.2, inputs.covers_congr fun flow hflow hcommitted => ?_⟩
  constructor
  · intro hle
    by_cases hsettle : inputs.settlementOffsetSeconds ≤ flow.offsetSeconds
    · apply hgreatest
      rw [Finset.mem_filter, List.mem_toFinset, mem_fundingOffsets]
      exact ⟨⟨hsettle, .inr ⟨flow, hflow, hcommitted, rfl⟩⟩, hle⟩
    · have := (inputs.mem_fundingOffsets.mp hoffset.1).1
      omega
  · exact fun hle => hle.trans hoffset.2

/-! ## The offset found -/

/-- One offset of the search: past the close, covered, or neither. -/
theorem firstFundedOffset_cons {offset : ℤ} {rest : List ℤ} {found : Option ℤ}
    (h : firstFundedOffset inputs (offset :: rest) = .ok found) :
    (¬ inputs.InWindow offset ∧ found = none) ∨
      (inputs.InWindow offset ∧ inputs.Covers offset ∧ found = some offset) ∨
        inputs.Short offset ∧ firstFundedOffset inputs rest = .ok found := by
  have hwindow : inputs.InWindow offset ↔
      ¬ inputs.windowCloseOffsetSeconds.any (· < offset) = true := by
    rw [InWindow]
    cases inputs.windowCloseOffsetSeconds with
    | none => simp
    | some close => simp
  rw [firstFundedOffset] at h
  split_ifs at h with hpast
  · cases h
    exact .inl ⟨fun hin => hwindow.mp hin hpast, rfl⟩
  · rw [Outcome.bind_eq_ok] at h
    obtain ⟨position, hposition, h⟩ := h
    rw [Outcome.bind_eq_ok] at h
    obtain ⟨covered, hcovered, h⟩ := h
    cases covered with
    | true =>
      cases h
      exact .inr (.inl ⟨hwindow.mpr hpast, ⟨position, hposition, hcovered⟩, rfl⟩)
    | false => exact .inr (.inr ⟨⟨position, hposition, hcovered⟩, h⟩)

/-- The offset found is the first of the window that covers the obligation. -/
theorem firstFundedOffset_eq_some {offsets : List ℤ} (hsorted : offsets.Pairwise (· ≤ ·)) {t : ℤ}
    (h : firstFundedOffset inputs offsets = .ok (some t)) :
    t ∈ offsets ∧ inputs.InWindow t ∧ inputs.Covers t ∧
      ∀ offset ∈ offsets, offset < t → inputs.Short offset := by
  induction offsets with
  | nil => cases h
  | cons offset rest ih =>
    obtain ⟨hoffset, hrest⟩ := List.pairwise_cons.mp hsorted
    obtain ⟨-, hnone⟩ | ⟨hwindow, hcovers, hsome⟩ | ⟨hnot, hlater⟩ :=
      inputs.firstFundedOffset_cons h
    · cases hnone
    · cases hsome
      refine ⟨List.mem_cons_self, hwindow, hcovers, fun other hother hlt => ?_⟩
      obtain rfl | hmem := List.mem_cons.mp hother
      · exact absurd hlt (lt_irrefl _)
      · exact absurd hlt (hoffset other hmem).not_gt
    · obtain ⟨hmem, hwindow, hcovers, hbefore⟩ := ih hrest hlater
      refine ⟨List.mem_cons_of_mem _ hmem, hwindow, hcovers, fun other hother hlt => ?_⟩
      obtain rfl | hmem' := List.mem_cons.mp hother
      · exact hnot
      · exact hbefore other hmem' hlt

/-- Where no offset is found, every one of the window is short. -/
theorem firstFundedOffset_eq_none {offsets : List ℤ} (hsorted : offsets.Pairwise (· ≤ ·))
    (h : firstFundedOffset inputs offsets = .ok none) :
    ∀ offset ∈ offsets, inputs.InWindow offset → inputs.Short offset := by
  induction offsets with
  | nil =>
    intro offset hoffset
    cases hoffset
  | cons offset rest ih =>
    obtain ⟨hoffset, hrest⟩ := List.pairwise_cons.mp hsorted
    intro other hother hwindow
    obtain ⟨hpast, -⟩ | ⟨-, -, hsome⟩ | ⟨hnot, hlater⟩ := inputs.firstFundedOffset_cons h
    · -- what comes after is past the close as well
      refine absurd (fun close hclose => ?_) hpast
      have hle := hwindow close hclose
      obtain rfl | hmem := List.mem_cons.mp hother
      · exact hle
      · exact (hoffset other hmem).trans hle
    · cases hsome
    · obtain rfl | hmem := List.mem_cons.mp hother
      · exact hnot
      · exact ih hrest hlater other hmem hwindow

/-- The offset found is the least instant at which funding arrives. -/
theorem firstFundedOffset_eq_some_iff {found : Option ℤ} {t : ℤ}
    (h : firstFundedOffset inputs (fundingOffsets inputs) = .ok found) :
    found = some t ↔ IsLeast inputs.arrivals t := by
  have hleast : ∀ t, found = some t → IsLeast inputs.arrivals t := by
    rintro t rfl
    obtain ⟨hmem, hwindow, hcovers, hbefore⟩ :=
      inputs.firstFundedOffset_eq_some inputs.fundingOffsets_pairwise h
    refine ⟨⟨(inputs.mem_fundingOffsets.mp hmem).1, hwindow, hcovers⟩, ?_⟩
    rintro instant ⟨hsettle, -, hcovers'⟩
    obtain ⟨offset, hoffset, hle, hiff⟩ := inputs.exists_offset hsettle
    by_contra hlt
    exact (hbefore offset hoffset (hle.trans_lt (not_le.mp hlt))).not_covers (hiff.mp hcovers')
  refine ⟨hleast t, fun ht => ?_⟩
  cases found with
  | none =>
    obtain ⟨hsettle, hwindow, hcovers⟩ := ht.1
    obtain ⟨offset, hoffset, hle, hiff⟩ := inputs.exists_offset hsettle
    have hshort := inputs.firstFundedOffset_eq_none inputs.fundingOffsets_pairwise h offset hoffset
      fun close hclose => hle.trans (hwindow close hclose)
    exact absurd (hiff.mp hcovers) hshort.not_covers
  | some t' => rw [(hleast t' rfl).unique ht]

end FundingInputs

/-! ## The queue -/

/-- No check before the queue answers: the input is recognised and on gross-final funds, the clearing
fund is sufficient, the cap is kept, the obligation is determined, and there is a shortfall at
settlement. -/
structure ReachesQueue (inputs : FundingInputs) (sufficient : Bool) (headroom shortfall : Decimal) :
    Prop where
  recognised : inputs.unrecognisedFields = []
  gross : inputs.finalityClass = .member .grossFinal
  sufficient : sufficient = true
  capKept : ∀ cap ∈ inputs.netDebitCap, Decimal.lt headroom 0 = .ok false
  determined : inputs.determinationOutcome ≠ .member .awaitingDetermination
  short : Decimal.eq shortfall 0 = .ok false

section Queue

variable {inputs : FundingInputs} {figures : FundingFigures} {projection : FundingProjection}

theorem answerIf_eq_none {condition : Bool} {disposition : FundingDisposition}
    {rationale : String} : answerIf condition disposition rationale = .ok none ↔
      condition = false := by
  cases condition with
  | true => simp [answerIf]
  | false => simp [answerIf]

theorem answerCap_eq_none : answerCap inputs figures = .ok none ↔
    ∀ cap ∈ inputs.netDebitCap, Decimal.lt figures.headroom 0 = .ok false := by
  rw [answerCap]
  cases inputs.netDebitCap with
  | none => simp
  | some cap =>
    simp only [Option.mem_def, Option.some.injEq, forall_eq', Outcome.bind_eq_ok, answerIf_eq_none]
    constructor
    · rintro ⟨breached, hbreached, rfl⟩
      exact hbreached
    · exact fun h => ⟨false, h, rfl⟩

theorem answerCovered_eq_none : answerCovered inputs figures = .ok none ↔
    Decimal.eq figures.shortfall 0 = .ok false := by
  rw [answerCovered, Outcome.bind_eq_ok]
  constructor
  · rintro ⟨covered, hcovered, h⟩
    cases covered with
    | true => cases h
    | false => exact hcovered
  · exact fun h => ⟨false, h, rfl⟩

theorem answerDeferred_eq_none : answerDeferred inputs figures = .ok none ↔
    inputs.finalityClass ≠ .member .deferredNet := by
  rw [answerDeferred]
  split_ifs with hclass
  · exact iff_of_true rfl hclass
  · refine iff_of_false ?_ hclass
    intro h
    rw [Outcome.bind_eq_ok] at h
    obtain ⟨atFinality, -, h⟩ := h
    rw [Outcome.bind_eq_ok] at h
    obtain ⟨covered, -, h⟩ := h
    cases covered with
    | true => cases h
    | false => cases h

theorem answerCap_eq_some {answer : FundingAnswer} (h : answerCap inputs figures = .ok (some answer)) :
    Decimal.lt figures.headroom 0 = .ok true ∧ answer.disposition = .capBreach := by
  rw [answerCap] at h
  cases hcap : inputs.netDebitCap with
  | none =>
    rw [hcap] at h
    cases h
  | some cap =>
    rw [hcap] at h
    obtain ⟨breached, hbreached, h⟩ := Outcome.bind_eq_ok.mp h
    obtain ⟨rfl, hdisposition⟩ := answerIf_eq_some h
    exact ⟨hbreached, hdisposition⟩

theorem answerCovered_eq_some {answer : FundingAnswer}
    (h : answerCovered inputs figures = .ok (some answer)) :
    Decimal.eq figures.shortfall 0 = .ok true ∧ ∃ rationale, answer = buildFunded inputs rationale := by
  obtain ⟨covered, hcovered, h⟩ := Outcome.bind_eq_ok.mp h
  cases covered with
  | true =>
    cases h
    exact ⟨hcovered, _, rfl⟩
  | false => cases h

/-- What a deferred-net rail answers on the position at finality. -/
theorem answerDeferred_eq_some {answer : FundingAnswer}
    (h : answerDeferred inputs figures = .ok (some answer)) :
    inputs.finalityClass = .member .deferredNet ∧ ∃ atFinality,
      positionAtFinality inputs figures = .ok atFinality ∧
        ((Decimal.le inputs.obligation atFinality = .ok true ∧
          ∃ rationale, answer = buildFunded inputs rationale) ∨
        (Decimal.le inputs.obligation atFinality = .ok false ∧ answer.disposition = .willFail)) := by
  rw [answerDeferred] at h
  split_ifs at h with hclass
  · cases h
  · obtain ⟨atFinality, hfinality, h⟩ := Outcome.bind_eq_ok.mp h
    obtain ⟨covered, hcovered, h⟩ := Outcome.bind_eq_ok.mp h
    refine ⟨not_not.mp hclass, atFinality, hfinality, ?_⟩
    cases covered with
    | true =>
      cases h
      exact .inl ⟨hcovered, _, rfl⟩
    | false => exact .inr ⟨hcovered, (answerIf_eq_some h).2⟩

/-- The checks all pass the question on exactly where the queue is reached. -/
theorem fundingAnswers_eq_none : Outcome.firstAnswer (fundingAnswers inputs figures) = .ok none ↔
    ReachesQueue inputs figures.clearingFundSufficient figures.headroom figures.shortfall := by
  rw [Outcome.firstAnswer_eq_none_iff]
  simp only [fundingAnswers, List.forall_mem_cons, List.not_mem_nil, false_implies, forall_const,
    and_true, answerUnrecognised, answerObligationClass, answerClearingFund, answerAwaiting,
    answerCorrespondent, answerLedger, answerIf_eq_none, answerCap_eq_none, answerCovered_eq_none,
    answerDeferred_eq_none, decide_eq_false_iff_not, Bool.not_eq_false', ne_eq, not_not]
  constructor
  · rintro ⟨hrecognised, hclass, hclearing, hcap, hawaiting, hcorrespondent, hshort, hdeferred,
      hledger⟩
    refine ⟨hrecognised, ?_, hclearing, hcap, hawaiting, hshort⟩
    cases hfinality : inputs.finalityClass with
    | unrecognised shown =>
      rw [FundingInputs.unrecognisedFields, hfinality] at hrecognised
      simp [Coerced.isUnrecognised] at hrecognised
    | member finality =>
      cases finality with
      | grossFinal => rfl
      | deferredNet => exact absurd hfinality hdeferred
      | ledgerFinal => exact absurd hfinality hledger
      | correspondentDependent => exact absurd hfinality hcorrespondent
      | determinationDependent => exact absurd hfinality hclass
  · intro h
    have hgross := h.gross
    exact ⟨h.recognised, by simp [hgross], h.sufficient, h.capKept, h.determined, by simp [hgross],
      h.short, by simp [hgross], by simp [hgross]⟩

/-- Only the queue answers that the instruction queues. -/
theorem not_willQueue_of_firstAnswer {answer : FundingAnswer}
    (h : Outcome.firstAnswer (fundingAnswers inputs figures) = .ok (some answer)) :
    answer.disposition ≠ .willQueue := by
  refine Outcome.firstAnswer_forall (P := fun answer => answer.disposition ≠ .willQueue) ?_ h
  have hif : ∀ {condition : Bool} {disposition : FundingDisposition} {rationale : String}
      {answer : FundingAnswer}, disposition ≠ .willQueue →
        answerIf condition disposition rationale = .ok (some answer) →
          answer.disposition ≠ .willQueue := by
    intro condition disposition rationale answer hne hanswer
    rwa [(answerIf_eq_some hanswer).2]
  have hfunded : ∀ rationale, (buildFunded inputs rationale).disposition ≠ .willQueue := by
    intro rationale hqueue
    obtain heq | heq := buildFunded_disposition inputs rationale
    · rw [heq] at hqueue
      cases hqueue
    · rw [heq] at hqueue
      cases hqueue
  simp only [fundingAnswers, List.forall_mem_cons, List.not_mem_nil, false_implies, forall_const,
    and_true]
  refine ⟨fun _ => hif (by decide), fun _ => hif (by decide), fun _ => hif (by decide), ?_,
    fun _ => hif (by decide), fun _ => hif (by decide), ?_, ?_, fun _ => hif (by decide)⟩
  · intro answer hanswer
    rw [(answerCap_eq_some hanswer).2]
    decide
  · intro answer hanswer
    obtain ⟨-, rationale, rfl⟩ := answerCovered_eq_some hanswer
    exact hfunded rationale
  · intro answer hanswer
    obtain ⟨-, atFinality, -, ⟨-, rationale, rfl⟩ | ⟨-, hfail⟩⟩ := answerDeferred_eq_some hanswer
    · exact hfunded rationale
    · rw [hfail]
      decide

/-- What the queue answers: until when, if funding arrives. -/
theorem answerGross_eq_ok {answer : FundingAnswer} (h : answerGross inputs figures = .ok answer) :
    ∃ found, firstFundedOffset inputs (fundingOffsets inputs) = .ok found ∧
      answer.fundedAt = found ∧
      answer.disposition = if found.isSome then .willQueue else .willFail := by
  rw [answerGross, Outcome.bind_eq_ok] at h
  obtain ⟨found, hfound, h⟩ := h
  cases found with
  | none =>
    cases h
    exact ⟨none, hfound, rfl, rfl⟩
  | some offset =>
    cases h
    exact ⟨some offset, hfound, rfl, rfl⟩

/-- The projection queues until an instant exactly when the queue is reached and the instant is the
least one of the window, from settlement on, that covers the obligation. -/
theorem queues_iff (h : projectFunding inputs = .ok projection) (t : ℤ) :
    projection.disposition = .willQueue ∧ projection.fundedAtOffsetSeconds = some t ↔
      ReachesQueue inputs projection.clearingFundSufficient projection.netDebitCapHeadroom
        projection.shortfall ∧ IsLeast inputs.arrivals t := by
  obtain ⟨figures, answer, -, hanswer, hdisposition, hfundedAt, hshortfall, hheadroom, hclearing⟩ :=
    exists_figures h
  rw [hdisposition, hfundedAt, hshortfall, hheadroom, hclearing, ← fundingAnswers_eq_none]
  rw [fundingAnswer, Outcome.bind_eq_ok] at hanswer
  obtain ⟨first, hfirst, hanswer⟩ := hanswer
  cases first with
  | some early =>
    cases hanswer
    refine iff_of_false (fun hqueue => not_willQueue_of_firstAnswer hfirst hqueue.1) ?_
    rw [hfirst]
    rintro ⟨hnone, -⟩
    cases hnone
  | none =>
    obtain ⟨found, hfound, hat, heq⟩ := answerGross_eq_ok hanswer
    rw [heq, hat, hfirst, ← inputs.firstFundedOffset_eq_some_iff hfound]
    constructor
    · exact fun hqueue => ⟨rfl, hqueue.2⟩
    · rintro ⟨-, rfl⟩
      exact ⟨rfl, rfl⟩

end Queue

end Atreides
