import Atreides.Foundation.Decimal.Order
import Atreides.Rails.FundingQueue

/-!
# One more inflow

A committed inflow that is not negative raises every position from its instant on, and lowers none,
as long as the opening position fits the context: rounding keeps the order of sums. So the deepest
point and the headroom do not fall, the shortfall does not grow, and no check answers that did not
answer before, but for the one that calls the obligation covered.

## Main definitions

* `FundingInputs.withInflow` — the inputs with one more flow, anywhere among the others
* `NoWorse` — what the second of two projections may answer

## Main results

* `noWorse_of_inflow` — one more inflow does not worsen the projection
* `funding_arrival` — when funding arrives, and that one more inflow does not worsen it
-/

namespace Atreides

open DecimalContext (ambient)
open Decimal (AtMost)

/-- The inputs with one more flow among the others. -/
def FundingInputs.withInflow (inputs : FundingInputs) (before after : List CashFlow)
    (inflow : CashFlow) : FundingInputs :=
  { inputs with flows := before ++ inflow :: after }

section Figures

variable {inputs : FundingInputs} {before after : List CashFlow} {inflow : CashFlow}

/-! ## Positions -/

/-- One more inflow lowers no position. -/
theorem positionAt_atMost {opening r r' : Decimal} {offset : ℤ} {committedOnly : Bool}
    (hopening : opening.Fits ambient) (hamount : Decimal.le 0 inflow.amount = .ok true)
    (h : positionAt opening (before ++ after) offset committedOnly = .ok r)
    (h' : positionAt opening (before ++ inflow :: after) offset committedOnly = .ok r') :
    AtMost r r' := by
  refine Outcome.foldSteps_insert (R := AtMost) (I := Decimal.Fits ambient) ?_ ?_ ?_ hopening h h'
  · intro total flow total' hfits hstep
    split_ifs at hstep
    · exact Decimal.fits_of_add hstep
    · cases hstep
      exact hfits
  · intro total other flow total' other' hle hstep hstep'
    split_ifs at hstep hstep'
    · exact hle.add (.refl _) hstep hstep'
    · cases hstep
      cases hstep'
      exact hle
  · intro total total' hfits hstep
    split_ifs at hstep
    · exact Decimal.atMost_add hfits hamount hstep
    · cases hstep
      exact .refl _

/-! ## The deepest point -/

/-- A flow lands at most once in the window, with its amount. -/
theorem flowInWindow_eq_ok {close : Option ℤ} {landed : List (ℤ × String × Decimal)}
    (h : flowInWindow close inflow = .ok landed) :
    landed = [] ∨ ∃ f : ℤ × String × Decimal, landed = [f] ∧ f.2.2 = inflow.amount := by
  cases close with
  | none =>
    cases h
    exact .inr ⟨_, rfl, rfl⟩
  | some close =>
    rw [flowInWindow] at h
    split_ifs at h
    · cases h
      exact .inr ⟨_, rfl, rfl⟩
    · obtain ⟨leaves, -, h⟩ := Outcome.bind_eq_ok.mp h
      cases leaves with
      | true =>
        cases h
        exact .inr ⟨_, rfl, rfl⟩
      | false =>
        cases h
        exact .inl rfl
    · cases h
      exact .inl rfl

theorem troughStep_eq_ok {running running' : Decimal × Decimal} {f : ℤ × String × Decimal}
    (h : troughStep running f = .ok running') :
    Decimal.add ambient running.1 f.2.2 = .ok running'.1 ∧
      Decimal.min running.2 running'.1 = .ok running'.2 := by
  rw [troughStep, Outcome.bind_eq_ok] at h
  obtain ⟨position, hposition, h⟩ := h
  obtain ⟨trough, htrough, h⟩ := Outcome.bind_eq_ok.mp h
  cases h
  exact ⟨hposition, htrough⟩

/-- One more inflow among what lands lowers neither the running sum nor the lowest one. -/
theorem troughSteps_atMost {opening : Decimal} {low high : List (ℤ × String × Decimal)}
    {f : ℤ × String × Decimal} {r r' : Decimal × Decimal} (hopening : opening.Fits ambient)
    (hamount : Decimal.le 0 f.2.2 = .ok true)
    (h : Outcome.foldSteps troughStep (opening, opening) (low ++ high) = .ok r)
    (h' : Outcome.foldSteps troughStep (opening, opening) (low ++ f :: high) = .ok r') :
    AtMost r.2 r'.2 := by
  have hboth : AtMost r.1 r'.1 ∧ AtMost r.2 r'.2 := by
    refine Outcome.foldSteps_insert (R := fun s t => AtMost s.1 t.1 ∧ AtMost s.2 t.2)
      (I := fun s => s.1.Fits ambient ∧ AtMost s.2 s.1) ?_ ?_ ?_ ⟨hopening, .refl _⟩ h h'
    · intro s g s' _ hstep
      obtain ⟨hadd, hmin⟩ := troughStep_eq_ok hstep
      exact ⟨Decimal.fits_of_add hadd, (Decimal.atMost_of_min hmin).2⟩
    · rintro s t g s' t' ⟨hrunning, htrough⟩ hstep hstep'
      obtain ⟨hadd, hmin⟩ := troughStep_eq_ok hstep
      obtain ⟨hadd', hmin'⟩ := troughStep_eq_ok hstep'
      have hrunning' := hrunning.add (.refl _) hadd hadd'
      exact ⟨hrunning', htrough.min hrunning' hmin hmin'⟩
    · -- the lowest sum is still at most the raised one
      rintro s s' ⟨hfits, hle⟩ hstep
      obtain ⟨hadd, hmin⟩ := troughStep_eq_ok hstep
      have hraised := Decimal.atMost_add hfits hamount hadd
      obtain ⟨hnan, -, hnan', heq⟩ := Decimal.min_eq_ok hmin
      refine ⟨hraised, hnan.trans hnan'.symm, ?_⟩
      rw [heq]
      exact le_min le_rfl (hle.trans hraised).le
  exact hboth.2

theorem capTrough_atMost {settlePos settlePos' r r' : Decimal}
    (hflows : inputs.flows = before ++ after) (hcommitted : inflow.committed = true)
    (hamount : Decimal.le 0 inflow.amount = .ok true)
    (hopening : inputs.openingPosition.Fits ambient) (hsettle : AtMost settlePos settlePos')
    (h : capTrough inputs settlePos = .ok r)
    (h' : capTrough (inputs.withInflow before after inflow) settlePos' = .ok r') :
    AtMost r r' := by
  simp only [capTrough, Outcome.bind_eq_ok] at h h'
  obtain ⟨timed, htimed, ⟨running, trough⟩, htrough, settled, hsettled, hmin⟩ := h
  obtain ⟨timed', htimed', ⟨running', trough'⟩, htrough', settled', hsettled', hmin'⟩ := h'
  rw [hflows, List.filter_append] at htimed
  simp only [FundingInputs.withInflow, List.filter_append, List.filter_cons_of_pos hcommitted]
    at htimed' htrough'
  obtain ⟨as, bs, has, hbs, rfl⟩ := Outcome.collect_append_eq_ok.mp htimed
  obtain ⟨as', bs', has', hbs', rfl⟩ := Outcome.collect_append_eq_ok.mp htimed'
  rw [has] at has'
  cases has'
  obtain ⟨landed, bs'', hlanded, hbs'', rfl⟩ := Outcome.collect_cons_eq_ok.mp hbs'
  rw [hbs] at hbs''
  cases hbs''
  have hsettles : AtMost settled settled' := hsettle.sub (.refl _) hsettled hsettled'
  suffices hlow : AtMost trough trough' from hlow.min hsettles hmin hmin'
  obtain rfl | ⟨f, rfl, hf⟩ := flowInWindow_eq_ok hlanded
  · -- nothing lands, so the two sums are one
    have hsame : (as ++ [] :: bs).flatten = (as ++ bs).flatten := by simp
    rw [hsame, htrough] at htrough'
    cases htrough'
    exact .refl _
  · have hwith : (as ++ [f] :: bs).flatten = as.flatten ++ f :: bs.flatten := by simp
    have hwithout : (as ++ bs).flatten = as.flatten ++ bs.flatten := by simp
    obtain ⟨low, high, hlow, hhigh⟩ := exists_insertionSort_insert
      (r := fun a b : ℤ × String × Decimal => comesBefore (a.1, a.2.1) (b.1, b.2.1))
      (fun a b c => comesBefore_trans _ _ _) (fun a b => comesBefore_total _ _) f as.flatten
      bs.flatten
    rw [hwith, hlow] at htrough'
    rw [hwithout, hhigh] at htrough
    exact troughSteps_atMost hopening (hf ▸ hamount) htrough htrough'

/-! ## The figures -/

/-- The second figures are no worse than the first. -/
structure FiguresAtMost (figures figures' : FundingFigures) : Prop where
  headroom : AtMost figures.headroom figures'.headroom
  committed : AtMost figures.committed figures'.committed
  shortfall : Decimal.eq figures.shortfall 0 = .ok true → Decimal.eq figures'.shortfall 0 = .ok true
  clearing : figures'.clearingFundSufficient = figures.clearingFundSufficient

theorem headroomOf_atMost {trough trough' r r' : Decimal} (hle : AtMost trough trough')
    (h : headroomOf inputs trough = .ok r)
    (h' : headroomOf (inputs.withInflow before after inflow) trough' = .ok r') : AtMost r r' := by
  rw [headroomOf] at h h'
  simp only [FundingInputs.withInflow] at h'
  cases hcap : inputs.netDebitCap with
  | none =>
    rw [hcap] at h h'
    cases h
    cases h'
    exact .refl _
  | some cap =>
    rw [hcap] at h h'
    obtain ⟨deepest, hdeepest, h⟩ := Outcome.bind_eq_ok.mp h
    obtain ⟨deepest', hdeepest', h'⟩ := Outcome.bind_eq_ok.mp h'
    exact (AtMost.refl cap).add (hle.min (.refl 0) hdeepest hdeepest') h h'

/-- A shortfall of zero stays zero when the position is raised. -/
theorem shortfallOf_eq_zero {obligation committed committed' shortfall shortfall' : Decimal}
    (hle : AtMost committed committed') (h : shortfallOf obligation committed = .ok shortfall)
    (h' : shortfallOf obligation committed' = .ok shortfall')
    (hzero : Decimal.eq shortfall 0 = .ok true) : Decimal.eq shortfall' 0 = .ok true := by
  obtain ⟨difference, hdifference, hmax⟩ := Outcome.bind_eq_ok.mp h
  obtain ⟨difference', hdifference', hmax'⟩ := Outcome.bind_eq_ok.mp h'
  have hless : AtMost difference' difference :=
    (AtMost.refl obligation).sub hle hdifference' hdifference
  obtain ⟨above, habove, hmax⟩ := Outcome.bind_eq_ok.mp hmax
  cases above with
  | true =>
    cases hmax
    exact absurd hzero (Decimal.not_eq_of_lt habove)
  | false =>
    obtain ⟨-, hnan, hle'⟩ := Decimal.lt_eq_ok_false_iff.mp habove
    have habove' : Decimal.lt 0 difference' = .ok false :=
      Decimal.lt_eq_ok_false_iff.mpr ⟨rfl, hless.nan.trans hnan, hless.le.trans hle'⟩
    rw [Decimal.max, habove'] at hmax'
    cases hmax'
    rfl

theorem figures_atMost {figures figures' : FundingFigures}
    (hflows : inputs.flows = before ++ after) (hcommitted : inflow.committed = true)
    (hamount : Decimal.le 0 inflow.amount = .ok true)
    (hopening : inputs.openingPosition.Fits ambient) (h : fundingFigures inputs = .ok figures)
    (h' : fundingFigures (inputs.withInflow before after inflow) = .ok figures') :
    FiguresAtMost figures figures' := by
  obtain ⟨hladder, hposition, hshortfall, hheadroom, hclearing⟩ := figures_of_ok h
  obtain ⟨hladder', hposition', hshortfall', hheadroom', hclearing'⟩ := figures_of_ok h'
  obtain ⟨settlePos, hsettle, htrough⟩ := trough_of_buildLadder hladder
  obtain ⟨settlePos', hsettle', htrough'⟩ := trough_of_buildLadder hladder'
  have hmono : ∀ {r r' : Decimal} {offset : ℤ},
      positionAt inputs.openingPosition inputs.flows offset true = .ok r →
        positionAt inputs.openingPosition (before ++ inflow :: after) offset true = .ok r' →
          AtMost r r' := by
    intro r r' offset hr hr'
    rw [hflows] at hr
    exact positionAt_atMost hopening hamount hr hr'
  have hdeepest := capTrough_atMost hflows hcommitted hamount hopening (hmono hsettle hsettle')
    htrough htrough'
  have hcommittedLe := hmono hposition hposition'
  refine ⟨headroomOf_atMost hdeepest hheadroom hheadroom', hcommittedLe,
    shortfallOf_eq_zero hcommittedLe hshortfall hshortfall', ?_⟩
  exact Except.ok.inj (hclearing'.symm.trans hclearing)

end Figures

/-! ## The decision -/

/-- The second of two projections is no worse: what was funded still is, a breach of the cap was one
before, and what queued is funded, or queues for no longer. -/
structure NoWorse (disposition disposition' : FundingDisposition) (fundedAt fundedAt' : Option ℤ) :
    Prop where
  funded : disposition = .funded ∨ disposition = .fundedQualified → disposition' = disposition
  cap : disposition' = .capBreach → disposition = .capBreach
  queue : ∀ t, disposition = .willQueue → fundedAt = some t →
    (disposition' = .funded ∨ disposition' = .fundedQualified) ∨
      disposition' = .willQueue ∧ ∃ t' ≤ t, fundedAt' = some t'

namespace NoWorse

variable {disposition : FundingDisposition} {fundedAt fundedAt' : Option ℤ}

theorem refl (disposition : FundingDisposition) (fundedAt : Option ℤ) :
    NoWorse disposition disposition fundedAt fundedAt :=
  ⟨fun _ => rfl, id, fun t hqueue hat => .inr ⟨hqueue, t, le_rfl, hat⟩⟩

/-- After a refusal nothing is worse, except a breach of the cap. -/
theorem of_refused {disposition' : FundingDisposition}
    (h : disposition = .willFail ∨ disposition = .capBreach)
    (hcap : disposition' = .capBreach → disposition = .capBreach) :
    NoWorse disposition disposition' fundedAt fundedAt' := by
  obtain rfl | rfl := h
  · exact ⟨fun h => by simp at h, hcap, fun t h => by cases h⟩
  · exact ⟨fun h => by simp at h, hcap, fun t h => by cases h⟩

end NoWorse

section Decision

variable {inputs : FundingInputs} {before after : List CashFlow} {inflow : CashFlow}
  {figures figures' : FundingFigures} {answer answer' : FundingAnswer}

theorem buildFunded_eq (rationale rationale' : String) :
    (buildFunded (inputs.withInflow before after inflow) rationale').disposition =
      (buildFunded inputs rationale).disposition := by
  have hqualified : (inputs.withInflow before after inflow).isQualified = inputs.isQualified := rfl
  rw [buildFunded, buildFunded, hqualified]
  split_ifs
  · rfl
  · rfl

/-- A funded answer is no worse than any that is not funded. -/
theorem noWorse_of_buildFunded {disposition : FundingDisposition} {fundedAt fundedAt' : Option ℤ}
    {rationale : String} (h : disposition = .funded ∨ disposition = .fundedQualified →
      disposition = (buildFunded inputs rationale).disposition) :
    NoWorse disposition (buildFunded inputs rationale).disposition fundedAt fundedAt' := by
  have hfunded := buildFunded_disposition inputs rationale
  refine ⟨fun hsettles => (h hsettles).symm, ?_, fun t _ _ => .inl hfunded⟩
  intro hcap
  rw [hcap] at hfunded
  simp at hfunded

theorem fundingAnswer_answers (h : fundingAnswer inputs figures = .ok answer) :
    Outcome.Answers (fundingAnswers inputs figures) (answerGross inputs figures) answer := by
  rw [fundingAnswer, Outcome.bind_eq_ok] at h
  obtain ⟨first, hfirst, h⟩ := h
  cases first with
  | some found =>
    cases h
    exact .inl hfirst
  | none => exact .inr ⟨hfirst, h⟩

/-- Funding arrives no later with one more inflow. -/
theorem firstFundedOffset_noLater {t : ℤ} {found : Option ℤ}
    (hflows : inputs.flows = before ++ after) (hamount : Decimal.le 0 inflow.amount = .ok true)
    (hopening : inputs.openingPosition.Fits ambient)
    (h : firstFundedOffset inputs (fundingOffsets inputs) = .ok (some t))
    (h' : firstFundedOffset (inputs.withInflow before after inflow)
      (fundingOffsets (inputs.withInflow before after inflow)) = .ok found) :
    ∃ t' ≤ t, found = some t' := by
  set raised := inputs.withInflow before after inflow with hraised
  obtain ⟨hmem, hwindow, ⟨position, hposition, hcovers⟩, -⟩ :=
    inputs.firstFundedOffset_eq_some inputs.fundingOffsets_pairwise h
  have hmem' : t ∈ fundingOffsets raised := by
    rw [FundingInputs.mem_fundingOffsets] at hmem ⊢
    obtain ⟨hsettle, heq | ⟨flow, hflow, hflowAt⟩⟩ := hmem
    · exact ⟨hsettle, .inl heq⟩
    · refine ⟨hsettle, .inr ⟨flow, ?_, hflowAt⟩⟩
      rw [hflows, List.mem_append] at hflow
      rw [hraised, FundingInputs.withInflow, List.mem_append, List.mem_cons]
      obtain hbefore | hafter := hflow
      · exact .inl hbefore
      · exact .inr (.inr hafter)
  have hnotShort : ¬ raised.Short t := by
    rintro ⟨position', hposition', hshort⟩
    rw [hflows] at hposition
    have hle := positionAt_atMost hopening hamount hposition hposition'
    have hcovers' : Decimal.le raised.obligation position' = .ok true := hle.le_of_le hcovers
    rw [hcovers'] at hshort
    cases hshort
  cases found with
  | none =>
    exact absurd (raised.firstFundedOffset_eq_none raised.fundingOffsets_pairwise h' t hmem' hwindow)
      hnotShort
  | some t' =>
    obtain ⟨-, -, -, hbefore⟩ := raised.firstFundedOffset_eq_some raised.fundingOffsets_pairwise h'
    refine ⟨t', ?_, rfl⟩
    by_contra hlt
    exact hnotShort (hbefore t hmem' (not_le.mp hlt))

/-- The queue of the second projection is no longer. -/
theorem noWorse_of_gross (hflows : inputs.flows = before ++ after)
    (hamount : Decimal.le 0 inflow.amount = .ok true)
    (hopening : inputs.openingPosition.Fits ambient) (h : answerGross inputs figures = .ok answer)
    (h' : answerGross (inputs.withInflow before after inflow) figures' = .ok answer') :
    NoWorse answer.disposition answer'.disposition answer.fundedAt answer'.fundedAt := by
  obtain ⟨found, hfound, hat, hdisposition⟩ := answerGross_eq_ok h
  obtain ⟨found', hfound', hat', hdisposition'⟩ := answerGross_eq_ok h'
  rw [hdisposition, hdisposition', hat, hat']
  cases found with
  | none =>
    refine .of_refused (.inl rfl) fun hcap => ?_
    split_ifs at hcap
  | some t =>
    obtain ⟨t', hle, rfl⟩ := firstFundedOffset_noLater hflows hamount hopening hfound hfound'
    refine ⟨fun h => by simp at h, fun h => by simp at h, fun u hqueue hu => .inr ⟨rfl, t', ?_, rfl⟩⟩
    cases hu
    exact hle

/-- What is answered once the cap is kept and the obligation is determined. -/
def lateAnswers (inputs : FundingInputs) (figures : FundingFigures) :
    List (Outcome (Option FundingAnswer)) :=
  [answerCovered inputs figures, answerDeferred inputs figures, answerLedger inputs figures]

/-- A late answer is funded, a failure, or a queue. -/
theorem disposition_of_late
    (h : Outcome.Answers (lateAnswers inputs figures) (answerGross inputs figures) answer) :
    (∃ rationale, answer.disposition = (buildFunded inputs rationale).disposition) ∨
      answer.disposition = .willFail ∨ answer.disposition = .willQueue := by
  obtain h | ⟨-, h⟩ := h
  · refine Outcome.firstAnswer_forall (P := fun answer => (∃ rationale, answer.disposition =
      (buildFunded inputs rationale).disposition) ∨ answer.disposition = .willFail ∨
        answer.disposition = .willQueue) ?_ h
    simp only [lateAnswers, List.forall_mem_cons, List.not_mem_nil, false_implies, forall_const,
      and_true]
    refine ⟨?_, ?_, fun _ hanswer => .inr (.inl (answerIf_eq_some hanswer).2)⟩
    · intro answer hanswer
      obtain ⟨-, rationale, rfl⟩ := answerCovered_eq_some hanswer
      exact .inl ⟨rationale, rfl⟩
    · intro answer hanswer
      obtain ⟨-, atFinality, -, ⟨-, rationale, rfl⟩ | ⟨-, hfail⟩⟩ := answerDeferred_eq_some hanswer
      · exact .inl ⟨rationale, rfl⟩
      · exact .inr (.inl hfail)
  · obtain ⟨found, -, -, hdisposition⟩ := answerGross_eq_ok h
    rw [hdisposition]
    cases found with
    | none => exact .inr (.inl rfl)
    | some t => exact .inr (.inr rfl)

/-- Where the second projection finds the obligation covered, nothing is worse. -/
theorem noWorse_of_late_funded {rationale : String} {fundedAt' : Option ℤ}
    (h : Outcome.Answers (lateAnswers inputs figures) (answerGross inputs figures) answer) :
    NoWorse answer.disposition
      (buildFunded (inputs.withInflow before after inflow) rationale).disposition answer.fundedAt
      fundedAt' := by
  apply noWorse_of_buildFunded
  intro hsettles
  obtain ⟨rationale', heq⟩ | heq | heq := disposition_of_late h
  · rw [heq]
    exact (buildFunded_eq _ _).symm
  · simp [heq] at hsettles
  · simp [heq] at hsettles

theorem positionAtFinality_atMost {r r' : Decimal} (hflows : inputs.flows = before ++ after)
    (hamount : Decimal.le 0 inflow.amount = .ok true)
    (hopening : inputs.openingPosition.Fits ambient) (hle : AtMost figures.committed
      figures'.committed) (h : positionAtFinality inputs figures = .ok r)
    (h' : positionAtFinality (inputs.withInflow before after inflow) figures' = .ok r') :
    AtMost r r' := by
  rw [positionAtFinality] at h h'
  simp only [FundingInputs.withInflow] at h'
  cases hclose : inputs.windowCloseOffsetSeconds with
  | none =>
    rw [hclose] at h h'
    cases h
    cases h'
    exact hle
  | some close =>
    rw [hclose] at h h'
    rw [hflows] at h
    exact positionAt_atMost hopening hamount h h'

/-- Once the cap is kept and the obligation determined, nothing is worse. -/
theorem noWorse_of_late (hflows : inputs.flows = before ++ after)
    (hamount : Decimal.le 0 inflow.amount = .ok true)
    (hopening : inputs.openingPosition.Fits ambient) (hfigures : FiguresAtMost figures figures')
    (h : Outcome.Answers (lateAnswers inputs figures) (answerGross inputs figures) answer)
    (h' : Outcome.Answers (lateAnswers (inputs.withInflow before after inflow) figures')
      (answerGross (inputs.withInflow before after inflow) figures') answer') :
    NoWorse answer.disposition answer'.disposition answer.fundedAt answer'.fundedAt := by
  have hlate := h
  rw [lateAnswers, Outcome.answers_cons, Outcome.answers_cons, Outcome.answers_cons,
    Outcome.answers_nil] at h h'
  obtain hcovered' | ⟨hshort', h'⟩ := h'
  · obtain ⟨-, rationale, rfl⟩ := answerCovered_eq_some hcovered'
    exact noWorse_of_late_funded hlate
  obtain hcovered | ⟨-, h⟩ := h
  · -- a shortfall of zero stays zero
    have hzero := hfigures.shortfall (answerCovered_eq_some hcovered).1
    rw [answerCovered_eq_none.mp hshort'] at hzero
    cases hzero
  obtain hdeferred' | ⟨hpassed', h'⟩ := h'
  · obtain ⟨hclass, atFinality', hfinality', ⟨-, rationale, rfl⟩ | ⟨hshort, heq'⟩⟩ :=
      answerDeferred_eq_some hdeferred'
    · exact noWorse_of_late_funded hlate
    · -- short at finality, as it was before
      obtain hdeferred | ⟨hpassed, -⟩ := h
      · obtain ⟨-, atFinality, hfinality, ⟨hcovers, -⟩ | ⟨-, heq⟩⟩ := answerDeferred_eq_some hdeferred
        · have hle := positionAtFinality_atMost hflows hamount hopening hfigures.committed hfinality
            hfinality'
          have hcovers' : Decimal.le (inputs.withInflow before after inflow).obligation
              atFinality' = .ok true := hle.le_of_le hcovers
          rw [hcovers'] at hshort
          cases hshort
        · exact .of_refused (.inl heq) fun hcap => by simp [heq'] at hcap
      · have hother : inputs.finalityClass ≠ .member .deferredNet := answerDeferred_eq_none.mp hpassed
        exact absurd hclass hother
  obtain hdeferred | ⟨-, h⟩ := h
  · obtain ⟨hclass, -⟩ := answerDeferred_eq_some hdeferred
    have hother : (inputs.withInflow before after inflow).finalityClass ≠ .member .deferredNet :=
      answerDeferred_eq_none.mp hpassed'
    exact absurd hclass hother
  -- what is left does not look at the flows before the queue does
  obtain hledger' | ⟨hpassed', hgross'⟩ := h'
  · obtain ⟨hclass, heq'⟩ := answerIf_eq_some hledger'
    obtain hledger | ⟨hpassed, -⟩ := h
    · exact .of_refused (.inl (answerIf_eq_some hledger).2) fun hcap => by simp [heq'] at hcap
    · have hpassed := answerIf_eq_none.mp hpassed
      rw [decide_eq_false_iff_not] at hpassed
      exact absurd (of_decide_eq_true hclass) hpassed
  · obtain hledger | ⟨-, hgross⟩ := h
    · have hpassed' := answerIf_eq_none.mp hpassed'
      rw [decide_eq_false_iff_not] at hpassed'
      exact absurd (of_decide_eq_true (answerIf_eq_some hledger).1) hpassed'
    · exact noWorse_of_gross hflows hamount hopening hgross hgross'

/-- One more inflow does not worsen the decision. -/
theorem noWorse_of_answer (hflows : inputs.flows = before ++ after)
    (hamount : Decimal.le 0 inflow.amount = .ok true)
    (hopening : inputs.openingPosition.Fits ambient) (hfigures : FiguresAtMost figures figures')
    (h : fundingAnswer inputs figures = .ok answer)
    (h' : fundingAnswer (inputs.withInflow before after inflow) figures' = .ok answer') :
    NoWorse answer.disposition answer'.disposition answer.fundedAt answer'.fundedAt := by
  have h := fundingAnswer_answers h
  have h' := fundingAnswer_answers h'
  have hsplit : fundingAnswers inputs figures = [answerUnrecognised inputs,
      answerObligationClass inputs, answerClearingFund inputs figures] ++
        answerCap inputs figures :: ([answerAwaiting inputs, answerCorrespondent inputs] ++
          lateAnswers inputs figures) := rfl
  have hsplit' : fundingAnswers (inputs.withInflow before after inflow) figures' =
      [answerUnrecognised inputs, answerObligationClass inputs,
        answerClearingFund inputs figures] ++
        answerCap (inputs.withInflow before after inflow) figures' ::
          ([answerAwaiting inputs, answerCorrespondent inputs] ++
            lateAnswers (inputs.withInflow before after inflow) figures') := by
    have hclearing : answerClearingFund (inputs.withInflow before after inflow) figures' =
        answerClearingFund inputs figures := by
      rw [answerClearingFund, answerClearingFund, hfigures.clearing]
      rfl
    rw [← hclearing]
    rfl
  rw [hsplit] at h
  rw [hsplit'] at h'
  obtain rfl | ⟨h, h'⟩ := Outcome.answers_append h h'
  · exact .refl _ _
  rw [Outcome.answers_cons] at h h'
  obtain hcap' | ⟨hkept', h'⟩ := h'
  · -- a breach of the second cap is one of the first
    obtain ⟨hbreach', heq'⟩ := answerCap_eq_some hcap'
    have hbreach := hfigures.headroom.lt_of_lt hbreach'
    obtain hcap | ⟨hkept, -⟩ := h
    · have heq := (answerCap_eq_some hcap).2
      exact .of_refused (.inr heq) fun _ => heq
    · cases hstated : inputs.netDebitCap with
      | none =>
        have hstated' : (inputs.withInflow before after inflow).netDebitCap = none := hstated
        rw [answerCap, hstated'] at hcap'
        cases hcap'
      | some cap =>
        have hnot := answerCap_eq_none.mp hkept cap hstated
        rw [hbreach] at hnot
        cases hnot
  obtain hcap | ⟨-, h⟩ := h
  · have heq := (answerCap_eq_some hcap).2
    exact .of_refused (.inr heq) fun _ => heq
  obtain rfl | ⟨h, h'⟩ := Outcome.answers_append h h'
  · exact .refl _ _
  · exact noWorse_of_late hflows hamount hopening hfigures h h'

end Decision

/-! ## The claim on two projections -/

/-- One more inflow does not worsen the projection. -/
theorem noWorse_of_inflow {inputs : FundingInputs} {before after : List CashFlow}
    {inflow : CashFlow} {projection projection' : FundingProjection}
    (hflows : inputs.flows = before ++ after) (hcommitted : inflow.committed = true)
    (hamount : Decimal.le 0 inflow.amount = .ok true)
    (hopening : inputs.openingPosition.Fits ambient)
    (h : projectFunding inputs = .ok projection)
    (h' : projectFunding (inputs.withInflow before after inflow) = .ok projection') :
    NoWorse projection.disposition projection'.disposition projection.fundedAtOffsetSeconds
      projection'.fundedAtOffsetSeconds := by
  obtain ⟨figures, answer, hfigures, hanswer, hdisposition, hat, -⟩ := exists_figures h
  obtain ⟨figures', answer', hfigures', hanswer', hdisposition', hat', -⟩ := exists_figures h'
  rw [hdisposition, hdisposition', hat, hat']
  exact noWorse_of_answer hflows hamount hopening
    (figures_atMost hflows hcommitted hamount hopening hfigures hfigures') hanswer hanswer'

/-- The projection queues until an instant exactly when no check before the queue answers, there is a
shortfall at settlement, and the instant is the least one from settlement to the close that covers
the obligation. And one more committed inflow that is not negative, anywhere among the flows, leaves
what is funded funded, introduces no breach of the cap, and queues for no longer. -/
theorem funding_arrival :
    (∀ (inputs : FundingInputs) (projection : FundingProjection) (t : ℤ),
      projectFunding inputs = .ok projection →
        (projection.disposition = .willQueue ∧ projection.fundedAtOffsetSeconds = some t ↔
          ReachesQueue inputs projection.clearingFundSufficient projection.netDebitCapHeadroom
            projection.shortfall ∧ IsLeast inputs.arrivals t)) ∧
    ∀ (inputs : FundingInputs) (before after : List CashFlow) (inflow : CashFlow)
      (projection projection' : FundingProjection), inputs.flows = before ++ after →
        inflow.committed = true → Decimal.le 0 inflow.amount = .ok true →
          inputs.openingPosition.Fits ambient → projectFunding inputs = .ok projection →
            projectFunding (inputs.withInflow before after inflow) = .ok projection' →
              NoWorse projection.disposition projection'.disposition
                projection.fundedAtOffsetSeconds projection'.fundedAtOffsetSeconds :=
  ⟨fun _ _ t h => queues_iff h t, fun _ _ _ _ _ _ hflows hcommitted hamount hopening h h' =>
    noWorse_of_inflow hflows hcommitted hamount hopening h h'⟩

/-! ### Ten that arrive after settlement -/

/-- Ten owed after a minute, with nothing there, and ten that arrive a minute later. -/
def arrivingTen (requirement : Decimal) : FundingInputs where
  openingPosition := 0
  obligation := 10
  finalityClass := .member .grossFinal
  settlementOffsetSeconds := 60
  flows := [{ offsetSeconds := 120, amount := 10, label := "arriving" }]
  clearingFundRequirement := requirement

theorem arrivingTen_least (requirement : Decimal) :
    IsLeast (arrivingTen requirement).arrivals 120 := by
  have hfound : firstFundedOffset (arrivingTen requirement)
      (fundingOffsets (arrivingTen requirement)) = .ok (some 120) := rfl
  exact ((arrivingTen requirement).firstFundedOffset_eq_some_iff hfound).mp rfl

theorem arrivingTen_short (requirement : Decimal) : (arrivingTen requirement).Short 60 :=
  ⟨0, rfl, rfl⟩

theorem funding_arrival_ten : ∃ projection projection',
    projectFunding (arrivingTen 0) = .ok projection ∧
      projectFunding ((arrivingTen 0).withInflow [] (arrivingTen 0).flows
        { offsetSeconds := 90, amount := 10, label := "sooner" }) = .ok projection' ∧
      (projection.disposition = .willQueue ∧ projection.fundedAtOffsetSeconds = some 120 ↔
        ReachesQueue (arrivingTen 0) projection.clearingFundSufficient
          projection.netDebitCapHeadroom projection.shortfall ∧
        IsLeast (arrivingTen 0).arrivals 120) ∧
      NoWorse projection.disposition projection'.disposition projection.fundedAtOffsetSeconds
        projection'.fundedAtOffsetSeconds := by
  obtain ⟨projection, h, -⟩ : ∃ projection, projectFunding (arrivingTen 0) = .ok projection ∧
      projection.disposition = .willQueue := Outcome.map_eq_ok.mp (by decide +kernel)
  obtain ⟨projection', h', -⟩ : ∃ projection, projectFunding ((arrivingTen 0).withInflow []
      (arrivingTen 0).flows { offsetSeconds := 90, amount := 10, label := "sooner" }) =
        .ok projection ∧ projection.disposition = .willQueue :=
    Outcome.map_eq_ok.mp (by decide +kernel)
  have hopening : (arrivingTen 0).openingPosition.Fits ambient := by
    rintro d hd
    cases hd
    rw [FiniteDecimal.value_zero]
    exact DecimalContext.represents_zero ambient
  exact ⟨projection, projection', h, h', funding_arrival.1 _ _ 120 h,
    funding_arrival.2 _ [] _ _ _ _ rfl rfl (by decide) hopening h h'⟩

/-- A position of twenty-nine digits, owed in full. -/
def twentyNineDigits : FundingInputs where
  openingPosition := .finite ⟨false, 10 ^ 28 + 1, 0⟩
  obligation := .finite ⟨false, 10 ^ 28 + 1, 0⟩
  finalityClass := .member .grossFinal
  settlementOffsetSeconds := 30

/-- A clearing fund that is short answers before the queue; and an inflow of zero rounds an opening
position of twenty-nine digits down. -/
theorem funding_arrival_not_unconditional :
    (¬ ∀ (inputs : FundingInputs) (projection : FundingProjection) (t : ℤ),
      projectFunding inputs = .ok projection →
        (projection.disposition = .willQueue ∧ projection.fundedAtOffsetSeconds = some t ↔
          (inputs.finalityClass = .member .grossFinal ∧
            ¬ inputs.Covers inputs.settlementOffsetSeconds) ∧ IsLeast inputs.arrivals t)) ∧
    ¬ ∀ (inputs : FundingInputs) (before after : List CashFlow) (inflow : CashFlow)
      (projection projection' : FundingProjection), inputs.flows = before ++ after →
        inflow.committed = true → Decimal.le 0 inflow.amount = .ok true →
          projectFunding inputs = .ok projection →
            projectFunding (inputs.withInflow before after inflow) = .ok projection' →
              projection.disposition = .funded → projection'.disposition = .funded := by
  constructor
  · intro hqueues
    obtain ⟨projection, h, hdeficient⟩ : ∃ projection, projectFunding (arrivingTen 5) =
        .ok projection ∧ projection.disposition = .clearingFundDeficient :=
      Outcome.map_eq_ok.mp (by decide +kernel)
    have hqueue := (hqueues _ projection 120 h).mpr
      ⟨⟨rfl, (arrivingTen_short 5).not_covers⟩, arrivingTen_least 5⟩
    rw [hdeficient] at hqueue
    cases hqueue.1
  · intro hstays
    obtain ⟨projection, h, hfunded⟩ : ∃ projection, projectFunding twentyNineDigits =
        .ok projection ∧ projection.disposition = .funded :=
      Outcome.map_eq_ok.mp (by decide +kernel)
    obtain ⟨projection', h', hfail⟩ : ∃ projection, projectFunding (twentyNineDigits.withInflow [] []
        { offsetSeconds := 0, amount := 0, label := "nothing" }) = .ok projection ∧
          projection.disposition = .willFail := Outcome.map_eq_ok.mp (by decide +kernel)
    have hstill := hstays twentyNineDigits [] [] _ projection projection' rfl rfl (by decide) h h'
      hfunded
    rw [hfail] at hstill
    cases hstill

end Atreides
