import Atreides.Rails.FundingHeadroom

/-!
# Flows of one instant

The ladder and the deepest point are running sums in the order of offsets and labels. Flows of
one instant are added one by one, so the label of a flow decides how deep the sum goes between two
of them. Where the sums are exact, everything else the projection reports depends on the amounts and
their instants alone, and the order shows exactly where the outflows of some instant, taken before
its inflows, go deeper than every position between two instants.

## Main definitions

* `SameFlows` — inputs with the same flows in another order and under other labels
* `fundingReading` — what a projection reports
* `FundingOrderFree` — the report does not depend on the order and the labels
* `FundingInputs.TiesHarmless` — the condition on the inputs

## Main results

* `fundingOrderFree_iff` — exactly when the order does not show
-/

namespace Atreides

open DecimalContext (ambient)

/-- A flow without its label. -/
def CashFlow.unlabelled (flow : CashFlow) : CashFlow := { flow with label := "" }

/-- The same flows in another order and under other labels, and the same otherwise. -/
structure SameFlows (inputs inputs' : FundingInputs) : Prop where
  flows : (inputs.flows.map CashFlow.unlabelled).Perm (inputs'.flows.map CashFlow.unlabelled)
  rest : inputs' = { inputs with flows := inputs'.flows }

/-- What a projection reports: the disposition, the shortfall, the headroom, the deepest point and
when funding arrives. -/
structure FundingReading where
  disposition : FundingDisposition
  shortfall : ℚ
  headroom : ℚ
  trough : ℚ
  fundedAt : Option ℤ
  deriving DecidableEq

/-- What the projection of some inputs reports. -/
def fundingReading (inputs : FundingInputs) : Outcome FundingReading := do
  let projection ← projectFunding inputs
  let ladder ← buildLadder inputs
  .ok { disposition := projection.disposition
        shortfall := projection.shortfall.exact
        headroom := projection.netDebitCapHeadroom.exact
        trough := ladder.2.exact
        fundedAt := projection.fundedAtOffsetSeconds }

/-- The report does not depend on the order of the flows and their labels. -/
def FundingOrderFree (inputs : FundingInputs) : Prop :=
  ∀ inputs', SameFlows inputs inputs' →
    (fundingReading inputs').toOption = (fundingReading inputs).toOption

/-! ## What the order leaves -/

namespace SameFlows

variable {inputs inputs' : FundingInputs}

/-- What is read of the flows without their labels does not depend on the order. -/
theorem filter_map_perm (h : SameFlows inputs inputs') {β : Type} (p : CashFlow → Bool)
    (f : CashFlow → β) (hp : ∀ flow : CashFlow, p flow.unlabelled = p flow)
    (hf : ∀ flow : CashFlow, f flow.unlabelled = f flow) :
    ((inputs.flows.filter p).map f).Perm ((inputs'.flows.filter p).map f) := by
  have hread : ∀ flows : List CashFlow,
      ((flows.map CashFlow.unlabelled).filter p).map f = (flows.filter p).map f := by
    intro flows
    rw [List.filter_map, List.map_map]
    have hpu : p ∘ CashFlow.unlabelled = p := funext hp
    have hfu : f ∘ CashFlow.unlabelled = f := funext hf
    rw [hpu, hfu]
  have hperm := (h.flows.filter p).map f
  rwa [hread, hread] at hperm

theorem opening (h : SameFlows inputs inputs') : inputs'.openingPosition = inputs.openingPosition := by
  rw [h.rest]

theorem obligation (h : SameFlows inputs inputs') : inputs'.obligation = inputs.obligation := by
  rw [h.rest]

theorem settlement (h : SameFlows inputs inputs') :
    inputs'.settlementOffsetSeconds = inputs.settlementOffsetSeconds := by
  rw [h.rest]

theorem close (h : SameFlows inputs inputs') :
    inputs'.windowCloseOffsetSeconds = inputs.windowCloseOffsetSeconds := by
  rw [h.rest]

theorem cap (h : SameFlows inputs inputs') : inputs'.netDebitCap = inputs.netDebitCap := by
  rw [h.rest]

theorem position (h : SameFlows inputs inputs') (offset : ℤ) :
    inputs'.position offset = inputs.position offset := by
  rw [FundingInputs.position, FundingInputs.position, h.opening]
  congr 1
  exact (h.filter_map_perm (fun flow => flow.offsetSeconds ≤ offset && flow.committed)
    (fun flow => flow.amount.exact) (fun _ => rfl) fun _ => rfl).symm.sum_eq

theorem settled (h : SameFlows inputs inputs') : inputs'.settled = inputs.settled := by
  rw [FundingInputs.settled, FundingInputs.settled, h.settlement, h.position, h.obligation]

theorem landings (h : SameFlows inputs inputs') :
    (inputs'.landings.map FundingInputs.timed).Perm (inputs.landings.map FundingInputs.timed) := by
  have hlanding : ∀ (close : Option ℤ) (flow : CashFlow),
      (FundingInputs.landing close flow.unlabelled).map FundingInputs.timed =
        (FundingInputs.landing close flow).map FundingInputs.timed := by
    intro close flow
    cases close with
    | none => rfl
    | some close =>
      by_cases hoffset : flow.offsetSeconds ≤ close
      · simp [FundingInputs.landing, CashFlow.unlabelled, FundingInputs.timed, hoffset]
      · by_cases hleaves : (!flow.offsetIsCertain) = true ∧ flow.amount.exact < 0
        · simp [FundingInputs.landing, CashFlow.unlabelled, FundingInputs.timed, hoffset, hleaves]
        · have hoffset' : ¬ flow.unlabelled.offsetSeconds ≤ close := hoffset
          have hleaves' : ¬ ((!flow.unlabelled.offsetIsCertain) = true ∧
              flow.unlabelled.amount.exact < 0) := hleaves
          simp only [FundingInputs.landing, if_neg hoffset, if_neg hoffset', if_neg hleaves,
            if_neg hleaves']
  have hperm := h.filter_map_perm CashFlow.committed
    (fun flow => (FundingInputs.landing inputs.windowCloseOffsetSeconds flow).map
      FundingInputs.timed) (fun _ => rfl) (hlanding _)
  have hflat := hperm.symm.flatten
  rw [FundingInputs.landings, FundingInputs.landings, h.close]
  simp only [List.map_flatMap]
  rwa [← List.flatMap_def, ← List.flatMap_def] at hflat

theorem exact (h : SameFlows inputs inputs') (hexact : inputs.Exact) : inputs'.Exact := by
  have hall := h.filter_map_perm (fun _ => true) (fun flow => flow.amount) (fun _ => rfl)
    fun _ => rfl
  rw [List.filter_true, List.filter_true] at hall
  refine ⟨h.opening ▸ hexact.opening, h.obligation ▸ hexact.obligation, ?_, ?_, ?_⟩
  · intro cap hcap
    exact hexact.cap cap (h.cap ▸ hcap)
  · intro flow hflow
    have hmem := hall.mem_iff.mpr (List.mem_map_of_mem (f := fun flow => flow.amount) hflow)
    obtain ⟨flow', hflow', heq⟩ := List.mem_map.mp hmem
    rw [← heq]
    exact hexact.flows flow' hflow'
  · refine hexact.sums.perm ?_
    rw [FundingInputs.summands, FundingInputs.summands, h.opening, h.obligation, h.cap]
    refine List.Perm.cons _ (List.Perm.cons _ (List.Perm.append_left _ ?_))
    have := hall.symm.map Decimal.exact
    rwa [List.map_map, List.map_map] at this

theorem offsets (h : SameFlows inputs inputs') : fundingOffsets inputs' = fundingOffsets inputs := by
  rw [fundingOffsets, fundingOffsets, h.settlement]
  congr 1
  apply sortedSet_congr
  intro offset
  have hperm := h.filter_map_perm CashFlow.committed CashFlow.offsetSeconds (fun _ => rfl)
    fun _ => rfl
  simp only [List.mem_append, hperm.mem_iff]

end SameFlows

/-! ## The deepest point under every order -/

namespace FundingInputs

variable (inputs : FundingInputs)

/-- A position between two instants: the opening, the one after an instant, or the one after
settlement. -/
def Between (x : ℚ) : Prop :=
  x = inputs.openingPosition.exact ∨ x = inputs.settled ∨
    ∃ f ∈ inputs.landings, x = inputs.openingPosition.exact + landed (inputs.landings.map timed) f.1

/-- With the outflows of an instant alone, no position is deeper than every position between two
instants. -/
def TiesHarmless : Prop :=
  ∀ f ∈ inputs.landings, ∃ x, inputs.Between x ∧ x ≤ inputs.openingPosition.exact +
    (landedBefore (inputs.landings.map timed) f.1 + leaving (inputs.landings.map timed) f.1)

theorem deepest_le_between {x : ℚ} (h : inputs.Between x) : inputs.deepest ≤ x := by
  obtain rfl | rfl | ⟨f, -, rfl⟩ := h
  · exact inputs.deepest_le_looked (.inl ⟨[], List.nil_prefix, by simp⟩)
  · exact inputs.deepest_le_looked (.inr rfl)
  · have hlowest := lowest_le_landed inputs.ordered_pairwise inputs.openingPosition.exact f.1
    rw [landed_perm ((ordered_perm inputs).map timed), List.map_map] at hlowest
    exact (min_le_left _ _).trans hlowest

theorem between_landedBefore (t : ℤ) :
    inputs.Between (inputs.openingPosition.exact +
      landedBefore (inputs.landings.map timed) t) := by
  have hperm := (ordered_perm inputs).map timed
  obtain hzero | ⟨f, hf, heq⟩ := landedBefore_eq_landed inputs.ordered_pairwise t
  · rw [landedBefore_perm hperm] at hzero
    exact .inl (by rw [hzero, add_zero])
  · rw [landedBefore_perm hperm, landed_perm hperm] at heq
    obtain ⟨g, hg, rfl⟩ := List.mem_map.mp (hperm.mem_iff.mp hf)
    exact .inr (.inr ⟨g, hg, by rw [heq]; rfl⟩)

/-- The deepest point is between two instants, or deeper by what leaves at one. -/
theorem exists_deepest_instant :
    inputs.Between inputs.deepest ∨ ∃ f ∈ inputs.landings, inputs.openingPosition.exact +
      (landedBefore (inputs.landings.map timed) f.1 + leaving (inputs.landings.map timed) f.1) ≤
        inputs.deepest := by
  have hperm := (ordered_perm inputs).map timed
  obtain ⟨flows, hflows, heq⟩ | heq := inputs.looked_deepest
  · obtain rfl | hne := eq_or_ne flows []
    · exact .inl (.inl (by simpa using heq))
    · right
      obtain ⟨f, hf, hle⟩ := exists_instant_of_prefix inputs.ordered_pairwise (hflows.map timed)
        (by simpa using hne)
      obtain ⟨g, hg, rfl⟩ := List.mem_map.mp (hperm.mem_iff.mp hf)
      refine ⟨g, hg, ?_⟩
      rw [landedBefore_perm hperm, leaving_perm hperm, List.map_map] at hle
      rw [heq]
      exact add_le_add_right hle _
  · exact .inl (.inr (.inl heq))

/-- Where ties are harmless, the deepest point is between two instants. -/
theorem TiesHarmless.exists_between_le {inputs : FundingInputs} (h : inputs.TiesHarmless) :
    ∃ x, inputs.Between x ∧ x ≤ inputs.deepest := by
  obtain hbetween | ⟨f, hf, hle⟩ := inputs.exists_deepest_instant
  · exact ⟨_, hbetween, le_rfl⟩
  · obtain ⟨x, hx, hxle⟩ := h f hf
    exact ⟨x, hx, hxle.trans hle⟩

end FundingInputs

section Orders

variable {inputs inputs' : FundingInputs}

theorem SameFlows.between (h : SameFlows inputs inputs') {x : ℚ} :
    inputs'.Between x ↔ inputs.Between x := by
  have hmem : ∀ (P : ℤ → Prop), (∃ f ∈ inputs'.landings, P f.1) ↔ ∃ f ∈ inputs.landings, P f.1 := by
    intro P
    constructor
    · rintro ⟨f, hf, hP⟩
      obtain ⟨g, hg, heq⟩ := List.mem_map.mp (h.landings.mem_iff.mp (List.mem_map_of_mem hf))
      have htime := congrArg Prod.fst heq
      change g.1 = f.1 at htime
      exact ⟨g, hg, htime ▸ hP⟩
    · rintro ⟨f, hf, hP⟩
      obtain ⟨g, hg, heq⟩ := List.mem_map.mp (h.landings.mem_iff.mpr (List.mem_map_of_mem hf))
      have htime := congrArg Prod.fst heq
      change g.1 = f.1 at htime
      exact ⟨g, hg, htime ▸ hP⟩
  rw [FundingInputs.Between, FundingInputs.Between, h.opening, h.settled]
  simp only [landed_perm h.landings]
  rw [hmem fun t => x = inputs.openingPosition.exact +
    landed (inputs.landings.map FundingInputs.timed) t]

theorem SameFlows.tiesHarmless (h : SameFlows inputs inputs') (hties : inputs.TiesHarmless) :
    inputs'.TiesHarmless := by
  intro f hf
  obtain ⟨g, hg, heq⟩ := List.mem_map.mp (h.landings.mem_iff.mp (List.mem_map_of_mem hf))
  have htime := congrArg Prod.fst heq
  change g.1 = f.1 at htime
  obtain ⟨x, hx, hle⟩ := hties g hg
  refine ⟨x, h.between.mpr hx, ?_⟩
  rwa [h.opening, landedBefore_perm h.landings, leaving_perm h.landings, ← htime]

/-- Where ties are harmless, every order has one deepest point. -/
theorem SameFlows.deepest (h : SameFlows inputs inputs') (hties : inputs.TiesHarmless) :
    inputs'.deepest = inputs.deepest := by
  obtain ⟨x, hx, hle⟩ := hties.exists_between_le
  obtain ⟨y, hy, hle'⟩ := (h.tiesHarmless hties).exists_between_le
  apply le_antisymm
  · exact (inputs'.deepest_le_between (h.between.mpr hx)).trans hle
  · exact (inputs.deepest_le_between (h.between.mp hy)).trans hle'

end Orders

/-! ## The report of exact figures -/

namespace FundingInputs

variable {inputs : FundingInputs}

/-- What the shortfall is. -/
def short (inputs : FundingInputs) : ℚ := max 0 (-inputs.settled)

/-- What the headroom is: none is needed where there is no cap. -/
def headroom (inputs : FundingInputs) : ℚ :=
  match inputs.netDebitCap with
  | none => 0
  | some cap => cap.exact + min inputs.deepest 0

/-- The figures are the exact ones. -/
structure ExactFigures (inputs : FundingInputs) (figures : FundingFigures) : Prop where
  trough : figures.trough.HasValue inputs.deepest
  shortfall : figures.shortfall.HasValue inputs.short
  headroom : figures.headroom.HasValue inputs.headroom
  committed : figures.committed.HasValue (inputs.position inputs.settlementOffsetSeconds)
  clearing : inputs.clearingFundSufficient = .ok figures.clearingFundSufficient

/-- The ladder adds up what the context holds. -/
theorem ladderSteps_exact {flows : List CashFlow} :
    ∀ {running : Decimal} {points : List LadderPoint} {prior : List ℚ},
      running.HasValue prior.sum → (∀ flow ∈ flows, flow.amount.isFinite = true) →
        ExactSums ambient (prior ++ flows.map fun flow => flow.amount.exact) →
          Outcome.Returns (Outcome.foldSteps ladderStep (running, points) flows) := by
  induction flows with
  | nil =>
    intro running points prior _ _ _
    exact ⟨_, rfl⟩
  | cons flow rest ih =>
    intro running points prior hrunning hfinite h
    have hlist : prior ++ (flow :: rest).map (fun flow => flow.amount.exact) =
        prior ++ [flow.amount.exact] ++ rest.map fun flow => flow.amount.exact := by simp
    rw [hlist] at h
    have hsum : prior.sum + flow.amount.exact = (prior ++ [flow.amount.exact]).sum := by simp
    obtain ⟨position, hposition, hvalue⟩ := hrunning.add
      (Decimal.hasValue_of_isFinite (hfinite flow List.mem_cons_self))
      (hsum ▸ h.append_left.represents)
    rw [Outcome.foldSteps_cons, ladderStep, hposition]
    exact ih (hsum ▸ hvalue) (fun other hother => hfinite other (List.mem_cons_of_mem _ hother)) h

theorem Exact.buildLadder_exact (h : inputs.Exact) :
    ∃ ladder trough, buildLadder inputs = .ok (ladder, trough) ∧
      trough.HasValue inputs.deepest := by
  have hperm : (committedInOrder inputs.flows).Perm (inputs.flows.filter CashFlow.committed) :=
    (List.perm_insertionSort _ _).filter _
  obtain ⟨⟨running, points⟩, hpoints⟩ := @ladderSteps_exact (committedInOrder inputs.flows)
    inputs.openingPosition [⟨0, inputs.openingPosition, "opening position"⟩]
    [inputs.openingPosition.exact]
    (by simpa using Decimal.hasValue_of_isFinite h.opening)
    (fun flow hflow => h.flows flow (List.mem_of_mem_filter (hperm.mem_iff.mp hflow))) (by
      apply h.sums.subperm
      refine List.Subperm.trans ?_ (summands_flows_sublist inputs).subperm
      refine ((hperm.map _).cons _).subperm.trans (List.Sublist.subperm ?_)
      exact ((List.filter_sublist).map _).cons_cons _)
  obtain ⟨settlePos, hsettle, hvalue⟩ := h.committed_exact inputs.settlementOffsetSeconds
  obtain ⟨settled, hsettled, -⟩ := h.settled_exact hvalue
  obtain ⟨trough, htrough, hdeepest⟩ := h.capTrough_exact hvalue
  have hladder : ∃ ladder, buildLadder inputs = .ok (ladder, trough) := by
    rw [buildLadder, hpoints, Outcome.ok_bind]
    simp only [hsettle, hsettled, htrough, Outcome.ok_bind]
    exact ⟨_, rfl⟩
  obtain ⟨ladder, hladder⟩ := hladder
  exact ⟨ladder, trough, hladder, hdeepest⟩

/-- Where the sums are exact the projection has its figures. -/
theorem Exact.exists_figures (h : inputs.Exact) {sufficient : Bool}
    (hclearing : inputs.clearingFundSufficient = .ok sufficient) :
    ∃ figures, fundingFigures inputs = .ok figures ∧ inputs.ExactFigures figures := by
  obtain ⟨ladder, trough, hladder, hdeepest⟩ := h.buildLadder_exact
  obtain ⟨committed, hcommitted, hvalue⟩ := h.committed_exact inputs.settlementOffsetSeconds
  obtain ⟨optimistic, hoptimistic, -⟩ := h.positionAt_exact inputs.settlementOffsetSeconds false
  have hobligation := Decimal.hasValue_of_isFinite h.obligation
  have hshort : ∃ r, shortfallOf inputs.obligation committed = .ok r ∧
      r.HasValue inputs.short := by
    have hrepresents : ambient.Represents
        (inputs.obligation.exact - inputs.position inputs.settlementOffsetSeconds) := by
      rw [← neg_sub]
      exact h.represents_settled.neg
    obtain ⟨difference, hdifference, hdifferenceValue⟩ := hobligation.sub hvalue hrepresents
    obtain ⟨r, hr, hrvalue⟩ := Decimal.HasValue.zero.max hdifferenceValue
    refine ⟨r, ?_, ?_⟩
    · rw [shortfallOf, hdifference]
      exact hr
    · rwa [short, settled, neg_sub]
  have hheadroom : ∃ r, headroomOf inputs trough = .ok r ∧ r.HasValue inputs.headroom := by
    cases hcap : inputs.netDebitCap with
    | none =>
      refine ⟨0, by rw [headroomOf, hcap], ?_⟩
      rw [headroom, hcap]
      exact .zero
    | some cap =>
      obtain ⟨lower, hlower, hlowerValue⟩ := hdeepest.min .zero
      obtain ⟨r, hr, hrvalue⟩ := (Decimal.hasValue_of_isFinite (h.cap cap hcap)).add hlowerValue
        (h.represents_headroom hcap)
      refine ⟨r, ?_, ?_⟩
      · rw [headroomOf, hcap]
        simp only [hlower, Outcome.ok_bind, hr]
      · rwa [headroom, hcap]
  obtain ⟨shortfall, hshortfall, hshortfallValue⟩ := hshort
  obtain ⟨headroom, hheadroom, hheadroomValue⟩ := hheadroom
  refine ⟨⟨ladder, trough, committed, optimistic, shortfall, headroom, sufficient⟩, ?_,
    hdeepest, hshortfallValue, hheadroomValue, hvalue, hclearing⟩
  simp only [fundingFigures, hladder, hcommitted, hoptimistic, hshortfall, hheadroom, hclearing,
    Outcome.ok_bind]

end FundingInputs

/-! ## The decision on exact figures -/

/-- What of an answer the projection reports. -/
def FundingAnswer.verdict (answer : FundingAnswer) : FundingDisposition × Option ℤ :=
  (answer.disposition, answer.fundedAt)

section Decisions

variable {inputs inputs' : FundingInputs} {figures figures' : FundingFigures}

theorem answerIf_verdict (condition : Bool) (disposition : FundingDisposition)
    (rationale rationale' : String) :
    Option.map FundingAnswer.verdict <$> answerIf condition disposition rationale =
      Option.map FundingAnswer.verdict <$> answerIf condition disposition rationale' := by
  cases condition with
  | true => rfl
  | false => rfl

theorem buildFunded_verdict (inputs : FundingInputs) (flows : List CashFlow)
    (rationale rationale' : String) :
    (buildFunded { inputs with flows } rationale).verdict =
      (buildFunded inputs rationale').verdict := by
  rw [buildFunded, buildFunded]
  have hqualified : ({ inputs with flows } : FundingInputs).isQualified = inputs.isQualified := rfl
  rw [hqualified]
  split_ifs
  · rfl
  · rfl

/-- Flows of the same instants fund the obligation at one offset. -/
theorem SameFlows.firstFundedOffset (h : SameFlows inputs inputs') (hexact : inputs.Exact)
    (offsets : List ℤ) : firstFundedOffset inputs' offsets = firstFundedOffset inputs offsets := by
  induction offsets with
  | nil => rfl
  | cons offset rest ih =>
    have hobligation := Decimal.hasValue_of_isFinite hexact.obligation
    obtain ⟨position, hposition, hvalue⟩ := hexact.committed_exact offset
    obtain ⟨position', hposition', hvalue'⟩ := (h.exact hexact).committed_exact offset
    rw [h.position] at hvalue'
    rw [Atreides.firstFundedOffset, Atreides.firstFundedOffset, hposition, hposition', h.close,
      h.obligation]
    simp only [Outcome.ok_bind, hobligation.le hvalue, hobligation.le hvalue', ih]

/-- What is reported of a decision is reported of its checks and of the last one. -/
theorem fundingAnswer_map_congr
    (hchecks : List.Forall₂ (fun x y =>
      Option.map FundingAnswer.verdict <$> x = Option.map FundingAnswer.verdict <$> y)
      (fundingAnswers inputs' figures') (fundingAnswers inputs figures))
    (hgross : FundingAnswer.verdict <$> answerGross inputs' figures' =
      FundingAnswer.verdict <$> answerGross inputs figures) :
    FundingAnswer.verdict <$> fundingAnswer inputs' figures' =
      FundingAnswer.verdict <$> fundingAnswer inputs figures := by
  have hfirst := Outcome.firstAnswer_map_congr hchecks
  rw [fundingAnswer, fundingAnswer]
  cases hx : Outcome.firstAnswer (fundingAnswers inputs' figures') with
  | error e =>
    cases hy : Outcome.firstAnswer (fundingAnswers inputs figures) with
    | error e' =>
      rw [hx, hy] at hfirst
      cases hfirst
      rfl
    | ok answer =>
      rw [hx, hy] at hfirst
      cases hfirst
  | ok answer =>
    cases hy : Outcome.firstAnswer (fundingAnswers inputs figures) with
    | error e' =>
      rw [hx, hy] at hfirst
      cases hfirst
    | ok answer' =>
      rw [hx, hy] at hfirst
      have hanswers : answer.map FundingAnswer.verdict = answer'.map FundingAnswer.verdict :=
        Except.ok.inj hfirst
      rcases answer with _ | answer <;> rcases answer' with _ | answer'
      · exact hgross
      · cases hanswers
      · cases hanswers
      · exact congrArg Except.ok (Option.some.inj hanswers)

/-- The same flows with the same figures are decided alike. -/
theorem SameFlows.verdict (h : SameFlows inputs inputs') (hexact : inputs.Exact)
    (hfigures : inputs.ExactFigures figures) (hfigures' : inputs'.ExactFigures figures')
    (hdeepest : inputs'.deepest = inputs.deepest) :
    FundingAnswer.verdict <$> fundingAnswer inputs' figures' =
      FundingAnswer.verdict <$> fundingAnswer inputs figures := by
  have hshort : inputs'.short = inputs.short := by
    rw [FundingInputs.short, FundingInputs.short, h.settled]
  have hheadroom : inputs'.headroom = inputs.headroom := by
    rw [FundingInputs.headroom, FundingInputs.headroom, h.cap, hdeepest]
  have hposition' : inputs'.position inputs'.settlementOffsetSeconds =
      inputs.position inputs.settlementOffsetSeconds := by rw [h.settlement, h.position]
  have hgross : FundingAnswer.verdict <$> answerGross inputs' figures' =
      FundingAnswer.verdict <$> answerGross inputs figures := by
    rw [answerGross, answerGross, h.offsets, h.firstFundedOffset hexact]
    cases Atreides.firstFundedOffset inputs (fundingOffsets inputs) with
    | error e => rfl
    | ok found =>
      cases found with
      | none => rfl
      | some offset => rfl
  have hfinality : ∃ r r' v, positionAtFinality inputs' figures' = .ok r' ∧
      positionAtFinality inputs figures = .ok r ∧ r'.HasValue v ∧ r.HasValue v := by
    rw [positionAtFinality, positionAtFinality, h.close]
    cases inputs.windowCloseOffsetSeconds with
    | none => exact ⟨_, _, _, rfl, rfl, hposition' ▸ hfigures'.committed, hfigures.committed⟩
    | some close =>
      obtain ⟨r, hr, hvalue⟩ := hexact.committed_exact close
      obtain ⟨r', hr', hvalue'⟩ := (h.exact hexact).committed_exact close
      rw [h.position] at hvalue'
      exact ⟨r, r', _, hr', hr, hvalue', hvalue⟩
  obtain ⟨flows, rfl⟩ : ∃ flows, inputs' = { inputs with flows } := ⟨_, h.rest⟩
  have hclearing : figures'.clearingFundSufficient = figures.clearingFundSufficient :=
    Except.ok.inj (hfigures'.clearing.symm.trans hfigures.clearing)
  have hobligation := Decimal.hasValue_of_isFinite hexact.obligation
  have hchecks : List.Forall₂ (fun x y =>
      Option.map FundingAnswer.verdict <$> x = Option.map FundingAnswer.verdict <$> y)
      (fundingAnswers { inputs with flows } figures') (fundingAnswers inputs figures) := by
    refine .cons rfl (.cons rfl (.cons ?clearing (.cons ?cap (.cons rfl (.cons rfl
      (.cons ?covered (.cons ?deferred (.cons ?ledger .nil))))))))
    case clearing =>
      rw [answerClearingFund, answerClearingFund, hclearing]
    case cap =>
      rw [answerCap, answerCap]
      cases inputs.netDebitCap with
      | none => rfl
      | some cap =>
        simp only [hfigures.headroom.lt .zero, hfigures'.headroom.lt .zero, hheadroom,
          Outcome.ok_bind]
        exact answerIf_verdict _ _ _ _
    case covered =>
      rw [answerCovered, answerCovered, hfigures.shortfall.eq .zero, hfigures'.shortfall.eq .zero,
        hshort]
      simp only [Outcome.ok_bind]
      split_ifs
      · exact congrArg (fun verdict => Except.ok (some verdict)) (buildFunded_verdict _ _ _ _)
      · rfl
    case deferred =>
      obtain ⟨r, r', v, hr', hr, hvalue', hvalue⟩ := hfinality
      rw [answerDeferred, answerDeferred]
      simp only [hr, hr', Outcome.ok_bind, hobligation.le hvalue, hobligation.le hvalue']
      split_ifs
      · rfl
      · exact congrArg (fun verdict => Except.ok (some verdict)) (buildFunded_verdict _ _ _ _)
      · exact answerIf_verdict _ _ _ _
    case ledger => exact answerIf_verdict _ _ _ _
  exact fundingAnswer_map_congr hchecks hgross

end Decisions

/-! ## Inflows first and outflows first -/

namespace FundingInputs

variable (inputs : FundingInputs) (first : ℚ → Bool)

/-- The same flows, labelled so that at one instant those of some amounts come first. -/
def labelledFirst : FundingInputs :=
  { inputs with flows := inputs.flows.map fun flow =>
      { flow with label := if first flow.amount.exact then "0" else "1" } }

theorem sameFlows_labelledFirst : SameFlows inputs (inputs.labelledFirst first) := by
  refine ⟨?_, rfl⟩
  rw [labelledFirst, List.map_map]
  exact List.Perm.refl _

theorem label_of_mem_landings {f : ℤ × String × Decimal}
    (hf : f ∈ (inputs.labelledFirst first).landings) :
    f.2.1 = if first f.2.2.exact then "0" else "1" := by
  rw [landings, List.mem_flatMap] at hf
  obtain ⟨flow, hflow, hf⟩ := hf
  obtain ⟨flow, -, rfl⟩ := List.mem_map.mp (List.mem_of_mem_filter hflow)
  rw [eq_of_mem_landing hf]

/-- At one instant, the chosen amounts come first. -/
theorem labelledFirst_pairwise :
    ((inputs.labelledFirst first).ordered.map timed).Pairwise fun a b =>
      a.1 = b.1 → first b.2 = true → first a.2 = true := by
  rw [List.pairwise_map]
  have : Std.Total fun a b : ℤ × String × Decimal => comesBefore (a.1, a.2.1) (b.1, b.2.1) :=
    ⟨fun a b => comesBefore_total _ _⟩
  have : IsTrans (ℤ × String × Decimal) fun a b => comesBefore (a.1, a.2.1) (b.1, b.2.1) :=
    ⟨fun a b c => comesBefore_trans _ _ _⟩
  refine (List.pairwise_insertionSort (fun a b : ℤ × String × Decimal =>
    comesBefore (a.1, a.2.1) (b.1, b.2.1)) (inputs.labelledFirst first).landings).imp_of_mem ?_
  intro a b ha hb hab htime hfirst
  have hmem : ∀ f ∈ (inputs.labelledFirst first).ordered,
      f ∈ (inputs.labelledFirst first).landings := fun f hf => (ordered_perm _).mem_iff.mp hf
  have hlabel : a.2.1 ≤ b.2.1 := by
    obtain hlt | ⟨-, hle⟩ := hab
    · exact absurd htime hlt.ne
    · exact hle
  have hfirst' : first b.2.2.exact = true := hfirst
  rw [inputs.label_of_mem_landings first (hmem a ha),
    inputs.label_of_mem_landings first (hmem b hb), if_pos hfirst'] at hlabel
  by_contra hlater
  have hlater' : ¬ first a.2.2.exact = true := hlater
  rw [if_neg hlater'] at hlabel
  exact absurd hlabel (by decide)

/-- With the outflows first, the outflows of an instant are looked at alone. -/
theorem deepest_outflowsFirst_le (t : ℤ) :
    (inputs.labelledFirst (· < 0)).deepest ≤ inputs.openingPosition.exact +
      (landedBefore (inputs.landings.map timed) t + leaving (inputs.landings.map timed) t) := by
  set relabelled := inputs.labelledFirst (· < 0) with hrelabelled
  have hsame : SameFlows inputs relabelled := inputs.sameFlows_labelledFirst _
  have hlowest := lowest_le_leaving relabelled.ordered_pairwise
    ((inputs.labelledFirst_pairwise (· < 0)).imp fun h htime hout => by
      simpa using h htime (by simpa using hout)) relabelled.openingPosition.exact t
  have hperm := ((ordered_perm relabelled).map timed).trans hsame.landings
  rw [landedBefore_perm hperm, leaving_perm hperm, List.map_map, hsame.opening] at hlowest
  rw [deepest, hsame.opening]
  exact (min_le_left _ _).trans hlowest

/-- With the inflows first, the deepest point is no deeper than some position between two
instants. -/
theorem exists_between_le_inflowsFirst :
    ∃ x, inputs.Between x ∧ x ≤ (inputs.labelledFirst fun v => !(v < 0)).deepest := by
  set relabelled := inputs.labelledFirst fun v => !(v < 0) with hrelabelled
  have hsame : SameFlows inputs relabelled := inputs.sameFlows_labelledFirst _
  obtain ⟨flows, hflows, heq⟩ | heq := relabelled.looked_deepest
  · obtain rfl | hne := eq_or_ne flows []
    · exact ⟨_, .inl rfl, by rw [heq, hsame.opening]; simp⟩
    · obtain ⟨f, hf, hle⟩ := exists_level_of_prefix relabelled.ordered_pairwise
        ((inputs.labelledFirst_pairwise fun v => !(v < 0)).imp fun h htime hout => by
          by_contra hin
          have := h htime (by simpa using hin)
          simp [hout] at this)
        (hflows.map timed) (by simpa using hne)
      have hperm := ((ordered_perm relabelled).map timed).trans hsame.landings
      obtain ⟨g, hg, heqf⟩ := List.mem_map.mp (hperm.mem_iff.mp hf)
      rw [landedBefore_perm hperm, landed_perm hperm, List.map_map] at hle
      rw [heq, hsame.opening]
      obtain hle | hle := hle
      · exact ⟨_, inputs.between_landedBefore f.1, add_le_add_right hle _⟩
      · exact ⟨_, .inr (.inr ⟨g, hg, rfl⟩), by
          rw [show g.1 = f.1 from congrArg Prod.fst heqf]
          exact add_le_add_right hle _⟩
  · exact ⟨_, .inr (.inl rfl), by rw [heq, hsame.settled]⟩

/-- Where every order has one deepest point, ties are harmless. -/
theorem tiesHarmless_of_deepest
    (h : ∀ inputs', SameFlows inputs inputs' → inputs'.deepest = inputs.deepest) :
    inputs.TiesHarmless := by
  intro f _
  obtain ⟨x, hx, hle⟩ := inputs.exists_between_le_inflowsFirst
  refine ⟨x, hx, ?_⟩
  rw [h _ (inputs.sameFlows_labelledFirst _)] at hle
  have houtflows := inputs.deepest_outflowsFirst_le f.1
  rw [h _ (inputs.sameFlows_labelledFirst _)] at houtflows
  exact hle.trans houtflows

end FundingInputs

/-! ## The report and the order -/

section Report

variable {inputs inputs' : FundingInputs}

/-- What a projection with exact figures reports. -/
theorem fundingReading_exact (h : inputs.Exact) {sufficient : Bool}
    (hclearing : inputs.clearingFundSufficient = .ok sufficient) :
    ∃ figures, inputs.ExactFigures figures ∧ fundingFigures inputs = .ok figures ∧
      fundingReading inputs = (fun verdict => ⟨verdict.1, inputs.short, inputs.headroom,
        inputs.deepest, verdict.2⟩) <$> FundingAnswer.verdict <$> fundingAnswer inputs figures := by
  obtain ⟨figures, hfigures, hexact⟩ := h.exists_figures hclearing
  refine ⟨figures, hexact, hfigures, ?_⟩
  rw [fundingReading, projectFunding, hfigures, Outcome.ok_bind, (figures_of_ok hfigures).1]
  cases fundingAnswer inputs figures with
  | error e => rfl
  | ok answer =>
    simp only [Outcome.ok_bind, hexact.shortfall.exact_eq, hexact.headroom.exact_eq,
      hexact.trough.exact_eq]
    rfl

end Report

/-! ### An inflow and an outflow of one instant -/

/-- Five, and ten that arrive and leave in the same minute, under a cap of two. -/
def tiedTen (arriving parting : String) : FundingInputs where
  openingPosition := 5
  obligation := 5
  finalityClass := .member .grossFinal
  settlementOffsetSeconds := 3600
  flows := [{ offsetSeconds := 60, amount := 10, label := arriving },
    { offsetSeconds := 60, amount := .finite ⟨true, 10, 0⟩, label := parting }]
  netDebitCap := some 2

theorem tiedTen_exact : (tiedTen "in" "out").Exact := by
  have hten : Decimal.exact (.finite ⟨true, 10, 0⟩) = -10 := by
    norm_num [Decimal.exact, FiniteDecimal.value, FiniteDecimal.toInt]
  have hsummands : (tiedTen "in" "out").summands = [5, -5, 2, 10, -10] := by
    simp [FundingInputs.summands, tiedTen, hten]
  refine ⟨rfl, rfl, ?_, ?_, ?_⟩
  · intro cap hcap
    cases hcap
    rfl
  · intro flow hflow
    simp only [tiedTen, List.mem_cons, List.not_mem_nil, or_false] at hflow
    obtain rfl | rfl := hflow
    · rfl
    · rfl
  · rw [hsummands]
    refine @ExactSums.of_grid ambient _ 0 ?_ (by decide) (by decide) ?_
    · intro x hx
      simp only [List.mem_cons, List.not_mem_nil, or_false] at hx
      obtain rfl | rfl | rfl | rfl | rfl := hx
      · exact ⟨5, by norm_num⟩
      · exact ⟨-5, by norm_num⟩
      · exact ⟨2, by norm_num⟩
      · exact ⟨10, by norm_num⟩
      · exact ⟨-10, by norm_num⟩
    · norm_num [sumAbs, ambient]

end Atreides
