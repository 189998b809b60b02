import Mathlib.Data.Set.Finite.List
import Mathlib.Data.Set.Finite.Lemmas
import Mathlib.Tactic.Ring
import Atreides.Rails.FundingExact

/-!
# The headroom under the net debit cap

A net debit cap is kept when the deepest position of the day stays above it. The obligation leaves
at settlement and stays out, so what is committed to leave after it comes on top. The projection
looks at the running sums without the obligation, and at one position with it, the one of the
settlement itself. Its headroom is that of the deepest instant exactly when no instant after
settlement is deeper than what it looked at, and nothing it looked at is deeper than every instant.

## Main definitions

* `FundingInputs.level` — the position of an instant, the obligation taken out from settlement on
* `FundingInputs.Looked` — the positions the projection looks at
* `HeadroomSound` — the headroom is that of the deepest instant, and a breach of it is reported
* `FundingInputs.DepthSeen` — the condition on the inputs

## Main results

* `headroom_sound_iff` — exactly when the headroom is sound
-/

namespace Atreides

open DecimalContext (ambient)

namespace FundingInputs

variable (inputs : FundingInputs)

/-! ## Instants -/

/-- The instant is not after the close. -/
def InWindow (t : ℤ) : Prop := ∀ close ∈ inputs.windowCloseOffsetSeconds, t ≤ close

/-- The committed position of an instant, with the obligation taken out from settlement on. -/
def level (t : ℤ) : ℚ :=
  inputs.openingPosition.exact + landed (inputs.landings.map timed) t -
    if inputs.settlementOffsetSeconds ≤ t then inputs.obligation.exact else 0

/-- The positions of the instants of the window. -/
def levels : Set ℚ := {x | ∃ t, inputs.InWindow t ∧ inputs.level t = x}

/-- The levels are finitely many: each is a selection of what lands. -/
theorem levels_finite : inputs.levels.Finite := by
  have hselections : {ys : List (ℤ × ℚ) | ys.Sublist (inputs.landings.map timed)}.Finite := by
    refine ((inputs.landings.map timed).sublists.finite_toSet).subset fun ys hys => ?_
    exact List.mem_sublists.mpr hys
  have hout : ({inputs.obligation.exact, 0} : Set ℚ).Finite := Set.toFinite _
  refine ((hselections.prod hout).image fun p =>
    inputs.openingPosition.exact + (p.1.map Prod.snd).sum - p.2).subset ?_
  rintro _ ⟨t, -, rfl⟩
  refine ⟨(_, if inputs.settlementOffsetSeconds ≤ t then inputs.obligation.exact else 0),
    ⟨List.filter_sublist (p := fun f => decide (f.1 ≤ t)), ?_⟩, rfl⟩
  split_ifs <;> simp

/-- Some instant is the deepest one. -/
theorem exists_least_level : ∃ least, IsLeast inputs.levels least := by
  have hnonempty : inputs.levels.Nonempty := by
    refine ⟨_, inputs.windowCloseOffsetSeconds.getD 0, ?_, rfl⟩
    intro close hclose
    rw [Option.mem_def.mp hclose]
    exact le_rfl
  obtain ⟨least, hmem, hleast⟩ := Set.exists_min_image _ id inputs.levels_finite hnonempty
  exact ⟨least, hmem, fun x hx => hleast x hx⟩

/-! ## What the projection looks at -/

/-- A running sum of what lands in the window, in order, or the position after settlement. -/
def Looked (x : ℚ) : Prop :=
  (∃ flows, flows <+: inputs.ordered ∧
    x = inputs.openingPosition.exact + (flows.map fun f => f.2.2.exact).sum) ∨
    x = inputs.settled

theorem looked_deepest : inputs.Looked inputs.deepest := by
  rw [deepest]
  obtain hle | hle := le_total (lowest inputs.openingPosition.exact
    (inputs.ordered.map fun f => f.2.2.exact)) inputs.settled
  · rw [min_eq_left hle]
    obtain ⟨ys, hys, heq⟩ := exists_prefix_lowest inputs.openingPosition.exact
      (inputs.ordered.map fun f => f.2.2.exact)
    obtain ⟨flows, hflows, rfl⟩ := List.prefix_map_iff.mp hys
    exact .inl ⟨flows, hflows, heq⟩
  · rw [min_eq_right hle]
    exact .inr rfl

theorem deepest_le_looked {x : ℚ} (h : inputs.Looked x) : inputs.deepest ≤ x := by
  obtain ⟨flows, hflows, rfl⟩ | rfl := h
  · exact (min_le_left _ _).trans (lowest_le (hflows.map _))
  · exact min_le_right _ _

/-- What lands is ordered by its instants. -/
theorem ordered_pairwise : (inputs.ordered.map timed).Pairwise fun a b => a.1 ≤ b.1 := by
  rw [List.pairwise_map]
  have : Std.Total fun a b : ℤ × String × Decimal => comesBefore (a.1, a.2.1) (b.1, b.2.1) :=
    ⟨fun a b => comesBefore_total _ _⟩
  have : IsTrans (ℤ × String × Decimal) fun a b => comesBefore (a.1, a.2.1) (b.1, b.2.1) :=
    ⟨fun a b c => comesBefore_trans _ _ _⟩
  refine (List.pairwise_insertionSort (fun a b : ℤ × String × Decimal =>
    comesBefore (a.1, a.2.1) (b.1, b.2.1)) inputs.landings).imp fun hab => ?_
  obtain hlt | ⟨heq, -⟩ := hab
  · exact hlt.le
  · exact heq.le

/-- Before settlement, the level of an instant is no deeper than what the projection looks at. -/
theorem deepest_le_level {t : ℤ} (ht : ¬ inputs.settlementOffsetSeconds ≤ t) :
    inputs.deepest ≤ inputs.level t := by
  have hlowest := lowest_le_landed inputs.ordered_pairwise inputs.openingPosition.exact t
  rw [landed_perm ((ordered_perm inputs).map timed), List.map_map] at hlowest
  rw [level, if_neg ht, sub_zero]
  exact (min_le_left _ _).trans hlowest

/-- No instant after settlement is below zero and deeper than everything the projection looks at;
and nothing it looks at is below zero and deeper than every instant. -/
structure DepthSeen : Prop where
  after_settlement : ∀ t, inputs.InWindow t → inputs.settlementOffsetSeconds ≤ t →
    inputs.level t < 0 → ∃ x, inputs.Looked x ∧ x ≤ inputs.level t
  within_instants : ∀ x, inputs.Looked x → x < 0 → ∃ t, inputs.InWindow t ∧ inputs.level t ≤ x

/-- The deepest point looked at is as deep as the deepest instant exactly where the depth is
seen. -/
theorem deepest_eq_least_iff {least : ℚ} (h : IsLeast inputs.levels least) :
    min inputs.deepest 0 = min least 0 ↔ inputs.DepthSeen := by
  constructor
  · intro heq
    refine ⟨fun t ht _ hneg => ⟨_, inputs.looked_deepest, ?_⟩, fun x hx hneg => ?_⟩
    · have hle : min inputs.deepest 0 ≤ inputs.level t :=
        heq.trans_le ((min_le_left _ _).trans (h.2 ⟨t, ht, rfl⟩))
      obtain hle | hle := min_le_iff.mp hle
      · exact hle
      · exact absurd hneg hle.not_gt
    · obtain ⟨t, ht, hlevel⟩ := h.1
      have hle : min least 0 ≤ x :=
        heq.symm.trans_le ((min_le_left _ _).trans (inputs.deepest_le_looked hx))
      obtain hle | hle := min_le_iff.mp hle
      · exact ⟨t, ht, hlevel.trans_le hle⟩
      · exact absurd hneg hle.not_gt
  · intro hseen
    apply le_antisymm
    · refine le_min ?_ (min_le_right _ _)
      obtain ⟨t, ht, rfl⟩ := h.1
      by_cases hsettled : inputs.settlementOffsetSeconds ≤ t
      · obtain hneg | hpos := lt_or_ge (inputs.level t) 0
        · obtain ⟨x, hx, hle⟩ := hseen.after_settlement t ht hsettled hneg
          exact (min_le_left _ _).trans ((inputs.deepest_le_looked hx).trans hle)
        · exact (min_le_right _ _).trans hpos
      · exact (min_le_left _ _).trans (inputs.deepest_le_level hsettled)
    · refine le_min ?_ (min_le_right _ _)
      obtain hneg | hpos := lt_or_ge inputs.deepest 0
      · obtain ⟨t, ht, hle⟩ := hseen.within_instants _ inputs.looked_deepest hneg
        exact (min_le_left _ _).trans ((h.2 ⟨t, ht, rfl⟩).trans hle)
      · exact (min_le_right _ _).trans hpos

end FundingInputs

/-! ## The headroom of the projection -/

section Headroom

variable {inputs : FundingInputs} {projection : FundingProjection} {cap : Decimal}

/-- The headroom under the cap, of the exact deepest point, is a sum of some of the amounts. -/
theorem FundingInputs.Exact.represents_headroom (h : inputs.Exact)
    (hcap : inputs.netDebitCap = some cap) :
    ambient.Represents (cap.exact + min inputs.deepest 0) := by
  have hsummands : inputs.summands = inputs.openingPosition.exact :: -inputs.obligation.exact ::
      (cap.exact :: inputs.flows.map fun flow => flow.amount.exact) := by
    rw [FundingInputs.summands, hcap]
    rfl
  have hsums := h.sums
  rw [hsummands] at hsums
  obtain hle | hle := le_total inputs.deepest 0
  · rw [min_eq_left hle]
    obtain ⟨flows, hflows, heq⟩ | heq := inputs.looked_deepest
    · -- the cap, the opening, and the first flows
      have hflowsSub : (flows.map fun f => f.2.2.exact).Subperm
          (inputs.flows.map fun flow => flow.amount.exact) :=
        ((hflows.map fun f => f.2.2.exact).sublist.subperm).trans
          ((((FundingInputs.ordered_perm inputs).map fun f => f.2.2.exact).subperm).trans
            (FundingInputs.landings_sublist inputs).subperm)
      have hsub : (inputs.openingPosition.exact :: cap.exact ::
          flows.map fun f => f.2.2.exact).Subperm (inputs.openingPosition.exact ::
            -inputs.obligation.exact :: (cap.exact ::
              inputs.flows.map fun flow => flow.amount.exact)) := by
        apply (List.subperm_cons _).mpr
        refine List.Subperm.trans ?_ (List.Sublist.subperm (List.sublist_cons_self _ _))
        exact (List.subperm_cons _).mpr hflowsSub
      have hsum := (hsums.subperm hsub).represents
      rw [List.sum_cons, List.sum_cons] at hsum
      rw [heq]
      convert hsum using 1
      ring
    · have hsub : (inputs.openingPosition.exact :: -inputs.obligation.exact :: cap.exact ::
          (inputs.flows.filter fun flow => flow.offsetSeconds ≤ inputs.settlementOffsetSeconds &&
            flow.committed).map fun flow => flow.amount.exact).Sublist
          (inputs.openingPosition.exact :: -inputs.obligation.exact :: (cap.exact ::
            inputs.flows.map fun flow => flow.amount.exact)) :=
        (((List.filter_sublist).map _).cons_cons _).cons_cons _ |>.cons_cons _
      have hsum := (hsums.sublist hsub).represents
      rw [List.sum_cons, List.sum_cons, List.sum_cons] at hsum
      rw [heq, FundingInputs.settled, FundingInputs.position]
      convert hsum using 1
      ring
  · rw [min_eq_right hle, add_zero]
    exact hsums.of_mem (by simp)

/-- The headroom the projection reports is that of the deepest point it looks at. -/
theorem headroom_exact (h : inputs.Exact) (hcap : inputs.netDebitCap = some cap)
    {trough headroom : Decimal} (htrough : trough.HasValue inputs.deepest)
    (hheadroom : headroomOf inputs trough = .ok headroom) :
    headroom.HasValue (cap.exact + min inputs.deepest 0) := by
  obtain ⟨lower, hlower, hlowerValue⟩ := htrough.min .zero
  obtain ⟨r, hr, hvalue⟩ := (Decimal.hasValue_of_isFinite (h.cap cap hcap)).add hlowerValue
    (h.represents_headroom hcap)
  rw [headroomOf, hcap] at hheadroom
  simp only [hlower, Outcome.ok_bind, hr] at hheadroom
  cases hheadroom
  exact hvalue

/-- The decision of a projection, and the figures it is made on. -/
theorem exists_figures (h : projectFunding inputs = .ok projection) :
    ∃ figures answer, fundingFigures inputs = .ok figures ∧
      fundingAnswer inputs figures = .ok answer ∧ projection.disposition = answer.disposition ∧
      projection.fundedAtOffsetSeconds = answer.fundedAt ∧
      projection.shortfall = figures.shortfall ∧
      projection.netDebitCapHeadroom = figures.headroom ∧
      projection.clearingFundSufficient = figures.clearingFundSufficient := by
  rw [projectFunding, Outcome.bind_eq_ok] at h
  obtain ⟨figures, hfigures, h⟩ := h
  rw [Outcome.bind_eq_ok] at h
  obtain ⟨answer, hanswer, h⟩ := h
  cases h
  exact ⟨figures, answer, hfigures, hanswer, rfl, rfl, rfl, rfl, rfl⟩

/-- What the figures of a projection are. -/
theorem figures_of_ok {figures : FundingFigures} (h : fundingFigures inputs = .ok figures) :
    buildLadder inputs = .ok (figures.ladder, figures.trough) ∧
      positionAt inputs.openingPosition inputs.flows inputs.settlementOffsetSeconds true =
        .ok figures.committed ∧
      shortfallOf inputs.obligation figures.committed = .ok figures.shortfall ∧
      headroomOf inputs figures.trough = .ok figures.headroom ∧
      inputs.clearingFundSufficient = .ok figures.clearingFundSufficient := by
  simp only [fundingFigures, Outcome.bind_eq_ok] at h
  obtain ⟨⟨ladder, trough⟩, hladder, committed, hcommitted, optimistic, -, shortfall, hshortfall,
    headroom, hheadroom, clearing, hclearing, h⟩ := h
  cases h
  exact ⟨hladder, hcommitted, hshortfall, hheadroom, hclearing⟩

/-- The deepest point of a ladder is the one looked for. -/
theorem trough_of_buildLadder {ladder : List LadderPoint} {trough : Decimal}
    (h : buildLadder inputs = .ok (ladder, trough)) :
    ∃ settlePos, positionAt inputs.openingPosition inputs.flows inputs.settlementOffsetSeconds true =
      .ok settlePos ∧ capTrough inputs settlePos = .ok trough := by
  simp only [buildLadder, Outcome.bind_eq_ok] at h
  obtain ⟨⟨running, points⟩, -, settlePos, hsettle, settled, -, trough', htrough, h⟩ := h
  cases h
  exact ⟨settlePos, hsettle, htrough⟩

theorem trough_exact (h : inputs.Exact) {ladder : List LadderPoint} {trough : Decimal}
    (hladder : buildLadder inputs = .ok (ladder, trough)) : trough.HasValue inputs.deepest := by
  obtain ⟨settlePos, hsettle, htrough⟩ := trough_of_buildLadder hladder
  obtain ⟨r, hr, hvalue⟩ := h.committed_exact inputs.settlementOffsetSeconds
  rw [hr] at hsettle
  cases hsettle
  obtain ⟨r', hr', hvalue'⟩ := h.capTrough_exact hvalue
  rw [hr'] at htrough
  cases htrough
  exact hvalue'

/-- A headroom below zero is reported as a breach of the cap, where no check before it answers. -/
theorem capBreach_of_headroom {figures : FundingFigures} {answer : FundingAnswer}
    (hanswer : fundingAnswer inputs figures = .ok answer) (hcap : inputs.netDebitCap = some cap)
    (hrecognised : inputs.unrecognisedFields = [])
    (hclass : inputs.finalityClass ≠ .member .determinationDependent)
    (hclearing : figures.clearingFundSufficient = true)
    (hbreach : Decimal.lt figures.headroom 0 = .ok true) : answer.disposition = .capBreach := by
  have hunrecognised : answerUnrecognised inputs = .ok none := by
    simp [answerUnrecognised, answerIf, hrecognised]
  have hobligation : answerObligationClass inputs = .ok none := by
    simp [answerObligationClass, answerIf, hclass]
  have hfund : answerClearingFund inputs figures = .ok none := by
    simp [answerClearingFund, answerIf, hclearing]
  rw [fundingAnswer, fundingAnswers, hunrecognised, hobligation, hfund, answerCap, hcap] at hanswer
  simp only [hbreach, Outcome.ok_bind, answerIf, if_true, Outcome.firstAnswer] at hanswer
  cases hanswer
  rfl

/-- The headroom is the cap and the deepest instant, where it is below zero; and where the headroom
is below zero it is reported as a breach, unless the input was refused before. -/
def HeadroomSound (inputs : FundingInputs) (cap : Decimal) (projection : FundingProjection) :
    Prop :=
  ∃ least, IsLeast inputs.levels least ∧
    projection.netDebitCapHeadroom.HasValue (cap.exact + min least 0) ∧
    (cap.exact + min least 0 < 0 → inputs.unrecognisedFields = [] →
      inputs.finalityClass ≠ .member .determinationDependent →
        projection.clearingFundSufficient = true → projection.disposition = .capBreach)

theorem landings_committedOnly (inputs : FundingInputs) :
    inputs.committedOnly.landings = inputs.landings := by
  simp [FundingInputs.landings, FundingInputs.committedOnly, List.filter_filter]

theorem deepest_committedOnly (inputs : FundingInputs) :
    inputs.committedOnly.deepest = inputs.deepest := by
  have hposition : ∀ offset, inputs.committedOnly.position offset = inputs.position offset := by
    intro offset
    simp [FundingInputs.position, FundingInputs.committedOnly, List.filter_filter]
  rw [FundingInputs.deepest, FundingInputs.deepest, FundingInputs.ordered, FundingInputs.ordered,
    landings_committedOnly, FundingInputs.settled, FundingInputs.settled, hposition]
  rfl

end Headroom

/-! ### An obligation and an outflow after it -/

/-- A hundred less an obligation of eighty after a minute, and seventy that leave a minute later,
under a cap of ten. -/
def leavingAfterSettlement : FundingInputs where
  openingPosition := 100
  obligation := 80
  finalityClass := .member .grossFinal
  settlementOffsetSeconds := 60
  flows := [{ offsetSeconds := 120, amount := .finite ⟨true, 70, 0⟩, label := "vendor" }]
  netDebitCap := some 10

theorem exact_minus_seventy : Decimal.exact (.finite ⟨true, 70, 0⟩) = -70 := by
  norm_num [Decimal.exact, FiniteDecimal.value, FiniteDecimal.toInt]

theorem leavingAfterSettlement_exact : leavingAfterSettlement.committedOnly.Exact := by
  have hsummands : leavingAfterSettlement.committedOnly.summands = [100, -80, 10, -70] := by
    simp [FundingInputs.summands, FundingInputs.committedOnly, leavingAfterSettlement,
      exact_minus_seventy]
  refine ⟨rfl, rfl, ?_, ?_, ?_⟩
  · intro cap hcap
    cases hcap
    rfl
  · intro flow hflow
    rw [List.mem_singleton.mp hflow]
    rfl
  · rw [hsummands]
    refine @ExactSums.of_grid ambient _ 0 ?_ (by decide) (by decide) ?_
    · intro x hx
      simp only [List.mem_cons, List.not_mem_nil, or_false] at hx
      obtain rfl | rfl | rfl | rfl := hx
      · exact ⟨100, by norm_num⟩
      · exact ⟨-80, by norm_num⟩
      · exact ⟨10, by norm_num⟩
      · exact ⟨-70, by norm_num⟩
    · norm_num [sumAbs, ambient]

theorem leavingAfterSettlement_headroom :
    ∃ projection, projectFunding leavingAfterSettlement = .ok projection ∧
      projection.netDebitCapHeadroom = 10 :=
  Outcome.map_eq_ok.mp (by decide +kernel)

end Atreides
