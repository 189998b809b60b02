import Atreides.Foundation.Decimal.Values
import Atreides.Foundation.LowestPoint
import Atreides.Rails.Uncommitted

/-!
# The figures of the projection, where its sums are exact

Where the context holds every sum of the amounts, the positions and the deepest point of the
projection are the exact ones. The deepest point is the lowest of the running sums of what lands in
the window, in the order of offsets and labels, and of the position after settlement.

## Main definitions

* `FundingInputs.Exact` — the context holds every sum of the amounts
* `FundingInputs.ordered` — what lands in the window, in order
* `FundingInputs.settled` — the position after settlement

## Main results

* `positionAt_exact`, `capTrough_exact` — the positions and the deepest point
-/

namespace Atreides

open DecimalContext (ambient)

namespace FundingInputs

/-- The amounts that the projection adds up. -/
def summands (inputs : FundingInputs) : List ℚ :=
  inputs.openingPosition.exact :: -inputs.obligation.exact ::
    (inputs.netDebitCap.toList.map Decimal.exact ++
      inputs.flows.map fun flow => flow.amount.exact)

/-- Every amount is finite, and the context holds every sum of them. -/
structure Exact (inputs : FundingInputs) : Prop where
  opening : inputs.openingPosition.isFinite = true
  obligation : inputs.obligation.isFinite = true
  cap : ∀ cap ∈ inputs.netDebitCap, cap.isFinite = true
  flows : ∀ flow ∈ inputs.flows, flow.amount.isFinite = true
  sums : ExactSums ambient inputs.summands

/-- When a flow lands, if it lands in the window, and what it is. An outflow of uncertain date lands
at the close. -/
def landing (close : Option ℤ) (flow : CashFlow) : List (ℤ × String × Decimal) :=
  match close with
  | none => [(flow.offsetSeconds, flow.label, flow.amount)]
  | some close =>
    if flow.offsetSeconds ≤ close then [(flow.offsetSeconds, flow.label, flow.amount)]
    else if !flow.offsetIsCertain ∧ flow.amount.exact < 0 then [(close, flow.label, flow.amount)]
    else []

/-- What lands in the window. -/
def landings (inputs : FundingInputs) : List (ℤ × String × Decimal) :=
  (inputs.flows.filter CashFlow.committed).flatMap (landing inputs.windowCloseOffsetSeconds)

/-- What lands in the window, in order. -/
def ordered (inputs : FundingInputs) : List (ℤ × String × Decimal) :=
  inputs.landings.insertionSort fun a b => comesBefore (a.1, a.2.1) (b.1, b.2.1)

/-- An instant and an amount. -/
def timed (flow : ℤ × String × Decimal) : ℤ × ℚ := (flow.1, flow.2.2.exact)

/-- The committed position of an offset. -/
def position (inputs : FundingInputs) (offset : ℤ) : ℚ :=
  inputs.openingPosition.exact +
    ((inputs.flows.filter fun flow =>
      flow.offsetSeconds ≤ offset && flow.committed).map fun flow => flow.amount.exact).sum

/-- The position after settlement. -/
def settled (inputs : FundingInputs) : ℚ :=
  inputs.position inputs.settlementOffsetSeconds - inputs.obligation.exact

end FundingInputs

/-! ## Positions -/

/-- The position adds up the amounts that have arrived. -/
theorem positionAt_eq_sum (opening : Decimal) (flows : List CashFlow) (offset : ℤ)
    (committedOnly : Bool) :
    positionAt opening flows offset committedOnly =
      Outcome.foldSteps (Decimal.add ambient) opening
        ((flows.filter fun flow => flow.offsetSeconds ≤ offset &&
          (flow.committed || !committedOnly)).map CashFlow.amount) := by
  rw [positionAt]
  induction flows generalizing opening with
  | nil => rfl
  | cons flow rest ih =>
    rw [Outcome.foldSteps_cons]
    by_cases h : flow.offsetSeconds ≤ offset ∧ (flow.committed || !committedOnly) = true
    · rw [List.filter_cons_of_pos (by simpa using h), List.map_cons, Outcome.foldSteps_cons, if_pos h]
      congr 1
      funext total
      exact ih total
    · rw [List.filter_cons_of_neg (by simpa using h), if_neg h, Outcome.ok_bind, ih]

namespace FundingInputs

variable {inputs : FundingInputs}

theorem summands_flows_sublist (inputs : FundingInputs) :
    (inputs.openingPosition.exact :: inputs.flows.map fun flow => flow.amount.exact).Sublist
      inputs.summands := by
  apply List.Sublist.cons_cons
  apply List.Sublist.cons
  exact List.sublist_append_right _ _

theorem Exact.positionAt_exact (h : inputs.Exact) (offset : ℤ) (committedOnly : Bool) :
    ∃ r, positionAt inputs.openingPosition inputs.flows offset committedOnly = .ok r ∧
      r.HasValue (inputs.openingPosition.exact +
        ((inputs.flows.filter fun flow => flow.offsetSeconds ≤ offset &&
          (flow.committed || !committedOnly)).map fun flow => flow.amount.exact).sum) := by
  rw [positionAt_eq_sum]
  have hvalues := @Decimal.sum_hasValue ambient
    ((inputs.flows.filter fun flow => flow.offsetSeconds ≤ offset &&
      (flow.committed || !committedOnly)).map CashFlow.amount) inputs.openingPosition _
    [inputs.openingPosition.exact] (Decimal.hasValue_of_isFinite h.opening) (by simp)
  rw [List.map_map] at hvalues
  apply hvalues
  · intro amount hamount
    obtain ⟨flow, hflow, rfl⟩ := List.mem_map.mp hamount
    exact h.flows flow (List.mem_of_mem_filter hflow)
  · refine h.sums.sublist (List.Sublist.trans ?_ (summands_flows_sublist inputs))
    apply List.Sublist.cons_cons
    exact (List.filter_sublist).map _

/-- The committed position is the exact one. -/
theorem Exact.committed_exact (h : inputs.Exact) (offset : ℤ) :
    ∃ r, positionAt inputs.openingPosition inputs.flows offset true = .ok r ∧
      r.HasValue (inputs.position offset) := by
  obtain ⟨r, hr, hvalue⟩ := h.positionAt_exact offset true
  refine ⟨r, hr, ?_⟩
  simpa [position] using hvalue

/-! ## The deepest point -/

theorem landing_sublist (close : Option ℤ) (flow : CashFlow) :
    ((landing close flow).map fun f => f.2.2.exact).Sublist [flow.amount.exact] := by
  cases close with
  | none => exact List.Sublist.refl _
  | some close =>
    rw [landing]
    split_ifs
    · exact List.Sublist.refl _
    · exact List.Sublist.refl _
    · exact List.nil_sublist _

theorem landings_sublist (inputs : FundingInputs) :
    (inputs.landings.map fun f => f.2.2.exact).Sublist
      (inputs.flows.map fun flow => flow.amount.exact) := by
  rw [landings]
  generalize inputs.windowCloseOffsetSeconds = close
  induction inputs.flows with
  | nil => exact List.Sublist.refl _
  | cons flow rest ih =>
    cases hcommitted : flow.committed with
    | true =>
      rw [List.filter_cons_of_pos hcommitted, List.flatMap_cons, List.map_append, List.map_cons]
      exact (landing_sublist close flow).append ih
    | false =>
      rw [List.filter_cons_of_neg (by simp [hcommitted])]
      exact ih.cons _

theorem ordered_perm (inputs : FundingInputs) : inputs.ordered.Perm inputs.landings :=
  List.perm_insertionSort _ _

/-- What lands in the window is what the projection reads there. -/
theorem Exact.flowInWindow_eq (h : inputs.Exact) {flow : CashFlow} (hflow : flow ∈ inputs.flows)
    (close : Option ℤ) : flowInWindow close flow = .ok (landing close flow) := by
  have hlt : Decimal.lt flow.amount 0 = .ok (decide (flow.amount.exact < 0)) :=
    (Decimal.hasValue_of_isFinite (h.flows flow hflow)).lt .zero
  cases close with
  | none => rfl
  | some close =>
    rw [flowInWindow, landing]
    split_ifs with hoffset hcertain hboth hboth
    · rfl
    · rw [hlt, Outcome.ok_bind, if_pos (by simpa using hboth.2)]
    · have hlow : ¬ flow.amount.exact < 0 := fun hlow => hboth ⟨hcertain, hlow⟩
      rw [hlt, Outcome.ok_bind, if_neg (by simpa using hlow)]
    · exact absurd hboth.1 hcertain
    · rfl

/-- The running sum and the lowest one, where every sum is exact. -/
theorem troughSteps_exact {flows : List (ℤ × String × Decimal)} :
    ∀ {running trough : Decimal} {v w : ℚ} {prior : List ℚ}, running.HasValue v →
      trough.HasValue w → w ≤ v → v = prior.sum → (∀ f ∈ flows, f.2.2.isFinite = true) →
        ExactSums ambient (prior ++ flows.map fun f => f.2.2.exact) →
          ∃ r, Outcome.foldSteps troughStep (running, trough) flows = .ok r ∧
            r.2.HasValue (min w (lowest v (flows.map fun f => f.2.2.exact))) := by
  induction flows with
  | nil =>
    intro running trough v w prior _ htrough hle _ _ _
    exact ⟨_, rfl, by simpa [hle] using htrough⟩
  | cons f rest ih =>
    intro running trough v w prior hrunning htrough hle hprior hfinite h
    have hlist : prior ++ (f :: rest).map (fun f => f.2.2.exact) =
        prior ++ [f.2.2.exact] ++ rest.map fun f => f.2.2.exact := by simp
    rw [hlist] at h
    have hsum : v + f.2.2.exact = (prior ++ [f.2.2.exact]).sum := by simp [hprior]
    obtain ⟨position, hposition, hvalue⟩ := hrunning.add
      (Decimal.hasValue_of_isFinite (hfinite f List.mem_cons_self))
      (hsum ▸ h.append_left.represents)
    obtain ⟨lower, hlower, hlowerValue⟩ := htrough.min hvalue
    obtain ⟨r, hr, hrvalue⟩ := ih hvalue hlowerValue (min_le_right _ _) hsum
      (fun g hg => hfinite g (List.mem_cons_of_mem f hg)) h
    refine ⟨r, ?_, ?_⟩
    · rw [Outcome.foldSteps_cons, troughStep, hposition, Outcome.ok_bind, hlower]
      exact hr
    · have hlow : lowest (v + f.2.2.exact) (rest.map fun f => f.2.2.exact) ≤ v + f.2.2.exact := by
        simpa using lowest_le (List.nil_prefix (l := rest.map fun f => f.2.2.exact))
      rw [List.map_cons, lowest_cons, ← min_assoc, min_eq_left hle]
      rwa [min_assoc, min_eq_right hlow] at hrvalue

/-- The deepest point the projection finds. -/
def deepest (inputs : FundingInputs) : ℚ :=
  min (lowest inputs.openingPosition.exact (inputs.ordered.map fun f => f.2.2.exact))
    inputs.settled

/-- What lands keeps its label and its amount. -/
theorem eq_of_mem_landing {close : Option ℤ} {flow : CashFlow} {f : ℤ × String × Decimal}
    (hf : f ∈ landing close flow) : f.2 = (flow.label, flow.amount) := by
  cases close with
  | none =>
    rw [landing, List.mem_singleton] at hf
    rw [hf]
  | some close =>
    rw [landing] at hf
    split_ifs at hf
    · rw [List.mem_singleton.mp hf]
    · rw [List.mem_singleton.mp hf]
    · cases hf

theorem isFinite_of_mem_landings (h : inputs.Exact) {f : ℤ × String × Decimal}
    (hf : f ∈ inputs.landings) : f.2.2.isFinite = true := by
  rw [landings, List.mem_flatMap] at hf
  obtain ⟨flow, hflow, hf⟩ := hf
  rw [eq_of_mem_landing hf]
  exact h.flows flow (List.mem_of_mem_filter hflow)

/-- The position after settlement is a sum of some of the amounts. -/
theorem Exact.represents_settled (h : inputs.Exact) : ambient.Represents inputs.settled := by
  have hsub : (inputs.openingPosition.exact :: -inputs.obligation.exact ::
      (inputs.flows.filter fun flow => flow.offsetSeconds ≤ inputs.settlementOffsetSeconds &&
        flow.committed).map fun flow => flow.amount.exact).Sublist inputs.summands := by
    apply List.Sublist.cons_cons
    apply List.Sublist.cons_cons
    exact ((List.filter_sublist).map _).trans (List.sublist_append_right _ _)
  have hsum := (h.sums.sublist hsub).represents
  rw [List.sum_cons, List.sum_cons] at hsum
  rw [settled, position]
  convert hsum using 1
  ring

theorem Exact.settled_exact (h : inputs.Exact) {settlePos : Decimal}
    (hsettle : settlePos.HasValue (inputs.position inputs.settlementOffsetSeconds)) :
    ∃ r, Decimal.sub ambient settlePos inputs.obligation = .ok r ∧ r.HasValue inputs.settled :=
  hsettle.sub (Decimal.hasValue_of_isFinite h.obligation) h.represents_settled

/-- The deepest point is the exact one. -/
theorem Exact.capTrough_exact (h : inputs.Exact) {settlePos : Decimal}
    (hsettle : settlePos.HasValue (inputs.position inputs.settlementOffsetSeconds)) :
    ∃ r, capTrough inputs settlePos = .ok r ∧ r.HasValue inputs.deepest := by
  have hcollect : Outcome.collect (flowInWindow inputs.windowCloseOffsetSeconds)
      (inputs.flows.filter CashFlow.committed) =
        .ok ((inputs.flows.filter CashFlow.committed).map
          (landing inputs.windowCloseOffsetSeconds)) := by
    rw [← Outcome.collect_ok]
    apply Outcome.collect_congr
    intro flow hflow
    exact h.flowInWindow_eq (List.mem_of_mem_filter hflow) _
  have hopening := Decimal.hasValue_of_isFinite h.opening
  obtain ⟨running, hrunning, htrough⟩ := @troughSteps_exact inputs.ordered
    inputs.openingPosition inputs.openingPosition _ _ [inputs.openingPosition.exact] hopening
    hopening le_rfl (by simp)
    (fun f hf => isFinite_of_mem_landings h ((ordered_perm inputs).mem_iff.mp hf)) (by
      refine h.sums.subperm ?_
      have hperm : ((inputs.ordered.map fun f => f.2.2.exact)).Perm
          (inputs.landings.map fun f => f.2.2.exact) := (ordered_perm inputs).map _
      refine (List.Perm.subperm (hperm.cons _)).trans (List.Sublist.subperm ?_)
      exact ((landings_sublist inputs).cons_cons _).trans (summands_flows_sublist inputs))
  obtain ⟨settled, hsettled, hvalue⟩ := h.settled_exact hsettle
  have hlow : lowest inputs.openingPosition.exact (inputs.ordered.map fun f => f.2.2.exact) ≤
      inputs.openingPosition.exact := by
    simpa using lowest_le (List.nil_prefix (l := inputs.ordered.map fun f => f.2.2.exact))
  rw [min_eq_right hlow] at htrough
  obtain ⟨r, hr, hrvalue⟩ := htrough.min hvalue
  refine ⟨r, ?_, hrvalue⟩
  rw [capTrough, hcollect, Outcome.ok_bind]
  simp only [← List.flatMap_def]
  change (Outcome.foldSteps troughStep _ inputs.ordered >>= _) = _
  rw [hrunning, Outcome.ok_bind, hsettled, Outcome.ok_bind]
  exact hr

end FundingInputs

end Atreides
