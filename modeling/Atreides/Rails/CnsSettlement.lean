import Mathlib.Tactic.Linarith
import Atreides.Foundation.Decimal.Exact
import Atreides.Rails.Cns

/-!
# What a settlement of a net position conserves

A recorded settlement splits what was owed into what was allocated and what is left, in
securities and in cash. The two parts make up the whole when the difference fits the context
it is taken in and the allocation lies between nothing and what was owed. The code checks
the second for the securities only, and the first for neither.

## Main definitions

* `Within` — a part lies between nothing and the whole, with the whole's sign
* `LegConserved` — a recorded leg adds up to what was owed
* `LegFits` — the condition on what was owed and what was reported
* `Accepted` — the reported figures are not refused

## Main results

* `settlement_conserves_iff` — exactly when a recorded settlement conserves both legs
-/

namespace Atreides

open DecimalContext (ambient)

/-! ## Legs -/

/-- A part of the whole: between nothing and it, on its side of zero. -/
def Within (part whole : ℚ) : Prop :=
  (0 ≤ part ∧ part ≤ whole) ∨ (whole ≤ part ∧ part ≤ 0)

/-- What is left of the whole is a part of it exactly when what is taken is. -/
theorem within_sub_iff {part whole : ℚ} : Within (whole - part) whole ↔ Within part whole := by
  unfold Within
  constructor
  · rintro (⟨h₁, h₂⟩ | ⟨h₁, h₂⟩)
    · exact Or.inl ⟨by linarith, by linarith⟩
    · exact Or.inr ⟨by linarith, by linarith⟩
  · rintro (⟨h₁, h₂⟩ | ⟨h₁, h₂⟩)
    · exact Or.inl ⟨by linarith, by linarith⟩
    · exact Or.inr ⟨by linarith, by linarith⟩

/-- A recorded leg: what was allocated and what is left make up what was owed, and both are
parts of it. -/
def LegConserved (owed allocated residual : Decimal) : Prop :=
  ∃ o a r : FiniteDecimal, owed = .finite o ∧ allocated = .finite a ∧ residual = .finite r ∧
    a.value + r.value = o.value ∧ Within r.value o.value ∧ Within a.value o.value

/-- A reported leg: a finite amount was owed, a part of it was reported as moved, and the
ambient context holds the difference. -/
def LegFits (owed : Decimal) (reported : Option Supplied) : Prop :=
  ∃ o a : FiniteDecimal, owed = .finite o ∧ reported = some (.decimal (.finite a)) ∧
    Within a.value o.value ∧ ambient.Represents (o.value - a.value)

/-- A leg is recorded as left what the ambient difference is, or as left nothing when that
difference is zero. -/
def LegRecorded (owed : Decimal) (reported : FiniteDecimal) (allocated residual : Decimal) :
    Prop :=
  ∃ (a : FiniteDecimal) (outstanding : Decimal), allocated = .finite a ∧
    a.value = reported.value ∧ Decimal.sub ambient owed (.finite reported) = .ok outstanding ∧
    (residual = outstanding ∨ residual = 0 ∧ Decimal.eq outstanding 0 = .ok true)

/-- The difference of finite amounts is finite. -/
theorem sub_finite {o a : FiniteDecimal} {outstanding : Decimal}
    (h : Decimal.sub ambient (.finite o) (.finite a) = .ok outstanding) :
    ∃ r, outstanding = .finite r ∧ FiniteDecimal.sub ambient o a = .ok r := by
  have hadd : Decimal.sub ambient (.finite o) (.finite a) =
      Decimal.finite <$> FiniteDecimal.sub ambient o a := rfl
  rw [hadd, Outcome.map_eq_ok] at h
  obtain ⟨r, hr, rfl⟩ := h
  exact ⟨r, rfl, hr⟩

/-- What a recorded leg leaves of a finite amount has the value of the ambient difference. -/
theorem LegRecorded.residual {o reported : FiniteDecimal} {allocated residual : Decimal}
    (h : LegRecorded (.finite o) reported allocated residual) :
    ∃ a r difference : FiniteDecimal, allocated = .finite a ∧ a.value = reported.value ∧
      residual = .finite r ∧ FiniteDecimal.sub ambient o reported = .ok difference ∧
      r.value = difference.value := by
  obtain ⟨a, outstanding, rfl, ha, hsub, hresidual⟩ := h
  obtain ⟨difference, rfl, hdifference⟩ := sub_finite hsub
  rcases hresidual with rfl | ⟨rfl, hzero⟩
  · exact ⟨a, difference, difference, rfl, ha, rfl, hdifference, rfl⟩
  · have heq : difference.eq 0 = true := Except.ok.inj hzero
    rw [FiniteDecimal.eq_iff] at heq
    exact ⟨a, 0, difference, rfl, ha, rfl, hdifference, heq.symm⟩

/-- A recorded leg is conserved exactly when the reported one fits. -/
theorem legConserved_iff {owed allocated residual : Decimal} {reported : FiniteDecimal}
    (h : LegRecorded owed reported allocated residual) :
    LegConserved owed allocated residual ↔ LegFits owed (some (.decimal (.finite reported))) := by
  constructor
  · rintro ⟨o, a, r, rfl, rfl, rfl, htotal, hresidual, hallocated⟩
    obtain ⟨a', r', difference, ha', hvalue, hr', hdifference, hsame⟩ := h.residual
    cases ha'
    cases hr'
    refine ⟨o, reported, rfl, rfl, hvalue ▸ hallocated, ?_⟩
    have hleft : o.value - reported.value = difference.value := by
      rw [← hsame, ← hvalue, ← htotal]
      ring
    rw [hleft]
    exact FiniteDecimal.represents_of_sub hdifference
  · rintro ⟨o, a, rfl, hreported, hwithin, hfits⟩
    cases hreported
    obtain ⟨a', r, difference, rfl, hvalue, rfl, hdifference, hsame⟩ := h.residual
    have hleft : r.value = o.value - reported.value :=
      hsame.trans (FiniteDecimal.sub_value hdifference hfits)
    refine ⟨o, a', r, rfl, rfl, rfl, ?_, ?_, ?_⟩
    · rw [hleft, hvalue]
      ring
    · rw [hleft]
      exact within_sub_iff.mpr hwithin
    · rw [hvalue]
      exact hwithin

/-- The parts make up the whole, by a comparison that can be run. -/
theorem total_iff {o a r : FiniteDecimal} :
    a.value + r.value = o.value ↔ (FiniteDecimal.exactAdd a r).eq o = true := by
  rw [FiniteDecimal.eq_iff, FiniteDecimal.value_exactAdd]

/-- A reported leg fits, by comparisons that can be run. -/
theorem legFits_of_total {o a r : FiniteDecimal}
    (hsub : FiniteDecimal.sub ambient o a = .ok r)
    (htotal : (FiniteDecimal.exactAdd a r).eq o = true)
    (hwithin : ((0 : FiniteDecimal).le a && a.le o || o.le a && a.le 0) = true) :
    LegFits (.finite o) (some (.decimal (.finite a))) := by
  refine ⟨o, a, rfl, rfl, ?_, ?_⟩
  · simpa [Within, FiniteDecimal.le_iff] using hwithin
  · have hleft : o.value - a.value = r.value := by
      rw [← total_iff.mpr htotal]
      ring
    rw [hleft]
    exact FiniteDecimal.represents_of_sub hsub

/-! ## Settlements -/

/-- What a result leaves of the securities. -/
def NetSettlementResult.residualQuantity (r : NetSettlementResult) : Decimal :=
  (r.residual.map FailPosition.quantity).getD 0

/-- What a result leaves of the cash. -/
def NetSettlementResult.residualCash (r : NetSettlementResult) : Decimal :=
  (r.residual.map FailPosition.cash).getD 0

/-- A position that is not flat is recorded leg by leg. -/
theorem settleOpen_recorded {i : SettlementInput} {breaks : List SecuritiesBreak}
    {allocated cash : FiniteDecimal} {r : NetSettlementResult}
    (h : settleOpen i breaks allocated cash = .ok r) :
    LegRecorded i.position.quantity allocated r.allocatedQuantity r.residualQuantity ∧
      LegRecorded i.signedCash cash r.allocatedCash r.residualCash := by
  simp only [settleOpen, Outcome.bind_eq_ok] at h
  obtain ⟨outstanding, hquantity, outstandingCash, hcash, quantitySettled, hzero, cashSettled,
    hzeroCash, h⟩ := h
  by_cases hsettled : (quantitySettled && cashSettled) = true
  · rw [if_pos hsettled] at h
    cases h
    obtain ⟨rfl, rfl⟩ := (Bool.and_eq_true _ _).mp hsettled
    exact ⟨⟨allocated, outstanding, rfl, rfl, hquantity, Or.inr ⟨rfl, hzero⟩⟩,
      ⟨cash, outstandingCash, rfl, rfl, hcash, Or.inr ⟨rfl, hzeroCash⟩⟩⟩
  · rw [if_neg hsettled] at h
    simp only [Outcome.bind_eq_ok] at h
    obtain ⟨aged, -, found, -, h⟩ := h
    by_cases hnothing : (allocated.isZero && cash.isZero) = true
    · -- nothing moved, and nothing is recorded as moved
      obtain ⟨hallocated, hcashZero⟩ := (Bool.and_eq_true _ _).mp hnothing
      rw [FiniteDecimal.isZero_iff] at hallocated hcashZero
      rw [if_pos hnothing, Outcome.bind_eq_ok] at h
      obtain ⟨receives, -, h⟩ := h
      cases h
      exact ⟨⟨0, outstanding, rfl, by simp [hallocated], hquantity, Or.inl rfl⟩,
        ⟨0, outstandingCash, rfl, by simp [hcashZero], hcash, Or.inl rfl⟩⟩
    · rw [if_neg hnothing] at h
      cases h
      exact ⟨⟨allocated, outstanding, rfl, rfl, hquantity, Or.inl rfl⟩,
        ⟨cash, outstandingCash, rfl, rfl, hcash, Or.inl rfl⟩⟩

/-- Only a position that is not flat, with both figures reported, is recorded as moved or
failed. -/
theorem settleReported_open {i : SettlementInput} {breaks : List SecuritiesBreak}
    {allocated cash : Option FiniteDecimal} {r : NetSettlementResult}
    (h : settleReported i breaks allocated cash = .ok r)
    (hdeterminate : r.disposition ≠ .indeterminate) (hflat : r.disposition ≠ .flat) :
    ∃ a c, allocated = some a ∧ cash = some c ∧ settleOpen i breaks a c = .ok r := by
  rcases allocated with _ | a
  · cases h
    exact absurd rfl hdeterminate
  rcases cash with _ | c
  · cases h
    exact absurd rfl hdeterminate
  refine ⟨a, c, rfl, rfl, ?_⟩
  simp only [settleReported, Outcome.bind_eq_ok] at h
  obtain ⟨flat, -, h⟩ := h
  cases flat with
  | true =>
    cases h
    exact absurd rfl hflat
  | false => exact h

theorem finite?_eq_some {value : Supplied} {d : FiniteDecimal} (h : value.finite? = some d) :
    value = .decimal (.finite d) := by
  unfold Supplied.finite? at h
  split at h
  · cases h
    rfl
  · cases h

theorem bind_finite?_eq_some {value : Option Supplied} {d : FiniteDecimal}
    (h : value.bind Supplied.finite? = some d) : value = some (.decimal (.finite d)) := by
  obtain ⟨v, hv, hd⟩ := Option.bind_eq_some_iff.mp h
  rw [hv, finite?_eq_some hd]

/-- The figures reported for a position are finite, of the position's market, and not refused. -/
structure Accepted (i : SettlementInput) (allocated cash : FiniteDecimal) : Prop where
  market : i.position.marketId = i.profile.marketId
  allocated_eq : i.allocatedQuantity = some (.decimal (.finite allocated))
  cash_eq : i.allocatedCash = some (.decimal (.finite cash))
  opposes : opposes i.position allocated = .ok false
  exceeds : exceeds i.position allocated = .ok false

/-- Accepted figures decide the settlement. -/
theorem Accepted.settle {i : SettlementInput} {allocated cash : FiniteDecimal}
    (h : Accepted i allocated cash) :
    settleNetPosition i =
      settleReported i (processingDateBreaks i.position i.profile) (some allocated) (some cash) := by
  have hfinite : notFinite i = none := by
    simp [notFinite, h.allocated_eq, h.cash_eq, Supplied.finite?]
  simp only [settleNetPosition, h.market, ne_eq, not_true_eq_false, if_false, hfinite]
  simp only [h.allocated_eq, h.cash_eq, Option.bind_some, Supplied.finite?, h.opposes, h.exceeds,
    Outcome.ok_bind, Bool.false_eq_true, if_false]

/-- A settlement that is determined at all was reported in accepted figures. -/
theorem settleNetPosition_accepted {i : SettlementInput} {r : NetSettlementResult}
    (h : settleNetPosition i = .ok r) (hdeterminate : r.disposition ≠ .indeterminate) :
    ∃ a c, Accepted i a c := by
  simp only [settleNetPosition] at h
  split_ifs at h with hmarket
  · cases h
    exact absurd rfl hdeterminate
  rcases hfinite : notFinite i with _ | ⟨name, value⟩
  · rw [hfinite] at h
    rcases hallocated : i.allocatedQuantity.bind Supplied.finite? with _ | a
    · rw [hallocated] at h
      cases h
      exact absurd rfl hdeterminate
    · rw [hallocated] at h
      simp only [Outcome.bind_eq_ok] at h
      obtain ⟨wrongSign, hwrongSign, h⟩ := h
      cases wrongSign with
      | true =>
        cases h
        exact absurd rfl hdeterminate
      | false =>
        rw [if_neg Bool.false_ne_true, Outcome.bind_eq_ok] at h
        obtain ⟨tooLarge, htooLarge, h⟩ := h
        cases tooLarge with
        | true =>
          cases h
          exact absurd rfl hdeterminate
        | false =>
          rw [if_neg Bool.false_ne_true] at h
          rcases hcash : i.allocatedCash.bind Supplied.finite? with _ | c
          · rw [hcash] at h
            cases h
            exact absurd rfl hdeterminate
          · exact ⟨a, c, not_not.mp hmarket, bind_finite?_eq_some hallocated,
              bind_finite?_eq_some hcash, hwrongSign, htooLarge⟩
  · rw [hfinite] at h
    cases h
    exact absurd rfl hdeterminate

/-- A settlement that is recorded at all was reported in finite figures that were not
refused. -/
theorem settleNetPosition_open {i : SettlementInput} {r : NetSettlementResult}
    (h : settleNetPosition i = .ok r) (hdeterminate : r.disposition ≠ .indeterminate)
    (hflat : r.disposition ≠ .flat) :
    ∃ a c, i.allocatedQuantity = some (.decimal (.finite a)) ∧
      i.allocatedCash = some (.decimal (.finite c)) ∧
      settleOpen i (processingDateBreaks i.position i.profile) a c = .ok r := by
  obtain ⟨allocated, cash, haccepted⟩ := settleNetPosition_accepted h hdeterminate
  rw [haccepted.settle] at h
  obtain ⟨a, c, ha, hc, hopen⟩ := settleReported_open h hdeterminate hflat
  cases ha
  cases hc
  exact ⟨allocated, cash, haccepted.allocated_eq, haccepted.cash_eq, hopen⟩

/-- A recorded settlement conserves securities and cash, with parts of what was owed,
exactly when both reported legs fit. -/
theorem settlement_conserves_iff {i : SettlementInput} {r : NetSettlementResult}
    (h : settleNetPosition i = .ok r) (hdeterminate : r.disposition ≠ .indeterminate)
    (hflat : r.disposition ≠ .flat) :
    (LegConserved i.position.quantity r.allocatedQuantity r.residualQuantity ∧
        LegConserved i.signedCash r.allocatedCash r.residualCash) ↔
      LegFits i.position.quantity i.allocatedQuantity ∧
        LegFits i.signedCash i.allocatedCash := by
  obtain ⟨a, c, ha, hc, hopen⟩ := settleNetPosition_open h hdeterminate hflat
  obtain ⟨hquantity, hcash⟩ := settleOpen_recorded hopen
  rw [ha, hc, legConserved_iff hquantity, legConserved_iff hcash]

/-! ### Hundred shares, and more digits than the context holds -/

/-- A hundred shares to receive against a thousand in cash, of which forty shares and four
hundred moved. -/
def fortyOfHundred : SettlementInput where
  position :=
    { securityId := "ISSUE-1", quantity := .finite 100, settlementDateOffsetDays := 1
      marketId := "MARKET-1" }
  profile := { marketId := "MARKET-1" }
  allocatedQuantity := some (.decimal (.finite 40))
  signedCash := .finite ⟨true, 1000, 0⟩
  allocatedCash := some (.decimal (.finite ⟨true, 400, 0⟩))
  settlementDate := .of 2026 10 9
  asOfDate := .of 2026 10 9
  calendar := ⟨.usEquities, .empty, by simp [Dict.empty]⟩

theorem settlement_conserves_iff_forty_of_hundred :
    ∃ r, settleNetPosition fortyOfHundred = .ok r ∧ r.disposition = .partialAllocation ∧
      LegConserved (.finite 100) r.allocatedQuantity r.residualQuantity ∧
      LegConserved (.finite ⟨true, 1000, 0⟩) r.allocatedCash r.residualCash := by
  obtain ⟨r, hr, hincomplete⟩ : ∃ r, settleNetPosition fortyOfHundred = .ok r ∧
      r.disposition = .partialAllocation := ⟨_, rfl, rfl⟩
  have hdeterminate : r.disposition ≠ .indeterminate := by simp [hincomplete]
  have hflat : r.disposition ≠ .flat := by simp [hincomplete]
  refine ⟨r, hr, hincomplete, (settlement_conserves_iff hr hdeterminate hflat).mpr ⟨?_, ?_⟩⟩
  · exact @legFits_of_total 100 40 60 (by decide) (by decide) (by decide)
  · exact @legFits_of_total ⟨true, 1000, 0⟩ ⟨true, 400, 0⟩ ⟨true, 600, 0⟩ (by decide) (by decide)
      (by decide)

/-- A position of thirty digits of which nothing moved. -/
def thirtyDigits : SettlementInput :=
  { fortyOfHundred with
    position := { fortyOfHundred.position with quantity := .finite ⟨false, 10 ^ 29 + 1, 0⟩ }
    allocatedQuantity := some (.decimal (.finite 0))
    signedCash := .finite 0
    allocatedCash := some (.decimal (.finite 0)) }

/-- A failed position of thirty digits loses its last one. -/
theorem settlement_not_conserved :
    ¬ ∀ (i : SettlementInput) (r : NetSettlementResult), settleNetPosition i = .ok r →
      r.disposition ≠ .indeterminate → r.disposition ≠ .flat →
        LegConserved i.position.quantity r.allocatedQuantity r.residualQuantity ∧
          LegConserved i.signedCash r.allocatedCash r.residualCash := by
  intro h
  obtain ⟨r, hr, hfailed, hallocated, hresidual⟩ : ∃ r, settleNetPosition thirtyDigits = .ok r ∧
      r.disposition = .failedToReceive ∧ r.allocatedQuantity = .finite 0 ∧
      r.residualQuantity = .finite ⟨false, 10 ^ 27, 2⟩ := ⟨_, rfl, rfl, rfl, rfl⟩
  obtain ⟨o, a, left, ho, ha, hleft, htotal, -⟩ :=
    (h thirtyDigits r hr (by simp [hfailed]) (by simp [hfailed])).1
  cases ho
  rw [hallocated] at ha
  rw [hresidual] at hleft
  cases ha
  cases hleft
  exact absurd (total_iff.mp htotal) (by decide)

end Atreides
