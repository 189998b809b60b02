import Atreides.Foundation.Decimal.Monotone
import Atreides.Rails.CnsSettlement

/-!
# Completed settlements

A result is marked completed where the position was settled in full, or was flat and the venue did
not say otherwise. What was owed and what was reported are compared by their ambient difference,
and the venue is taken to say otherwise by its securities alone: cash reported against a flat
position is not looked at.

## Main definitions

* `CompletedSoundly` — what was owed was allocated, and nothing is left or disputed
* `Indistinct` — figures whose difference is rounded to nothing
* `CompletesExactly` — the condition on what was owed and what was reported

## Main results

* `completed_soundly_iff` — exactly when a completed result is one where everything owed moved
-/

namespace Atreides

open DecimalContext (ambient)

/-! ## What completion asserts -/

/-- A leg moved as it was owed. -/
def LegSettled (owed allocated : Decimal) : Prop :=
  ∃ o a : FiniteDecimal, owed = .finite o ∧ allocated = .finite a ∧ a.value = o.value

/-- What was owed was allocated, in securities and in cash; nothing is left, and nothing is
disputed. -/
structure CompletedSoundly (i : SettlementInput) (r : NetSettlementResult) : Prop where
  quantity : LegSettled i.position.quantity r.allocatedQuantity
  cash : LegSettled i.signedCash r.allocatedCash
  residual : r.residual = none
  undisputed : r.disputed = false

/-- Two figures whose difference is rounded to nothing. -/
def Indistinct (owed reported : FiniteDecimal) : Prop :=
  |owed.value - reported.value| ≤ 10 ^ ambient.etiny / 2

/-- Accepted figures are those that were owed wherever the settlement cannot tell them apart from
these; and where nothing is owed and no securities were reported, neither was cash. -/
def CompletesExactly (i : SettlementInput) : Prop :=
  ∀ owed owedCash allocated cash : FiniteDecimal, i.position.quantity = .finite owed →
    i.signedCash = .finite owedCash → Accepted i allocated cash →
      (owed.value = 0 → owedCash.value = 0 → allocated.value = 0 → cash.value = 0) ∧
      (Indistinct owed allocated → Indistinct owedCash cash →
        owed.value ≠ 0 ∨ owedCash.value ≠ 0 →
          allocated.value = owed.value ∧ cash.value = owedCash.value)

/-! ## What each settlement completes -/

theorem indistinct_of_sub {o a : FiniteDecimal} {outstanding : Decimal} {settled : Bool}
    (hsub : Decimal.sub ambient (.finite o) (.finite a) = .ok outstanding)
    (hzero : Decimal.eq outstanding 0 = .ok settled) : settled = true ↔ Indistinct o a := by
  obtain ⟨difference, rfl, hdifference⟩ := sub_finite hsub
  have heq : difference.eq 0 = settled := Except.ok.inj hzero
  have hmag : (FiniteDecimal.exactAdd o a.copyNegate).magnitude = |o.value - a.value| := by
    rw [← FiniteDecimal.abs_value, FiniteDecimal.value_exactAdd, FiniteDecimal.value_copyNegate,
      sub_eq_add_neg]
  rw [← heq, FiniteDecimal.eq_iff, FiniteDecimal.value_zero,
    DecimalContext.fix_value_eq_zero_iff hdifference, hmag]
  rfl

theorem disputed_processingDateBreaks (position : NetPosition) (profile : MarketProfile) :
    ((processingDateBreaks position profile).any fun b =>
      b.code = .allocationAgainstFlatPosition) = false := by
  rw [processingDateBreaks]
  split_ifs <;> rfl

/-- A flat position is disputed where securities were reported. -/
theorem disputed_flatPosition {position : NetPosition} {profile : MarketProfile}
    {allocated cash : FiniteDecimal} :
    (flatPosition position (processingDateBreaks position profile) allocated cash).disputed =
      !allocated.isZero := by
  rw [NetSettlementResult.disputed, flatPosition, List.any_append, disputed_processingDateBreaks]
  cases allocated.isZero <;> rfl

/-- What accepted figures lead to, by what was owed and what was reported. -/
inductive SettledAs (i : SettlementInput) (owed owedCash allocated cash : FiniteDecimal) :
    NetSettlementResult → Prop
  | flat (hquantity : owed.value = 0) (hcash : owedCash.value = 0) :
    SettledAs i owed owedCash allocated cash
      (flatPosition i.position (processingDateBreaks i.position i.profile) allocated cash)
  | inFull (howed : owed.value ≠ 0 ∨ owedCash.value ≠ 0) (hquantity : Indistinct owed allocated)
    (hcash : Indistinct owedCash cash) :
    SettledAs i owed owedCash allocated cash
      (settledInFull i.position (processingDateBreaks i.position i.profile) allocated cash)
  | outstanding {r : NetSettlementResult} (howed : owed.value ≠ 0 ∨ owedCash.value ≠ 0)
    (hdistinct : ¬ (Indistinct owed allocated ∧ Indistinct owedCash cash)) (hsettled : r.disposition ≠ .settledInFull)
    (hflat : r.disposition ≠ .flat) : SettledAs i owed owedCash allocated cash r

/-- A position that is not flat is settled in full exactly where nothing can be told to be left. -/
theorem settleOpen_as {i : SettlementInput} {owed owedCash allocated cash : FiniteDecimal}
    {r : NetSettlementResult} (hquantity : i.position.quantity = .finite owed)
    (hcash : i.signedCash = .finite owedCash) (howed : owed.value ≠ 0 ∨ owedCash.value ≠ 0)
    (h : settleOpen i (processingDateBreaks i.position i.profile) allocated cash = .ok r) :
    SettledAs i owed owedCash allocated cash r := by
  simp only [settleOpen, Outcome.bind_eq_ok, hquantity, hcash] at h
  obtain ⟨outstanding, hsub, outstandingCash, hsubCash, quantitySettled, hzero, cashSettled,
    hzeroCash, h⟩ := h
  have hquantityIff := indistinct_of_sub hsub hzero
  have hcashIff := indistinct_of_sub hsubCash hzeroCash
  by_cases hsettled : (quantitySettled && cashSettled) = true
  · rw [if_pos hsettled] at h
    cases h
    obtain ⟨hq, hc⟩ := (Bool.and_eq_true _ _).mp hsettled
    exact .inFull howed (hquantityIff.mp hq) (hcashIff.mp hc)
  · have hdistinct : ¬ (Indistinct owed allocated ∧ Indistinct owedCash cash) := by
      rintro ⟨hq, hc⟩
      exact hsettled ((Bool.and_eq_true _ _).mpr ⟨hquantityIff.mpr hq, hcashIff.mpr hc⟩)
    rw [if_neg hsettled] at h
    simp only [Outcome.bind_eq_ok] at h
    obtain ⟨aged, -, found, -, h⟩ := h
    by_cases hnothing : (allocated.isZero && cash.isZero) = true
    · rw [if_pos hnothing, Outcome.bind_eq_ok] at h
      obtain ⟨receives, -, h⟩ := h
      cases h
      refine .outstanding howed hdistinct ?_ ?_ <;> cases receives <;> simp [failed]
    · rw [if_neg hnothing] at h
      cases h
      exact .outstanding howed hdistinct (by simp [partialAllocation]) (by simp [partialAllocation])

/-- A determined settlement of finite amounts is one of the three. -/
theorem settledAs_of_accepted {i : SettlementInput} {owed owedCash allocated cash : FiniteDecimal}
    {r : NetSettlementResult} (hquantity : i.position.quantity = .finite owed)
    (hcash : i.signedCash = .finite owedCash) (haccepted : Accepted i allocated cash)
    (h : settleNetPosition i = .ok r) : SettledAs i owed owedCash allocated cash r := by
  have hflat : isFlat i = .ok (owed.eq 0 && owedCash.eq 0) := by
    rw [isFlat, hquantity, hcash]
    cases hzero : owed.eq 0 <;> simp [Decimal.eq, hzero]
  rw [haccepted.settle, settleReported, hflat, Outcome.ok_bind] at h
  by_cases hzero : (owed.eq 0 && owedCash.eq 0) = true
  · rw [if_pos hzero] at h
    cases h
    rw [Bool.and_eq_true, FiniteDecimal.eq_iff, FiniteDecimal.eq_iff,
      FiniteDecimal.value_zero] at hzero
    exact .flat hzero.1 hzero.2
  · rw [if_neg hzero] at h
    rw [Bool.and_eq_true, FiniteDecimal.eq_iff, FiniteDecimal.eq_iff, FiniteDecimal.value_zero,
      not_and_or] at hzero
    exact settleOpen_as hquantity hcash hzero h

/-- What is zero is finite. -/
theorem finite_of_eq_zero {x : Decimal} (h : Decimal.eq x 0 = .ok true) : ∃ d, x = .finite d := by
  rcases x with d | negative | ⟨_, _ | _, _⟩
  · exact ⟨d, rfl⟩
  · cases h
  · cases h
  · cases h

/-- What leaves nothing of it was finite. -/
theorem finite_of_sub {owed outstanding : Decimal} {reported : FiniteDecimal}
    (hsub : Decimal.sub ambient owed (.finite reported) = .ok outstanding)
    (hzero : Decimal.eq outstanding 0 = .ok true) : ∃ d, owed = .finite d := by
  obtain ⟨r, rfl⟩ := finite_of_eq_zero hzero
  rcases owed with d | negative | ⟨_, _ | _, _⟩
  · exact ⟨d, rfl⟩
  · cases hsub
  · cases hsub
  · cases hsub

/-- Only finite amounts are settled in full. -/
theorem settleOpen_finite {i : SettlementInput} {breaks : List SecuritiesBreak}
    {allocated cash : FiniteDecimal} {r : NetSettlementResult}
    (h : settleOpen i breaks allocated cash = .ok r)
    (hsettled : r.disposition = .settledInFull ∨ r.disposition = .flat) :
    ∃ owed owedCash, i.position.quantity = .finite owed ∧ i.signedCash = .finite owedCash := by
  simp only [settleOpen, Outcome.bind_eq_ok] at h
  obtain ⟨outstanding, hsub, outstandingCash, hsubCash, quantitySettled, hzero, cashSettled,
    hzeroCash, h⟩ := h
  by_cases hboth : (quantitySettled && cashSettled) = true
  · obtain ⟨rfl, rfl⟩ := (Bool.and_eq_true _ _).mp hboth
    obtain ⟨owed, howed⟩ := finite_of_sub hsub hzero
    obtain ⟨owedCash, howedCash⟩ := finite_of_sub hsubCash hzeroCash
    exact ⟨owed, owedCash, howed, howedCash⟩
  · rw [if_neg hboth] at h
    simp only [Outcome.bind_eq_ok] at h
    obtain ⟨aged, -, found, -, h⟩ := h
    by_cases hnothing : (allocated.isZero && cash.isZero) = true
    · rw [if_pos hnothing, Outcome.bind_eq_ok] at h
      obtain ⟨receives, -, h⟩ := h
      cases h
      cases receives <;> simp [failed] at hsettled
    · rw [if_neg hnothing] at h
      cases h
      simp [partialAllocation] at hsettled

/-- Only finite amounts are completed, by figures that were accepted. -/
theorem accepted_of_completed {i : SettlementInput} {r : NetSettlementResult}
    (h : settleNetPosition i = .ok r) (hcompleted : r.completed = true) :
    ∃ owed owedCash allocated cash, i.position.quantity = .finite owed ∧
      i.signedCash = .finite owedCash ∧ Accepted i allocated cash := by
  simp only [NetSettlementResult.completed, Bool.and_eq_true, Bool.or_eq_true,
    decide_eq_true_eq] at hcompleted
  have hdisposition := hcompleted.2
  have hdeterminate : r.disposition ≠ .indeterminate := by
    intro hindeterminate
    simp [hindeterminate] at hdisposition
  obtain ⟨allocated, cash, haccepted⟩ := settleNetPosition_accepted h hdeterminate
  rw [haccepted.settle, settleReported, Outcome.bind_eq_ok] at h
  obtain ⟨flat, hflat, h⟩ := h
  cases flat with
  | true =>
    rw [isFlat, Outcome.bind_eq_ok] at hflat
    obtain ⟨zero, hzero, hcash⟩ := hflat
    cases zero with
    | true =>
      obtain ⟨owed, howed⟩ := finite_of_eq_zero hzero
      obtain ⟨owedCash, howedCash⟩ := finite_of_eq_zero hcash
      exact ⟨owed, owedCash, allocated, cash, howed, howedCash, haccepted⟩
    | false => cases hcash
  | false =>
    obtain ⟨owed, owedCash, howed, howedCash⟩ := settleOpen_finite h hdisposition
    exact ⟨owed, owedCash, allocated, cash, howed, howedCash, haccepted⟩

/-! ## Completion -/

/-- A settlement of finite amounts is soundly completed, where it is completed, exactly if the
figures it cannot tell apart are equal. -/
theorem SettledAs.completed_iff {i : SettlementInput} {owed owedCash allocated cash : FiniteDecimal}
    {r : NetSettlementResult} (h : SettledAs i owed owedCash allocated cash r)
    (hquantity : i.position.quantity = .finite owed) (hcash : i.signedCash = .finite owedCash) :
    (r.completed = true → CompletedSoundly i r) ↔
      (owed.value = 0 → owedCash.value = 0 → allocated.value = 0 → cash.value = 0) ∧
      (Indistinct owed allocated → Indistinct owedCash cash →
        owed.value ≠ 0 ∨ owedCash.value ≠ 0 →
          allocated.value = owed.value ∧ cash.value = owedCash.value) := by
  cases h with
  | flat howed howedCash =>
    rw [NetSettlementResult.completed, disputed_flatPosition]
    constructor
    · intro hsound
      refine ⟨fun _ _ hzero => ?_, fun _ _ hne => ?_⟩
      · have hmoved : allocated.isZero = true := FiniteDecimal.isZero_iff.mpr hzero
        obtain ⟨o, a, ho, ha, hvalue⟩ := (hsound (by simp [hmoved, flatPosition])).cash
        cases ho.symm.trans hcash
        cases ha
        exact hvalue.trans howedCash
      · exact absurd hne (by simp [howed, howedCash])
    · rintro ⟨hflat, -⟩ hcompleted
      have hmoved : allocated.isZero = true := by
        cases hzero : allocated.isZero with
        | true => rfl
        | false => simp [hzero] at hcompleted
      have hzero := FiniteDecimal.isZero_iff.mp hmoved
      refine ⟨⟨owed, allocated, hquantity, rfl, hzero.trans howed.symm⟩,
        ⟨owedCash, cash, hcash, rfl, (hflat howed howedCash hzero).trans howedCash.symm⟩, rfl, ?_⟩
      rw [disputed_flatPosition, hmoved]
      rfl
  | inFull howed hq hc =>
    constructor
    · intro hsound
      have hcompleted : (settledInFull i.position (processingDateBreaks i.position i.profile)
          allocated cash).completed = true := by
        rw [NetSettlementResult.completed, NetSettlementResult.disputed]
        simp only [settledInFull, disputed_processingDateBreaks]
        rfl
      obtain ⟨⟨o, a, ho, ha, hvalue⟩, ⟨o', a', ho', ha', hvalue'⟩, -, -⟩ := hsound hcompleted
      cases ho.symm.trans hquantity
      cases ho'.symm.trans hcash
      cases ha
      cases ha'
      refine ⟨fun hzero hzeroCash => ?_, fun _ _ _ => ⟨hvalue, hvalue'⟩⟩
      exact absurd howed (by simp [hzero, hzeroCash])
    · rintro ⟨-, hexact⟩ -
      obtain ⟨hvalue, hvalue'⟩ := hexact hq hc howed
      exact ⟨⟨owed, allocated, hquantity, rfl, hvalue⟩, ⟨owedCash, cash, hcash, rfl, hvalue'⟩, rfl,
        disputed_processingDateBreaks _ _⟩
  | outstanding howed hdistinct hsettled hflat =>
    have hcompleted : r.completed = false := by
      simp [NetSettlementResult.completed, hsettled, hflat]
    refine iff_of_true (fun h => ?_) ⟨fun hzero hzeroCash => ?_, fun hq hc => ?_⟩
    · rw [hcompleted] at h
      cases h
    · exact absurd howed (by simp [hzero, hzeroCash])
    · exact absurd ⟨hq, hc⟩ hdistinct

/-- A completed result is one where what was owed moved, no more and no less, exactly where no
cash was reported alone against a flat position, and figures that cannot be told apart are equal. -/
theorem completed_soundly_iff {i : SettlementInput} {r : NetSettlementResult}
    (h : settleNetPosition i = .ok r) :
    (r.completed = true → CompletedSoundly i r) ↔ CompletesExactly i := by
  constructor
  · intro hsound owed owedCash allocated cash hquantity hcash haccepted
    exact ((settledAs_of_accepted hquantity hcash haccepted h).completed_iff hquantity hcash).mp
      hsound
  · intro hexact hcompleted
    obtain ⟨owed, owedCash, allocated, cash, hquantity, hcash, haccepted⟩ :=
      accepted_of_completed h hcompleted
    exact ((settledAs_of_accepted hquantity hcash haccepted h).completed_iff hquantity hcash).mpr
      (hexact owed owedCash allocated cash hquantity hcash haccepted) hcompleted

theorem completed_soundly_iff_forty_of_hundred : ∃ r, settleNetPosition fortyOfHundred = .ok r ∧
    ((r.completed = true → CompletedSoundly fortyOfHundred r) ↔
      CompletesExactly fortyOfHundred) := by
  obtain ⟨r, hr⟩ : ∃ r, settleNetPosition fortyOfHundred = .ok r := ⟨_, rfl⟩
  exact ⟨r, hr, completed_soundly_iff hr⟩

/-- A flat position against which the venue reported four hundred in cash, and no securities. -/
def cashAgainstFlat : SettlementInput :=
  { fortyOfHundred with
    position := { fortyOfHundred.position with quantity := .finite 0 }
    allocatedQuantity := some (.decimal (.finite 0))
    signedCash := .finite 0 }

/-- Cash that nobody owed is completed. -/
theorem cashAgainstFlat_completed :
    ¬ ∀ (i : SettlementInput) (r : NetSettlementResult), settleNetPosition i = .ok r →
      r.completed = true → CompletedSoundly i r := by
  intro h
  obtain ⟨r, hr, hcompleted, hallocated⟩ : ∃ r, settleNetPosition cashAgainstFlat = .ok r ∧
      r.completed = true ∧ r.allocatedCash = .finite ⟨true, 400, 0⟩ := ⟨_, rfl, rfl, rfl⟩
  obtain ⟨o, a, ho, ha, hvalue⟩ := (h cashAgainstFlat r hr hcompleted).cash
  cases ho
  rw [hallocated] at ha
  cases ha
  exact absurd (FiniteDecimal.eq_iff.mpr hvalue) (by decide)

end Atreides
