import Mathlib.Data.Nat.Prime.Basic
import Mathlib.Tactic.FieldSimp
import Atreides.CorporateActions.Matched

/-!
# Entitlements conserve

The totals of an entitlement computation are exact: what the event attributes to the eligible
balances is what was allocated and what was not, and each holder with a number has exactly the
holder's part. The order of the holdings does not matter.

A number is made from the text of an integer, and Python does not write an integer of more than
4300 digits. Where the number of some holder is longer, the computation raises an error that is
no refusal of the request.

## Main definitions

* `Writable` — a number is an integer of few enough digits over a power of ten
* `EntitlesSoundly` — every answer conserves, and every error is a refusal of the request

## Main results

* `exactDecimal_eq` — the decimal of a number that terminates
* `entitlesSoundly_iff` — the computation is sound exactly where every number can be written
-/

namespace Atreides

namespace CorporateActions

/-! ## Exact decimals -/

/-- What is left of a number has no factor any more. -/
theorem stripFactor_spec {p : ℕ} (hp : 2 ≤ p) : ∀ {fuel n : ℕ}, 0 < n → n ≤ fuel →
    n = (stripFactor p fuel n).1 * p ^ (stripFactor p fuel n).2 ∧
      ¬ p ∣ (stripFactor p fuel n).1 := by
  intro fuel
  induction fuel with
  | zero => omega
  | succ fuel ih =>
    intro n hpos hle
    rw [stripFactor]
    split_ifs with hdvd
    · have hsmaller : n / p < n := Nat.div_lt_self hpos (by omega)
      have hmul := Nat.div_mul_cancel (Nat.dvd_of_mod_eq_zero hdvd)
      have hquotient : 0 < n / p := by
        apply Nat.pos_of_ne_zero
        intro hzero
        rw [hzero, zero_mul] at hmul
        omega
      obtain ⟨hsplit, hfree⟩ := ih hquotient (by omega)
      refine ⟨?_, hfree⟩
      rw [pow_succ, ← mul_assoc, ← hsplit, hmul]
    · refine ⟨by simp, fun h => hdvd (Nat.mod_eq_zero_of_dvd h)⟩

/-- A number is an integer of few enough digits over a power of ten. -/
def Writable (value : ℚ) : Prop :=
  ∃ (n : ℤ) (k : ℕ), value = n / 10 ^ k ∧ digitCount n.natAbs ≤ maxStrDigits

/-- The numbers whose decimals end. -/
def Terminates (value : ℚ) : Prop := ∃ k : ℕ, value.den ∣ 10 ^ k

theorem terminates_of_div (n : ℤ) (k : ℕ) : Terminates ((n : ℚ) / 10 ^ k) := by
  refine ⟨k, ?_⟩
  have h := Rat.den_dvd n (10 ^ k : ℤ)
  rw [Rat.divInt_eq_div] at h
  push_cast at h
  exact_mod_cast h

theorem Writable.terminates {value : ℚ} (h : Writable value) : Terminates value := by
  obtain ⟨n, k, rfl, -⟩ := h
  exact terminates_of_div n k

/-- The decimal of a number that ends, made from the least integer over a power of ten. -/
theorem exactDecimal_eq {value : ℚ} (h : Terminates value) : ∃ (n : ℤ) (k : ℕ),
    value = n / 10 ^ k ∧ (∀ j, value.den ∣ 10 ^ j → k ≤ j) ∧
      exactDecimal value = (fun _ => some ⟨n < 0, n.natAbs, -k⟩) <$> intText n := by
  obtain ⟨j, hj⟩ := h
  obtain ⟨htwos, hodd⟩ := @stripFactor_spec 2 (by norm_num) value.den value.den value.den_pos le_rfl
  have hoddpos : 0 < (stripFactor 2 value.den value.den).1 := by
    apply Nat.pos_of_ne_zero
    intro hzero
    rw [hzero] at hodd
    exact hodd (dvd_zero 2)
  have hoddle : (stripFactor 2 value.den value.den).1 ≤ value.den := by
    conv_rhs => rw [htwos]
    exact Nat.le_mul_of_pos_right _ (by positivity)
  obtain ⟨hfives, hrest⟩ := @stripFactor_spec 5 (by norm_num) value.den _ hoddpos hoddle
  rw [exactDecimal]
  generalize stripFactor 2 value.den value.den = first at *
  obtain ⟨odd, twos⟩ := first
  dsimp only at *
  generalize stripFactor 5 value.den odd = second at *
  obtain ⟨rest, fives⟩ := second
  dsimp only at *
  have hden : value.den = rest * 5 ^ fives * 2 ^ twos := by rw [← hfives, ← htwos]
  -- nothing else divides a power of ten
  have htwo : ¬ 2 ∣ rest := fun hdvd => hodd (hfives ▸ hdvd.mul_right _)
  have hcoprime : Nat.Coprime rest (10 ^ j) := by
    refine Nat.Coprime.pow_right j ?_
    rw [show 10 = 2 * 5 by norm_num]
    exact Nat.Coprime.mul_right (Nat.coprime_comm.mp ((Nat.Prime.coprime_iff_not_dvd
      Nat.prime_two).mpr htwo)) (Nat.coprime_comm.mp ((Nat.Prime.coprime_iff_not_dvd
      Nat.prime_five).mpr hrest))
  have hone : rest = 1 := by
    refine hcoprime.eq_one_of_dvd (Dvd.dvd.trans ?_ hj)
    rw [hden, mul_assoc]
    exact Dvd.intro _ rfl
  rw [hone, one_mul] at hden
  -- the places are as many as the denominator has of either factor
  have hplaces : value.den ∣ 10 ^ max twos fives := by
    rw [hden, show 10 = 5 * 2 by norm_num, mul_pow]
    exact Nat.mul_dvd_mul (Nat.pow_dvd_pow 5 (le_max_right _ _))
      (Nat.pow_dvd_pow 2 (le_max_left _ _))
  obtain ⟨c, hc⟩ := hplaces
  have hnumerator : value.num * 10 ^ max twos fives / value.den = value.num * c := by
    have hcast : (10 : ℤ) ^ max twos fives = value.den * c := by exact_mod_cast hc
    rw [hcast, mul_left_comm, Int.mul_ediv_cancel_left _ (by exact_mod_cast value.den_nz)]
  refine ⟨value.num * c, max twos fives, ?_, fun j' hj' => ?_, ?_⟩
  · have hcast : (10 : ℚ) ^ max twos fives = value.den * c := by exact_mod_cast hc
    have hden : (value.den : ℚ) ≠ 0 := by exact_mod_cast value.den_nz
    have hcpos : (c : ℚ) ≠ 0 := by
      intro hzero
      rw [hzero, mul_zero] at hcast
      exact absurd hcast (by positivity)
    rw [hcast]
    push_cast
    rw [mul_div_mul_right _ _ hcpos]
    exact (Rat.num_div_den value).symm
  · rw [max_le_iff]
    constructor
    · have hdvd : 2 ^ twos ∣ 2 ^ j' * 5 ^ j' := by
        rw [← mul_pow]
        refine Dvd.dvd.trans ?_ hj'
        rw [hden]
        exact Dvd.intro_left _ rfl
      have hfree : Nat.Coprime (2 ^ twos) (5 ^ j') := Nat.Coprime.pow _ _ (by decide)
      exact (Nat.pow_dvd_pow_iff_le_right (by norm_num)).mp (hfree.dvd_of_dvd_mul_right hdvd)
    · have hdvd : 5 ^ fives ∣ 5 ^ j' * 2 ^ j' := by
        rw [← mul_pow]
        refine Dvd.dvd.trans ?_ hj'
        rw [hden]
        exact Dvd.intro _ rfl
      have hfree : Nat.Coprime (5 ^ fives) (2 ^ j') := Nat.Coprime.pow _ _ (by decide)
      exact (Nat.pow_dvd_pow_iff_le_right (by norm_num)).mp (hfree.dvd_of_dvd_mul_right hdvd)
  · rw [if_neg (by simpa using hone), hnumerator]

/-- The decimal of a number that ends is exact where the number can be written; where it cannot,
Python raises. -/
theorem exactDecimal_cases {value : ℚ} (h : Terminates value) :
    (Writable value ∧ ∃ d, exactDecimal value = .ok (some d) ∧ d.value = value) ∨
      (¬ Writable value ∧ ∃ n, exactDecimal value = (fun _ => none) <$> intText n ∧
        ¬ (intText n).Returns) := by
  obtain ⟨n, k, hvalue, hleast, hdecimal⟩ := exactDecimal_eq h
  by_cases hdigits : digitCount n.natAbs ≤ maxStrDigits
  · left
    obtain ⟨text, htext⟩ := intText_returns_iff.mpr hdigits
    refine ⟨⟨n, k, hvalue, hdigits⟩, ⟨n < 0, n.natAbs, -k⟩, ?_, ?_⟩
    · rw [hdecimal, htext]
      rfl
    · have hint : (⟨n < 0, n.natAbs, -k⟩ : FiniteDecimal).toInt = n := by
        simp only [FiniteDecimal.toInt, decide_eq_true_eq]
        split_ifs <;> omega
      rw [FiniteDecimal.value, hint, hvalue, zpow_neg, zpow_natCast, div_eq_mul_inv]
  · right
    refine ⟨?_, n, ?_, fun hreturns => hdigits (intText_returns_iff.mp hreturns)⟩
    · rintro ⟨n', k', hvalue', hdigits'⟩
      -- any other way to write it is a longer one
      have hle : k ≤ k' := by
        refine hleast k' ?_
        have hden := Rat.den_dvd n' (10 ^ k')
        rw [Rat.divInt_eq_div] at hden
        push_cast at hden
        rw [← hvalue'] at hden
        exact_mod_cast hden
      have hscaled : n' = n * 10 ^ (k' - k) := by
        have hpow : (10 : ℚ) ^ k' = 10 ^ k * 10 ^ (k' - k) := by
          rw [← pow_add]
          congr 1
          omega
        rw [hvalue, hpow] at hvalue'
        have hcast : (n' : ℚ) = n * 10 ^ (k' - k) := by
          field_simp at hvalue'
          linarith
        exact_mod_cast hcast
      refine hdigits (le_trans ?_ hdigits')
      have hnat : n'.natAbs = n.natAbs * 10 ^ (k' - k) := by
        rw [hscaled, Int.natAbs_mul, Int.natAbs_pow]
        rfl
      rw [hnat]
      exact Nat.succ_le_succ (Nat.log_mono_right (Nat.le_mul_of_pos_right _ (by positivity)))
    · rw [hdecimal]
      cases htext : intText n with
      | ok text => exact absurd (intText_returns_iff.mp ⟨text, htext⟩) hdigits
      | error e => rfl

/-! ## Factors -/

theorem terminates_value (d : FiniteDecimal) : Terminates d.value := by
  by_cases hexponent : 0 ≤ d.exponent
  · refine ⟨0, ?_⟩
    have hint : d.value = ((d.toInt * 10 ^ d.exponent.toNat : ℤ) : ℚ) := by
      rw [FiniteDecimal.value, ← ten_zpow_toNat hexponent]
      push_cast
      rfl
    rw [hint, Rat.den_intCast, pow_zero]
  · have hquotient : d.value = (d.toInt : ℚ) / 10 ^ (-d.exponent).toNat := by
      rw [FiniteDecimal.value, div_eq_mul_inv, ← zpow_natCast, ← zpow_neg]
      congr 2
      omega
    rw [hquotient]
    exact terminates_of_div _ _

/-- A factor of an event: not negative, and a decimal where cash is counted. -/
structure IsFactor (factor : ℚ) (unit : EntitlementUnit) : Prop where
  nonneg : 0 ≤ factor
  decimal : unit = .cash → ∃ d : FiniteDecimal, factor = d.value

section Factors

/-- A reading has a factor and what it counts, or says why it has none. -/
def FactorReading.Sound (reading : FactorReading) : Prop :=
  (∃ factor unit, reading.factor = some factor ∧ reading.unit = some unit ∧
    IsFactor factor unit) ∨
  (reading.factor = none ∧ (reading.unavailableRules ≠ [] ∨ reading.missingInputs ≠ []))

theorem FactorReading.sound_missing {inputs : List String} (h : inputs ≠ []) :
    (missing inputs).Sound := Or.inr ⟨rfl, Or.inr h⟩

theorem FactorReading.sound_unavailable (rule : String) : (unavailable rule).Sound :=
  Or.inr ⟨rfl, Or.inl (List.cons_ne_nil _ _)⟩

theorem FactorReading.sound_ofRate (rate : Option CustomerProtection.NonNegativeMoney)
    (unit : EntitlementUnit) (name : String) : (ofRate rate unit name).Sound := by
  cases rate with
  | none => exact sound_missing (List.cons_ne_nil _ _)
  | some rate =>
    exact Or.inl ⟨rate.amount.value, unit, rfl, rfl, rate.value_nonneg, fun _ => ⟨rate.amount, rfl⟩⟩

/-- The shares that cash buys. -/
theorem sound_reinvestmentFactor (terms : EventTerms) : (reinvestmentFactor terms).Sound := by
  unfold reinvestmentFactor
  split
  · exact FactorReading.sound_missing (List.cons_ne_nil _ _)
  · exact FactorReading.sound_missing (List.cons_ne_nil _ _)
  · next rate price _ _ =>
    split_ifs
    · exact FactorReading.sound_unavailable _
    · refine Or.inl ⟨_, _, rfl, rfl, div_nonneg rate.value_nonneg price.value_nonneg, ?_⟩
      intro hcash
      cases hcash

/-- Both sides of a split that is stated are positive. -/
theorem EventTerms.split_pos (terms : EventTerms) {side : ℤ} :
    (terms.splitNew = some side → 0 < side) ∧ (terms.splitOld = some side → 0 < side) := by
  have hcomplete := terms.complete
  rw [EventTermsFields.paired] at hcomplete
  obtain ⟨_, _, hcomplete⟩ := Outcome.bind_eq_ok.mp hcomplete
  obtain ⟨_, hnew, hcomplete⟩ := Outcome.bind_eq_ok.mp hcomplete
  obtain ⟨_, hold, _⟩ := Outcome.bind_eq_ok.mp hcomplete
  rw [positiveSide, Outcome.refuseIf_eq_ok] at hnew hold
  constructor
  · intro hside
    rw [hside] at hnew
    simpa using hnew
  · intro hside
    rw [hside] at hold
    simpa using hold

/-- A split whose sides can be written, where it does not increase the position. -/
def SplitWritable (event : CorporateActionEvent) : Prop :=
  event.eventType = .split → ∀ new old, event.terms.splitNew = some new →
    event.terms.splitOld = some old → new ≤ old →
      digitCount new.natAbs ≤ maxStrDigits ∧ digitCount old.natAbs ≤ maxStrDigits

theorem splitFactor_cases (terms : EventTerms) :
    (∃ reading, splitFactor terms = .ok reading ∧ reading.Sound) ∨
      (∃ new old, terms.splitNew = some new ∧ terms.splitOld = some old ∧ new ≤ old ∧
        ∃ n e, intText n = .error e ∧ (n = new ∨ n = old) ∧ splitFactor terms = .error e) := by
  unfold splitFactor
  split
  · next new old hnew hold =>
    split_ifs with hincrease
    · cases hnewText : intText new with
      | error e =>
        exact Or.inr ⟨new, old, hnew, hold, hincrease, new, e, hnewText, Or.inl rfl, rfl⟩
      | ok newText =>
        cases holdText : intText old with
        | error e =>
          exact Or.inr ⟨new, old, hnew, hold, hincrease, old, e, holdText, Or.inr rfl, rfl⟩
        | ok oldText => exact Or.inl ⟨_, rfl, FactorReading.sound_unavailable _⟩
    · have holdPos := (terms.split_pos).2 hold
      refine Or.inl ⟨_, rfl, Or.inl ⟨_, _, rfl, rfl, div_nonneg ?_ ?_, ?_⟩⟩
      · exact_mod_cast (show (0 : ℤ) ≤ new - old by omega)
      · exact_mod_cast holdPos.le
      · intro hcash
        cases hcash
  · exact Or.inl ⟨_, rfl, FactorReading.sound_missing (List.cons_ne_nil _ _)⟩

/-- The factor of an event is read soundly where the sides of a split can be written, and not
read where they cannot. -/
theorem factorOf_cases (event : CorporateActionEvent) :
    (SplitWritable event ∧ ∃ reading, factorOf event = .ok reading ∧ reading.Sound) ∨
      (¬ SplitWritable event ∧ ∃ n e, intText n = .error e ∧ factorOf event = .error e) := by
  by_cases hsplit : event.eventType = .split
  · have hfactor : factorOf event = splitFactor event.terms := by
      simp [factorOf, hsplit, computedEventTypes]
    rw [hfactor]
    obtain ⟨reading, hreading, hsound⟩ |
      ⟨new, old, hnew, hold, hle, n, e, htext, hside, herror⟩ := splitFactor_cases event.terms
    · refine Or.inl ⟨fun _ new old hnew hold hle => ?_, reading, hreading, hsound⟩
      -- both sides were written
      rw [splitFactor.eq_def, hnew, hold] at hreading
      dsimp only at hreading
      rw [if_pos hle] at hreading
      obtain ⟨newText, hnewText, hreading⟩ := Outcome.bind_eq_ok.mp hreading
      obtain ⟨oldText, holdText, -⟩ := Outcome.bind_eq_ok.mp hreading
      exact ⟨intText_returns_iff.mp ⟨_, hnewText⟩, intText_returns_iff.mp ⟨_, holdText⟩⟩
    · refine Or.inr ⟨fun hwritable => ?_, n, e, htext, herror⟩
      have hdigits : ¬ digitCount n.natAbs ≤ maxStrDigits := by
        intro hle
        obtain ⟨text, hok⟩ := intText_returns_iff.mpr hle
        cases htext.symm.trans hok
      obtain ⟨hnewDigits, holdDigits⟩ := hwritable hsplit new old hnew hold hle
      obtain rfl | rfl := hside
      · exact hdigits hnewDigits
      · exact hdigits holdDigits
  · refine Or.inl ⟨fun h => absurd h hsplit, ?_⟩
    rw [factorOf]
    split_ifs with hcomputed hinterest hredemption hreinvestment hcash hstock
    · exact ⟨_, rfl, FactorReading.sound_ofRate _ _ _⟩
    · exact ⟨_, rfl, FactorReading.sound_ofRate _ _ _⟩
    · exact ⟨_, rfl, sound_reinvestmentFactor _⟩
    · exact ⟨_, rfl, FactorReading.sound_ofRate _ _ _⟩
    · exact ⟨_, rfl, FactorReading.sound_ofRate _ _ _⟩
    · -- the one class left is the split
      exfalso
      revert hcomputed hinterest hredemption hreinvestment hcash hstock hsplit
      cases event.eventType <;> simp [computedEventTypes]
    · exact ⟨_, rfl, FactorReading.sound_unavailable _⟩

end Factors

/-! ## One holder -/

/-- What the event attributes to a holding. -/
def attributable (factor : ℚ) (holding : HolderPosition) : ℚ :=
  factor * holding.position.eligibleBalance.value

/-- The holding has a number: no reason to have none. -/
def determined (factor : ℚ) (unit : EntitlementUnit) (holding : HolderPosition) : Bool :=
  reasonsFor holding.position (attributable factor holding) unit = []

/-- A holder has reasons exactly where there is no number. -/
theorem HolderEntitlement.unavailable_eq_nil_iff (holder : HolderEntitlement) :
    holder.unavailable = [] ↔ holder.quantity ≠ none := by
  have hvalid := holder.valid
  rw [HolderEntitlementFields.aNumberOrAReason] at hvalid
  obtain ⟨_, hone, -⟩ := Outcome.bind_eq_ok.mp hvalid
  rw [Outcome.refuseIf_eq_ok] at hone
  cases hquantity : holder.quantity <;> cases hreasons : holder.unavailable <;>
    simp [hquantity, hreasons] at hone ⊢

/-- What is returned for a holding. -/
structure EntitledTo (factor : ℚ) (unit : EntitlementUnit) (holding : HolderPosition)
    (holder : HolderEntitlement) : Prop where
  account : holder.accountId = holding.accountId
  balance : holder.eligibleBalance = holding.position.eligibleBalance
  reasons : holder.unavailable =
    reasonsFor holding.position (attributable factor holding) unit
  /-- A number is the holder's part, to the last digit. -/
  exact : ∀ d, holder.quantity = some d → d.value = attributable factor holding
  stated : holder.quantity.isSome = determined factor unit holding

section Holders

variable {factor : ℚ} {unit : EntitlementUnit} {holding : HolderPosition}

theorem terminates_attributable (hfactor : IsFactor factor unit)
    (hdetermined : determined factor unit holding = true) :
    Terminates (attributable factor holding) := by
  cases unit with
  | cash =>
    obtain ⟨d, rfl⟩ := hfactor.decimal rfl
    rw [attributable, ← FiniteDecimal.value_exactMul]
    exact terminates_value _
  | shares =>
    -- a part of a share is a reason to have no number
    have hwhole : (attributable factor holding).den = 1 := by
      by_contra hpart
      simp [determined, reasonsFor, hpart] at hdetermined
    refine ⟨0, ?_⟩
    rw [hwhole]
    exact one_dvd _

theorem attributable_nonneg (hfactor : IsFactor factor unit)
    (hdetermined : determined factor unit holding = true) : 0 ≤ attributable factor holding := by
  refine mul_nonneg hfactor.nonneg ?_
  by_contra hshort
  have hlt : holding.position.eligibleBalance.lt 0 = true := by
    rw [FiniteDecimal.lt_iff, FiniteDecimal.value_zero]
    exact not_le.mp hshort
  simp [determined, reasonsFor, hlt] at hdetermined

/-- One holding: what is returned where its number can be written, and an error where not. -/
theorem holderEntitlement_cases (hfactor : IsFactor factor unit) (holding : HolderPosition) :
    ((determined factor unit holding = true → Writable (attributable factor holding)) ∧
      ∃ holder, holderEntitlement holding factor unit =
        .ok (holder, attributable factor holding) ∧ EntitledTo factor unit holding holder) ∨
    (determined factor unit holding = true ∧ ¬ Writable (attributable factor holding) ∧
      ∃ n e, intText n = .error e ∧ holderEntitlement holding factor unit = .error e) := by
  have hbuild : ∀ fields : HolderEntitlementFields, fields.aNumberOrAReason = .ok () →
      ∃ holder, fields.build = .ok holder ∧ holder.toHolderEntitlementFields = fields := by
    intro fields hvalid
    refine ⟨⟨fields, hvalid⟩, ?_, rfl⟩
    rw [HolderEntitlementFields.build]
    split
    · rfl
    · next e herror => exact absurd (hvalid.symm.trans herror) (by simp)
  by_cases hdetermined : determined factor unit holding = true
  · have hnone : reasonsFor holding.position (attributable factor holding) unit = [] := by
      simpa [determined] using hdetermined
    have hnone' := hnone
    rw [attributable] at hnone'
    obtain ⟨hwritable, d, hd, hvalue⟩ | ⟨hlong, n, hn, hraises⟩ :=
      exactDecimal_cases (terminates_attributable hfactor hdetermined)
    · left
      refine ⟨fun _ => hwritable, ?_⟩
      have hnonneg : d.lt 0 = false := by
        rw [Bool.eq_false_iff]
        intro hlt
        rw [FiniteDecimal.lt_iff, FiniteDecimal.value_zero, hvalue] at hlt
        exact absurd (attributable_nonneg hfactor hdetermined) (not_le.mpr hlt)
      obtain ⟨holder, hholder, hfields⟩ := hbuild
        { accountId := holding.accountId
          eligibleBalance := holding.position.eligibleBalance
          quantity := some d } (by
            simp [HolderEntitlementFields.aNumberOrAReason, Outcome.bind_eq_ok, hnonneg])
      refine ⟨holder, ?_, ?_⟩
      · rw [attributable] at hd
        simp only [holderEntitlement, hnone', entitledQuantity, if_true, hd, Outcome.ok_bind]
        simp only [List.not_mem_nil, or_self, decide_false, Bool.false_eq_true, if_false]
        rw [hholder]
        rfl
      · refine ⟨by rw [hfields], by rw [hfields], by rw [hfields, hnone], fun d' hd' => ?_, ?_⟩
        · rw [hfields] at hd'
          cases hd'
          exact hvalue
        · rw [hfields, hdetermined]
          rfl
    · right
      refine ⟨hdetermined, hlong, n, ?_⟩
      cases htext : intText n with
      | ok text => exact absurd ⟨text, htext⟩ hraises
      | error e =>
        refine ⟨e, rfl, ?_⟩
        rw [htext, attributable] at hn
        simp only [holderEntitlement, hnone', entitledQuantity, if_true, hn]
        rfl
  · left
    refine ⟨fun h => absurd h hdetermined, ?_⟩
    have hsome : reasonsFor holding.position (attributable factor holding) unit ≠ [] := by
      simpa [determined] using hdetermined
    obtain ⟨holder, hholder, hfields⟩ := hbuild
      { accountId := holding.accountId
        eligibleBalance := holding.position.eligibleBalance
        quantity := none
        unavailable := reasonsFor holding.position (attributable factor holding) unit
        explanation :=
          if .recordDateDivergence ∈ reasonsFor holding.position (attributable factor holding) unit ∨
              .pendingDeliveryOrReceipt ∈
                reasonsFor holding.position (attributable factor holding) unit then
            some (absentEntitlementTreatment holding.position.securityId)
          else none } (by
            simp [HolderEntitlementFields.aNumberOrAReason, Outcome.bind_eq_ok, hsome])
    refine ⟨holder, ?_, ?_⟩
    · rw [attributable] at hsome hholder
      simp only [holderEntitlement, entitledQuantity, if_neg hsome, Outcome.ok_bind,
        decide_eq_true_eq]
      rw [hholder]
      rfl
    · refine ⟨by rw [hfields], by rw [hfields], by rw [hfields], fun d' hd' => ?_, ?_⟩
      · rw [hfields] at hd'
        cases hd'
      · rw [hfields, Bool.eq_false_iff.mpr hdetermined]
        rfl

end Holders

/-! ## All holders -/

/-- Where a holding has a number, it can be written. -/
def NumberWritable (factor : ℚ) (unit : EntitlementUnit) (holding : HolderPosition) : Prop :=
  determined factor unit holding = true → Writable (attributable factor holding)

/-- What the event attributes to the holdings that have a number. -/
def allocatedTo (factor : ℚ) (unit : EntitlementUnit) (holdings : List HolderPosition) : ℚ :=
  ((holdings.filter (determined factor unit)).map (attributable factor)).sum

/-- What the event attributes to the other holdings. -/
def residualOf (factor : ℚ) (unit : EntitlementUnit) (holdings : List HolderPosition) : ℚ :=
  ((holdings.filter fun holding => !determined factor unit holding).map (attributable factor)).sum

section Totals

variable {factor : ℚ} {unit : EntitlementUnit} {holdings order : List HolderPosition}
  {holders : List HolderEntitlement}

theorem allocatedTo_add_residualOf (factor : ℚ) (unit : EntitlementUnit)
    (holdings : List HolderPosition) :
    allocatedTo factor unit holdings + residualOf factor unit holdings =
      factor * (holdings.map fun holding => holding.position.eligibleBalance.value).sum := by
  induction holdings with
  | nil => simp [allocatedTo, residualOf]
  | cons holding rest ih =>
    rw [allocatedTo, residualOf] at ih ⊢
    cases hdetermined : determined factor unit holding <;>
      simp [hdetermined, attributable] at ih ⊢ <;> linarith

/-- The numbers of the holders are what was allocated. -/
theorem sum_quantities (h : List.Forall₂ (EntitledTo factor unit) holdings holders) :
    (holders.filterMap fun holder => holder.quantity.map FiniteDecimal.value).sum =
      allocatedTo factor unit holdings := by
  induction h with
  | nil => rfl
  | @cons holding holder holdings holders hentitled _ ih =>
    rw [allocatedTo] at ih ⊢
    cases hquantity : holder.quantity with
    | none =>
      have hdetermined : determined factor unit holding = false := by
        rw [← hentitled.stated, hquantity]
        rfl
      simpa [hquantity, hdetermined] using ih
    | some d =>
      have hdetermined : determined factor unit holding = true := by
        rw [← hentitled.stated, hquantity]
        rfl
      simp [hquantity, hdetermined, ih, hentitled.exact d hquantity]

/-- The holdings, one after the other: what is added where all numbers can be written, and the
error of the first that cannot. -/
theorem foldSteps_addHolding (hfactor : IsFactor factor unit) :
    ∀ (holdings : List HolderPosition) (before : List HolderEntitlement) (allocated residual : ℚ),
      ((∀ holding ∈ holdings, NumberWritable factor unit holding) ∧
        ∃ holders, Outcome.foldSteps (addHolding factor unit) (before, allocated, residual)
            holdings = .ok (before ++ holders, allocated + allocatedTo factor unit holdings,
              residual + residualOf factor unit holdings) ∧
          List.Forall₂ (EntitledTo factor unit) holdings holders) ∨
      ((∃ holding ∈ holdings, ¬ NumberWritable factor unit holding) ∧
        ∃ n e, intText n = .error e ∧
          Outcome.foldSteps (addHolding factor unit) (before, allocated, residual) holdings =
            .error e) := by
  intro holdings
  induction holdings with
  | nil =>
    intro before allocated residual
    exact Or.inl ⟨by simp, [], by simp [allocatedTo, residualOf], .nil⟩
  | cons holding rest ih =>
    intro before allocated residual
    rw [Outcome.foldSteps_cons]
    obtain ⟨hwritable, holder, hholder, hentitled⟩ | ⟨hdetermined, hlong, n, e, htext, herror⟩ :=
      holderEntitlement_cases hfactor holding
    · have hstep : ∃ allocated' residual', addHolding factor unit (before, allocated, residual)
            holding = .ok (before ++ [holder], allocated', residual') ∧
          allocated' + allocatedTo factor unit rest =
            allocated + allocatedTo factor unit (holding :: rest) ∧
          residual' + residualOf factor unit rest =
            residual + residualOf factor unit (holding :: rest) := by
        simp only [addHolding, hholder, Outcome.ok_bind, allocatedTo, residualOf]
        cases hquantity : holder.quantity with
        | none =>
          have hdetermined : determined factor unit holding = false := by
            rw [← hentitled.stated, hquantity]
            rfl
          exact ⟨_, _, rfl, by simp [hdetermined], by simp [hdetermined, add_assoc]⟩
        | some d =>
          have hdetermined : determined factor unit holding = true := by
            rw [← hentitled.stated, hquantity]
            rfl
          exact ⟨_, _, rfl, by simp [hdetermined, add_assoc], by simp [hdetermined]⟩
      obtain ⟨allocated', residual', hstep, hallocated, hresidual⟩ := hstep
      rw [hstep, Outcome.ok_bind]
      obtain ⟨hall, holders, hfold, hforall⟩ | ⟨⟨other, hother, hlong⟩, n, e, htext, hfold⟩ :=
        ih (before ++ [holder]) allocated' residual'
      · refine Or.inl ⟨?_, holder :: holders, ?_, .cons hentitled hforall⟩
        · intro other hother
          obtain rfl | hother := List.mem_cons.mp hother
          · exact hwritable
          · exact hall other hother
        · rw [hfold, hallocated, hresidual, List.append_assoc]
          rfl
      · exact Or.inr ⟨⟨other, List.mem_cons_of_mem _ hother, hlong⟩, n, e, htext, hfold⟩
    · refine Or.inr ⟨⟨holding, List.mem_cons_self, fun h => hlong (h hdetermined)⟩, n, e, htext, ?_⟩
      rw [addHolding, herror]
      rfl

end Totals

/-! ## The computation -/

/-- The errors that refuse the request: an account that appears twice, a holding in another
security, or one that is no face amount where the arithmetic needs it. -/
def RefusesRequest (event : CorporateActionEvent) (holdings : List HolderPosition)
    (e : PyError) : Prop :=
  (¬ (holdings.map (·.accountId)).Nodup ∧
      e = .valueError "an account appears more than once") ∨
    ∃ holding ∈ holdings, holdingFits event holding = .error e

/-- What is computed conserves. -/
structure Conserves (holdings : List HolderPosition) (factor : ℚ) (unit : EntitlementUnit)
    (result : EntitlementResult) : Prop where
  usesFactor : result.factor = some factor
  total : result.eventTotal =
    some (factor * (holdings.map fun holding => holding.position.eligibleBalance.value).sum)
  allocated : result.allocatedTotal =
    some ((result.holders.filterMap fun holder => holder.quantity.map FiniteDecimal.value).sum)
  conserved : ∃ allocated residual, result.allocatedTotal = some allocated ∧
    result.residual = some residual ∧ result.eventTotal = some (allocated + residual)
  passes : result.disposition = .pass ↔ ∀ holder ∈ result.holders, holder.quantity ≠ none
  holders : ∃ order, order.Perm holdings ∧
    List.Forall₂ (EntitledTo factor unit) order result.holders

/-- Every answer conserves, whatever the order of the holdings, and every error refuses the
request. -/
structure EntitlesSoundly (event : CorporateActionEvent) (holdings : List HolderPosition) :
    Prop where
  conserves : ∀ result reading factor unit, computeEntitlements event holdings = .ok result →
    factorOf event = .ok reading → reading.factor = some factor → reading.unit = some unit →
      Conserves holdings factor unit result
  /-- Where there is no factor, nothing is computed, and nothing passes. -/
  withoutFactor : ∀ result reading, computeEntitlements event holdings = .ok result →
    factorOf event = .ok reading → reading.factor = none →
      result.disposition ≠ .pass ∧ result.holders = [] ∧ result.allocatedTotal = none ∧
        result.residual = none ∧ result.eventTotal = none
  reorders : ∀ result, computeEntitlements event holdings = .ok result →
    ∀ order, order.Perm holdings → computeEntitlements event order = .ok result
  refuses : ∀ e, computeEntitlements event holdings = .error e → RefusesRequest event holdings e

/-- Every integer that is written has few enough digits, where the request is in order. -/
def InDigits (event : CorporateActionEvent) (holdings : List HolderPosition) : Prop :=
  (holdings.map (·.accountId)).Nodup → (∀ holding ∈ holdings, holdingFits event holding = .ok ()) →
    SplitWritable event ∧
      ∀ reading factor unit, factorOf event = .ok reading → reading.factor = some factor →
        reading.unit = some unit → ∀ holding ∈ holdings, NumberWritable factor unit holding

section Computation

variable {event : CorporateActionEvent} {holdings order : List HolderPosition}
  {result : EntitlementResult}

/-- The holdings are sorted by account. -/
def byAccount (holdings : List HolderPosition) : List HolderPosition :=
  holdings.insertionSort fun a b => a.accountId ≤ b.accountId

theorem byAccount_perm (holdings : List HolderPosition) : (byAccount holdings).Perm holdings :=
  List.perm_insertionSort _ _

/-- The computation for a request in order. -/
theorem computeEntitlements_eq (hnodup : (holdings.map (·.accountId)).Nodup)
    (hfits : ∀ holding ∈ holdings, holdingFits event holding = .ok ()) :
    computeEntitlements event holdings = (factorOf event >>= fun reading =>
      match reading.factor, reading.unit with
      | some factor, some unit =>
        Outcome.foldSteps (addHolding factor unit) ([], 0, 0) (byAccount holdings) >>=
          fun totals => EntitlementResultFields.build
            { eventId := event.eventId
              eventType := event.eventType
              unit := some unit
              currency := if unit = .cash then event.terms.currency else none
              factor := some factor
              disposition := CustomerProtection.decide (sortedSet
                (totals.1.flatMap fun holder => holder.unavailable.map (·.value))) [] []
              holders := totals.1
              allocatedTotal := some totals.2.1
              residual := some totals.2.2
              eventTotal := some (totals.2.1 + totals.2.2) }
      | _, _ => .ok (notComputed event reading)) := by
  have hfold : Outcome.foldSteps (fun _ holding => holdingFits event holding) () holdings =
      .ok () := Outcome.foldSteps_unit_eq_ok.mpr hfits
  rw [computeEntitlements]
  simp only [Outcome.refuseIf, not_true_eq_false, hnodup, if_false, hfold, Outcome.ok_bind]
  rfl

theorem build_eq_ok {fields : EntitlementResultFields}
    (h : fields.build = .ok result) : result.toEntitlementResultFields = fields := by
  rw [EntitlementResultFields.build] at h
  split at h
  · cases h
    rfl
  · cases h

theorem build_returns (fields : EntitlementResultFields) (h : fields.conserved = .ok ()) :
    ∃ result, fields.build = .ok result := by
  refine ⟨⟨fields, h⟩, ?_⟩
  rw [EntitlementResultFields.build]
  split
  · rfl
  · next e herror => exact absurd (h.symm.trans herror) (by simp)

/-- A request in order: answered where every integer can be written, and an error where not. -/
theorem computeEntitlements_cases (hnodup : (holdings.map (·.accountId)).Nodup)
    (hfits : ∀ holding ∈ holdings, holdingFits event holding = .ok ()) :
    (InDigits event holdings ∧ (computeEntitlements event holdings).Returns) ∨
      (¬ InDigits event holdings ∧ ∃ n e, intText n = .error e ∧
        computeEntitlements event holdings = .error e) := by
  rw [computeEntitlements_eq hnodup hfits]
  obtain ⟨hsplit, reading, hreading, hsound⟩ | ⟨hsplit, n, e, htext, herror⟩ :=
    factorOf_cases event
  · rw [hreading, Outcome.ok_bind]
    obtain ⟨factor, unit, hfactor, hunit, hisFactor⟩ | ⟨hnone, -⟩ := hsound
    · rw [hfactor, hunit]
      dsimp only
      have hmem : ∀ holding, holding ∈ byAccount holdings ↔ holding ∈ holdings :=
        fun _ => (byAccount_perm holdings).mem_iff
      obtain ⟨hall, holders, hfold, hforall⟩ | ⟨⟨holding, hholding, hlong⟩, n, e, htext, hfold⟩ :=
        foldSteps_addHolding hisFactor (byAccount holdings) [] 0 0
      · refine Or.inl ⟨fun _ _ => ⟨hsplit, ?_⟩, ?_⟩
        · intro reading' factor' unit' hreading' hfactor' hunit' holding hholding
          cases hreading.symm.trans hreading'
          cases hfactor.symm.trans hfactor'
          cases hunit.symm.trans hunit'
          exact hall holding ((hmem holding).mpr hholding)
        · rw [hfold, Outcome.ok_bind]
          apply build_returns
          simp [EntitlementResultFields.conserved, Outcome.bind_eq_ok]
      · refine Or.inr ⟨fun hdigits => hlong ?_, n, e, htext, ?_⟩
        · exact (hdigits hnodup hfits).2 reading factor unit hreading hfactor hunit holding
            ((hmem holding).mp hholding)
        · rw [hfold]
          rfl
    · refine Or.inl ⟨fun _ _ => ⟨hsplit, ?_⟩, ?_⟩
      · intro reading' factor' unit' hreading' hfactor'
        cases hreading.symm.trans hreading'
        rw [hnone] at hfactor'
        cases hfactor'
      · rw [hnone]
        exact ⟨_, rfl⟩
  · refine Or.inr ⟨fun hdigits => hsplit (hdigits hnodup hfits).1, n, e, htext, ?_⟩
    rw [herror]
    rfl

/-- What a request in order is answered with. -/
theorem conserves_of_ok {reading : FactorReading} {factor : ℚ} {unit : EntitlementUnit}
    (hnodup : (holdings.map (·.accountId)).Nodup)
    (hfits : ∀ holding ∈ holdings, holdingFits event holding = .ok ())
    (hreading : factorOf event = .ok reading) (hfactor : reading.factor = some factor)
    (hunit : reading.unit = some unit) (h : computeEntitlements event holdings = .ok result) :
    Conserves holdings factor unit result := by
  have hisFactor : IsFactor factor unit := by
    obtain ⟨-, reading', hreading', hsound⟩ | ⟨-, n, e, -, herror⟩ := factorOf_cases event
    · cases hreading.symm.trans hreading'
      obtain ⟨factor', unit', hfactor', hunit', hisFactor⟩ | ⟨hnone, -⟩ := hsound
      · cases hfactor.symm.trans hfactor'
        cases hunit.symm.trans hunit'
        exact hisFactor
      · rw [hnone] at hfactor
        cases hfactor
    · rw [hreading] at herror
      cases herror
  rw [computeEntitlements_eq hnodup hfits, hreading, Outcome.ok_bind, hfactor, hunit] at h
  dsimp only at h
  obtain ⟨-, holders, hfold, hforall⟩ | ⟨-, n, e, -, hfold⟩ :=
    foldSteps_addHolding hisFactor (byAccount holdings) [] 0 0
  · simp only [List.nil_append, zero_add] at hfold
    rw [hfold, Outcome.ok_bind] at h
    have hfields := build_eq_ok h
    have hholders : result.holders = holders := by rw [hfields]
    have hallocated : result.allocatedTotal = some (allocatedTo factor unit (byAccount holdings)) := by
      rw [hfields]
    have hresidual : result.residual = some (residualOf factor unit (byAccount holdings)) := by
      rw [hfields]
    have htotal : result.eventTotal = some (allocatedTo factor unit (byAccount holdings) +
        residualOf factor unit (byAccount holdings)) := by
      rw [hfields]
    refine ⟨by rw [hfields], ?_, ?_, ⟨_, _, hallocated, hresidual, htotal⟩, ?_,
      byAccount holdings, byAccount_perm holdings, by rw [hholders]; exact hforall⟩
    · rw [htotal, allocatedTo_add_residualOf]
      congr 2
      exact ((byAccount_perm holdings).map _).sum_eq
    · rw [hallocated, hholders, sum_quantities hforall]
    · rw [hholders]
      have hpass : result.disposition = .pass ↔
          ∀ holder ∈ holders, holder.unavailable = [] := by
        rw [hfields]
        simp [CustomerProtection.decide_eq_pass, List.flatMap_eq_nil_iff]
      rw [hpass]
      constructor
      · intro hall holder hholder
        exact holder.unavailable_eq_nil_iff.mp (hall holder hholder)
      · intro hall holder hholder
        exact holder.unavailable_eq_nil_iff.mpr (hall holder hholder)
  · rw [hfold] at h
    cases h

theorem reorders_of_ok (hnodup : (holdings.map (·.accountId)).Nodup)
    (hfits : ∀ holding ∈ holdings, holdingFits event holding = .ok ())
    (hperm : order.Perm holdings) (h : computeEntitlements event holdings = .ok result) :
    computeEntitlements event order = .ok result := by
  have hnodup' : (order.map (·.accountId)).Nodup := (hperm.map _).nodup_iff.mpr hnodup
  have hsorted : byAccount order = byAccount holdings := insertionSort_eq_of_perm hperm hnodup'
  rw [computeEntitlements_eq hnodup hfits] at h
  rw [computeEntitlements_eq hnodup' fun holding hholding => hfits holding (hperm.subset hholding),
    hsorted]
  exact h

theorem withoutFactor_of_ok {reading : FactorReading}
    (hnodup : (holdings.map (·.accountId)).Nodup)
    (hfits : ∀ holding ∈ holdings, holdingFits event holding = .ok ())
    (hreading : factorOf event = .ok reading) (hnone : reading.factor = none)
    (h : computeEntitlements event holdings = .ok result) :
    result.disposition ≠ .pass ∧ result.holders = [] ∧ result.allocatedTotal = none ∧
      result.residual = none ∧ result.eventTotal = none := by
  rw [computeEntitlements_eq hnodup hfits, hreading, Outcome.ok_bind, hnone] at h
  cases h
  refine ⟨?_, rfl, rfl, rfl, rfl⟩
  obtain ⟨-, reading', hreading', hsound⟩ | ⟨-, n, e, -, herror⟩ := factorOf_cases event
  · cases hreading.symm.trans hreading'
    obtain ⟨factor, unit, hfactor, -⟩ | ⟨-, hgaps⟩ := hsound
    · rw [hnone] at hfactor
      cases hfactor
    · intro hpass
      obtain ⟨hrules, hinputs, -⟩ := CustomerProtection.decide_eq_pass.mp hpass
      obtain hgap | hgap := hgaps
      · exact hgap hrules
      · exact hgap hinputs
  · rw [hreading] at herror
    cases herror

/-- A request that is not in order is refused for it. -/
theorem refused_of_not_inOrder
    (h : ¬ ((holdings.map (·.accountId)).Nodup ∧
      ∀ holding ∈ holdings, holdingFits event holding = .ok ())) :
    ∃ e, computeEntitlements event holdings = .error e ∧ RefusesRequest event holdings e := by
  by_cases hnodup : (holdings.map (·.accountId)).Nodup
  · have hfits : ¬ ∀ holding ∈ holdings, holdingFits event holding = .ok () :=
      fun hall => h ⟨hnodup, hall⟩
    cases hfold : Outcome.foldSteps (fun _ holding => holdingFits event holding) () holdings with
    | ok u => exact absurd (Outcome.foldSteps_unit_eq_ok.mp hfold) hfits
    | error e =>
      refine ⟨e, ?_, Or.inr (Outcome.exists_of_foldSteps_unit_error hfold)⟩
      rw [computeEntitlements]
      simp only [Outcome.refuseIf, hnodup, not_true_eq_false, if_false, Outcome.ok_bind, hfold]
      rfl
  · refine ⟨_, ?_, Or.inl ⟨hnodup, rfl⟩⟩
    rw [computeEntitlements]
    simp only [Outcome.refuseIf, hnodup, not_false_eq_true, if_true]
    rfl

theorem entitlesSoundly_of_inDigits (hdigits : InDigits event holdings) :
    EntitlesSoundly event holdings := by
  by_cases hinOrder : (holdings.map (·.accountId)).Nodup ∧
      ∀ holding ∈ holdings, holdingFits event holding = .ok ()
  · obtain ⟨hnodup, hfits⟩ := hinOrder
    refine ⟨fun result reading factor unit h hreading hfactor hunit => ?_,
      fun result reading h hreading hnone => ?_, fun result h order hperm => ?_, fun e h => ?_⟩
    · exact conserves_of_ok hnodup hfits hreading hfactor hunit h
    · exact withoutFactor_of_ok hnodup hfits hreading hnone h
    · exact reorders_of_ok hnodup hfits hperm h
    · obtain ⟨-, result, hok⟩ | ⟨hlong, -⟩ := computeEntitlements_cases hnodup hfits
      · rw [hok] at h
        cases h
      · exact absurd hdigits hlong
  · obtain ⟨e, herror, hrefuses⟩ := refused_of_not_inOrder hinOrder
    have hnone : ∀ result, computeEntitlements event holdings ≠ .ok result := by
      intro result hok
      rw [herror] at hok
      cases hok
    refine ⟨fun result _ _ _ h => absurd h (hnone result), fun result _ h => absurd h (hnone result),
      fun result h => absurd h (hnone result), fun e' h => ?_⟩
    cases herror.symm.trans h
    exact hrefuses

theorem inDigits_of_entitlesSoundly (h : EntitlesSoundly event holdings) :
    InDigits event holdings := by
  by_contra hlong
  have hinOrder : (holdings.map (·.accountId)).Nodup ∧
      ∀ holding ∈ holdings, holdingFits event holding = .ok () := by
    by_contra hnot
    exact hlong fun hnodup hfits => absurd ⟨hnodup, hfits⟩ hnot
  obtain ⟨hnodup, hfits⟩ := hinOrder
  obtain ⟨hdigits, -⟩ | ⟨-, n, e, -, herror⟩ := computeEntitlements_cases hnodup hfits
  · exact hlong hdigits
  · -- the error names nothing that is wrong with the request
    obtain ⟨hrepeated, -⟩ | ⟨holding, hholding, hmisfit⟩ := h.refuses e herror
    · exact hrepeated hnodup
    · rw [hfits holding hholding] at hmisfit
      cases hmisfit

end Computation

/-- Every answer conserves and every error refuses the request, exactly where every integer that
is written has few enough digits. -/
theorem entitlesSoundly_iff (event : CorporateActionEvent) (holdings : List HolderPosition) :
    EntitlesSoundly event holdings ↔ InDigits event holdings :=
  ⟨inDigits_of_entitlesSoundly, entitlesSoundly_of_inDigits⟩

/-- A power of ten past the digits that are written. -/
theorem not_writable_pow : ¬ Writable (10 ^ maxStrDigits) := by
  intro h
  obtain ⟨n, k, hvalue, hdigits⟩ := h
  have hn : n = 10 ^ (maxStrDigits + k) := by
    have hcast : (n : ℚ) = 10 ^ (maxStrDigits + k) := by
      rw [pow_add, hvalue]
      field_simp
    exact_mod_cast hcast
  have hcount : digitCount n.natAbs = maxStrDigits + k + 1 := by
    rw [hn, Int.natAbs_pow, digitCount]
    exact congrArg (· + 1) (Nat.log_pow (by norm_num) _)
  omega

/-- A holder of a power of ten of shares is attributed as many dollars, and the computation
raises. -/
theorem not_entitlesSoundly : ¬ EntitlesSoundly septemberDividend
    [septemberHolding ⟨false, 1, maxStrDigits⟩] := by
  intro h
  have hfits : ∀ holding ∈ [septemberHolding ⟨false, 1, maxStrDigits⟩],
      holdingFits septemberDividend holding = .ok () := by
    intro holding hholding
    rw [List.mem_singleton.mp hholding]
    decide +kernel
  obtain ⟨-, hwritable⟩ := inDigits_of_entitlesSoundly h (List.nodup_singleton _) hfits
  have hlong := hwritable { factor := some (FiniteDecimal.value 1), unit := some .cash } _ .cash
    rfl rfl rfl _ (List.mem_singleton_self _) (by decide +kernel)
  apply not_writable_pow
  have hvalue : attributable (FiniteDecimal.value 1)
      (septemberHolding ⟨false, 1, maxStrDigits⟩) = 10 ^ maxStrDigits := by
    have hone : FiniteDecimal.value 1 = 1 := by decide +kernel
    rw [attributable, hone, one_mul]
    change FiniteDecimal.value ⟨false, 1, (maxStrDigits : ℤ)⟩ = _
    rw [FiniteDecimal.value, zpow_natCast]
    simp [FiniteDecimal.toInt]
  rw [← hvalue]
  exact hlong

end CorporateActions

end Atreides
