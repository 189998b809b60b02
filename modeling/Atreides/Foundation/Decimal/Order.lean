import Mathlib.Order.WithBot
import Atreides.Foundation.Decimal.Division
import Atreides.Foundation.Decimal.Values

/-!
# The order of decimals

Decimals that are numbers are ordered as the rationals with the two infinities. A decimal is at
most another when both are numbers in that order, or neither is a number. Sums keep this, the smaller
of two keeps it, and a sum with something that is not negative is not below what it started from,
once that fits the context.

## Main definitions

* `Decimal.extended` — the number of a decimal, the infinities included
* `Decimal.AtMost` — the order, where two NaNs are not told apart
* `Decimal.NotNegative` — a number that is not below zero, or the positive infinity
* `Decimal.Fits` — a finite decimal fits the context

## Main results

* `AtMost.add`, `AtMost.sub`, `AtMost.min` — what keeps the order
* `atMost_add` — adding what is not negative
-/

namespace Decimal

variable {ctx : DecimalContext} {a b c x y r r' : Decimal}

/-- The number of a decimal, the infinities included. -/
def extended : Decimal → WithBot (WithTop ℚ)
  | finite d => ((d.value : WithTop ℚ) : WithBot (WithTop ℚ))
  | infinite true => ⊥
  | infinite false => ((⊤ : WithTop ℚ) : WithBot (WithTop ℚ))
  | nan .. => ⊥

theorem ltNumber_iff (ha : a.isNaN = false) (hb : b.isNaN = false) :
    a.ltNumber b = true ↔ a.extended < b.extended := by
  cases a with
  | finite d =>
    cases b with
    | finite d' =>
      rw [extended, extended, WithBot.coe_lt_coe, WithTop.coe_lt_coe]
      exact FiniteDecimal.lt_iff
    | infinite negative =>
      cases negative with
      | true => simp [ltNumber, extended]
      | false =>
        rw [extended, extended, WithBot.coe_lt_coe]
        simp [ltNumber]
    | nan => cases hb
  | infinite negative =>
    cases negative with
    | true =>
      cases b with
      | finite d' => simp [ltNumber, extended]
      | infinite negative' =>
        cases negative' with
        | true => simp [ltNumber, extended]
        | false => simp [ltNumber, extended]
      | nan => cases hb
    | false =>
      cases b with
      | finite d' =>
        rw [extended, extended, WithBot.coe_lt_coe]
        simp [ltNumber]
      | infinite negative' =>
        cases negative' with
        | true => simp [ltNumber, extended]
        | false => simp [ltNumber, extended]
      | nan => cases hb
  | nan => cases ha

theorem lt_eq_ok_true_iff :
    lt a b = .ok true ↔ a.isNaN = false ∧ b.isNaN = false ∧ a.extended < b.extended := by
  rw [lt]
  cases ha : a.isNaN with
  | true => simp
  | false =>
    cases hb : b.isNaN with
    | true => simp
    | false => simp [← ltNumber_iff ha hb]

theorem lt_eq_ok_false_iff :
    lt a b = .ok false ↔ a.isNaN = false ∧ b.isNaN = false ∧ b.extended ≤ a.extended := by
  rw [lt]
  cases ha : a.isNaN with
  | true => simp
  | false =>
    cases hb : b.isNaN with
    | true => simp
    | false => simp [← not_lt, ← ltNumber_iff ha hb]

theorem le_eq_ok_true_iff :
    le a b = .ok true ↔ a.isNaN = false ∧ b.isNaN = false ∧ a.extended ≤ b.extended := by
  rw [le]
  cases ha : a.isNaN with
  | true => simp
  | false =>
    cases hb : b.isNaN with
    | true => simp
    | false => simp [← not_lt, ← ltNumber_iff hb ha]

/-- What is above another is not equal to it. -/
theorem not_eq_of_lt (h : lt a b = .ok true) : Decimal.eq b a ≠ .ok true := by
  obtain ⟨ha, hb, hlt⟩ := lt_eq_ok_true_iff.mp h
  intro heq
  cases a with
  | finite d =>
    cases b with
    | finite d' =>
      have hvalue : d'.value = d.value := FiniteDecimal.eq_iff.mp (Except.ok.inj heq)
      simp only [extended, hvalue, lt_self_iff_false] at hlt
    | infinite negative => cases heq
    | nan => cases hb
  | infinite negative =>
    cases b with
    | finite d' => cases heq
    | infinite negative' =>
      have hsign : negative' = negative := by simpa [Decimal.eq] using heq
      rw [hsign] at hlt
      exact absurd hlt (lt_irrefl _)
    | nan => cases hb
  | nan => cases ha

/-! ## At most -/

/-- Both are numbers and the first is not above the second, or neither is a number. -/
structure AtMost (a b : Decimal) : Prop where
  nan : a.isNaN = b.isNaN
  le : a.extended ≤ b.extended

namespace AtMost

theorem refl (a : Decimal) : AtMost a a := ⟨rfl, le_rfl⟩

theorem trans (hab : AtMost a b) (hbc : AtMost b c) : AtMost a c :=
  ⟨hab.nan.trans hbc.nan, hab.le.trans hbc.le⟩

theorem of_le (h : Decimal.le a b = .ok true) : AtMost a b := by
  obtain ⟨ha, hb, hle⟩ := le_eq_ok_true_iff.mp h
  exact ⟨ha.trans hb.symm, hle⟩

/-- What is at most the smaller of two is at most the larger. -/
theorem le_of_le (h : AtMost a b) (hx : Decimal.le x a = .ok true) : Decimal.le x b = .ok true := by
  obtain ⟨hnan, ha, hle⟩ := le_eq_ok_true_iff.mp hx
  exact le_eq_ok_true_iff.mpr ⟨hnan, h.nan ▸ ha, hle.trans h.le⟩

theorem lt_of_lt (h : AtMost a b) (hx : Decimal.lt b x = .ok true) : Decimal.lt a x = .ok true := by
  obtain ⟨hb, hnan, hlt⟩ := lt_eq_ok_true_iff.mp hx
  exact lt_eq_ok_true_iff.mpr ⟨h.nan.trans hb, hnan, h.le.trans_lt hlt⟩

/-- Negation turns the order round. -/
theorem copyNegate (h : AtMost a b) : AtMost b.copyNegate a.copyNegate := by
  have hisNaN : ∀ d : Decimal, d.copyNegate.isNaN = d.isNaN := by
    intro d
    cases d <;> rfl
  refine ⟨by rw [hisNaN, hisNaN, h.nan], ?_⟩
  have hnan := h.nan
  have hle := h.le
  cases a with
  | finite d =>
    cases b with
    | finite d' =>
      rw [extended, extended, WithBot.coe_le_coe, WithTop.coe_le_coe] at hle
      simp only [Decimal.copyNegate, extended, FiniteDecimal.value_copyNegate]
      rw [WithBot.coe_le_coe, WithTop.coe_le_coe]
      exact neg_le_neg hle
    | infinite negative =>
      cases negative with
      | true => simp [extended] at hle
      | false => exact bot_le
    | nan => cases hnan
  | infinite negative =>
    cases negative with
    | true => exact (le_top : b.copyNegate.extended ≤ ⊤)
    | false =>
      cases b with
      | finite d' =>
        rw [extended, extended, WithBot.coe_le_coe] at hle
        simp at hle
      | infinite negative' =>
        cases negative' with
        | true => simp [extended] at hle
        | false => exact le_rfl
      | nan => cases hnan
  | nan =>
    cases b with
    | finite d' => cases hnan
    | infinite negative => cases hnan
    | nan => exact le_rfl

end AtMost

/-! ## Sums -/

theorem isNaN_of_add (h : add ctx a x = .ok r) : r.isNaN = (a.isNaN || x.isNaN) := by
  cases a with
  | finite d =>
    cases x with
    | finite d' =>
      obtain ⟨e, -, rfl⟩ := Outcome.map_eq_ok.mp h
      rfl
    | infinite s =>
      cases h
      rfl
    | nan n signaling p =>
      cases signaling with
      | true => cases h
      | false =>
        cases h
        rfl
  | infinite s =>
    cases x with
    | finite d' =>
      cases h
      rfl
    | infinite s' =>
      rw [add] at h
      split_ifs at h
      cases h
      rfl
    | nan n signaling p =>
      cases signaling with
      | true => cases h
      | false =>
        cases h
        rfl
  | nan n signaling p =>
    cases signaling with
    | true => cases h
    | false =>
      rcases x with d' | s' | ⟨n', _ | _, p'⟩
      · cases h
        rfl
      · cases h
        rfl
      · cases h
        rfl
      · cases h

/-- What holds of every finite number and of a sum holds of its terms: where the sum is infinite, a
term is the same infinity. -/
theorem terms_of_add {P : WithBot (WithTop ℚ) → Prop} (hfinite : ∀ d, P (finite d).extended)
    (h : add ctx a x = .ok r) (hnan : r.isNaN = false) (hr : P r.extended) :
    P a.extended ∧ P x.extended := by
  rw [isNaN_of_add h, Bool.or_eq_false_iff] at hnan
  cases a with
  | finite d =>
    cases x with
    | finite d' => exact ⟨hfinite d, hfinite d'⟩
    | infinite s =>
      cases h
      exact ⟨hfinite d, hr⟩
    | nan => cases hnan.2
  | infinite s =>
    cases x with
    | finite d' =>
      cases h
      exact ⟨hr, hfinite d'⟩
    | infinite s' =>
      rw [add] at h
      split_ifs at h with hs
      cases h
      exact ⟨hr, hs ▸ hr⟩
    | nan => cases hnan.2
  | nan => cases hnan.1

theorem exists_finite (hbot : ⊥ < a.extended) (htop : a.extended < ⊤) : ∃ d, a = finite d := by
  cases a with
  | finite d => exact ⟨d, rfl⟩
  | infinite negative =>
    cases negative with
    | true => exact absurd hbot (lt_irrefl _)
    | false => exact absurd htop (lt_irrefl _)
  | nan => exact absurd hbot (lt_irrefl _)

/-- Sums keep the order. -/
theorem AtMost.add (h : AtMost a b) (hx : AtMost x y) (hr : Decimal.add ctx a x = .ok r)
    (hr' : Decimal.add ctx b y = .ok r') : AtMost r r' := by
  have hnan : r.isNaN = r'.isNaN := by rw [isNaN_of_add hr, isNaN_of_add hr', h.nan, hx.nan]
  refine ⟨hnan, ?_⟩
  obtain hbot | hbot := eq_bot_or_bot_lt r.extended
  · exact hbot.trans_le bot_le
  obtain htop | htop := eq_top_or_lt_top r'.extended
  · exact htop ▸ le_top
  have hnumber : r.isNaN = false := by
    cases r with
    | finite d => rfl
    | infinite negative => rfl
    | nan => exact absurd hbot (lt_irrefl _)
  -- neither sum is infinite, so the terms are finite
  obtain ⟨ha, hxa⟩ := terms_of_add (P := (⊥ < ·)) (fun _ => WithBot.bot_lt_coe _) hr hnumber hbot
  obtain ⟨hb, hyb⟩ := terms_of_add (P := (· < ⊤))
    (fun _ => WithBot.coe_lt_coe.mpr (WithTop.coe_lt_top _)) hr' (hnan ▸ hnumber) htop
  obtain ⟨d, rfl⟩ := exists_finite ha (h.le.trans_lt hb)
  obtain ⟨d', rfl⟩ := exists_finite hxa (hx.le.trans_lt hyb)
  obtain ⟨e, rfl⟩ := exists_finite (ha.trans_le h.le) hb
  obtain ⟨e', rfl⟩ := exists_finite (hxa.trans_le hx.le) hyb
  obtain ⟨s, hs, rfl⟩ := Outcome.map_eq_ok.mp hr
  obtain ⟨s', hs', rfl⟩ := Outcome.map_eq_ok.mp hr'
  have hle := h.le
  have hle' := hx.le
  simp only [extended, WithBot.coe_le_coe, WithTop.coe_le_coe] at hle hle' ⊢
  exact FiniteDecimal.add_mono hs hs' hle hle'

/-- A difference is a sum with the negation, up to which NaN it is. -/
theorem exists_add_of_sub (h : Decimal.sub ctx a x = .ok r) :
    ∃ r', Decimal.add ctx a x.copyNegate = .ok r' ∧ AtMost r r' ∧ AtMost r' r := by
  cases a with
  | finite d =>
    cases x with
    | finite d' => exact ⟨r, h, .refl r, .refl r⟩
    | infinite s => exact ⟨r, h, .refl r, .refl r⟩
    | nan n signaling p =>
      cases signaling with
      | true => cases h
      | false =>
        cases h
        exact ⟨_, rfl, ⟨rfl, le_rfl⟩, ⟨rfl, le_rfl⟩⟩
  | infinite s =>
    cases x with
    | finite d' => exact ⟨r, h, .refl r, .refl r⟩
    | infinite s => exact ⟨r, h, .refl r, .refl r⟩
    | nan n signaling p =>
      cases signaling with
      | true => cases h
      | false =>
        cases h
        exact ⟨_, rfl, ⟨rfl, le_rfl⟩, ⟨rfl, le_rfl⟩⟩
  | nan n signaling p =>
    cases signaling with
    | true => cases h
    | false =>
      rcases x with d' | s | ⟨n', _ | _, p'⟩
      · cases h
        exact ⟨_, rfl, .refl _, .refl _⟩
      · cases h
        exact ⟨_, rfl, .refl _, .refl _⟩
      · cases h
        exact ⟨_, rfl, .refl _, .refl _⟩
      · cases h

/-- Differences keep the order, and turn it round in what is taken. -/
theorem AtMost.sub (h : AtMost a b) (hx : AtMost y x) (hr : Decimal.sub ctx a x = .ok r)
    (hr' : Decimal.sub ctx b y = .ok r') : AtMost r r' := by
  obtain ⟨s, hs, hrs, -⟩ := exists_add_of_sub hr
  obtain ⟨s', hs', -, hsr⟩ := exists_add_of_sub hr'
  exact (hrs.trans (h.add hx.copyNegate hs hs')).trans hsr

/-! ## The smaller of two -/

theorem min_eq_ok (h : Decimal.min a b = .ok r) : a.isNaN = false ∧ b.isNaN = false ∧
    r.isNaN = false ∧ r.extended = Min.min a.extended b.extended := by
  rw [Decimal.min, Outcome.bind_eq_ok] at h
  obtain ⟨below, hbelow, h⟩ := h
  cases below with
  | true =>
    obtain ⟨hb, ha, hlt⟩ := lt_eq_ok_true_iff.mp hbelow
    cases h
    exact ⟨ha, hb, hb, (min_eq_right hlt.le).symm⟩
  | false =>
    obtain ⟨hb, ha, hle⟩ := lt_eq_ok_false_iff.mp hbelow
    cases h
    exact ⟨ha, hb, ha, (min_eq_left hle).symm⟩

/-- The smaller of two is at most either. -/
theorem atMost_of_min (h : Decimal.min a b = .ok r) : AtMost r a ∧ AtMost r b := by
  obtain ⟨ha, hb, hr, heq⟩ := min_eq_ok h
  exact ⟨⟨hr.trans ha.symm, heq.trans_le (min_le_left _ _)⟩,
    ⟨hr.trans hb.symm, heq.trans_le (min_le_right _ _)⟩⟩

/-- The smaller of two keeps the order. -/
theorem AtMost.min (h : AtMost a b) (hx : AtMost x y) (hr : Decimal.min a x = .ok r)
    (hr' : Decimal.min b y = .ok r') : AtMost r r' := by
  obtain ⟨-, -, hnan, heq⟩ := min_eq_ok hr
  obtain ⟨-, -, hnan', heq'⟩ := min_eq_ok hr'
  exact ⟨hnan.trans hnan'.symm, heq ▸ heq' ▸ min_le_min h.le hx.le⟩

/-! ## Numbers that are not below zero -/

/-- A number that is not below zero, or the positive infinity. -/
def NotNegative (x : Decimal) : Prop :=
  x = infinite false ∨ ∃ d : FiniteDecimal, x = finite d ∧ 0 ≤ d.value

namespace NotNegative

theorem of_finite {d : FiniteDecimal} (h : 0 ≤ d.value) : NotNegative (finite d) :=
  Or.inr ⟨d, rfl, h⟩

/-- The larger of a number and zero. -/
theorem max_zero (h : Decimal.max a 0 = .ok r) : NotNegative r := by
  obtain ⟨below, hbelow, h⟩ := Outcome.bind_eq_ok.mp h
  cases below with
  | true =>
    cases h
    exact of_finite FiniteDecimal.value_zero.ge
  | false =>
    cases h
    obtain ⟨hnan, -, hle⟩ := lt_eq_ok_false_iff.mp hbelow
    cases a with
    | finite d =>
      refine of_finite ?_
      have hle' : (((0 : FiniteDecimal).value : WithTop ℚ) : WithBot (WithTop ℚ)) ≤
        ((d.value : WithTop ℚ) : WithBot (WithTop ℚ)) := hle
      rw [WithBot.coe_le_coe, WithTop.coe_le_coe, FiniteDecimal.value_zero] at hle'
      exact hle'
    | infinite negative =>
      cases negative with
      | true => exact absurd hle (WithBot.not_coe_le_bot _)
      | false => exact Or.inl rfl
    | nan => cases hnan

/-- A quotient by a positive number. -/
theorem div (hx : NotNegative x) {d : FiniteDecimal} (hd : 0 < d.value)
    (h : Decimal.div ctx x (finite d) = .ok r) : NotNegative r := by
  obtain rfl | ⟨n, rfl, hn⟩ := hx
  · cases h
    left
    rw [FiniteDecimal.negative_eq_false_of_pos hd]
    rfl
  · obtain ⟨q, hq, rfl⟩ := Outcome.map_eq_ok.mp h
    exact of_finite (FiniteDecimal.div_nonneg_of_ok hq hn hd)

/-- A positive number of times. -/
theorem mul (hx : NotNegative x) {d : FiniteDecimal} (hd : 0 < d.value)
    (h : Decimal.mul ctx (finite d) x = .ok r) : NotNegative r := by
  obtain rfl | ⟨n, rfl, hn⟩ := hx
  · have hsome : d.coefficient ≠ 0 := fun hzero =>
      hd.ne' (FiniteDecimal.value_eq_zero_iff.mpr hzero)
    have htruthy : (finite d).truthy = true := by simpa [truthy, FiniteDecimal.isZero] using hsome
    left
    simp only [Decimal.mul, htruthy, Bool.true_and] at h
    cases h
    rw [isNegative, FiniteDecimal.negative_eq_false_of_pos hd]
    rfl
  · obtain ⟨q, hq, rfl⟩ := Outcome.map_eq_ok.mp h
    refine of_finite (DecimalContext.fix_nonneg hq ?_)
    rw [FiniteDecimal.value_exactMul]
    exact mul_nonneg hd.le hn

/-- The smaller of a number and the next integer above another that is not below zero: the first,
or an integer that is not below zero. -/
theorem min_ceil (hx : NotNegative x) {d : FiniteDecimal} (hceil : x.ceilToIntegral = .ok c)
    (h : Decimal.min (finite d) c = .ok r) :
    r = finite d ∨ ∃ n : FiniteDecimal, r = finite n ∧ n.value < d.value ∧
      ∃ m : ℕ, n.value = m := by
  obtain ⟨below, hbelow, h⟩ := Outcome.bind_eq_ok.mp h
  cases below with
  | false =>
    cases h
    exact Or.inl rfl
  | true =>
    cases h
    obtain ⟨-, -, hlt⟩ := lt_eq_ok_true_iff.mp hbelow
    obtain rfl | ⟨n, rfl, hn⟩ := hx
    · cases hceil
      exact absurd hlt (not_lt.mpr (WithBot.coe_le_coe.mpr le_top))
    · cases hceil
      refine Or.inr ⟨_, rfl, ?_, ⌈n.value⌉₊, ?_⟩
      · have hlt' : ((n.ceilToIntegral.value : WithTop ℚ) : WithBot (WithTop ℚ)) <
          ((d.value : WithTop ℚ) : WithBot (WithTop ℚ)) := hlt
        rwa [WithBot.coe_lt_coe, WithTop.coe_lt_coe] at hlt'
      · rw [n.value_ceilToIntegral, ← natCast_ceil_eq_intCast_ceil hn]

end NotNegative

/-! ## What fits -/

/-- A finite decimal fits the context. -/
def Fits (ctx : DecimalContext) (a : Decimal) : Prop :=
  ∀ d, a = finite d → ctx.Represents d.value

theorem fits_of_add (h : add ctx a x = .ok r) : r.Fits ctx := by
  rintro e rfl
  cases a with
  | finite d =>
    cases x with
    | finite d' =>
      obtain ⟨s, hs, heq⟩ := Outcome.map_eq_ok.mp h
      cases heq
      exact FiniteDecimal.represents_of_add hs
    | infinite s => cases h
    | nan n signaling p => cases signaling <;> cases h
  | infinite s =>
    cases x with
    | finite d' => cases h
    | infinite s' =>
      rw [add] at h
      split_ifs at h
      cases h
    | nan n signaling p => cases signaling <;> cases h
  | nan n signaling p => 
    have := isNaN_of_add h
    simp [isNaN] at this

/-- Nothing added to what fits does not lower it. -/
theorem exists_add_zero (ha : a.Fits ctx) (hsignaling : a.isSignaling = false) :
    ∃ r, add ctx a 0 = .ok r ∧ AtMost a r := by
  cases a with
  | finite d =>
    have hrepresents : ctx.Represents (d.value + 0) := by
      rw [add_zero]
      exact ha d rfl
    obtain ⟨r, hr, s, rfl, hvalue⟩ := HasValue.add ⟨d, rfl, rfl⟩ .zero hrepresents
    refine ⟨_, hr, rfl, ?_⟩
    rw [add_zero] at hvalue
    rw [extended, extended, hvalue]
  | infinite s => exact ⟨_, rfl, .refl _⟩
  | nan n signaling p =>
    cases signaling with
    | true => cases hsignaling
    | false => exact ⟨_, rfl, .refl _⟩

/-- Adding what is not negative does not lower what fits. -/
theorem atMost_add (ha : a.Fits ctx) (hx : Decimal.le 0 x = .ok true) (h : add ctx a x = .ok r) :
    AtMost a r := by
  have hsignaling : a.isSignaling = false := by
    cases a with
    | finite d => rfl
    | infinite s => rfl
    | nan n signaling p =>
      cases signaling with
      | true => cases h
      | false => rfl
  obtain ⟨r', hr', hle⟩ := exists_add_zero ha hsignaling
  exact hle.trans ((AtMost.refl a).add (.of_le hx) hr' h)

end Decimal
