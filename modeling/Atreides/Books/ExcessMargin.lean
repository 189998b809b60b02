import Atreides.Books.ExcessShare
import Atreides.Books.LocationControl

/-!
# What the positions ask to be held

Every long position of a customer asks for something to be held of its issue: all of it where the
account has no debit, a share of it where it has one, and an unknown quantity where the account has
no margin result or there is no threshold. What is held of an issue is the sum of what is asked,
and unknown as soon as one of the positions is. Where the holdings fit the digits, it does not
depend on the order of the accounts and the positions.

## Main definitions

* `MarginClaim`, `marginClaim` — what one position asks to be held
* `asked` — what the claims ask of one issue
* `Holds` — margins that hold what was asked

## Main results

* `marginPositions_eq_ok` — the positions are added as what they ask
* `takeAll_unknown_iff` — which issues are unknown in the end
* `marginPositions_of_fits`, `marginPositions_perm` — the sums, in any order
-/

namespace Atreides

open CustomerProtection
open DecimalContext (ambient)

/-! ## What a position asks to be held -/

/-- What one position asks to be held of its issue. -/
inductive MarginClaim
  | nothing
  | fullyPaid (quantity : FiniteDecimal)
  | unknown (reason : String)
  | excess (quantity : Decimal)

/-- What a position of an account asks. -/
def marginClaim (results : Dict String MarginResult) (threshold : Option Decimal)
    (accountId : String) (quantity : FiniteDecimal) : Outcome MarginClaim :=
  if quantity.le 0 then .ok .nothing
  else
    match results.get? accountId with
    | none => .ok (.unknown ("margin result for account " ++ accountId ++ " is absent"))
    | some result =>
      if result.debitBalance.eq 0 then .ok (.fullyPaid quantity)
      else
        match threshold with
        | none => .ok (.unknown
            ("the margin result computes money requirements but not excess-margin " ++
              "security quantity"))
        | some threshold => .excess <$> excessQuantity threshold result quantity

/-- One claim added to what must be held. -/
def Margins.take (margins : Margins) (issue : String) : MarginClaim → Outcome Margins
  | .nothing => .ok margins
  | .fullyPaid quantity => do
    let fullyPaid ← margins.fullyPaid.addTo ambient issue quantity
    .ok { margins with fullyPaid }
  | .unknown reason => .ok (margins.unknown issue reason)
  | .excess quantity => do
    let total ← addExcess (margins.excessMargin.getD issue (some 0)) quantity
    .ok { margins with
      excessMargin := margins.excessMargin.set issue total
      reasons :=
        if (margins.reasons.get? (excessMarginReason issue)).isSome then margins.reasons
        else margins.reasons.set (excessMarginReason issue) excessMarginMethod }

section Claims

variable {results : Dict String MarginResult} {threshold : Option Decimal}
  {margins margins' : Margins} {accountId issue : String} {quantity : FiniteDecimal}
  {claim : MarginClaim}

/-- A position is added as what it asks. -/
theorem marginPosition_eq : marginPosition results threshold margins (accountId, issue, quantity) =
    marginClaim results threshold accountId quantity >>= margins.take issue := by
  rw [marginPosition, marginClaim]
  by_cases hlong : quantity.le 0 = true
  · rw [if_pos hlong, if_pos hlong]
    rfl
  rw [if_neg hlong, if_neg hlong]
  cases results.get? accountId with
  | none => rfl
  | some result =>
    dsimp only
    by_cases hpaid : result.debitBalance.eq 0 = true
    · rw [if_pos hpaid, if_pos hpaid]
      rfl
    rw [if_neg hpaid, if_neg hpaid]
    cases threshold with
    | none => rfl
    | some threshold =>
      dsimp only
      cases excessQuantity threshold result quantity with
      | error e => rfl
      | ok x => rfl

/-- A position of an account is unknown where the account is long and has no margin result, or a
margin debit without a threshold. -/
def UnknownPosition (results : Dict String MarginResult) (threshold : Option Decimal)
    (accountId : String) (quantity : FiniteDecimal) : Prop :=
  0 < quantity.value ∧ (results.get? accountId = none ∨
    ∃ result, results.get? accountId = some result ∧ result.debitBalance.value ≠ 0 ∧
      threshold = none)

theorem not_le_zero_iff : ¬ quantity.le 0 = true ↔ 0 < quantity.value := by
  rw [FiniteDecimal.le_iff, FiniteDecimal.value_zero, not_le]

theorem eq_zero_iff {d : FiniteDecimal} : d.eq 0 = true ↔ d.value = 0 := by
  rw [FiniteDecimal.eq_iff, FiniteDecimal.value_zero]

/-- The claims of a position, one for each case. -/
theorem marginClaim_cases (h : marginClaim results threshold accountId quantity = .ok claim) :
    (quantity.value ≤ 0 ∧ claim = .nothing) ∨
      (UnknownPosition results threshold accountId quantity ∧ ∃ reason, claim = .unknown reason) ∨
      (0 < quantity.value ∧ ∃ result, results.get? accountId = some result ∧
        ((result.debitBalance.value = 0 ∧ claim = .fullyPaid quantity) ∨
          (result.debitBalance.value ≠ 0 ∧ ∃ t x, threshold = some t ∧
            excessQuantity t result quantity = .ok x ∧ claim = .excess x))) := by
  rw [marginClaim] at h
  by_cases hlong : quantity.le 0 = true
  · rw [if_pos hlong] at h
    cases h
    rw [FiniteDecimal.le_iff, FiniteDecimal.value_zero] at hlong
    exact Or.inl ⟨hlong, rfl⟩
  rw [if_neg hlong] at h
  rw [not_le_zero_iff] at hlong
  right
  cases hresult : results.get? accountId with
  | none =>
    rw [hresult] at h
    cases h
    exact Or.inl ⟨⟨hlong, Or.inl hresult⟩, _, rfl⟩
  | some result =>
    rw [hresult] at h
    dsimp only at h
    by_cases hpaid : result.debitBalance.eq 0 = true
    · rw [if_pos hpaid] at h
      cases h
      exact Or.inr ⟨hlong, result, rfl, Or.inl ⟨eq_zero_iff.mp hpaid, rfl⟩⟩
    rw [if_neg hpaid] at h
    rw [eq_zero_iff] at hpaid
    cases threshold with
    | none =>
      cases h
      exact Or.inl ⟨⟨hlong, Or.inr ⟨result, hresult, hpaid, rfl⟩⟩, _, rfl⟩
    | some t =>
      obtain ⟨x, hx, rfl⟩ := Outcome.map_eq_ok.mp h
      exact Or.inr ⟨hlong, result, rfl, Or.inr ⟨hpaid, t, x, rfl, hx, rfl⟩⟩

/-- A position asks for an unknown quantity precisely where it is unknown. -/
theorem marginClaim_unknown_iff (h : marginClaim results threshold accountId quantity = .ok claim) :
    (∃ reason, claim = .unknown reason) ↔
      UnknownPosition results threshold accountId quantity := by
  obtain ⟨hle, rfl⟩ | ⟨hunknown, hreason⟩ | ⟨hlong, result, hresult, hcases⟩ :=
    marginClaim_cases h
  · refine iff_of_false (by simp) fun hunknown => ?_
    exact absurd hunknown.1 (not_lt.mpr hle)
  · exact iff_of_true hreason hunknown
  · refine iff_of_false ?_ ?_
    · obtain ⟨-, rfl⟩ | ⟨-, t, x, -, -, rfl⟩ := hcases
      · simp
      · simp
    · rintro ⟨-, hnone | ⟨result', hresult', hdebit, hnone⟩⟩
      · rw [hresult] at hnone
        cases hnone
      · rw [hresult] at hresult'
        cases hresult'
        obtain ⟨hzero, -⟩ | ⟨-, t, x, hsome, -⟩ := hcases
        · exact hdebit hzero
        · rw [hnone] at hsome
          cases hsome

end Claims

/-! ## What is held of each issue -/

section Holding

variable {results : Dict String MarginResult} {threshold : Option Decimal}
  {margins margins' : Margins} {issue : String} {claims : List (String × MarginClaim)}
  {positions other : List (String × String × FiniteDecimal)} {e : ℤ}

/-- The fully paid quantity of a claim. -/
def MarginClaim.paid : MarginClaim → ℚ
  | .fullyPaid quantity => quantity.value
  | _ => 0

/-- The excess margin quantity of a claim. -/
def MarginClaim.taken : MarginClaim → ℚ
  | .excess quantity => quantity.exact
  | _ => 0

/-- What the claims of an issue ask, each in its place; the other claims ask for none of it. -/
def asked (ask : MarginClaim → ℚ) (issue : String) (claims : List (String × MarginClaim)) : List ℚ :=
  claims.map fun c => if c.1 = issue then ask c.2 else 0

/-- What the positions hold long of an issue, each in its place. -/
def heldLong (issue : String) (positions : List (String × String × FiniteDecimal)) : List ℚ :=
  positions.map fun p => if p.2.1 = issue then max p.2.2.value 0 else 0

/-- What the positions ask, with their issues. -/
def claimsOf (results : Dict String MarginResult) (threshold : Option Decimal) :
    List (String × String × FiniteDecimal) → Outcome (List (String × MarginClaim)) :=
  Outcome.collect fun p => (fun claim => (p.2.1, claim)) <$> marginClaim results threshold p.1 p.2.2

def Margins.takeAll (margins : Margins) (claims : List (String × MarginClaim)) : Outcome Margins :=
  Outcome.foldSteps (fun margins c => margins.take c.1 c.2) margins claims

/-- Positions are added as what they ask. -/
theorem marginPositions_eq_ok :
    Outcome.foldSteps (marginPosition results threshold) margins positions = .ok margins' ↔
      ∃ claims, claimsOf results threshold positions = .ok claims ∧
        margins.takeAll claims = .ok margins' := by
  induction positions generalizing margins with
  | nil => simp [claimsOf, Margins.takeAll]
  | cons p rest ih =>
    obtain ⟨accountId, issue, quantity⟩ := p
    rw [Outcome.foldSteps_cons, marginPosition_eq, bind_assoc, Outcome.bind_eq_ok]
    constructor
    · rintro ⟨claim, hclaim, h⟩
      obtain ⟨next, hnext, h⟩ := Outcome.bind_eq_ok.mp h
      obtain ⟨claims, hclaims, hall⟩ := ih.mp h
      refine ⟨(issue, claim) :: claims, Outcome.collect_cons_eq_ok.mpr
        ⟨_, claims, Outcome.map_eq_ok.mpr ⟨claim, hclaim, rfl⟩, hclaims, rfl⟩, ?_⟩
      rw [Margins.takeAll, Outcome.foldSteps_cons, hnext]
      exact hall
    · rintro ⟨all, hcollect, hall⟩
      obtain ⟨c, claims, hc, hclaims, rfl⟩ := Outcome.collect_cons_eq_ok.mp hcollect
      obtain ⟨claim, hclaim, rfl⟩ := Outcome.map_eq_ok.mp hc
      rw [Margins.takeAll, Outcome.foldSteps_cons, Outcome.bind_eq_ok] at hall
      obtain ⟨next, hnext, hall⟩ := hall
      exact ⟨claim, hclaim, Outcome.bind_eq_ok.mpr ⟨next, hnext, ih.mpr ⟨claims, hclaims, hall⟩⟩⟩

/-! ### Unknown issues -/

/-- A claim leaves an issue unknown that was unknown already, and makes its own issue unknown where
it is unknown itself. -/
theorem take_unknown_iff {c : String × MarginClaim} (h : margins.take c.1 c.2 = .ok margins') :
    margins'.excessMargin.getD issue (some 0) = none ↔
      margins.excessMargin.getD issue (some 0) = none ∨ ∃ reason, c = (issue, .unknown reason) := by
  obtain ⟨name, claim⟩ := c
  cases claim with
  | nothing =>
    cases h
    simp
  | fullyPaid quantity =>
    obtain ⟨fullyPaid, -, h⟩ := Outcome.bind_eq_ok.mp h
    cases h
    simp
  | unknown reason =>
    cases h
    rw [Margins.unknown, Dict.getD_set]
    by_cases hname : name = issue
    · simp [hname]
    · simp [hname]
  | excess quantity =>
    obtain ⟨total, htotal, h⟩ := Outcome.bind_eq_ok.mp h
    cases h
    dsimp only
    rw [Dict.getD_set]
    by_cases hname : name = issue
    · subst hname
      rw [if_pos rfl]
      cases hcurrent : margins.excessMargin.getD name (some 0) with
      | none =>
        rw [hcurrent] at htotal
        cases htotal
        simp
      | some current =>
        rw [hcurrent] at htotal
        obtain ⟨sum, -, rfl⟩ := Outcome.map_eq_ok.mp htotal
        simp
    · simp [hname]

/-- An issue is unknown in the end where it was at the start, or one of the claims on it is. -/
theorem takeAll_unknown_iff (h : margins.takeAll claims = .ok margins') :
    margins'.excessMargin.getD issue (some 0) = none ↔
      margins.excessMargin.getD issue (some 0) = none ∨
        ∃ reason, (issue, MarginClaim.unknown reason) ∈ claims := by
  induction claims generalizing margins with
  | nil =>
    cases h
    simp
  | cons c rest ih =>
    rw [Margins.takeAll, Outcome.foldSteps_cons, Outcome.bind_eq_ok] at h
    obtain ⟨next, hnext, h⟩ := h
    rw [ih h, take_unknown_iff hnext, or_assoc]
    refine or_congr_right ?_
    simp only [List.mem_cons, exists_or, eq_comm]

/-! ### Totals -/

/-- What the margins hold is what the claims asked, unknown issues aside. -/
structure Holds (margins : Margins) (claims : List (String × MarginClaim)) : Prop where
  paid : ∀ issue, (margins.fullyPaid.getD issue 0).value =
    (asked MarginClaim.paid issue claims).sum
  taken : ∀ issue x, margins.excessMargin.getD issue (some 0) = some x →
    x.HasValue (asked MarginClaim.taken issue claims).sum

@[simp] theorem asked_append (ask : MarginClaim → ℚ) (issue : String)
    (xs ys : List (String × MarginClaim)) :
    asked ask issue (xs ++ ys) = asked ask issue xs ++ asked ask issue ys := List.map_append

theorem asked_singleton (ask : MarginClaim → ℚ) (issue : String) (c : String × MarginClaim) :
    asked ask issue [c] = [if c.1 = issue then ask c.2 else 0] := rfl

/-- The sums of what is asked of every issue are exact. -/
structure Askable (claims : List (String × MarginClaim)) : Prop where
  finite : ∀ c ∈ claims, ∀ x, c.2 = .excess x → x.isFinite = true
  paid : ∀ issue, ExactSums ambient (asked MarginClaim.paid issue claims)
  taken : ∀ issue, ExactSums ambient (asked MarginClaim.taken issue claims)

theorem Askable.of_append {xs ys : List (String × MarginClaim)} (h : Askable (xs ++ ys)) :
    Askable xs where
  finite := fun c hc => h.finite c (List.mem_append_left ys hc)
  paid := fun issue => (asked_append _ issue xs ys ▸ h.paid issue).append_left
  taken := fun issue => (asked_append _ issue xs ys ▸ h.taken issue).append_left

theorem Holds.fullyPaid {quantity : FiniteDecimal} (h : Holds margins claims)
    (hask : Askable (claims ++ [(issue, .fullyPaid quantity)])) :
    ∃ margins', margins.take issue (.fullyPaid quantity) = .ok margins' ∧
      Holds margins' (claims ++ [(issue, .fullyPaid quantity)]) := by
  have hexact := hask.paid issue
  rw [asked_append, asked_singleton, if_pos rfl] at hexact
  obtain ⟨total, htotal, hvalue⟩ := FiniteDecimal.add_exact_of_sums (h.paid issue) hexact
  refine ⟨_, Outcome.bind_eq_ok.mpr ⟨margins.fullyPaid.set issue total, ?_, rfl⟩, ?_, ?_⟩
  · rw [Dict.addTo, htotal]
    rfl
  · intro name
    dsimp only
    rw [Dict.getD_set, asked_append, asked_singleton]
    by_cases hname : issue = name
    · rw [if_pos hname, if_pos hname, ← hname, hvalue]
      rfl
    · rw [if_neg hname, if_neg hname, h.paid name, List.sum_append, List.sum_singleton, add_zero]
  · intro name x hx
    rw [asked_append, asked_singleton, List.sum_append, List.sum_singleton]
    have hnone : (if issue = name then (MarginClaim.fullyPaid quantity).taken else 0) = 0 := by
      split_ifs <;> rfl
    rw [hnone, add_zero]
    exact h.taken name x hx

theorem Holds.excess {quantity : Decimal} (h : Holds margins claims)
    (hask : Askable (claims ++ [(issue, .excess quantity)])) :
    ∃ margins', margins.take issue (.excess quantity) = .ok margins' ∧
      Holds margins' (claims ++ [(issue, .excess quantity)]) := by
  have hexact := hask.taken issue
  rw [asked_append, asked_singleton, if_pos rfl] at hexact
  have hquantity : quantity.HasValue quantity.exact := Decimal.hasValue_of_isFinite
    (hask.finite (issue, .excess quantity) (List.mem_append_right claims (by simp)) quantity rfl)
  have htotal : ∃ total, addExcess (margins.excessMargin.getD issue (some 0)) quantity = .ok total ∧
      ∀ x, total = some x → x.HasValue ((asked MarginClaim.taken issue claims).sum +
        quantity.exact) := by
    cases hcurrent : margins.excessMargin.getD issue (some 0) with
    | none => exact ⟨none, rfl, fun x hx => nomatch hx⟩
    | some current =>
      have hsum := hexact.represents
      rw [List.sum_append, List.sum_singleton] at hsum
      obtain ⟨sum, hadd, hvalue⟩ := (h.taken issue current hcurrent).add hquantity hsum
      refine ⟨some sum, Outcome.map_eq_ok.mpr ⟨sum, hadd, rfl⟩, fun x hx => ?_⟩
      cases hx
      exact hvalue
  obtain ⟨total, hadd, hvalue⟩ := htotal
  refine ⟨_, Outcome.bind_eq_ok.mpr ⟨total, hadd, rfl⟩, ?_, ?_⟩
  · intro name
    rw [asked_append, asked_singleton, List.sum_append, List.sum_singleton]
    have hnone : (if issue = name then (MarginClaim.excess quantity).paid else 0) = 0 := by
      split_ifs <;> rfl
    rw [hnone, add_zero]
    exact h.paid name
  · intro name x hx
    dsimp only at hx
    rw [Dict.getD_set] at hx
    rw [asked_append, asked_singleton, List.sum_append, List.sum_singleton]
    by_cases hname : issue = name
    · rw [if_pos hname] at hx
      rw [if_pos hname, ← hname]
      exact hvalue x hx
    · rw [if_neg hname] at hx
      rw [if_neg hname, add_zero]
      exact h.taken name x hx

/-- A claim that asks for nothing, or makes its issue unknown, leaves the other quantities. -/
theorem Holds.of_zero {c : String × MarginClaim} (h : Holds margins claims)
    (hpaid : c.2.paid = 0) (htaken : c.2.taken = 0)
    (hfully : margins'.fullyPaid = margins.fullyPaid)
    (hexcess : ∀ name x, margins'.excessMargin.getD name (some 0) = some x →
      margins.excessMargin.getD name (some 0) = some x) : Holds margins' (claims ++ [c]) := by
  constructor
  · intro name
    rw [hfully, h.paid, asked_append, asked_singleton, List.sum_append, List.sum_singleton, hpaid,
      ite_self, add_zero]
  · intro name x hx
    rw [asked_append, asked_singleton, List.sum_append, List.sum_singleton, htaken, ite_self,
      add_zero]
    exact h.taken name x (hexcess name x hx)

/-- A claim whose sums are exact is added. -/
theorem Holds.take {c : String × MarginClaim} (h : Holds margins claims)
    (hask : Askable (claims ++ [c])) :
    ∃ margins', margins.take c.1 c.2 = .ok margins' ∧ Holds margins' (claims ++ [c]) := by
  obtain ⟨issue, claim⟩ := c
  cases claim with
  | nothing => exact ⟨margins, rfl, h.of_zero rfl rfl rfl fun _ _ hx => hx⟩
  | fullyPaid quantity => exact h.fullyPaid hask
  | unknown reason =>
    refine ⟨_, rfl, h.of_zero rfl rfl rfl fun name x hx => ?_⟩
    rw [Margins.unknown, Dict.getD_set] at hx
    split_ifs at hx
    exact hx
  | excess quantity => exact h.excess hask

/-- Claims whose sums are exact are all added, whatever their order. -/
theorem Holds.takeAll (h : Holds margins claims) {more : List (String × MarginClaim)}
    (hask : Askable (claims ++ more)) :
    ∃ margins', margins.takeAll more = .ok margins' ∧ Holds margins' (claims ++ more) := by
  induction more generalizing margins claims with
  | nil => exact ⟨margins, rfl, by simpa using h⟩
  | cons c rest ih =>
    have hlist : claims ++ c :: rest = claims ++ [c] ++ rest := by simp
    rw [hlist] at hask
    obtain ⟨next, hnext, hholds⟩ := h.take hask.of_append
    obtain ⟨margins', hmargins, hall⟩ := ih hholds hask
    refine ⟨margins', ?_, hlist ▸ hall⟩
    rw [Margins.takeAll, Outcome.foldSteps_cons, hnext]
    exact hmargins

/-! ### Quantities that fit -/

/-- A position asks for no more than it holds long, in the same units. -/
theorem marginClaim_fits {accountId : String} {quantity : FiniteDecimal} {claim : MarginClaim}
    (h : marginClaim results threshold accountId quantity = .ok claim) (he : e ≤ 0)
    (hgrid : OnGrid e (max quantity.value 0)) :
    (OnGrid e claim.paid ∧ |claim.paid| ≤ |max quantity.value 0|) ∧
      OnGrid e claim.taken ∧ |claim.taken| ≤ |max quantity.value 0| := by
  have hnone : OnGrid e 0 ∧ |(0 : ℚ)| ≤ |max quantity.value 0| :=
    ⟨OnGrid.zero e, by simp⟩
  obtain ⟨-, rfl⟩ | ⟨-, reason, rfl⟩ | ⟨hlong, result, -, hcases⟩ := marginClaim_cases h
  · exact ⟨hnone, hnone⟩
  · exact ⟨hnone, hnone⟩
  rw [max_eq_left hlong.le] at hgrid hnone ⊢
  obtain ⟨-, rfl⟩ | ⟨-, t, x, -, hx, rfl⟩ := hcases
  · exact ⟨⟨hgrid, le_rfl⟩, hnone⟩
  · refine ⟨hnone, excessQuantity_onGrid hx hlong he hgrid, ?_⟩
    obtain ⟨d, rfl, hnonneg, hle⟩ := excessQuantity_le hx hlong
    rw [MarginClaim.taken, Decimal.exact, abs_of_nonneg hnonneg, abs_of_pos hlong]
    exact hle

/-- What is asked of an issue fits where what is held long of it does. -/
theorem asked_fits {ask : MarginClaim → ℚ} (h : claimsOf results threshold positions = .ok claims)
    (hask : ∀ p ∈ positions, ∀ claim, marginClaim results threshold p.1 p.2.2 = .ok claim →
      OnGrid e (max p.2.2.value 0) → OnGrid e (ask claim) ∧ |ask claim| ≤ |max p.2.2.value 0|)
    (hgrid : ∀ x ∈ heldLong issue positions, OnGrid e x) :
    (∀ y ∈ asked ask issue claims, OnGrid e y) ∧
      sumAbs (asked ask issue claims) ≤ sumAbs (heldLong issue positions) := by
  induction positions generalizing claims with
  | nil =>
    cases h
    exact ⟨by simp [asked], le_rfl⟩
  | cons p rest ih =>
    obtain ⟨c, more, hc, hmore, rfl⟩ := Outcome.collect_cons_eq_ok.mp h
    obtain ⟨claim, hclaim, rfl⟩ := Outcome.map_eq_ok.mp hc
    obtain ⟨hgrids, hsum⟩ := ih hmore (fun q hq => hask q (List.mem_cons_of_mem p hq))
      fun x hx => hgrid x (List.mem_cons_of_mem _ hx)
    have hfirst := hgrid _ List.mem_cons_self
    have hone : OnGrid e (if p.2.1 = issue then ask claim else 0) ∧
        |if p.2.1 = issue then ask claim else 0| ≤
          |if p.2.1 = issue then max p.2.2.value 0 else 0| := by
      by_cases hissue : p.2.1 = issue
      · simp only [if_pos hissue] at hfirst ⊢
        exact hask p List.mem_cons_self claim hclaim hfirst
      · simp only [if_neg hissue]
        exact ⟨OnGrid.zero e, le_rfl⟩
    constructor
    · intro y hy
      obtain rfl | hy := List.mem_cons.mp hy
      · exact hone.1
      · exact hgrids y hy
    · exact add_le_add hone.2 hsum

/-- Positions whose long holdings of every issue fit ask for quantities whose sums are exact. -/
theorem askable_of_fits (h : claimsOf results threshold positions = .ok claims)
    (hfits : ∀ issue, ∃ e ≤ 0, FitsOn ambient e (heldLong issue positions)) : Askable claims where
  finite := by
    intro c hc x hx
    obtain ⟨p, -, hp⟩ := Outcome.exists_of_mem_collect h hc
    obtain ⟨claim, hclaim, rfl⟩ := Outcome.map_eq_ok.mp hp
    cases hx
    obtain ⟨-, hnot⟩ | ⟨-, reason, hnot⟩ | ⟨hlong, result, -, ⟨-, hnot⟩ | ⟨-, t, y, -, hy, heq⟩⟩ :=
      marginClaim_cases hclaim
    · cases hnot
    · cases hnot
    · cases hnot
    · cases heq
      obtain ⟨d, rfl, -⟩ := excessQuantity_le hy hlong
      rfl
  paid := by
    intro issue
    obtain ⟨e, he, hfit⟩ := hfits issue
    obtain ⟨hgrid, hsum⟩ := asked_fits h
      (fun p _ claim hclaim hg => (marginClaim_fits hclaim he hg).1) hfit.grid
    exact (hfit.of_le hgrid hsum).exactSums
  taken := by
    intro issue
    obtain ⟨e, he, hfit⟩ := hfits issue
    obtain ⟨hgrid, hsum⟩ := asked_fits h
      (fun p _ claim hclaim hg => (marginClaim_fits hclaim he hg).2) hfit.grid
    exact (hfit.of_le hgrid hsum).exactSums

/-- Where the long holdings of every issue fit, the positions are added where each of them can
tell what it asks, and what is held is what was asked. -/
theorem marginPositions_of_fits (reasons : Dict String String)
    (hfits : ∀ issue, ∃ e ≤ 0, FitsOn ambient e (heldLong issue positions))
    (h : claimsOf results threshold positions = .ok claims) :
    ∃ margins, Outcome.foldSteps (marginPosition results threshold) { reasons := reasons }
      positions = .ok margins ∧ Holds margins claims := by
  have hstart : Holds { reasons := reasons } [] := by
    constructor
    · intro issue
      exact FiniteDecimal.value_zero
    · intro issue x hx
      cases hx
      exact Decimal.HasValue.zero
  obtain ⟨margins, hmargins, hholds⟩ := @Holds.takeAll _ _ hstart claims (askable_of_fits h hfits)
  exact ⟨margins, marginPositions_eq_ok.mpr ⟨claims, h, hmargins⟩, hholds⟩

/-- Quantities of one issue in two margins: both unknown, or one number. -/
structure SameHeld (margins margins' : Margins) (issue : String) : Prop where
  fullyPaid : (margins.fullyPaid.getD issue 0).value = (margins'.fullyPaid.getD issue 0).value
  unknown : margins.excessMargin.getD issue (some 0) = none ↔
    margins'.excessMargin.getD issue (some 0) = none
  excess : ∀ x x', margins.excessMargin.getD issue (some 0) = some x →
    margins'.excessMargin.getD issue (some 0) = some x' → x.exact = x'.exact

/-- The order of the accounts and the positions does not matter where the long holdings of every
issue fit. -/
theorem marginPositions_perm {reasons : Dict String String} {margins : Margins}
    (hperm : positions.Perm other)
    (hfits : ∀ issue, ∃ e ≤ 0, FitsOn ambient e (heldLong issue positions))
    (h : Outcome.foldSteps (marginPosition results threshold) { reasons := reasons } positions =
      .ok margins) (reasons' : Dict String String) :
    ∃ margins', Outcome.foldSteps (marginPosition results threshold) { reasons := reasons' } other =
      .ok margins' ∧ ∀ issue, SameHeld margins margins' issue := by
  obtain ⟨claims, hclaims, htake⟩ := marginPositions_eq_ok.mp h
  obtain ⟨claims', hclaims', hsame⟩ := Outcome.collect_perm hperm hclaims
  have hfits' : ∀ issue, ∃ e ≤ 0, FitsOn ambient e (heldLong issue other) := by
    intro issue
    obtain ⟨e, he, hfit⟩ := hfits issue
    exact ⟨e, he, hfit.perm (hperm.map _).symm⟩
  obtain ⟨_, hmargins, hholds⟩ := marginPositions_of_fits reasons hfits hclaims
  rw [h] at hmargins
  cases hmargins
  obtain ⟨margins', hmargins', hholds'⟩ := marginPositions_of_fits reasons' hfits' hclaims'
  obtain ⟨_, hagain, htake'⟩ := marginPositions_eq_ok.mp hmargins'
  rw [show claimsOf results threshold other = .ok claims' from hclaims'] at hagain
  cases hagain
  have hsum : ∀ (ask : MarginClaim → ℚ) (issue : String),
      (asked ask issue claims).sum = (asked ask issue claims').sum :=
    fun ask issue => (hsame.map _).sum_eq
  refine ⟨margins', hmargins', fun issue => ⟨?_, ?_, ?_⟩⟩
  · rw [hholds.paid, hholds'.paid, hsum]
  · rw [takeAll_unknown_iff htake, takeAll_unknown_iff htake']
    refine or_congr Iff.rfl (exists_congr fun reason => ?_)
    exact hsame.mem_iff
  · intro x x' hx hx'
    rw [(hholds.taken issue x hx).exact_eq, (hholds'.taken issue x' hx').exact_eq, hsum]

end Holding

end Atreides
