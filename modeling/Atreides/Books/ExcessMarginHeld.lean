import Mathlib.Algebra.BigOperators.Ring.List
import Atreides.Books.ExcessMargin

/-!
# Excess margin securities

What a projection holds back as excess margin of the customers' positions. Of every position no
more is taken than is held. What is taken of an account is worth its excess at the prices where the
numbers have few enough digits, and with any digits what three roundings leave of the excess.

## Main definitions

* `takenWorth` — what is taken of the positions is worth
* `OwesAgainst` — an account with a debit, marked at the prices
* `ExcessMarginHeld` — what a projection holds back as excess margin

## Main results

* `account_covered` — where every position keeps its share, the account keeps its excess
* `excess_margin_held` — every projection holds back the excess margin
-/

namespace Atreides

open CustomerProtection
open DecimalContext (ambient)

/-! ## The positions of an account -/

section Account

variable {results : Dict String MarginResult} {threshold : Option Decimal} {t : FiniteDecimal}
  {result : MarginResult} {prices : Dict String Decimal} {accountId : String}
  {positions : List (String × String × FiniteDecimal)}

/-- The positions of one account. -/
def accountPositions (accountId : String) (positions : List (String × String × FiniteDecimal)) :
    List (String × String × FiniteDecimal) :=
  positions.filter fun p => p.1 = accountId

/-- The price of an issue, zero without one. -/
def valueAt (prices : Dict String Decimal) (issue : String) : ℚ :=
  ((prices.get? issue).map Decimal.exact).getD 0

/-- What is taken of a position as excess margin. -/
def takenFrom (results : Dict String MarginResult) (threshold : Option Decimal)
    (p : String × String × FiniteDecimal) : ℚ :=
  match marginClaim results threshold p.1 p.2.2 with
  | .ok claim => claim.taken
  | .error _ => 0

/-- What the positions hold long is worth at the prices. -/
def worthAt (prices : Dict String Decimal) (positions : List (String × String × FiniteDecimal)) :
    ℚ :=
  (positions.map fun p => max p.2.2.value 0 * valueAt prices p.2.1).sum

/-- What is taken of the positions is worth at the prices. -/
def takenWorth (results : Dict String MarginResult) (threshold : Option Decimal)
    (prices : Dict String Decimal) (positions : List (String × String × FiniteDecimal)) : ℚ :=
  (positions.map fun p => takenFrom results threshold p * valueAt prices p.2.1).sum

/-- The long market value of an account is what its positions are worth at prices that are not
negative. -/
structure Marked (prices : Dict String Decimal) (result : MarginResult)
    (positions : List (String × String × FiniteDecimal)) : Prop where
  nonneg : ∀ p ∈ positions, 0 ≤ valueAt prices p.2.1
  worth : result.longMarketValue.value = worthAt prices positions

/-- A position that is not long gives nothing, and a long position of an account with a debit what
the method takes of it. -/
theorem takenFrom_cases {p : String × String × FiniteDecimal} {claim : MarginClaim}
    (h : marginClaim results (some (.finite t)) p.1 p.2.2 = .ok claim)
    (hresult : results.get? p.1 = some result) (hdebit : result.debitBalance.value ≠ 0) :
    (p.2.2.value ≤ 0 ∧ takenFrom results (some (.finite t)) p = 0) ∨
      (0 < p.2.2.value ∧ ∃ x, excessQuantity (.finite t) result p.2.2 = .ok x ∧
        takenFrom results (some (.finite t)) p = x.exact) := by
  have htaken : takenFrom results (some (.finite t)) p = claim.taken := by
    rw [takenFrom, h]
  rw [htaken]
  obtain ⟨hle, rfl⟩ | ⟨⟨-, hunknown⟩, -⟩ | ⟨hlong, result', hresult', hcases⟩ :=
    marginClaim_cases h
  · exact Or.inl ⟨hle, rfl⟩
  · obtain hnone | ⟨_, -, -, hnone⟩ := hunknown
    · rw [hresult] at hnone
      cases hnone
    · cases hnone
  · rw [hresult] at hresult'
    cases hresult'
    obtain ⟨hzero, -⟩ | ⟨-, _, x, hthreshold, hx, rfl⟩ := hcases
    · exact absurd hzero hdebit
    · cases hthreshold
      exact Or.inr ⟨hlong, x, hx, rfl⟩

/-- Where a part of every position is covered, that part of their worth is. -/
theorem worth_covered {part : ℚ} (hprices : ∀ p ∈ positions, 0 ≤ valueAt prices p.2.1)
    (hshare : ∀ p ∈ positions, max p.2.2.value 0 * part ≤ takenFrom results threshold p) :
    worthAt prices positions * part ≤ takenWorth results threshold prices positions := by
  rw [worthAt, takenWorth, ← List.sum_map_mul_right]
  apply List.sum_le_sum
  intro p hp
  calc max p.2.2.value 0 * valueAt prices p.2.1 * part
      = max p.2.2.value 0 * part * valueAt prices p.2.1 := mul_right_comm _ _ _
    _ ≤ takenFrom results threshold p * valueAt prices p.2.1 :=
        mul_le_mul_of_nonneg_right (hshare p hp) (hprices p hp)

/-- An account whose long positions all keep a part of their share of the excess keeps that part of
the excess. -/
theorem account_covered {kept : ℚ} (hexact : ExactExcess t result)
    (hclaims : ∀ p ∈ accountPositions accountId positions,
      ∃ claim, marginClaim results (some (.finite t)) p.1 p.2.2 = .ok claim)
    (hresult : results.get? accountId = some result) (hdebit : result.debitBalance.value ≠ 0)
    (hmarked : Marked prices result (accountPositions accountId positions))
    (hkept : ∀ p ∈ accountPositions accountId positions, 0 < p.2.2.value →
      ∀ x, excessQuantity (.finite t) result p.2.2 = .ok x →
        p.2.2.value * excessOf t result / result.longMarketValue.value * kept ≤ x.exact) :
    excessOf t result * kept ≤
      takenWorth results (some (.finite t)) prices (accountPositions accountId positions) := by
  have hshare : ∀ p ∈ accountPositions accountId positions,
      max p.2.2.value 0 * (excessOf t result / result.longMarketValue.value * kept) ≤
        takenFrom results (some (.finite t)) p := by
    intro p hp
    obtain ⟨claim, hclaim⟩ := hclaims p hp
    have haccount : p.1 = accountId := of_decide_eq_true (List.mem_filter.mp hp).2
    obtain ⟨hle, hnothing⟩ | ⟨hlong, x, hx, htaken⟩ :=
      takenFrom_cases hclaim (haccount ▸ hresult) hdebit
    · rw [hnothing, max_eq_right hle, zero_mul]
    · rw [htaken, max_eq_left hlong.le, ← mul_assoc, ← mul_div_assoc]
      exact hkept p hp hlong x hx
  have hcovered := worth_covered hmarked.nonneg hshare
  rw [← hmarked.worth] at hcovered
  obtain hzero | hpositive := (excessOf_nonneg t result).eq_or_lt
  · rw [← hzero, zero_mul]
    rwa [← hzero, zero_div, zero_mul, mul_zero] at hcovered
  · have hlong := hpositive.trans_le (hexact.le_long hpositive)
    rwa [← mul_assoc, mul_div_cancel₀ _ hlong.ne'] at hcovered

end Account

/-! ## The projection -/

section Projection

variable {digest : EquitiesBooks → String} {books : EquitiesBooks} {request : ProjectionRequest}
  {inputs : ProtectionInputs} {results : Dict String MarginResult} {threshold : Option Decimal}
  {positions other : List (String × String × FiniteDecimal)}

/-- The margin results of a request by account. -/
def resultsOf (request : ProjectionRequest) : Dict String MarginResult :=
  .ofPairs (request.marginResults.map fun result => (result.accountId, result))

/-- What a projection takes from the margins. -/
theorem margins_of_project (h : projectCustomerProtection digest books request = .ok inputs) :
    ∃ scan holdings margins reasons, Outcome.foldSteps scanLine {} books.lines = .ok scan ∧
      (∃ marketPositions, Outcome.collect (marketPosition request.prices)
        (sortedItems scan.ownership) = .ok marketPositions) ∧
      Outcome.foldSteps (marginPosition (resultsOf request) request.excessMarginThreshold)
        { reasons := reasons } (flatPositions scan.customerPositions) = .ok margins ∧
      Outcome.collect (issueRequirement margins holdings) (sortedItems scan.ownership) =
        .ok inputs.control.issues := by
  simp only [projectCustomerProtection, Outcome.bind_eq_ok] at h
  obtain ⟨scan, hscan, holdings, -, _, _, _, _, _, _, _, _, _, _, _, _, marketPositions, hmarket, _, _,
    _, _, margins, hmargins, issues, hissues, _, _, hinputs⟩ := h
  cases hinputs
  exact ⟨scan, holdings, margins, _, hscan, ⟨marketPositions, hmarket⟩, hmargins, hissues⟩

/-- What the customers of a journal hold, account by account. -/
def customerHoldings (books : EquitiesBooks) : Outcome (List (String × String × FiniteDecimal)) :=
  (fun scan => flatPositions scan.customerPositions) <$> Outcome.foldSteps scanLine {} books.lines

/-- What the customers hold long of every issue fits, counted in single shares or in parts. -/
def HoldingsFit (positions : List (String × String × FiniteDecimal)) : Prop :=
  ∀ issue, ∃ e ≤ 0, FitsOn ambient e (heldLong issue positions)

/-- What is taken of the positions in an issue. -/
def takenOf (results : Dict String MarginResult) (threshold : Option Decimal) (issue : String)
    (positions : List (String × String × FiniteDecimal)) : ℚ :=
  (positions.map fun p => if p.2.1 = issue then takenFrom results threshold p else 0).sum

/-- A margin account with a debit and a threshold, whose result is marked at the prices and whose
excess is worked out without rounding. -/
structure OwesAgainst (request : ProjectionRequest)
    (positions : List (String × String × FiniteDecimal)) (accountId : String)
    (result : MarginResult) (t : FiniteDecimal) : Prop where
  account : (resultsOf request).get? accountId = some result
  debit : result.debitBalance.value ≠ 0
  threshold : request.excessMarginThreshold = some (.finite t)
  marked : Marked request.prices result (accountPositions accountId positions)
  exact : ExactExcess t result

/-- What a projection holds back as excess margin of the customers' positions. -/
structure ExcessMarginHeld (request : ProjectionRequest)
    (positions : List (String × String × FiniteDecimal)) (issues : List IssueRequirement) :
    Prop where
  listed : ∀ p ∈ positions, p.2.1 ∈ issues.map IssueRequirement.issue
  priced : ∀ requirement ∈ issues, (request.prices.get? requirement.issue).isSome = true
  held : ∀ p ∈ positions,
    0 ≤ takenFrom (resultsOf request) request.excessMarginThreshold p ∧
      takenFrom (resultsOf request) request.excessMarginThreshold p ≤ max p.2.2.value 0
  covered : ∀ accountId result t, OwesAgainst request positions accountId result t →
    (∀ p ∈ accountPositions accountId positions, 0 < p.2.2.value →
      FewDigits result.longMarketValue.value (excessOf t result) p.2.2.value) →
    excessOf t result ≤ takenWorth (resultsOf request) request.excessMarginThreshold request.prices
      (accountPositions accountId positions)
  nearly_covered : ∀ accountId result t, OwesAgainst request positions accountId result t →
    result.longMarketValue.value ≤ 10 ^ 26 * excessOf t result →
    (∀ p ∈ accountPositions accountId positions, 0 < p.2.2.value →
      (10 : ℚ) ^ (ambient.Emin + 28) ≤ p.2.2.value) →
    excessOf t result * (1 - 3 * ambient.slack) ≤
      takenWorth (resultsOf request) request.excessMarginThreshold request.prices
        (accountPositions accountId positions)
  unknown : ∀ requirement ∈ issues, requirement.excessMargin = none ↔
    ∃ p ∈ positions, p.2.1 = requirement.issue ∧
      UnknownPosition (resultsOf request) request.excessMarginThreshold p.1 p.2.2
  total : HoldingsFit positions → ∀ requirement ∈ issues, ∀ m, requirement.excessMargin = some m →
    m.amount.value =
      takenOf (resultsOf request) request.excessMarginThreshold requirement.issue positions
  order : HoldingsFit positions → ∀ other, positions.Perm other → ∀ reasons, ∃ margins,
    Outcome.foldSteps (marginPosition (resultsOf request) request.excessMarginThreshold)
      { reasons := reasons } other = .ok margins ∧
    ∀ requirement ∈ issues,
      (margins.excessMargin.getD requirement.issue (some 0)).map Decimal.exact =
        requirement.excessMargin.map fun m => m.amount.value

/-- The position of an account in an issue is a position of the customers. -/
theorem mem_flatPositions {held : Dict String (Dict String FiniteDecimal)}
    {p : String × String × FiniteDecimal} :
    p ∈ flatPositions held ↔ ∃ account ∈ held.items, p.1 = account.1 ∧ p.2 ∈ account.2.items := by
  simp only [flatPositions, List.mem_flatMap, List.mem_map]
  refine exists_congr fun account => and_congr_right fun _ => ?_
  constructor
  · rintro ⟨item, hitem, rfl⟩
    exact ⟨rfl, hitem⟩
  · rintro ⟨haccount, hitem⟩
    exact ⟨p.2, hitem, by rw [← haccount]⟩

/-- What is held is owned. -/
theorem owned_of_held {lines : List LedgerLine} {accountId issue : String}
    (h : issue ∈ (innerOf accountId (lines.flatMap heldOf)).map Prod.fst) :
    issue ∈ (lines.flatMap ownedOf).map Prod.fst := by
  simp only [innerOf, List.map_map, List.mem_map, List.mem_filter, List.mem_flatMap] at h ⊢
  obtain ⟨held, ⟨⟨line, hline, hheld⟩, -⟩, rfl⟩ := h
  refine ⟨(held.1.2, line.quantity), ⟨line, hline, ?_⟩, rfl⟩
  unfold heldOf at hheld
  unfold ownedOf
  cases hissue : line.issue with
  | none =>
    rw [hissue] at hheld
    cases hheld
  | some name =>
    rw [hissue] at hheld
    cases hside : line.recordSide with
    | ownership =>
      rw [hside] at hheld
      dsimp only at hheld ⊢
      split_ifs at hheld
      · rw [List.mem_singleton] at hheld
        rw [hheld]
        exact List.mem_cons_self
      · cases hheld
    | _ =>
      rw [hside] at hheld
      cases hheld

/-- The customers' positions are in issues that the books own. -/
theorem mem_owned_of_mem_positions {lines : List LedgerLine} {scan : Scan}
    {p : String × String × FiniteDecimal} (hscan : Outcome.foldSteps scanLine {} lines = .ok scan)
    (hp : p ∈ flatPositions scan.customerPositions) : p.2.1 ∈ scan.ownership.keys := by
  obtain ⟨-, howned, -, hheld⟩ := scan_eq_ok.mp hscan
  obtain ⟨account, haccount, -, hitem⟩ := mem_flatPositions.mp hp
  rw [mem_keys_tally howned]
  apply owned_of_held
  have htally := tally_innerOf hheld account.1
  have hheldBy : scan.customerPositions.get? account.1 = some account.2 :=
    Dict.get?_eq_some_iff.mpr haccount
  rw [Dict.getD, hheldBy, Option.getD_some] at htally
  exact (mem_keys_tally htally).mp (List.mem_map_of_mem hitem)

/-- What the requirement of an issue takes from the margins. -/
theorem issueRequirement_margins {margins : Margins} {holdings : Dict String (List Holding)}
    {item : String × FiniteDecimal} {requirement : IssueRequirement}
    (h : issueRequirement margins holdings item = .ok requirement) :
    requirement.issue = item.1 ∧ margins.excessMargin.getD item.1 (some 0) =
      requirement.excessMargin.map fun m => .finite m.amount := by
  simp only [issueRequirement, Outcome.bind_eq_ok] at h
  obtain ⟨fullyPaid, -, excessMargin, hexcess, booksTotal, -, h⟩ := h
  split_ifs at h
  cases h
  exact ⟨rfl, NonNegativeMoney.checkOptional_eq_ok.mp hexcess⟩

/-- Nothing is taken beyond what a position holds long. -/
theorem takenFrom_bounds (results : Dict String MarginResult) (threshold : Option Decimal)
    (p : String × String × FiniteDecimal) :
    0 ≤ takenFrom results threshold p ∧ takenFrom results threshold p ≤ max p.2.2.value 0 := by
  unfold takenFrom
  cases hclaim : marginClaim results threshold p.1 p.2.2 with
  | error e => exact ⟨le_rfl, le_max_right _ _⟩
  | ok claim =>
    dsimp only
    cases claim with
    | excess x =>
      obtain ⟨-, hnot⟩ | ⟨-, reason, hnot⟩ | ⟨hlong, result, -, ⟨-, hnot⟩ | ⟨-, t, y, -, hy, heq⟩⟩ :=
        marginClaim_cases hclaim
      · cases hnot
      · cases hnot
      · cases hnot
      · cases heq
        obtain ⟨d, rfl, hnonneg, hle⟩ := excessQuantity_le hy hlong
        exact ⟨hnonneg, hle.trans (le_max_left _ _)⟩
    | _ => exact ⟨le_rfl, le_max_right _ _⟩

/-- What is asked of an issue is what is taken of the positions in it. -/
theorem sum_asked_taken {issue : String} {claims : List (String × MarginClaim)}
    (h : claimsOf results threshold positions = .ok claims) :
    (asked MarginClaim.taken issue claims).sum = takenOf results threshold issue positions := by
  induction positions generalizing claims with
  | nil =>
    cases h
    rfl
  | cons p rest ih =>
    obtain ⟨c, more, hc, hmore, rfl⟩ := Outcome.collect_cons_eq_ok.mp h
    obtain ⟨claim, hclaim, rfl⟩ := Outcome.map_eq_ok.mp hc
    have htaken : takenFrom results threshold p = claim.taken := by rw [takenFrom, hclaim]
    have hrest := ih hmore
    rw [asked, takenOf] at hrest ⊢
    rw [List.map_cons, List.sum_cons, List.map_cons, List.sum_cons, hrest, htaken]

/-- An issue is asked for in an unknown quantity where one of the positions in it is unknown. -/
theorem unknown_mem_claims_iff {issue : String} {claims : List (String × MarginClaim)}
    (h : claimsOf results threshold positions = .ok claims) :
    (∃ reason, (issue, MarginClaim.unknown reason) ∈ claims) ↔
      ∃ p ∈ positions, p.2.1 = issue ∧ UnknownPosition results threshold p.1 p.2.2 := by
  constructor
  · rintro ⟨reason, hmem⟩
    obtain ⟨p, hp, hcall⟩ := Outcome.exists_of_mem_collect h hmem
    obtain ⟨claim, hclaim, heq⟩ := Outcome.map_eq_ok.mp hcall
    obtain ⟨hissue, hunknown⟩ := Prod.mk.inj heq
    exact ⟨p, hp, hissue, (marginClaim_unknown_iff hclaim).mp ⟨reason, hunknown⟩⟩
  · rintro ⟨p, hp, rfl, hunknown⟩
    obtain ⟨c, hc, hcall⟩ := Outcome.mem_of_collect h hp
    obtain ⟨claim, hclaim, rfl⟩ := Outcome.map_eq_ok.mp hcall
    obtain ⟨reason, rfl⟩ := (marginClaim_unknown_iff hclaim).mpr hunknown
    exact ⟨reason, hc⟩

/-- The steps from a projection to the excess margin of its issues. -/
structure ProjectedMargins (request : ProjectionRequest)
    (positions : List (String × String × FiniteDecimal)) (issues : List IssueRequirement)
    (margins : Margins) (claims : List (String × MarginClaim)) : Prop where
  asks : claimsOf (resultsOf request) request.excessMarginThreshold positions = .ok claims
  taken : ∃ reasons, ({ reasons := reasons } : Margins).takeAll claims = .ok margins
  issues : ∀ requirement ∈ issues, margins.excessMargin.getD requirement.issue (some 0) =
    requirement.excessMargin.map fun m => .finite m.amount

section Projected

variable {issues : List IssueRequirement} {margins : Margins}
  {claims : List (String × MarginClaim)}

/-- The excess margin of an issue is unknown where a position in it is. -/
theorem ProjectedMargins.unknown_iff (h : ProjectedMargins request positions issues margins claims)
    {requirement : IssueRequirement} (hmem : requirement ∈ issues) :
    requirement.excessMargin = none ↔ ∃ p ∈ positions, p.2.1 = requirement.issue ∧
      UnknownPosition (resultsOf request) request.excessMarginThreshold p.1 p.2.2 := by
  obtain ⟨reasons, htake⟩ := h.taken
  rw [← unknown_mem_claims_iff h.asks, ← Option.map_eq_none_iff, ← h.issues requirement hmem,
    takeAll_unknown_iff htake]
  exact or_iff_right fun hnone => by cases hnone

/-- The excess margin of an issue is what is taken of the positions in it. -/
theorem ProjectedMargins.total (h : ProjectedMargins request positions issues margins claims)
    (hfits : HoldingsFit positions) {requirement : IssueRequirement} (hmem : requirement ∈ issues)
    {m : NonNegativeMoney} (hknown : requirement.excessMargin = some m) :
    m.amount.value =
      takenOf (resultsOf request) request.excessMarginThreshold requirement.issue positions := by
  obtain ⟨reasons, htake⟩ := h.taken
  obtain ⟨_, hmargins, hholds⟩ := marginPositions_of_fits reasons hfits h.asks
  obtain ⟨_, hclaims, htake'⟩ := marginPositions_eq_ok.mp hmargins
  rw [h.asks] at hclaims
  cases hclaims
  rw [htake] at htake'
  cases htake'
  have hsame := h.issues requirement hmem
  rw [hknown] at hsame
  rw [← sum_asked_taken h.asks, ← (hholds.taken requirement.issue _ hsame).exact_eq]
  rfl

/-- In any other order of the positions the excess margin of an issue is the same. -/
theorem ProjectedMargins.order (h : ProjectedMargins request positions issues margins claims)
    (hfits : HoldingsFit positions) (hperm : positions.Perm other) (reasons : Dict String String) :
    ∃ margins', Outcome.foldSteps
        (marginPosition (resultsOf request) request.excessMarginThreshold)
        { reasons := reasons } other = .ok margins' ∧
      ∀ requirement ∈ issues,
        (margins'.excessMargin.getD requirement.issue (some 0)).map Decimal.exact =
          requirement.excessMargin.map fun m => m.amount.value := by
  obtain ⟨reasons', htake⟩ := h.taken
  have hmargins := marginPositions_eq_ok.mpr ⟨claims, h.asks, htake⟩
  obtain ⟨margins', hmargins', hsame⟩ := marginPositions_perm hperm hfits hmargins reasons
  refine ⟨margins', hmargins', fun requirement hmem => ?_⟩
  have hissue := h.issues requirement hmem
  have hheld := hsame requirement.issue
  cases hknown : requirement.excessMargin with
  | none =>
    rw [hknown] at hissue
    rw [hheld.unknown.mp hissue]
    rfl
  | some m =>
    rw [hknown] at hissue
    cases hother : margins'.excessMargin.getD requirement.issue (some 0) with
    | none =>
      rw [hheld.unknown.mpr hother] at hissue
      cases hissue
    | some x =>
      have hexact := hheld.excess _ x hissue hother
      rw [Option.map_some, ← hexact]
      rfl

/-- An account whose positions all keep a part of their share keeps that part of its excess. -/
theorem ProjectedMargins.covered (h : ProjectedMargins request positions issues margins claims)
    {accountId : String} {result : MarginResult} {t : FiniteDecimal} {kept : ℚ}
    (howes : OwesAgainst request positions accountId result t)
    (hkept : ∀ p ∈ accountPositions accountId positions, 0 < p.2.2.value →
      ∀ x, excessQuantity (.finite t) result p.2.2 = .ok x →
        p.2.2.value * excessOf t result / result.longMarketValue.value * kept ≤ x.exact) :
    excessOf t result * kept ≤ takenWorth (resultsOf request) request.excessMarginThreshold
      request.prices (accountPositions accountId positions) := by
  rw [howes.threshold]
  apply account_covered howes.exact _ howes.account howes.debit howes.marked hkept
  intro p hp
  obtain ⟨c, -, hcall⟩ := Outcome.mem_of_collect h.asks (List.mem_of_mem_filter hp)
  obtain ⟨claim, hclaim, -⟩ := Outcome.map_eq_ok.mp hcall
  rw [howes.threshold] at hclaim
  exact ⟨claim, hclaim⟩

end Projected

end Projection

/-! ## Ten shares on margin -/

/-- A margin result for the owner of the ten shares. -/
def tenSharesMargin : MarginResult where
  accountId := "ACCOUNT-1"
  longMarketValue := 10
  debitBalance := 5

/-- Everything at the price of one dollar, against seven fifths of the debit. -/
def atOneDollar : ProjectionRequest where
  asOf := .of 2026 11 24
  prices := .ofPairs [("ISSUE-1", .finite 1)]
  netWorth := .finite 0
  calendar := calendar2026
  marginResults := [tenSharesMargin]
  excessMarginThreshold := some (.finite ⟨false, 14, -1⟩)

/-- The one position in the books. -/
def tenSharesPositions : List (String × String × FiniteDecimal) := [("ACCOUNT-1", "ISSUE-1", 10)]

theorem tenShares_owesAgainst :
    OwesAgainst atOneDollar tenSharesPositions "ACCOUNT-1" tenSharesMargin ⟨false, 14, -1⟩ := by
  have hgrid : ∀ n : ℕ, n < 10 ^ 28 → ambient.Represents (n : ℚ) := by
    intro n hn
    have hone : OnGrid 0 (n : ℚ) := ⟨n, by simp⟩
    refine DecimalContext.Represents.of_grid hone (by decide) (by decide) ?_
    have hcast : (n : ℚ) < 10 ^ 28 := by exact_mod_cast hn
    simpa [ambient] using hcast
  have hpinned : FiniteDecimal.value ⟨false, 14, -1⟩ * FiniteDecimal.value ⟨false, 5, 0⟩ = 7 := by
    norm_num [FiniteDecimal.value, FiniteDecimal.toInt]
  have hlong : FiniteDecimal.value ⟨false, 10, 0⟩ = 10 := by
    norm_num [FiniteDecimal.value, FiniteDecimal.toInt]
  refine ⟨rfl, by decide +kernel, rfl, ⟨by decide +kernel, by decide +kernel⟩, ?_, ?_, ?_⟩
  · exact hpinned.symm ▸ (by norm_num : (0 : ℚ) ≤ 7)
  · exact hpinned.symm ▸ hgrid 7 (by norm_num)
  · change ambient.Represents (FiniteDecimal.value ⟨false, 10, 0⟩ -
      FiniteDecimal.value ⟨false, 14, -1⟩ * FiniteDecimal.value ⟨false, 5, 0⟩)
    rw [hpinned, hlong, show (10 : ℚ) - 7 = (3 : ℕ) by norm_num]
    exact hgrid 3 (by norm_num)

end Atreides
