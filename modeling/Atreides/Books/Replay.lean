import Atreides.Books.Projections

/-!
# What a replay of the journal holds

The balances of a scan are tallies: each line contributes to some of them under its own
key, and nothing else. What a line contributes is read off the line alone, so a balance
depends on the lines of its key only.

## Main definitions

* `cashOf`, `ownedOf`, `locatedOf`, `heldOf` — what a line contributes to each balance
* `HoldingOf` — a balance held at its location

## Main results

* `scan_eq_ok` — a scan is one tally for each balance
* `holdings_of_scan` — the holdings of an issue are its balances that are not zero
-/

namespace Atreides

open CustomerProtection
open DecimalContext (ambient)

/-! ## Contributions -/

/-- What a line adds to the cash of a customer account. -/
def cashOf (line : LedgerLine) : List (String × FiniteDecimal) :=
  if line.accountType.isCustomer ∧ line.currency = some "USD" then
    [(line.accountId, line.money)] else []

/-- What a line adds to the ownership of an issue. -/
def ownedOf (line : LedgerLine) : List (String × FiniteDecimal) :=
  match line.issue, line.recordSide with
  | some issue, .ownership => [(issue, line.quantity)]
  | _, _ => []

/-- What a line adds to an issue at a location. -/
def locatedOf (line : LedgerLine) : List ((String × String) × FiniteDecimal) :=
  match line.issue, line.recordSide with
  | some issue, .location => [((issue, locationRule line.accountType), line.quantity)]
  | _, _ => []

/-- What a line adds to the position of a customer account in an issue. -/
def heldOf (line : LedgerLine) : List ((String × String) × FiniteDecimal) :=
  match line.issue, line.recordSide with
  | some issue, .ownership =>
    if line.accountType.isCustomer then [((line.accountId, issue), line.quantity)] else []
  | _, _ => []

/-! ## The scan -/

/-- One line is posted to each balance it contributes to. -/
theorem scanLine_eq_ok {scan scan' : Scan} {line : LedgerLine} :
    scanLine scan line = .ok scan' ↔
      scan.customerCash.addAll ambient (cashOf line) = .ok scan'.customerCash ∧
        scan.ownership.addAll ambient (ownedOf line) = .ok scan'.ownership ∧
        scan.locationBalances.addAll ambient (locatedOf line) = .ok scan'.locationBalances ∧
        scan.customerPositions.addAllInner ambient (heldOf line) =
          .ok scan'.customerPositions := by
  have hcash : addCash scan.customerCash line =
      scan.customerCash.addAll ambient (cashOf line) := by
    rw [addCash, cashOf]
    split_ifs <;> simp
  obtain ⟨cash, ownership, located, positions⟩ := scan'
  simp only [scanLine, hcash, ownedOf, locatedOf, heldOf]
  rw [Outcome.bind_eq_ok]
  rcases line.issue with _ | issue
  · -- a money line contributes to the cash alone
    constructor
    · rintro ⟨cash', h, hscan⟩
      cases hscan
      exact ⟨h, rfl, rfl, rfl⟩
    · rintro ⟨h, howned, hlocated, hheld⟩
      cases howned
      cases hlocated
      cases hheld
      exact ⟨cash, h, rfl⟩
  · rcases line.recordSide with _ | _ | _
    · -- ownership, and the position of a customer
      have hheld : addPosition scan.customerPositions line issue =
          scan.customerPositions.addAllInner ambient (if line.accountType.isCustomer = true then
            [((line.accountId, issue), line.quantity)] else []) := by
        rw [addPosition]
        split_ifs <;> simp
      simp only [hheld, Dict.addAll_singleton, Outcome.bind_eq_ok, Dict.addAll_nil]
      constructor
      · rintro ⟨cash', h, owned, howned, held, hheld, hscan⟩
        cases hscan
        exact ⟨h, howned, rfl, hheld⟩
      · rintro ⟨h, howned, hlocated, hheld⟩
        cases hlocated
        exact ⟨cash, h, ownership, howned, positions, hheld, rfl⟩
    · simp only [Dict.addAll_singleton, Outcome.bind_eq_ok, Dict.addAll_nil,
        Dict.addAllInner_nil]
      constructor
      · rintro ⟨cash', h, balances, hlocated, hscan⟩
        cases hscan
        exact ⟨h, rfl, hlocated, rfl⟩
      · rintro ⟨h, howned, hlocated, hheld⟩
        cases howned
        cases hheld
        exact ⟨cash, h, located, hlocated, rfl⟩
    · constructor
      · rintro ⟨cash', h, hscan⟩
        cases hscan
        exact ⟨h, rfl, rfl, rfl⟩
      · rintro ⟨h, howned, hlocated, hheld⟩
        cases howned
        cases hlocated
        cases hheld
        exact ⟨cash, h, rfl⟩

/-- Lines are posted to each balance they contribute to, balance by balance. -/
theorem scanLines_eq_ok {lines : List LedgerLine} {scan scan' : Scan} :
    Outcome.foldSteps scanLine scan lines = .ok scan' ↔
      scan.customerCash.addAll ambient (lines.flatMap cashOf) = .ok scan'.customerCash ∧
        scan.ownership.addAll ambient (lines.flatMap ownedOf) = .ok scan'.ownership ∧
        scan.locationBalances.addAll ambient (lines.flatMap locatedOf) =
          .ok scan'.locationBalances ∧
        scan.customerPositions.addAllInner ambient (lines.flatMap heldOf) =
          .ok scan'.customerPositions := by
  induction lines generalizing scan with
  | nil =>
    obtain ⟨cash, ownership, located, positions⟩ := scan
    obtain ⟨cash', ownership', located', positions'⟩ := scan'
    simp
  | cons line rest ih =>
    simp only [Outcome.foldSteps_cons, Outcome.bind_eq_ok, List.flatMap_cons,
      Dict.addAll_append, Dict.addAllInner_append, ih, scanLine_eq_ok]
    constructor
    · rintro ⟨next, ⟨hcash, howned, hlocated, hheld⟩, hcash', howned', hlocated', hheld'⟩
      exact ⟨⟨_, hcash, hcash'⟩, ⟨_, howned, howned'⟩, ⟨_, hlocated, hlocated'⟩, _, hheld,
        hheld'⟩
    · rintro ⟨⟨cash, hcash, hcash'⟩, ⟨ownership, howned, howned'⟩, ⟨located, hlocated, hlocated'⟩,
        positions, hheld, hheld'⟩
      exact ⟨⟨cash, ownership, located, positions⟩, ⟨hcash, howned, hlocated, hheld⟩, hcash',
        howned', hlocated', hheld'⟩

/-- A scan is one tally for each balance. -/
theorem scan_eq_ok {lines : List LedgerLine} {scan : Scan} :
    Outcome.foldSteps scanLine {} lines = .ok scan ↔
      tally ambient (lines.flatMap cashOf) = .ok scan.customerCash ∧
        tally ambient (lines.flatMap ownedOf) = .ok scan.ownership ∧
        tally ambient (lines.flatMap locatedOf) = .ok scan.locationBalances ∧
        tallyInner ambient (lines.flatMap heldOf) = .ok scan.customerPositions :=
  scanLines_eq_ok

/-! ## Holdings -/

/-- A balance that is held at its location, in its magnitude. -/
def HoldingOf (item : (String × String) × FiniteDecimal) (holding : Holding) : Prop :=
  holding = { location := item.1.2, quantity := holding.quantity } ∧
    item.2.abs ambient = .ok holding.quantity.amount

/-- The balances of an issue that are not zero. -/
def heldBalances (issue : String) (items : List ((String × String) × FiniteDecimal)) :
    List ((String × String) × FiniteDecimal) :=
  items.filter fun item => item.1.1 = issue && !item.2.isZero

theorem heldBalances_append (issue : String)
    (xs ys : List ((String × String) × FiniteDecimal)) :
    heldBalances issue (xs ++ ys) = heldBalances issue xs ++ heldBalances issue ys := by
  simp [heldBalances]

/-- The holdings of an issue are its balances that are not zero, in their order. -/
theorem holdings_of_scan {items : List ((String × String) × FiniteDecimal)}
    {holdings : Dict String (List Holding)}
    (h : Outcome.foldSteps addHolding .empty items = .ok holdings) (issue : String) :
    List.Forall₂ HoldingOf (heldBalances issue items) (holdings.getD issue []) := by
  induction items using List.reverseRecOn generalizing holdings with
  | nil =>
    cases h
    exact List.Forall₂.nil
  | append_singleton items item ih =>
    rw [Outcome.foldSteps_append, Outcome.bind_eq_ok] at h
    obtain ⟨before, hbefore, hlast⟩ := h
    rw [Outcome.foldSteps_cons, Outcome.bind_eq_ok] at hlast
    obtain ⟨after, hstep, hafter⟩ := hlast
    cases hafter
    have hprior := ih hbefore
    rw [heldBalances_append]
    by_cases hzero : item.2.isZero = true
    · rw [addHolding, if_pos hzero] at hstep
      cases hstep
      simpa [heldBalances, hzero] using hprior
    · rw [addHolding, if_neg hzero, Outcome.bind_eq_ok] at hstep
      obtain ⟨magnitude, habs, hstep⟩ := hstep
      rw [Outcome.bind_eq_ok] at hstep
      obtain ⟨quantity, hcheck, hset⟩ := hstep
      cases hset
      rw [NonNegativeMoney.check_eq_ok, Decimal.finite.injEq] at hcheck
      subst hcheck
      rw [Bool.not_eq_true] at hzero
      rw [Dict.getD_set]
      by_cases hissue : item.1.1 = issue
      · subst hissue
        have hlast : heldBalances item.1.1 [item] = [item] := by simp [heldBalances, hzero]
        rw [if_pos rfl, hlast]
        exact List.rel_append hprior (List.Forall₂.cons ⟨rfl, habs⟩ List.Forall₂.nil)
      · rw [if_neg hissue]
        simpa [heldBalances, hissue] using hprior

end Atreides
