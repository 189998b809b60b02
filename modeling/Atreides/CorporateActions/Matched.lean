import Atreides.CorporateActions.Reconciliation
import Atreides.Foundation.Decimal.Sums

/-!
# When a reconciliation passes

A reconciliation passes where the code's own checks find nothing and the rounded sum of every
account's confirmations is the amount expected. What it should require is more: every
confirmation names the event's own class and security, sums are exact, and an account entitled
to nothing has no confirmation.

## Main definitions

* `Reconciles` — what a reconciliation that passes should say
* `ChecksOut` — what the code checks besides the amounts
* `RoundedSumsAgree`, `ExactSumsAgree` — the amounts, as the code adds them up and exactly

## Main results

* `reconcile_passes_iff` — when the code passes
* `passes_soundly_iff` — in every order of the confirmations it passes exactly when it should,
  if and only if its sums and what they leave out decide the same
* `reconcile_perm` — where no sum is rounded, the order of the confirmations does not matter
-/

namespace Atreides

namespace CorporateActions

open DecimalContext (ambient)

variable {event : CorporateActionEvent} {entitlement : EntitlementResult}
  {confirmations confirmations' reports : List MovementReport} {reconciledAt : Timestamp}
  {accountId : String}

/-! ## What should pass -/

/-- The confirmations of one account. -/
def reportsOf (confirmations : List MovementReport) (accountId : String) : List MovementReport :=
  confirmations.filter fun r => r.accountId = accountId

/-- What an account is expected to have received, where it is known. -/
def expectedOf (entitlement : EntitlementResult) (accountId : String) : Option FiniteDecimal :=
  (holderOf entitlement accountId).bind (·.quantity)

/-- The confirmed quantities, exactly. -/
def exactTotal (reports : List MovementReport) : ℚ :=
  (reports.map fun r => r.quantity.amount.value).sum

/-- The movement is of the kind the entitlement is in, in its currency or the event's
security. -/
def ExpectedMovement (event : CorporateActionEvent) (entitlement : EntitlementResult) :
    Movement → Prop
  | .cash _ currency _ => entitlement.unit = some .cash ∧ some currency = entitlement.currency
  | .securities securityId _ _ => entitlement.unit ≠ some .cash ∧ securityId = event.securityId

/-- A confirmation of this event that has moved, with no condition open at the depository. -/
structure ConfirmsEvent (event : CorporateActionEvent) (entitlement : EntitlementResult)
    (report : MovementReport) : Prop where
  of_event : report.eventId = event.eventId
  confirmed : report.stage = .confirmation
  credit : report.direction = .credit
  movement : ExpectedMovement event entitlement report.movement
  no_condition : depositoryConditions report = []

/-- What a reconciliation checks besides the amounts: the event is mandatory and its
entitlement was computed, every account has an expected amount, and every confirmation is a
credit of the expected movement. -/
structure ChecksOut (event : CorporateActionEvent) (entitlement : EntitlementResult)
    (confirmations : List MovementReport) : Prop where
  of_event : entitlement.eventId = event.eventId
  mandatory : event.participation.elective = false
  computed : entitlement.factor ≠ none
  expected : ∀ accountId ∈ accountsOf entitlement confirmations,
    (expectedOf entitlement accountId).isSome = true
  confirms : ∀ r ∈ confirmations, ConfirmsEvent event entitlement r

/-- Every account's confirmations add up exactly to what it expects. -/
def ExactSumsAgree (entitlement : EntitlementResult) (confirmations : List MovementReport) :
    Prop :=
  ∀ accountId ∈ accountsOf entitlement confirmations, ∀ q,
    expectedOf entitlement accountId = some q →
      exactTotal (reportsOf confirmations accountId) = q.value

/-- Every confirmation names the event's own class and security. -/
def NamesEvent (event : CorporateActionEvent) (confirmations : List MovementReport) : Prop :=
  ∀ r ∈ confirmations, r.eventType = event.eventType ∧ r.securityId = event.securityId

/-- An account entitled to nothing has no confirmation. -/
def ZeroUnconfirmed (entitlement : EntitlementResult) (confirmations : List MovementReport) :
    Prop :=
  ∀ accountId ∈ accountsOf entitlement confirmations, ∀ q,
    expectedOf entitlement accountId = some q → q.value = 0 →
      reportsOf confirmations accountId = []

/-- What a reconciliation that passes should say. -/
structure Reconciles (event : CorporateActionEvent) (entitlement : EntitlementResult)
    (confirmations : List MovementReport) : Prop where
  checks : ChecksOut event entitlement confirmations
  sums : ExactSumsAgree entitlement confirmations
  names : NamesEvent event confirmations
  zero : ZeroUnconfirmed entitlement confirmations

/-! ## What does pass -/

/-- The reconciliation returns, and passes. -/
def Passes (event : CorporateActionEvent) (entitlement : EntitlementResult)
    (confirmations : List MovementReport) (reconciledAt : Timestamp) : Prop :=
  ∃ result, reconcile event entitlement confirmations reconciledAt = .ok result ∧
    result.disposition = .pass

/-- The rounded sum of the reports is the number. -/
def SumAgrees (reports : List MovementReport) (q : FiniteDecimal) : Prop :=
  ∃ total, FiniteDecimal.sum ambient 0 (reports.map fun r => r.quantity.amount) = .ok total ∧
    total.value = q.value

/-- Every account's confirmations add up, as the code adds them up, to what it expects. -/
def RoundedSumsAgree (entitlement : EntitlementResult) (confirmations : List MovementReport) :
    Prop :=
  ∀ accountId ∈ accountsOf entitlement confirmations, ∀ q,
    expectedOf entitlement accountId = some q → SumAgrees (reportsOf confirmations accountId) q

/-- A movement that is not wrong is the expected one. -/
theorem wrongMovement_eq_nil {movement : Movement} :
    wrongMovement event entitlement movement = [] ↔
      ExpectedMovement event entitlement movement := by
  cases movement with
  | cash amount currency _ =>
    by_cases hunit : entitlement.unit = some .cash <;>
      simp [wrongMovement, ExpectedMovement, hunit]
  | securities securityId quantity _ =>
    by_cases hunit : entitlement.unit = some .cash <;>
      simp [wrongMovement, ExpectedMovement, hunit]

theorem movementConditions_eq_nil {report : MovementReport} :
    movementConditions event entitlement report = [] ↔
      report.direction = .credit ∧ ExpectedMovement event entitlement report.movement := by
  rw [movementConditions, List.append_eq_nil_iff, wrongMovement_eq_nil]
  by_cases hdirection : report.direction = .credit <;> simp [hdirection]

/-- A holder's comparison finds nothing exactly when no report has a condition and the amounts
agree. -/
theorem comparedCodes_eq_nil {holder : HolderEntitlement} {confirmed q : FiniteDecimal}
    (hq : holder.quantity = some q) :
    comparedCodes event entitlement holder confirmed reports = .ok [] ↔
      (∀ r ∈ reports, movementConditions event entitlement r = [] ∧ depositoryConditions r = []) ∧
        confirmed.value = q.value := by
  have hstructural : sortedSet (reports.flatMap (movementConditions event entitlement)) = [] ↔
      ∀ r ∈ reports, movementConditions event entitlement r = [] := by simp
  have hdepository : sortedSet (reports.flatMap depositoryConditions) = [] ↔
      ∀ r ∈ reports, depositoryConditions r = [] := by simp
  have hamounts : amountsDiffer (some confirmed) holder.quantity = true ↔
      confirmed.value ≠ q.value := by
    simp [amountsDiffer, sameBalance, hq, ← FiniteDecimal.eq_iff]
  rw [comparedCodes]
  split_ifs with hcase
  · -- the amounts differ, so some code is added, whichever it is
    constructor
    · intro h
      obtain ⟨code, -, hcodes⟩ := Outcome.bind_eq_ok.mp h
      simp at hcodes
    · rintro ⟨-, hsame⟩
      exact absurd hsame (hamounts.mp hcase.2)
  · rw [Except.ok.injEq, List.append_eq_nil_iff, hstructural, hdepository]
    rw [hstructural, hamounts, not_and, not_not] at hcase
    constructor
    · rintro ⟨hmovement, hconditions⟩
      exact ⟨fun r hr => ⟨hmovement r hr, hconditions r hr⟩, hcase hmovement⟩
    · rintro ⟨hall, -⟩
      exact ⟨fun r hr => (hall r hr).1, fun r hr => (hall r hr).2⟩

theorem confirmedTotal_eq_none : confirmedTotal reports = .ok none ↔ reports = [] := by
  rw [confirmedTotal]
  split_ifs with h
  · simp [h]
  · simp only [Outcome.map_eq_ok, reduceCtorEq, and_false, exists_false, h]

theorem confirmedTotal_eq_some {total : FiniteDecimal} :
    confirmedTotal reports = .ok (some total) ↔ reports ≠ [] ∧
      FiniteDecimal.sum ambient 0 (reports.map fun r => r.quantity.amount) = .ok total := by
  rw [confirmedTotal]
  split_ifs with h
  · simp [h]
  · simp [Outcome.map_eq_ok, h]

/-- Nothing confirmed adds up to nothing. -/
theorem sumAgrees_nil {q : FiniteDecimal} : SumAgrees [] q ↔ q.value = 0 := by
  constructor
  · rintro ⟨total, htotal, hvalue⟩
    cases htotal
    rw [← hvalue, FiniteDecimal.value_zero]
  · intro h
    exact ⟨0, rfl, by rw [h, FiniteDecimal.value_zero]⟩

/-- The expected amount of an account is that of its first entitlement. -/
theorem expectedOf_eq_some {q : FiniteDecimal} : expectedOf entitlement accountId = some q ↔
    ∃ holder, holderOf entitlement accountId = some holder ∧ holder.quantity = some q := by
  rw [expectedOf, Option.bind_eq_some_iff]

/-- An account has no break exactly when its confirmations have no condition and add up, as the
code adds them up, to what it expects. -/
theorem account_unbroken_iff :
    (∃ a, account accountId event entitlement reports = .ok a ∧ a.breakCodes = []) ↔
      ∃ q, expectedOf entitlement accountId = some q ∧ SumAgrees reports q ∧
        ∀ r ∈ reports, movementConditions event entitlement r = [] ∧
          depositoryConditions r = [] := by
  simp only [account, Outcome.bind_eq_ok]
  constructor
  · rintro ⟨a, ⟨confirmed, hconfirmed, codes, hcodes, difference, -, ha⟩, hnil⟩
    cases ha
    dsimp only at hnil
    subst hnil
    rcases hholder : holderOf entitlement accountId with _ | holder
    · simp [accountCodes, hholder] at hcodes
    rcases hq : holder.quantity with _ | q
    · simp [accountCodes, hholder, hq] at hcodes
    refine ⟨q, expectedOf_eq_some.mpr ⟨holder, hholder, hq⟩, ?_⟩
    cases confirmed with
    | none =>
      rw [confirmedTotal_eq_none.mp hconfirmed, sumAgrees_nil]
      simp only [accountCodes, hholder, hq, Except.ok.injEq, ite_eq_left_iff, reduceCtorEq,
        imp_false, not_not] at hcodes
      exact ⟨FiniteDecimal.isZero_iff.mp hcodes, by simp⟩
    | some total =>
      have hsum := (confirmedTotal_eq_some.mp hconfirmed).2
      simp only [accountCodes, hholder, hq] at hcodes
      obtain ⟨hconditions, hvalue⟩ := (comparedCodes_eq_nil hq).mp hcodes
      exact ⟨⟨total, hsum, hvalue⟩, hconditions⟩
  · rintro ⟨q, hexpected, ⟨total, hsum, hvalue⟩, hconditions⟩
    obtain ⟨holder, hholder, hq⟩ := expectedOf_eq_some.mp hexpected
    by_cases hreports : reports = []
    · subst hreports
      cases hsum
      have hzero : q.isZero = true := by
        rw [FiniteDecimal.isZero_iff, ← hvalue, FiniteDecimal.value_zero]
      refine ⟨_, ⟨none, rfl, [], ?_, none, ?_, rfl⟩, rfl⟩
      · simp [accountCodes, hholder, hq, hzero]
      · rfl
    · have hconfirmed := confirmedTotal_eq_some.mpr ⟨hreports, hsum⟩
      have hcodes := (comparedCodes_eq_nil hq).mpr ⟨hconditions, hvalue⟩
      -- the amounts are one number, so their difference is a zero and cannot overflow
      have hfits : ambient.Represents (total.value - q.value) := by
        rw [hvalue, sub_self]
        exact ambient.represents_zero
      obtain ⟨difference, hdifference, -⟩ := FiniteDecimal.sub_exact_iff.mpr hfits
      refine ⟨_, ⟨some total, hconfirmed, [], ?_, some difference, ?_, rfl⟩, rfl⟩
      · simpa only [accountCodes, hholder, hq] using hcodes
      · simp [hholder, hq, differenceOf, hdifference]

/-- Nothing stops the event as a whole where it is mandatory and its entitlement computed. -/
theorem stoppedBy_eq_nil : stoppedBy event entitlement = [] ↔
    event.participation.elective = false ∧ entitlement.factor ≠ none := by
  by_cases helective : event.participation.elective = true <;>
    by_cases hfactor : entitlement.factor = none <;> simp [stoppedBy, helective, hfactor]

/-- A result of accounts passes where no account has a break. -/
theorem reconciled_passes_iff {accounts : List AccountReconciliation} :
    (reconciled event accounts reconciledAt).disposition = .pass ↔
      ∀ a ∈ accounts, a.breakCodes = [] := by
  rw [reconciled, CustomerProtection.decide_eq_pass]
  constructor
  · rintro ⟨hundecided, -, hdecided⟩ a ha
    apply List.eq_nil_iff_forall_not_mem.mpr
    intro code hcode
    have hmem : code ∈ sortedSet (accounts.flatMap (·.breakCodes)) := by
      rw [mem_sortedSet, List.mem_flatMap]
      exact ⟨a, ha, hcode⟩
    -- the code leaves the result undecided, or it does not
    by_cases hkind : code ∈ indeterminateCodes
    · have hin := List.filter_eq_nil_iff.mp hundecided code hmem
      exact hin (by simpa using hkind)
    · have hin := List.filter_eq_nil_iff.mp hdecided code hmem
      exact hin (by simpa using hkind)
  · intro hall
    have hnone : sortedSet (accounts.flatMap (·.breakCodes)) = [] := by
      simpa using hall
    simp [hnone]

/-- A confirmation is admitted where it is of this event and has moved. -/
theorem confirmationFits_eq_ok {report : MovementReport} :
    confirmationFits event report = .ok () ↔
      report.eventId = event.eventId ∧ report.stage = .confirmation := by
  simp only [confirmationFits, Outcome.bind_eq_ok, Outcome.refuseIf_eq_ok, not_not]
  constructor
  · rintro ⟨_, hevent, hstage⟩
    exact ⟨hevent, hstage⟩
  · rintro ⟨hevent, hstage⟩
    exact ⟨(), hevent, hstage⟩

/-- When a reconciliation returns and passes, step by step. -/
theorem passes_iff_steps : Passes event entitlement confirmations reconciledAt ↔
    entitlement.eventId = event.eventId ∧
      (∀ r ∈ confirmations, r.eventId = event.eventId ∧ r.stage = .confirmation) ∧
      stoppedBy event entitlement = [] ∧
      ∀ accountId ∈ accountsOf entitlement confirmations, ∃ a,
        account accountId event entitlement (reportsOf confirmations accountId) = .ok a ∧
          a.breakCodes = [] := by
  simp only [Passes, reconcile, Outcome.bind_eq_ok, Outcome.refuseIf_eq_ok, not_not]
  constructor
  · rintro ⟨result, ⟨⟨⟩, hevent, ⟨⟩, hfits, hresult⟩, hpass⟩
    rw [Outcome.foldSteps_unit_eq_ok] at hfits
    refine ⟨hevent, fun r hr => confirmationFits_eq_ok.mp (hfits r hr), ?_⟩
    split_ifs at hresult with hstopped
    · -- a result that was stopped names why, and does not pass
      cases hresult
      have hnone := (CustomerProtection.decide_eq_pass.mp hpass).1
      exact absurd (List.map_eq_nil_iff.mp hnone) hstopped
    · obtain ⟨accounts, hcollect, hresult⟩ := Outcome.bind_eq_ok.mp hresult
      cases hresult
      have hunbroken := reconciled_passes_iff.mp hpass
      exact ⟨not_not.mp hstopped, Outcome.collect_forall_iff.mp ⟨accounts, hcollect, hunbroken⟩⟩
  · rintro ⟨hevent, hfits, hstopped, haccounts⟩
    obtain ⟨accounts, hcollect, hunbroken⟩ := Outcome.collect_forall_iff.mpr haccounts
    refine ⟨reconciled event accounts reconciledAt, ⟨(), hevent, (), ?_, ?_⟩,
      reconciled_passes_iff.mpr hunbroken⟩
    · rw [Outcome.foldSteps_unit_eq_ok]
      exact fun r hr => confirmationFits_eq_ok.mpr (hfits r hr)
    · rw [dif_neg (not_not.mpr hstopped), Outcome.bind_eq_ok]
      exact ⟨accounts, hcollect, rfl⟩

/-- An account of a confirmation is among the accounts. -/
theorem mem_accountsOf {r : MovementReport} (hr : r ∈ confirmations) :
    r.accountId ∈ accountsOf entitlement confirmations := by
  rw [accountsOf, mem_sortedSet]
  exact List.mem_append_right _ (List.mem_map_of_mem hr)

/-- A reconciliation passes exactly where its checks find nothing and its sums agree. -/
theorem reconcile_passes_iff : Passes event entitlement confirmations reconciledAt ↔
    ChecksOut event entitlement confirmations ∧ RoundedSumsAgree entitlement confirmations := by
  rw [passes_iff_steps, stoppedBy_eq_nil]
  simp only [account_unbroken_iff, movementConditions_eq_nil]
  constructor
  · rintro ⟨hevent, hfits, ⟨hmandatory, hcomputed⟩, haccounts⟩
    refine ⟨⟨hevent, hmandatory, hcomputed, ?_, ?_⟩, ?_⟩
    · intro accountId hmem
      obtain ⟨q, hq, -⟩ := haccounts accountId hmem
      rw [hq]
      rfl
    · intro r hr
      obtain ⟨q, -, -, hconditions⟩ := haccounts r.accountId (mem_accountsOf hr)
      have hown : r ∈ reportsOf confirmations r.accountId := by simp [reportsOf, hr]
      obtain ⟨⟨hcredit, hmovement⟩, hnone⟩ := hconditions r hown
      exact ⟨(hfits r hr).1, (hfits r hr).2, hcredit, hmovement, hnone⟩
    · intro accountId hmem q hq
      obtain ⟨q', hq', hsum, -⟩ := haccounts accountId hmem
      rw [hq] at hq'
      cases hq'
      exact hsum
  · rintro ⟨hchecks, hsums⟩
    refine ⟨hchecks.of_event, ?_, ⟨hchecks.mandatory, hchecks.computed⟩, ?_⟩
    · exact fun r hr => ⟨(hchecks.confirms r hr).of_event, (hchecks.confirms r hr).confirmed⟩
    · intro accountId hmem
      obtain ⟨q, hq⟩ := Option.isSome_iff_exists.mp (hchecks.expected accountId hmem)
      refine ⟨q, hq, hsums accountId hmem q hq, fun r hr => ?_⟩
      have hconfirms := hchecks.confirms r (List.mem_of_mem_filter hr)
      exact ⟨⟨hconfirms.credit, hconfirms.movement⟩, hconfirms.no_condition⟩

/-! ## The order of the confirmations -/

section Order

variable (h : confirmations'.Perm confirmations)
include h

theorem accountsOf_perm :
    accountsOf entitlement confirmations' = accountsOf entitlement confirmations := by
  apply sortedSet_congr
  intro accountId
  simp only [List.mem_append, List.mem_map, h.mem_iff]

theorem reportsOf_perm (accountId : String) :
    (reportsOf confirmations' accountId).Perm (reportsOf confirmations accountId) :=
  h.filter _

theorem checksOut_perm : ChecksOut event entitlement confirmations' ↔
    ChecksOut event entitlement confirmations := by
  constructor
  · rintro ⟨hevent, hmandatory, hcomputed, hexpected, hconfirms⟩
    refine ⟨hevent, hmandatory, hcomputed, ?_, fun r hr => hconfirms r (h.mem_iff.mpr hr)⟩
    rw [← accountsOf_perm h]
    exact hexpected
  · rintro ⟨hevent, hmandatory, hcomputed, hexpected, hconfirms⟩
    refine ⟨hevent, hmandatory, hcomputed, ?_, fun r hr => hconfirms r (h.mem_iff.mp hr)⟩
    rw [accountsOf_perm h]
    exact hexpected

end Order

theorem reconciles_iff : Reconciles event entitlement confirmations ↔
    ChecksOut event entitlement confirmations ∧ ExactSumsAgree entitlement confirmations ∧
      NamesEvent event confirmations ∧ ZeroUnconfirmed entitlement confirmations :=
  ⟨fun ⟨hchecks, hsums, hnames, hzero⟩ => ⟨hchecks, hsums, hnames, hzero⟩,
    fun ⟨hchecks, hsums, hnames, hzero⟩ => ⟨hchecks, hsums, hnames, hzero⟩⟩

/-- In every order of the confirmations the reconciliation passes exactly when it should, if and
only if, where its checks find nothing, its rounded sums agree in every order exactly when the
exact sums do, every confirmation names the event's class and security, and no account entitled
to nothing has a confirmation. -/
theorem passes_soundly_iff :
    (∀ confirmations', confirmations'.Perm confirmations →
      (Passes event entitlement confirmations' reconciledAt ↔
        Reconciles event entitlement confirmations)) ↔
    (ChecksOut event entitlement confirmations →
      ∀ confirmations', confirmations'.Perm confirmations →
        (RoundedSumsAgree entitlement confirmations' ↔
          ExactSumsAgree entitlement confirmations ∧ NamesEvent event confirmations ∧
            ZeroUnconfirmed entitlement confirmations)) := by
  simp only [reconcile_passes_iff, reconciles_iff]
  constructor
  · intro hsound hchecks confirmations' hperm
    have hboth := hsound confirmations' hperm
    rw [checksOut_perm hperm] at hboth
    exact (and_congr_right_iff.mp hboth) hchecks
  · intro hagree confirmations' hperm
    rw [checksOut_perm hperm]
    exact and_congr_right_iff.mpr fun hchecks => hagree hchecks confirmations' hperm

/-! ## Sums that are not rounded -/

/-- No sum of an account's confirmed quantities needs rounding. -/
def SumsUnrounded (entitlement : EntitlementResult) (confirmations : List MovementReport) :
    Prop :=
  ∀ accountId ∈ accountsOf entitlement confirmations,
    ExactSums ambient ((reportsOf confirmations accountId).map fun r => r.quantity.amount.value)

/-- Without rounding the sum of the reports is their exact total, in every order. -/
theorem sum_eq_exactTotal
    (hexact : ExactSums ambient (reports.map fun r => r.quantity.amount.value))
    {reports' : List MovementReport} (h : reports'.Perm reports) :
    ∃ total, FiniteDecimal.sum ambient 0 (reports'.map fun r => r.quantity.amount) = .ok total ∧
      total.value = exactTotal reports := by
  have hvalues : (reports'.map fun r => r.quantity.amount).map FiniteDecimal.value =
      reports'.map fun r => r.quantity.amount.value := by simp [Function.comp_def]
  have hsums : ExactSums ambient
      ([] ++ (reports'.map fun r => r.quantity.amount).map FiniteDecimal.value) := by
    rw [List.nil_append, hvalues]
    exact hexact.perm (h.map _)
  have hzero : FiniteDecimal.value 0 = ([] : List ℚ).sum := by simp
  obtain ⟨total, htotal, hvalue⟩ := FiniteDecimal.sum_exact hzero hsums
  refine ⟨total, htotal, ?_⟩
  rw [hvalue, List.nil_append, hvalues, exactTotal]
  exact (h.map _).sum_eq

theorem sumAgrees_iff_of_exact {q : FiniteDecimal}
    (hexact : ExactSums ambient (reports.map fun r => r.quantity.amount.value))
    {reports' : List MovementReport} (h : reports'.Perm reports) :
    SumAgrees reports' q ↔ exactTotal reports = q.value := by
  obtain ⟨total, htotal, hvalue⟩ := sum_eq_exactTotal hexact h
  rw [← hvalue]
  constructor
  · rintro ⟨total', htotal', hq⟩
    rw [htotal] at htotal'
    cases htotal'
    exact hq
  · exact fun hq => ⟨total, htotal, hq⟩

/-- Without rounding the rounded sums agree in every order exactly when the exact sums do. -/
theorem roundedSumsAgree_iff (hexact : SumsUnrounded entitlement confirmations)
    (h : confirmations'.Perm confirmations) :
    RoundedSumsAgree entitlement confirmations' ↔ ExactSumsAgree entitlement confirmations := by
  rw [RoundedSumsAgree, ExactSumsAgree, accountsOf_perm h]
  apply forall₂_congr
  intro accountId hmem
  apply forall₂_congr
  intro q _
  exact sumAgrees_iff_of_exact (hexact accountId hmem) (reportsOf_perm h accountId)

/-- Without rounding, the reconciliation passes in every order exactly when it should unless its
checks find nothing, the sums agree, and yet a confirmation names another class or security or
an account entitled to nothing has one. -/
theorem passes_soundly_iff_of_exact (hexact : SumsUnrounded entitlement confirmations) :
    (∀ confirmations', confirmations'.Perm confirmations →
      (Passes event entitlement confirmations' reconciledAt ↔
        Reconciles event entitlement confirmations)) ↔
    (ChecksOut event entitlement confirmations → ExactSumsAgree entitlement confirmations →
      NamesEvent event confirmations ∧ ZeroUnconfirmed entitlement confirmations) := by
  rw [passes_soundly_iff]
  constructor
  · intro hagree hchecks hsums
    have hone := hagree hchecks confirmations (List.Perm.refl _)
    rw [roundedSumsAgree_iff hexact (List.Perm.refl _)] at hone
    exact (hone.mp hsums).2
  · intro hnames hchecks confirmations' hperm
    rw [roundedSumsAgree_iff hexact hperm]
    exact ⟨fun hsums => ⟨hsums, hnames hchecks hsums⟩, fun hall => hall.1⟩

/-! ## The whole result in any order -/

/-- The reports were confirmed against one balance, the number `v`. -/
theorem commonBalance_value_iff {v : ℚ} : (∃ b, commonBalance reports = some b ∧ b.value = v) ↔
    reports ≠ [] ∧ ∀ r ∈ reports, ∃ b, r.balances.confirmedBalance = some b ∧ b.value = v := by
  cases reports with
  | nil => simp [commonBalance]
  | cons report rest =>
    have hsame : ∀ r : MovementReport, ∀ b, report.balances.confirmedBalance = some b →
        (sameBalance report.balances.confirmedBalance r.balances.confirmedBalance = true ↔
          ∃ c, r.balances.confirmedBalance = some c ∧ c.value = b.value) := by
      intro r b hb
      rw [hb]
      rcases r.balances.confirmedBalance with _ | c
      · simp [sameBalance]
      · simp only [sameBalance, FiniteDecimal.eq_iff, Option.some.injEq, exists_eq_left']
        exact eq_comm
    rw [commonBalance, List.forall_mem_cons]
    constructor
    · rintro ⟨b, hb, rfl⟩
      split_ifs at hb with hall
      refine ⟨by simp, ⟨b, hb, rfl⟩, fun r hr => ?_⟩
      exact (hsame r b hb).mp (List.all_eq_true.mp hall r hr)
    · rintro ⟨-, ⟨b, hb, rfl⟩, hrest⟩
      have hall : rest.all (fun r => sameBalance report.balances.confirmedBalance
          r.balances.confirmedBalance) = true :=
        List.all_eq_true.mpr fun r hr => (hsame r b hb).mpr (hrest r hr)
      rw [if_pos hall]
      exact ⟨b, hb, rfl⟩

/-- The common balance is one number in every order of the reports. -/
theorem commonBalance_perm {reports' : List MovementReport} (h : reports'.Perm reports) :
    (commonBalance reports').map FiniteDecimal.value =
      (commonBalance reports).map FiniteDecimal.value := by
  have hnil : reports' ≠ [] ↔ reports ≠ [] :=
    not_congr ⟨fun hempty => List.nil_perm.mp (hempty ▸ h),
      fun hempty => List.perm_nil.mp (hempty ▸ h)⟩
  have hvalue : ∀ v, (∃ b, commonBalance reports' = some b ∧ b.value = v) ↔
      ∃ b, commonBalance reports = some b ∧ b.value = v := by
    intro v
    simp only [commonBalance_value_iff, hnil, h.mem_iff]
  apply Option.ext
  intro v
  simpa [Option.map_eq_some_iff] using hvalue v

/-- The code for a difference depends on the numbers only. -/
theorem quantityCode_congr {holder : HolderEntitlement} {total total' : FiniteDecimal}
    {reports' : List MovementReport} (h : reports'.Perm reports)
    (hvalue : total'.value = total.value) :
    quantityCode entitlement holder total' reports' =
      quantityCode entitlement holder total reports := by
  have hbalance := commonBalance_perm h
  rw [quantityCode, quantityCode]
  cases entitlement.factor with
  | none => rfl
  | some factor =>
    cases hb : commonBalance reports with
    | none =>
      rw [hb, Option.map_none, Option.map_eq_none_iff] at hbalance
      rw [hbalance]
    | some b =>
      rw [hb, Option.map_some, Option.map_eq_some_iff] at hbalance
      obtain ⟨b', hb', hsame⟩ := hbalance
      have heq : b'.eq holder.eligibleBalance = b.eq holder.eligibleBalance := by
        rw [Bool.eq_iff_iff, FiniteDecimal.eq_iff, FiniteDecimal.eq_iff, hsame]
      rw [hb']
      simp only [heq, hvalue, hsame]

/-- The codes of a comparison depend on which reports there are and on the number they sum to. -/
theorem comparedCodes_congr {holder : HolderEntitlement} {total total' : FiniteDecimal}
    {reports' : List MovementReport} (h : reports'.Perm reports)
    (hvalue : total'.value = total.value) :
    comparedCodes event entitlement holder total' reports' =
      comparedCodes event entitlement holder total reports := by
  have hstructural : sortedSet (reports'.flatMap (movementConditions event entitlement)) =
      sortedSet (reports.flatMap (movementConditions event entitlement)) := by
    apply sortedSet_congr
    simp [h.mem_iff]
  have hdepository : sortedSet (reports'.flatMap depositoryConditions) =
      sortedSet (reports.flatMap depositoryConditions) := by
    apply sortedSet_congr
    simp [h.mem_iff]
  have hamounts : amountsDiffer (some total') holder.quantity =
      amountsDiffer (some total) holder.quantity := by
    cases holder.quantity with
    | none => rfl
    | some q =>
      simp only [amountsDiffer, sameBalance]
      rw [Bool.not_inj_iff, Bool.eq_iff_iff, FiniteDecimal.eq_iff, FiniteDecimal.eq_iff, hvalue]
  rw [comparedCodes, comparedCodes, hstructural, hdepository, hamounts, quantityCode_congr h hvalue]

/-- Without rounding an account's codes are the same in every order of its reports. -/
theorem account_perm
    (hexact : ExactSums ambient (reports.map fun r => r.quantity.amount.value))
    {reports' : List MovementReport} (h : reports'.Perm reports) {a : AccountReconciliation}
    (ha : account accountId event entitlement reports = .ok a) :
    ∃ a', account accountId event entitlement reports' = .ok a' ∧ a'.breakCodes = a.breakCodes := by
  by_cases hnil : reports = []
  · subst hnil
    rw [List.perm_nil.mp h]
    exact ⟨a, ha, rfl⟩
  have hnil' : reports' ≠ [] := fun hempty => hnil (List.nil_perm.mp (hempty ▸ h))
  obtain ⟨total, htotal, hvalue⟩ := sum_eq_exactTotal hexact (List.Perm.refl _)
  obtain ⟨total', htotal', hvalue'⟩ := sum_eq_exactTotal hexact h
  have hsame : total'.value = total.value := hvalue'.trans hvalue.symm
  have hconfirmed := confirmedTotal_eq_some.mpr ⟨hnil, htotal⟩
  have hconfirmed' := confirmedTotal_eq_some.mpr ⟨hnil', htotal'⟩
  rw [account, hconfirmed, Outcome.ok_bind] at ha
  obtain ⟨codes, hcodes, ha⟩ := Outcome.bind_eq_ok.mp ha
  obtain ⟨difference, hdifference, ha⟩ := Outcome.bind_eq_ok.mp ha
  cases ha
  have hcodes' : accountCodes event entitlement (holderOf entitlement accountId) (some total')
      reports' = .ok codes := by
    rw [← hcodes]
    rcases holderOf entitlement accountId with _ | holder
    · rfl
    · rcases hq : holder.quantity with _ | q
      · simp [accountCodes, hq]
      · simp only [accountCodes, hq]
        exact comparedCodes_congr h hsame
  -- the difference of the same numbers returns as well
  have hdifference' : ∃ d, differenceOf (some total')
      ((holderOf entitlement accountId).bind (·.quantity)) = .ok d := by
    rcases hexpected : (holderOf entitlement accountId).bind (·.quantity) with _ | q
    · exact ⟨none, rfl⟩
    · rw [hexpected, differenceOf] at hdifference
      obtain ⟨d, hd, -⟩ := Outcome.map_eq_ok.mp hdifference
      have hcongr : FiniteDecimal.value <$> total'.sub ambient q =
          FiniteDecimal.value <$> total.sub ambient q :=
        FiniteDecimal.add_value_congr hsame rfl
      rw [hd] at hcongr
      obtain ⟨d', hd', -⟩ := Outcome.map_eq_ok.mp hcongr
      exact ⟨some d', by simp [differenceOf, hd']⟩
  obtain ⟨d', hd'⟩ := hdifference'
  refine ⟨⟨accountId, (holderOf entitlement accountId).bind (·.quantity), some total', d',
    reports'.length, codes.isEmpty, codes, matchedMeansNoBreaks_isEmpty codes _⟩, ?_, rfl⟩
  rw [account, hconfirmed', Outcome.ok_bind]
  simp only [hcodes', hd', Outcome.ok_bind]

/-- Without rounding, the disposition and the breaks are the same in every order of the
confirmations. -/
theorem reconcile_perm (hexact : SumsUnrounded entitlement confirmations)
    (h : confirmations'.Perm confirmations) {result : CorporateActionReconciliation}
    (hresult : reconcile event entitlement confirmations reconciledAt = .ok result) :
    ∃ result', reconcile event entitlement confirmations' reconciledAt = .ok result' ∧
      result'.disposition = result.disposition ∧ result'.matched = result.matched ∧
        result'.breakCodes = result.breakCodes := by
  rw [reconcile] at hresult ⊢
  obtain ⟨⟨⟩, hevent, hresult⟩ := Outcome.bind_eq_ok.mp hresult
  obtain ⟨⟨⟩, hfits, hresult⟩ := Outcome.bind_eq_ok.mp hresult
  have hfits' : Outcome.foldSteps (fun _ report => confirmationFits event report) ()
      confirmations' = .ok () := by
    rw [Outcome.foldSteps_unit_eq_ok] at hfits ⊢
    exact fun r hr => hfits r (h.mem_iff.mp hr)
  rw [hevent, Outcome.ok_bind, hfits', Outcome.ok_bind]
  split_ifs at hresult ⊢ with hstopped
  · cases hresult
    exact ⟨_, rfl, rfl, rfl, rfl⟩
  obtain ⟨accounts, hcollect, hresult⟩ := Outcome.bind_eq_ok.mp hresult
  cases hresult
  have hcalls : ∀ id ∈ accountsOf entitlement confirmations, ∀ a,
      account id event entitlement (reportsOf confirmations id) = .ok a →
        ∃ a', account id event entitlement (reportsOf confirmations' id) = .ok a' ∧
          a.breakCodes = a'.breakCodes := by
    intro id hid a ha
    obtain ⟨a', ha', hcodes⟩ := account_perm (hexact id hid) (reportsOf_perm h id) ha
    exact ⟨a', ha', hcodes.symm⟩
  obtain ⟨accounts', hcollect', hcodes⟩ := Outcome.collect_related hcalls hcollect
  have hall : accounts'.flatMap (·.breakCodes) = accounts.flatMap (·.breakCodes) := by
    have hmap : accounts.map (·.breakCodes) = accounts'.map (·.breakCodes) := by
      rw [← List.forall₂_eq_eq_eq, List.forall₂_map_left_iff, List.forall₂_map_right_iff]
      exact hcodes
    rw [List.flatMap_def, List.flatMap_def, hmap]
  refine ⟨reconciled event accounts' reconciledAt, ?_, ?_, ?_, ?_⟩
  · rw [accountsOf_perm h, Outcome.bind_eq_ok]
    exact ⟨accounts', hcollect', rfl⟩
  · simp only [reconciled, hall]
  · simp only [reconciled, hall]
  · simp only [reconciled, hall]

/-! ## When the reconciliation is sound -/

/-- A dividend of one dollar a share. -/
def septemberDividend : CorporateActionEvent where
  eventId := "CA-SEPTEMBER"
  securityId := "US0000000032"
  eventType := .cashDividend
  participation := .mandatory
  dates := { announcementDate := Date.of 2026 9 1 }
  terms := { cashRatePerShare := some { amount := 1 }, currency := some "USD" }
  provenance := .factExternal
  source := { sourceId := "DTC-SEPTEMBER" }

/-- A holding in the dividend's security. -/
def septemberHolding (balance : FiniteDecimal) : HolderPosition where
  accountId := "SEP-1"
  position :=
    { securityId := "US0000000032", eligibleBalance := balance, settlementBalance := balance }

theorem isIsin_september : isIsin "US0000000032" = true := by decide

theorem isOptionNumber_september : isOptionNumber "901" = true := by decide

/-- A confirmed cash credit that names the dividend, and a class of event. -/
def septemberConfirmation (eventType : EventType) (amount : CustomerProtection.NonNegativeMoney) :
    MovementReport where
  stage := .confirmation
  eventId := "CA-SEPTEMBER"
  eventType
  securityId := "US0000000032"
  accountId := "SEP-1"
  optionId := "901"
  optionType := .cash
  balances := { confirmedBalance := some 0 }
  movement := .cash amount "USD"
  direction := .credit
  movementDate := Date.of 2026 9 10
  provenance := .factExternal
  source := { sourceId := "DTC-SEPTEMBER" }
  authority :=
    { governedEventId := "CA-SEPTEMBER"
      authorizingActor := ⟨"dtc-sep", .externalEmulator, "depository", [], true⟩
      authorityRecordUri := "record://september"
      provenance := .factExternal }
  valid := by
    simp [MovementReportFields.validate, MovementReportFields.fitsItsStage, required,
      isIsin_september, isOptionNumber_september, Provenance.isFact, Outcome.bind_eq_ok]

/-- The reconciliation of a holding against confirmations, with the holding's own entitlement. -/
def septemberOutcome (balance : FiniteDecimal) (confirmations : List MovementReport) :
    Outcome (Disposition × Bool) := do
  let entitlement ← computeEntitlements septemberDividend [septemberHolding balance]
  let result ← reconcile septemberDividend entitlement confirmations
    (Timestamp.midnight (Date.of 2026 9 11))
  .ok (result.disposition, result.matched)

theorem exists_passes_of_outcome {balance : FiniteDecimal} {matched : Bool}
    (h : septemberOutcome balance confirmations = .ok (.pass, matched)) :
    ∃ entitlement, computeEntitlements septemberDividend [septemberHolding balance] =
        .ok entitlement ∧
      Passes septemberDividend entitlement confirmations (.midnight (Date.of 2026 9 11)) := by
  obtain ⟨entitlement, hentitlement, h⟩ := Outcome.bind_eq_ok.mp h
  obtain ⟨result, hresult, h⟩ := Outcome.bind_eq_ok.mp h
  rw [Except.ok.injEq, Prod.mk.injEq] at h
  exact ⟨entitlement, hentitlement, result, hresult, h.1⟩

set_option maxRecDepth 10000 in
/-- A credit beyond the amount expected, by less than the last digit of the sum, passes. -/
example : septemberOutcome ⟨false, 1, 28⟩
    [septemberConfirmation .cashDividend { amount := ⟨false, 1, 28⟩ },
      septemberConfirmation .cashDividend { amount := ⟨false, 4, -1⟩ }] =
    .ok (.pass, true) := by
  decide +kernel

set_option maxRecDepth 10000 in
/-- A credit of nothing for an account entitled to nothing passes. -/
example : septemberOutcome 0 [septemberConfirmation .cashDividend { amount := 0 }] =
    .ok (.pass, true) := by
  decide +kernel

end CorporateActions

end Atreides
