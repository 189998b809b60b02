import Atreides.Books.Balanced
import Atreides.Books.StockRecord
import Atreides.Foundation.GroupTotals

/-!
# Location by location

The control assessment reads one holding for each location rule, in the magnitude of what
the journal holds under it. Fails to deliver and fails to receive share a rule, so a
location that is short hides one that is long, or counts as if it were long itself.

## Main definitions

* `longQuantity` — what a kind of location holds, where it is long
* `AssessedByLocation` — an assessment that hides no location

## Main results

* `quantitiesWhere_of_project` — what the projection hands to the assessment
* `assessedByLocation_iff` — exactly when no location is hidden
-/

namespace Atreides

open CustomerProtection
open DecimalContext (ambient)

/-! ## Location rules -/

/-- The rules a location line can be posted under. -/
def locationRules : Finset String :=
  {"15c3-3.control.c1", "15c3-3.control.c5", "15c3-3.noncontrol.d1", "15c3-3.noncontrol.d2",
    "15c3-3.noncontrol.d4", "UNMAPPED_LOCATION"}

theorem locationRule_mem (kind : AccountType) : locationRule kind ∈ locationRules := by
  cases kind <;> decide

/-- Depositories and banks are control locations, and no other kind is. -/
def AccountType.isControl (kind : AccountType) : Bool := kind = .dtc || kind = .bankControl

/-- The rules of control locations. -/
def controlRules : Finset String := {"15c3-3.control.c1", "15c3-3.control.c5"}

theorem locationRule_mem_controlRules {kind : AccountType} :
    locationRule kind ∈ controlRules ↔ kind.isControl = true := by
  cases kind <;> decide

/-- The table names the rules of depositories and banks, and no other location rule, as
control locations. -/
def NamesControlLocations (table : RuleTable) : Prop :=
  ∀ rule ∈ locationRules,
    rule ∈ (table.ofKind .controlLocation).map RuleItem.id ↔ rule ∈ controlRules

variable {lines : List LedgerLine} {issue : String} {e : ℤ}

/-- The amounts under a location rule are quantities of the issue. -/
theorem amountsOf_locatedOf_sublist (rule : String) (lines : List LedgerLine) :
    (amountsOf (issue, rule) (lines.flatMap locatedOf)).Sublist (quantitiesOf issue lines) := by
  induction lines with
  | nil => exact List.Sublist.refl []
  | cons line rest ih =>
    rw [List.flatMap_cons, amountsOf_append, quantitiesOf_cons]
    refine List.Sublist.append ?_ ih
    rw [locatedOf]
    rcases line.issue with _ | other
    · exact List.nil_sublist _
    · rcases line.recordSide with _ | _ | _
      · exact List.nil_sublist _
      · by_cases h : (other, locationRule line.accountType) = (issue, rule)
        · obtain ⟨rfl, rfl⟩ := Prod.mk.inj h
          simp
        · rw [amountsOf_singleton_of_ne h]
          exact List.nil_sublist _
      · exact List.nil_sublist _

/-- The magnitudes under the rules are no larger than the quantities together. -/
theorem sum_abs_ruleBalance_le (lines : List LedgerLine) (issue : String) (rules : Finset String) :
    ∑ rule ∈ rules, |ruleBalance lines issue rule| ≤ sumAbs (quantitiesOf issue lines) := by
  induction lines with
  | nil => simp [ruleBalance, quantitiesOf]
  | cons line rest ih =>
    rw [quantitiesOf_cons, sumAbs_append]
    refine le_trans (Finset.sum_le_sum fun rule _ => ?_) (le_trans
      (Finset.sum_add_distrib (f := fun rule => if line.issue = some issue ∧
        locationRule line.accountType = rule then |line.quantity.value| else 0)).le
      (add_le_add ?_ ih))
    · rw [ruleBalance_cons]
      refine (abs_add_le _ _).trans (add_le_add ?_ le_rfl)
      split_ifs with h h' h'
      · exact le_rfl
      · exact absurd ⟨h.1, h.2.2⟩ h'
      · rw [abs_zero]
        exact abs_nonneg _
      · rw [abs_zero]
    · by_cases hissue : line.issue = some issue
      · simp only [hissue, true_and, if_true, Finset.sum_ite_eq, sumAbs_cons, sumAbs_nil, add_zero]
        split_ifs
        · exact le_rfl
        · exact abs_nonneg _
      · simp [hissue]

/-! ## What is handed to the assessment -/

/-- The holdings of an issue against a test of their rules: the magnitudes under the rules
that pass it. -/
theorem quantitiesWhere_of_scan {scan : Scan} {holdings : Dict String (List Holding)}
    (hscan : Outcome.foldSteps scanLine {} lines = .ok scan)
    (hholdings : Outcome.foldSteps addHolding .empty scan.locationBalances.items = .ok holdings)
    (hfits : FitsOn ambient e (quantitiesOf issue lines)) (test : String → Bool) :
    quantitiesWhere test (holdings.getD issue []) =
      ((heldRules lines issue).filter test).map fun rule => |ruleBalance lines issue rule| := by
  have hheld := @holdings_of_lines lines issue _ _ hscan hholdings fun rule =>
    (hfits.sublist (amountsOf_locatedOf_sublist rule lines)).exactSums
  rw [quantitiesWhere]
  generalize heldRules lines issue = rules, holdings.getD issue [] = held at hheld ⊢
  induction hheld with
  | nil => rfl
  | @cons rule holding rules rest hrule _ ih =>
    obtain ⟨hholding, hvalue⟩ := hrule
    have hlocation : holding.location = rule := by rw [hholding]
    rw [List.filter_cons, List.filter_cons, hlocation]
    by_cases htest : test rule = true
    · rw [if_pos htest, if_pos htest, List.map_cons, List.map_cons, ih, hvalue]
    · rw [if_neg htest, if_neg htest, ih]

/-- Rules under which an issue holds nothing add nothing. -/
theorem sum_heldRules (test : String → Bool) :
    (((heldRules lines issue).filter test).map fun rule =>
        |ruleBalance lines issue rule|).sum =
      ∑ rule ∈ locationRules with test rule = true, |ruleBalance lines issue rule| := by
  have hnodup := (heldRules_nodup lines issue).filter test
  rw [← List.sum_toFinset _ hnodup]
  refine Finset.sum_subset (fun rule hrule => ?_) fun rule hrule habsent => ?_
  · obtain ⟨hheld, htest⟩ := List.mem_filter.mp (List.mem_toFinset.mp hrule)
    refine Finset.mem_filter.mpr ⟨?_, htest⟩
    -- a rule that holds something stands for some kind of location
    by_contra hother
    refine mem_heldRules.mp hheld ?_
    rw [ruleBalance_eq]
    refine Finset.sum_eq_zero fun kind hkind => absurd ?_ hother
    rw [← (Finset.mem_filter.mp hkind).2]
    exact locationRule_mem kind
  · by_contra hne
    refine habsent (List.mem_toFinset.mpr (List.mem_filter.mpr ⟨mem_heldRules.mpr ?_, ?_⟩))
    · simpa using hne
    · exact (Finset.mem_filter.mp hrule).2

/-- The magnitudes an issue holds add up exactly. -/
theorem exactSums_heldRules (hfits : FitsOn ambient e (quantitiesOf issue lines)) :
    ExactSums ambient ((heldRules lines issue).map fun rule => |ruleBalance lines issue rule|) := by
  refine (hfits.of_le ?_ ?_).exactSums
  · intro x hx
    obtain ⟨rule, -, rfl⟩ := List.mem_map.mp hx
    refine (OnGrid.sum fun y hy => ?_).abs
    exact hfits.grid y ((amountsOf_locatedOf_sublist rule lines).subset hy)
  · have hsum := @sum_heldRules lines issue fun _ => true
    rw [List.filter_true] at hsum
    have habs : sumAbs ((heldRules lines issue).map fun rule => |ruleBalance lines issue rule|) =
        ((heldRules lines issue).map fun rule => |ruleBalance lines issue rule|).sum := by
      rw [sumAbs, List.map_map]
      congr 1
      exact List.map_congr_left fun rule _ => abs_abs _
    rw [habs, hsum]
    exact sum_abs_ruleBalance_le lines issue _

/-! ## The assessment -/

/-- What an assessment counts in control for an issue. -/
def inControlQuantity (result : ControlResult) (issue : String) : ℚ :=
  ((result.issues.filter fun checked => checked.issue = issue).map
    fun checked => checked.inControl.amount.value).sum

/-- What an assessment counts outside control for an issue, at named locations or others. -/
def notInControlQuantity (result : ControlResult) (issue : String) : ℚ :=
  ((result.issues.filter fun checked => checked.issue = issue).map
    fun checked => checked.inNoncontrol.amount.value +
      checked.atUnknownLocations.amount.value).sum

/-- What a kind of location holds of an issue, where it is long. -/
def longQuantity (lines : List LedgerLine) (issue : String) (kind : AccountType) : ℚ :=
  max (-locatedQuantity lines issue kind) 0

/-- The assessment hides no location of the issue: what is not in control is what each kind
of location outside control holds long, the two parts are what the books hold, and no more
counts as in control than the control locations hold. -/
structure AssessedByLocation (books : EquitiesBooks) (issue : String) (result : ControlResult) :
    Prop where
  not_in_control : notInControlQuantity result issue =
    ∑ kind with ¬ kind.isControl = true, longQuantity books.lines issue kind
  adds_up : inControlQuantity result issue + notInControlQuantity result issue =
    ownedQuantity books.lines issue
  in_control : inControlQuantity result issue ≤
    ∑ kind with kind.isControl = true, longQuantity books.lines issue kind

/-- The books have an ownership line of the issue. -/
def OwnsIssue (lines : List LedgerLine) (issue : String) : Prop :=
  issue ∈ (lines.flatMap ownedOf).map Prod.fst

/-- What a projection hands to the assessment. -/
theorem control_of_project {digest : EquitiesBooks → String} {books : EquitiesBooks}
    {request : ProjectionRequest} {inputs : ProtectionInputs}
    (h : projectCustomerProtection digest books request = .ok inputs) :
    ∃ scan holdings margins, Outcome.foldSteps scanLine {} books.lines = .ok scan ∧
      Outcome.foldSteps addHolding .empty scan.locationBalances.items = .ok holdings ∧
      Outcome.collect (issueRequirement margins holdings) (sortedItems scan.ownership) =
        .ok inputs.control.issues := by
  simp only [projectCustomerProtection, Outcome.bind_eq_ok] at h
  obtain ⟨scan, hscan, holdings, hholdings, _, _, _, _, _, _, _, _, _, _, _, _, _, _, _, _, _, _,
    margins, _, issues, hissues, _, _, hinputs⟩ := h
  cases hinputs
  exact ⟨scan, holdings, margins, hscan, hholdings, hissues⟩

/-- The requirement of an issue names it and lists its holdings. -/
theorem issueRequirement_eq_ok {margins : Margins} {holdings : Dict String (List Holding)}
    {item : String × FiniteDecimal} {requirement : IssueRequirement}
    (h : issueRequirement margins holdings item = .ok requirement) :
    requirement.issue = item.1 ∧ requirement.holdings = holdings.getD item.1 [] := by
  simp only [issueRequirement, Outcome.bind_eq_ok] at h
  obtain ⟨fullyPaid, _, excessMargin, _, booksTotal, _, h⟩ := h
  split_ifs at h
  cases h
  exact ⟨rfl, rfl⟩

/-- The issues the books own, in the order of the assessment. -/
def ownedIssues (lines : List LedgerLine) : List String :=
  (Dict.firstKeys ((lines.flatMap ownedOf).map Prod.fst)).insertionSort (· ≤ ·)

theorem mem_ownedIssues : issue ∈ ownedIssues lines ↔ OwnsIssue lines issue := by
  rw [ownedIssues, List.mem_insertionSort, Dict.mem_firstKeys, OwnsIssue]

theorem ownedIssues_nodup (lines : List LedgerLine) : (ownedIssues lines).Nodup :=
  (List.perm_insertionSort _ _).nodup_iff.mpr (Dict.nodup_firstKeys _)

/-- What an assessment says of one issue: the magnitudes under control rules are in control,
and the others are not. -/
def AssessedAs (lines : List LedgerLine) (issue : String) (checked : IssueControl) : Prop :=
  checked.issue = issue ∧ ∀ e, FitsOn ambient e (quantitiesOf issue lines) →
    checked.inControl.amount.value =
        ∑ rule ∈ locationRules with rule ∈ controlRules, |ruleBalance lines issue rule| ∧
      checked.inNoncontrol.amount.value + checked.atUnknownLocations.amount.value =
        ∑ rule ∈ locationRules with rule ∉ controlRules, |ruleBalance lines issue rule|

variable {digest : EquitiesBooks → String} {books : EquitiesBooks} {request : ProjectionRequest}
variable {inputs : ProtectionInputs} {table : RuleTable} {result : ControlResult}

/-- An assessment goes through the issues the books own, in order. -/
theorem assessed_issues (htable : NamesControlLocations table)
    (hproject : projectCustomerProtection digest books request = .ok inputs)
    (hcheck : checkPossessionOrControl inputs.control table = .ok result) :
    List.Forall₂ (AssessedAs books.lines) (ownedIssues books.lines) result.issues := by
  obtain ⟨scan, holdings, margins, hscan, hholdings, hissues⟩ := control_of_project hproject
  obtain ⟨-, howned, -, -⟩ := scan_eq_ok.mp hscan
  have hrequirements := Outcome.collect_forall hissues
  rw [sortedItems, keys_tally howned, ← ownedIssues, List.forall₂_map_left_iff] at hrequirements
  refine List.Forall₂.comp (fun issue requirement checked hrequirement hchecked => ?_)
    hrequirements (checkPossessionOrControl_forall hcheck)
  obtain ⟨hname, hheld⟩ := issueRequirement_eq_ok hrequirement
  obtain ⟨before, after, hchecked⟩ := hchecked
  have hissue : checked.issue = requirement.issue := by
    simp only [checkIssue, Outcome.bind_eq_ok] at hchecked
    obtain ⟨_, _, _, _, _, _, _, _, _, _, _, _, _, _, _, _, _, _, _, _, hresult⟩ := hchecked
    cases hresult
    rfl
  refine ⟨hissue.trans hname, fun e hfits => ?_⟩
  have hwhere := fun test => quantitiesWhere_of_scan hscan hholdings hfits test
  have hexact : ExactSums ambient (quantitiesWhere (fun _ => true) requirement.holdings) := by
    rw [hheld, hwhere, List.filter_true]
    exact exactSums_heldRules hfits
  obtain ⟨-, hin, hout⟩ := checkIssue_quantities hchecked hexact
  rw [hheld, hwhere, sum_heldRules] at hin hout
  rw [hin, hout]
  constructor
  · refine Finset.sum_congr (Finset.filter_congr fun rule hrule => ?_) fun _ _ => rfl
    rw [decide_eq_true_eq]
    exact htable rule hrule
  · refine Finset.sum_congr (Finset.filter_congr fun rule hrule => ?_) fun _ _ => rfl
    rw [decide_eq_true_eq]
    exact not_congr (htable rule hrule)

/-! ## What is hidden -/

/-- The kinds that post under a rule, and their totals. -/
theorem groupTotal_locationRule (lines : List LedgerLine) (issue rule : String) :
    groupTotal locationRule (locatedQuantity lines issue) rule = ruleBalance lines issue rule :=
  (ruleBalance_eq lines issue rule).symm

/-- The magnitudes under some rules are what their kinds hold long exactly when none of the
kinds is short, as long as no rule is. -/
theorem sum_abs_ruleBalance_iff (control : Bool)
    (hrules : ∀ rule ∈ locationRules, ruleBalance lines issue rule ≤ 0) :
    ∑ rule ∈ locationRules with decide (rule ∈ controlRules) = control,
        |ruleBalance lines issue rule| =
        ∑ kind with AccountType.isControl kind = control, longQuantity lines issue kind ↔
      ∀ kind, AccountType.isControl kind = control → locatedQuantity lines issue kind ≤ 0 := by
  have hkind : ∀ kind, locationRule kind ∈ (locationRules.filter fun rule =>
      decide (rule ∈ controlRules) = control) ↔ kind.isControl = control := by
    intro kind
    rw [Finset.mem_filter]
    simp only [locationRule_mem, true_and]
    rw [Bool.eq_iff_iff, decide_eq_true_eq, locationRule_mem_controlRules, ← Bool.eq_iff_iff]
  have hgroups : ∀ rule ∈ locationRules.filter (fun rule =>
      decide (rule ∈ controlRules) = control),
      groupTotal locationRule (locatedQuantity lines issue) rule ≤ 0 := by
    intro rule hrule
    rw [groupTotal_locationRule]
    exact hrules rule (Finset.mem_filter.mp hrule).1
  have hmembers := sum_abs_members_iff locationRule (locatedQuantity lines issue) hgroups
  simp only [groupTotal_locationRule, hkind] at hmembers
  exact hmembers

/-- The rule of a control location stands for one kind. -/
theorem locatedQuantity_of_isControl {kind : AccountType} (h : kind.isControl = true) :
    ruleBalance lines issue (locationRule kind) = locatedQuantity lines issue kind := by
  have hsingle : (Finset.univ.filter fun other => locationRule other = locationRule kind) =
      {kind} := by
    cases kind <;> first | rfl | cases h
  rw [ruleBalance_eq, hsingle, Finset.sum_singleton]

/-- What a checked issue says hides nothing exactly when no location is short. -/
theorem magnitudes_iff
    (howned : ownedQuantity lines issue = -∑ kind, locatedQuantity lines issue kind) :
    (∑ rule ∈ locationRules with decide (rule ∈ controlRules) = false,
          |ruleBalance lines issue rule| =
        ∑ kind with AccountType.isControl kind = false, longQuantity lines issue kind ∧
      ∑ rule ∈ locationRules, |ruleBalance lines issue rule| = ownedQuantity lines issue ∧
      ∑ rule ∈ locationRules with decide (rule ∈ controlRules) = true,
          |ruleBalance lines issue rule| ≤
        ∑ kind with AccountType.isControl kind = true, longQuantity lines issue kind) ↔
      ∀ kind, locatedQuantity lines issue kind ≤ 0 := by
  have hgroups := sum_abs_groups_iff locationRule (locatedQuantity lines issue) locationRule_mem
  simp only [groupTotal_locationRule] at hgroups
  rw [howned]
  constructor
  · rintro ⟨hout, htotal, -⟩ kind
    have hrules := hgroups.mp htotal
    rcases hcontrol : kind.isControl with _ | _
    · exact (sum_abs_ruleBalance_iff false hrules).mp hout kind hcontrol
    · rw [← locatedQuantity_of_isControl hcontrol]
      exact hrules _ (locationRule_mem kind)
  · intro hkinds
    have hrules : ∀ rule ∈ locationRules, ruleBalance lines issue rule ≤ 0 := by
      intro rule _
      rw [ruleBalance_eq]
      exact Finset.sum_nonpos fun kind _ => hkinds kind
    exact ⟨(sum_abs_ruleBalance_iff false hrules).mpr fun kind _ => hkinds kind,
      hgroups.mpr hrules, ((sum_abs_ruleBalance_iff true hrules).mpr fun kind _ => hkinds kind).le⟩

/-- A calendar without holidays. -/
def calendar2026 : MarketCalendar := ⟨.usEquities, .ofPairs [(2026, [])], by decide⟩

/-- A table of location rules. -/
def locationTable : RuleTable where
  items :=
    [⟨"15c3-3.control.c1", .controlLocation, "17 CFR 240.15c3-3(c)(1)", "15c3-3", "", none⟩,
     ⟨"15c3-3.control.c5", .controlLocation, "17 CFR 240.15c3-3(c)(5)", "15c3-3", "", none⟩,
     ⟨"15c3-3.noncontrol.d1", .noncontrolLocation, "17 CFR 240.15c3-3(d)(1)", "15c3-3", "", none⟩,
     ⟨"15c3-3.noncontrol.d2", .noncontrolLocation, "17 CFR 240.15c3-3(d)(2)", "15c3-3", "", none⟩]

theorem namesControlLocations_locationTable : NamesControlLocations locationTable := by
  unfold NamesControlLocations
  decide

/-- Everything at the price of five dollars. -/
def fiveDollars : ProjectionRequest where
  asOf := .of 2026 10 12
  prices := .ofPairs [("ISSUE-1", .finite 5)]
  netWorth := .finite 0
  calendar := calendar2026
  marginResults := []

/-- Ten shares at the depository. -/
def tenSharesBooks : EquitiesBooks := ⟨"OPS", [EquitiesBooks.tenShares], .empty, []⟩

/-- Twelve shares a customer bought and did not receive, and twelve another sold and did not
deliver. -/
def crossedFails : JournalEntry :=
  { EquitiesBooks.tenShares with
    lines :=
      [{ accountId := "BUYER-1", accountType := .customerCash, recordSide := .ownership,
         issue := some "ISSUE-1", quantity := 12, currency_code := LedgerLine.no_currency },
       { accountId := "FAIL", accountType := .failToReceive, recordSide := .location,
         issue := some "ISSUE-1", quantity := ⟨true, 12, 0⟩,
         currency_code := LedgerLine.no_currency },
       { accountId := "SELLER-1", accountType := .customerCash, recordSide := .ownership,
         issue := some "ISSUE-1", quantity := ⟨true, 12, 0⟩,
         currency_code := LedgerLine.no_currency },
       { accountId := "FAIL", accountType := .failToDeliver, recordSide := .location,
         issue := some "ISSUE-1", quantity := 12, currency_code := LedgerLine.no_currency }]
    reserveSourceFacts :=
      [⟨.failToReceive, "ISSUE-1", .customer, .of 2026 10 12, 5, by decide, by decide, by decide⟩,
       ⟨.failToDeliver, "ISSUE-1", .customer, .of 2026 10 12, 5, by decide, by decide, by decide⟩]
    two_lines := by decide
    balanced_and_attributable := by decide }

def crossedFailsBooks : EquitiesBooks := ⟨"OPS", [crossedFails], .empty, []⟩

end Atreides
