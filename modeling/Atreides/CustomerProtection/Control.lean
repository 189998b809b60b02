import Atreides.CustomerProtection.Common
import Atreides.Foundation.Date
import Atreides.Foundation.Text

/-!
# Possession or control

For each issue: what the firm must hold, where it is, and whether the locations add up to
the position the books state. A location type the loaded rules do not name is neither a
control location nor a noncontrol one.

## Main definitions

* `Holding`, `IssueRequirement`, `ControlInputs` — the stock record the check reads
* `checkIssue`, `checkPossessionOrControl` — the check

## Main results

* `checkIssue_quantities` — the quantities of a check are the sums of the holdings
-/

namespace Atreides

namespace CustomerProtection

open DecimalContext (ambient)

/-! ## The stock record -/

/-- A quantity of securities, exact like money. -/
abbrev Quantity := NonNegativeMoney

/-- Some quantity of one issue at one location type. -/
structure Holding where
  location : String
  quantity : Quantity
  ageDays : Option Quantity := none
  loaned : Option Bool := none
  deriving DecidableEq

/-- One issue: what the firm must hold, and where it is. -/
@[ext]
structure IssueRequirement where
  issue : String
  fullyPaid : Option Quantity
  excessMargin : Option Quantity
  booksTotal : Option Quantity
  holdings : List Holding
  issue_nonempty : issue ≠ "" := by decide

instance : DecidableEq IssueRequirement :=
  fun _ _ => decidable_of_iff _ IssueRequirement.ext_iff.symm

/-- The stock record of one day. -/
structure ControlInputs where
  asOf : Date
  issues : List IssueRequirement
  deriving DecidableEq

/-! ## The check -/

/-- What the rule requires for one noncontrol holding of a short issue. -/
structure ControlAction where
  location : String
  quantity : Quantity
  paragraph : String
  action : String
  deadlineBusinessDays : Option FiniteDecimal := none
  ageThresholdDays : Option FiniteDecimal := none
  required : Option Bool
  deriving DecidableEq

/-- The check for one issue. -/
structure IssueControl where
  issue : String
  required : Option Quantity
  inControl : Quantity
  inNoncontrol : Quantity
  atUnknownLocations : Quantity
  booksTotal : Option Quantity
  conserved : Option Bool
  shortfall : Option Quantity
  actions : List ControlAction
  deriving DecidableEq

/-- The check, its evidence, and its disposition. -/
structure ControlResult where
  asOf : Date
  disposition : Disposition
  issues : List IssueControl
  missingRules : List String
  missingInputs : List String
  breaches : List String
  reasons : List String
  rulesUsed : List RuleRef

def lienOrLoan : String := "15c3-3.noncontrol.d1"

def lienDays : String := "15c3-3.d1.lien_release_days"

def loanDays : String := "15c3-3.d1.loan_return_days"

/-- The rule of the age at which a noncontrol location calls for action. -/
def agedRule : String → Option String
  | "15c3-3.noncontrol.d2" => some "15c3-3.d2.fail_to_receive_age"
  | "15c3-3.noncontrol.d3" => some "15c3-3.d3.distribution_receivable_age"
  | "15c3-3.noncontrol.d4" => some "15c3-3.d4.short_allocation_age"
  | _ => none

/-- The reader and the findings so far. -/
structure Checking where
  rules : RuleReader
  missingInputs : List String := []
  breaches : List String := []

def Checking.missInput (state : Checking) (name : String) : Checking :=
  { state with missingInputs := state.missingInputs ++ [name] }

def Checking.breach (state : Checking) (text : String) : Checking :=
  { state with breaches := state.breaches ++ [text] }

/-- The last character of a text. -/
def lastCharacter (s : String) : String := String.ofList (s.toList.drop (s.length - 1))

/-- The action on one noncontrol holding of a short issue. -/
def actionFor (issue : String) (state : Checking) (holding : Holding) :
    Checking × ControlAction :=
  if holding.location = lienOrLoan then
    let (state, days) := match holding.loaned with
      | none => (state.missInput ("loaned[" ++ issue ++ "]"), none)
      | some loaned =>
        let (rules, days) := state.rules.value (if loaned then loanDays else lienDays)
        ({ state with rules }, days)
    (state, {
      location := holding.location
      quantity := holding.quantity
      paragraph := "15c3-3(d)(1)"
      action := "issue instructions for the return of the loaned securities or their release " ++
        "from the lien not later than the business day after the determination"
      deadlineBusinessDays := days
      required := some true })
  else
    match agedRule holding.location with
    | none =>
      ({ state with rules := state.rules.flag ("noncontrol location " ++ quoted holding.location ++
          " is loaded but has no modeled action") }, {
        location := holding.location
        quantity := holding.quantity
        paragraph := "15c3-3(d)"
        action := "not modeled"
        required := none })
    | some ageRule =>
      let (rules, threshold) := state.rules.value ageRule
      let state := { state with rules }
      let state := if holding.ageDays.isNone then
          state.missInput ("age_days[" ++ issue ++ ", " ++ holding.location ++ "]")
        else state
      (state, {
        location := holding.location
        quantity := holding.quantity
        paragraph := "15c3-3(d)(" ++ lastCharacter holding.location ++ ")"
        action := "take prompt steps to obtain possession or control, through a buy-in or " ++
          "otherwise"
        ageThresholdDays := threshold
        required := do
          let threshold ← threshold
          let age ← holding.ageDays
          some (threshold.lt age.amount) })

/-- The actions on holdings in turn. -/
def actionsFor (issue : String) (state : Checking) : List Holding → Checking × List ControlAction
  | [] => (state, [])
  | holding :: rest =>
    let (state, action) := actionFor issue state holding
    let (state, actions) := actionsFor issue state rest
    (state, action :: actions)

/-- The quantities counted so far, by what the location is. -/
structure Counted where
  rules : RuleReader
  inControl : FiniteDecimal := 0
  inNoncontrol : FiniteDecimal := 0
  unknown : FiniteDecimal := 0

/-- One holding counted where its location belongs. -/
def countHolding (control noncontrol : List String) (counted : Counted) (holding : Holding) :
    Outcome Counted :=
  if holding.location ∈ control then do
    let inControl ← counted.inControl.add ambient holding.quantity.amount
    .ok { counted with rules := (counted.rules.present holding.location).1, inControl }
  else if holding.location ∈ noncontrol then do
    let inNoncontrol ← counted.inNoncontrol.add ambient holding.quantity.amount
    .ok { counted with rules := (counted.rules.present holding.location).1, inNoncontrol }
  else do
    let unknown ← counted.unknown.add ambient holding.quantity.amount
    .ok { counted with
      rules := counted.rules.flag ("location type " ++ quoted holding.location ++
        " is not a location the loaded Rule 15c3-3(c) or (d) text names")
      unknown }

/-- The names of the inputs an issue leaves out. -/
def missingQuantities (requirement : IssueRequirement) : List String :=
  ([("fully_paid", requirement.fullyPaid), ("excess_margin", requirement.excessMargin),
      ("books_total", requirement.booksTotal)].filter fun input => input.2.isNone).map
    fun input => input.1 ++ "[" ++ requirement.issue ++ "]"

/-- What the firm must hold of an issue, where both parts are stated. -/
def requiredQuantity (requirement : IssueRequirement) : Outcome (Option FiniteDecimal) :=
  match requirement.fullyPaid, requirement.excessMargin with
  | some fullyPaid, some excessMargin => some <$> fullyPaid.amount.add ambient excessMargin.amount
  | _, _ => .ok none

/-- What is required and not in control. -/
def shortfallQuantity (required : Option FiniteDecimal) (inControl : FiniteDecimal) :
    Outcome (Option FiniteDecimal) :=
  match required with
  | none => .ok none
  | some required => do
    let missing ← required.sub ambient inControl
    .ok (some (missing.max 0))

/-- Whether the holdings add up to the books, where these are stated. -/
def isConserved (requirement : IssueRequirement) (total : FiniteDecimal) : Option Bool :=
  requirement.booksTotal.map fun books => total.eq books.amount

/-- A total that differs from the books is a breach. -/
def noteConservation (requirement : IssueRequirement) (total : FiniteDecimal)
    (state : Checking) : Checking :=
  if isConserved requirement total = some false then
    state.breach (requirement.issue ++ ": holdings across locations (" ++ total.text ++
      ") do not equal the books (" ++
      (requirement.booksTotal.map fun books => books.amount.text).getD "None" ++ ")")
  else state

/-- A shortfall is a breach, and calls for action on the noncontrol holdings. -/
def noteShortfall (noncontrol : List String) (requirement : IssueRequirement)
    (shortfall : Option FiniteDecimal) (state : Checking) : Checking × List ControlAction :=
  match shortfall.filter (FiniteDecimal.lt 0) with
  | none => (state, [])
  | some shortfall =>
    actionsFor requirement.issue (state.breach (requirement.issue ++ ": " ++ shortfall.text ++
        " fully paid or excess margin securities are not in possession or control"))
      (requirement.holdings.filter fun holding => holding.location ∈ noncontrol)

/-- Check one issue. -/
def checkIssue (control noncontrol : List String) (state : Checking)
    (requirement : IssueRequirement) : Outcome (Checking × IssueControl) := do
  let state := { state with
    missingInputs := state.missingInputs ++ missingQuantities requirement }
  let counted ← Outcome.foldSteps (countHolding control noncontrol) { rules := state.rules }
    requirement.holdings
  let total ← counted.inControl.add ambient counted.inNoncontrol
  let total ← total.add ambient counted.unknown
  let required ← requiredQuantity requirement
  let shortfall ← shortfallQuantity required counted.inControl
  let (state, actions) := noteShortfall noncontrol requirement shortfall
    (noteConservation requirement total { state with rules := counted.rules })
  let required ← NonNegativeMoney.checkOptional (required.map .finite)
  let inControl ← NonNegativeMoney.check counted.inControl
  let inNoncontrol ← NonNegativeMoney.check counted.inNoncontrol
  let atUnknownLocations ← NonNegativeMoney.check counted.unknown
  let shortfall ← NonNegativeMoney.checkOptional (shortfall.map .finite)
  .ok (state, {
    issue := requirement.issue
    required
    inControl
    inNoncontrol
    atUnknownLocations
    booksTotal := requirement.booksTotal
    conserved := isConserved requirement total
    shortfall
    actions })

/-- Check the issues in turn. -/
def checkIssues (control noncontrol : List String) :
    Checking → List IssueRequirement → Outcome (Checking × List IssueControl)
  | state, [] => .ok (state, [])
  | state, requirement :: rest => do
    let (state, checked) ← checkIssue control noncontrol state requirement
    let (state, others) ← checkIssues control noncontrol state rest
    .ok (state, checked :: others)

/-- A list as a set shows it once it is sorted. -/
def sortedSet (names : List String) : List String := (Dict.firstKeys names).insertionSort (· ≤ ·)

/-- Check possession or control issue by issue. -/
def checkPossessionOrControl (inputs : ControlInputs) (table : RuleTable) :
    Outcome ControlResult := do
  let rules : RuleReader := { table }
  let control := rules.ofKind .controlLocation
  let noncontrol := rules.ofKind .noncontrolLocation
  let rules := if control = [] then
      rules.flag "no Rule 15c3-3(c) control location is loaded" else rules
  let (state, issues) ← checkIssues control noncontrol { rules } inputs.issues
  let state := if inputs.issues = [] then state.missInput "issues" else state
  .ok {
    asOf := inputs.asOf
    disposition := CustomerProtection.decide state.rules.missing state.missingInputs
      state.breaches
    issues
    missingRules := state.rules.missing
    missingInputs := sortedSet state.missingInputs
    breaches := state.breaches
    reasons := if inputs.issues = [] then ["no issues were supplied; nothing was checked"] else []
    rulesUsed := state.rules.used }

/-! ## What a check counts -/

/-- The quantities held where the location answers a test. -/
def quantitiesWhere (test : String → Bool) (holdings : List Holding) : List ℚ :=
  (holdings.filter fun holding => test holding.location).map
    fun holding => holding.quantity.amount.value

@[simp] theorem quantitiesWhere_nil (test : String → Bool) : quantitiesWhere test [] = [] := rfl

theorem quantitiesWhere_append (test : String → Bool) (xs ys : List Holding) :
    quantitiesWhere test (xs ++ ys) = quantitiesWhere test xs ++ quantitiesWhere test ys := by
  simp [quantitiesWhere]

theorem quantitiesWhere_singleton (test : String → Bool) (holding : Holding) :
    quantitiesWhere test [holding] =
      if test holding.location then [holding.quantity.amount.value] else [] := by
  by_cases h : test holding.location = true <;> simp [quantitiesWhere, h]

theorem quantitiesWhere_sublist (test : String → Bool) (holdings : List Holding) :
    (quantitiesWhere test holdings).Sublist (quantitiesWhere (fun _ => true) holdings) := by
  rw [quantitiesWhere, quantitiesWhere, List.filter_true]
  exact List.filter_sublist.map _

/-- A loaded location that is no control location. -/
def isNoncontrol (control noncontrol : List String) (location : String) : Bool :=
  location ∉ control && location ∈ noncontrol

/-- A location the loaded rules do not name. -/
def isUnknown (control noncontrol : List String) (location : String) : Bool :=
  location ∉ control && location ∉ noncontrol

/-- What is not in control is at a noncontrol location or an unknown one. -/
theorem sum_not_in_control (control noncontrol : List String) (holdings : List Holding) :
    (quantitiesWhere (isNoncontrol control noncontrol) holdings).sum +
        (quantitiesWhere (isUnknown control noncontrol) holdings).sum =
      (quantitiesWhere (· ∉ control) holdings).sum := by
  induction holdings with
  | nil => simp
  | cons holding rest ih =>
    have hcons : ∀ test, (quantitiesWhere test (holding :: rest)).sum =
        (if test holding.location then holding.quantity.amount.value else 0) +
          (quantitiesWhere test rest).sum := by
      intro test
      rw [← List.singleton_append, quantitiesWhere_append, quantitiesWhere_singleton]
      split_ifs <;> simp
    rw [hcons, hcons, hcons, ← ih]
    by_cases hcontrol : holding.location ∈ control
    · simp [isNoncontrol, isUnknown, hcontrol]
    · by_cases hnoncontrol : holding.location ∈ noncontrol
      · simp [isNoncontrol, isUnknown, hcontrol, hnoncontrol, add_assoc]
      · simp [isNoncontrol, isUnknown, hcontrol, hnoncontrol]
        ring

section Counting

variable {control noncontrol : List String} {holdings : List Holding}

/-- Holdings are counted where they belong, to their exact totals. -/
theorem countHolding_value {rules : RuleReader} {counted : Counted}
    (h : Outcome.foldSteps (countHolding control noncontrol) { rules } holdings = .ok counted)
    (hexact : ExactSums ambient (quantitiesWhere (fun _ => true) holdings)) :
    counted.inControl.value = (quantitiesWhere (· ∈ control) holdings).sum ∧
      counted.inNoncontrol.value =
        (quantitiesWhere (isNoncontrol control noncontrol) holdings).sum ∧
      counted.unknown.value = (quantitiesWhere (isUnknown control noncontrol) holdings).sum := by
  induction holdings using List.reverseRecOn generalizing counted with
  | nil =>
    cases h
    simp [FiniteDecimal.value_zero]
  | append_singleton holdings holding ih =>
    rw [Outcome.foldSteps_append, Outcome.bind_eq_ok] at h
    obtain ⟨before, hbefore, hlast⟩ := h
    rw [Outcome.foldSteps_cons, Outcome.bind_eq_ok] at hlast
    obtain ⟨after, hstep, hafter⟩ := hlast
    cases hafter
    have hprior : ExactSums ambient (quantitiesWhere (fun _ => true) holdings) := by
      rw [quantitiesWhere_append] at hexact
      exact hexact.append_left
    obtain ⟨hin, hnon, hunknown⟩ := ih hbefore hprior
    -- one more quantity where the test holds keeps that total exact
    have hadd : ∀ {test : String → Bool} {total total' : FiniteDecimal},
        total.value = (quantitiesWhere test holdings).sum → test holding.location = true →
          total.add ambient holding.quantity.amount = .ok total' →
            total'.value = (quantitiesWhere test (holdings ++ [holding])).sum := by
      intro test total total' htotal htest hadd
      have hsums := hexact.sublist (quantitiesWhere_sublist test (holdings ++ [holding]))
      rw [quantitiesWhere_append, quantitiesWhere_singleton, if_pos htest] at hsums ⊢
      obtain ⟨r, hr, hvalue⟩ := FiniteDecimal.add_exact_of_sums htotal hsums
      rw [hadd] at hr
      cases hr
      exact hvalue
    have hkeep : ∀ {test : String → Bool}, test holding.location = false →
        quantitiesWhere test (holdings ++ [holding]) = quantitiesWhere test holdings := by
      intro test htest
      rw [quantitiesWhere_append, quantitiesWhere_singleton, htest]
      simp
    rw [countHolding] at hstep
    by_cases hcontrol : holding.location ∈ control
    · rw [if_pos hcontrol, Outcome.bind_eq_ok] at hstep
      obtain ⟨total, htotal, hset⟩ := hstep
      cases hset
      refine ⟨hadd hin (by simpa using hcontrol) htotal, ?_, ?_⟩
      · rw [hkeep (by simp [isNoncontrol, hcontrol])]
        exact hnon
      · rw [hkeep (by simp [isUnknown, hcontrol])]
        exact hunknown
    · rw [if_neg hcontrol] at hstep
      by_cases hnoncontrol : holding.location ∈ noncontrol
      · rw [if_pos hnoncontrol, Outcome.bind_eq_ok] at hstep
        obtain ⟨total, htotal, hset⟩ := hstep
        cases hset
        refine ⟨?_, hadd hnon (by simp [isNoncontrol, hcontrol, hnoncontrol]) htotal, ?_⟩
        · rw [hkeep (by simpa using hcontrol)]
          exact hin
        · rw [hkeep (by simp [isUnknown, hnoncontrol])]
          exact hunknown
      · rw [if_neg hnoncontrol, Outcome.bind_eq_ok] at hstep
        obtain ⟨total, htotal, hset⟩ := hstep
        cases hset
        refine ⟨?_, ?_, hadd hunknown (by simp [isUnknown, hcontrol, hnoncontrol]) htotal⟩
        · rw [hkeep (by simpa using hcontrol)]
          exact hin
        · rw [hkeep (by simp [isNoncontrol, hnoncontrol])]
          exact hnon

/-- The quantities of a check are the exact sums of the issue's holdings. -/
theorem checkIssue_quantities {state state' : Checking} {requirement : IssueRequirement}
    {checked : IssueControl}
    (h : checkIssue control noncontrol state requirement = .ok (state', checked))
    (hexact : ExactSums ambient (quantitiesWhere (fun _ => true) requirement.holdings)) :
    checked.issue = requirement.issue ∧
      checked.inControl.amount.value =
        (quantitiesWhere (· ∈ control) requirement.holdings).sum ∧
      checked.inNoncontrol.amount.value + checked.atUnknownLocations.amount.value =
        (quantitiesWhere (· ∉ control) requirement.holdings).sum := by
  simp only [checkIssue, Outcome.bind_eq_ok] at h
  obtain ⟨counted, hcounted, _, _, _, _, _, _, _, _, _, _, inControl, hin, inNoncontrol, hnon,
    unknown, hunknown, _, _, hresult⟩ := h
  cases hresult
  rw [NonNegativeMoney.check_eq_ok, Decimal.finite.injEq] at hin hnon hunknown
  obtain ⟨hcontrol, hnoncontrol, hrest⟩ := countHolding_value hcounted hexact
  rw [hin] at hcontrol
  rw [hnon] at hnoncontrol
  rw [hunknown] at hrest
  refine ⟨rfl, hcontrol, ?_⟩
  rw [hnoncontrol, hrest, sum_not_in_control]

end Counting

/-- What the issues of a check were checked against, one by one. -/
theorem checkIssues_forall {control noncontrol : List String} {state state' : Checking}
    {requirements : List IssueRequirement} {issues : List IssueControl}
    (h : checkIssues control noncontrol state requirements = .ok (state', issues)) :
    List.Forall₂ (fun requirement checked => ∃ before after,
      checkIssue control noncontrol before requirement = .ok (after, checked))
      requirements issues := by
  induction requirements generalizing state issues with
  | nil =>
    cases h
    exact List.Forall₂.nil
  | cons requirement rest ih =>
    rw [checkIssues, Outcome.bind_eq_ok] at h
    obtain ⟨⟨between, checked⟩, hcheck, h⟩ := h
    rw [Outcome.bind_eq_ok] at h
    obtain ⟨⟨after, others⟩, hrest, hresult⟩ := h
    cases hresult
    exact List.Forall₂.cons ⟨state, between, hcheck⟩ (ih hrest)

/-- The issues of a check are the issues it was handed, each checked against the table's
locations. -/
theorem checkPossessionOrControl_forall {inputs : ControlInputs} {table : RuleTable}
    {result : ControlResult} (h : checkPossessionOrControl inputs table = .ok result) :
    List.Forall₂ (fun requirement checked => ∃ before after,
        checkIssue ((table.ofKind .controlLocation).map RuleItem.id)
          ((table.ofKind .noncontrolLocation).map RuleItem.id) before requirement =
            .ok (after, checked)) inputs.issues result.issues := by
  rw [checkPossessionOrControl] at h
  obtain ⟨⟨state, issues⟩, hissues, hresult⟩ := Outcome.bind_eq_ok.mp h
  cases hresult
  exact checkIssues_forall hissues

end CustomerProtection

end Atreides
