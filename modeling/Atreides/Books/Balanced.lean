import Mathlib.Algebra.BigOperators.Group.Finset.Piecewise
import Atreides.Books.Replay

/-!
# Quantities of a balanced journal

Every entry balances, so what the journal owns of an issue and what it finds of it at all
locations add up to zero, where the quantities of the issue do not round. Shares at a
location are posted negative: a location is long where its total is negative.

## Main definitions

* `quantitiesOf` — the signed quantities of an issue
* `ownedQuantity`, `locatedQuantity` — what is owned, and what is at a kind of location

## Main results

* `ownedQuantity_eq` — what is owned is at some location
* `ruleBalance_eq` — a location rule collects the kinds it stands for
-/

namespace Atreides

open CustomerProtection
open DecimalContext (ambient)

/-! ## Quantities -/

/-- The signed quantities of an issue, on either side. -/
def quantitiesOf (issue : String) (lines : List LedgerLine) : List ℚ :=
  (lines.filter fun line => line.issue = some issue).map fun line => line.quantity.value

/-- What the journal owns of an issue. -/
def ownedQuantity (lines : List LedgerLine) (issue : String) : ℚ :=
  (amountsOf issue (lines.flatMap ownedOf)).sum

/-- The line posts the issue at that kind of location. -/
def isLocatedAt (issue : String) (kind : AccountType) (line : LedgerLine) : Bool :=
  line.issue = some issue && line.recordSide = .location && line.accountType = kind

/-- The total of an issue at a kind of location: negative where the location is long. -/
def locatedQuantity (lines : List LedgerLine) (issue : String) (kind : AccountType) : ℚ :=
  ((lines.filter (isLocatedAt issue kind)).map fun line => line.quantity.value).sum

/-- The total of an issue under a location rule. -/
def ruleBalance (lines : List LedgerLine) (issue rule : String) : ℚ :=
  (amountsOf (issue, rule) (lines.flatMap locatedOf)).sum

section Lines

variable {lines : List LedgerLine} {issue : String}

theorem quantitiesOf_cons (line : LedgerLine) (rest : List LedgerLine) :
    quantitiesOf issue (line :: rest) =
      (if line.issue = some issue then [line.quantity.value] else []) ++
        quantitiesOf issue rest := by
  by_cases h : line.issue = some issue <;> simp [quantitiesOf, h]

theorem ownedQuantity_cons (line : LedgerLine) (rest : List LedgerLine) :
    ownedQuantity (line :: rest) issue =
      (if line.issue = some issue ∧ line.recordSide = .ownership then line.quantity.value else 0) +
        ownedQuantity rest issue := by
  rw [ownedQuantity, List.flatMap_cons, amountsOf_append, List.sum_append, ← ownedQuantity]
  congr 1
  rw [ownedOf]
  rcases line.issue with _ | other
  · simp
  · rcases line.recordSide with _ | _ | _
    · by_cases h : other = issue
      · subst h
        simp
      · simp [amountsOf_singleton_of_ne h, h]
    · simp
    · simp

theorem locatedQuantity_cons (kind : AccountType) (line : LedgerLine) (rest : List LedgerLine) :
    locatedQuantity (line :: rest) issue kind =
      (if isLocatedAt issue kind line then line.quantity.value else 0) +
        locatedQuantity rest issue kind := by
  by_cases h : isLocatedAt issue kind line = true <;> simp [locatedQuantity, h]

theorem ruleBalance_cons (rule : String) (line : LedgerLine) (rest : List LedgerLine) :
    ruleBalance (line :: rest) issue rule =
      (if line.issue = some issue ∧ line.recordSide = .location ∧
          locationRule line.accountType = rule then line.quantity.value else 0) +
        ruleBalance rest issue rule := by
  rw [ruleBalance, List.flatMap_cons, amountsOf_append, List.sum_append, ← ruleBalance]
  congr 1
  rw [locatedOf]
  rcases line.issue with _ | other
  · simp
  · rcases line.recordSide with _ | _ | _
    · simp
    · by_cases h : (other, locationRule line.accountType) = (issue, rule)
      · obtain ⟨rfl, rfl⟩ := Prod.mk.inj h
        simp
      · rw [amountsOf_singleton_of_ne h, List.sum_nil, if_neg]
        rintro ⟨hissue, -, hrule⟩
        exact h (Prod.ext (Option.some.inj hissue) hrule)
    · simp

/-- A location rule collects the kinds of location it stands for. -/
theorem ruleBalance_eq (lines : List LedgerLine) (issue rule : String) :
    ruleBalance lines issue rule =
      ∑ kind with locationRule kind = rule, locatedQuantity lines issue kind := by
  induction lines with
  | nil => simp [ruleBalance, locatedQuantity]
  | cons line rest ih =>
    simp only [ruleBalance_cons, locatedQuantity_cons, ih, Finset.sum_add_distrib]
    congr 1
    by_cases hside : line.issue = some issue ∧ line.recordSide = .location
    · simp [isLocatedAt, hside.1, hside.2, Finset.sum_ite_eq]
    · have hnone : ∀ kind, isLocatedAt issue kind line = false := by
        intro kind
        rw [not_and] at hside
        by_cases h : line.issue = some issue
        · simp [isLocatedAt, hside h]
        · simp [isLocatedAt, h]
      rw [if_neg fun h => hside ⟨h.1, h.2.1⟩]
      simp [hnone]

/-- Every quantity of an issue is owned or located. -/
theorem sum_quantitiesOf (lines : List LedgerLine) (issue : String) :
    (quantitiesOf issue lines).sum =
      ownedQuantity lines issue + ∑ kind, locatedQuantity lines issue kind := by
  induction lines with
  | nil => simp [quantitiesOf, ownedQuantity, locatedQuantity]
  | cons line rest ih =>
    rw [quantitiesOf_cons, List.sum_append, ih, ownedQuantity_cons]
    simp only [locatedQuantity_cons, Finset.sum_add_distrib]
    by_cases hissue : line.issue = some issue
    · -- a line with an issue is posted to one of the two sides
      rcases hside : line.recordSide with _ | _ | _
      · simp [hissue, hside, isLocatedAt]
        ring
      · simp [hissue, hside, isLocatedAt, Finset.sum_ite_eq]
        ring
      · exfalso
        have h := line.one_unit
        have hcurrency : line.currency = none := by
          rcases hc : line.currency with _ | currency
          · rfl
          · rw [oneUnit, hissue, hc] at h
            simp at h
        rw [oneUnit, hissue, hcurrency, hside] at h
        by_cases hzero : line.quantity.isZero = true <;> simp [hzero] at h
    · simp [hissue, isLocatedAt]

end Lines

/-! ## Holdings -/

/-- The location rules under which an issue holds a balance, in order of appearance. -/
def heldRules (lines : List LedgerLine) (issue : String) : List String :=
  ((Dict.firstKeys ((lines.flatMap locatedOf).map Prod.fst)).filter fun key =>
    key.1 = issue && ruleBalance lines issue key.2 ≠ 0).map Prod.snd

theorem heldRules_nodup (lines : List LedgerLine) (issue : String) :
    (heldRules lines issue).Nodup := by
  refine List.Nodup.map_on ?_ ((Dict.nodup_firstKeys _).filter _)
  rintro ⟨a, r⟩ ha ⟨b, r'⟩ hb rfl
  have ha' := (List.mem_filter.mp ha).2
  have hb' := (List.mem_filter.mp hb).2
  simp only [Bool.and_eq_true, decide_eq_true_eq] at ha' hb'
  rw [ha'.1, hb'.1]

theorem mem_heldRules {lines : List LedgerLine} {issue rule : String} :
    rule ∈ heldRules lines issue ↔ ruleBalance lines issue rule ≠ 0 := by
  simp only [heldRules, List.mem_map, List.mem_filter, Dict.mem_firstKeys, Bool.and_eq_true,
    decide_eq_true_eq]
  constructor
  · rintro ⟨⟨_, _⟩, ⟨-, -, hne⟩, rfl⟩
    exact hne
  · intro hne
    refine ⟨(issue, rule), ⟨?_, rfl, hne⟩, rfl⟩
    by_contra habsent
    rw [← List.mem_map] at habsent
    rw [ruleBalance, amountsOf_eq_nil habsent] at hne
    exact hne rfl

/-- The holdings of an issue, one for each rule under which it holds a balance. -/
theorem holdings_of_lines {lines : List LedgerLine} {issue : String} {scan : Scan}
    {holdings : Dict String (List Holding)}
    (hscan : Outcome.foldSteps scanLine {} lines = .ok scan)
    (hholdings : Outcome.foldSteps addHolding .empty scan.locationBalances.items = .ok holdings)
    (hexact : ∀ rule, ExactSums ambient (amountsOf (issue, rule) (lines.flatMap locatedOf))) :
    List.Forall₂ (fun rule holding => holding = { location := rule, quantity := holding.quantity } ∧
        holding.quantity.amount.value = |ruleBalance lines issue rule|)
      (heldRules lines issue) (holdings.getD issue []) := by
  obtain ⟨-, -, hlocated, -⟩ := scan_eq_ok.mp hscan
  have hbalance : ∀ rule, (scan.locationBalances.getD (issue, rule) 0).value =
      ruleBalance lines issue rule := fun rule => value_tally hlocated (hexact rule)
  have hheld := holdings_of_scan hholdings issue
  rw [heldBalances, scan.locationBalances.items_eq_map_keys 0, List.filter_map,
    keys_tally hlocated, List.forall₂_map_left_iff] at hheld
  have hfilter : ∀ key : String × String, (key.1 = issue &&
      ruleBalance lines issue key.2 ≠ 0 : Bool) = (key.1 = issue &&
        !(scan.locationBalances.getD key 0).isZero : Bool) := by
    rintro ⟨other, rule⟩
    by_cases h : other = issue
    · subst h
      rw [Bool.eq_iff_iff]
      simp [← hbalance, ← FiniteDecimal.isZero_iff]
    · simp [h]
  rw [heldRules, List.forall₂_map_left_iff, List.filter_congr fun key _ => hfilter key]
  have hissue : ∀ key ∈ (Dict.firstKeys ((lines.flatMap locatedOf).map Prod.fst)).filter
      (fun key => key.1 = issue && !(scan.locationBalances.getD key 0).isZero), key.1 = issue := by
    intro key hkey
    have := (List.mem_filter.mp hkey).2
    simp only [Bool.and_eq_true, decide_eq_true_eq] at this
    exact this.1
  refine List.Forall₂.imp ?_ ((List.forall₂_and_left _ _).mpr ⟨hissue, hheld⟩)
  rintro ⟨other, rule⟩ holding ⟨rfl, hholding, habs⟩
  refine ⟨hholding, ?_⟩
  -- the magnitude of an exact balance is exact
  have hrepresents : ambient.Represents |(scan.locationBalances.getD (other, rule) 0).value| := by
    rw [hbalance]
    exact (hexact rule).represents.abs
  obtain ⟨r, hr, hvalue⟩ := FiniteDecimal.abs_exact_iff.mpr hrepresents
  rw [hr] at habs
  cases habs
  rw [hvalue, hbalance]

/-! ## Balance -/

/-- What a line adds to the net quantity of an issue. -/
def securityOf (line : LedgerLine) : List (String × FiniteDecimal) :=
  line.issue.toList.map fun issue => (issue, line.quantity)

/-- What a line adds to the net money of a currency. -/
def moneyOf (line : LedgerLine) : List (String × FiniteDecimal) :=
  line.currency.toList.map fun currency => (currency, line.money)

/-- The signed amounts of money of a currency. -/
def moneyAmountsOf (currency : String) (lines : List LedgerLine) : List ℚ :=
  (lines.filter fun line => line.currency = some currency).map fun line => line.money.value

/-- Amounts under a key that lines may leave out, against the lines that have it. -/
private theorem amountsOf_keyed (key : LedgerLine → Option String)
    (amount : LedgerLine → FiniteDecimal) (k : String) (lines : List LedgerLine) :
    amountsOf k (lines.flatMap fun line => (key line).toList.map fun name => (name, amount line)) =
      (lines.filter fun line => key line = some k).map fun line => (amount line).value := by
  induction lines with
  | nil => rfl
  | cons line rest ih =>
    rw [List.flatMap_cons, amountsOf_append, ih]
    rcases hkey : key line with _ | other
    · simp [hkey]
    · by_cases h : other = k
      · subst h
        simp [hkey]
      · simp [hkey, h, amountsOf_singleton_of_ne h]

theorem amountsOf_securityOf (issue : String) (lines : List LedgerLine) :
    amountsOf issue (lines.flatMap securityOf) = quantitiesOf issue lines :=
  amountsOf_keyed LedgerLine.issue LedgerLine.quantity issue lines

theorem amountsOf_moneyOf (currency : String) (lines : List LedgerLine) :
    amountsOf currency (lines.flatMap moneyOf) = moneyAmountsOf currency lines :=
  amountsOf_keyed LedgerLine.currency LedgerLine.money currency lines

theorem addAll_keyed (nets : Dict String FiniteDecimal) (key : Option String)
    (amount : FiniteDecimal) :
    nets.addAll ambient (key.toList.map fun name => (name, amount)) =
      addUnder nets key amount := by
  rcases key with _ | name
  · rfl
  · exact Dict.addAll_singleton _

/-- The net quantities and the net money of an entry are tallies of its lines. -/
theorem tally_of_netOfLines {lines : List LedgerLine}
    {securities money : Dict String FiniteDecimal}
    (h : netOfLines lines = .ok (securities, money)) :
    tally ambient (lines.flatMap securityOf) = .ok securities ∧
      tally ambient (lines.flatMap moneyOf) = .ok money := by
  induction lines using List.reverseRecOn generalizing securities money with
  | nil =>
    cases h
    exact ⟨rfl, rfl⟩
  | append_singleton lines line ih =>
    rw [netOfLines, Outcome.foldSteps_append, Outcome.bind_eq_ok] at h
    obtain ⟨⟨securities', money'⟩, hbefore, hlast⟩ := h
    rw [Outcome.foldSteps_cons, Outcome.bind_eq_ok] at hlast
    obtain ⟨after, hstep, hafter⟩ := hlast
    cases hafter
    simp only [Outcome.bind_eq_ok] at hstep
    obtain ⟨total, htotal, total', htotal', hset⟩ := hstep
    cases hset
    obtain ⟨hsecurities, hmoney⟩ := ih hbefore
    simp only [List.flatMap_append, tally, Dict.addAll_append, List.flatMap_cons,
      List.flatMap_nil, List.append_nil] at hsecurities hmoney ⊢
    rw [hsecurities, hmoney]
    exact ⟨(addAll_keyed _ _ _).trans htotal, (addAll_keyed _ _ _).trans htotal'⟩

/-- A dictionary with no unbalanced key holds zeros only. -/
theorem value_of_balanced {d : Dict String FiniteDecimal} (h : unbalancedKeys d = [])
    (key : String) : (d.getD key 0).value = 0 := by
  rw [Dict.getD]
  rcases hget : d.get? key with _ | total
  · exact FiniteDecimal.value_zero
  · rw [Option.getD_some, ← FiniteDecimal.isZero_iff]
    have hmem := Dict.get?_eq_some_iff.mp hget
    have hperm := List.perm_insertionSort (· ≤ ·)
      ((d.items.filter fun item => !item.2.isZero).map Prod.fst)
    rw [← unbalancedKeys, h, List.nil_perm, List.map_eq_nil_iff, List.filter_eq_nil_iff] at hperm
    simpa using hperm _ hmem

/-- The net quantities and the net money of an entry are all zero. -/
theorem JournalEntry.balanced (entry : JournalEntry) :
    ∃ securities money, netOfLines entry.lines = .ok (securities, money) ∧
      unbalancedKeys securities = [] ∧ unbalancedKeys money = [] := by
  have h := entry.balanced_and_attributable
  rw [balancedAndAttributable] at h
  by_cases hevent : entry.posting.sourceEventId = entry.sourceEventId
  · rcases hnet : netOfLines entry.lines with e | ⟨securities, money⟩
    · simp [hevent, hnet] at h
    · refine ⟨securities, money, rfl, ?_, ?_⟩
      · by_contra hne
        simp [hevent, hnet, hne] at h
      · by_contra hne
        simp [hevent, hnet, hne] at h
  · simp [hevent] at h

/-- The quantities of an issue in an entry add up to zero. -/
theorem JournalEntry.sum_quantities (entry : JournalEntry) {issue : String}
    (hexact : ExactSums ambient (quantitiesOf issue entry.lines)) :
    (quantitiesOf issue entry.lines).sum = 0 := by
  obtain ⟨securities, money, hnet, hbalanced, -⟩ := entry.balanced
  rw [← amountsOf_securityOf] at hexact ⊢
  rw [← value_tally (tally_of_netOfLines hnet).1 hexact]
  exact value_of_balanced hbalanced issue

/-- The money of a currency in an entry adds up to zero. -/
theorem JournalEntry.sum_money (entry : JournalEntry) {currency : String}
    (hexact : ExactSums ambient (moneyAmountsOf currency entry.lines)) :
    (moneyAmountsOf currency entry.lines).sum = 0 := by
  obtain ⟨securities, money, hnet, -, hbalanced⟩ := entry.balanced
  rw [← amountsOf_moneyOf] at hexact ⊢
  rw [← value_tally (tally_of_netOfLines hnet).2 hexact]
  exact value_of_balanced hbalanced currency

/-- Every line of the journal. -/
def EquitiesBooks.lines (books : EquitiesBooks) : List LedgerLine :=
  books.entries.flatMap JournalEntry.lines

theorem quantitiesOf_append (issue : String) (xs ys : List LedgerLine) :
    quantitiesOf issue (xs ++ ys) = quantitiesOf issue xs ++ quantitiesOf issue ys := by
  simp [quantitiesOf]

/-- What adds up to zero in every entry adds up to zero in the journal. -/
private theorem sum_of_entries (amounts : List LedgerLine → List ℚ)
    (happend : ∀ xs ys, amounts (xs ++ ys) = amounts xs ++ amounts ys) (hnil : amounts [] = [])
    (hentry : ∀ entry : JournalEntry, ExactSums ambient (amounts entry.lines) →
      (amounts entry.lines).sum = 0) :
    ∀ entries : List JournalEntry,
      ExactSums ambient (amounts (entries.flatMap JournalEntry.lines)) →
        (amounts (entries.flatMap JournalEntry.lines)).sum = 0 := by
  intro entries
  induction entries with
  | nil =>
    intro _
    rw [List.flatMap_nil, hnil, List.sum_nil]
  | cons entry rest ih =>
    intro hexact
    rw [List.flatMap_cons, happend] at hexact ⊢
    rw [List.sum_append, hentry entry hexact.append_left, ih hexact.append_right, add_zero]

/-- The quantities of an issue in the journal add up to zero. -/
theorem EquitiesBooks.sum_quantities (books : EquitiesBooks) {issue : String}
    (hexact : ExactSums ambient (quantitiesOf issue books.lines)) :
    (quantitiesOf issue books.lines).sum = 0 :=
  sum_of_entries (quantitiesOf issue) (quantitiesOf_append issue) rfl
    (fun entry => entry.sum_quantities) books.entries hexact

/-- The money of a currency in the journal adds up to zero. -/
theorem EquitiesBooks.sum_money (books : EquitiesBooks) {currency : String}
    (hexact : ExactSums ambient (moneyAmountsOf currency books.lines)) :
    (moneyAmountsOf currency books.lines).sum = 0 :=
  sum_of_entries (moneyAmountsOf currency) (fun xs ys => by simp [moneyAmountsOf]) rfl
    (fun entry => entry.sum_money) books.entries hexact

/-- What the books own of an issue is at some location. -/
theorem ownedQuantity_eq (books : EquitiesBooks) {issue : String}
    (hexact : ExactSums ambient (quantitiesOf issue books.lines)) :
    ownedQuantity books.lines issue = -∑ kind, locatedQuantity books.lines issue kind := by
  have h := books.sum_quantities hexact
  rw [sum_quantitiesOf] at h
  linarith

end Atreides
