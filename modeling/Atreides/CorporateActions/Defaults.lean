import Atreides.CorporateActions.ElectionRuns

/-!
# Defaults

What assigning the default option gives each account, and what it depends on. A submission that
comes after the firm's deadline never changes it. The quantities of an account are added, and
the rest of its balance is computed, in the ambient decimal arithmetic: where that arithmetic
rounds, the elected and the defaulted quantity need not make up the balance, and the order in
which instructions were accepted may show.

## Main definitions

* `AssignsSoundly` — defaults settle every balance, in any order, and stay settled
* `ElectsWithoutRounding` — what the arithmetic has to hold

## Main results

* `assignDefaults_late` — late submissions leave the assignment
* `assignsSoundly_iff` — defaults are sound exactly where nothing rounds
-/

namespace Atreides

namespace CorporateActions

open DecimalContext (ambient)

/-! ## What an assignment reads -/

/-- The quantities that an account elected, in the order they were accepted. -/
def electedAmounts (book : ElectionBook) (accountId : String) : List FiniteDecimal :=
  (book.acceptedInstructions.filter fun i => i.accountId = accountId).map fun i =>
    i.quantity.amount

/-- The accounts that hold or elected something, in order. -/
def accountIds (book : ElectionBook) (holdings : List HolderPosition) : List String :=
  sortedSet (holdings.map (·.accountId) ++ book.acceptedInstructions.map (·.accountId))

/-- The assignment for an event, where the accounts come to some answer. -/
def assignFrom (event : CorporateActionEvent) (policy : ElectionPolicy) (asOf : Date)
    (distinct : Bool) (accounts : Outcome (List AccountDefault)) : Outcome DefaultAssignment := do
  let deadline ← firmDeadline event policy
  let refused : DefaultRefusal → DefaultAssignment := fun reason =>
    { eventId := event.eventId, asOf, firmDeadline := deadline, defaultOptionId := none
      refusal := some reason }
  match deadline with
  | none => .ok (refused .notElective)
  | some last =>
    if asOf ≤ last then .ok (refused .deadlineNotPassed)
    else if event.defaultOptionId = none then .ok (refused .defaultNotStated)
    else do
      Outcome.refuseIf (!distinct) (.valueError "an account appears more than once")
      let accounts ← accounts
      .ok { eventId := event.eventId, asOf, firmDeadline := deadline
            defaultOptionId := event.defaultOptionId, accounts }

/-- The firm's deadline has passed, the event states a default, and no account holds twice. -/
structure AssignsAccounts (book : ElectionBook) (holdings : List HolderPosition) (asOf : Date) :
    Prop where
  passed : ∃ last, firmDeadline book.event book.policy = .ok (some last) ∧ last < asOf
  stated : book.event.defaultOptionId ≠ none
  distinct : (holdings.map (·.accountId)).Nodup

section Reading

variable {book book' : ElectionBook} {holdings order : List HolderPosition} {asOf : Date}

theorem assignDefaults_eq (book : ElectionBook) (holdings : List HolderPosition) (asOf : Date) :
    assignDefaults book holdings asOf = assignFrom book.event book.policy asOf
      (decide (holdings.map (·.accountId)).Nodup)
      (Outcome.collect (accountDefault book holdings) (accountIds book holdings)) := by
  rw [assignDefaults, assignFrom]
  simp only [Bool.not_eq_true', decide_eq_false_iff_not]
  rfl

/-- Where accounts are assigned, the answer is that of the accounts. -/
theorem assignDefaults_of_assigns (h : AssignsAccounts book holdings asOf) :
    ∃ last, firmDeadline book.event book.policy = .ok (some last) ∧
      assignDefaults book holdings asOf = (fun accounts =>
        { eventId := book.event.eventId, asOf, firmDeadline := some last
          defaultOptionId := book.event.defaultOptionId, accounts }) <$>
        Outcome.collect (accountDefault book holdings) (accountIds book holdings) := by
  obtain ⟨⟨last, hlast, hpassed⟩, hstated, hdistinct⟩ := h
  refine ⟨last, hlast, ?_⟩
  rw [assignDefaults_eq, assignFrom, hlast]
  simp only [Outcome.ok_bind, if_neg (not_le.mpr (Date.lt_iff.mp hpassed)), Date.le_iff,
    if_neg hstated, hdistinct, decide_true, Bool.not_true, Outcome.refuseIf,
    Bool.false_eq_true, if_false]
  cases Outcome.collect (accountDefault book holdings) (accountIds book holdings) <;> rfl

/-- Where no account is assigned, the accounts do not matter. -/
theorem assignFrom_of_not {distinct : Bool} {accounts accounts' : Outcome (List AccountDefault)}
    (h : ¬ ((∃ last, firmDeadline book.event book.policy = .ok (some last) ∧ last < asOf) ∧
      book.event.defaultOptionId ≠ none ∧ distinct = true)) :
    assignFrom book.event book.policy asOf distinct accounts =
      assignFrom book.event book.policy asOf distinct accounts' := by
  rw [assignFrom, assignFrom]
  cases hdeadline : firmDeadline book.event book.policy with
  | error e => rfl
  | ok deadline =>
    cases deadline with
    | none => rfl
    | some last =>
      simp only [Outcome.ok_bind]
      split_ifs with hpassed hstated
      · rfl
      · rfl
      · have hlast : last < asOf := by
          rw [Date.lt_iff]
          rw [Date.le_iff] at hpassed
          omega
        have hrepeated : distinct = false := by
          rw [Bool.eq_false_iff]
          exact fun hdistinct => h ⟨⟨last, hdeadline, hlast⟩, hstated, hdistinct⟩
        rw [hrepeated]
        rfl

/-- An account's default depends on what the account elected and on its balance. -/
theorem accountDefault_congr {accountId : String}
    (helected : book'.electedQuantity accountId = book.electedQuantity accountId)
    (hbalance : eligibleOf order accountId = eligibleOf holdings accountId) :
    accountDefault book' order accountId = accountDefault book holdings accountId := by
  rw [accountDefault, accountDefault, helected, hbalance]

/-- The assignment depends on the event, the policy and the accepted instructions. -/
theorem assignDefaults_congr (hevent : book'.event = book.event) (hpolicy : book'.policy = book.policy)
    (haccepted : book'.acceptedInstructions = book.acceptedInstructions) :
    assignDefaults book' holdings asOf = assignDefaults book holdings asOf := by
  have helected : ∀ accountId, book'.electedQuantity accountId = book.electedQuantity accountId := by
    intro accountId
    rw [ElectionBook.electedQuantity, ElectionBook.electedQuantity, haccepted]
  rw [assignDefaults_eq, assignDefaults_eq, hevent, hpolicy, accountIds, accountIds, haccepted]
  congr 1
  exact Outcome.collect_congr fun accountId _ => accountDefault_congr (helected accountId) rfl

end Reading

/-! ## Late submissions -/

section Late

variable {book book' : ElectionBook} {submission : Submission} {entry : ElectionEntry}

/-- A submission after the firm's deadline is no accepted instruction. -/
theorem acceptedInstructions_of_late {last : Date}
    (hdeadline : firmDeadline book.event book.policy = .ok (some last))
    (hlate : last < submission.receivedDate) (h : book.submit submission = .ok (book', entry)) :
    book'.acceptedInstructions = book.acceptedInstructions := by
  obtain ⟨hentry, hbook⟩ := ElectionBook.submit_eq_ok.mp h
  obtain ⟨haccepted, -, hrefusal⟩ | ⟨hne, -⟩ := ElectionBook.entryOf_cases hentry
  · cases submission with
    | cover cover =>
      -- a cover may come later, and is no instruction
      exact ElectionBook.acceptedInstructions_of_cover (ElectionBook.accepted_of_accepted h haccepted)
    | instruction instruction =>
      exfalso
      rw [ElectionBook.refusal] at hrefusal
      split_ifs at hrefusal
      · cases hrefusal
      · cases hrefusal
      · have hany : (some last).any (· < instruction.receivedDate) = true := decide_eq_true hlate
        simp only [ElectionBook.instructionRefusal, hdeadline, Outcome.ok_bind, hany, if_true]
          at hrefusal
        cases hrefusal
  · rw [ElectionBook.acceptedInstructions, ElectionBook.acceptedInstructions,
      ElectionBook.accepted_of_ne h hne]

/-- A run of submissions after the firm's deadline leaves the accepted instructions. -/
theorem stepAll_late {last : Date} (hdeadline : firmDeadline book.event book.policy = .ok (some last))
    (submissions : List Submission) (hlate : ∀ s ∈ submissions, last < s.receivedDate) :
    let after := stepAll ElectionBook.submit book submissions
    after.event = book.event ∧ after.policy = book.policy ∧
      after.acceptedInstructions = book.acceptedInstructions := by
  induction submissions generalizing book with
  | nil => exact ⟨rfl, rfl, rfl⟩
  | cons submission rest ih =>
    rw [stepAll_cons]
    cases hsubmit : book.submit submission with
    | error e =>
      have hafter : after ElectionBook.submit book submission = book := by rw [after, hsubmit]
      rw [hafter]
      exact ih hdeadline fun s hs => hlate s (List.mem_cons_of_mem _ hs)
    | ok answered =>
      obtain ⟨next, entry⟩ := answered
      have hafter : after ElectionBook.submit book submission = next := by rw [after, hsubmit]
      have haccepted := acceptedInstructions_of_late hdeadline
        (hlate submission List.mem_cons_self) hsubmit
      obtain ⟨-, hnext⟩ := ElectionBook.submit_eq_ok.mp hsubmit
      have hevent : next.event = book.event := by rw [hnext]
      have hpolicy : next.policy = book.policy := by rw [hnext]
      have hsame : firmDeadline next.event next.policy = .ok (some last) := by
        rw [hevent, hpolicy]
        exact hdeadline
      rw [hafter]
      obtain ⟨hevent', hpolicy', haccepted'⟩ :=
        ih hsame fun s hs => hlate s (List.mem_cons_of_mem _ hs)
      exact ⟨hevent'.trans hevent, hpolicy'.trans hpolicy, haccepted'.trans haccepted⟩

end Late

/-! ## Sound assignments -/

/-- A default is refused, or it and what was elected make up the balance. -/
def SettlesBalance (balance : FiniteDecimal) (account : AccountDefault) : Prop :=
  (account.refusal ≠ none ∧ account.defaultQuantity = none) ∨
    (account.refusal = none ∧ ∃ rest, account.defaultQuantity = some rest ∧
      account.electedQuantity.value + rest.value = balance.value)

/-- Two defaults that differ in nothing but how their quantities are written. -/
structure SameDefault (a b : AccountDefault) : Prop where
  account : a.accountId = b.accountId
  balance : a.eligibleBalance = b.eligibleBalance
  elected : a.electedQuantity.value = b.electedQuantity.value
  quantity : a.defaultQuantity.map FiniteDecimal.value = b.defaultQuantity.map FiniteDecimal.value
  refusal : a.refusal = b.refusal

structure SameAssignment (a b : DefaultAssignment) : Prop where
  event : a.eventId = b.eventId
  asOf : a.asOf = b.asOf
  deadline : a.firmDeadline = b.firmDeadline
  option : a.defaultOptionId = b.defaultOptionId
  refusal : a.refusal = b.refusal
  accounts : List.Forall₂ SameDefault a.accounts b.accounts

/-- The same assignment, or the same error. -/
def SameAnswer (x y : Outcome DefaultAssignment) : Prop :=
  (∃ a b, x = .ok a ∧ y = .ok b ∧ SameAssignment a b) ∨ ∃ e, x = .error e ∧ y = .error e

/-- Defaults settle every balance, whatever the order of the holdings and of what was accepted,
and late submissions do not unsettle them. -/
structure AssignsSoundly (book : ElectionBook) (holdings : List HolderPosition) (asOf : Date) :
    Prop where
  settles : AssignsAccounts book holdings asOf →
    ∃ assignment, assignDefaults book holdings asOf = .ok assignment ∧ assignment.refusal = none ∧
      ∀ holding ∈ holdings, ∃ account ∈ assignment.accounts,
        account.accountId = holding.accountId ∧
          (∀ other ∈ assignment.accounts, other.accountId = holding.accountId → other = account) ∧
          book.electedQuantity holding.accountId = .ok account.electedQuantity ∧
          SettlesBalance holding.position.eligibleBalance account
  orderFree : ∀ book' order, book'.event = book.event → book'.policy = book.policy →
    book'.acceptedInstructions.Perm book.acceptedInstructions → order.Perm holdings →
      SameAnswer (assignDefaults book holdings asOf) (assignDefaults book' order asOf)
  stable : ∀ last, firmDeadline book.event book.policy = .ok (some last) →
    ∀ submissions, (∀ s ∈ submissions, last < s.receivedDate) →
      assignDefaults (stepAll ElectionBook.submit book submissions) holdings asOf =
        assignDefaults book holdings asOf

/-- The quantities of every account add up to one sum in every order, and the arithmetic holds
the rest of every balance. -/
def ElectsWithoutRounding (book : ElectionBook) (holdings : List HolderPosition) : Prop :=
  ∀ accountId ∈ accountIds book holdings,
    (∀ amounts, amounts.Perm (electedAmounts book accountId) →
      FiniteDecimal.value <$> FiniteDecimal.sum ambient 0 amounts =
        FiniteDecimal.value <$> FiniteDecimal.sum ambient 0 (electedAmounts book accountId)) ∧
    ∃ elected, FiniteDecimal.sum ambient 0 (electedAmounts book accountId) = .ok elected ∧
      ∀ balance, eligibleOf holdings accountId = some balance → balance.lt elected = false →
        ambient.Represents (balance.value - elected.value)

section Sound

variable {book book' : ElectionBook} {holdings order : List HolderPosition} {asOf : Date}
  {accountId : String}

theorem eligibleOf_eq_some_iff (hdistinct : (holdings.map (·.accountId)).Nodup)
    {balance : FiniteDecimal} : eligibleOf holdings accountId = some balance ↔
      ∃ holding ∈ holdings, holding.accountId = accountId ∧
        holding.position.eligibleBalance = balance := by
  rw [eligibleOf, Option.map_eq_some_iff]
  constructor
  · intro h
    obtain ⟨holding, hfind, hbalance⟩ := h
    exact ⟨holding, List.mem_of_find?_eq_some hfind, by simpa using List.find?_some hfind, hbalance⟩
  · intro h
    obtain ⟨holding, hholding, hid, hbalance⟩ := h
    cases hfind : holdings.find? fun h => h.accountId = accountId with
    | none =>
      rw [List.find?_eq_none] at hfind
      exact absurd hid (by simpa using hfind holding hholding)
    | some found =>
      -- two holdings of one account are one holding
      have hsame : found = holding := by
        apply List.inj_on_of_nodup_map hdistinct (List.mem_of_find?_eq_some hfind) hholding
        have hfound : found.accountId = accountId := by simpa using List.find?_some hfind
        rw [hfound, hid]
      exact ⟨found, rfl, by rw [hsame, hbalance]⟩

theorem eligibleOf_reordered (hdistinct : (holdings.map (·.accountId)).Nodup)
    (hperm : order.Perm holdings) : eligibleOf order accountId = eligibleOf holdings accountId := by
  have hdistinct' : (order.map (·.accountId)).Nodup := (hperm.map _).nodup_iff.mpr hdistinct
  ext balance
  simp only [eligibleOf_eq_some_iff hdistinct, eligibleOf_eq_some_iff hdistinct', hperm.mem_iff]

theorem mem_accountIds_of_mem {holding : HolderPosition} (h : holding ∈ holdings) :
    holding.accountId ∈ accountIds book holdings := by
  rw [accountIds, mem_sortedSet, List.mem_append]
  exact Or.inl (List.mem_map_of_mem h)

/-- What is returned for one account. -/
theorem accountDefault_eq_ok {result : AccountDefault}
    (h : accountDefault book holdings accountId = .ok result) :
    result.accountId = accountId ∧ book.electedQuantity accountId = .ok result.electedQuantity ∧
      ∀ balance, eligibleOf holdings accountId = some balance →
        (balance.lt result.electedQuantity = true ∧ result.refusal = some .overInstructed ∧
          result.defaultQuantity = none) ∨
        (balance.lt result.electedQuantity = false ∧ result.refusal = none ∧
          ∃ rest, balance.sub ambient result.electedQuantity = .ok rest ∧
            result.defaultQuantity = some rest) := by
  rw [accountDefault] at h
  obtain ⟨elected, helected, h⟩ := Outcome.bind_eq_ok.mp h
  split at h
  next hnone =>
    cases h
    exact ⟨rfl, helected, by simp [hnone]⟩
  next balance hbalance =>
    split_ifs at h with hless
    · cases h
      refine ⟨rfl, helected, fun balance' hbalance' => Or.inl ?_⟩
      cases hbalance.symm.trans hbalance'
      exact ⟨hless, rfl, rfl⟩
    · obtain ⟨rest, hrest, hresult⟩ := Outcome.bind_eq_ok.mp h
      cases hresult
      refine ⟨rfl, helected, fun balance' hbalance' => Or.inr ?_⟩
      cases hbalance.symm.trans hbalance'
      exact ⟨Bool.eq_false_iff.mpr hless, rfl, rest, hrest, rfl⟩

/-- An account is answered where its quantities add up and the arithmetic holds the rest. -/
theorem accountDefault_returns {elected : FiniteDecimal}
    (helected : book.electedQuantity accountId = .ok elected)
    (hfits : ∀ balance, eligibleOf holdings accountId = some balance → balance.lt elected = false →
      ambient.Represents (balance.value - elected.value)) :
    ∃ result, accountDefault book holdings accountId = .ok result ∧
      ∀ balance, eligibleOf holdings accountId = some balance → SettlesBalance balance result := by
  rw [accountDefault, helected, Outcome.ok_bind]
  cases hbalance : eligibleOf holdings accountId with
  | none => exact ⟨_, rfl, by simp⟩
  | some balance =>
    dsimp only
    split_ifs with hless
    · refine ⟨_, rfl, fun balance' h => Or.inl ?_⟩
      exact ⟨by simp, rfl⟩
    · obtain ⟨rest, hrest, hvalue⟩ :=
        FiniteDecimal.sub_exact_iff.mpr (hfits balance hbalance (Bool.eq_false_iff.mpr hless))
      rw [hrest, Outcome.ok_bind]
      refine ⟨_, rfl, fun balance' h => Or.inr ⟨rfl, rest, rfl, ?_⟩⟩
      cases h
      dsimp only
      rw [hvalue]
      ring

/-- Accounts that elected one number in two orders are answered alike. -/
theorem accountDefault_same {elected elected' : FiniteDecimal} {result : AccountDefault}
    (helected : book.electedQuantity accountId = .ok elected)
    (helected' : book'.electedQuantity accountId = .ok elected')
    (hvalue : elected.value = elected'.value)
    (hbalance : eligibleOf order accountId = eligibleOf holdings accountId)
    (h : accountDefault book holdings accountId = .ok result) :
    ∃ result', accountDefault book' order accountId = .ok result' ∧ SameDefault result result' := by
  rw [accountDefault, helected, Outcome.ok_bind] at h
  rw [accountDefault, helected', Outcome.ok_bind, hbalance]
  cases hfound : eligibleOf holdings accountId with
  | none =>
    rw [hfound] at h
    cases h
    exact ⟨_, rfl, rfl, rfl, hvalue, rfl, rfl⟩
  | some balance =>
    rw [hfound] at h
    dsimp only at h ⊢
    have hless : balance.lt elected' = balance.lt elected := by
      rw [Bool.eq_iff_iff, FiniteDecimal.lt_iff, FiniteDecimal.lt_iff, hvalue]
    rw [hless]
    split_ifs at h ⊢
    · cases h
      exact ⟨_, rfl, rfl, rfl, hvalue, rfl, rfl⟩
    · obtain ⟨rest, hrest, h⟩ := Outcome.bind_eq_ok.mp h
      cases h
      have hsame : FiniteDecimal.value <$> balance.sub ambient elected' =
          FiniteDecimal.value <$> balance.sub ambient elected := by
        apply FiniteDecimal.add_value_congr rfl
        rw [FiniteDecimal.value_copyNegate, FiniteDecimal.value_copyNegate, hvalue]
      rw [hrest] at hsame
      obtain ⟨rest', hrest', hsame⟩ := Outcome.map_eq_ok.mp hsame
      rw [hrest', Outcome.ok_bind]
      exact ⟨_, rfl, rfl, rfl, hvalue, congrArg some hsame.symm, rfl⟩

/-- Exact arithmetic settles every balance. -/
theorem settles_of_exact (hexact : ElectsWithoutRounding book holdings)
    (hassigns : AssignsAccounts book holdings asOf) :
    ∃ assignment, assignDefaults book holdings asOf = .ok assignment ∧ assignment.refusal = none ∧
      ∀ holding ∈ holdings, ∃ account ∈ assignment.accounts,
        account.accountId = holding.accountId ∧
          (∀ other ∈ assignment.accounts, other.accountId = holding.accountId → other = account) ∧
          book.electedQuantity holding.accountId = .ok account.electedQuantity ∧
          SettlesBalance holding.position.eligibleBalance account := by
  obtain ⟨last, -, hanswer⟩ := assignDefaults_of_assigns hassigns
  have hcalls : ∀ accountId ∈ accountIds book holdings, ∃ result,
      accountDefault book holdings accountId = .ok result ∧
        ∀ balance, eligibleOf holdings accountId = some balance → SettlesBalance balance result := by
    intro accountId hid
    obtain ⟨-, elected, helected, hfits⟩ := hexact accountId hid
    exact accountDefault_returns helected hfits
  obtain ⟨accounts, hcollect, -⟩ := (Outcome.collect_forall_iff (P := fun _ => True)).mpr
    fun accountId hid => (hcalls accountId hid).imp fun _ h => ⟨h.1, trivial⟩
  rw [hcollect] at hanswer
  refine ⟨_, hanswer, rfl, fun holding hholding => ?_⟩
  have hmem : holding.accountId ∈ accountIds book holdings := mem_accountIds_of_mem hholding
  obtain ⟨result, hresult, hsettles⟩ := hcalls _ hmem
  obtain ⟨account, haccount, hcall⟩ := Outcome.mem_of_collect hcollect hmem
  cases hresult.symm.trans hcall
  obtain ⟨hid, helected, -⟩ := accountDefault_eq_ok hresult
  refine ⟨result, haccount, hid, fun other hother hsame => ?_, helected,
    hsettles _ ((eligibleOf_eq_some_iff hassigns.distinct).mpr ⟨holding, hholding, rfl, rfl⟩)⟩
  obtain ⟨otherId, -, hotherCall⟩ := Outcome.exists_of_mem_collect hcollect hother
  obtain ⟨hotherId, -, -⟩ := accountDefault_eq_ok hotherCall
  rw [← hotherId, hsame, hresult] at hotherCall
  exact (Except.ok.inj hotherCall).symm

theorem accountIds_reordered (haccepted : book'.acceptedInstructions.Perm book.acceptedInstructions)
    (hperm : order.Perm holdings) : accountIds book' order = accountIds book holdings := by
  refine sortedSet_congr fun accountId => ?_
  rw [List.mem_append, List.mem_append, (hperm.map _).mem_iff, (haccepted.map _).mem_iff]

/-- Exact arithmetic forgets the order. -/
theorem orderFree_of_exact
    (hexact : AssignsAccounts book holdings asOf → ElectsWithoutRounding book holdings)
    (hevent : book'.event = book.event) (hpolicy : book'.policy = book.policy)
    (haccepted : book'.acceptedInstructions.Perm book.acceptedInstructions)
    (hperm : order.Perm holdings) :
    SameAnswer (assignDefaults book holdings asOf) (assignDefaults book' order asOf) := by
  have hdistinct : (order.map (·.accountId)).Nodup ↔ (holdings.map (·.accountId)).Nodup :=
    (hperm.map _).nodup_iff
  by_cases hassigns : AssignsAccounts book holdings asOf
  · have hassigns' : AssignsAccounts book' order asOf := by
      refine ⟨?_, ?_, hdistinct.mpr hassigns.distinct⟩
      · rw [hevent, hpolicy]
        exact hassigns.passed
      · rw [hevent]
        exact hassigns.stated
    obtain ⟨last, hlast, hanswer⟩ := assignDefaults_of_assigns hassigns
    obtain ⟨last', hlast', hanswer'⟩ := assignDefaults_of_assigns hassigns'
    rw [hevent, hpolicy, hlast] at hlast'
    cases hlast'
    obtain ⟨assignment, hassignment, -, -⟩ := settles_of_exact (hexact hassigns) hassigns
    rw [hanswer] at hassignment
    obtain ⟨accounts, hcollect, rfl⟩ := Outcome.map_eq_ok.mp hassignment
    obtain ⟨accounts', hcollect', hsame⟩ := Outcome.collect_related
      (g := accountDefault book' order) (R := SameDefault) (fun accountId hid result hresult => by
        obtain ⟨hsums, elected, helected, -⟩ := hexact hassigns accountId hid
        have hamounts : (electedAmounts book' accountId).Perm (electedAmounts book accountId) :=
          (haccepted.filter _).map _
        have hvalue := hsums _ hamounts
        rw [helected] at hvalue
        obtain ⟨elected', helected', hvalue⟩ := Outcome.map_eq_ok.mp hvalue
        exact accountDefault_same helected helected' hvalue.symm
          (eligibleOf_reordered hassigns.distinct hperm) hresult) hcollect
    rw [hanswer, hanswer', accountIds_reordered haccepted hperm, hcollect, hcollect', hevent]
    exact Or.inl ⟨_, _, rfl, rfl, rfl, rfl, rfl, rfl, rfl, hsame⟩
  · have hequal : assignDefaults book' order asOf = assignDefaults book holdings asOf := by
      rw [assignDefaults_eq, assignDefaults_eq, hevent, hpolicy, decide_eq_decide.mpr hdistinct]
      apply assignFrom_of_not
      intro h
      obtain ⟨hpassed, hstated, hnodup⟩ := h
      exact hassigns ⟨hpassed, hstated, of_decide_eq_true hnodup⟩
    rw [hequal]
    cases hanswer : assignDefaults book holdings asOf with
    | error e => exact Or.inr ⟨e, rfl, rfl⟩
    | ok a =>
      refine Or.inl ⟨a, a, rfl, rfl, rfl, rfl, rfl, rfl, rfl, ?_⟩
      exact List.forall₂_same.mpr fun account _ => ⟨rfl, rfl, rfl, rfl, rfl⟩

/-- A book in which instructions were accepted. -/
def acceptedBook (event : CorporateActionEvent) (policy : ElectionPolicy)
    (instructions : List ElectionInstruction) : ElectionBook where
  event
  policy
  journal := instructions.map fun i => ElectionBook.decided { event, policy } (.instruction i) none

theorem acceptedInstructions_acceptedBook (event : CorporateActionEvent) (policy : ElectionPolicy)
    (instructions : List ElectionInstruction) :
    (acceptedBook event policy instructions).acceptedInstructions = instructions := by
  rw [ElectionBook.acceptedInstructions, ElectionBook.accepted]
  induction instructions with
  | nil => rfl
  | cons i rest ih =>
    simp only [acceptedBook, List.map_cons] at ih ⊢
    simp only [ElectionBook.decided, if_true, decide_true, List.filter_cons_of_pos, List.map_cons,
      List.filterMap_cons] at ih ⊢
    rw [ih]

/-- Other instructions in another order, with the quantities of one account in any order. -/
theorem exists_reordered {amounts : List FiniteDecimal}
    (hamounts : amounts.Perm (electedAmounts book accountId)) : ∃ book' : ElectionBook,
      book'.event = book.event ∧ book'.policy = book.policy ∧
        book'.acceptedInstructions.Perm book.acceptedInstructions ∧
        electedAmounts book' accountId = amounts := by
  let own : ElectionInstruction → Bool := fun i => i.accountId = accountId
  have hrelated : List.Forall₂ (fun amount (i : ElectionInstruction) => amount = i.quantity.amount)
      (electedAmounts book accountId) (book.acceptedInstructions.filter own) := by
    rw [electedAmounts, List.forall₂_map_left_iff, List.forall₂_same]
    exact fun _ _ => rfl
  obtain ⟨instructions, hforall, hperm⟩ := List.perm_comp_forall₂ hamounts hrelated
  have hown : ∀ i ∈ instructions, own i = true := fun i hi =>
    (List.mem_filter.mp (hperm.subset hi)).2
  have hequal : instructions.map (fun i => i.quantity.amount) = amounts := by
    clear hperm hown hrelated hamounts
    induction hforall with
    | nil => rfl
    | cons hamount _ ih => rw [List.map_cons, ← hamount, ih]
  refine ⟨acceptedBook book.event book.policy
    (instructions ++ book.acceptedInstructions.filter fun i => !own i), rfl, rfl, ?_, ?_⟩
  · rw [acceptedInstructions_acceptedBook]
    exact (hperm.append_right _).trans (List.filter_append_perm own _)
  · rw [electedAmounts, acceptedInstructions_acceptedBook, List.filter_append,
      List.filter_eq_self.mpr hown, List.filter_filter]
    have hnone : book.acceptedInstructions.filter (fun i => own i && !own i) = [] := by
      simp
    rw [hnone, List.append_nil]
    exact hequal

/-- Where defaults are sound, nothing is rounded. -/
theorem exact_of_assignsSoundly (h : AssignsSoundly book holdings asOf)
    (hassigns : AssignsAccounts book holdings asOf) : ElectsWithoutRounding book holdings := by
  obtain ⟨assignment, hassignment, -, hsettled⟩ := h.settles hassigns
  obtain ⟨last, -, hanswer⟩ := assignDefaults_of_assigns hassigns
  have hcollected := hanswer.symm.trans hassignment
  obtain ⟨accounts, hcollect, rfl⟩ := Outcome.map_eq_ok.mp hcollected
  intro accountId hid
  obtain ⟨account, haccount, hcall⟩ := Outcome.mem_of_collect hcollect hid
  obtain ⟨hsameId, helected, hbalances⟩ := accountDefault_eq_ok hcall
  refine ⟨fun amounts hamounts => ?_, account.electedQuantity, helected,
    fun balance hbalance hless => ?_⟩
  · -- a book that accepted the account's instructions in this order
    obtain ⟨book', hevent, hpolicy, haccepted, rfl⟩ := exists_reordered hamounts
    obtain ⟨a, b, ha, hb, hsame⟩ | ⟨e, herror, -⟩ :=
      h.orderFree book' holdings hevent hpolicy haccepted (List.Perm.refl _)
    · cases hassignment.symm.trans ha
      have hassigns' : AssignsAccounts book' holdings asOf := by
        refine ⟨?_, ?_, hassigns.distinct⟩
        · rw [hevent, hpolicy]
          exact hassigns.passed
        · rw [hevent]
          exact hassigns.stated
      obtain ⟨last', -, hanswer'⟩ := assignDefaults_of_assigns hassigns'
      obtain ⟨accounts', hcollect', rfl⟩ := Outcome.map_eq_ok.mp (hanswer'.symm.trans hb)
      have hid' : accountId ∈ accountIds book' holdings := by
        rw [accountIds_reordered haccepted (List.Perm.refl _)]
        exact hid
      obtain ⟨account', haccount', hcall'⟩ := Outcome.mem_of_collect hcollect' hid'
      obtain ⟨hsameId', helected', -⟩ := accountDefault_eq_ok hcall'
      obtain ⟨matched, hmatched, hpair⟩ := hsame.accounts.exists_of_mem_left haccount
      -- the two lists hold the account once
      obtain ⟨matchedId, -, hmatchedCall⟩ := Outcome.exists_of_mem_collect hcollect' hmatched
      have hmatchedId := (accountDefault_eq_ok hmatchedCall).1
      rw [← hmatchedId, ← hpair.account, hsameId, hcall'] at hmatchedCall
      cases Except.ok.inj hmatchedCall
      change FiniteDecimal.value <$> book'.electedQuantity accountId =
        FiniteDecimal.value <$> book.electedQuantity accountId
      rw [helected, helected']
      exact congrArg Except.ok hpair.elected.symm
    · rw [hassignment] at herror
      cases herror
  · obtain ⟨holding, hholding, hholdingId, hholdingBalance⟩ :=
      (eligibleOf_eq_some_iff hassigns.distinct).mp hbalance
    obtain ⟨own, _, _, hunique, _, hsettles⟩ := hsettled holding hholding
    rw [hholdingId] at hunique
    have hown := hunique account haccount hsameId
    rw [← hown, hholdingBalance] at hsettles
    obtain ⟨hover, -⟩ | ⟨-, hrefusal, rest, hrest, hquantity⟩ := hbalances balance hbalance
    · rw [hless] at hover
      cases hover
    · obtain ⟨hrefused, -⟩ | ⟨-, rest', hrest', hsum⟩ := hsettles
      · exact absurd hrefusal hrefused
      · rw [hquantity] at hrest'
        cases hrest'
        have hvalue : balance.value - account.electedQuantity.value = rest.value := by linarith
        rw [hvalue]
        exact FiniteDecimal.represents_of_sub hrest

end Sound

/-- Defaults are sound exactly where, once accounts are assigned, the quantities of each account
add up alike in every order and the arithmetic holds what is left of each balance. -/
theorem assignsSoundly_iff (book : ElectionBook) (holdings : List HolderPosition) (asOf : Date) :
    AssignsSoundly book holdings asOf ↔
      (AssignsAccounts book holdings asOf → ElectsWithoutRounding book holdings) := by
  constructor
  · exact exact_of_assignsSoundly
  · intro hexact
    refine ⟨fun hassigns => settles_of_exact (hexact hassigns) hassigns, ?_, ?_⟩
    · intro book' order hevent hpolicy haccepted hperm
      exact orderFree_of_exact hexact hevent hpolicy haccepted hperm
    · intro last hlast submissions hlate
      obtain ⟨hevent, hpolicy, haccepted⟩ := stepAll_late hlast submissions hlate
      exact assignDefaults_congr hevent hpolicy haccepted

/-- The tender offer, with a default. -/
def augustOffer : CorporateActionEvent := { augustTender with defaultOptionId := some "801" }

/-- A holding of more shares than the arithmetic has digits for. -/
def augustLongHolding : HolderPosition where
  accountId := "AUG-LONG"
  position :=
    { securityId := "US0000000024", eligibleBalance := ⟨false, 10 ^ 28 + 1, 0⟩
      settlementBalance := ⟨false, 10 ^ 28 + 1, 0⟩ }

/-- A holder who elected nothing is defaulted on one share less than the balance. -/
theorem not_assignsSoundly : ¬ AssignsSoundly { event := augustOffer, policy := augustPolicy }
    [augustLongHolding] (Date.of 2026 8 25) := by
  intro h
  have hassigns : AssignsAccounts { event := augustOffer, policy := augustPolicy }
      [augustLongHolding] (Date.of 2026 8 25) :=
    ⟨⟨⟨(Date.of 2026 8 20).ordinal - 3, by decide, by decide⟩, by decide, by decide⟩, by decide,
      List.nodup_singleton _⟩
  obtain ⟨assignment, hassignment, -, hsettled⟩ := h.settles hassigns
  obtain ⟨account, haccount, -, -, -, hsettles⟩ := hsettled _ (List.mem_singleton_self _)
  have hanswer : (fun a : DefaultAssignment => a.accounts.map fun account =>
      (account.electedQuantity, account.defaultQuantity, account.refusal)) <$>
        assignDefaults { event := augustOffer, policy := augustPolicy }
          [augustLongHolding] (Date.of 2026 8 25) =
      .ok [(0, some ⟨false, 10 ^ 27, 1⟩, none)] := by decide +kernel
  rw [hassignment] at hanswer
  have hone := Except.ok.inj hanswer
  dsimp only at hone
  have hmem := List.mem_map_of_mem (f := fun account : AccountDefault =>
    (account.electedQuantity, account.defaultQuantity, account.refusal)) haccount
  rw [hone, List.mem_singleton, Prod.mk.injEq, Prod.mk.injEq] at hmem
  obtain ⟨helected, hquantity, hrefusal⟩ := hmem
  obtain ⟨hrefused, -⟩ | ⟨-, rest, hrest, hsum⟩ := hsettles
  · exact hrefused hrefusal
  · rw [hquantity] at hrest
    cases hrest
    rw [helected, FiniteDecimal.value_zero, zero_add] at hsum
    norm_num [FiniteDecimal.value, FiniteDecimal.toInt, augustLongHolding] at hsum

end CorporateActions

end Atreides
