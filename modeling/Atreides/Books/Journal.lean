import Atreides.Foundation.AppendLog
import Atreides.Books.StockRecord
import Atreides.Books.Balanced

/-!
# The journal over a history of postings

A posting appends its entry, or leaves the books as they were: because its event was
posted before, or because it is a reversal of an entry the journal does not have. So the
journal only grows, holds an event once, and every reversal names an entry that came
before it. What the journal holds of each issue and of each currency adds up to zero,
because every entry does.

Posting does not compare a reversal with the entry it names, and it does not look at the
identifiers of entries.

## Main definitions

* `PostsOrKeeps` — what one posting does
* `WellFormed` — what holds of the journal after every history
* `Negates`, `Strict` — what posting does not ask for

## Main results

* `post_cases` — a posting appends an entry of a new event, or keeps the books
* `wellFormed_run` — the journal is well formed after every history
-/

namespace Atreides

open DecimalContext (ambient)

/-! ## Reversals -/

/-- An entry whose source is a reversal names the entry it reverses. -/
theorem JournalEntry.reverses_of_source (entry : JournalEntry) (h : entry.source = .reversal) :
    ∃ reversed, entry.reversesEntryId = some reversed := by
  rcases hreverses : entry.reversesEntryId with _ | reversed
  · have hchecked := entry.balanced_and_attributable
    obtain ⟨securities, money, hnet, hissues, hcurrencies⟩ := entry.balanced
    rw [balancedAndAttributable] at hchecked
    by_cases hevent : entry.posting.sourceEventId = entry.sourceEventId
    · simp [hevent, hnet, hissues, hcurrencies, h, hreverses] at hchecked
    · simp [hevent] at hchecked
  · exact ⟨reversed, rfl⟩

/-- One line is another with the opposite amount. -/
structure LedgerLine.Negates (line original : LedgerLine) : Prop where
  account : line.accountId = original.accountId
  kind : line.accountType = original.accountType
  side : line.recordSide = original.recordSide
  issue : line.issue = original.issue
  currency : line.currency = original.currency
  quantity : line.quantity.value = -original.quantity.value
  money : line.money.value = -original.money.value

/-- The lines of one entry are those of another with the opposite amounts. -/
def JournalEntry.Negates (entry original : JournalEntry) : Prop :=
  List.Forall₂ LedgerLine.Negates entry.lines original.lines

namespace EquitiesBooks

variable {canonicalBytesOf : JournalEntry → List UInt8}

/-! ## One posting -/

/-- The books with one more entry. -/
def appended (books : EquitiesBooks) (entry : JournalEntry) : EquitiesBooks :=
  { books with
    entries := books.entries ++ [entry]
    bySource := books.bySource.set entry.sourceEventId entry }

/-- The entry names no entry to reverse, or one of the given ones. -/
def ReversesOneOf (entries : List JournalEntry) (entry : JournalEntry) : Prop :=
  ∀ reversed, entry.reversesEntryId = some reversed →
    ∃ prior ∈ entries, prior.entryId = reversed

/-- A posting appends the entry of a new event, or keeps the books. -/
theorem post_cases (canonicalBytesOf : JournalEntry → List UInt8) (books : EquitiesBooks)
    (entry : JournalEntry) :
    (books.bySource.get? entry.sourceEventId = none ∧ ReversesOneOf books.entries entry ∧
      books.post canonicalBytesOf entry =
        .ok (books.appended entry, { posted := true, entry })) ∨
    (∃ result, result.posted = false ∧ books.post canonicalBytesOf entry = .ok (books, result)) ∨
    (∃ e, books.post canonicalBytesOf entry = .error e) := by
  rw [post]
  rcases hget : books.bySource.get? entry.sourceEventId with _ | original
  · by_cases hreversed : (entry.reversesEntryId.any fun reversed =>
        !books.entries.any fun prior => prior.entryId = reversed) = true
    · exact Or.inr (Or.inr ⟨_, if_pos hreversed⟩)
    · refine Or.inl ⟨rfl, ?_, if_neg hreversed⟩
      intro reversed hreverses
      simpa [hreverses] using hreversed
  · exact Or.inr (Or.inl ⟨_, rfl, rfl⟩)

/-- A posting that is reported as posted appends the entry; any other one keeps the books. -/
def PostsOrKeeps (canonicalBytesOf : JournalEntry → List UInt8) (books : EquitiesBooks)
    (entry : JournalEntry) : Prop :=
  match books.post canonicalBytesOf entry with
  | .ok (_, result) =>
    if result.posted then
      after canonicalBytesOf books (.post entry) = books.appended entry
    else after canonicalBytesOf books (.post entry) = books
  | .error _ => after canonicalBytesOf books (.post entry) = books

theorem postsOrKeeps (books : EquitiesBooks) (entry : JournalEntry) :
    PostsOrKeeps canonicalBytesOf books entry := by
  rw [PostsOrKeeps]
  rcases post_cases canonicalBytesOf books entry with
    ⟨-, -, hpost⟩ | ⟨result, hresult, hpost⟩ | ⟨e, hpost⟩
  · rw [after, hpost]
    rfl
  · simp only [after, hpost, hresult, Bool.false_eq_true, if_false]
  · rw [after, hpost]

/-- The entries after a call: those before it, and the posted one where it was accepted. -/
theorem after_cases (books : EquitiesBooks) (operation : Operation) :
    (∃ entry, books.bySource.get? entry.sourceEventId = none ∧
      ReversesOneOf books.entries entry ∧
      after canonicalBytesOf books operation = books.appended entry) ∨
    ((after canonicalBytesOf books operation).entries = books.entries ∧
      (after canonicalBytesOf books operation).bySource = books.bySource) := by
  rcases operation with entry | observed
  · rcases post_cases canonicalBytesOf books entry with
      ⟨hnew, hreverses, hpost⟩ | ⟨result, hresult, hpost⟩ | ⟨e, hpost⟩
    · refine Or.inl ⟨entry, hnew, hreverses, ?_⟩
      rw [after, hpost]
    · rw [after, hpost]
      exact Or.inr ⟨rfl, rfl⟩
    · rw [after, hpost]
      exact Or.inr ⟨rfl, rfl⟩
  · right
    rw [after, verifyStockRecord]
    rcases books.quantities with e | quantities
    · exact ⟨rfl, rfl⟩
    · exact ⟨rfl, rfl⟩

/-! ## Every history -/

/-- The index of the journal by event, and the order of its reversals. -/
structure Indexed (books : EquitiesBooks) : Prop where
  index : ∀ event,
    event ∈ books.bySource.keys ↔ event ∈ books.entries.map JournalEntry.sourceEventId
  events_unique : (books.entries.map JournalEntry.sourceEventId).Nodup
  reversals_later : Linked ReversesOneOf books.entries

theorem Indexed.new (breakOwner : String) : Indexed (new breakOwner) :=
  ⟨fun _ => Iff.rfl, List.nodup_nil, linked_nil⟩

theorem Indexed.appended {books : EquitiesBooks} (h : Indexed books) {entry : JournalEntry}
    (hnew : books.bySource.get? entry.sourceEventId = none)
    (hreverses : ReversesOneOf books.entries entry) : Indexed (books.appended entry) := by
  constructor
  · intro event
    rw [EquitiesBooks.appended, Dict.mem_keys_set, h.index]
    simp [or_comm]
  · rw [Dict.get?_eq_none_iff, h.index] at hnew
    rw [EquitiesBooks.appended, List.map_append, List.map_singleton]
    exact h.events_unique.append (List.nodup_singleton _) (by simpa using hnew)
  · exact linked_concat.mpr ⟨h.reversals_later, hreverses⟩

theorem indexed_run (breakOwner : String) (history : List Operation) :
    Indexed (run canonicalBytesOf breakOwner history) := by
  induction history using List.reverseRecOn with
  | nil => exact Indexed.new breakOwner
  | append_singleton history operation ih =>
    rw [run_concat]
    rcases @after_cases canonicalBytesOf (run canonicalBytesOf breakOwner history) operation with
      ⟨entry, hnew, hreverses, hafter⟩ | ⟨hentries, hindex⟩
    · rw [hafter]
      exact ih.appended hnew hreverses
    · exact ⟨by rw [hentries, hindex]; exact ih.index, hentries ▸ ih.events_unique,
        hentries ▸ ih.reversals_later⟩

/-- No call takes an entry away. -/
theorem entries_after (books : EquitiesBooks) (operation : Operation) :
    books.entries <+: (after canonicalBytesOf books operation).entries := by
  rcases @after_cases canonicalBytesOf books operation with
    ⟨entry, -, -, hafter⟩ | ⟨hentries, -⟩
  · rw [hafter]
    exact List.prefix_append _ _
  · rw [hentries]

theorem entries_extend (breakOwner : String) (history more : List Operation) :
    (run canonicalBytesOf breakOwner history).entries <+:
      (run canonicalBytesOf breakOwner (history ++ more)).entries := by
  rw [run, run, List.foldl_append]
  exact prefix_foldl entries_after _ more

/-! ## What holds of the journal -/

/-- The journal holds an event once, its reversals name entries that came before them, and
its entries balance: the net amounts of each are zero as it was checked, and what the books
hold of an issue or a currency adds up to zero where the working precision holds the sums. -/
structure WellFormed (books : EquitiesBooks) : Prop where
  events_unique : (books.entries.map JournalEntry.sourceEventId).Nodup
  reversals_name_earlier : Linked (fun before entry => entry.source = .reversal →
    ∃ prior ∈ before, entry.reversesEntryId = some prior.entryId) books.entries
  entries_balance : ∀ entry ∈ books.entries, ∃ securities money,
    netOfLines entry.lines = .ok (securities, money) ∧
      unbalancedKeys securities = [] ∧ unbalancedKeys money = []
  issues_balance : ∀ issue, ExactSums ambient (quantitiesOf issue books.lines) →
    ownedQuantity books.lines issue + ∑ kind, locatedQuantity books.lines issue kind = 0
  currencies_balance : ∀ currency, ExactSums ambient (moneyAmountsOf currency books.lines) →
    (moneyAmountsOf currency books.lines).sum = 0

theorem wellFormed_run (breakOwner : String) (history : List Operation) :
    WellFormed (run canonicalBytesOf breakOwner history) := by
  have hindexed := @indexed_run canonicalBytesOf breakOwner history
  refine ⟨hindexed.events_unique, ?_, fun entry _ => entry.balanced, ?_,
    fun currency => sum_money _⟩
  · intro before entry rest hsplit hsource
    obtain ⟨reversed, hreverses⟩ := entry.reverses_of_source hsource
    obtain ⟨prior, hprior, hname⟩ :=
      hindexed.reversals_later before entry rest hsplit reversed hreverses
    exact ⟨prior, hprior, by rw [hreverses, hname]⟩
  · intro issue hexact
    rw [ownedQuantity_eq _ hexact]
    exact neg_add_cancel _

/-- What holds after a history of postings, and what one more posting does. -/
structure KeepsJournal (canonicalBytesOf : JournalEntry → List UInt8) (breakOwner : String)
    (postings : List JournalEntry) : Prop where
  wellFormed : WellFormed (run canonicalBytesOf breakOwner (postings.map .post))
  posts_or_keeps : ∀ entry,
    PostsOrKeeps canonicalBytesOf (run canonicalBytesOf breakOwner (postings.map .post)) entry
  grows : ∀ more : List JournalEntry,
    (run canonicalBytesOf breakOwner (postings.map .post)).entries <+:
      (run canonicalBytesOf breakOwner ((postings ++ more).map .post)).entries

/-- Over every history of postings the journal only grows by accepted entries, and is well
formed. -/
theorem keepsJournal_of_postings (canonicalBytesOf : JournalEntry → List UInt8)
    (breakOwner : String) (postings : List JournalEntry) :
    KeepsJournal canonicalBytesOf breakOwner postings := by
  refine ⟨wellFormed_run _ _, postsOrKeeps _, fun more => ?_⟩
  rw [List.map_append]
  exact entries_extend _ _ _

/-! ## What posting does not ask for -/

/-- Entries have identifiers of their own, a reversal negates the entry it names, no entry
is reversed twice, and the books balance to the last digit. -/
structure Strict (books : EquitiesBooks) : Prop where
  identifiers_unique : (books.entries.map JournalEntry.entryId).Nodup
  reversals_negate : ∀ entry ∈ books.entries, ∀ prior ∈ books.entries,
    entry.reversesEntryId = some prior.entryId → entry.Negates prior
  reversed_once : (books.entries.filterMap JournalEntry.reversesEntryId).Nodup
  issues_balance : ∀ issue, (quantitiesOf issue books.lines).sum = 0

/-- A reversal of the entry of ten shares that moves three shares of another account. -/
def wrongReversal (event : String) (h : event ≠ "") : JournalEntry where
  entryId := "ENTRY-1"
  sourceEventId := event
  source := .reversal
  effectiveDate := .of 2026 10 6
  effectiveDateBasis := .tradeDate
  authority := "DESK"
  lines :=
    [{ accountId := "ACCOUNT-2", accountType := .customerCash, recordSide := .ownership,
       issue := some "ISSUE-1", quantity := 3, currency_code := LedgerLine.no_currency },
     { accountId := "VAULT", accountType := .dtc, recordSide := .location,
       issue := some "ISSUE-1", quantity := ⟨true, 3, 0⟩, currency_code := LedgerLine.no_currency }]
  posting := ⟨"RECORD-2", ⟨"ACTOR-1", .human, "ops", [], true⟩, .midnight (.of 2026 10 6), event,
    .factSynthetic⟩
  reversesEntryId := some "ENTRY-1"
  entryId_nonempty := tenShares.entryId_nonempty
  sourceEventId_nonempty := h
  authority_nonempty := by decide
  two_lines := by decide
  balanced_and_attributable := by
    rw [balancedAndAttributable, if_neg (not_not.mpr rfl)]
    decide

/-- An entry of 10^28 and 1 against 10^28: the sum is checked in 28 digits. -/
def roundedEntry : JournalEntry where
  entryId := "ENTRY-4"
  sourceEventId := "EVENT-4"
  source := .tradeCapture
  effectiveDate := .of 2026 10 6
  effectiveDateBasis := .tradeDate
  authority := "DESK"
  lines :=
    [{ accountId := "ACCOUNT-3", accountType := .customerCash, recordSide := .ownership,
       issue := some "ISSUE-1", quantity := ⟨false, 1, 28⟩,
       currency_code := LedgerLine.no_currency },
     { accountId := "ACCOUNT-3", accountType := .customerCash, recordSide := .ownership,
       issue := some "ISSUE-1", quantity := 1, currency_code := LedgerLine.no_currency },
     { accountId := "VAULT", accountType := .dtc, recordSide := .location,
       issue := some "ISSUE-1", quantity := ⟨true, 1, 28⟩,
       currency_code := LedgerLine.no_currency }]
  posting := ⟨"RECORD-4", ⟨"ACTOR-1", .human, "ops", [], true⟩, .midnight (.of 2026 10 6),
    "EVENT-4", .factSynthetic⟩
  entryId_nonempty := by decide
  sourceEventId_nonempty := by decide
  authority_nonempty := by decide
  two_lines := by decide
  balanced_and_attributable := by decide

/-- One entry, two reversals of it under its own identifier that negate nothing, and an
entry that balances only after rounding. -/
def loosePostings : List JournalEntry :=
  [tenShares, wrongReversal "EVENT-2" (by decide), wrongReversal "EVENT-3" (by decide),
    roundedEntry]

/-- The four postings are all accepted, and nothing of the strict journal holds. -/
theorem loose_journal :
    (run (fun _ => []) "OPS" (loosePostings.map .post)).entries = loosePostings ∧
    ¬ (loosePostings.map JournalEntry.entryId).Nodup ∧
    ¬ (wrongReversal "EVENT-2" (by decide)).Negates tenShares ∧
    ¬ (loosePostings.filterMap JournalEntry.reversesEntryId).Nodup ∧
    (quantitiesOf "ISSUE-1" roundedEntry.lines).sum = 1 ∧
    ¬ ∀ canonicalBytesOf breakOwner (postings : List JournalEntry),
      Strict (run canonicalBytesOf breakOwner (postings.map .post)) := by
  have hids : ¬ (loosePostings.map JournalEntry.entryId).Nodup := by decide
  have hentries : (run (fun _ => []) "OPS" (loosePostings.map .post)).entries = loosePostings := by
    decide
  refine ⟨hentries, hids, ?_, by decide, by decide +kernel, ?_⟩
  · intro h
    rcases h with _ | ⟨hline, -⟩
    exact absurd hline.account (by decide)
  · intro h
    apply hids
    rw [← hentries]
    exact (h _ _ loosePostings).identifiers_unique

end EquitiesBooks

end Atreides
