import Atreides.CorporateActions.Record
import Atreides.Foundation.Decimal.Sums

/-!
# Runs of election submissions

What every run of submissions keeps. Identifiers are accepted once, every accepted cover
delivers against an accepted protect instruction of its account, and where the arithmetic does
not round the covers of an instruction never sum to more than it elects. The journal, and the
records of a run in any order, rebuild the book.

## Main definitions

* `bookAfter` — the book after a run of submissions
* `ElectionBook.Sound` — what every run keeps
* `ElectionBook.ExactCovers` — an instruction's quantities add up without rounding

## Main results

* `submit_cases` — what a submission can do
* `ElectionBook.Sound.submit`, `sound_bookAfter` — one submission keeps the rules, and so
  does a run
* `rebuildElections_eq_ok_iff` — exactly the journals of runs rebuild
-/

namespace Atreides

namespace CorporateActions

open DecimalContext (ambient)

/-! ## What a submission does -/

namespace ElectionBook

variable {book book' : ElectionBook} {submission : Submission} {entry : ElectionEntry}

theorem submit_eq_ok : book.submit submission = .ok (book', entry) ↔
    book.entryOf submission = .ok entry ∧
      book' = { book with journal := book.journal ++ [entry] } := by
  rw [submit, Outcome.bind_eq_ok]
  constructor
  · rintro ⟨e, he, h⟩
    cases h
    exact ⟨he, rfl⟩
  · rintro ⟨he, rfl⟩
    exact ⟨entry, he, rfl⟩

/-- An entry carries the submission and stands at the end of the journal. -/
theorem entryOf_fields (h : book.entryOf submission = .ok entry) :
    entry.eventId = book.event.eventId ∧ entry.sequence = book.journal.length ∧
      entry.submission = submission := by
  rw [entryOf] at h
  split at h
  next first hfirst =>
    split_ifs at h <;> cases h <;> exact ⟨rfl, rfl, rfl⟩
  next hnone =>
    obtain ⟨refusal, -, hentry⟩ := Outcome.bind_eq_ok.mp h
    cases hentry
    exact ⟨rfl, rfl, rfl⟩

/-- What a submission can do: it is accepted under a new identifier and without a refusal, or
it is not accepted. A duplicate has an original. -/
theorem entryOf_cases (h : book.entryOf submission = .ok entry) :
    (entry.outcome = .accepted ∧ book.first submission.submissionId = none ∧
      book.refusal submission = .ok none) ∨
    (entry.outcome ≠ .accepted ∧
      (entry.outcome = .duplicate → (book.first submission.submissionId).isSome = true)) := by
  rw [entryOf] at h
  split at h
  next first hfirst =>
    split_ifs at h <;> cases h <;> exact Or.inr ⟨by simp [decided, repeated], by simp [hfirst]⟩
  next hnone =>
    obtain ⟨refusal, hrefusal, hentry⟩ := Outcome.bind_eq_ok.mp h
    cases hentry
    cases refusal with
    | none => exact Or.inl ⟨rfl, hnone, hrefusal⟩
    | some reason => exact Or.inr ⟨by simp [decided], by simp [decided]⟩

/-- A submission under an identifier in use is answered, and not accepted. Where it repeats the
first one under the identifier it is a duplicate. -/
theorem entryOf_of_first {first : ElectionEntry}
    (h : book.first submission.submissionId = some first) :
    ∃ entry, book.entryOf submission = .ok entry ∧ entry.outcome ≠ .accepted ∧
      (first.submission.same submission = true → entry.outcome = .duplicate ∧
        entry.duplicateOf = some first.sequence) := by
  rw [entryOf, h]
  dsimp only
  by_cases hsame : first.submission.same submission = true
  · rw [if_pos hsame]
    exact ⟨_, rfl, by simp [repeated], fun _ => ⟨rfl, rfl⟩⟩
  · rw [if_neg hsame]
    exact ⟨_, rfl, by simp [decided], fun hs => absurd hs hsame⟩

/-! ## What was accepted -/

theorem accepted_concat (journal : List ElectionEntry) (entry : ElectionEntry) :
    ElectionBook.accepted { book with journal := journal ++ [entry] } =
      ElectionBook.accepted { book with journal } ++
        if entry.outcome = .accepted then [entry.submission] else [] := by
  by_cases h : entry.outcome = .accepted <;> simp [accepted, h]

/-- What is not accepted leaves what was accepted. -/
theorem accepted_of_ne (h : book.submit submission = .ok (book', entry))
    (hne : entry.outcome ≠ .accepted) : book'.accepted = book.accepted := by
  obtain ⟨-, rfl⟩ := submit_eq_ok.mp h
  rw [accepted_concat, if_neg hne, List.append_nil]

theorem accepted_of_accepted (h : book.submit submission = .ok (book', entry))
    (haccepted : entry.outcome = .accepted) :
    book'.accepted = book.accepted ++ [submission] := by
  obtain ⟨hentry, rfl⟩ := submit_eq_ok.mp h
  rw [accepted_concat, if_pos haccepted, (entryOf_fields hentry).2.2]

theorem mem_acceptedInstructions {i : ElectionInstruction} :
    i ∈ book.acceptedInstructions ↔ .instruction i ∈ book.accepted := by
  rw [acceptedInstructions, List.mem_filterMap]
  constructor
  · rintro ⟨s, hs, hi⟩
    cases s with
    | instruction j =>
      cases hi
      exact hs
    | cover c => cases hi
  · intro hi
    exact ⟨_, hi, rfl⟩

theorem mem_acceptedCovers {c : ProtectCover} :
    c ∈ book.acceptedCovers ↔ .cover c ∈ book.accepted := by
  rw [acceptedCovers, List.mem_filterMap]
  constructor
  · rintro ⟨s, hs, hc⟩
    cases s with
    | instruction i => cases hc
    | cover d =>
      cases hc
      exact hs
  · intro hc
    exact ⟨_, hc, rfl⟩

/-- An identifier without a first entry was never accepted. -/
theorem notMem_of_first_eq_none {id : String} (h : book.first id = none) :
    id ∉ book.accepted.map Submission.submissionId := by
  simp only [accepted, List.map_map, List.mem_map, List.mem_filter, Function.comp_apply,
    not_exists, not_and, and_imp]
  intro e he haccepted hid
  have hnot := List.find?_eq_none.mp h e he
  simp [of_decide_eq_true haccepted, hid] at hnot

/-- Every entry's identifier has a first entry. -/
theorem first_isSome_concat {id : String} (journal : List ElectionEntry) (entry : ElectionEntry)
    (h : (ElectionBook.first { book with journal } id).isSome = true ∨
      entry.outcome ≠ .duplicate ∧ entry.submission.submissionId = id) :
    (ElectionBook.first { book with journal := journal ++ [entry] } id).isSome = true := by
  simp only [first, List.find?_isSome] at h ⊢
  rcases h with ⟨e, he, hfirst⟩ | hentry
  · exact ⟨e, by simp [he], hfirst⟩
  · exact ⟨entry, by simp, by simpa using hentry⟩

/-! ## Covers -/

section Covers

variable {instruction : ElectionInstruction} {cover : ProtectCover}

/-- A cover that is not refused names an accepted protect instruction of its account, with at
least the cover's quantity uncovered. -/
theorem protect_of_refusal (h : book.refusal (.cover cover) = .ok none) :
    ∃ i ∈ book.acceptedInstructions, i.instructionId = cover.instructionId ∧
      i.accountId = cover.accountId ∧ i.protect = true ∧
        ∃ u, book.uncovered i = .ok u ∧ cover.quantity.amount.value ≤ u.value := by
  rw [refusal] at h
  split_ifs at h
  · cases h
  · cases h
  change book.coverRefusal cover = _ at h
  rw [coverRefusal] at h
  split at h
  next => cases h
  next i hprotect =>
    split_ifs at h
    · cases h
    obtain ⟨u, hu, hlt⟩ := Outcome.bind_eq_ok.mp h
    obtain ⟨hid, hprotected, haccount⟩ : i.instructionId = cover.instructionId ∧
        i.protect = true ∧ i.accountId = cover.accountId := by
      simpa using List.find?_some hprotect
    refine ⟨i, List.mem_of_find?_eq_some hprotect, hid, haccount, hprotected, u, hu, ?_⟩
    apply not_lt.mp
    rw [← FiniteDecimal.lt_iff]
    intro hless
    rw [if_pos hless] at hlt
    cases hlt

variable (book instruction) in
/-- The exact quantities of the accepted covers of an instruction. -/
def coveredValues : List ℚ :=
  (book.coversOf instruction.instructionId).map fun c => c.quantity.amount.value

variable (book instruction) in
/-- No sum or difference of the instruction's quantity and its covers' needs rounding. -/
def ExactCovers : Prop :=
  ExactSums ambient
    (instruction.quantity.amount.value :: (book.coveredValues instruction).map fun v => -v)

/-- Without rounding, what remains uncovered is the quantity less the covers. -/
theorem uncovered_exact (h : book.ExactCovers instruction) :
    ∃ u, book.uncovered instruction = .ok u ∧
      u.value = instruction.quantity.amount.value - (book.coveredValues instruction).sum := by
  let amounts := (book.coversOf instruction.instructionId).map fun c => c.quantity.amount
  have hvalues : amounts.map FiniteDecimal.value = book.coveredValues instruction := by
    simp [amounts, coveredValues, Function.comp_def]
  have hcovers : ExactSums ambient ([] ++ amounts.map FiniteDecimal.value) := by
    have hneg := (h.sublist (List.sublist_cons_self _ _)).neg
    rw [List.nil_append, hvalues]
    simpa [Function.comp_def] using hneg
  have hzero : FiniteDecimal.value 0 = ([] : List ℚ).sum := by simp
  obtain ⟨covered, hsum, hvalue⟩ := FiniteDecimal.sum_exact hzero hcovers
  rw [List.nil_append, hvalues] at hvalue
  have hfits : ambient.Represents
      (instruction.quantity.amount.value - (book.coveredValues instruction).sum) := by
    have hrepresents := h.represents
    rw [List.sum_cons, ← List.sum_neg] at hrepresents
    rw [sub_eq_add_neg]
    exact hrepresents
  rw [← hvalue] at hfits ⊢
  obtain ⟨u, hu, huvalue⟩ := FiniteDecimal.sub_exact_iff.mpr hfits
  refine ⟨u, ?_, huvalue⟩
  rw [uncovered, hsum, Outcome.ok_bind]
  exact hu

end Covers

/-! ## What every run keeps -/

/-- What every run of submissions keeps: identifiers are accepted once, every identifier in the
journal has a first entry, every accepted cover has its accepted protect instruction, and
without rounding no instruction is covered beyond its quantity. -/
structure Sound (book : ElectionBook) : Prop where
  once : (book.accepted.map Submission.submissionId).Nodup
  known : ∀ e ∈ book.journal, (book.first e.submission.submissionId).isSome = true
  has_protect : ∀ c ∈ book.acceptedCovers, ∃ i ∈ book.acceptedInstructions,
    i.instructionId = c.instructionId ∧ i.accountId = c.accountId ∧ i.protect = true
  bounded : ∀ i ∈ book.acceptedInstructions, book.ExactCovers i →
    (book.coveredValues i).sum ≤ i.quantity.amount.value

/-- The book before any submission. -/
theorem sound_new (event : CorporateActionEvent) (policy : ElectionPolicy) :
    Sound { event, policy } where
  once := List.nodup_nil
  known := by simp
  has_protect := by simp [acceptedCovers, accepted]
  bounded := by simp [acceptedInstructions, accepted]

/-- Under identifiers accepted once, one identifier names one accepted instruction. -/
theorem Sound.instruction_unique (h : book.Sound) {i j : ElectionInstruction}
    (hi : i ∈ book.acceptedInstructions) (hj : j ∈ book.acceptedInstructions)
    (hid : i.instructionId = j.instructionId) : i = j := by
  have hsame : Submission.instruction i = .instruction j :=
    List.inj_on_of_nodup_map h.once (mem_acceptedInstructions.mp hi)
      (mem_acceptedInstructions.mp hj) hid
  cases hsame
  rfl

section Step

variable {instruction : ElectionInstruction} {cover : ProtectCover}

/-- An accepted instruction under a new identifier has no covers yet. -/
theorem Sound.coversOf_eq_nil (h : book.Sound)
    (hnew : book.first instruction.instructionId = none) :
    book.coversOf instruction.instructionId = [] := by
  apply List.filter_eq_nil_iff.mpr
  intro c hc hid
  obtain ⟨i, hi, hiid, -, -⟩ := h.has_protect c hc
  apply notMem_of_first_eq_none hnew
  rw [List.mem_map]
  refine ⟨.instruction i, mem_acceptedInstructions.mp hi, ?_⟩
  exact hiid.trans (of_decide_eq_true hid)

theorem acceptedCovers_of_instruction
    (h : book'.accepted = book.accepted ++ [.instruction instruction]) :
    book'.acceptedCovers = book.acceptedCovers := by
  simp [acceptedCovers, h]

theorem acceptedInstructions_of_instruction
    (h : book'.accepted = book.accepted ++ [.instruction instruction]) :
    book'.acceptedInstructions = book.acceptedInstructions ++ [instruction] := by
  simp [acceptedInstructions, h]

theorem acceptedCovers_of_cover (h : book'.accepted = book.accepted ++ [.cover cover]) :
    book'.acceptedCovers = book.acceptedCovers ++ [cover] := by
  simp [acceptedCovers, h]

theorem acceptedInstructions_of_cover (h : book'.accepted = book.accepted ++ [.cover cover]) :
    book'.acceptedInstructions = book.acceptedInstructions := by
  simp [acceptedInstructions, h]

/-- An accepted instruction starts with nothing covered; the others are as they were. -/
theorem Sound.bounded_instruction (h : book.Sound)
    (haccepted : book'.accepted = book.accepted ++ [.instruction instruction])
    (hnew : book.first instruction.instructionId = none) :
    ∀ i ∈ book'.acceptedInstructions, book'.ExactCovers i →
      (book'.coveredValues i).sum ≤ i.quantity.amount.value := by
  have hcovers : ∀ i, book'.coveredValues i = book.coveredValues i := by
    intro i
    rw [coveredValues, coveredValues, coversOf, coversOf, acceptedCovers_of_instruction haccepted]
  intro i hi hexact
  rw [ExactCovers, hcovers] at hexact
  rw [hcovers]
  rw [acceptedInstructions_of_instruction haccepted, List.mem_append, List.mem_singleton] at hi
  rcases hi with hold | rfl
  · exact h.bounded i hold hexact
  · have hpos : 0 < i.quantity.amount.value := by
      simpa using FiniteDecimal.lt_iff.mp i.quantity.pos
    rw [coveredValues, h.coversOf_eq_nil hnew]
    exact hpos.le

/-- An accepted cover fits into what its protect instruction had uncovered. -/
theorem Sound.bounded_cover (h : book.Sound)
    (haccepted : book'.accepted = book.accepted ++ [.cover cover])
    (hrefusal : book.refusal (.cover cover) = .ok none) :
    ∀ i ∈ book'.acceptedInstructions, book'.ExactCovers i →
      (book'.coveredValues i).sum ≤ i.quantity.amount.value := by
  intro i hi hexact
  rw [acceptedInstructions_of_cover haccepted] at hi
  have hcovers : book'.coveredValues i = book.coveredValues i ++
      if cover.instructionId = i.instructionId then [cover.quantity.amount.value] else [] := by
    rw [coveredValues, coveredValues, coversOf, coversOf, acceptedCovers_of_cover haccepted]
    by_cases hid : cover.instructionId = i.instructionId <;> simp [hid]
  by_cases hid : cover.instructionId = i.instructionId
  · -- the protect instruction found is this one, and it had the cover's quantity left
    rw [if_pos hid] at hcovers
    obtain ⟨j, hj, hjid, -, -, u, hu, hle⟩ := protect_of_refusal hrefusal
    obtain rfl := h.instruction_unique hj hi (hjid.trans hid)
    have hbefore : book.ExactCovers j := by
      apply hexact.sublist
      rw [hcovers, List.map_append]
      exact (List.sublist_append_left _ _).cons_cons _
    obtain ⟨u', hu', hvalue⟩ := uncovered_exact hbefore
    rw [hu] at hu'
    cases hu'
    rw [hcovers, List.sum_append, List.sum_singleton]
    linarith
  · rw [if_neg hid, List.append_nil] at hcovers
    rw [ExactCovers, hcovers] at hexact
    rw [hcovers]
    exact h.bounded i hi hexact

/-- Every identifier in the journal keeps its first entry, and a new one gets one. -/
theorem Sound.known_submit (h : book.Sound)
    (hsubmit : book.submit submission = .ok (book', entry)) :
    ∀ e ∈ book'.journal, (book'.first e.submission.submissionId).isSome = true := by
  obtain ⟨hentry, rfl⟩ := submit_eq_ok.mp hsubmit
  intro e he
  apply first_isSome_concat book.journal entry
  rcases List.mem_append.mp he with hold | hnew
  · exact Or.inl (h.known e hold)
  · rw [List.mem_singleton.mp hnew, (entryOf_fields hentry).2.2]
    rcases entryOf_cases hentry with ⟨haccepted, -, -⟩ | ⟨-, hduplicate⟩
    · exact Or.inr ⟨by simp [haccepted], rfl⟩
    · by_cases hd : entry.outcome = .duplicate
      · exact Or.inl (hduplicate hd)
      · exact Or.inr ⟨hd, rfl⟩

end Step

/-- One submission keeps the rules. -/
theorem Sound.submit (h : book.Sound) (hsubmit : book.submit submission = .ok (book', entry)) :
    book'.Sound := by
  have hentry := (submit_eq_ok.mp hsubmit).1
  rcases entryOf_cases hentry with ⟨haccepted, hnew, hrefusal⟩ | ⟨hne, -⟩
  · have hmore := accepted_of_accepted hsubmit haccepted
    have honce : (book'.accepted.map Submission.submissionId).Nodup := by
      rw [hmore, List.map_append]
      apply List.Nodup.append h.once (List.nodup_singleton _)
      rw [List.disjoint_singleton]
      exact notMem_of_first_eq_none hnew
    cases submission with
    | instruction i =>
      refine ⟨honce, h.known_submit hsubmit, ?_, h.bounded_instruction hmore hnew⟩
      rw [acceptedCovers_of_instruction hmore, acceptedInstructions_of_instruction hmore]
      intro c hc
      obtain ⟨j, hj, hfields⟩ := h.has_protect c hc
      exact ⟨j, List.mem_append_left _ hj, hfields⟩
    | cover c =>
      refine ⟨honce, h.known_submit hsubmit, ?_, h.bounded_cover hmore hrefusal⟩
      rw [acceptedCovers_of_cover hmore, acceptedInstructions_of_cover hmore]
      intro d hd
      rcases List.mem_append.mp hd with hold | hlast
      · exact h.has_protect d hold
      · obtain ⟨i, hi, hid, haccount, hprotect, -⟩ := protect_of_refusal hrefusal
        rw [List.mem_singleton.mp hlast]
        exact ⟨i, hi, hid, haccount, hprotect⟩
  · -- what is not accepted leaves everything but the journal
    have hsame := accepted_of_ne hsubmit hne
    have hinstructions : book'.acceptedInstructions = book.acceptedInstructions := by
      rw [acceptedInstructions, acceptedInstructions, hsame]
    have hcovers : book'.acceptedCovers = book.acceptedCovers := by
      rw [acceptedCovers, acceptedCovers, hsame]
    refine ⟨hsame ▸ h.once, h.known_submit hsubmit, ?_, ?_⟩
    · rw [hinstructions, hcovers]
      exact h.has_protect
    · simp only [ExactCovers, coveredValues, coversOf, hinstructions, hcovers]
      exact h.bounded

/-- Every balance is one of what was accepted: the books of one event that accepted the same
submissions have the same balances. -/
theorem balances_congr (h : book'.accepted = book.accepted) (accountId : String) :
    book'.electedQuantity accountId = book.electedQuantity accountId ∧
      book'.uncoveredProtectBalance accountId = book.uncoveredProtectBalance accountId := by
  have hinstructions : book'.acceptedInstructions = book.acceptedInstructions := by
    rw [acceptedInstructions, acceptedInstructions, h]
  have huncovered : book'.uncovered = book.uncovered := by
    funext i
    simp only [uncovered, coversOf, acceptedCovers, h]
  constructor
  · rw [electedQuantity, electedQuantity, hinstructions]
  · simp only [uncoveredProtectBalance, protectInstructions, hinstructions, huncovered]

/-- What remains uncovered of an accepted instruction is never negative, where nothing is
rounded. -/
theorem Sound.uncovered_nonneg (h : book.Sound) {i : ElectionInstruction}
    (hi : i ∈ book.acceptedInstructions) (hexact : book.ExactCovers i) :
    ∃ u, book.uncovered i = .ok u ∧
      u.value = i.quantity.amount.value - (book.coveredValues i).sum ∧ 0 ≤ u.value := by
  obtain ⟨u, hu, hvalue⟩ := uncovered_exact hexact
  refine ⟨u, hu, hvalue, ?_⟩
  rw [hvalue]
  linarith [h.bounded i hi hexact]

/-- The uncovered protect balance of an account is never negative, where nothing is rounded in
what remains uncovered of its instructions. -/
theorem Sound.uncoveredProtectBalance_nonneg (h : book.Sound) {accountId : String}
    (hexact : ∀ i ∈ book.protectInstructions accountId, book.ExactCovers i)
    {balance : FiniteDecimal} (hbalance : book.uncoveredProtectBalance accountId = .ok balance) :
    0 ≤ balance.value := by
  apply Outcome.foldSteps_preserves_of_mem (fun total => 0 ≤ total.value) ?_ (by simp) hbalance
  intro i hi total total' htotal hstep
  obtain ⟨u, hu, -, hnonneg⟩ := h.uncovered_nonneg (List.mem_of_mem_filter hi) (hexact i hi)
  obtain ⟨u', hu', hadd⟩ := Outcome.bind_eq_ok.mp hstep
  rw [hu] at hu'
  cases hu'
  exact FiniteDecimal.add_nonneg_of_ok hadd htotal hnonneg

end ElectionBook

/-! ## Runs -/

/-- The book after a run of submissions. One that raises leaves the book as it is. -/
def bookAfter (event : CorporateActionEvent) (policy : ElectionPolicy)
    (submissions : List Submission) : ElectionBook :=
  stepAll ElectionBook.submit { event, policy } submissions

theorem sound_bookAfter (event : CorporateActionEvent) (policy : ElectionPolicy)
    (submissions : List Submission) : (bookAfter event policy submissions).Sound :=
  stepAll_preserves (fun _ _ _ _ hbook hsubmit => hbook.submit hsubmit)
    (ElectionBook.sound_new event policy) submissions

/-! ## The journal rebuilds the book -/

theorem Submission.same_refl (submission : Submission) :
    submission.same submission = true := by
  cases submission with
  | instruction i => simp [Submission.same, FiniteDecimal.eq_iff]
  | cover c => simp [Submission.same, FiniteDecimal.eq_iff]

theorem electionPlaced_eq_ok {event : CorporateActionEvent} {n : ℕ} {entry : ElectionEntry} :
    electionPlaced event n entry = .ok () ↔
      entry.eventId = event.eventId ∧ entry.sequence = n := by
  simp [electionPlaced]

/-- Entries of one submission that compare as equal are one entry. -/
theorem eq_of_same {a b : ElectionEntry} (hsubmission : a.submission = b.submission) :
    a.same b = true ↔ a = b := by
  constructor
  · intro h
    simp only [ElectionEntry.same, Bool.and_eq_true, decide_eq_true_eq] at h
    obtain ⟨⟨⟨⟨⟨hevent, hsequence⟩, -⟩, houtcome⟩, hrefusal⟩, hduplicate⟩ := h
    apply ElectionEntry.ext <;> assumption
  · rintro rfl
    simp [ElectionEntry.same, Submission.same_refl]

/-- The entries of a book carry their submissions and stand at their places. -/
theorem election_journaling (event : CorporateActionEvent) :
    Journaling (fun book => book.event = event) ElectionBook.journal (electionPlaced event)
      ElectionBook.submit (fun entry => entry.submission) electionRecorded where
  keeps book submission book' entry h hsubmit := by
    rw [(ElectionBook.submit_eq_ok.mp hsubmit).2]
    exact h
  logs book submission book' entry hsubmit := by
    rw [(ElectionBook.submit_eq_ok.mp hsubmit).2]
  carries book submission book' entry hsubmit :=
    (ElectionBook.entryOf_fields (ElectionBook.submit_eq_ok.mp hsubmit).1).2.2
  placed book submission book' entry h hsubmit := by
    obtain ⟨hevent, hsequence, -⟩ :=
      ElectionBook.entryOf_fields (ElectionBook.submit_eq_ok.mp hsubmit).1
    exact electionPlaced_eq_ok.mpr ⟨by rw [hevent, h], hsequence⟩
  recognised book recorded book' entry hsubmit := by
    have hsubmission :=
      (ElectionBook.entryOf_fields (ElectionBook.submit_eq_ok.mp hsubmit).1).2.2
    rw [← eq_of_same hsubmission]
    simp [electionRecorded]

/-- Exactly the journals of runs rebuild, to the book of the run. -/
theorem rebuildElections_eq_ok_iff {event : CorporateActionEvent} {policy : ElectionPolicy}
    {journal : List ElectionEntry} {book : ElectionBook} :
    rebuildElections event policy journal = .ok book ↔
      ∃ submissions, bookAfter event policy submissions = book ∧ book.journal = journal :=
  (election_journaling event).replay_eq_ok_iff rfl rfl

/-- The entries of a journal that rebuilds state their positions, in order. -/
theorem sequences_of_rebuildElections {event : CorporateActionEvent} {policy : ElectionPolicy}
    {journal : List ElectionEntry} {book : ElectionBook}
    (h : rebuildElections event policy journal = .ok book) :
    journal.map (fun entry => entry.sequence) = List.range' 0 journal.length := by
  apply positions_of_replay ?_ h
  intro n entry hplaced
  exact (electionPlaced_eq_ok.mp hplaced).2

/-! ## The records rebuild the book -/

theorem onePolicy_of_forall {policy : ElectionPolicy} {bodies : List ElectionBody}
    (hne : bodies ≠ []) (h : ∀ b ∈ bodies, b.policy = policy) :
    onePolicy bodies = .ok policy := by
  cases bodies with
  | nil => exact absurd rfl hne
  | cons body rest =>
    have hbody := h body (by simp)
    have hrest : ¬ rest.any (fun b => b.policy ≠ body.policy) = true := by
      simp only [List.any_eq_true, not_exists, not_and]
      intro b hb
      simp [h b (by simp [hb]), hbody]
    rw [onePolicy, if_neg hrest, hbody]

/-- Bodies that rebuild hold entries at distinct positions. -/
theorem sequences_nodup_of_rebuildElectionBodies {bodies : List ElectionBody}
    {book : ElectionBook} (h : rebuildElectionBodies bodies = .ok book) :
    (bodies.map fun b => b.entry.sequence).Nodup := by
  obtain ⟨event, -, hpolicy⟩ := Outcome.bind_eq_ok.mp h
  obtain ⟨policy, -, hrebuild⟩ := Outcome.bind_eq_ok.mp hpolicy
  have hpositions := sequences_of_rebuildElections hrebuild
  rw [List.map_map] at hpositions
  rw [show (fun b : ElectionBody => b.entry.sequence) =
    (fun e : ElectionEntry => e.sequence) ∘ fun b => b.entry from rfl, hpositions]
  exact List.nodup_range'

/-- The order of the records does not matter. -/
theorem rebuildElectionsFromRecords_perm {records records' : List CorporateActionEventRecord}
    (h : records.Perm records') (book : ElectionBook) :
    rebuildElectionsFromRecords records = .ok book ↔
      rebuildElectionsFromRecords records' = .ok book :=
  insertionSort_ok_iff_of_perm
    (fun _ _ hbodies => sequences_nodup_of_rebuildElectionBodies hbodies) (h.filterMap _) book

/-- The records of a run that journaled anything, in any order and among records of other
kinds, rebuild the book of the run. -/
theorem rebuildElectionsFromRecords_of_run {event : CorporateActionEvent}
    {policy : ElectionPolicy} {submissions : List Submission}
    (hne : (bookAfter event policy submissions).journal ≠ [])
    {records : List CorporateActionEventRecord}
    (h : (electionBodies records).Perm
      ((bookAfter event policy submissions).journal.map (ElectionBody.mk event policy))) :
    rebuildElectionsFromRecords records = .ok (bookAfter event policy submissions) := by
  generalize hbook : bookAfter event policy submissions = book at h hne ⊢
  let bodies := book.journal.map (ElectionBody.mk event policy)
  have hrebuild : rebuildElections event policy book.journal = .ok book :=
    rebuildElections_eq_ok_iff.mpr ⟨submissions, hbook, rfl⟩
  have hbodies : bodies ≠ [] := by simpa [bodies] using hne
  have hentries : bodies.map (fun b => b.entry) = book.journal := by
    simp only [bodies, List.map_map]
    exact List.map_id _
  have hpositions : bodies.map (fun b => b.entry.sequence) = List.range' 0 bodies.length := by
    have hjournal := sequences_of_rebuildElections hrebuild
    simp only [bodies, List.map_map, List.length_map]
    exact hjournal
  have hevent : oneEvent ElectionBody.event bodies = .ok event :=
    oneEvent_of_forall hbodies (by simp [bodies])
  have hpolicy : onePolicy bodies = .ok policy :=
    onePolicy_of_forall hbodies (by simp [bodies])
  -- the bodies sort into the order of the journal, and all carry the event and the policy
  rw [rebuildElectionsFromRecords, insertionSort_of_positions h hpositions,
    rebuildElectionBodies, hevent, Outcome.ok_bind, hpolicy, Outcome.ok_bind, hentries, hrebuild]

/-- Records that rebuild are those of a run, and rebuild its book. -/
theorem exists_run_of_rebuildElectionsFromRecords {records : List CorporateActionEventRecord}
    {book : ElectionBook} (h : rebuildElectionsFromRecords records = .ok book) :
    ∃ event policy submissions, bookAfter event policy submissions = book ∧
      ((electionBodies records).map fun b => b.entry).Perm book.journal := by
  obtain ⟨event, -, hrest⟩ := Outcome.bind_eq_ok.mp h
  obtain ⟨policy, -, hrebuild⟩ := Outcome.bind_eq_ok.mp hrest
  obtain ⟨submissions, hrun, hjournal⟩ := rebuildElections_eq_ok_iff.mp hrebuild
  refine ⟨event, policy, submissions, hrun, ?_⟩
  rw [hjournal]
  exact ((List.perm_insertionSort _ _).map _).symm

/-! ## Over-instructed accounts

A submission is never compared with what its account holds. The assignment of defaults is. -/

/-- An account that elected more than its eligible balance is reported and gets no default. -/
theorem accountDefault_overInstructed {book : ElectionBook} {holdings : List HolderPosition}
    {accountId : String} {result : AccountDefault}
    (h : accountDefault book holdings accountId = .ok result) :
    result.accountId = accountId ∧ book.electedQuantity accountId = .ok result.electedQuantity ∧
      ∀ balance, eligibleOf holdings accountId = some balance →
        (result.refusal = some .overInstructed ↔ balance.lt result.electedQuantity = true) := by
  rw [accountDefault] at h
  obtain ⟨elected, helected, h⟩ := Outcome.bind_eq_ok.mp h
  split at h
  next hnone =>
    cases h
    exact ⟨rfl, helected, by simp [hnone]⟩
  next balance hbalance =>
    split_ifs at h with hless
    · cases h
      exact ⟨rfl, helected, by simp [hbalance, hless]⟩
    · obtain ⟨rest, -, hresult⟩ := Outcome.bind_eq_ok.mp h
      cases hresult
      exact ⟨rfl, helected, by simp [hbalance, hless]⟩

/-- In an assignment of defaults exactly the accounts that elected more than their eligible
balance are over-instructed. -/
theorem assignDefaults_overInstructed {book : ElectionBook} {holdings : List HolderPosition}
    {asOf : Date} {assignment : DefaultAssignment}
    (h : assignDefaults book holdings asOf = .ok assignment) :
    ∀ result ∈ assignment.accounts,
      book.electedQuantity result.accountId = .ok result.electedQuantity ∧
        ∀ balance, eligibleOf holdings result.accountId = some balance →
          (result.refusal = some .overInstructed ↔
            balance.lt result.electedQuantity = true) := by
  rw [assignDefaults] at h
  obtain ⟨deadline, -, h⟩ := Outcome.bind_eq_ok.mp h
  intro result hresult
  split at h
  next =>
    cases h
    cases hresult
  next last =>
    split_ifs at h
    · cases h
      cases hresult
    · cases h
      cases hresult
    obtain ⟨⟨⟩, -, h⟩ := Outcome.bind_eq_ok.mp h
    obtain ⟨accounts, hcollect, h⟩ := Outcome.bind_eq_ok.mp h
    cases h
    obtain ⟨accountId, -, hone⟩ := Outcome.exists_of_mem_collect hcollect hresult
    obtain ⟨rfl, hrest⟩ := accountDefault_overInstructed hone
    exact hrest

/-! ## What every run keeps, and what rebuilds it -/

/-- A submission under an identifier of the journal is answered, is not accepted, and changes
neither what was accepted nor a balance. -/
theorem ElectionBook.Sound.resubmit {book : ElectionBook} (h : book.Sound)
    {submission : Submission}
    (hknown : ∃ e ∈ book.journal, e.submission.submissionId = submission.submissionId) :
    ∃ book' entry, book.submit submission = .ok (book', entry) ∧ entry.outcome ≠ .accepted ∧
      book'.accepted = book.accepted ∧
        ∀ accountId, book'.electedQuantity accountId = book.electedQuantity accountId ∧
          book'.uncoveredProtectBalance accountId = book.uncoveredProtectBalance accountId := by
  obtain ⟨e, he, hid⟩ := hknown
  have hsome := h.known e he
  rw [hid] at hsome
  obtain ⟨first, hfirst⟩ := Option.isSome_iff_exists.mp hsome
  obtain ⟨entry, hentry, hne, -⟩ := entryOf_of_first hfirst
  have hsubmit := submit_eq_ok.mpr ⟨hentry, rfl⟩
  have hsame := accepted_of_ne hsubmit hne
  exact ⟨_, entry, hsubmit, hne, hsame, balances_congr hsame⟩

/-- In every run identifiers are accepted once, covers deliver against accepted protect
instructions and, where nothing is rounded, never beyond what they elect; a resubmission changes
nothing. Exactly the journals of runs rebuild, and the records of a run rebuild it in any order.
What an account elected is compared with its eligible balance only when defaults are assigned,
and every excess is reported there. -/
theorem elections_kept_and_rebuilt :
    (∀ (event : CorporateActionEvent) (policy : ElectionPolicy) (submissions : List Submission),
      let book := bookAfter event policy submissions
      book.Sound ∧
      (∀ i ∈ book.acceptedInstructions, book.ExactCovers i →
        ∃ u, book.uncovered i = .ok u ∧
          u.value = i.quantity.amount.value - (book.coveredValues i).sum ∧ 0 ≤ u.value) ∧
      (∀ accountId balance, (∀ i ∈ book.protectInstructions accountId, book.ExactCovers i) →
        book.uncoveredProtectBalance accountId = .ok balance → 0 ≤ balance.value) ∧
      ∀ submission : Submission,
        (∃ e ∈ book.journal, e.submission.submissionId = submission.submissionId) →
          ∃ book' entry, book.submit submission = .ok (book', entry) ∧
            entry.outcome ≠ .accepted ∧ book'.accepted = book.accepted ∧
              ∀ accountId, book'.electedQuantity accountId = book.electedQuantity accountId ∧
                book'.uncoveredProtectBalance accountId =
                  book.uncoveredProtectBalance accountId) ∧
    (∀ book holdings asOf assignment, assignDefaults book holdings asOf = .ok assignment →
      ∀ result ∈ assignment.accounts,
        book.electedQuantity result.accountId = .ok result.electedQuantity ∧
          ∀ balance, eligibleOf holdings result.accountId = some balance →
            (result.refusal = some .overInstructed ↔
              balance.lt result.electedQuantity = true)) ∧
    (∀ event policy journal book, rebuildElections event policy journal = .ok book ↔
      ∃ submissions, bookAfter event policy submissions = book ∧ book.journal = journal) ∧
    (∀ event policy submissions records, (bookAfter event policy submissions).journal ≠ [] →
      (electionBodies records).Perm
        ((bookAfter event policy submissions).journal.map (ElectionBody.mk event policy)) →
      rebuildElectionsFromRecords records = .ok (bookAfter event policy submissions)) ∧
    (∀ records records', records.Perm records' → ∀ book,
      rebuildElectionsFromRecords records = .ok book ↔
        rebuildElectionsFromRecords records' = .ok book) ∧
    ∀ records book, rebuildElectionsFromRecords records = .ok book →
      ∃ event policy submissions, bookAfter event policy submissions = book ∧
        ((electionBodies records).map fun b => b.entry).Perm book.journal := by
  refine ⟨?_, ?_, ?_, ?_, ?_, ?_⟩
  · intro event policy submissions
    have hsound := sound_bookAfter event policy submissions
    refine ⟨hsound, fun i hi => hsound.uncovered_nonneg hi, ?_, fun _ => hsound.resubmit⟩
    exact fun _ _ hexact hbalance => hsound.uncoveredProtectBalance_nonneg hexact hbalance
  · exact fun _ _ _ _ hassign => assignDefaults_overInstructed hassign
  · exact fun _ _ _ _ => rebuildElections_eq_ok_iff
  · exact fun _ _ _ _ hne hbodies => rebuildElectionsFromRecords_of_run hne hbodies
  · exact fun _ _ hperm book => rebuildElectionsFromRecords_perm hperm book
  · exact fun _ _ hrebuild => exists_run_of_rebuildElectionsFromRecords hrebuild

/-- A tender offer of an August. -/
def augustTender : CorporateActionEvent where
  eventId := "CA-AUGUST"
  securityId := "US0000000024"
  eventType := .tenderOffer
  participation := .voluntary
  dates :=
    { announcementDate := Date.of 2026 8 3
      electionDeadline := some (Date.of 2026 8 20)
      protectDeadline := some (Date.of 2026 8 25) }
  options := [{ optionId := "801", description := "tender for cash" }]
  provenance := .factSynthetic
  source := { sourceId := "synthetic-august" }

/-- The firm stops three days before the depository. -/
def augustPolicy : ElectionPolicy where
  firmLeadDays := 3

/-- An instruction to tender a quantity, under protect. -/
def augustInstruction (quantity : Quantity) : Submission :=
  .instruction
    { instructionId := "AUG-1", accountId := "AUG-ACC", optionId := "801", quantity
      receivedDate := Date.of 2026 8 4, protect := true, provenance := .humanJudgment
      source := { sourceId := "synthetic-august" } }

/-- A cover of the instruction. -/
def augustCover (quantity : Quantity) : Submission :=
  .cover
    { coverId := "AUG-2", instructionId := "AUG-1", accountId := "AUG-ACC", quantity
      receivedDate := Date.of 2026 8 21, provenance := .humanJudgment
      source := { sourceId := "synthetic-august" } }

def augustBook : ElectionBook :=
  bookAfter augustTender augustPolicy
    [augustInstruction { amount := 150 }, augustCover { amount := 60 },
      augustCover { amount := 60 }]

/-- A holder of a hundred shares elected a hundred and fifty, and the book accepted it. -/
theorem augustBook_elected_beyond_eligible :
    augustBook.electedQuantity "AUG-ACC" = .ok 150 ∧
      eligibleOf [{ accountId := "AUG-ACC"
                    position :=
                      { securityId := "US0000000024", eligibleBalance := 100
                        settlementBalance := 100 } }] "AUG-ACC" = some 100 ∧
      FiniteDecimal.lt 100 150 = true := by
  decide

theorem elections_kept_and_rebuilt_august :
    rebuildElectionsFromRecords (augustBook.journal.reverse.map fun entry =>
      { operationId := ⟨"00000000-0000-4000-8000-0000000000f2", by decide⟩
        recordedDtg := "202608210000"
        body := .election { event := augustTender, policy := augustPolicy, entry } }) =
      .ok augustBook := by
  apply elections_kept_and_rebuilt.2.2.2.1 augustTender augustPolicy _ _ (by decide)
  apply List.Perm.of_eq ?_ |>.trans ((List.reverse_perm _).map _)
  simp [electionBodies, List.filterMap_map, augustBook]

end CorporateActions

end Atreides
