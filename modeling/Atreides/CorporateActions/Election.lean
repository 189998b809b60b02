import Atreides.CorporateActions.Entitlement
import Atreides.CorporateActions.Lifecycle

/-!
# Elections

The election workflow of an elective event. A submission elects a quantity into an announced
option, perhaps under protect, or covers an accepted protect instruction. Each is accepted,
refused with a reason, or recognised as a duplicate, and is journaled with what happened to it.

## Main definitions

* `ElectionInstruction`, `ProtectCover`, `Submission` — what a holder submits
* `ElectionBook`, `ElectionBook.submit` — one event's elections, and one submission
* `rebuildElections` — the book a journal produces
* `assignDefaults` — the event's default option on every uninstructed balance
-/

namespace Atreides

namespace CorporateActions

open DecimalContext (ambient)

/-! ## The firm's deadline -/

/-- How many calendar days before the depository's deadline the firm stops accepting. -/
@[ext]
structure ElectionPolicy where
  firmLeadDays : ℕ
  lead_pos : 1 ≤ firmLeadDays := by decide

instance : DecidableEq ElectionPolicy :=
  fun _ _ => decidable_of_iff _ ElectionPolicy.ext_iff.symm

/-- A number of days before a date, where the calendar reaches that far. -/
def daysBefore (date : Date) (days : ℕ) : Outcome Date :=
  if h : 1 ≤ date.ordinal - days then
    .ok ⟨date.ordinal - days, h, (Nat.sub_le _ _).trans date.ordinal_le⟩
  else .error .dateOutOfRange

/-- The last day the firm accepts an instruction, where the event has elections. -/
def firmDeadline (event : CorporateActionEvent) (policy : ElectionPolicy) :
    Outcome (Option Date) :=
  match event.dates.electionDeadline with
  | none => .ok none
  | some depository => some <$> daysBefore depository policy.firmLeadDays

/-! ## Submissions -/

/-- An elected or covered quantity: exact and positive. -/
structure Quantity where
  amount : FiniteDecimal
  pos : FiniteDecimal.lt 0 amount = true := by decide
  deriving DecidableEq

/-- A holder's instruction to elect a quantity into one announced option. -/
@[ext]
structure ElectionInstruction where
  instructionId : String
  accountId : String
  optionId : String
  quantity : Quantity
  quantityBasis : QuantityBasis := .units
  receivedDate : Date
  protect : Bool := false
  provenance : Provenance
  source : SourceIdentity
  instruction_named : required instructionId = .ok () := by decide
  account_named : required accountId = .ok () := by decide
  option_named : required optionId = .ok () := by decide

instance : DecidableEq ElectionInstruction :=
  fun _ _ => decidable_of_iff _ ElectionInstruction.ext_iff.symm

/-- Delivery of shares against an accepted protect instruction. -/
@[ext]
structure ProtectCover where
  coverId : String
  instructionId : String
  accountId : String
  quantity : Quantity
  receivedDate : Date
  provenance : Provenance
  source : SourceIdentity
  cover_named : required coverId = .ok () := by decide
  instruction_named : required instructionId = .ok () := by decide
  account_named : required accountId = .ok () := by decide

instance : DecidableEq ProtectCover := fun _ _ => decidable_of_iff _ ProtectCover.ext_iff.symm

inductive Submission
  | instruction (instruction : ElectionInstruction)
  | cover (cover : ProtectCover)
  deriving DecidableEq

namespace Submission

def submissionId : Submission → String
  | instruction i => i.instructionId
  | cover c => c.coverId

def receivedDate : Submission → Date
  | instruction i => i.receivedDate
  | cover c => c.receivedDate

/-- Equality of submissions: every field is equal, the quantities as numbers. -/
def same : Submission → Submission → Bool
  | instruction a, instruction b =>
    { a with quantity := b.quantity } = b && a.quantity.amount.eq b.quantity.amount
  | cover a, cover b =>
    { a with quantity := b.quantity } = b && a.quantity.amount.eq b.quantity.amount
  | _, _ => false

end Submission

/-- Why a submission was refused. -/
inductive ElectionRefusal
  | notElective
  | late
  | beforeAnnouncement
  | optionsNotStated
  | unknownOption
  | protectNotOffered
  | conflictingDuplicate
  | unknownProtect
  | lateCover
  | overCover
  deriving DecidableEq, Repr

inductive ElectionOutcome
  | accepted
  | refused
  | duplicate
  deriving DecidableEq, Repr

def ElectionOutcome.value : ElectionOutcome → String
  | accepted => "accepted"
  | refused => "refused"
  | duplicate => "duplicate"

/-- One submission and what the workflow did with it. -/
structure ElectionEntryFields where
  eventId : String
  sequence : ℕ
  submission : Submission
  outcome : ElectionOutcome
  refusal : Option ElectionRefusal := none
  duplicateOf : Option ℕ := none
  deriving DecidableEq

def ElectionEntryFields.consistent (entry : ElectionEntryFields) : Outcome Unit := do
  Outcome.refuseIf ((entry.outcome = .refused) ≠ (entry.refusal ≠ none))
    (.valueError "a refused submission names its reason, and only a refused one")
  Outcome.refuseIf ((entry.outcome = .duplicate) ≠ (entry.duplicateOf ≠ none))
    (.valueError "a duplicate names the submission it repeats, and only a duplicate")

/-- An entry whose outcome, reason and original agree. -/
@[ext]
structure ElectionEntry extends ElectionEntryFields where
  is_consistent : toElectionEntryFields.consistent = .ok ()

instance : DecidableEq ElectionEntry :=
  fun _ _ => decidable_of_iff _ ElectionEntry.ext_iff.symm

/-! ## The book -/

/-- One event's elections: the policy, and every submission made. -/
structure ElectionBook where
  event : CorporateActionEvent
  policy : ElectionPolicy
  journal : List ElectionEntry := []
  deriving DecidableEq

namespace ElectionBook

variable (book : ElectionBook)

/-- The first entry of an identifier that is not itself a duplicate. -/
def first (submissionId : String) : Option ElectionEntry :=
  book.journal.find? fun e => e.outcome ≠ .duplicate ∧ e.submission.submissionId = submissionId

/-- What was accepted, in order. -/
def accepted : List Submission :=
  (book.journal.filter fun e => e.outcome = .accepted).map fun e => e.submission

def acceptedInstructions : List ElectionInstruction :=
  book.accepted.filterMap fun
    | .instruction i => some i
    | .cover _ => none

def acceptedCovers : List ProtectCover :=
  book.accepted.filterMap fun
    | .instruction _ => none
    | .cover c => some c

/-- Everything the account elected, into any option, protect included. -/
def electedQuantity (accountId : String) : Outcome FiniteDecimal :=
  FiniteDecimal.sum ambient 0 ((book.acceptedInstructions.filter fun i =>
    i.accountId = accountId).map fun i => i.quantity.amount)

/-- The accepted covers of one instruction. -/
def coversOf (instructionId : String) : List ProtectCover :=
  book.acceptedCovers.filter fun c => c.instructionId = instructionId

/-- What remains uncovered of one instruction. -/
def uncovered (instruction : ElectionInstruction) : Outcome FiniteDecimal := do
  let covered ← FiniteDecimal.sum ambient 0
    ((book.coversOf instruction.instructionId).map fun c => c.quantity.amount)
  instruction.quantity.amount.sub ambient covered

/-- The account's accepted protect instructions. -/
def protectInstructions (accountId : String) : List ElectionInstruction :=
  book.acceptedInstructions.filter fun i => i.protect ∧ i.accountId = accountId

/-- Elected under protect and not yet covered. -/
def uncoveredProtectBalance (accountId : String) : Outcome FiniteDecimal :=
  Outcome.foldSteps (fun total i => do
    let uncovered ← book.uncovered i
    total.add ambient uncovered) 0 (book.protectInstructions accountId)

/-- The accepted protect instruction a cover delivers against. -/
def protectOf (cover : ProtectCover) : Option ElectionInstruction :=
  book.acceptedInstructions.find? fun i =>
    i.instructionId = cover.instructionId ∧ i.protect ∧ i.accountId = cover.accountId

/-- Why a cover is refused, once the event and the date are in order. -/
def coverRefusal (cover : ProtectCover) : Outcome (Option ElectionRefusal) :=
  match book.protectOf cover with
  | none => .ok (some .unknownProtect)
  | some protect =>
    if book.event.dates.protectDeadline.any (· < cover.receivedDate) then .ok (some .lateCover)
    else do
      let uncovered ← book.uncovered protect
      .ok (if uncovered.lt cover.quantity.amount then some .overCover else none)

/-- Protect needs a voluntary event that states a protect deadline. -/
def offersProtect : Bool :=
  book.event.participation = .voluntary ∧ book.event.dates.protectDeadline ≠ none

/-- Why an instruction is refused, once the event and the date are in order. -/
def instructionRefusal (instruction : ElectionInstruction) : Outcome (Option ElectionRefusal) := do
  let deadline ← firmDeadline book.event book.policy
  .ok (if deadline.any (· < instruction.receivedDate) then some .late
    else if book.event.options = [] then some .optionsNotStated
    else if instruction.optionId ∉ book.event.optionIds then some .unknownOption
    else if instruction.protect ∧ !book.offersProtect then some .protectNotOffered
    else none)

/-- Why a submission is refused, or nothing where it is accepted. -/
def refusal (submission : Submission) : Outcome (Option ElectionRefusal) :=
  if !book.event.participation.elective then .ok (some .notElective)
  else if submission.receivedDate < book.event.dates.announcementDate then
    .ok (some .beforeAnnouncement)
  else match submission with
    | .cover cover => book.coverRefusal cover
    | .instruction instruction => book.instructionRefusal instruction

/-- The entry of a submission that is accepted or refused. -/
def decided (submission : Submission) (refusal : Option ElectionRefusal) : ElectionEntry where
  eventId := book.event.eventId
  sequence := book.journal.length
  submission
  outcome := if refusal = none then .accepted else .refused
  refusal
  is_consistent := by
    cases refusal <;> simp [ElectionEntryFields.consistent, Outcome.bind_eq_ok]

/-- The entry of a submission that repeats an earlier one. -/
def repeated (submission : Submission) (first : ElectionEntry) : ElectionEntry where
  eventId := book.event.eventId
  sequence := book.journal.length
  submission
  outcome := .duplicate
  duplicateOf := some first.sequence
  is_consistent := by simp [ElectionEntryFields.consistent, Outcome.bind_eq_ok]

/-- The entry of one submission. -/
def entryOf (submission : Submission) : Outcome ElectionEntry :=
  match book.first submission.submissionId with
  | some first =>
    if first.submission.same submission then .ok (book.repeated submission first)
    else .ok (book.decided submission (some .conflictingDuplicate))
  | none => do
    let refusal ← book.refusal submission
    .ok (book.decided submission refusal)

/-- Accept, refuse, or recognise as a duplicate: the new book and the entry. -/
def submit (submission : Submission) : Outcome (ElectionBook × ElectionEntry) := do
  let entry ← book.entryOf submission
  .ok ({ book with journal := book.journal ++ [entry] }, entry)

end ElectionBook

/-! ## Rebuilding -/

/-- An entry belongs to the event and stands at its place. -/
def electionPlaced (event : CorporateActionEvent) (expected : ℕ) (recorded : ElectionEntry) :
    Outcome Unit :=
  Outcome.refuseIf (recorded.eventId ≠ event.eventId ∨ recorded.sequence ≠ expected)
    (journalMismatchError ("entry " ++ toString recorded.sequence ++ " of event " ++
      quoted recorded.eventId ++ " is not entry " ++ toString expected ++ " of " ++
      quoted event.eventId))

/-- Equality of entries: every field is equal, the quantities as numbers. -/
def ElectionEntry.same (a b : ElectionEntry) : Bool :=
  a.eventId = b.eventId && a.sequence = b.sequence && a.submission.same b.submission &&
    a.outcome = b.outcome && a.refusal = b.refusal && a.duplicateOf = b.duplicateOf

/-- The recomputed entry is the recorded one. -/
def electionRecorded (recomputed recorded : ElectionEntry) : Outcome Unit :=
  Outcome.refuseIf (!recomputed.same recorded) (journalMismatchError
    ("entry " ++ toString recorded.sequence ++ " records " ++ recorded.outcome.value ++
      ", and its submission gives " ++ recomputed.outcome.value))

/-- Replay a journal: the book it produces. -/
def rebuildElections (event : CorporateActionEvent) (policy : ElectionPolicy)
    (journal : List ElectionEntry) : Outcome ElectionBook :=
  replay (electionPlaced event) ElectionBook.submit (fun entry => entry.submission)
    electionRecorded 0 { event, policy } journal

/-! ## Defaults -/

/-- Why no default was assigned. -/
inductive DefaultRefusal
  | notElective
  | deadlineNotPassed
  | defaultNotStated
  | overInstructed
  | instructedWithoutPosition
  deriving DecidableEq, Repr

/-- One account's default, or why it has none. -/
@[ext]
structure AccountDefault where
  accountId : String
  eligibleBalance : Option FiniteDecimal
  electedQuantity : FiniteDecimal
  defaultQuantity : Option FiniteDecimal
  refusal : Option DefaultRefusal := none
  quantity_or_reason : defaultQuantity.isNone ≠ refusal.isNone := by simp

instance : DecidableEq AccountDefault := fun _ _ => decidable_of_iff _ AccountDefault.ext_iff.symm

/-- The default applied to every account's uninstructed balance, as of one day. -/
structure DefaultAssignment where
  eventId : String
  asOf : Date
  firmDeadline : Option Date
  defaultOptionId : Option String
  refusal : Option DefaultRefusal := none
  accounts : List AccountDefault := []
  deriving DecidableEq

/-- The eligible balance of an account in the holdings. -/
def eligibleOf (holdings : List HolderPosition) (accountId : String) : Option FiniteDecimal :=
  (holdings.find? fun h => h.accountId = accountId).map fun h => h.position.eligibleBalance

/-- The default of one account. -/
def accountDefault (book : ElectionBook) (holdings : List HolderPosition) (accountId : String) :
    Outcome AccountDefault := do
  let elected ← book.electedQuantity accountId
  match eligibleOf holdings accountId with
  | none =>
    .ok { accountId, eligibleBalance := none, electedQuantity := elected
          defaultQuantity := none, refusal := some .instructedWithoutPosition }
  | some balance =>
    if balance.lt elected then
      .ok { accountId, eligibleBalance := some balance, electedQuantity := elected
            defaultQuantity := none, refusal := some .overInstructed }
    else do
      let rest ← balance.sub ambient elected
      .ok { accountId, eligibleBalance := some balance, electedQuantity := elected
            defaultQuantity := some rest }

/-- Assign the event's default option to every uninstructed balance. -/
def assignDefaults (book : ElectionBook) (holdings : List HolderPosition) (asOf : Date) :
    Outcome DefaultAssignment := do
  let event := book.event
  let deadline ← firmDeadline event book.policy
  let refused : DefaultRefusal → DefaultAssignment := fun reason =>
    { eventId := event.eventId, asOf, firmDeadline := deadline, defaultOptionId := none
      refusal := some reason }
  match deadline with
  | none => .ok (refused .notElective)
  | some last =>
    if asOf ≤ last then .ok (refused .deadlineNotPassed)
    else if event.defaultOptionId = none then .ok (refused .defaultNotStated)
    else do
      Outcome.refuseIf (¬ (holdings.map (·.accountId)).Nodup)
        (.valueError "an account appears more than once")
      let accountIds := sortedSet (holdings.map (·.accountId) ++
        book.acceptedInstructions.map (·.accountId))
      let accounts ← Outcome.collect (accountDefault book holdings) accountIds
      .ok { eventId := event.eventId, asOf, firmDeadline := deadline
            defaultOptionId := event.defaultOptionId, accounts }

end CorporateActions

end Atreides
