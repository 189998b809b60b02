import Atreides.Foundation.Dict
import Atreides.Messaging.Canonical

/-!
# Readback

The venue's status report, brought back in by hand and reconciled against what was
prepared. Agreement is a match and disagreement is a break; an entry that cannot be matched
is a finding and not an exception.

## Main definitions

* `StatusReport`, `StatusEntry` — a parsed report
* `resolve` — the prepared instruction an entry is about, or why there is none
* `entryBreaks`, `progressionBreak` — the findings about a matched entry
* `reconcile` — all entries of a report in turn
-/

namespace Atreides

/-! ## Vocabulary -/

/-- What a status code means for settlement. -/
inductive SettlementStatus
  | received
  | inProgress
  | acceptedNotPosted
  | acceptedWithChange
  | settled
  | rejected
  | cancelled
  | unrecognized
  deriving DecidableEq, Repr

namespace SettlementStatus

def value : SettlementStatus → String
  | received => "received"
  | inProgress => "in_progress"
  | acceptedNotPosted => "accepted_not_posted"
  | acceptedWithChange => "accepted_with_change"
  | settled => "settled"
  | rejected => "rejected"
  | cancelled => "cancelled"
  | unrecognized => "unrecognized"

/-- Progression order. The terminal statuses share the top rank: they are alternatives to
each other. -/
def matchedStatusOrder : SettlementStatus → ℕ
  | unrecognized => 0
  | received => 1
  | inProgress => 2
  | acceptedNotPosted => 3
  | acceptedWithChange => 4
  | settled => 4
  | rejected => 4
  | cancelled => 4

end SettlementStatus

/-- Why a readback did not reconcile cleanly. -/
inductive ReadbackBreakCode
  | unsolicitedStatus
  | identifierDisagreement
  | amountMismatch
  | currencyMismatch
  | acceptedWithChange
  | statusRegression
  | statusConflict
  | unrecognizedStatusCode
  | rejected
  | malformedStatusEntry
  | noReadback
  deriving DecidableEq, Repr

/-- One finding from a readback, with the evidence behind it. -/
@[ext]
structure ReadbackBreak where
  code : ReadbackBreakCode
  detail : String
  endToEndId : Option String := none
  originalMessageId : Option String := none
  statusCode : Option String := none
  detail_nonempty : detail ≠ "" := by simp

instance : DecidableEq ReadbackBreak := fun _ _ => decidable_of_iff _ ReadbackBreak.ext_iff.symm

/-! ## Reports -/

/-- One transaction-level status, as the venue reported it. -/
structure StatusEntry where
  statusCode : String
  status : SettlementStatus
  endToEndId : Option String := none
  originalTransactionId : Option String := none
  originalUetr : Option String := none
  reasonCodes : List String := []
  echoedAmount : Option Decimal := none
  echoedCurrency : Option String := none
  acceptanceDatetime : Option String := none
  deriving DecidableEq

/-- A status entry that could not be read, kept rather than thrown away. -/
structure MalformedEntry where
  ordinal : ℕ
  reason : String
  endToEndId : Option String := none
  originalTransactionId : Option String := none
  statusCode : Option String := none
  deriving DecidableEq

/-- A parsed status report. -/
structure StatusReport where
  messageId : String
  createdAt : String
  namespaceUri : String
  originalMessageId : Option String
  originalMessageNameId : Option String
  groupStatusCode : Option String
  entries : List StatusEntry
  malformed : List MalformedEntry := []
  deriving DecidableEq

/-- The outcome of reconciling one status report against prepared work. -/
structure ReadbackMatch where
  report : StatusReport
  /-- end-to-end identifier to the status the venue reported for it -/
  matched : Dict String SettlementStatus := .empty
  breaks : List ReadbackBreak := []
  isAbsent : Bool := false
  deriving DecidableEq

/-! ## Findings about a matched entry -/

/-- Forward movement is normal. Backward from settled is severe. -/
def progressionBreak (entry : StatusEntry) (e2e : String) :
    Option SettlementStatus → List ReadbackBreak
  | none => []
  | some prior =>
    -- an identical status arriving twice is idempotent
    if prior = entry.status then []
    else if prior = .settled then
      [{ code := .statusRegression
         detail := quoted e2e ++ " was reported SETTLED and is now reported " ++
           entry.status.value ++ ". A settlement the record shows as complete is being " ++
           "reported as not complete"
         endToEndId := some e2e
         statusCode := some entry.statusCode }]
    else if entry.status.matchedStatusOrder < prior.matchedStatusOrder then
      [{ code := .statusRegression
         detail := quoted e2e ++ " moved backward from " ++ prior.value ++ " to " ++
           entry.status.value
         endToEndId := some e2e
         statusCode := some entry.statusCode }]
    else if entry.status.matchedStatusOrder = prior.matchedStatusOrder then
      [{ code := .statusConflict
         detail := quoted e2e ++ " carries two different statuses at the same progression " ++
           "level: " ++ prior.value ++ " and " ++ entry.status.value ++
           ". Usually a duplicate or crossed message rather than a real reversal"
         endToEndId := some e2e
         statusCode := some entry.statusCode }]
    else []

/-- The findings the entry's own status calls for. -/
def statusBreaks (entry : StatusEntry) (e2e : String) : List ReadbackBreak :=
  match entry.status with
  | .unrecognized =>
    [{ code := .unrecognizedStatusCode
       detail := "status code " ++ quoted entry.statusCode ++ " is not in the recognised set. " ++
         "A code the framework does not understand is a code it cannot act on"
       endToEndId := some e2e
       statusCode := some entry.statusCode }]
  | .acceptedWithChange =>
    [{ code := .acceptedWithChange
       detail := "venue accepted " ++ quoted e2e ++ " on terms other than instructed"
       endToEndId := some e2e
       statusCode := some entry.statusCode }]
  | .rejected =>
    let reasons := String.intercalate ", " entry.reasonCodes
    [{ code := .rejected
       detail := "venue rejected " ++ quoted e2e ++ " (" ++
         (if reasons = "" then "no reason code supplied" else reasons) ++
         "). Governed, prepared, submitted, and did not settle"
       endToEndId := some e2e
       statusCode := some entry.statusCode }]
  | _ => []

/-- The finding that the echoed amount is not the instructed one. Comparing with a
signalling NaN raises. -/
def amountBreaks (entry : StatusEntry) (e2e : String) (instruction : CashLegInstruction) :
    Outcome (List ReadbackBreak) :=
  match entry.echoedAmount with
  | none => .ok []
  | some echoed => do
    let same ← Decimal.eq echoed instruction.amount
    .ok (if same then [] else
      [{ code := .amountMismatch
         detail := "venue echoed " ++ echoed.text ++ " against an instructed " ++
           instruction.amount.text
         endToEndId := some e2e
         statusCode := some entry.statusCode }])

/-- The finding that the echoed currency is not the instructed one. -/
def currencyBreaks (entry : StatusEntry) (e2e : String) (instruction : CashLegInstruction) :
    List ReadbackBreak :=
  match entry.echoedCurrency with
  | none => []
  | some echoed =>
    if echoed = instruction.currency then [] else
      [{ code := .currencyMismatch
         detail := "venue echoed " ++ echoed ++ " against an instructed " ++
           instruction.currency
         endToEndId := some e2e
         statusCode := some entry.statusCode }]

/-- Findings about a matched entry. Order is stable for replay. -/
def entryBreaks (entry : StatusEntry) (e2e : String) (instruction : CashLegInstruction)
    (prior : Option SettlementStatus) : Outcome (List ReadbackBreak) := do
  let amounts ← amountBreaks entry e2e instruction
  .ok (statusBreaks entry e2e ++ amounts ++ currencyBreaks entry e2e instruction ++
    progressionBreak entry e2e prior)

/-! ## Reconciliation -/

/-- An entry without an end-to-end identifier. -/
def unidentifiedBreak (report : StatusReport) (entry : StatusEntry) : ReadbackBreak where
  code := .malformedStatusEntry
  detail := "status entry identifies a transaction but carries no OrgnlEndToEndId; this " ++
    "revision matches on the end-to-end identifier only"
  originalMessageId := report.originalMessageId
  statusCode := some entry.statusCode

/-- A status for an instruction that was never prepared. -/
def unsolicitedBreak (report : StatusReport) (entry : StatusEntry) (e2e : String) :
    ReadbackBreak where
  code := .unsolicitedStatus
  detail := "status reported for end-to-end id " ++ quoted e2e ++ ", which this framework " ++
    "never prepared. Atreides does not submit, so this is either a venue misroute or a " ++
    "payment that left the firm outside the governed path"
  endToEndId := some e2e
  originalMessageId := report.originalMessageId
  statusCode := some entry.statusCode

/-- Two identifiers that resolve to different instructions. -/
def disagreementBreak (report : StatusReport) (entry : StatusEntry) (e2e : String)
    (instruction : CashLegInstruction) : ReadbackBreak where
  code := .identifierDisagreement
  detail := "OrgnlEndToEndId " ++ quoted e2e ++ " resolves to the instruction with message " ++
    "id " ++ quoted instruction.messageId ++ ", while OrgnlMsgId " ++
    (report.originalMessageId.map quoted).getD "None" ++ " resolves to a different prepared " ++
    "instruction. The framework does not choose between them"
  endToEndId := some e2e
  originalMessageId := report.originalMessageId
  statusCode := some entry.statusCode

/-- The prepared instruction an entry is about, with its identifier, or the finding that
says why there is none. A later instruction of the same identifier hides an earlier one. -/
def resolve (report : StatusReport) (prepared : List CashLegInstruction) (entry : StatusEntry) :
    Except ReadbackBreak (String × CashLegInstruction) :=
  let byE2e := Dict.ofPairs (prepared.map fun i => (i.endToEndId, i))
  let byMsg := Dict.ofPairs (prepared.map fun i => (i.messageId, i))
  let msgInstruction := report.originalMessageId.bind byMsg.get?
  match entry.endToEndId with
  | none => .error (unidentifiedBreak report entry)
  | some e2e =>
    match byE2e.get? e2e with
    | none => .error (unsolicitedBreak report entry e2e)
    | some instruction =>
      if msgInstruction.any (· ≠ instruction) then
        .error (disagreementBreak report entry e2e instruction)
      else .ok (e2e, instruction)

/-- The finding about an entry the parser could not read. -/
def malformedBreak (report : StatusReport) (bad : MalformedEntry) : ReadbackBreak where
  code := .malformedStatusEntry
  detail := "status entry " ++ toString bad.ordinal ++ " " ++ bad.reason ++ ". The rest of " ++
    "the file was reconciled; this entry was not"
  endToEndId := bad.endToEndId
  originalMessageId := report.originalMessageId
  statusCode := bad.statusCode

/-- One entry of the report: a finding when it resolves to nothing, otherwise its findings
and the status it matched. -/
def reconcileEntry (report : StatusReport) (prepared : List CashLegInstruction)
    (prior : Dict String SettlementStatus)
    (found : Dict String SettlementStatus × List ReadbackBreak) (entry : StatusEntry) :
    Outcome (Dict String SettlementStatus × List ReadbackBreak) :=
  match resolve report prepared entry with
  | .error finding => .ok (found.1, found.2 ++ [finding])
  | .ok (e2e, instruction) => do
    let findings ← entryBreaks entry e2e instruction (prior.get? e2e)
    .ok (found.1.set e2e entry.status, found.2 ++ findings)

/-- Reconcile a parsed report against what was prepared. What was already established for
each identifier is an argument; unreadable entries are accounted for first. -/
def reconcile (report : StatusReport) (prepared : List CashLegInstruction)
    (knownStatuses : Option (Dict String SettlementStatus)) : Outcome ReadbackMatch := do
  let prior := knownStatuses.getD .empty
  let (matched, breaks) ← Outcome.foldSteps (reconcileEntry report prepared prior)
    (.empty, report.malformed.map (malformedBreak report)) report.entries
  .ok { report, matched, breaks }

/-- Nothing came back: nothing is established, and it is not a failure. -/
def absentReadback (reason : String := "no status report has been received") : ReadbackMatch where
  report := ⟨"", "", "", none, none, none, [], []⟩
  breaks :=
    [{ code := .noReadback
       detail := reason ++ ". Nothing is established: not settlement, not rejection. " ++
         "Re-issuing on this basis produces a duplicate payment (CASH-001 SVII, SVIII)." }]
  isAbsent := true

end Atreides
