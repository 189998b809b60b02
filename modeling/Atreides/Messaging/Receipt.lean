import Atreides.Foundation.Dict
import Atreides.Foundation.Text
import Atreides.Kernel

/-!
# External action receipts

Evidence that an entitled member performed an action outside the program. A receipt is
usable only when its digest is the prepared artifact's and the action was not observed
before the artifact existed.

## Main definitions

* `ExternalActionReceipt` — one observed action, tied to one prepared artifact
* `assessReceipt`, `assessReceipts` — whether receipts are usable evidence
-/

namespace Atreides

/-- An action a member performed outside the program. -/
inductive ExternalAction
  | clearingSubmission
  | settlementInstruction
  deriving DecidableEq, Repr

/-- What a receipt states. -/
structure ReceiptFields where
  entitledMemberId : String
  eventId : String
  action : ExternalAction
  artifactDigest : String
  observationTime : Timestamp
  provenance : Provenance
  messageId : String
  endToEndId : String
  deriving DecidableEq

/-- The longest identifier a receipt carries. -/
def maxIdentifier : ℕ := 35

/-- The checks a receipt passes when it is built. -/
def ReceiptFields.valid (kernel : Kernel) (fields : ReceiptFields) : Bool :=
  fields.entitledMemberId ≠ "" && stripped fields.entitledMemberId = fields.entitledMemberId &&
    kernel.isEventId fields.eventId && kernel.isDigest fields.artifactDigest &&
    fields.observationTime.isUtc && fields.provenance.isFact &&
    1 ≤ fields.messageId.length && fields.messageId.length ≤ maxIdentifier &&
    1 ≤ fields.endToEndId.length && fields.endToEndId.length ≤ maxIdentifier

/-- One observed external action, tied to one prepared artifact. -/
structure ExternalActionReceipt (kernel : Kernel) extends ReceiptFields where
  passes : toReceiptFields.valid kernel = true

variable {kernel : Kernel}

/-- One receipt against the artifact it claims to evidence. -/
def assessReceipt (preparedArtifactDigest : Option String) (preparedAt : Option Timestamp)
    (receipt : ExternalActionReceipt kernel) : Graded :=
  match preparedArtifactDigest.filter kernel.isDigest with
  | none =>
    { disposition := .indeterminate
      reason := "no usable prepared artifact digest was supplied, so the receipt cannot be " ++
        "verified" }
  | some digest =>
    match preparedAt.filter Timestamp.isUtc with
    | none =>
      { disposition := .indeterminate
        reason := "the preparation time is missing or not UTC, so staleness cannot be judged" }
    | some prepared =>
      if receipt.artifactDigest ≠ digest then
        { disposition := .hold
          reason := "the receipt digest does not match the prepared artifact" }
      else if receipt.observationTime.instant < prepared.instant then
        { disposition := .hold
          reason := "the action was observed before the artifact was prepared" }
      else
        { disposition := .pass
          reason := "the receipt matches the prepared artifact and was not observed before " ++
            "it existed" }

/-- The receipts of one event disagree when one of them differs from the first. -/
def disagree : List (ExternalActionReceipt kernel) → Bool
  | [] => false
  | first :: rest => rest.any fun receipt =>
    receipt.action ≠ first.action || receipt.artifactDigest ≠ first.artifactDigest ||
      receipt.entitledMemberId ≠ first.entitledMemberId ||
      receipt.messageId ≠ first.messageId || receipt.endToEndId ≠ first.endToEndId

/-- The finding that the receipts of an event disagree. -/
def disagreement (eventId : String) : Graded where
  disposition := .hold
  reason := "receipts for event " ++ eventId ++ " disagree"
  reason_nonempty := by simp

/-- A set of receipts. Events are looked at in the order they first appear; a hold outranks
what is indeterminate, and that outranks a pass. -/
def assessReceipts (preparedArtifactDigest : Option String) (preparedAt : Option Timestamp)
    (receipts : List (ExternalActionReceipt kernel)) : Graded :=
  if receipts.isEmpty then
    { disposition := .indeterminate, reason := "no external action receipt was supplied" }
  else
    let events := Dict.firstKeys (receipts.map fun receipt => receipt.eventId)
    match events.find? fun event => disagree (receipts.filter fun r => r.eventId = event) with
    | some event => disagreement event
    | none =>
      let graded := receipts.map (assessReceipt preparedArtifactDigest preparedAt)
      match graded.find? fun item => item.disposition = .hold with
      | some item => item
      | none =>
        match graded.find? fun item => item.disposition ≠ .pass with
        | some item => item
        | none =>
          { disposition := .pass, reason := "every receipt matches the prepared artifact" }

end Atreides
