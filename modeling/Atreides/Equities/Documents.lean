import Atreides.Acceptance.Candidate
import Atreides.Books.Ledger
import Atreides.Margin.Engine

/-!
# The capacity of accounts

What an account can still buy is projected from its margin result and published: its excess over
the requirement that governs, by the initial rate.

## Main definitions

* `AccountCapacityDocument` — the capacities that are published
* `projectCapacity` — the document of a list of margin results
-/

namespace Atreides

open Margin (MarginAccount)
open Arithmetic (zero lt div)

/-- Whose securities the rules of customer protection take an account's to be. -/
inductive Capacity
  | customer
  | pab
  | proprietary
  deriving DecidableEq, Repr

/-- The capacity of an ownership account, from its classification in the books. -/
def capacityByAccountType : AccountType → Option Capacity
  | .customerCash | .customerMargin => some .customer
  | .pab => some .pab
  | .firmProprietary => some .proprietary
  | _ => none

section Documents

variable (N : Type)

structure AccountCapacity where
  accountId : String
  capacity : Capacity
  buyingPower : N
  marginExcess : N
  marginResultDigest : String
  /-- the issues of the account with their quantities -/
  positions : List (String × N)

structure AccountCapacityDocument where
  asOf : Timestamp
  maximumAgeSeconds : ℤ
  journalDigest : String
  firmParticipantId : String
  accounts : List (AccountCapacity N)

/-- What a document is projected from. -/
structure CapacityRequest [Arithmetic N] where
  journalDigest : String
  asOf : Timestamp
  maximumAgeSeconds : ℤ
  marginResults : List (Margin.MarginResult N)
  accounts : List (MarginAccount N)
  accountTypes : Dict String AccountType
  firmParticipantId : String

end Documents

variable {N : Type} [Arithmetic N]

/-- The document is of the present kind: its texts are well formed, its time has an offset, and
it states one capacity for an account. -/
def AccountCapacityDocument.check (document : AccountCapacityDocument N) : Outcome Unit := do
  Outcome.refuseIf (document.maximumAgeSeconds ≤ 0) (.valueError "greater_than")
  Outcome.refuseIf (!isPayloadDigest document.journalDigest) (.valueError "string_pattern_mismatch")
  Outcome.refuseIf (document.firmParticipantId = "") (.valueError "string_too_short")
  Outcome.refuseIf (document.asOf.utcOffset = none)
    (.valueError "capacity as_of must be timezone-aware")
  Outcome.refuseIf (¬ (document.accounts.map AccountCapacity.accountId).Nodup)
    (.valueError "capacity account ids must be unique")

/-- The initial rate that a result was computed with. -/
def initialRateOf (result : Margin.MarginResult N) : Option N :=
  (result.rulesUsed.find? fun trace => trace.ruleId = "reg_t.initial").map Margin.RuleTrace.value

/-- The excess of a determinate result, and its initial rate. -/
def termsOf (result : Margin.MarginResult N) : Outcome (N × N) :=
  match result.excessOrDeficiency with
  | none => .error (.valueError "capacity requires a determinate margin result")
  | some excess =>
    match initialRateOf result with
    | none => .error (.valueError "capacity requires the pinned Reg T initial rate")
    | some initialRate =>
      if Arithmetic.le initialRate zero then
        .error (.valueError "capacity requires the pinned Reg T initial rate")
      else .ok (excess, initialRate)

/-- The account a result is of. -/
def accountOf (accounts : List (MarginAccount N)) (accountId : String) :
    Outcome (MarginAccount N) :=
  match (Dict.ofPairs (accounts.map fun account => (account.accountId, account))).get? accountId
  with
  | none => .error (.keyError accountId)
  | some account => .ok account

/-- The capacity of an account that has an ownership type. -/
def capacityOf (accountTypes : Dict String AccountType) (accountId : String) : Outcome Capacity :=
  match (accountTypes.get? accountId).bind capacityByAccountType with
  | none => .error (.valueError ("capacity requires an ownership account type for " ++ accountId))
  | some capacity => .ok capacity

/-- The capacity that one margin result leaves. -/
def projectAccount (digest : Margin.MarginResult N → String) (request : CapacityRequest N)
    (result : Margin.MarginResult N) : Outcome (AccountCapacity N) := do
  let (excess, initialRate) ← termsOf result
  let account ← accountOf request.accounts result.accountId
  let capacity ← capacityOf request.accountTypes result.accountId
  let buyingPower ← div (Arithmetic.max excess zero) initialRate
  Outcome.refuseIf (lt buyingPower zero) (.valueError "greater_than_equal")
  .ok {
    accountId := result.accountId
    capacity
    buyingPower
    marginExcess := excess
    marginResultDigest := digest result
    positions := account.positions.map fun position => (position.issue, position.quantity) }

/-- The capacities that the margin results leave. -/
def projectCapacity (digest : Margin.MarginResult N → String) (request : CapacityRequest N) :
    Outcome (AccountCapacityDocument N) := do
  let accounts ← Outcome.collect (projectAccount digest request) request.marginResults
  let document : AccountCapacityDocument N :=
    { asOf := request.asOf
      maximumAgeSeconds := request.maximumAgeSeconds
      journalDigest := request.journalDigest
      firmParticipantId := request.firmParticipantId
      accounts }
  document.check
  .ok document

end Atreides
