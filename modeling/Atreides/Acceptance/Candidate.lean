import Atreides.Contracts.Operation
import Atreides.Foundation.Decimal.Basic

/-!
# Obligation candidates

What the bytes of a settlement obligation's payload parse to. Almost every field may be
missing: what a payload has to state is for the predicates to say, not for the parse. The
texts a field does state keep the pattern of the field.

## Main definitions

* `SecuritiesLeg`, `CashLeg`, `Participant`, `CandidatePathDescriptor`, `ExpectedFinality`
* `ObligationCandidate` — the parsed payload
* `sellerCapacities` — the capacities a delivering account can have
-/

namespace Atreides

/-- The text is a digest with its algorithm. -/
def isPayloadDigest (text : String) : Bool :=
  text.toList.take 7 = "sha256:".toList && isSha256Hex (String.ofList (text.toList.drop 7))

/-- A digest that is not stated is not ill-formed. -/
theorem no_digest : (none : Option String).all isPayloadDigest = true := rfl

/-- The text is a year, a month and a day as numbers. -/
def isIsoDate (text : String) : Bool :=
  match text.toList.splitOn '-' with
  | [year, month, day] =>
    (year.length = 4 && month.length = 2 && day.length = 2) &&
      (year ++ month ++ day).all isDecimalDigit
  | _ => false

/-- The capacities of an account that delivers securities. -/
def sellerCapacities : List String := ["CUSTOMER", "PAB", "PROPRIETARY"]

/-! ## Sources and participants -/

/-- A document the obligation was formed from. -/
@[ext]
structure SourceReference where
  kind : String
  identifier : String
  digest : String
  kind_nonempty : kind ≠ "" := by decide
  identifier_nonempty : identifier ≠ "" := by decide
  digest_wellFormed : isPayloadDigest digest = true := by decide

structure SourceManifest where
  references : List SourceReference := []

/-- An account of the obligation and who stands behind it. -/
@[ext]
structure Participant where
  participantId : String
  accountId : String
  role : String
  participantId_nonempty : participantId ≠ "" := by decide
  accountId_nonempty : accountId ≠ "" := by decide
  role_nonempty : role ≠ "" := by decide

/-! ## Legs and paths -/

structure SecuritiesLeg where
  instrumentId : Option String := none
  quantity : Option Decimal := none
  deliveringAccountId : Option String := none
  receivingAccountId : Option String := none

structure CashLeg where
  principal : Option Decimal := none
  accrued : Option Decimal := none
  total : Option Decimal := none
  currency : Option String := none
  valueDate : Option String := none
  payingAccountId : Option String := none
  receivingAccountId : Option String := none
  valueDate_wellFormed : valueDate.all isIsoDate = true := by decide

/-- A path the obligation could settle on. -/
structure CandidatePathDescriptor where
  pathId : String
  rail : String
  securitiesRoute : String
  cashRoute : String
  deliveryPattern : Option String := none
  pathId_nonempty : pathId ≠ "" := by decide
  rail_nonempty : rail ≠ "" := by decide
  securitiesRoute_nonempty : securitiesRoute ≠ "" := by decide
  cashRoute_nonempty : cashRoute ≠ "" := by decide

/-- The finality the obligation expects of a leg. -/
structure ExpectedFinality where
  leg : String
  finalityType : String
  governingRuleSet : String
  governingRuleSet_nonempty : governingRuleSet ≠ "" := by decide

/-! ## The payload -/

/-- The parsed payload of an obligation. -/
structure ObligationCandidate where
  sourceManifest : Option SourceManifest := none
  securitiesLeg : Option SecuritiesLeg := none
  cashLeg : Option CashLeg := none
  participants : List Participant := []
  deliveryPattern : Option String := none
  candidatePaths : List CandidatePathDescriptor := []
  expectedFinality : List ExpectedFinality := []
  /-- the capacity of the delivering account -/
  sellerCapacity : Option String := none
  /-- the digest of the attested document the capacity was read from -/
  accountCapacityDigest : Option String := none
  /-- the digest of the registry the obligation was formed against -/
  participantRegistryDigest : Option String := none
  accountCapacityDigest_wellFormed : accountCapacityDigest.all isPayloadDigest = true := by decide
  participantRegistryDigest_wellFormed :
    participantRegistryDigest.all isPayloadDigest = true := by decide

end Atreides
