import Atreides.Acceptance.Candidate
import Atreides.Acceptance.Registry
import Atreides.CustomerProtection.Control
import Atreides.Foundation.Numeral
import Atreides.Foundation.Uuid
import Atreides.Messaging.Emit
import Atreides.Rails.CatoCash

/-!
# The acceptance of an obligation

An obligation arrives as a frozen envelope and the bytes of its payload. Every predicate is
applied to what the bytes parse to, the most severe answer becomes the record's disposition,
and an instruction is prepared only against a record that passed.

## Main definitions

* `SettlementObligationEnvelope`, `FrozenAcceptanceRecord` — the frozen boundary
* `requiredFields`, `unknownEnums`, `legLinkage`, `haltPredicate`, `funding`,
  `customerSellControl` — the predicates
* `evaluateCandidate` — the record of an obligation
* `prepareInstruction` — the instruction of an accepted obligation
-/

namespace Atreides

namespace Acceptance

open CustomerProtection (ControlResult)

/-! ## The boundary -/

/-- Whether the firm gives or takes the securities of an obligation. -/
inductive FirmSecuritiesDirection
  | deliver
  | receive
  deriving DecidableEq, Repr

/-- An obligation's frozen envelope, with the canonical bytes its own digest is taken of. -/
structure SettlementObligationEnvelope where
  obligationId : String
  payloadDigest : String
  firmSecuritiesDirection : FirmSecuritiesDirection
  businessDate : Date
  canonicalBytes : Bytes

/-- A place for a value that is recorded or said to be absent. -/
inductive Recording
  | recorded (value : String)
  | nothingRecorded (reason : String)
  deriving DecidableEq

/-- The answer to an obligation. -/
structure FrozenAcceptanceRecord where
  obligationId : String
  obligationDigest : String
  disposition : Disposition
  dsorRecord : Recording
  decidedBy : ActorRef
  provenance : Provenance
  deriving DecidableEq

/-- What the program calls and reads of the libraries it is built on. -/
structure Library where
  kernel : Kernel
  xml : XmlLibrary
  /-- the values of the delivery patterns, and the three that the predicates name -/
  deliveryPatterns : List String
  paymentOnly : String
  pvp : String
  fop : String
  /-- the values of the finality types -/
  finalityTypes : List String
  /-- the candidate that bytes parse to, where they parse to one -/
  modelValidateJson : Bytes → Option ObligationCandidate
  canonicalBytesOf : RegistryBody → Bytes

/-- A digest of plain letters: the algorithm's name, and a character for each byte. -/
def letterDigest (bytes : Bytes) : String :=
  "sha256:" ++ String.ofList (bytes.map fun b => Char.ofNat b.toNat)

/-- A library whose digests have no collisions and that parses every payload to one candidate. -/
def plainLibrary (c : ObligationCandidate) : Library where
  kernel := { plainKernel with digestBytes := letterDigest }
  xml := ⟨fun _ => some (.group "Document" []), fun _ => []⟩
  deliveryPatterns := ["DVP", "FOP", "PVP", "PAYMENT_ONLY"]
  paymentOnly := "PAYMENT_ONLY"
  pvp := "PVP"
  fop := "FOP"
  finalityTypes := ["ASSET_FINAL", "CASH_FINAL"]
  modelValidateJson _ := some c
  canonicalBytesOf body := List.replicate (64 - body.version.length) 48 ++
    body.version.toList.map fun c => UInt8.ofNat c.toNat

/-- The digest of an envelope. -/
def SettlementObligationEnvelope.digest (kernel : Kernel)
    (envelope : SettlementObligationEnvelope) : String :=
  kernel.digestBytes envelope.canonicalBytes

/-! ## Predicate results -/

/-- What one predicate answers. An answer that is no pass names a reason. -/
structure PredicateResult where
  predicate : String
  disposition : Disposition
  reasonCodes : List String
  detail : String
  named : disposition ≠ .pass → reasonCodes ≠ []

/-- An answer with one reason or more. -/
def result (name : String) (disposition : Disposition) (detail code : String)
    (codes : List String := []) : PredicateResult :=
  ⟨name, disposition, code :: codes, detail, fun _ => List.cons_ne_nil code codes⟩

def passed (name detail : String) : PredicateResult :=
  ⟨name, .pass, [], detail, fun h => absurd rfl h⟩

@[simp] theorem result_disposition {name detail code : String} {disposition : Disposition}
    {codes : List String} :
    (result name disposition detail code codes).disposition = disposition := rfl

@[simp] theorem passed_disposition {name detail : String} :
    (passed name detail).disposition = .pass := rfl

/-! ## Predicates on the payload alone -/

variable (library : Library)

/-- The fields of the securities leg that are absent. -/
def missingOfSecurities : Option SecuritiesLeg → List String
  | none => ["securities_leg"]
  | some leg =>
    (if leg.instrumentId.isNone then ["securities_leg.instrument_id"] else []) ++
    (if leg.quantity.isNone then ["securities_leg.quantity"] else []) ++
    (if leg.deliveringAccountId.isNone then ["securities_leg.delivering_account_id"] else []) ++
    (if leg.receivingAccountId.isNone then ["securities_leg.receiving_account_id"] else [])

/-- The fields of the cash leg that are absent. -/
def missingOfCash : Option CashLeg → List String
  | none => ["cash_leg"]
  | some leg =>
    (if leg.principal.isNone then ["cash_leg.principal"] else []) ++
    (if leg.accrued.isNone then ["cash_leg.accrued"] else []) ++
    (if leg.total.isNone then ["cash_leg.total"] else []) ++
    (if leg.currency.isNone then ["cash_leg.currency"] else []) ++
    (if leg.valueDate.isNone then ["cash_leg.value_date"] else []) ++
    (if leg.payingAccountId.isNone then ["cash_leg.paying_account_id"] else []) ++
    (if leg.receivingAccountId.isNone then ["cash_leg.receiving_account_id"] else [])

/-- The required fields that are absent. Which legs are required, the delivery pattern says. -/
def missingFields (c : ObligationCandidate) : List String :=
  (if (c.sourceManifest.all fun manifest => manifest.references.isEmpty) then
    ["source_manifest.references"] else []) ++
  (if c.deliveryPattern.isNone then ["delivery_pattern"] else []) ++
  (if c.participants.isEmpty then ["participants"] else []) ++
  (if c.candidatePaths.isEmpty then ["candidate_paths"] else []) ++
  (if c.deliveryPattern = some library.paymentOnly ∨ c.deliveryPattern = some library.pvp then []
    else
      missingOfSecurities c.securitiesLeg ++
        if c.expectedFinality.any (·.leg = "SECURITIES") then []
        else ["expected_finality.securities"]) ++
  (if c.deliveryPattern = some library.fop then []
    else
      missingOfCash c.cashLeg ++
        if c.expectedFinality.any (·.leg = "CASH") then [] else ["expected_finality.cash"])

def requiredFields (c : ObligationCandidate) : PredicateResult :=
  match missingFields library c with
  | [] => passed "required_fields_present" "Every required field is present."
  | item :: rest =>
    result "required_fields_present" .block
      ("Required fields absent: " ++ String.intercalate ", " (item :: rest) ++ ".")
      ("MISSING:" ++ item) (rest.map ("MISSING:" ++ ·))

/-- The fields whose value names no member of its vocabulary. -/
def unknownFields (c : ObligationCandidate) : List String :=
  (if c.deliveryPattern.all (· ∈ library.deliveryPatterns) then [] else ["delivery_pattern"]) ++
  (c.candidatePaths.zipIdx.filter fun path =>
      !path.1.deliveryPattern.all (· ∈ library.deliveryPatterns)).map
    (fun path => "candidate_paths[" ++ toString path.2 ++ "].delivery_pattern") ++
  (c.expectedFinality.zipIdx.filter fun expected =>
      !decide (expected.1.finalityType ∈ library.finalityTypes)).map
    (fun expected => "expected_finality[" ++ toString expected.2 ++ "].finality_type")

def unknownEnums (c : ObligationCandidate) : PredicateResult :=
  match unknownFields library c with
  | [] => passed "no_unknown_enums" "Every enum value names a member exactly."
  | item :: rest =>
    result "no_unknown_enums" .indeterminate
      ("Values name no enum member exactly: " ++ String.intercalate ", " (item :: rest) ++ ".")
      ("UNKNOWN_ENUM:" ++ item) (rest.map ("UNKNOWN_ENUM:" ++ ·))

/-- Whether each account that a leg states is an account of the obligation. -/
def linked (c : ObligationCandidate) (accounts : List (Option String)) : Bool :=
  accounts.all fun account => account.all fun id => c.participants.any (·.accountId = id)

/-- What of the legs and the paths is not linked. -/
def unlinked (c : ObligationCandidate) : List String :=
  (if linked c (c.securitiesLeg.elim [] fun leg =>
      [leg.deliveringAccountId, leg.receivingAccountId]) then []
    else ["LEG_ACCOUNT_MISMATCH:securities_leg"]) ++
  (if linked c (c.cashLeg.elim [] fun leg => [leg.payingAccountId, leg.receivingAccountId]) then []
    else ["LEG_ACCOUNT_MISMATCH:cash_leg"]) ++
  (if c.candidatePaths.any fun path =>
      path.deliveryPattern.isSome && path.deliveryPattern ≠ c.deliveryPattern then
    ["LEG_DELIVERY_PATTERN_MISMATCH:candidate_path"] else [])

def legLinkage (c : ObligationCandidate) : PredicateResult :=
  match unlinked c with
  | [] => passed "leg_linkage" "Leg accounts and candidate paths are linked."
  | code :: codes =>
    result "leg_linkage" .block
      "A leg account or candidate path is not linked to this obligation payload." code codes

/-! ## Predicates on what comes with it -/

/-- No halt covers the program. -/
def haltPredicate : Option HaltContext → PredicateResult
  | none => passed "halt_not_active" "No halt context supplied; none recorded as active."
  | some halt =>
    if library.kernel.gateUnderHalt halt .atreides = .block then
      result "halt_not_active" .hold
        ("Halt " ++ halt.haltId ++ " (version " ++ toString halt.version ++
          ") is active for Atreides.")
        "HALT_ACTIVE"
    else
      passed "halt_not_active"
        ("Halt context version " ++ toString halt.version ++ " does not block.")

/-- The two amounts are different numbers; an amount that is absent differs from every other. -/
def differs : Option Decimal → Decimal → Outcome Bool
  | none, _ => .ok true
  | some a, b => not <$> Decimal.eq a b

/-- The name of the predicate on the cash gate. -/
def fundingName : String := "funding_bound"

/-- The net obligation of a decision's funding state covers an amount. -/
def netObligationCovers (snapshot : List (String × String)) (total : Decimal) :
    Outcome PredicateResult :=
  match (Dict.ofPairs snapshot).get? "net_obligation" with
  | none =>
    .ok (result fundingName .indeterminate "Net obligation absent."
      "CASH_GATE_NET_OBLIGATION_MISSING")
  | some text => do
    -- a text that is no numeral is no lookup failure: its exception escapes
    let netObligation ← Decimal.ofText text
    if ← Decimal.lt netObligation total then
      .ok (result fundingName .hold "Net obligation does not cover cash total."
        "CASH_GATE_NET_OBLIGATION_INSUFFICIENT")
    else .ok (passed fundingName "Cato Cash PROCEED is bound to this frozen envelope.")

/-- A decision of the cash gate for this very envelope, against the cash leg. -/
def fundingOfLeg (decision : CatoCashDecision library.kernel) (total : Decimal)
    (currency : String) : Outcome PredicateResult := do
  if ← differs decision.evaluatedNotional total then
    .ok (result fundingName .indeterminate "Cash notional differs."
      "CASH_GATE_NOTIONAL_MISMATCH")
  else if decision.evaluatedCurrency ≠ some currency then
    .ok (result fundingName .indeterminate "Cash currency differs."
      "CASH_GATE_CURRENCY_MISMATCH")
  else netObligationCovers decision.fundingStateSnapshot total

/-- The total and the currency of a cash leg that states both. -/
def cashTerms (c : ObligationCandidate) : Option (Decimal × String) := do
  let cash ← c.cashLeg
  let total ← cash.total
  let currency ← cash.currency
  some (total, currency)

/-- The cash gate's decision governs the envelope and covers the cash leg. -/
def funding (envelope : SettlementObligationEnvelope) (c : ObligationCandidate)
    (envelopeDigest : String) (decision : Option (CatoCashDecision library.kernel)) :
    Outcome PredicateResult :=
  if c.deliveryPattern = some library.fop then
    .ok (passed fundingName "Free of payment: no cash gate decision applies.")
  else match decision with
  | none =>
    .ok (result fundingName .indeterminate "No cash decision." "CASH_GATE_DECISION_MISSING")
  | some decision =>
    if !decision.bound then
      .ok (result fundingName .indeterminate "Cash decision is unbound." "CASH_GATE_UNBOUND")
    else if decision.obligationId ≠ some envelope.obligationId then
      .ok (result fundingName .indeterminate "Other obligation." "CASH_GATE_OTHER_OBLIGATION")
    else if decision.obligationDigest ≠ some envelopeDigest then
      .ok (result fundingName .indeterminate "Stale envelope." "CASH_GATE_STALE_DIGEST")
    else if decision.decision ≠ .proceed then
      .ok (result fundingName .hold ("Cato Cash returned " ++ decision.decision.value ++ ".")
        ("CASH_GATE_" ++ decision.decision.value ++ ":" ++ decision.reasonCode.value))
    else match cashTerms c with
    | none =>
      .ok (result fundingName .indeterminate "Cash leg is absent." "CASH_GATE_CASH_LEG_MISSING")
    | some (total, currency) => fundingOfLeg library decision total currency

/-! ## Customer and proprietary-account-of-a-broker securities -/

/-- The name of the predicate on the securities the firm delivers. -/
def controlName : String := "customer_sell_possession_or_control"

/-- The control of securities that are not the firm's own. -/
def controlOfDelivery (envelope : SettlementObligationEnvelope) (c : ObligationCandidate)
    (leg : SecuritiesLeg) (delivered : FiniteDecimal) (capacity : String)
    (control : ControlResult) : PredicateResult :=
  let settles := envelope.businessDate.isoformat
  if c.cashLeg.any fun cash => cash.valueDate ≠ some settles then
    result controlName .hold "The cash value date is not the obligation's settlement business date."
      "SETTLEMENT_DATE_CONFLICT"
  else match control.issues.find? fun item => some item.issue = leg.instrumentId with
  | none =>
    result controlName .hold
      "The control result does not name this obligation's issue and settlement date."
      "CUSTOMER_CONTROL_UNBOUND"
  | some checked =>
    if leg.instrumentId = none ∨ control.asOf.isoformat ≠ settles then
      result controlName .hold
        "The control result does not name this obligation's issue and settlement date."
        "CUSTOMER_CONTROL_UNBOUND"
    else if control.disposition ≠ .pass then
      result controlName .hold
        (capacity ++ " securities are not established in possession or control.")
        "CUSTOMER_CONTROL_NOT_ESTABLISHED"
    else if checked.inControl.amount.lt delivered then
      result controlName .hold "Fewer securities are in control than the delivery requires."
        "CUSTOMER_CONTROL_INSUFFICIENT"
    else passed controlName (capacity ++ " securities are established in possession or control.")

/-- The securities the firm delivers are in control, unless they are the firm's own. -/
def customerSellControl (envelope : SettlementObligationEnvelope) (c : ObligationCandidate)
    (control : Option ControlResult) : PredicateResult :=
  if envelope.firmSecuritiesDirection ≠ .deliver then
    passed controlName "The firm receives securities; customer-sell control does not apply."
  else match c.securitiesLeg with
  | none =>
    passed controlName "No securities move under this obligation (for example a premium)."
  | some leg => match leg.quantity with
    | some (.finite delivered) =>
      if delivered.le 0 then
        result controlName .indeterminate
          "The delivery quantity is absent, not finite, or not positive."
          "DELIVERY_QUANTITY_INVALID"
      else match c.sellerCapacity with
      | none =>
        result controlName .hold "The payload does not state the delivering account's capacity."
          "CUSTOMER_SELL_CLASSIFICATION_MISSING"
      | some capacity =>
        if capacity ∉ sellerCapacities then
          result controlName .indeterminate "The payload states an unknown seller capacity."
            "SELLER_CAPACITY_UNKNOWN"
        else if c.accountCapacityDigest.isNone then
          result controlName .hold
            "The payload states a capacity but names no attested capacity document."
            "SELLER_CAPACITY_UNATTESTED"
        else if capacity = "PROPRIETARY" then
          passed controlName "The delivering account's capacity is PROPRIETARY."
        else match control with
        | none =>
          result controlName .hold "No possession-or-control result supplied."
            "CUSTOMER_CONTROL_EVIDENCE_MISSING"
        | some control => controlOfDelivery envelope c leg delivered capacity control
    | _ =>
      result controlName .indeterminate
        "The delivery quantity is absent, not finite, or not positive."
        "DELIVERY_QUANTITY_INVALID"

/-! ## The record -/

/-- The dispositions, the most severe first. -/
def severity : List Disposition := [.block, .indeterminate, .hold, .pass]

/-- The most severe of the answers. There always is one: the predicates are never none. -/
def mostSevere (results : List PredicateResult) : Disposition :=
  (severity.find? fun level => results.any (·.disposition = level)).getD .block

/-- The record of an answer. Only a pass is recorded in the store of records. -/
def frozenRecord (envelope : SettlementObligationEnvelope) (disposition : Disposition)
    (acceptanceId : Uuid) (decidedBy : ActorRef) (reasons : List String) :
    FrozenAcceptanceRecord where
  obligationId := envelope.obligationId
  obligationDigest := envelope.digest library.kernel
  disposition := disposition
  dsorRecord :=
    if disposition = .pass then .recorded ("atreides-acceptance:" ++ acceptanceId.text)
    else .nothingRecorded (if String.intercalate ";" reasons = "" then "ACCEPTANCE_NOT_RECORDED"
      else String.intercalate ";" reasons)
  decidedBy := decidedBy
  provenance := .policyResult

/-- What the other domains supply with an obligation. -/
structure Evidence where
  gateDecision : Option (CatoCashDecision library.kernel)
  halt : Option HaltContext
  customerControl : Option ControlResult := none

/-- The answers of every predicate. -/
def predicateResults (envelope : SettlementObligationEnvelope) (c : ObligationCandidate)
    (evidence : Evidence library) : Outcome (List PredicateResult) := do
  let funded ← funding library envelope c (envelope.digest library.kernel) evidence.gateDecision
  .ok [requiredFields library c, unknownEnums library c, legLinkage c,
    haltPredicate library evidence.halt, funded,
    customerSellControl envelope c evidence.customerControl]

/-- Verify the attested bytes, parse them, then apply every predicate. -/
def evaluateCandidate (envelope : SettlementObligationEnvelope) (payload : Bytes)
    (acceptanceId : Uuid) (evaluatedAt : Timestamp) (decidedBy : ActorRef)
    (evidence : Evidence library) : Outcome FrozenAcceptanceRecord :=
  let refusal := fun reason =>
    frozenRecord library envelope .block acceptanceId decidedBy [reason]
  if evaluatedAt.utcOffset = none then
    .error (.valueError "evaluated_at must be timezone-aware")
  else if library.kernel.digestBytes payload ≠ envelope.payloadDigest then
    .ok (refusal "PAYLOAD_DIGEST_MISMATCH")
  else match library.modelValidateJson payload with
  | none => .ok (refusal "PAYLOAD_INVALID")
  | some c => do
    let results ← predicateResults library envelope c evidence
    .ok (frozenRecord library envelope (mostSevere results) acceptanceId decidedBy
      (results.flatMap PredicateResult.reasonCodes))

/-! ## The instruction -/

/-- Nothing is prepared, and why. -/
def refusedPreparation (reason : String) : PyError := .refused "PreparationRefusedError" reason

/-- The acceptance record is a pass, for this very envelope. -/
def checkAcceptance (envelope : SettlementObligationEnvelope) :
    Option FrozenAcceptanceRecord → Outcome Unit
  | none => .error (refusedPreparation "No acceptance record; nothing is prepared (ATR-I-01).")
  | some acceptance => do
    Outcome.refuseIf (acceptance.disposition ≠ .pass)
      (refusedPreparation ("Acceptance disposition is " ++ acceptance.disposition.value ++
        ", not PASS; nothing is prepared (ATR-I-01)."))
    Outcome.refuseIf (acceptance.obligationId ≠ envelope.obligationId)
      (refusedPreparation
        "Acceptance record names another obligation; nothing is prepared (ATR-I-01).")
    Outcome.refuseIf (acceptance.obligationDigest ≠ envelope.digest library.kernel)
      (refusedPreparation ("Acceptance record does not reference this envelope digest; " ++
        "nothing is prepared (ATR-I-01)."))

/-- The candidate of the payload's bytes. -/
def parsePayload (payload : Bytes) : Outcome ObligationCandidate :=
  match library.modelValidateJson payload with
  | none => .error (.refused "ValidationError" "ObligationCandidate")
  | some c => .ok c

/-- The instruction carries the amount and the currency of the cash leg. -/
def checkTerms (c : ObligationCandidate) (instruction : CashLegInstruction) : Outcome Unit :=
  match cashTerms c with
  | none => .error (refusedPreparation "INSTRUCTION_UNBOUND: cash leg is absent.")
  | some (total, currency) => do
    let same ← Decimal.eq instruction.amount total
    Outcome.refuseIf (¬ same) (refusedPreparation "INSTRUCTION_AMOUNT_MISMATCH")
    Outcome.refuseIf (instruction.currency ≠ currency)
      (refusedPreparation "INSTRUCTION_CURRENCY_MISMATCH")

/-- The registry is the version the obligation names. -/
def checkRegistry (c : ObligationCandidate) :
    Option ParticipantRegistry → Outcome ParticipantRegistry
  | none =>
    .error (refusedPreparation "INSTRUCTION_UNBOUND: participant registry is absent.")
  | some registry => do
    Outcome.refuseIf c.participantRegistryDigest.isNone
      (refusedPreparation
        "INSTRUCTION_UNBOUND: the obligation does not name a participant registry.")
    Outcome.refuseIf
      (some (registry.digest library.kernel library.canonicalBytesOf) ≠
        c.participantRegistryDigest)
      (refusedPreparation ("PARTICIPANT_REGISTRY_MISMATCH: the registry is not the version " ++
        "the obligation names."))
    .ok registry

/-- The parties are the institutions behind the cash accounts, and not one and the same. -/
def checkParties (c : ObligationCandidate) (registry : ParticipantRegistry)
    (instruction : CashLegInstruction) : Outcome Unit :=
  match registry.institution (c.cashLeg.bind CashLeg.payingAccountId),
      registry.institution (c.cashLeg.bind CashLeg.receivingAccountId) with
  | some payer, some receiver => do
    Outcome.refuseIf (instruction.debtor ≠ payer ∨ instruction.creditor ≠ receiver)
      (refusedPreparation "INSTRUCTION_PARTY_MISMATCH")
    Outcome.refuseIf (instruction.debtor.bicfi = instruction.creditor.bicfi)
      (refusedPreparation "INSTRUCTION_PARTY_MISMATCH: debtor equals creditor.")
  | _, _ => .error (refusedPreparation "INSTRUCTION_UNBOUND: account-to-BIC mapping is absent.")

/-- What an instruction is prepared from, beside the obligation and its record. -/
structure Preparation where
  instruction : CashLegInstruction
  profile : DepositoryProfile := baseIso20022
  halt : Option HaltContext := none
  participantRegistry : Option ParticipantRegistry := none

/-- Emit the instruction, and read both messages back as trees. -/
def emitReadable (preparation : Preparation) : Outcome InstructionArtifact := do
  let artifact ← emitInstructionArtifact library.kernel library.xml preparation.instruction
    preparation.profile preparation.halt
  Outcome.refuseIf
    ((library.xml.fromstring artifact.headerXml).isNone ∨
      (library.xml.fromstring artifact.documentXml).isNone)
    (refusedPreparation "INSTRUCTION_XML_INVALID")
  .ok artifact

/-- What is checked of the instruction against the payload, and the artifact. -/
def instructionOf (c : ObligationCandidate) (preparation : Preparation) :
    Outcome InstructionArtifact := do
  checkTerms c preparation.instruction
  let registry ← checkRegistry library c preparation.participantRegistry
  checkParties c registry preparation.instruction
  emitReadable library preparation

/-- Prepare only from payload bytes that were attested and accepted. -/
def prepareInstruction (envelope : SettlementObligationEnvelope) (payload : Bytes)
    (acceptance : Option FrozenAcceptanceRecord) (preparation : Preparation) :
    Outcome InstructionArtifact := do
  Outcome.refuseIf (library.kernel.digestBytes payload ≠ envelope.payloadDigest)
    (refusedPreparation "Payload does not match the frozen envelope (PAYLOAD_DIGEST_MISMATCH).")
  checkAcceptance library envelope acceptance
  let c ← parsePayload library payload
  instructionOf library c preparation

/-! ## What a pass means -/

variable {library} {envelope : SettlementObligationEnvelope} {payload : Bytes}
  {acceptanceId : Uuid} {evaluatedAt : Timestamp} {decidedBy : ActorRef}
  {evidence : Evidence library} {c : ObligationCandidate} {record : FrozenAcceptanceRecord}
  {preparation : Preparation} {artifact : InstructionArtifact}

theorem requiredFields_pass_iff :
    (requiredFields library c).disposition = .pass ↔ missingFields library c = [] := by
  rw [requiredFields]
  cases missingFields library c <;> simp

theorem unknownEnums_pass_iff :
    (unknownEnums library c).disposition = .pass ↔ unknownFields library c = [] := by
  rw [unknownEnums]
  cases unknownFields library c <;> simp

theorem legLinkage_pass_iff : (legLinkage c).disposition = .pass ↔ unlinked c = [] := by
  rw [legLinkage]
  cases unlinked c <;> simp

/-- No halt is supplied that the kernel says blocks the program. -/
def Running (library : Library) (halt : Option HaltContext) : Prop :=
  ∀ context, halt = some context → library.kernel.gateUnderHalt context .atreides ≠ .block

theorem haltPredicate_pass_iff {halt : Option HaltContext} :
    (haltPredicate library halt).disposition = .pass ↔ Running library halt := by
  cases halt with
  | none =>
    refine ⟨fun _ context h => ?_, fun _ => rfl⟩
    cases h
  | some context =>
    rw [haltPredicate]
    split_ifs with hblock
    · constructor
      · intro h
        cases h
      · intro h
        exact absurd hblock (h context rfl)
    · refine ⟨fun _ other h => ?_, fun _ => rfl⟩
      cases h
      exact hblock

/-- A most severe answer is a pass when every answer is one. -/
theorem mostSevere_eq_pass_iff {results : List PredicateResult} :
    mostSevere results = .pass ↔ results ≠ [] ∧ ∀ r ∈ results, r.disposition = .pass := by
  constructor
  · intro h
    have hnone : ∀ level, level ≠ .pass → (results.any (·.disposition = level)) = true →
        mostSevere results ≠ .pass := by
      intro level hlevel hany
      -- whatever the level, the search ends at it or before it, and so before the last one
      rw [mostSevere, severity]
      cases level with
      | pass => exact absurd rfl hlevel
      | block => simp [hany]
      | indeterminate => by_cases hb : results.any (·.disposition = .block) <;> simp [hany, hb]
      | hold =>
        by_cases hb : results.any (·.disposition = .block) <;>
          by_cases hi : results.any (·.disposition = .indeterminate) <;> simp [hany, hb, hi]
    refine ⟨?_, fun r hr => ?_⟩
    · rintro rfl
      cases h
    · by_contra hlevel
      exact hnone r.disposition hlevel (List.any_eq_true.mpr ⟨r, hr, by simp⟩) h
  · intro ⟨hne, hall⟩
    have hother : ∀ level, level ≠ .pass → results.any (·.disposition = level) = false := by
      intro level hlevel
      rw [List.any_eq_false]
      intro r hr
      rw [hall r hr]
      simp [Ne.symm hlevel]
    have hpass : results.any (·.disposition = .pass) = true := by
      obtain ⟨r, hr⟩ := List.exists_mem_of_ne_nil results hne
      exact List.any_eq_true.mpr ⟨r, hr, by simp [hall r hr]⟩
    rw [mostSevere, severity, List.find?_cons_of_neg (by simp [hother]),
      List.find?_cons_of_neg (by simp [hother]), List.find?_cons_of_neg (by simp [hother]),
      List.find?_cons_of_pos (by simpa using hpass)]
    rfl

/-- What an obligation and its evidence are accepted for, but for the cash gate. -/
structure Acceptable (library : Library) (envelope : SettlementObligationEnvelope)
    (payload : Bytes) (evidence : Evidence library) (c : ObligationCandidate) : Prop where
  attested : library.kernel.digestBytes payload = envelope.payloadDigest
  parsed : library.modelValidateJson payload = some c
  complete : missingFields library c = []
  known : unknownFields library c = []
  linked : unlinked c = []
  running : Running library evidence.halt
  controlled : (customerSellControl envelope c evidence.customerControl).disposition = .pass

/-- The cash gate's predicate passes. -/
def Funded (library : Library) (envelope : SettlementObligationEnvelope)
    (evidence : Evidence library) (c : ObligationCandidate) : Prop :=
  ∃ funded, funding library envelope c (envelope.digest library.kernel) evidence.gateDecision =
    .ok funded ∧ funded.disposition = .pass

/-- A record names the envelope it was made for. -/
theorem evaluateCandidate_names
    (h : evaluateCandidate library envelope payload acceptanceId evaluatedAt decidedBy evidence =
      .ok record) :
    record.obligationId = envelope.obligationId ∧
      record.obligationDigest = envelope.digest library.kernel := by
  rw [evaluateCandidate.eq_def] at h
  split_ifs at h with htime hdigest
  · cases h
    exact ⟨rfl, rfl⟩
  · split at h
    · cases h
      exact ⟨rfl, rfl⟩
    · obtain ⟨results, -, hrecord⟩ := Outcome.bind_eq_ok.mp h
      cases hrecord
      exact ⟨rfl, rfl⟩

/-- An obligation is accepted exactly where every predicate passes on its attested payload. -/
theorem evaluateCandidate_passes_iff :
    (∃ record, evaluateCandidate library envelope payload acceptanceId evaluatedAt decidedBy
        evidence = .ok record ∧ record.disposition = .pass) ↔
      evaluatedAt.utcOffset ≠ none ∧
        ∃ c, Acceptable library envelope payload evidence c ∧
          Funded library envelope evidence c := by
  rw [evaluateCandidate.eq_def]
  dsimp only
  split_ifs with htime hdigest
  · simp [htime]
  · constructor
    · rintro ⟨record, h, hpass⟩
      cases h
      cases hpass
    · rintro ⟨-, c, hacceptable, -⟩
      exact absurd hacceptable.attested hdigest
  · rw [not_not] at hdigest
    cases hparsed : library.modelValidateJson payload with
    | none =>
      constructor
      · rintro ⟨record, h, hpass⟩
        cases h
        cases hpass
      · rintro ⟨-, c, hacceptable, -⟩
        cases hparsed.symm.trans hacceptable.parsed
    | some c =>
      constructor
      · rintro ⟨record, h, hpass⟩
        obtain ⟨results, hresults, hrecord⟩ := Outcome.bind_eq_ok.mp h
        cases hrecord
        obtain ⟨funded, hfunded, hlist⟩ := Outcome.bind_eq_ok.mp hresults
        cases hlist
        have hall := (mostSevere_eq_pass_iff.mp hpass).2
        simp only [List.forall_mem_cons, requiredFields_pass_iff, unknownEnums_pass_iff,
          legLinkage_pass_iff, haltPredicate_pass_iff] at hall
        obtain ⟨hcomplete, hknown, hlinked, hrunning, hpassed, hcontrolled, -⟩ := hall
        exact ⟨htime, c, ⟨hdigest, hparsed, hcomplete, hknown, hlinked, hrunning, hcontrolled⟩,
          funded, hfunded, hpassed⟩
      · rintro ⟨-, c', hacceptable, funded, hfunded, hpassed⟩
        cases hparsed.symm.trans hacceptable.parsed
        have hresults : predicateResults library envelope c evidence =
            .ok [requiredFields library c, unknownEnums library c, legLinkage c,
              haltPredicate library evidence.halt, funded,
              customerSellControl envelope c evidence.customerControl] :=
          Outcome.bind_eq_ok.mpr ⟨funded, hfunded, rfl⟩
        refine ⟨_, Outcome.bind_eq_ok.mpr ⟨_, hresults, rfl⟩, ?_⟩
        apply mostSevere_eq_pass_iff.mpr
        simp only [List.forall_mem_cons, requiredFields_pass_iff, unknownEnums_pass_iff,
          legLinkage_pass_iff, haltPredicate_pass_iff]
        exact ⟨List.cons_ne_nil _ _, hacceptable.complete, hacceptable.known, hacceptable.linked,
          hacceptable.running, hpassed, hacceptable.controlled, by simp⟩

end Acceptance

end Atreides
