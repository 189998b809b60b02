import Mathlib.Data.Prod.Lex
import Mathlib.Data.String.Basic
import Atreides.Foundation.Date
import Atreides.Foundation.Grouping
import Atreides.Foundation.SortedSet
import Atreides.Kernel

/-!
# Novation and netting

Novated obligations of one clearing member are netted by member, security and settlement date.
A request is netted where its access is established, every obligation is the member's, and no
position mixes currencies; what is attested is the document with the obligations and their net
positions, as bytes.

Amounts are added in the ambient decimal arithmetic, in the order the obligations come.

## Main definitions

* `AccessDetermination`, `NovatedObligation`, `FiccGsdNettingRequest` — what is asked
* `net` — the net positions
* `produceFiccGsdResult` — the result of a request
-/

namespace Atreides

namespace Clearing

open DecimalContext (ambient)

/-! ## Access -/

/-- The access relationships. -/
inductive AccessPath
  | direct
  | sponsored
  | agent
  deriving DecidableEq, Repr

def AccessPath.value : AccessPath → String
  | direct => "FICC_DIRECT"
  | sponsored => "FICC_SPONSORED"
  | agent => "FICC_AGENT"

/-- Through whose membership a party acts. -/
structure AccessArrangement where
  path : AccessPath
  clearingMemberId : String
  ruleSetVersion : String
  processingCalendarId : String
  deriving DecidableEq

/-- An established arrangement, or the reason it is not established. -/
inductive AccessDetermination
  | established (arrangement : AccessArrangement)
  | indeterminate (reason : String)
  deriving DecidableEq

/-! ## Facts -/

inductive ClearingAgency
  | ficcGsd
  | cmeSecuritiesClearing
  deriving DecidableEq, Repr

inductive EvidenceStage
  | clearingAcceptance
  | novation
  | netting
  | settlementInstruction
  | settlementFinality
  deriving DecidableEq, Repr

def EvidenceStage.value : EvidenceStage → String
  | clearingAcceptance => "CLEARING_ACCEPTANCE"
  | novation => "NOVATION"
  | netting => "NETTING"
  | settlementInstruction => "SETTLEMENT_INSTRUCTION"
  | settlementFinality => "SETTLEMENT_FINALITY"

/-- The stages, in order. -/
def evidenceStages : List EvidenceStage :=
  [.clearingAcceptance, .novation, .netting, .settlementInstruction, .settlementFinality]

/-- One fact: recorded under an identifier, or not recorded for a reason. -/
inductive FactStatus
  | recorded (evidenceId : String) (named : evidenceId ≠ "")
  | notRecorded (reason : String) (reasoned : reason ≠ "")

instance : DecidableEq FactStatus
  | .recorded a _, .recorded b _ => decidable_of_iff (a = b) (by simp)
  | .notRecorded a _, .notRecorded b _ => decidable_of_iff (a = b) (by simp)
  | .recorded .., .notRecorded .. => .isFalse (by simp)
  | .notRecorded .., .recorded .. => .isFalse (by simp)

/-- A fact about one stage. It establishes no other. -/
structure EvidenceFact where
  stage : EvidenceStage
  status : FactStatus
  deriving DecidableEq

/-- A recorded fact. -/
def EvidenceFact.record (stage : EvidenceStage) (evidenceId : String) : Outcome EvidenceFact :=
  if h : evidenceId = "" then
    .error (.refused "ValidationError" "RECORDED requires evidence_id and no absence reason")
  else .ok ⟨stage, .recorded evidenceId h⟩

/-- A fact that is recorded where there is evidence. -/
def fact (stage : EvidenceStage) (evidenceId : Option String) (absentReason : String)
    (reasoned : absentReason ≠ "" := by decide) : Outcome EvidenceFact :=
  match evidenceId with
  | some evidenceId => EvidenceFact.record stage evidenceId
  | none => .ok ⟨stage, .notRecorded absentReason reasoned⟩

/-! ## Obligations -/

/-- Nine digits, capital letters and three other characters. -/
def isCusip (text : String) : Bool :=
  text.length = 9 && text.toList.all fun c =>
    c.isDigit || ('A' ≤ c && c ≤ 'Z') || c = '*' || c = '@' || c = '#'

/-- Three capital letters. -/
def isCurrency (text : String) : Bool :=
  text.length = 3 && text.toList.all fun c => 'A' ≤ c && c ≤ 'Z'

/-- One obligation, before it is checked. -/
structure NovatedObligationFields where
  obligationId : String
  tradeIds : List String
  memberId : String
  cusip : String
  settlementDate : Date
  signedQuantity : FiniteDecimal
  signedSettlementAmount : FiniteDecimal
  settlementCurrency : String
  novationEvidenceId : String
  deriving DecidableEq

def NovatedObligationFields.check (o : NovatedObligationFields) : Outcome Unit := do
  Outcome.refuseIf (o.obligationId = "" ∨ o.tradeIds = [] ∨ o.memberId = "" ∨
      o.novationEvidenceId = "" ∨ !isCusip o.cusip ∨ !isCurrency o.settlementCurrency)
    (.refused "ValidationError" "NovatedObligation")
  Outcome.refuseIf o.signedQuantity.isZero
    (.refused "ValidationError" "a novated obligation cannot have zero quantity")
  Outcome.refuseIf o.signedSettlementAmount.isZero
    (.refused "ValidationError" "a DvP obligation cannot have zero settlement amount")
  let product ← FiniteDecimal.mul ambient o.signedQuantity o.signedSettlementAmount
  Outcome.refuseIf (FiniteDecimal.lt 0 product)
    (.refused "ValidationError" "security and money legs must have opposite signs")
  Outcome.refuseIf (¬ o.tradeIds.Nodup)
    (.refused "ValidationError" "trade_ids must be unique within an obligation")

/-- One novated obligation before netting. -/
@[ext]
structure NovatedObligation extends NovatedObligationFields where
  checked : toNovatedObligationFields.check = .ok ()

instance : DecidableEq NovatedObligation :=
  fun _ _ => decidable_of_iff _ NovatedObligation.ext_iff.symm

def NovatedObligation.create (o : NovatedObligationFields) : Outcome NovatedObligation :=
  match h : o.check with
  | .error e => .error e
  | .ok () => .ok ⟨o, h⟩

/-- What obligations are netted by. -/
@[ext]
structure PositionKey where
  memberId : String
  cusip : String
  settlementDate : Date
  deriving DecidableEq

/-- Keys are ordered by member, then by security, then by date. -/
def PositionKey.place (key : PositionKey) : String ×ₗ String ×ₗ ℕ :=
  toLex (key.memberId, toLex (key.cusip, key.settlementDate.ordinal))

theorem PositionKey.place_injective : Function.Injective PositionKey.place := by
  intro a b h
  simp only [place, EmbeddingLike.apply_eq_iff_eq, Prod.mk.injEq] at h
  obtain ⟨hmember, hcusip, hdate⟩ := h
  apply PositionKey.ext hmember hcusip
  exact Date.ext_ordinal hdate

instance : LinearOrder PositionKey := LinearOrder.lift' PositionKey.place PositionKey.place_injective

def NovatedObligation.key (o : NovatedObligation) : PositionKey :=
  ⟨o.memberId, o.cusip, o.settlementDate⟩

/-- The obligation to settle after netting. -/
structure NetSettlementObligation where
  memberId : String
  cusip : String
  settlementDate : Date
  netQuantity : FiniteDecimal
  netSettlementAmount : FiniteDecimal
  settlementCurrency : String
  sourceObligationIds : List String
  sourceTradeIds : List String
  deriving DecidableEq

def NetSettlementObligation.key (n : NetSettlementObligation) : PositionKey :=
  ⟨n.memberId, n.cusip, n.settlementDate⟩

/-! ## Netting -/

/-- The net position of the obligations under one key, which are not none. Its currency is that
of the first. -/
def netPosition (key : PositionKey) (members : List NovatedObligation) :
    Outcome NetSettlementObligation := do
  let netQuantity ← FiniteDecimal.sum ambient 0 (members.map fun o => o.signedQuantity)
  let netSettlementAmount ←
    FiniteDecimal.sum ambient 0 (members.map fun o => o.signedSettlementAmount)
  match members.head? with
  | none => .error (.runtimeError "list index out of range")
  | some first =>
    .ok
      { memberId := key.memberId
        cusip := key.cusip
        settlementDate := key.settlementDate
        netQuantity
        netSettlementAmount
        settlementCurrency := first.settlementCurrency
        sourceObligationIds := sorted (members.map fun o => o.obligationId)
        sourceTradeIds := sorted (members.flatMap fun o => o.tradeIds) }

/-- The net positions, in the order of their keys. -/
def net (obligations : List NovatedObligation) : Outcome (List NetSettlementObligation) :=
  let grouped := Dict.groupBy NovatedObligation.key obligations
  Outcome.collect (fun key => netPosition key (grouped.getD key [])) (sortedSet grouped.keys)

/-! ## Requests and results -/

/-- What is asked to be netted, before it is checked. -/
structure FiccGsdNettingFields where
  clearingAgency : ClearingAgency
  access : AccessDetermination
  obligations : List NovatedObligation
  clearingAcceptanceEvidenceId : String
  nettingEvidenceId : String
  settlementInstructionEvidenceId : Option String := none
  settlementFinalityEvidenceId : Option String := none

/-- An optional text that is there and not empty. -/
def isStated (text : Option String) : Bool := text.any (· ≠ "")

def FiccGsdNettingFields.check (request : FiccGsdNettingFields) : Outcome Unit := do
  Outcome.refuseIf (request.obligations = [] ∨ request.clearingAcceptanceEvidenceId = "" ∨
      request.nettingEvidenceId = "")
    (.refused "ValidationError" "FiccGsdNettingRequest")
  Outcome.refuseIf (¬ (request.obligations.map fun o => o.obligationId).Nodup)
    (.refused "ValidationError" "obligation_id must be unique")
  Outcome.refuseIf (isStated request.settlementFinalityEvidenceId ∧
      ¬ isStated request.settlementInstructionEvidenceId)
    (.refused "ValidationError" "finality evidence cannot appear without instruction evidence")

structure FiccGsdNettingRequest extends FiccGsdNettingFields where
  checked : toFiccGsdNettingFields.check = .ok ()

/-- What is attested. -/
structure FiccGsdNettingDocument where
  clearingAgency : ClearingAgency
  observedMemberId : String
  accessPath : String
  ruleSetVersion : String
  processingCalendarId : String
  facts : List EvidenceFact
  novatedObligations : List NovatedObligation
  netSettlementObligations : List NetSettlementObligation

/-- What is stated of the bytes. -/
structure FiccGsdResultHeader where
  payloadDigest : String
  clearingAgency : ClearingAgency
  deriving DecidableEq

/-- The attested bytes, or why there are none. -/
inductive FiccGsdResult
  | established (header : FiccGsdResultHeader) (payload : Bytes)
  | indeterminate (reason : String)
  deriving DecidableEq

/-- The facts of a request. -/
def FiccGsdNettingRequest.facts (request : FiccGsdNettingRequest) :
    Outcome (List EvidenceFact) := do
  let novationIds := sortedSet (request.obligations.map fun o => o.novationEvidenceId)
  let acceptance ← fact .clearingAcceptance (some request.clearingAcceptanceEvidenceId)
    "clearing acceptance was not recorded"
  let novation ← fact .novation (some (String.intercalate "," novationIds))
    "novation was not recorded"
  let netting ← fact .netting (some request.nettingEvidenceId) "netting was not recorded"
  let instruction ← fact .settlementInstruction request.settlementInstructionEvidenceId
    "settlement instruction was not recorded"
  let finality ← fact .settlementFinality request.settlementFinalityEvidenceId
    "settlement finality was not recorded"
  .ok [acceptance, novation, netting, instruction, finality]

/-- Some position mixes currencies. -/
def mixesCurrencies (obligations : List NovatedObligation) : Bool :=
  (Dict.groupBy NovatedObligation.key obligations).values.any fun members =>
    (members.map fun o => o.settlementCurrency).dedup.length ≠ 1

/-- The document of an established arrangement. -/
def nettingDocument (request : FiccGsdNettingRequest) (arrangement : AccessArrangement) :
    Outcome FiccGsdNettingDocument := do
  let facts ← request.facts
  let netSettlementObligations ← net request.obligations
  .ok
    { clearingAgency := request.clearingAgency
      observedMemberId := arrangement.clearingMemberId
      accessPath := arrangement.path.value
      ruleSetVersion := arrangement.ruleSetVersion
      processingCalendarId := arrangement.processingCalendarId
      facts
      novatedObligations := request.obligations
      netSettlementObligations }

/-- Assess the access and net. The canonical bytes of a document are the kernel's. -/
def produceFiccGsdResult (kernel : Kernel) (canonicalBytes : FiccGsdNettingDocument → Bytes)
    (request : FiccGsdNettingRequest) : Outcome FiccGsdResult :=
  if request.clearingAgency = .cmeSecuritiesClearing then
    .ok (.indeterminate "clearing agency declared, rules not built")
  else
    match request.access with
    | .indeterminate reason =>
      .ok (.indeterminate ("FICC GSD access is indeterminate: " ++ reason))
    | .established arrangement =>
      let memberIds := sortedSet (request.obligations.map fun o => o.memberId)
      if memberIds ≠ [arrangement.clearingMemberId] then
        .ok (.indeterminate <| "member-seat result requires every obligation to belong to " ++
          "clearing member " ++ arrangement.clearingMemberId ++ "; received " ++
          String.intercalate "," memberIds)
      else if mixesCurrencies request.obligations then
        .ok (.indeterminate <| "one member/CUSIP/settlement-date position cannot mix " ++
          "settlement currencies")
      else do
        let document ← nettingDocument request arrangement
        let payload := canonicalBytes document
        .ok (.established ⟨kernel.digestBytes payload, request.clearingAgency⟩ payload)

end Clearing

end Atreides
