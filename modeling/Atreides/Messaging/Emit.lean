import Atreides.Foundation.Text
import Atreides.Messaging.Canonical
import Atreides.Messaging.Xml

/-!
# Emitting an instruction

The canonical instruction as the messages a network reads: a header and a document, prepared
for the member to submit and never a submission. What a venue constrains is a profile.

## Main definitions

* `DepositoryProfile` — the message identifiers a venue expects
* `businessApplicationHeader`, `fiCreditTransfer` — the two trees of an instruction
* `InstructionArtifact` — the prepared package
* `emitInstructionArtifact` — the package of an instruction, unless a halt is active
-/

namespace Atreides

/-! ## Profiles -/

/-- What a venue constrains, as far as a message is written from it. -/
structure DepositoryProfile where
  name : String
  fiCreditTransferName : String := "pacs.009.001.13"
  businessApplicationHeaderName : String := "head.001.001.04"
  businessService : Option String := none
  verifiedAgainstPublishedSpec : Bool := false
  deriving DecidableEq

/-- The base standard, as published. -/
def baseIso20022 : DepositoryProfile where
  name := "base-iso20022"
  verifiedAgainstPublishedSpec := true

/-! ## Messages -/

/-- The namespace of a message definition. -/
def messageNamespace (definition : String) : String :=
  "urn:iso:std:iso:20022:tech:xsd:" ++ definition

/-- A decimal in plain notation, with its scale. -/
def FiniteDecimal.plainText (d : FiniteDecimal) : String :=
  let digits := toString d.coefficient
  let place : ℤ :=
    if d.coefficient = 0 ∧ 0 < d.exponent then digits.length else d.exponent + digits.length
  (if d.negative then "-" else "") ++ pointedDigits digits place

/-- An amount as the message carries it. An instruction's amount is always finite. -/
def fmtAmount : Decimal → String
  | .finite d => FiniteDecimal.plainText d
  | amount => amount.text

/-- A party, with the identifier the schema needs and its name where it has one. -/
def fiElement (tag : String) (fi : FinancialInstitution) : XmlElement :=
  .group tag [.group "FinInstnId"
    (.leaf "BICFI" fi.bicfi :: (fi.name.map (XmlElement.leaf "Nm")).toList)]

/-- A sender or receiver in the header. -/
def headerParty (tag : String) (fi : FinancialInstitution) : XmlElement :=
  .group tag [.group "FIId" [.group "FinInstnId" [.leaf "BICFI" fi.bicfi]]]

/-- The header of an instruction. -/
def businessApplicationHeader (instruction : CashLegInstruction) (profile : DepositoryProfile) :
    XmlElement :=
  .group (XmlElement.qualified (messageNamespace profile.businessApplicationHeaderName) "AppHdr")
    ([headerParty "Fr" instruction.sender, headerParty "To" instruction.receiver,
        .leaf "BizMsgIdr" instruction.messageId,
        .leaf "MsgDefIdr" profile.fiCreditTransferName] ++
      (profile.businessService.map (XmlElement.leaf "BizSvc")).toList ++
      [.leaf "CreDt" instruction.createdAt.isoformat])

/-- The credit transfer of an instruction: one transaction in one message. -/
def fiCreditTransfer (instruction : CashLegInstruction) (profile : DepositoryProfile) :
    XmlElement :=
  .group (XmlElement.qualified (messageNamespace profile.fiCreditTransferName) "Document")
    [.group "FICdtTrf"
      [.group "GrpHdr"
        [.leaf "MsgId" instruction.messageId,
         .leaf "CreDtTm" instruction.createdAt.isoformat,
         .leaf "NbOfTxs" "1",
         .group "SttlmInf" [.leaf "SttlmMtd" instruction.settlementMethod.value]],
       .group "CdtTrfTxInf"
        [.group "PmtId" [.leaf "EndToEndId" instruction.endToEndId],
         .element "IntrBkSttlmAmt" [("Ccy", instruction.currency)]
           (some (fmtAmount instruction.amount)) [],
         fiElement "Dbtr" instruction.debtor,
         fiElement "Cdtr" instruction.creditor]]]

/-! ## The package -/

/-- A prepared package: header and document, and where they come from. Nothing submits it. -/
structure InstructionArtifact where
  headerXml : Bytes
  documentXml : Bytes
  messageDefinition : String
  profileName : String
  profileVerified : Bool
  dsorLineageUri : Option String
  deriving DecidableEq

variable (kernel : Kernel) (xml : XmlLibrary)

/-- The package of an instruction. Under an active halt nothing is prepared. -/
def emitInstructionArtifact (instruction : CashLegInstruction) (profile : DepositoryProfile)
    (halt : Option HaltContext) : Outcome InstructionArtifact := do
  if let some halt := halt then
    if kernel.gateUnderHalt halt .atreides = .block then
      throw (.runtimeError ("halt " ++ halt.haltId ++ " (version " ++
        toString halt.version ++ ") is active for Atreides: " ++ halt.reason ++
        ". No instruction is prepared (ATR-I-06)."))
  .ok
    { headerXml := xml.tostring (businessApplicationHeader instruction profile)
      documentXml := xml.tostring (fiCreditTransfer instruction profile)
      messageDefinition := profile.fiCreditTransferName
      profileName := profile.name
      profileVerified := profile.verifiedAgainstPublishedSpec
      dsorLineageUri := instruction.dsorLineageUri }

/-- The digest of the header's bytes followed by the document's. -/
def instructionArtifactDigest (artifact : InstructionArtifact) : String :=
  kernel.digestBytes (artifact.headerXml ++ artifact.documentXml)

end Atreides
