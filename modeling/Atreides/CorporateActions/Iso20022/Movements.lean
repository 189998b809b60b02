import Atreides.CorporateActions.Iso20022.Adapter

/-!
# Movement messages

A movement report as a preliminary advice or a confirmation, and such a message as a report. The
two say the same things in different places; only an advice says how the holder takes part and
whether the option is the default one, and only a confirmation admits no option of every type.

## Main definitions

* `encodeMovement` — the message of a report
* `readMovement`, `decodeMovement` — the report of a message
-/

namespace Atreides

namespace CorporateActions

namespace Iso20022

open XmlElement

open CustomerProtection (NonNegativeMoney)

/-- What an advice says in one place and a confirmation in another. -/
def choose {α : Type} (stage : MovementStage) (advice confirmation : α) : α :=
  match stage with
  | .preliminaryAdvice => advice
  | .confirmation => confirmation

def stageFamily (stage : MovementStage) : MessageFamily :=
  choose stage .movementPreliminaryAdvice .movementConfirmation

/-- The option types the confirmation profile admits. -/
def confirmationOptionTypes : List OptionType := [.cash, .secu, .case, .othr]

/-! ## Encoding -/

/-- An element for a value that is stated, and none for one that is not. -/
def stated (build : FiniteDecimal → Outcome XmlElement) :
    Option FiniteDecimal → Outcome (List XmlElement)
  | none => .ok []
  | some value => (fun e => [e]) <$> build value

def balanceElements (values : MovementBalances) : Outcome (List XmlElement) := do
  let confirmed ← stated (signedBalance "ConfdBal") values.confirmedBalance
  let eligible ← stated eligibleBalance values.eligibleBalance
  let delivery ← stated (signedBalance "PdgDlvryBal") values.pendingDeliveryBalance
  let receipt ← stated (signedBalance "PdgRctBal") values.pendingReceiptBalance
  let position ← stated (signedBalance "SttlmPosBal") values.settlementPositionBalance
  .ok (confirmed ++ eligible ++ delivery ++ receipt ++ position)

/-- What an advice begins with. -/
def adviceHeader (stage : MovementStage) : List XmlElement :=
  choose stage
    [.group "MvmntPrlimryAdvcGnlInf" [.leaf "Tp" "NEWM", .leaf "Fctn" "CAPA"]] []

/-- How the holder takes part: an advice says it. -/
def participationElements (stage : MovementStage) (participation : Option Participation) :
    Outcome (List XmlElement) :=
  match stage, participation with
  | .preliminaryAdvice, some participation =>
    .ok [nest ["MndtryVlntryEvtTp"] (.leaf "Cd" (participationCode participation))]
  | .preliminaryAdvice, none => .error (.assertionError "")
  | .confirmation, _ => .ok []

/-- The event and its security. -/
def eventElement (report : MovementReport) (eventId : String)
    (participation : List XmlElement) : XmlElement :=
  .group "CorpActnGnlInf"
    ([.leaf "CorpActnEvtId" eventId, nest ["EvtTp"] (.leaf "Cd" (eventCode report.eventType))] ++
      participation ++
      [nest (choose report.stage ["UndrlygScty", "FinInstrmId"] ["FinInstrmId"])
        (.leaf "ISIN" report.securityId)])

/-- The account and its balances. -/
def accountElement (stage : MovementStage) (account : String) (balances : List XmlElement) :
    XmlElement :=
  let children := [.leaf "SfkpgAcct" account, .group "Bal" balances]
  choose stage (nest ["AcctDtls"] (.group "AcctsListAndBalDtls" children))
    (.group "AcctDtls" children)

/-- On which day the movement is made. -/
def movementDateElement (report : MovementReport) : XmlElement :=
  nest ["DtDtls", choose report.stage "PmtDt" "PstngDt"]
    (.leaf "Dt" report.movementDate.isoformat)

def directionCode : Direction → String
  | .credit => "CRDT"
  | .debit => "DBIT"

/-- What moves, and which way. -/
def movementElement (report : MovementReport) : Outcome XmlElement :=
  match report.movement with
  | .cash amount currency _ => do
    let text ← decimal amount.amount amountDigits "amount"
    .ok (.group "CshMvmntDtls"
      [.leaf "CdtDbtInd" (directionCode report.direction),
       nest ["AmtDtls"] (.element (choose report.stage "EntitldAmt" "PstngAmt")
         [("Ccy", currency)] (some text) []),
       movementDateElement report])
  | .securities security quantity _ => do
    let text ← decimal quantity.amount quantityDigits "quantity"
    .ok (.group "SctiesMvmntDtls"
      [nest (choose report.stage ["SctyDtls", "FinInstrmId"] ["FinInstrmId"])
         (.leaf "ISIN" security),
       .leaf "CdtDbtInd" (directionCode report.direction),
       nest [choose report.stage "EntitldQty" "PstngQty", "Qty"] (.leaf "Unit" text),
       movementDateElement report])

/-- Whether the option is the default one: an advice says it. -/
def defaultElements (report : MovementReport) : List XmlElement :=
  choose report.stage
    [nest ["DfltPrcgOrStgInstr"]
      (.leaf "DfltOptnInd" (if report.defaultOption = some true then "true" else "false"))] []

/-- The option and its movement. -/
def detailElement (report : MovementReport) (movement : XmlElement) : XmlElement :=
  .group (choose report.stage "CorpActnMvmntDtls" "CorpActnConfDtls")
    ([choose report.stage (.leaf "OptnNb" report.optionId)
        (nest ["OptnNb"] (.leaf "Nb" report.optionId)),
      nest ["OptnTp"] (.leaf "Cd" (optionCode report.optionType))] ++
      defaultElements report ++ [movement])

/-- The message of a report, in a release. -/
def encodeMovement (report : MovementReport) (release : Release) : Outcome EncodedMessage := do
  Outcome.refuseIf
    (report.stage = .confirmation ∧ report.optionType ∉ confirmationOptionTypes)
    (refusal .notInProfile ("the confirmation profile does not admit option type " ++
      optionCode report.optionType))
  let eventId ← eventIdentifier report.eventId
  let participation ← participationElements report.stage report.participation
  let account ← accountIdentifier report.accountId
  let balances ← balanceElements report.balances
  let movement ← movementElement report
  .ok (encoded ⟨release, stageFamily report.stage⟩
    (adviceHeader report.stage ++
      [eventElement report eventId participation, accountElement report.stage account balances,
       detailElement report movement]))

/-! ## Decoding -/

/-- Cash that is not negative, in a currency. -/
def cashMovement (amount : FiniteDecimal) (currency : String) : Outcome Movement := do
  let amount ← NonNegativeMoney.check (.finite amount)
  if h : isCurrencyCode currency = true then .ok (.cash amount currency h)
  else .error (.valueError "string_pattern_mismatch")

/-- A quantity of a security that is not negative. -/
def securitiesMovement (security : String) (quantity : FiniteDecimal) : Outcome Movement :=
  if h : isIsin security = true then do
    let quantity ← NonNegativeMoney.check (.finite quantity)
    .ok (.securities security quantity h)
  else .error (.valueError "string_pattern_mismatch")

/-- A report of what was read, where it is a valid one. -/
def movementReport (fields : MovementReportFields) : Outcome MovementReport :=
  Outcome.checked fields.validate fun valid => { fields with valid }

section

variable (namespaceUri : String)

def readBalances (account : XmlElement) : Outcome MovementBalances := do
  let eligible ← signedAt namespaceUri ["Bal", "TtlElgblBal"] true account
  let confirmed ← signedAt namespaceUri ["Bal", "ConfdBal"] false account
  let delivery ← signedAt namespaceUri ["Bal", "PdgDlvryBal"] false account
  let receipt ← signedAt namespaceUri ["Bal", "PdgRctBal"] false account
  let position ← signedAt namespaceUri ["Bal", "SttlmPosBal"] false account
  .ok
    { eligibleBalance := eligible
      confirmedBalance := confirmed
      pendingDeliveryBalance := delivery
      pendingReceiptBalance := receipt
      settlementPositionBalance := position }

/-- The movement of cash in its element. Its text is read as it stands. -/
def readCash (stage : MovementStage) (cash : XmlElement) : Outcome Movement :=
  match cash.findPath namespaceUri ["AmtDtls", choose stage "EntitldAmt" "PstngAmt"] with
  | none => .error (refusal .notRepresentable "the cash movement states no amount")
  | some amount => do
    let text ← orRefuse amount.text .notRepresentable "the cash movement states no amount"
    let value ← parseDecimal text "amount"
    cashMovement value ((amount.attribute? "Ccy").getD "")

/-- The movement of securities in its element. -/
def readSecurities (stage : MovementStage) (securities : XmlElement) : Outcome Movement := do
  let quantity ← orRefuse
    (textAt namespaceUri [choose stage "EntitldQty" "PstngQty", "Qty", "Unit"] securities)
    .notRepresentable "the securities movement states no quantity in units"
  let security ← requiredAt namespaceUri
    (choose stage ["SctyDtls", "FinInstrmId", "ISIN"] ["FinInstrmId", "ISIN"]) securities
  let value ← parseDecimal quantity "quantity"
  securitiesMovement security value

/-- The one movement of an option, and the element it was read from. -/
def readOneMovement (stage : MovementStage) (detail : XmlElement) :
    Outcome (Movement × XmlElement) :=
  match detail.findPath namespaceUri ["CshMvmntDtls"],
      detail.findPath namespaceUri ["SctiesMvmntDtls"] with
  | some cash, none => (·, cash) <$> readCash namespaceUri stage cash
  | none, some securities => (·, securities) <$> readSecurities namespaceUri stage securities
  | _, _ => .error (refusal .notRepresentable
      "exactly one cash or one securities movement is modeled")

/-- How the holder takes part, where the message says it. -/
def readParticipation (stage : MovementStage) (info : XmlElement) :
    Outcome (Option Participation) :=
  choose stage
    (do
      let code ← requiredAt namespaceUri ["MndtryVlntryEvtTp", "Cd"] info
      some <$> ofCode participations code "participation")
    (.ok none)

/-- Whether the option is the default one, where the message says it. -/
def readDefault (stage : MovementStage) (detail : XmlElement) : Outcome (Option Bool) :=
  choose stage
    (do
      let code ← requiredAt namespaceUri ["DfltPrcgOrStgInstr", "DfltOptnInd"] detail
      some <$> oneOf code booleanCodes "default")
    (.ok none)

end

/-- Whose word a message is taken for, and under which authority. -/
structure MovementOrigin where
  provenance : Provenance
  source : SourceIdentity
  authority : MovementAuthorityReference

/-- The report of a message element. -/
def readMovement (library : AdapterLibrary) (namespaceUri : String) (stage : MovementStage)
    (origin : MovementOrigin) (root : XmlElement) : Outcome MovementReport := do
  let info ← orRefuse (root.findPath namespaceUri ["CorpActnGnlInf"]) .malformed
    "CorpActnGnlInf is required"
  let code ← requiredAt namespaceUri ["EvtTp", "Cd"] info
  let eventType ← ofCode eventTypes code "event type"
  let (account, detail) ← orRefuse
    (do
      let account ← root.findPath namespaceUri
        (choose stage ["AcctDtls", "AcctsListAndBalDtls"] ["AcctDtls"])
      let detail ← root.findPath namespaceUri [choose stage "CorpActnMvmntDtls" "CorpActnConfDtls"]
      some (account, detail))
    .notRepresentable "one account's balances and one option's movement are modeled"
  let accountId ← orRefuse (textAt namespaceUri ["SfkpgAcct"] account) .notRepresentable
    "the message names no account"
  let balances ← readBalances namespaceUri account
  let (movement, moving) ← readOneMovement namespaceUri stage detail
  let moved ← dateAt namespaceUri ["DtDtls", choose stage "PmtDt" "PstngDt", "Dt"] moving
  let movementDate ← orRefuse moved .notRepresentable "the movement states no date"
  let participation ← readParticipation namespaceUri stage info
  let securityId ← orRefuse
    (textAt namespaceUri
      (choose stage ["UndrlygScty", "FinInstrmId", "ISIN"] ["FinInstrmId", "ISIN"]) info)
    .notRepresentable "the security is not an ISIN"
  library.orInvalid "the movement is not valid: " do
    let eventId ← requiredAt namespaceUri ["CorpActnEvtId"] info
    let optionId ← requiredAt namespaceUri (choose stage ["OptnNb"] ["OptnNb", "Nb"]) detail
    let optionText ← requiredAt namespaceUri ["OptnTp", "Cd"] detail
    let optionType ← optionTypeOf optionText
    let defaultOption ← readDefault namespaceUri stage detail
    let side ← requiredAt namespaceUri ["CdtDbtInd"] moving
    let credit ← oneOf side creditCodes "direction"
    movementReport
      { stage := stage
        eventId := eventId
        eventType := eventType
        participation := participation
        securityId := securityId
        accountId := accountId
        optionId := optionId
        optionType := optionType
        defaultOption := defaultOption
        balances := balances
        movement := movement
        direction := if credit then .credit else .debit
        movementDate := movementDate
        provenance := origin.provenance
        source := origin.source
        authority := origin.authority }

/-- The report of a text, where it is a message of the release and the stage. -/
def decodeMovement (library : AdapterLibrary) (xml : String) (release : Release)
    (stage : MovementStage) (origin : MovementOrigin) : Outcome MovementReport := do
  sourceCheck origin.provenance
  let profile : MessageProfile := ⟨release, stageFamily stage⟩
  let root ← openMessage library xml profile
  readMovement library profile.namespaceUri stage origin root

end Iso20022

end CorporateActions

end Atreides
