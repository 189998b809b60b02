import Atreides.Foundation.Casing
import Atreides.Foundation.Numeral
import Atreides.Messaging.Readback
import Atreides.Messaging.Xml

/-!
# Reading a status report

A problem with the document raises: there is no report in it, it is of another definition, or it
cannot be identified. A problem with one entry does not: the entry is kept as one that could not be
read. So every block of the document is an entry or a malformed one, in its place.

## Main definitions

* `readBlock` — one transaction block, read or not
* `parseStatusReport` — the report of a document

## Main results

* `parse_blocks` — the entries and the malformed ones of a report are its blocks
-/

namespace Atreides

open XmlElement (localname)

/-! ## The payload -/

def rootElement : String := "FIToFIPmtStsRpt"

/-- The namespace of a tag. -/
def namespaceOf (tag : String) : String :=
  match tag.toList with
  | c :: rest =>
    if c = XmlElement.openBrace then
      -- up to the last closing brace, or everything where there is none
      if rest.contains XmlElement.closeBrace then
        String.ofList ((rest.reverse.dropWhile (· ≠ XmlElement.closeBrace)).drop 1).reverse
      else String.ofList rest
    else ""
  | [] => ""

/-- The namespace is one of the status report's. -/
def matchesPacs002 (s : String) : Bool :=
  let chars := beforeFinalNewline s
  let stem := "urn:iso:std:iso:20022:tech:xsd:pacs.002.".toList
  let version := chars.drop stem.length
  chars.take stem.length = stem && version.length = 6 && (version.take 3).all isDecimalDigit &&
    version[3]? = some '.' && (version.drop 4).all isDecimalDigit

namespace XmlElement

/-- The first child of a name. -/
def find (parent : XmlElement) (name : String) : Option XmlElement :=
  parent.children.find? fun child => localname child.tag = name

/-- The children of a name. -/
def findAll (parent : XmlElement) (name : String) : List XmlElement :=
  parent.children.filter fun child => localname child.tag = name

/-- The text of the first child of a name, if it is not blank. -/
def textOf (parent : XmlElement) (name : String) : Option String :=
  ((parent.find name).bind text).bind fun text =>
    if stripped text = "" then none else some (stripped text)

/-- The value of an attribute. -/
def get (element : XmlElement) (key : String) : Option String :=
  (element.attributes.find? fun pair => pair.1 = key).map Prod.snd

end XmlElement

/-- The report, wherever it sits in the document. -/
def findPayload (root : XmlElement) : Option XmlElement :=
  if localname root.tag = rootElement then some root
  else root.iter.find? fun element => localname element.tag = rootElement

/-- The namespace of the report, or of its first child that is of the definition. -/
def payloadNamespace (report : XmlElement) : String :=
  let own := namespaceOf report.tag
  if matchesPacs002 own then own
  else
    ((report.children.map fun child => namespaceOf child.tag).find? matchesPacs002).getD own

/-! ## Blocks -/

/-- The recognised codes. -/
def recognisedStatusCodes : List (String × SettlementStatus) :=
  [("RCVD", .received), ("ACTC", .inProgress), ("ACCP", .inProgress), ("ACSP", .inProgress),
    ("PDNG", .inProgress), ("ACWP", .acceptedNotPosted), ("ACWC", .acceptedWithChange),
    ("ACSC", .settled), ("RJCT", .rejected), ("CANC", .cancelled)]

/-- What a raw code means for settlement. -/
def classifyStatusCode (code : String) : SettlementStatus :=
  ((recognisedStatusCodes.find? fun pair => pair.1 = upper (stripped code)).map Prod.snd).getD
    .unrecognized

/-- The reason codes of a block. -/
def reasonCodesOf (tx : XmlElement) : List String :=
  (tx.findAll "StsRsnInf").filterMap fun reason =>
    (reason.find "Rsn").bind fun rsn => rsn.textOf "Cd"

/-- The echoed amount and currency. An amount that cannot be read is as if there were none. -/
def echoedAmountOf (tx : XmlElement) : Option Decimal × Option String :=
  match (tx.find "OrgnlTxRef").bind fun ref => ref.find "IntrBkSttlmAmt" with
  | none => (none, none)
  | some element =>
    match element.text with
    | none => (none, none)
    | some text =>
      match Decimal.ofText (stripped text) with
      | .error _ => (none, none)
      | .ok amount => (some amount, element.get "Ccy")

/-- One transaction block of a report: an entry, or one that cannot be read. -/
def readBlock (ordinal : ℕ) (tx : XmlElement) : Except MalformedEntry StatusEntry :=
  let endToEndId := tx.textOf "OrgnlEndToEndId"
  let originalTransactionId := tx.textOf "OrgnlTxId"
  let originalUetr := tx.textOf "OrgnlUETR"
  match tx.textOf "TxSts" with
  | none => .error
    { ordinal
      reason := "carries no TxSts. The schema permits this and the business cannot use it: a " ++
        "status report with no status is not a report about anything"
      endToEndId
      originalTransactionId }
  | some code =>
    if endToEndId = none ∧ originalTransactionId = none ∧ originalUetr = none then .error
      { ordinal
        reason := "carries no original identifier. Schema-valid and unusable: it reports a " ++
          "status about nothing identifiable"
        statusCode := some code }
    else .ok
      { statusCode := code
        status := classifyStatusCode code
        endToEndId
        originalTransactionId
        originalUetr
        reasonCodes := reasonCodesOf tx
        echoedAmount := (echoedAmountOf tx).1
        echoedCurrency := (echoedAmountOf tx).2
        acceptanceDatetime := tx.textOf "AccptncDtTm" }

/-- The block, where it could not be read. -/
def unread : Except MalformedEntry StatusEntry → Option MalformedEntry
  | .error bad => some bad
  | .ok _ => none

/-- The transaction blocks of a report, each with its place. -/
def statusBlocks (report : XmlElement) : List (XmlElement × ℕ) :=
  (report.findAll "TxInfAndSts").zipIdx

/-- What the blocks of a report are read as, in order. -/
def readBlocks (report : XmlElement) : List (Except MalformedEntry StatusEntry) :=
  (statusBlocks report).map fun block => readBlock block.2 block.1

/-! ## The report -/

/-- A document that is no usable report. -/
def readbackParseError (message : String) : PyError := .refused "ReadbackParseError" message

/-- The report of a tree. -/
def readStatusReport (root : XmlElement) : Outcome StatusReport :=
  match findPayload root with
  | none => .error (readbackParseError ("no " ++ rootElement ++
      " element anywhere in the document; this is not a payment status report"))
  | some report =>
    let namespaceUri := payloadNamespace report
    if !matchesPacs002 namespaceUri then
      .error (readbackParseError ("namespace " ++ quoted namespaceUri ++
        " is not a pacs.002 namespace; refusing to parse a message of one definition as another"))
    else
      let header := report.find "GrpHdr"
      match header.bind (·.textOf "MsgId"), header.bind (·.textOf "CreDtTm") with
      | some messageId, some createdAt =>
        let group := report.find "OrgnlGrpInfAndSts"
        .ok
          { messageId
            createdAt
            namespaceUri
            originalMessageId := group.bind (·.textOf "OrgnlMsgId")
            originalMessageNameId := group.bind (·.textOf "OrgnlMsgNmId")
            groupStatusCode := group.bind (·.textOf "GrpSts")
            entries := (readBlocks report).filterMap Except.toOption
            malformed := (readBlocks report).filterMap unread }
      | _, _ => .error (readbackParseError "GrpHdr must carry MsgId and CreDtTm")

/-- The report of a document. What the library says of bytes that are none is quoted. -/
def parseStatusReport (xml : XmlLibrary) (complaint : Bytes → String) (bytes : Bytes) :
    Outcome StatusReport :=
  match xml.fromstring bytes with
  | none => .error (readbackParseError ("not well-formed XML: " ++ complaint bytes))
  | some root => readStatusReport root

/-! ## Blocks of a report -/

/-- The blocks of a document that is a report. -/
def documentBlocks (root : XmlElement) : List (Except MalformedEntry StatusEntry) :=
  ((findPayload root).map readBlocks).getD []

/-- The entries and the malformed ones of a report are its blocks, in order. -/
theorem parse_blocks {root : XmlElement} {report : StatusReport}
    (h : readStatusReport root = .ok report) :
    report.entries = (documentBlocks root).filterMap Except.toOption ∧
      report.malformed = (documentBlocks root).filterMap unread := by
  rw [readStatusReport] at h
  rw [documentBlocks]
  cases hpayload : findPayload root with
  | none =>
    rw [hpayload] at h
    cases h
  | some payload =>
    rw [hpayload] at h
    simp only at h
    split_ifs at h
    · cases hid : (payload.find "GrpHdr").bind (·.textOf "MsgId") with
      | none =>
        rw [hid] at h
        cases h
      | some messageId =>
        cases hcreated : (payload.find "GrpHdr").bind (·.textOf "CreDtTm") with
        | none =>
          rw [hid, hcreated] at h
          cases h
        | some createdAt =>
          rw [hid, hcreated] at h
          cases h
          exact ⟨rfl, rfl⟩

/-- Every block is counted, read or not. -/
theorem parse_entryCount {root : XmlElement} {report : StatusReport}
    (h : readStatusReport root = .ok report) :
    report.entries.length + report.malformed.length = (documentBlocks root).length := by
  obtain ⟨hentries, hmalformed⟩ := parse_blocks h
  rw [hentries, hmalformed]
  induction documentBlocks root with
  | nil => rfl
  | cons block rest ih =>
    cases block with
    | error bad =>
      simp only [List.filterMap_cons, Except.toOption, unread, List.length_cons]
      omega
    | ok entry =>
      simp only [List.filterMap_cons, Except.toOption, unread, List.length_cons]
      omega

end Atreides
