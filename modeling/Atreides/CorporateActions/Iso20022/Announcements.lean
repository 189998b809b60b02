import Atreides.CorporateActions.Iso20022.Instructions

/-!
# Announcement messages

A corporate-action event as an announcement, and such a message as an event. A mandatory event
says its terms on one option, whose one movement is of cash or of securities; an elective event
says its options, each with the deadlines of the whole event. What the one movement of a mandatory
event stands for, the message does not say: it is read off the event's class.

## Main definitions

* `encodeAnnouncement` — the message of an event
* `readAnnouncement`, `decodeAnnouncement` — the event of a message
-/

namespace Atreides

namespace CorporateActions

namespace Iso20022

open XmlElement

open CustomerProtection (NonNegativeMoney)

open DecimalContext (ambient)

/-! ## Encoding terms -/

/-- The gross distribution rate type that a cash dividend's rate is: income. -/
def incomeRate : String := "INCO"

/-- What the text of a reinvestment price begins with. -/
def reinvestmentMark : String := "REINVESTMENT PRICE "

def isinIdentifier (value : String) : Outcome String := do
  Outcome.refuseIf (isIsin value = false)
    (refusal .notRepresentable ("security " ++ quoted value ++
      " is not an ISIN; other schemes are not modeled"))
  .ok value

/-- The first figure in cash that the terms state. -/
def statedCash (terms : EventTerms) : Option NonNegativeMoney :=
  terms.cashRatePerShare.or (terms.interestAmountPerFace.or terms.redemptionPricePerFace)

/-- What every option begins with: its number, its type and whether it is the default one. -/
def optionHead (number code : String) (isDefault : Bool) : List XmlElement :=
  [.leaf "OptnNb" number,
   nest ["OptnTp"] (.leaf "Cd" code),
   nest ["DfltPrcgOrStgInstr"] (.leaf "DfltOptnInd" (if isDefault then "true" else "false"))]

/-- A text in English. -/
def textElement (text : String) : XmlElement :=
  nest ["AddtlInf"] (.group "AddtlTxt" [.leaf "Lang" "en", .leaf "AddtlInf" text])

/-- The text of a reinvestment price, where one is stated. -/
def reinvestmentElements (terms : EventTerms) (currency : String) : Outcome (List XmlElement) :=
  match terms.reinvestmentPricePerShare with
  | none => .ok []
  | some price => do
    let text ← decimal price.amount amountDigits "price"
    .ok [textElement (reinvestmentMark ++ currency ++ " " ++ text)]

/-- A movement of cash at a rate. -/
def cashRateElement (payable : Date) (currency text : String) : XmlElement :=
  .group "CshMvmntDtls"
    [.leaf "CdtDbtInd" "CRDT",
     nest ["DtDtls", "PmtDt"] (.leaf "Dt" payable.isoformat),
     nest ["RateAndAmtDtls", "GrssDstrbtnRate"] (.group "RateTpAndAmtAndRateSts"
       [nest ["RateTp"] (.leaf "Cd" incomeRate),
        .element "Amt" [("Ccy", currency)] (some text) []])]

/-- The option of terms in cash. -/
def cashOption (terms : EventTerms) (cash : NonNegativeMoney) (payable : Date) :
    Outcome XmlElement :=
  match terms.currency with
  -- a figure in cash is stated with its currency, which is asserted here
  | none => .error (.assertionError "")
  | some currency => do
    Outcome.refuseIf (terms.stockRatePerShare ≠ none ∨ terms.splitNew ≠ none)
      (refusal .notRepresentable "one option carries cash or securities terms, not both")
    let text ← decimal cash.amount rateDigits "cash rate"
    let information ← reinvestmentElements terms currency
    .ok (.group "CorpActnOptnDtls" (optionHead "001" (optionCode .cash) true ++
      [cashRateElement payable currency text] ++ information))

/-- How many securities come for how many, and under which name. -/
def ratioOf (terms : EventTerms) : Outcome (String × ℤ × ℤ) :=
  match terms.stockRatePerShare with
  | some rate => .ok ("AddtlQtyForExstgScties", rate.amount.value.num, rate.amount.value.den)
  | none =>
    match terms.splitNew, terms.splitOld with
    | some new, some old => .ok ("NewToOd", new, old)
    -- terms that are stated, and neither in cash nor a stock rate, are those of a split
    | _, _ => .error (.assertionError "")

/-- A movement of securities at a ratio. -/
def ratioElement (security : String) (payable : Date) (tag first second : String) : XmlElement :=
  .group "SctiesMvmntDtls"
    [nest ["SctyDtls", "FinInstrmId"] (.leaf "ISIN" security),
     .leaf "CdtDbtInd" "CRDT",
     nest ["DtDtls", "PmtDt"] (.leaf "Dt" payable.isoformat),
     nest ["RateDtls", tag] (.group "QtyToQty" [.leaf "Qty1" first, .leaf "Qty2" second])]

/-- The option of terms in securities. -/
def ratioOption (terms : EventTerms) (security : String) (payable : Date) :
    Outcome XmlElement := do
  Outcome.refuseIf (terms.stockRatePerShare ≠ none ∧ terms.splitNew ≠ none)
    (refusal .notRepresentable "one option carries a stock rate or a split ratio, not both")
  let (tag, first, second) ← ratioOf terms
  let firstText ← decimal (.ofInt first) quantityDigits "ratio"
  let secondText ← decimal (.ofInt second) quantityDigits "ratio"
  .ok (.group "CorpActnOptnDtls" (optionHead "001" (optionCode .secu) true ++
    [ratioElement security payable tag firstText secondText]))

/-- The option that says the terms of a mandatory event, where it states any. -/
def termsOption (event : CorporateActionEvent) : Outcome (List XmlElement) :=
  if event.terms = .unstated then .ok []
  else
    match event.dates.payableDate, statedCash event.terms with
    | none, _ => .error (refusal .notRepresentable
        "terms are carried on an option whose payment date is required")
    | some payable, some cash => (fun e => [e]) <$> cashOption event.terms cash payable
    | some payable, none =>
      (fun e => [e]) <$> ratioOption event.terms event.securityId payable

/-! ## Encoding options -/

/-- A date under a name, where it is stated. -/
def datedElements (path : List String) (date : Option Date) : List XmlElement :=
  (date.map fun date => nest path (.leaf "Dt" date.isoformat)).toList

/-- An option of an elective event. It repeats the deadlines of the event. -/
def optionElement (event : CorporateActionEvent) (optionId description : String)
    (optionType : OptionType) (deadline : Date) : XmlElement :=
  .group "CorpActnOptnDtls"
    (optionHead optionId (optionCode optionType) (some optionId = event.defaultOptionId) ++
      [.group "DtDtls" (datedElements ["PrtctDdln", "Dt"] event.dates.protectDeadline ++
        [nest ["RspnDdln", "Dt"] (.leaf "Dt" deadline.isoformat)]),
       textElement description])

def electiveOption (event : CorporateActionEvent) (option : ElectionOption) :
    Outcome XmlElement := do
  Outcome.refuseIf (isOptionNumber option.optionId = false)
    (refusal .notRepresentable
      ("option " ++ quoted option.optionId ++ " is not a three-digit option number"))
  match option.optionType with
  | none => .error (refusal .notRepresentable
      ("option " ++ option.optionId ++ " states no type, which ISO 20022 requires"))
  | some optionType => do
    let _ ← checked option.description matchesFinx350 "option description" 350
    match event.dates.electionDeadline with
    -- an elective event has a deadline, which is asserted here
    | none => .error (.assertionError "")
    | some deadline =>
      .ok (optionElement event option.optionId option.description optionType deadline)

/-- The options that an event offers, or the one that says its terms. -/
def optionElements (event : CorporateActionEvent) : Outcome (List XmlElement) :=
  if event.participation.elective then do
    Outcome.refuseIf (event.terms ≠ .unstated)
      (refusal .notRepresentable
        "terms on an elective event are not carried; they belong to its options")
    Outcome.refuseIf (event.options = [])
      (refusal .notRepresentable
        "an elective event without options cannot carry its election deadline")
    Outcome.collect (electiveOption event) event.options
  else termsOption event

/-! ## Encoding events -/

/-- What an announcement begins with: it is new, complete and confirmed. -/
def noticeElement : XmlElement :=
  .group "NtfctnGnlInf"
    [.leaf "NtfctnTp" "NEWM",
     nest ["PrcgSts"] (.group "Cd"
       [.leaf "EvtCmpltnsSts" "COMP", .leaf "EvtConfSts" "CONF"])]

/-- The event and its security. -/
def announcedElement (event : CorporateActionEvent) (eventId security : String) : XmlElement :=
  .group "CorpActnGnlInf"
    [.leaf "CorpActnEvtId" eventId,
     nest ["EvtTp"] (.leaf "Cd" (eventCode event.eventType)),
     nest ["MndtryVlntryEvtTp"] (.leaf "Cd" (participationCode event.participation)),
     nest ["UndrlygScty", "FinInstrmId"] (.leaf "ISIN" security)]

/-- The dates of the event, those of its options apart. -/
def datesElement (dates : EventDates) : XmlElement :=
  nest ["CorpActnDtls"] (.group "DtDtls"
    ([nest ["AnncmntDt", "Dt"] (.leaf "Dt" dates.announcementDate.isoformat)] ++
      datedElements ["RcrdDt"] dates.recordDate ++ datedElements ["PmtDt"] dates.payableDate))

/-- What an announcement says, its options apart. -/
def announcementElements (event : CorporateActionEvent) (eventId security : String) :
    List XmlElement :=
  [noticeElement, announcedElement event eventId security,
   nest ["AcctDtls", "ForAllAccts"] (.leaf "IdCd" "GENR"), datesElement event.dates]

/-- The message of an event, in a release. -/
def encodeAnnouncement (event : CorporateActionEvent) (release : Release) :
    Outcome EncodedMessage := do
  let eventId ← eventIdentifier event.eventId
  let security ← isinIdentifier event.securityId
  let options ← optionElements event
  .ok (encoded ⟨release, .announcement⟩ (announcementElements event eventId security ++ options))

/-! ## Decoding terms -/

/-- Terms of what was read, where they are stated with what they need. -/
def eventTerms (fields : EventTermsFields) : Outcome EventTerms :=
  Outcome.checked fields.paired fun complete => { fields with complete }

/-- A mandatory event's option of another shape than the two that are read. -/
def notOneMovement : PyError :=
  refusal .notRepresentable
    ("a mandatory event" ++ String.ofList [singleQuote] ++ "s option carries exactly one cash or " ++
      "securities movement with a rate this adapter models")

section

variable (namespaceUri : String)

/-- The terms with the reinvestment price of a text, where the text is one of a price. -/
def withReinvestment (terms : EventTerms) (text : Option String) : Outcome EventTerms :=
  match text with
  | none => .ok terms
  | some text =>
    if reinvestmentMark.toList.isPrefixOf text.toList then
      match text.toList.splitOn ' ' with
      -- the two words of the mark come before the currency and the price
      | [_, _, currency, price] => do
        let price ← parseDecimal (String.ofList price) "reinvestment price"
        let price ← NonNegativeMoney.check (.finite price)
        eventTerms
          { cashRatePerShare := terms.cashRatePerShare
            currency := some (String.ofList currency)
            reinvestmentPricePerShare := some price }
      | _ => .error (refusal .malformed "malformed reinvestment price")
    else .ok terms

/-- The terms in cash of an option. -/
def readCashTerms (option cash : XmlElement) : Outcome EventTerms := do
  let rate ← orRefuse
    (cash.findPath namespaceUri ["RateAndAmtDtls", "GrssDstrbtnRate", "RateTpAndAmtAndRateSts"])
    .notRepresentable "a cash option states no rate"
  let rateType ← requiredAt namespaceUri ["RateTp", "Cd"] rate
  Outcome.refuseIf (rateType ≠ incomeRate)
    (refusal .notRepresentable "only a gross income rate is modeled as a cash dividend rate")
  match rate.findPath namespaceUri ["Amt"] with
  | none => .error (.assertionError "")
  | some amount => do
    let text ← requiredAt namespaceUri ["Amt"] rate
    let value ← parseDecimal text "cash rate"
    let value ← NonNegativeMoney.check (.finite value)
    let terms ← eventTerms
      { cashRatePerShare := some value
        currency := amount.attribute? "Ccy" }
    withReinvestment terms (textAt namespaceUri ["AddtlInf", "AddtlTxt", "AddtlInf"] option)

/-- The two quantities of a ratio. The second is not zero. -/
def readQuantities (node : XmlElement) : Outcome (FiniteDecimal × FiniteDecimal) := do
  let firstText ← requiredAt namespaceUri ["Qty1"] node
  let first ← parseDecimal firstText "ratio"
  let secondText ← requiredAt namespaceUri ["Qty2"] node
  let second ← parseDecimal secondText "ratio"
  Outcome.refuseIf (second.isZero = true)
    (refusal .malformed ("a ratio" ++ String.ofList [singleQuote] ++ "s second quantity is zero"))
  .ok (first, second)

/-- The terms in securities of a movement. -/
def readRatio (securities : XmlElement) : Outcome EventTerms :=
  match securities.findPath namespaceUri ["RateDtls", "AddtlQtyForExstgScties", "QtyToQty"],
    securities.findPath namespaceUri ["RateDtls", "NewToOd", "QtyToQty"] with
  -- a stock rate is looked for first, so a split beside it is not read
  | some node, _ => do
    let (first, second) ← readQuantities namespaceUri node
    let rate ← FiniteDecimal.div ambient first second
    let rate ← NonNegativeMoney.check (.finite rate)
    eventTerms { stockRatePerShare := some rate }
  | none, some node => do
    let (first, second) ← readQuantities namespaceUri node
    Outcome.refuseIf (first.value.isInt = false ∨ second.value.isInt = false)
      (refusal .notRepresentable "a split ratio of fractional quantities is not modeled")
    eventTerms { splitNew := some first.truncate, splitOld := some second.truncate }
  | none, none => .error notOneMovement

/-- The terms of a mandatory event's option. -/
def readTerms (option : XmlElement) : Outcome EventTerms :=
  match option.findPath namespaceUri ["CshMvmntDtls"],
    option.findPath namespaceUri ["SctiesMvmntDtls"] with
  | some cash, none => readCashTerms namespaceUri option cash
  | none, some securities => readRatio namespaceUri securities
  | _, _ => .error notOneMovement

/-- The event types whose figure in cash is a redemption price. -/
def redemptionTypes : List EventType :=
  [.finalMaturity, .partialRedemption, .fullCall, .redemptionLottery]

/-- The terms with their figure in cash under the name that the event's class gives it. -/
def termsOfEventType (eventType : EventType) (terms : EventTerms) : Outcome EventTerms :=
  if eventType = .interestPayment ∧ terms.cashRatePerShare ≠ none then
    eventTerms
      { interestAmountPerFace := terms.cashRatePerShare
        currency := terms.currency }
  else if eventType ∈ redemptionTypes ∧ terms.cashRatePerShare ≠ none then
    eventTerms
      { redemptionPricePerFace := terms.cashRatePerShare
        currency := terms.currency }
  else .ok terms

/-! ## Decoding options -/

/-- What was read of an event's options so far. -/
structure OptionsRead where
  options : List ElectionOption := []
  defaultOptionId : Option String := none
  electionDeadlines : List (Option Date) := []
  protectDeadlines : List (Option Date) := []

/-- A deadline among those that were found. -/
def noteDeadline (deadline : Option Date) (deadlines : List (Option Date)) :
    List (Option Date) :=
  if deadline ∈ deadlines then deadlines else deadlines ++ [deadline]

/-- What was checked not to be empty is there. -/
theorem required_of_nonEmpty (text : { text : String // required text = .ok () }) :
    required text.1 = .ok () := text.2

/-- An option of what was read, where it is a valid one. -/
def announcedOption (optionId description : String) (optionType : OptionType) :
    Outcome ElectionOption := do
  let optionId ← nonEmpty optionId
  let description ← nonEmpty description
  .ok
    { optionId := optionId.1
      description := description.1
      optionType := some optionType
      option_named := required_of_nonEmpty optionId
      described := required_of_nonEmpty description }

/-- Read one option more. -/
def readOption (read : OptionsRead) (node : XmlElement) : Outcome OptionsRead := do
  let optionId ← requiredAt namespaceUri ["OptnNb"] node
  -- a description that is not there is refused like an empty one
  let description := ((node.findPath namespaceUri ["AddtlInf", "AddtlTxt"]).bind
    (textAt namespaceUri ["AddtlInf"])).getD ""
  Outcome.refuseIf (description = "")
    (refusal .notRepresentable ("option " ++ optionId ++ " states no description"))
  let code ← requiredAt namespaceUri ["OptnTp", "Cd"] node
  let optionType ← optionTypeOf code
  let option ← announcedOption optionId description optionType
  let indicator ← requiredAt namespaceUri ["DfltPrcgOrStgInstr", "DfltOptnInd"] node
  let isDefault ← oneOf indicator booleanCodes "default"
  Outcome.refuseIf (isDefault ∧ read.defaultOptionId ≠ none)
    (refusal .notRepresentable "more than one default option")
  let election ← dateAt namespaceUri ["DtDtls", "RspnDdln", "Dt", "Dt"] node
  let protect ← dateAt namespaceUri ["DtDtls", "PrtctDdln", "Dt", "Dt"] node
  .ok
    { options := read.options ++ [option]
      defaultOptionId := if isDefault then some optionId else read.defaultOptionId
      electionDeadlines := noteDeadline election read.electionDeadlines
      protectDeadlines := noteDeadline protect read.protectDeadlines }

/-- The terms of a mandatory event, or the options of an elective one. -/
def readOptions (eventType : EventType) (participation : Participation)
    (options : List XmlElement) : Outcome (EventTerms × OptionsRead) :=
  if participation.elective then do
    let read ← Outcome.foldSteps (readOption namespaceUri) {} options
    Outcome.refuseIf (1 < read.electionDeadlines.length ∨ 1 < read.protectDeadlines.length)
      (refusal .notRepresentable "options with different deadlines are not modeled")
    .ok (.unstated, read)
  else
    match options with
    | [] => .ok (.unstated, {})
    | [option] => do
      let terms ← readTerms namespaceUri option
      let terms ← termsOfEventType eventType terms
      .ok (terms, {})
    | _ => .error (refusal .notRepresentable
        "a mandatory event with more than one option is not modeled")

/-- A date of the event, where there are dates and it is one of them. -/
def dateIn (path : List String) (dates : Option XmlElement) : Outcome (Option Date) :=
  match dates with
  | none => .ok none
  | some dates => dateAt namespaceUri path dates

end

/-! ## Decoding events -/

/-- Dates of what was read, where they are in order. -/
def eventDates (fields : EventDatesFields) : Outcome EventDates :=
  Outcome.checked fields.ordered fun in_order => { fields with in_order }

/-- An event of what was read, where it is a valid one. -/
def corporateActionEvent (fields : CorporateActionEventFields) : Outcome CorporateActionEvent :=
  Outcome.checked fields.validate fun valid => { fields with valid }

/-- Whose word a message is taken for. -/
structure AnnouncementOrigin where
  provenance : Provenance
  source : SourceIdentity

/-- The event of a message element. -/
def readAnnouncement (library : AdapterLibrary) (namespaceUri : String)
    (origin : AnnouncementOrigin) (root : XmlElement) : Outcome CorporateActionEvent := do
  let info ← orRefuse (root.findPath namespaceUri ["CorpActnGnlInf"]) .malformed
    "CorpActnGnlInf is required"
  let eventText ← requiredAt namespaceUri ["EvtTp", "Cd"] info
  let eventType ← ofCode eventTypes eventText "event type"
  let participationText ← requiredAt namespaceUri ["MndtryVlntryEvtTp", "Cd"] info
  let participation ← ofCode participations participationText "participation"
  let security ← orRefuse (textAt namespaceUri ["UndrlygScty", "FinInstrmId", "ISIN"] info)
    .notRepresentable "the underlying security is not an ISIN"
  let dates := root.findPath namespaceUri ["CorpActnDtls", "DtDtls"]
  let announced ← dateIn namespaceUri ["AnncmntDt", "Dt", "Dt"] dates
  let announced ← orRefuse announced .notRepresentable "the announcement date is not stated"
  let (terms, read) ← readOptions namespaceUri eventType participation
    (root.findall namespaceUri ["CorpActnOptnDtls"])
  -- what was read is refused here where the event itself is not a valid one
  library.orInvalid "the announcement is not a valid event: " do
    let eventId ← requiredAt namespaceUri ["CorpActnEvtId"] info
    let recordDate ← dateIn namespaceUri ["RcrdDt", "Dt"] dates
    let payableDate ← dateIn namespaceUri ["PmtDt", "Dt"] dates
    let dates ← eventDates
      { announcementDate := announced
        recordDate := recordDate
        electionDeadline := read.electionDeadlines.head?.join
        protectDeadline := read.protectDeadlines.head?.join
        payableDate := payableDate }
    corporateActionEvent
      { eventId := eventId
        securityId := security
        eventType := eventType
        participation := participation
        dates := dates
        terms := terms
        options := read.options
        defaultOptionId := read.defaultOptionId
        provenance := origin.provenance
        source := origin.source }

/-- The event of a text, where it is an announcement of the release. -/
def decodeAnnouncement (library : AdapterLibrary) (xml : String) (release : Release)
    (origin : AnnouncementOrigin) : Outcome CorporateActionEvent := do
  sourceCheck origin.provenance
  let profile : MessageProfile := ⟨release, .announcement⟩
  let root ← openMessage library xml profile
  readAnnouncement library profile.namespaceUri origin root

end Iso20022

end CorporateActions

end Atreides
