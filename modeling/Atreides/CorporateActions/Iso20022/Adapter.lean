import Atreides.CorporateActions.Movement
import Atreides.Foundation.DateText
import Atreides.Foundation.TrimmedNumerals
import Atreides.Messaging.Emit
import Atreides.Messaging.XmlSearch

/-!
# The depository's message profiles

Corporate actions as ISO 20022 messages, in the profiles a depository publishes. What a model
holds and a message cannot say is refused, and what a message says and no model holds. A message
is read only against its own release and its own family.

Parsing bytes, and what the validation library says of a value it rejects, are left to libraries.

## Main definitions

* `Release`, `MessageFamily`, `MessageProfile` — the profiles
* `refusal` — the adapter's exception, with its reason
* `decimal`, `parseDecimal`, `parseDate` — values in a message
* `openMessage` — the message element of a text, against a profile
-/

namespace Atreides

namespace CorporateActions

namespace Iso20022

open XmlElement

/-! ## Profiles -/

/-- A release of the standards. -/
inductive Release
  | sr2025
  | sr2026
  deriving DecidableEq, Repr

def Release.value : Release → String
  | sr2025 => "SR2025"
  | sr2026 => "SR2026"

/-- A family of messages. -/
inductive MessageFamily
  | announcement
  | instruction
  | movementPreliminaryAdvice
  | movementConfirmation
  deriving DecidableEq, Repr

def MessageFamily.value : MessageFamily → String
  | announcement => "announcement"
  | instruction => "instruction"
  | movementPreliminaryAdvice => "movement_preliminary_advice"
  | movementConfirmation => "movement_confirmation"

/-- One release of one family. -/
structure MessageProfile where
  release : Release
  family : MessageFamily
  deriving DecidableEq

namespace MessageProfile

/-- The message identifier, which is also the last part of the namespace. -/
def messageId : MessageProfile → String
  | ⟨.sr2025, .announcement⟩ => "seev.031.001.15"
  | ⟨.sr2026, .announcement⟩ => "seev.031.001.16"
  | ⟨.sr2025, .instruction⟩ => "seev.033.001.13"
  | ⟨.sr2026, .instruction⟩ => "seev.033.001.14"
  | ⟨.sr2025, .movementPreliminaryAdvice⟩ => "seev.035.001.16"
  | ⟨.sr2026, .movementPreliminaryAdvice⟩ => "seev.035.001.17"
  | ⟨.sr2025, .movementConfirmation⟩ => "seev.036.001.16"
  | ⟨.sr2026, .movementConfirmation⟩ => "seev.036.001.17"

/-- The message element. -/
def root (profile : MessageProfile) : String :=
  match profile.family with
  | .announcement => "CorpActnNtfctn"
  | .instruction => "CorpActnInstr"
  | .movementPreliminaryAdvice => "CorpActnMvmntPrlimryAdvc"
  | .movementConfirmation => "CorpActnMvmntConf"

def namespaceUri (profile : MessageProfile) : String := messageNamespace profile.messageId

end MessageProfile

/-! ## Refusals -/

/-- Why the adapter would not encode or decode. -/
inductive AdapterRefusalReason
  | wrongVersion
  | wrongMessage
  | notInProfile
  | notRepresentable
  | eventMismatch
  | malformed
  deriving DecidableEq, Repr

def AdapterRefusalReason.value : AdapterRefusalReason → String
  | wrongVersion => "wrong_version"
  | wrongMessage => "wrong_message"
  | notInProfile => "not_in_profile"
  | notRepresentable => "not_representable"
  | eventMismatch => "event_mismatch"
  | malformed => "malformed"

/-- The adapter's exception. -/
def refusal (reason : AdapterRefusalReason) (detail : String) : PyError :=
  .refused "AdapterRefusalError" (reason.value ++ ": " ++ detail)

/-! ## Codes -/

def eventCode : EventType → String
  | .cashDividend => "DVCA"
  | .stockDividend => "DVSE"
  | .split => "SPLF"
  | .reverseSplit => "SPLR"
  | .merger => "MRGR"
  | .tenderOffer => "TEND"
  | .rights => "RHDI"
  | .redemptionLottery => "DRAW"
  | .interestPayment => "INTR"
  | .finalMaturity => "REDM"
  | .partialRedemption => "PRED"
  | .fullCall => "MCAL"
  | .capitalGainsDistribution => "CAPG"
  | .capitalDistribution => "CAPD"
  | .reinvestment => "DRIP"

/-- The event types, by their codes. -/
def eventTypes : List (String × EventType) :=
  [.cashDividend, .stockDividend, .split, .reverseSplit, .merger, .tenderOffer, .rights,
    .redemptionLottery, .interestPayment, .finalMaturity, .partialRedemption, .fullCall,
    .capitalGainsDistribution, .capitalDistribution, .reinvestment].map fun event =>
      (eventCode event, event)

def participationCode : Participation → String
  | .mandatory => "MAND"
  | .voluntary => "VOLU"
  | .mandatoryWithChoice => "CHOS"

/-- The participations, by their codes. -/
def participations : List (String × Participation) :=
  [.mandatory, .voluntary, .mandatoryWithChoice].map fun participation =>
    (participationCode participation, participation)

def optionCode : OptionType → String
  | .cash => "CASH"
  | .secu => "SECU"
  | .case => "CASE"
  | .noac => "NOAC"
  | .othr => "OTHR"

/-- The option types, by their codes. -/
def optionTypes : List (String × OptionType) :=
  [.cash, .secu, .case, .noac, .othr].map fun option => (optionCode option, option)

def lookup {α : Type} (mapping : List (String × α)) (code : String) : Option α :=
  (mapping.find? fun entry => entry.1 = code).map Prod.snd

/-- What a code stands for, where the adapter models it. -/
def ofCode {α : Type} (mapping : List (String × α)) (code what : String) : Outcome α :=
  match lookup mapping code with
  | some meaning => .ok meaning
  | none => .error (refusal .notRepresentable (what ++ " " ++ quoted code ++ " is not modeled"))

def optionTypeOf (code : String) : Outcome OptionType := ofCode optionTypes code "option type"

def booleanCodes : List (String × Bool) :=
  [("true", true), ("1", true), ("false", false), ("0", false)]

def shortCodes : List (String × Bool) := [("SHOR", true), ("LONG", false)]

def creditCodes : List (String × Bool) := [("CRDT", true), ("DBIT", false)]

/-- What one of two sides a code names. -/
def oneOf (value : String) (allowed : List (String × Bool)) (what : String) : Outcome Bool :=
  match lookup allowed value with
  | some side => .ok side
  | none => .error (refusal .malformed (what ++ " " ++ quoted value ++ " is not one of " ++
      quotedList ((allowed.map Prod.fst).mergeSort fun a b => a ≤ b)))

/-! ## Values -/

/-- A character of an identifier, the slash apart. -/
def isFinxChar (c : Char) : Bool :=
  c.isAlphanum || c ∈ ['-', '?', ':', '(', ')', '.', ',', singleQuote, '+', ' ']

/-- A slash stands before another character, and every other character is an identifier's. -/
def isSlashed : List Char → Bool
  | [] => true
  | '/' :: rest => rest.head?.any isFinxChar && isSlashed rest
  | c :: rest => isFinxChar c && isSlashed rest

/-- An event identifier's pattern, over a whole text. It begins with no slash. -/
def matchesFinx16 (text : String) : Bool :=
  text.toList.head?.any isFinxChar && isSlashed text.toList

/-- An account's pattern, over a whole text. -/
def matchesFinx35 (text : String) : Bool :=
  text.toList.length ≤ 35 && text.toList.all fun c => isFinxChar c || c = '/'

/-- A description's pattern, over a whole text. -/
def matchesFinx350 (text : String) : Bool :=
  text.toList.length ≤ 350 && text.toList.all fun c =>
    isFinxChar c || c ∈ ['/', XmlText.lineFeed, XmlText.carriageReturn]

/-- A text of a pattern, and not too long. -/
def checked (value : String) (pattern : String → Bool) (what : String) (maximum : ℕ) :
    Outcome String := do
  Outcome.refuseIf (value.length < 1 ∨ maximum < value.length ∨ pattern value = false)
    (refusal .notRepresentable (what ++ " " ++ quoted value ++
      " is not in DTC" ++ String.ofList [singleQuote] ++ "s character set or is longer than " ++
        toString maximum))
  .ok value

def eventIdentifier (value : String) : Outcome String :=
  checked value matchesFinx16 "event identifier" 16

def accountIdentifier (value : String) : Outcome String :=
  checked value matchesFinx35 "account" 35

/-- How many digits a value may have, and how many of them after the point. -/
structure DigitLimits where
  total : ℕ
  places : ℕ

def rateDigits : DigitLimits := ⟨14, 13⟩

def amountDigits : DigitLimits := ⟨14, 5⟩

def quantityDigits : DigitLimits := ⟨14, 14⟩

/-- A value as the depository writes it: not negative, without idle zeros, within its limits. -/
def decimal (value : FiniteDecimal) (digits : DigitLimits) (what : String) : Outcome String := do
  Outcome.refuseIf (value.lt 0 = true)
    (refusal .notRepresentable (what ++ " " ++ value.text ++ " is negative"))
  let chars := (FiniteDecimal.plainText value).toList
  let whole := (wholePart chars).dropWhile (· = '0')
  let fraction := (fractionPart chars).rdropWhile (· = '0')
  Outcome.refuseIf
    (digits.total < whole.length + fraction.length ∨ digits.places < fraction.length)
    (refusal .notRepresentable (what ++ " " ++ value.text ++ " exceeds " ++
      toString digits.total ++ " digits or " ++ toString digits.places ++ " decimal places"))
  .ok (String.ofList (joinedParts whole fraction))

/-- The number of a text. -/
def parseDecimal (text what : String) : Outcome FiniteDecimal :=
  match Decimal.ofText text with
  | .ok (.finite value) => .ok value
  | .ok _ => .error (refusal .malformed (what ++ " " ++ quoted text ++ " is not finite"))
  | .error _ => .error (refusal .malformed (what ++ " " ++ quoted text ++ " is not a number"))

/-- The date of a text. -/
def parseDate (text what : String) : Outcome Date :=
  match Date.fromisoformat text with
  | .ok date => .ok date
  | .error _ => .error (refusal .malformed (what ++ " " ++ quoted text ++ " is not an ISO date"))

/-! ## Building -/

/-- An element below others, each of which holds nothing else. -/
def nest : List String → XmlElement → XmlElement
  | [], e => e
  | name :: path, e => .group name [nest path e]

/-- A balance: its side, and its size. -/
def signedBalance (tag : String) (value : FiniteDecimal) : Outcome XmlElement := do
  let size ← FiniteDecimal.abs .ambient value
  let text ← decimal size quantityDigits tag
  .ok (.group tag [.group "Bal"
    [.leaf "ShrtLngPos" (if value.lt 0 then "SHOR" else "LONG"),
     nest ["QtyChc", "Qty"] (.leaf "Unit" text)]])

/-- The eligible balance, which is written another way. -/
def eligibleBalance (value : FiniteDecimal) : Outcome XmlElement := do
  let size ← FiniteDecimal.abs .ambient value
  let text ← decimal size quantityDigits "eligible balance"
  .ok (nest ["TtlElgblBal", "Bal", "QtyChc"] (.group "SgndQty"
    [.leaf "ShrtLngPos" (if value.lt 0 then "SHOR" else "LONG"),
     nest ["Qty"] (.leaf "Unit" text)]))

/-- One emitted message: its text, and which profile it follows. -/
structure EncodedMessage where
  profile : MessageProfile
  messageId : String
  xml : String
  source : SourceIdentity
  deriving DecidableEq

/-- Which source an emitted message names. -/
def adapterSource (reference : String) : SourceIdentity where
  sourceId := "synthetic-dtc-iso20022-adapter"
  reference := some reference
  named := rfl

/-- The tree of a message. The namespace is declared once, at the root. -/
def documentTree (profile : MessageProfile) (children : List XmlElement) : XmlElement :=
  .element "Document" [("xmlns", profile.namespaceUri)] none [.group profile.root children]

def encoded (profile : MessageProfile) (children : List XmlElement) : EncodedMessage where
  profile := profile
  messageId := profile.messageId
  xml := String.ofList (XmlText.xmlDeclaration ++
    XmlText.writeElement profile.namespaceUri (documentTree profile children))
  source := adapterSource profile.messageId

/-! ## Reading -/

/-- The library functions the adapter calls: the parser, with its complaint where bytes are no
document, and what the validation library says of an error. -/
structure AdapterLibrary where
  fromstring : String → Except String XmlElement
  errorMessage : PyError → String

/-- Reading and validating left no error but the validation library's, or that error is reported
as the adapter's own. -/
def AdapterLibrary.orInvalid {α : Type} (library : AdapterLibrary) (what : String)
    (x : Outcome α) : Outcome α :=
  match x with
  | .error (.valueError message) =>
    .error (refusal .notRepresentable (what ++ library.errorMessage (.valueError message)))
  | x => x

/-- A text that was checked not to be empty. -/
def nonEmpty (text : String) : Outcome { text : String // required text = .ok () } :=
  Outcome.checked (required text) fun named => ⟨text, named⟩

/-- What is missing, where it is. -/
def orRefuse {α : Type} (found : Option α) (reason : AdapterRefusalReason) (detail : String) :
    Outcome α :=
  match found with
  | some value => .ok value
  | none => .error (refusal reason detail)

/-- The two first parts of an identifier name its family. -/
def familyOf (messageId : String) : List (List Char) := (messageId.toList.splitOn '.').take 2

/-- A message of another profile is refused. -/
def checkProfile (profile : MessageProfile) (found : String) : Outcome Unit :=
  Outcome.refuseIf (found ≠ profile.messageId)
    (refusal (if familyOf found = familyOf profile.messageId then .wrongVersion else .wrongMessage)
      ("the message is " ++ found ++ "; " ++ profile.release.value ++ " " ++
        profile.family.value ++ " is " ++ profile.messageId))

/-- The namespace and the name in a tag that begins with a brace. -/
def splitTag (tag : String) : String × String :=
  let chars := tag.toList.drop 1
  (String.ofList (chars.takeWhile (· ≠ closeBrace)),
    String.ofList ((chars.dropWhile (· ≠ closeBrace)).drop 1))

/-- What every namespace begins with. -/
def namespacePrefix : List Char := (messageNamespace "").toList

/-- The message element, where it was found. -/
def orMissing (profile : MessageProfile) (found : Option XmlElement) : Outcome XmlElement :=
  match found with
  | some root => .ok root
  | none => .error (refusal .malformed ("no " ++ profile.root ++ " element"))

/-- The message element of a document, where it is one of the profile. -/
def openDocument (profile : MessageProfile) (document : XmlElement) : Outcome XmlElement := do
  let (uri, name) := splitTag document.tag
  Outcome.refuseIf (name ≠ "Document" ∨ namespacePrefix.isPrefixOf uri.toList = false)
    (refusal .malformed "not an ISO 20022 Document")
  checkProfile profile (String.ofList (uri.toList.drop namespacePrefix.length))
  orMissing profile (document.findPath uri [profile.root])

/-- The message element of a text, where it is a message of the profile. -/
def openMessage (library : AdapterLibrary) (xml : String) (profile : MessageProfile) :
    Outcome XmlElement := do
  Outcome.refuseIf ("<!DOCTYPE".toList <:+: xml.toList ∨ "<!ENTITY".toList <:+: xml.toList)
    (refusal .malformed "a document type or entity is not accepted")
  match library.fromstring xml with
  | .ok document => openDocument profile document
  | .error complaint => .error (refusal .malformed ("not well-formed XML: " ++ complaint))

section

variable (namespaceUri : String)

/-- The text at the end of a path, without the blanks at its ends. -/
def textAt (path : List String) (parent : XmlElement) : Option String :=
  ((parent.findPath namespaceUri path).bind XmlElement.text).map stripped

/-- A text that may be neither missing nor blank. -/
def requiredAt (path : List String) (parent : XmlElement) : Outcome String :=
  match textAt namespaceUri path parent with
  | none => .error (refusal .malformed (String.intercalate "/" path ++ " is required"))
  | some value => do
    Outcome.refuseIf (value = "")
      (refusal .malformed (String.intercalate "/" path ++ " is required"))
    .ok value

/-- The date at the end of a path, where there is one. -/
def dateAt (path : List String) (parent : XmlElement) : Outcome (Option Date) :=
  match textAt namespaceUri path parent with
  | none => .ok none
  | some value => some <$> parseDate value (String.intercalate "/" path)

/-- The balance at the end of a path, where there is one: a short one is below zero. -/
def signedAt (path : List String) (eligible : Bool) (parent : XmlElement) :
    Outcome (Option FiniteDecimal) :=
  match parent.findPath namespaceUri path with
  | none => .ok none
  | some node => do
    let inner := if eligible then ["Bal", "QtyChc", "SgndQty"] else ["Bal"]
    let quantity := if eligible then ["Qty", "Unit"] else ["QtyChc", "Qty", "Unit"]
    let text ← requiredAt namespaceUri (inner ++ quantity) node
    let value ← parseDecimal text (String.intercalate "/" path)
    let position ← requiredAt namespaceUri (inner ++ ["ShrtLngPos"]) node
    let short ← oneOf position shortCodes "position"
    if short then some <$> FiniteDecimal.neg .ambient value else .ok (some value)

end

/-- What is read is a reported fact. -/
def sourceCheck (provenance : Provenance) : Outcome Unit :=
  Outcome.refuseIf (!provenance.isFact) (refusal .notRepresentable
    ("a decoded message is a reported fact: FACT_EXTERNAL or FACT_SYNTHETIC, not " ++
      provenance.value))

end Iso20022

end CorporateActions

end Atreides
