import Atreides.CorporateActions.Election
import Atreides.CorporateActions.Iso20022.MovementReading

/-!
# Instruction messages

An election instruction as a message against its event, and such a message as an instruction. The
message says neither which instruction it is nor when it was received: both come from the envelope
it arrived in. It is read against one event, and refused against every other.

## Main definitions

* `encodeInstruction` — the message of an instruction
* `readInstruction`, `decodeInstruction` — the instruction of a message
* `RestatesInstruction` — an instruction as a message states another

## Main results

* `instruction_round_trip` — an encoded instruction is decoded, against its own event and release
  alone
-/

namespace Atreides

namespace CorporateActions

namespace Iso20022

open XmlElement XmlText

open CustomerProtection (NonNegativeMoney)

open scoped Characters

/-! ## Encoding -/

/-- The event codes the instruction profile admits. -/
def instructionEventCodes : List String :=
  ["CAPD", "CAPG", "CAPI", "DVCA", "DVOP", "DRIP", "INTR", "LIQU", "NOOF", "OTHR", "PRED", "SOFF"]

/-- The option an instruction elects, with the type it was announced with. -/
def electedOption (instruction : ElectionInstruction) (event : CorporateActionEvent) :
    Outcome OptionType :=
  match (event.options.find? fun option => option.optionId = instruction.optionId).bind
      ElectionOption.optionType with
  | some optionType => .ok optionType
  | none => .error (refusal .notRepresentable
      ("option " ++ quoted instruction.optionId ++ " is not an announced option with a type"))

/-- Where a quantity stands: a face amount by itself, units under what they count. -/
def quantityElement (basis : QuantityBasis) (text : String) : XmlElement :=
  match basis with
  | .faceAmount => .leaf "FaceAmt" text
  | .units => nest ["SctiesQty", "InstdQty", "Qty"] (.leaf "Unit" text)

/-- What an instruction says. -/
def instructionElements (eventId code account : String) (optionId : String)
    (optionType : OptionType) (quantity : XmlElement) : List XmlElement :=
  [.group "CorpActnGnlInf"
     [.leaf "CorpActnEvtId" eventId, nest ["EvtTp"] (.leaf "Cd" code)],
   nest ["AcctDtls"] (.leaf "SfkpgAcct" account),
   .group "CorpActnInstr"
     [nest ["OptnNb"] (.leaf "Nb" optionId),
      nest ["OptnTp"] (.leaf "Cd" (optionCode optionType)),
      nest ["SctiesQtyOrInstdAmt"] quantity]]

/-- The message of an instruction against its event, in a release. -/
def encodeInstruction (instruction : ElectionInstruction) (event : CorporateActionEvent)
    (release : Release) : Outcome EncodedMessage := do
  let code := eventCode event.eventType
  Outcome.refuseIf (code ∉ instructionEventCodes)
    (refusal .notInProfile ("DTC" ++ String.ofList [singleQuote] ++
      "s elective dividend instruction profile does not admit " ++ code))
  Outcome.refuseIf (instruction.protect = true)
    (refusal .notInProfile ("DTC" ++ String.ofList [singleQuote] ++
      "s elective dividend instruction profile carries no protect"))
  let optionType ← electedOption instruction event
  Outcome.refuseIf (isOptionNumber instruction.optionId = false)
    (refusal .notRepresentable
      ("option " ++ quoted instruction.optionId ++ " is not a three-digit option number"))
  let eventId ← eventIdentifier event.eventId
  let account ← accountIdentifier instruction.accountId
  let text ← decimal instruction.quantity.amount quantityDigits "instructed quantity"
  .ok (encoded ⟨release, .instruction⟩
    (instructionElements eventId code account instruction.optionId optionType
      (quantityElement instruction.quantityBasis text)))

/-! ## Decoding -/

/-- What the envelope of an instruction says, and on whose word. -/
structure InstructionEnvelope where
  instructionId : String
  receivedDate : Date
  provenance : Provenance
  source : SourceIdentity

/-- A quantity that was checked to be positive. -/
def positiveQuantity (amount : FiniteDecimal) : Outcome Quantity := do
  let _ ← NonNegativeMoney.check (.finite amount)
  if h : FiniteDecimal.lt 0 amount = true then .ok ⟨amount, h⟩
  else .error (.valueError "greater_than")

/-- An instruction of what was read, where it is a valid one. -/
def electionInstruction (envelope : InstructionEnvelope) (account optionId : String)
    (amount : FiniteDecimal) (basis : QuantityBasis) : Outcome ElectionInstruction := do
  let instructionId ← nonEmpty envelope.instructionId
  let account ← nonEmpty account
  let optionId ← nonEmpty optionId
  let quantity ← positiveQuantity amount
  .ok
    { instructionId := instructionId.1
      accountId := account.1
      optionId := optionId.1
      quantity := quantity
      quantityBasis := basis
      receivedDate := envelope.receivedDate
      provenance := envelope.provenance
      source := envelope.source
      instruction_named := instructionId.2
      account_named := account.2
      option_named := optionId.2 }

/-- The one quantity of an instruction, and how it counts. -/
def readQuantity (namespaceUri : String) (root : XmlElement) :
    Outcome (String × QuantityBasis) :=
  match textAt namespaceUri
      ["CorpActnInstr", "SctiesQtyOrInstdAmt", "SctiesQty", "InstdQty", "Qty", "Unit"] root,
    textAt namespaceUri ["CorpActnInstr", "SctiesQtyOrInstdAmt", "FaceAmt"] root with
  | some _, some _ =>
    .error (refusal .notRepresentable "an instruction carries one quantity choice")
  | some units, none => .ok (units, .units)
  | none, some faceAmount => .ok (faceAmount, .faceAmount)
  | none, none =>
    .error (refusal .notRepresentable "only an instructed quantity in units is modeled")

/-- The instruction of a message element, against an event. -/
def readInstruction (library : AdapterLibrary) (namespaceUri : String)
    (event : CorporateActionEvent) (envelope : InstructionEnvelope) (root : XmlElement) :
    Outcome ElectionInstruction := do
  let eventId ← requiredAt namespaceUri ["CorpActnGnlInf", "CorpActnEvtId"] root
  let code ← requiredAt namespaceUri ["CorpActnGnlInf", "EvtTp", "Cd"] root
  Outcome.refuseIf (eventId ≠ event.eventId ∨ code ≠ eventCode event.eventType)
    (refusal .eventMismatch ("the instruction is for " ++ eventId ++ " (" ++ code ++ "), not " ++
      event.eventId))
  match textAt namespaceUri ["AcctDtls", "SfkpgAcct"] root with
  | none => .error (refusal .notRepresentable "the instruction names no account")
  | some account => do
    let (quantity, basis) ← readQuantity namespaceUri root
    library.orInvalid "the instruction is not valid: " do
      let optionId ← requiredAt namespaceUri ["CorpActnInstr", "OptnNb", "Nb"] root
      let amount ← parseDecimal quantity "instructed quantity"
      electionInstruction envelope account optionId amount basis

/-- The instruction of a text, where it is a message of the release against the event. -/
def decodeInstruction (library : AdapterLibrary) (xml : String) (release : Release)
    (event : CorporateActionEvent) (envelope : InstructionEnvelope) :
    Outcome ElectionInstruction := do
  sourceCheck envelope.provenance
  let profile : MessageProfile := ⟨release, .instruction⟩
  let root ← openMessage library xml profile
  readInstruction library profile.namespaceUri event envelope root

/-! ## Reading back -/

/-- An instruction that was read states what another states, on the word of its envelope: for the
same quantity as a number, and all else alike. -/
structure RestatesInstruction (instruction : ElectionInstruction) (envelope : InstructionEnvelope)
    (read : ElectionInstruction) : Prop where
  fields : read =
    { instruction with
      quantity := read.quantity
      provenance := envelope.provenance
      source := envelope.source }
  quantity : read.quantity.amount.value = instruction.quantity.amount.value

section

variable {instruction : ElectionInstruction} {event : CorporateActionEvent} {release : Release}
  {message : EncodedMessage} {library : AdapterLibrary}

/-- What an encoded instruction is made of. -/
theorem encodeInstruction_parts (h : encodeInstruction instruction event release = .ok message) :
    ∃ (optionType : OptionType) (text : String),
      instruction.protect = false ∧ isOptionNumber instruction.optionId = true ∧
      CarriedText event.eventId ∧ CarriedText instruction.accountId ∧
      WrittenNumber text instruction.quantity.amount.value ∧
      message = encoded ⟨release, .instruction⟩
        (instructionElements event.eventId (eventCode event.eventType) instruction.accountId
          instruction.optionId optionType (quantityElement instruction.quantityBasis text)) := by
  rw [encodeInstruction, Outcome.bind_eq_ok] at h
  obtain ⟨_, -, h⟩ := h
  rw [Outcome.bind_eq_ok] at h
  obtain ⟨_, hprotect, h⟩ := h
  rw [Outcome.bind_eq_ok] at h
  obtain ⟨optionType, -, h⟩ := h
  rw [Outcome.bind_eq_ok] at h
  obtain ⟨_, hnumber, h⟩ := h
  rw [Outcome.bind_eq_ok] at h
  obtain ⟨eventId, hevent, h⟩ := h
  rw [Outcome.bind_eq_ok] at h
  obtain ⟨account, haccount, h⟩ := h
  rw [Outcome.bind_eq_ok] at h
  obtain ⟨text, htext, h⟩ := h
  obtain ⟨rfl, heventCarried⟩ := eventIdentifier_carried hevent
  obtain ⟨rfl, haccountCarried⟩ := accountIdentifier_carried haccount
  rw [Outcome.refuseIf_eq_ok, Bool.not_eq_true] at hprotect
  rw [Outcome.refuseIf_eq_ok, Bool.not_eq_false] at hnumber
  exact ⟨optionType, text, hprotect, hnumber, heventCarried, haccountCarried,
    decimal_written (by decide) htext, (Except.ok.inj h).symm⟩

theorem allCarried_instruction (namespaceUri : String) {eventId code account optionId text : String}
    (optionType : OptionType) (basis : QuantityBasis) (hevent : CarriedText eventId)
    (hcode : CarriedText code) (haccount : CarriedText account) (hoption : CarriedText optionId)
    (htext : CarriedText text) :
    AllCarried namespaceUri (instructionElements eventId code account optionId optionType
      (quantityElement basis text)) := by
  have hquantity : AllCarried namespaceUri [quantityElement basis text] := by
    rcases basis with _ | _
    · exact allCarried_nest (by decide) (allCarried_leaf (by decide) htext)
    · exact allCarried_leaf (by decide) htext
  refine allCarried_cons.mpr ⟨?_, allCarried_cons.mpr ⟨?_, ?_⟩⟩
  · exact allCarried_group (by decide) (allCarried_cons.mpr
      ⟨allCarried_leaf (by decide) hevent,
        allCarried_nest (by decide) (allCarried_leaf (by decide) hcode)⟩)
  · exact allCarried_nest (by decide) (allCarried_leaf (by decide) haccount)
  · refine allCarried_group (by decide) (allCarried_cons.mpr ⟨?_, allCarried_cons.mpr ⟨?_, ?_⟩⟩)
    · exact allCarried_nest (by decide) (allCarried_leaf (by decide) hoption)
    · exact allCarried_nest (by decide)
        (allCarried_leaf (by decide) (kept_optionCode optionType).carried)
    · exact allCarried_nest (by decide) hquantity

/-- A quantity that is read as the same number is positive. -/
theorem positiveQuantity_of_value {quantity : Quantity} {read : FiniteDecimal}
    (h : read.value = quantity.amount.value) :
    ∃ quantity' : Quantity, positiveQuantity read = .ok quantity' ∧ quantity'.amount = read := by
  have hpos : FiniteDecimal.lt 0 read = true := by
    rw [FiniteDecimal.lt_iff, h, ← FiniteDecimal.lt_iff]
    exact quantity.pos
  have hnonneg : FiniteDecimal.le 0 read = true := by
    rw [FiniteDecimal.lt_iff] at hpos
    rw [FiniteDecimal.le_iff]
    exact hpos.le
  refine ⟨⟨read, hpos⟩, ?_, rfl⟩
  rw [positiveQuantity, NonNegativeMoney.check, dif_pos hnonneg, Outcome.ok_bind, dif_pos hpos]

/-- What an instruction that was built holds. -/
theorem electionInstruction_eq_ok {envelope : InstructionEnvelope} {account optionId : String}
    {amount : FiniteDecimal} {basis : QuantityBasis} {read : ElectionInstruction} :
    electionInstruction envelope account optionId amount basis = .ok read ↔
      (read.instructionId = envelope.instructionId ∧ read.accountId = account ∧
        read.optionId = optionId ∧ read.quantityBasis = basis ∧
        read.receivedDate = envelope.receivedDate ∧ read.protect = false ∧
        read.provenance = envelope.provenance ∧ read.source = envelope.source) ∧
      positiveQuantity amount = .ok read.quantity := by
  simp only [electionInstruction, Outcome.bind_eq_ok, nonEmpty_eq_ok]
  constructor
  · rintro ⟨instructionId, hinstruction, account, haccount, optionId, hoption, quantity, hquantity,
      h⟩
    cases h
    exact ⟨⟨hinstruction, haccount, hoption, rfl, rfl, rfl, rfl, rfl⟩, hquantity⟩
  · rintro ⟨⟨hinstruction, haccount, hoption, hbasis, hreceived, hprotect, hprovenance, hsource⟩,
      hquantity⟩
    refine ⟨⟨_, read.instruction_named⟩, hinstruction, ⟨_, read.account_named⟩, haccount,
      ⟨_, read.option_named⟩, hoption, read.quantity, hquantity, ?_⟩
    rw [Except.ok.injEq, ElectionInstruction.ext_iff]
    exact ⟨rfl, rfl, rfl, rfl, hbasis.symm, hreceived.symm, hprotect.symm, hprovenance.symm,
      hsource.symm⟩

/-- An instruction is built of what another states. -/
theorem electionInstruction_of_value {envelope : InstructionEnvelope} {account : String}
    {number : FiniteDecimal} (hid : envelope.instructionId = instruction.instructionId)
    (haccount : account = instruction.accountId)
    (hnumber : number.value = instruction.quantity.amount.value) :
    ∃ read, electionInstruction envelope account instruction.optionId number
      instruction.quantityBasis = .ok read := by
  obtain ⟨quantity, hquantity, -⟩ := positiveQuantity_of_value hnumber
  refine ⟨{ instruction with
    quantity := quantity
    receivedDate := envelope.receivedDate
    protect := false
    provenance := envelope.provenance
    source := envelope.source }, ?_⟩
  rw [electionInstruction_eq_ok]
  exact ⟨⟨hid.symm, haccount.symm, rfl, rfl, rfl, rfl, rfl, rfl⟩, hquantity⟩

/-- What is read of an encoded instruction, against any event. -/
theorem readInstruction_encoded {namespaceUri root text : String} {optionType : OptionType}
    {number : FiniteDecimal} (huri : namespaceUri ≠ "")
    (hoption : isOptionNumber instruction.optionId = true) (hkept : Kept text)
    (hparsed : ∀ what, parseDecimal text what = .ok number)
    (hevent : stripped event.eventId ≠ "") (other : CorporateActionEvent)
    (envelope : InstructionEnvelope) :
    ∃ detail, readInstruction library namespaceUri other envelope (inNamespace namespaceUri
        (.group root (instructionElements event.eventId (eventCode event.eventType)
          instruction.accountId instruction.optionId optionType
            (quantityElement instruction.quantityBasis text)))) =
      (Outcome.refuseIf (stripped event.eventId ≠ other.eventId ∨
          eventCode event.eventType ≠ eventCode other.eventType)
        (refusal .eventMismatch detail) >>= fun _ =>
          library.orInvalid "the instruction is not valid: "
            (electionInstruction envelope (stripped instruction.accountId) instruction.optionId
              number instruction.quantityBasis)) := by
  refine ⟨"the instruction is for " ++ stripped event.eventId ++ " (" ++
    eventCode event.eventType ++ "), not " ++ other.eventId, ?_⟩
  generalize ht : XmlElement.group root (instructionElements event.eventId
    (eventCode event.eventType) instruction.accountId instruction.optionId optionType
      (quantityElement instruction.quantityBasis text)) = t
  have hidentifier : textAt "" ["CorpActnGnlInf", "CorpActnEvtId"] t =
      some (stripped event.eventId) := by
    rw [← ht]
    rfl
  have hcode : textAt "" ["CorpActnGnlInf", "EvtTp", "Cd"] t =
      some (stripped (eventCode event.eventType)) := by
    rw [← ht]
    rfl
  have haccount : textAt "" ["AcctDtls", "SfkpgAcct"] t =
      some (stripped instruction.accountId) := by
    rw [← ht]
    rfl
  have hnumber : textAt "" ["CorpActnInstr", "OptnNb", "Nb"] t =
      some (stripped instruction.optionId) := by
    rw [← ht]
    rfl
  have hquantity : readQuantity namespaceUri (inNamespace namespaceUri t) =
      .ok (text, instruction.quantityBasis) := by
    rw [readQuantity, textAt_within huri, textAt_within huri, ← ht]
    rcases instruction.quantityBasis with _ | _
    · have hunits : textAt "" ["CorpActnInstr", "SctiesQtyOrInstdAmt", "SctiesQty", "InstdQty",
          "Qty", "Unit"] (.group root (instructionElements event.eventId
            (eventCode event.eventType) instruction.accountId instruction.optionId optionType
              (quantityElement .units text))) = some (stripped text) := rfl
      rw [hunits, hkept.whole]
      rfl
    · have hface : textAt "" ["CorpActnInstr", "SctiesQtyOrInstdAmt", "FaceAmt"]
          (.group root (instructionElements event.eventId (eventCode event.eventType)
            instruction.accountId instruction.optionId optionType
              (quantityElement .faceAmount text))) = some (stripped text) := rfl
      rw [hface, hkept.whole]
      rfl
  rw [readInstruction, requiredAt_within huri,
    (requiredAt_eq_ok hidentifier).mpr ⟨hevent, rfl⟩, Outcome.ok_bind, requiredAt_within huri,
    requiredAt_of_kept hcode (kept_eventCode _), Outcome.ok_bind, textAt_within huri, haccount]
  dsimp only
  rw [hquantity, Outcome.ok_bind, requiredAt_within huri,
    requiredAt_of_kept hnumber (kept_optionNumber hoption), Outcome.ok_bind, hparsed,
    Outcome.ok_bind]

/-- An event is named where an instruction was read. -/
theorem readInstruction_named {namespaceUri root eventId code account optionId : String}
    {optionType : OptionType} {quantity : XmlElement} (huri : namespaceUri ≠ "")
    {envelope : InstructionEnvelope} {read : ElectionInstruction}
    (h : readInstruction library namespaceUri event envelope (inNamespace namespaceUri
      (.group root (instructionElements eventId code account optionId optionType quantity))) =
        .ok read) :
    stripped eventId ≠ "" := by
  have hidentifier : textAt "" ["CorpActnGnlInf", "CorpActnEvtId"]
      (.group root (instructionElements eventId code account optionId optionType quantity)) =
        some (stripped eventId) := rfl
  rw [readInstruction, requiredAt_within huri, Outcome.bind_eq_ok] at h
  obtain ⟨found, hfound, -⟩ := h
  exact ((requiredAt_eq_ok hidentifier).mp hfound).1

theorem eventCode_injective : Function.Injective eventCode := by
  intro a b h
  have hlookup := lookup_eventTypes a
  rw [h, lookup_eventTypes] at hlookup
  exact (Option.some_inj.mp hlookup).symm

/-- What was built of an encoded instruction states it exactly where its account was read as it
is. -/
theorem restatesInstruction_iff {envelope : InstructionEnvelope} {account : String}
    {number : FiniteDecimal} {read : ElectionInstruction}
    (hprotect : instruction.protect = false)
    (hid : envelope.instructionId = instruction.instructionId)
    (hreceived : envelope.receivedDate = instruction.receivedDate)
    (hnumber : number.value = instruction.quantity.amount.value)
    (hread : electionInstruction envelope account instruction.optionId number
      instruction.quantityBasis = .ok read) :
    RestatesInstruction instruction envelope read ↔ account = instruction.accountId := by
  obtain ⟨⟨hinstruction, haccount, hoption, hbasis, hdate, hunprotected, hprovenance, hsource⟩,
    hquantity⟩ := electionInstruction_eq_ok.mp hread
  obtain ⟨quantity', hquantity', hamount⟩ := positiveQuantity_of_value hnumber
  cases hquantity.symm.trans hquantity'
  constructor
  · intro h
    exact haccount.symm.trans (ElectionInstruction.ext_iff.mp h.fields).2.1
  · intro hsame
    refine ⟨?_, by rw [hamount, hnumber]⟩
    rw [ElectionInstruction.ext_iff]
    exact ⟨hinstruction.trans hid, haccount.trans hsame, hoption, rfl, hbasis,
      hdate.trans hreceived, hunprotected.trans hprotect.symm, hprovenance, hsource⟩

end

/-! ## An election -/

/-- An interest payment that a holder may take in shares. -/
def interestChoice : CorporateActionEvent where
  eventId := "CA-74"
  securityId := "US0000000743"
  eventType := .interestPayment
  participation := .mandatoryWithChoice
  dates :=
    { announcementDate := Date.of 2026 9 24
      electionDeadline := some (Date.of 2026 9 29) }
  options := [{ optionId := "074", description := "interest in shares", optionType := some .secu }]
  provenance := .factSynthetic
  source := { sourceId := "SYN-AGENT-74" }

/-- An election of shares for a face amount of a thousand. -/
def sharesElected : ElectionInstruction where
  instructionId := "INS-74"
  accountId := "ACCT (74)"
  optionId := "074"
  quantity := ⟨⟨false, 1, 3⟩, rfl⟩
  quantityBasis := .faceAmount
  receivedDate := Date.of 2026 9 25
  provenance := .humanJudgment
  source := { sourceId := "HOLDER-74" }

/-- The envelope the election arrives in. -/
def electionEnvelope : InstructionEnvelope where
  instructionId := "INS-74"
  receivedDate := Date.of 2026 9 25
  provenance := .factExternal
  source := { sourceId := "MAIL-74" }

end Iso20022

end CorporateActions

end Atreides
