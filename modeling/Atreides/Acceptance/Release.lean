import Atreides.Acceptance.Totality
import Atreides.Foundation.Decimal.Exact

/-!
# The cash gate and the instructions it governs

An instruction is released when an obligation was accepted and the instruction was prepared
against that very acceptance. The cash gate is to govern every instruction that is released:
its decision names the obligation, proceeds, and covers what the instruction carries. The
predicate on the gate passes a payload that states delivery free of payment without a
decision, and nothing else looks at the legs of such a payload, so a cash leg that comes with
it is released ungoverned.

## Main definitions

* `Governs` — a decision governs an instruction
* `Released` — an instruction is released
* `FreeOfGate` — a release that the cash gate has no part in

## Main results

* `released_iff` — what is accepted and prepared, in terms of the inputs
* `released_governed_iff` — releases are governed exactly where none is free of the gate
-/

namespace Atreides

namespace Acceptance

/-- A decision of the cash gate governs an instruction under an envelope. -/
structure Governs {kernel : Kernel} (envelope : SettlementObligationEnvelope)
    (decision : CatoCashDecision kernel) (instruction : CashLegInstruction) : Prop where
  proceeds : decision.decision = .proceed
  obligation : decision.obligationId = some envelope.obligationId
  digest : decision.obligationDigest = some (envelope.digest kernel)
  notional : ∃ notional, decision.evaluatedNotional = some notional ∧
    Decimal.eq notional instruction.amount = .ok true
  currency : decision.evaluatedCurrency = some instruction.currency
  covered : ∃ text net, (Dict.ofPairs decision.fundingStateSnapshot).get? "net_obligation" =
    some text ∧ Decimal.ofText text = .ok net ∧ Decimal.le instruction.amount net = .ok true

/-- An obligation is accepted, and its instruction prepared against the acceptance. -/
def Released (library : Library) (envelope : SettlementObligationEnvelope) (payload : Bytes)
    (acceptanceId : Uuid) (evaluatedAt : Timestamp) (decidedBy : ActorRef)
    (evidence : Evidence library) (preparation : Preparation) : Prop :=
  ∃ record artifact,
    evaluateCandidate library envelope payload acceptanceId evaluatedAt decidedBy evidence =
      .ok record ∧
    record.disposition = .pass ∧
    prepareInstruction library envelope payload (some record) preparation = .ok artifact

/-- The cash gate was asked, and governs the instruction. -/
def Governed {library : Library} (envelope : SettlementObligationEnvelope)
    (evidence : Evidence library) (preparation : Preparation) : Prop :=
  ∃ decision, evidence.gateDecision = some decision ∧
    Governs envelope decision preparation.instruction

/-- The instruction is the cash leg of a candidate, between the institutions that the named
registry has behind its accounts, and can be emitted. -/
structure Matches (library : Library) (c : ObligationCandidate) (preparation : Preparation) :
    Prop where
  terms : ∃ total, cashTerms c = some (total, preparation.instruction.currency) ∧
    Decimal.eq preparation.instruction.amount total = .ok true
  parties : ∃ registry, preparation.participantRegistry = some registry ∧
    c.participantRegistryDigest = some (registry.digest library.kernel library.canonicalBytesOf) ∧
    registry.institution (c.cashLeg.bind CashLeg.payingAccountId) =
      some preparation.instruction.debtor ∧
    registry.institution (c.cashLeg.bind CashLeg.receivingAccountId) =
      some preparation.instruction.creditor
  running : Running library preparation.halt
  readable :
    library.xml.fromstring (library.xml.tostring
      (businessApplicationHeader preparation.instruction preparation.profile)) ≠ none ∧
    library.xml.fromstring (library.xml.tostring
      (fiCreditTransfer preparation.instruction preparation.profile)) ≠ none

/-- A payload that states delivery free of payment is acceptable, and carries the cash leg of
the instruction all the same. -/
structure FreeOfGate (library : Library) (envelope : SettlementObligationEnvelope)
    (payload : Bytes) (evidence : Evidence library) (preparation : Preparation)
    (c : ObligationCandidate) : Prop where
  free : c.deliveryPattern = some library.fop
  acceptable : Acceptable library envelope payload evidence c
  instruction : Matches library c preparation

/-! ## Preparation -/

variable {library : Library} {envelope : SettlementObligationEnvelope} {payload : Bytes}
  {acceptanceId : Uuid} {evaluatedAt : Timestamp} {decidedBy : ActorRef}
  {evidence : Evidence library} {preparation : Preparation} {c : ObligationCandidate}

theorem checkTerms_eq_ok_iff {instruction : CashLegInstruction} :
    checkTerms c instruction = .ok () ↔
      ∃ total, cashTerms c = some (total, instruction.currency) ∧
        Decimal.eq instruction.amount total = .ok true := by
  rw [checkTerms.eq_def]
  cases hterms : cashTerms c with
  | none => simp
  | some terms =>
    obtain ⟨total, currency⟩ := terms
    simp only [Outcome.bind_eq_ok, Outcome.refuseIf_eq_ok, Option.some.injEq, Prod.mk.injEq]
    constructor
    · rintro ⟨same, hsame, -, hyes, hcurrency⟩
      refine ⟨total, ⟨rfl, (not_not.mp hcurrency).symm⟩, ?_⟩
      rw [not_not] at hyes
      rw [hsame, hyes]
    · rintro ⟨total', ⟨rfl, rfl⟩, hsame⟩
      exact ⟨true, hsame, (), by simp, by simp⟩

theorem checkRegistry_eq_ok_iff {given : Option ParticipantRegistry}
    {registry : ParticipantRegistry} :
    checkRegistry library c given = .ok registry ↔ given = some registry ∧
      c.participantRegistryDigest =
        some (registry.digest library.kernel library.canonicalBytesOf) := by
  cases given with
  | none => simp [checkRegistry]
  | some given =>
    simp only [checkRegistry, Outcome.bind_eq_ok, Outcome.refuseIf_eq_ok, Option.some.injEq]
    constructor
    · rintro ⟨-, -, -, hsame, h⟩
      cases h
      exact ⟨rfl, (not_not.mp hsame).symm⟩
    · rintro ⟨rfl, hsame⟩
      exact ⟨(), by simp [hsame], (), by simp [hsame], rfl⟩

/-- The parties of an instruction differ, because it was built. -/
theorem bicfi_ne (instruction : CashLegInstruction) :
    instruction.debtor.bicfi ≠ instruction.creditor.bicfi := by
  intro hsame
  have hvalid := instruction.valid
  simp only [CashLegInstruction.validate, Outcome.bind_eq_ok] at hvalid
  obtain ⟨_, -, _, -, _, -, hrest⟩ := hvalid
  split_ifs at hrest <;> simp at hrest

theorem checkParties_eq_ok_iff {registry : ParticipantRegistry}
    {instruction : CashLegInstruction} :
    checkParties c registry instruction = .ok () ↔
      registry.institution (c.cashLeg.bind CashLeg.payingAccountId) = some instruction.debtor ∧
      registry.institution (c.cashLeg.bind CashLeg.receivingAccountId) =
        some instruction.creditor := by
  rw [checkParties.eq_def]
  cases registry.institution (c.cashLeg.bind CashLeg.payingAccountId) with
  | none => simp
  | some payer =>
    cases registry.institution (c.cashLeg.bind CashLeg.receivingAccountId) with
    | none => simp
    | some receiver =>
      simp only [Outcome.bind_eq_ok, Outcome.refuseIf_eq_ok, Option.some.injEq]
      constructor
      · rintro ⟨-, hsame, -⟩
        obtain ⟨hdebtor, hcreditor⟩ := not_or.mp hsame
        exact ⟨(not_not.mp hdebtor).symm, (not_not.mp hcreditor).symm⟩
      · rintro ⟨rfl, rfl⟩
        exact ⟨(), by simp, bicfi_ne instruction⟩

/-- Without a halt that blocks, the package of an instruction is emitted. -/
theorem emitInstructionArtifact_eq_ok_iff {instruction : CashLegInstruction}
    {profile : DepositoryProfile} {halt : Option HaltContext} {artifact : InstructionArtifact} :
    emitInstructionArtifact library.kernel library.xml instruction profile halt = .ok artifact ↔
      Running library halt ∧ artifact =
        { headerXml := library.xml.tostring (businessApplicationHeader instruction profile)
          documentXml := library.xml.tostring (fiCreditTransfer instruction profile)
          messageDefinition := profile.fiCreditTransferName
          profileName := profile.name
          profileVerified := profile.verifiedAgainstPublishedSpec
          dsorLineageUri := instruction.dsorLineageUri } := by
  cases halt with
  | none =>
    have hrunning : Running library none := fun _ h => nomatch h
    simp only [emitInstructionArtifact, Except.ok.injEq, hrunning, true_and]
    exact eq_comm
  | some halt =>
    by_cases hblock : library.kernel.gateUnderHalt halt .atreides = .block
    · have hstopped : ¬ Running library (some halt) := fun h => h halt rfl hblock
      simp [emitInstructionArtifact, hblock, hstopped]
    · have hrunning : Running library (some halt) := by
        rintro other ⟨⟩
        exact hblock
      simp only [emitInstructionArtifact, if_neg hblock, Except.ok.injEq, hrunning, true_and]
      exact eq_comm

theorem instructionOf_returns_iff :
    (∃ artifact, instructionOf library c preparation = .ok artifact) ↔
      Matches library c preparation := by
  simp only [instructionOf, emitReadable, Outcome.bind_eq_ok, Outcome.refuseIf_eq_ok]
  constructor
  · rintro ⟨artifact, ⟨⟩, hterms, registry, hregistry, ⟨⟩, hparties, package, hpackage, -,
      hreadable, -⟩
    obtain ⟨hrunning, rfl⟩ := emitInstructionArtifact_eq_ok_iff.mp hpackage
    obtain ⟨hgiven, hnamed⟩ := checkRegistry_eq_ok_iff.mp hregistry
    obtain ⟨hheader, hdocument⟩ := not_or.mp hreadable
    exact ⟨checkTerms_eq_ok_iff.mp hterms,
      ⟨registry, hgiven, hnamed, checkParties_eq_ok_iff.mp hparties⟩, hrunning,
      by simpa using hheader, by simpa using hdocument⟩
  · rintro ⟨hterms, ⟨registry, hgiven, hnamed, hparties⟩, hrunning, hheader, hdocument⟩
    refine ⟨_, (), checkTerms_eq_ok_iff.mpr hterms, registry,
      checkRegistry_eq_ok_iff.mpr ⟨hgiven, hnamed⟩, (), checkParties_eq_ok_iff.mpr hparties, _,
      emitInstructionArtifact_eq_ok_iff.mpr ⟨hrunning, rfl⟩, (), ?_, rfl⟩
    rw [not_or]
    exact ⟨by simpa using hheader, by simpa using hdocument⟩

/-! ## The cash gate -/

/-- Equal numbers are finite together, and have one value. -/
theorem value_eq_of_eq {a : FiniteDecimal} {total : Decimal}
    (h : Decimal.eq (.finite a) total = .ok true) :
    ∃ b, total = .finite b ∧ a.value = b.value := by
  cases total with
  | finite b =>
    refine ⟨b, rfl, ?_⟩
    rw [← FiniteDecimal.eq_iff]
    exact Except.ok.inj h
  | infinite negative => cases h
  | nan negative signaling payload => cases signaling <;> cases h

/-- What equals a finite number is one, and has its value. -/
theorem value_eq_of_eq_finite {total : Decimal} {b : FiniteDecimal}
    (h : Decimal.eq total (.finite b) = .ok true) :
    ∃ a, total = .finite a ∧ a.value = b.value := by
  cases total with
  | finite a => exact ⟨a, rfl, FiniteDecimal.eq_iff.mp (Except.ok.inj h)⟩
  | infinite negative => cases h
  | nan negative signaling payload => cases signaling <;> cases h

/-- An amount no greater than a number is no greater when it is written in another way. -/
theorem le_of_lt_false {a b : FiniteDecimal} {net : Decimal} (hvalue : a.value = b.value)
    (h : Decimal.lt net (.finite b) = .ok false) : Decimal.le (.finite a) net = .ok true := by
  cases net with
  | finite n =>
    have hnot : n.lt b = false := Except.ok.inj h
    have hsame : n.lt a = false := by
      rw [← Bool.not_eq_true, FiniteDecimal.lt_iff] at hnot ⊢
      rwa [hvalue]
    exact congrArg (fun t => Except.ok !t) hsame
  | infinite negative =>
    have hnot : negative = false := Except.ok.inj h
    subst hnot
    rfl
  | nan negative signaling payload => cases h

/-- A cash gate that passes on a payload with cash governs the instruction of the cash leg. -/
theorem governed_of_funded (hcash : c.deliveryPattern ≠ some library.fop)
    (hfunded : Funded library envelope evidence c) (hmatches : Matches library c preparation) :
    Governed envelope evidence preparation := by
  obtain ⟨decision, hdecision, hsound⟩ := soundDecision_of_funded hcash hfunded
  obtain ⟨total', currency', notional, hterms', hnotional, hequal, hcurrency, text, net, htext,
    hnet, hcovers⟩ := hsound.terms
  obtain ⟨total, hterms, hamount⟩ := hmatches.terms
  cases hterms.symm.trans hterms'
  -- the amount of the instruction is a number, and so are the total and the notional
  obtain ⟨a, ha⟩ := preparation.instruction.amount_finite
  rw [ha] at hamount
  obtain ⟨b, rfl, hvalue⟩ := value_eq_of_eq hamount
  obtain ⟨n, rfl, hnvalue⟩ := value_eq_of_eq_finite hequal
  have hsame : n.eq a = true := by rw [FiniteDecimal.eq_iff, hnvalue, hvalue]
  refine ⟨decision, hdecision, hsound.proceeds, hsound.governs, hsound.current,
    ⟨n, hnotional, ?_⟩, hcurrency, text, net, htext, hnet, ?_⟩
  · rw [ha]
    exact congrArg Except.ok hsame
  · rw [ha]
    exact le_of_lt_false hvalue hcovers

/-! ## Releases -/

/-- The record of an accepted obligation is one that the preparation takes. -/
theorem checkAcceptance_of_pass {record : FrozenAcceptanceRecord}
    (h : evaluateCandidate library envelope payload acceptanceId evaluatedAt decidedBy evidence =
      .ok record)
    (hpass : record.disposition = .pass) : checkAcceptance library envelope (some record) =
      .ok () := by
  obtain ⟨hid, hdigest⟩ := evaluateCandidate_names h
  simp only [checkAcceptance, Outcome.bind_eq_ok, Outcome.refuseIf_eq_ok]
  exact ⟨(), by simp [hpass], (), by simp [hid], by simp [hdigest]⟩

/-- What is accepted and prepared, in terms of the inputs. -/
theorem released_iff :
    Released library envelope payload acceptanceId evaluatedAt decidedBy evidence preparation ↔
      evaluatedAt.utcOffset ≠ none ∧ ∃ c, Acceptable library envelope payload evidence c ∧
        Funded library envelope evidence c ∧ Matches library c preparation := by
  constructor
  · rintro ⟨record, artifact, hrecord, hpass, hprepare⟩
    obtain ⟨htime, c, hacceptable, hfunded⟩ :=
      evaluateCandidate_passes_iff.mp ⟨record, hrecord, hpass⟩
    simp only [prepareInstruction, Outcome.bind_eq_ok] at hprepare
    obtain ⟨-, -, -, -, c', hparse, hinstruction⟩ := hprepare
    rw [parsePayload.eq_def, hacceptable.parsed] at hparse
    cases hparse
    exact ⟨htime, c, hacceptable, hfunded, instructionOf_returns_iff.mp ⟨artifact, hinstruction⟩⟩
  · rintro ⟨htime, c, hacceptable, hfunded, hmatches⟩
    obtain ⟨record, hrecord, hpass⟩ :=
      (@evaluateCandidate_passes_iff library envelope payload acceptanceId evaluatedAt decidedBy
        evidence).mpr ⟨htime, c, hacceptable, hfunded⟩
    obtain ⟨artifact, hinstruction⟩ := instructionOf_returns_iff.mpr hmatches
    refine ⟨record, artifact, hrecord, hpass, ?_⟩
    simp only [prepareInstruction, Outcome.bind_eq_ok, Outcome.refuseIf_eq_ok]
    refine ⟨(), by simp [hacceptable.attested], (), checkAcceptance_of_pass hrecord hpass, c, ?_,
      hinstruction⟩
    rw [parsePayload.eq_def, hacceptable.parsed]

/-- Releases are governed exactly where none is free of the gate, but by luck. -/
theorem released_governed_iff :
    (Released library envelope payload acceptanceId evaluatedAt decidedBy evidence preparation →
        Governed envelope evidence preparation) ↔
      (evaluatedAt.utcOffset ≠ none →
        (∃ c, FreeOfGate library envelope payload evidence preparation c) →
        Governed envelope evidence preparation) := by
  rw [released_iff]
  constructor
  · rintro h htime ⟨c, hfree, hacceptable, hmatches⟩
    refine h ⟨htime, c, hacceptable, ?_, hmatches⟩
    exact ⟨_, by rw [funding.eq_def, if_pos hfree], rfl⟩
  · rintro h ⟨htime, c, hacceptable, hfunded, hmatches⟩
    by_cases hfree : c.deliveryPattern = some library.fop
    · exact h htime ⟨c, hfree, hacceptable, hmatches⟩
    · exact governed_of_funded hfree hfunded hmatches

/-! ### A free delivery with a cash leg -/

/-- An obligation that states delivery free of payment and has a cash leg of ten. -/
def freeWithCash : ObligationCandidate where
  sourceManifest := some ⟨[⟨"ALLOCATION", "all-2",
    "sha256:" ++ String.ofList (List.replicate 64 '2'), by decide, by decide, by decide⟩]⟩
  securitiesLeg := some ⟨some "912828XX2", some 5, some "SEC-1", some "SEC-2"⟩
  cashLeg := some ⟨some 10, some 0, some 10, some "USD", some "2026-10-14", some "CASH-2",
    some "CASH-1", by decide⟩
  participants := [⟨"P-1", "SEC-1", "GIVER", by decide, by decide, by decide⟩,
    ⟨"P-2", "SEC-2", "TAKER", by decide, by decide, by decide⟩,
    ⟨"P-2", "CASH-2", "GIVER", by decide, by decide, by decide⟩,
    ⟨"P-1", "CASH-1", "TAKER", by decide, by decide, by decide⟩]
  deliveryPattern := some "FOP"
  candidatePaths := [⟨"free-2", "FEDWIRE", "book-entry", "ledger", some "FOP",
    by decide, by decide, by decide, by decide⟩]
  expectedFinality := [⟨"SECURITIES", "ASSET_FINAL", "sec/2", by decide⟩]
  participantRegistryDigest := some ("sha256:" ++ String.ofList (List.replicate 63 '0') ++ "7")
  accountCapacityDigest_wellFormed := no_digest

def freeWithCashDay : Date := .of 2026 10 14

def freeWithCashEnvelope : SettlementObligationEnvelope where
  obligationId := "obl_01M2P20SY00000000000000002"
  payloadDigest := letterDigest [70, 79, 80, 36]
  firmSecuritiesDirection := .receive
  businessDate := freeWithCashDay
  canonicalBytes := [69, 78, 86, 36]

def buyerBank : FinancialInstitution := ⟨"BUYRUS33", none, by decide⟩

def sellerBank : FinancialInstitution := ⟨"SELLUS33", none, by decide⟩

/-- The instruction of the cash leg, and the registry that the obligation names. -/
def freeWithCashPreparation : Preparation where
  instruction :=
    { messageId := "MSG-2", endToEndId := "E2E-2", createdAt := .midnight freeWithCashDay
      amount := 10, currency := "USD", debtor := buyerBank, creditor := sellerBank
      settlementMethod := .clearingSystem, sender := buyerBank, receiver := sellerBank
      valid := by decide }
  participantRegistry := some ⟨"7", [("CASH-2", buyerBank), ("CASH-1", sellerBank)], by decide⟩

/-- Nothing but the payload is supplied. -/
def nothingSupplied : Evidence (plainLibrary freeWithCash) := ⟨none, none, none⟩

/-- The digests of the plain library have no collisions. -/
theorem letterDigest_injective : Function.Injective letterDigest := by
  have htoNat : ∀ b : UInt8, (Char.ofNat b.toNat).toNat = b.toNat := by
    intro b
    have hvalid : b.toNat.isValidChar := Or.inl (by have := b.toNat_lt; omega)
    rw [Char.ofNat, dif_pos hvalid]
    rfl
  have hbyte : Function.Injective fun b : UInt8 => Char.ofNat b.toNat := by
    intro a b h
    apply UInt8.toNat_inj.mp
    rw [← htoNat a, ← htoNat b]
    exact congrArg Char.toNat h
  intro xs ys h
  have hlist := congrArg String.toList h
  simp only [letterDigest, String.toList_append, String.toList_ofList] at hlist
  exact List.map_injective_iff.mpr hbyte (List.append_cancel_left hlist)

/-- An instruction for ten is released without a decision of the cash gate. -/
theorem free_with_cash_released :
    Function.Injective (plainLibrary freeWithCash).kernel.digestBytes ∧
      Released (plainLibrary freeWithCash) freeWithCashEnvelope [70, 79, 80, 36]
        ⟨"00000000-0000-4000-8000-0000000000d2", by decide⟩ (.midnight freeWithCashDay)
        ⟨"act_2", .deterministicService, "acceptance", [], true⟩ nothingSupplied
        freeWithCashPreparation ∧
      ¬ Governed freeWithCashEnvelope nothingSupplied freeWithCashPreparation := by
  refine ⟨letterDigest_injective, ⟨_, _, rfl, rfl, rfl⟩, ?_⟩
  rintro ⟨decision, hdecision, -⟩
  cases hdecision

end Acceptance

end Atreides
