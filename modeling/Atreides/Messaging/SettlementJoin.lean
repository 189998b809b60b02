import Atreides.Messaging.Emit
import Atreides.Messaging.FinalityEvidence
import Atreides.Messaging.Receipt
import Atreides.Messaging.Reconciliation

/-!
# Joining the evidence of a settlement

The prepared artifact, the member's action, the venue's readback and the finality reading
are joined. Finality is published only when all four join. The last section asks whether a
published finality can be contradicted by the report it was read from.

## Main definitions

* `SettlementJoin` — one join; only a final one passes and carries an assertion
* `joinSettlementEvidence` — the join of the four pieces of evidence
* `Uncontradicted` — no entry of the report and no break stands against a settlement

## Main results

* `venue_final_of_join_pass` — a join passes only over a final reading
* `finality_uncontradicted_iff` — exactly when a finality is uncontradicted
-/

namespace Atreides

/-- How far the four pieces of evidence join. -/
inductive JoinedStage
  | unread
  | instructed
  | matched
  | accepted
  | refused
  | settled
  | final
  deriving DecidableEq, Repr

/-- One join. Exactly a final one passes and carries an assertion, and the assertion is one
of the leg asked for, without a confidence. -/
structure SettlementJoin where
  stage : JoinedStage
  disposition : Disposition
  reason : String
  leg : Leg
  artifactDigest : String
  receiptDisposition : Disposition
  venueState : EvidenceState
  venueDisposition : Disposition
  assertion : Option FinalityAssertion := none
  reason_nonempty : reason ≠ ""
  final_iff_pass : stage = .final ↔ disposition = .pass
  final_iff_assertion : stage = .final ↔ assertion.isSome
  assertion_of_leg : ∀ stated ∈ assertion,
    stated.finalityType = leg.finalityType ∧ stated.confidence = none

/-! ## Problems -/

/-- The texts of a document by the names of their elements, in document order. -/
def localTexts (root : XmlElement) : Dict String (List String) :=
  root.iter.foldl (fun found element =>
    let name := XmlElement.localname element.tag
    match element.text.filter (· ≠ "") with
    | none => found
    | some text => found.set name (found.getD name [] ++ [text])) .empty

variable (kernel : Kernel) (xml : XmlLibrary)

/-- The artifact cannot be read, or does not carry the instruction's identity. -/
def artifactProblem (artifact : InstructionArtifact) (instruction : CashLegInstruction) :
    Option Graded :=
  match xml.fromstring artifact.headerXml, xml.fromstring artifact.documentXml with
  | some header, some document =>
    let messageOk :=
      instruction.messageId ∈ (localTexts header).getD "BizMsgIdr" [] ∧
        instruction.messageId ∈ (localTexts document).getD "MsgId" []
    let endToEndOk := instruction.endToEndId ∈ (localTexts document).getD "EndToEndId" []
    if messageOk ∧ endToEndOk then none
    else some
      { disposition := .hold
        reason := "the prepared artifact does not carry the instruction identity" }
  | _, _ => some
    { disposition := .indeterminate
      reason := "the prepared artifact could not be read, so the join cannot be verified" }

/-- A receipt names another instruction. -/
def receiptIdentity (receipts : List (ExternalActionReceipt kernel))
    (instruction : CashLegInstruction) : Option Graded :=
  if receipts.any fun receipt => receipt.messageId ≠ instruction.messageId ||
      receipt.endToEndId ≠ instruction.endToEndId then
    some
      { disposition := .hold
        reason := "a receipt names a different instruction than the prepared artifact" }
  else none

/-- The readback or its entry names another instruction. -/
def readbackIdentity (readback : ReadbackMatch) (entry : Option StatusEntry)
    (instruction : CashLegInstruction) : Option Graded :=
  if readback.report.originalMessageId.any (· ≠ instruction.messageId) then
    some
      { disposition := .hold
        reason := "the readback names a different message than the prepared artifact" }
  else if (entry.bind StatusEntry.endToEndId).any (· ≠ instruction.endToEndId) then
    some
      { disposition := .hold
        reason := "the readback entry names a different end-to-end identity than the " ++
          "prepared artifact" }
  else none

/-! ## The join -/

/-- The receipts that evidence a settlement instruction. -/
def settlementReceipts (receipts : List (ExternalActionReceipt kernel)) :
    List (ExternalActionReceipt kernel) :=
  receipts.filter fun receipt => receipt.action = .settlementInstruction

/-- The member instructed settlement of the artifact. -/
def instructed (receipts : List (ExternalActionReceipt kernel)) (instruction : CashLegInstruction)
    (digest : String) : Bool :=
  let settlement := settlementReceipts kernel receipts
  !settlement.isEmpty &&
    (assessReceipts (some digest) (some instruction.createdAt) settlement).disposition = .pass

/-- The stage of a join that publishes nothing. -/
def openStage (venue : FinalityEvidence) (isInstructed : Bool) : JoinedStage :=
  match venue.state with
  | .unread => if isInstructed then .instructed else .unread
  | .matched => .matched
  | .accepted => .accepted
  | .refused => .refused
  | _ => .settled

theorem openStage_ne_final (venue : FinalityEvidence) (isInstructed : Bool) :
    openStage venue isInstructed ≠ .final := by
  unfold openStage
  split <;> (try split_ifs) <;> decide

/-- The answer of a join that publishes nothing: the first hold, else the first reason that
is not a pass. -/
def openDisposition (problems : List Graded) (receipt : Graded) (venue : FinalityEvidence) :
    Graded :=
  let grades :=
    problems ++ [receipt, ⟨venue.disposition, venue.reason, venue.reason_nonempty⟩]
  match grades.find? fun item => item.disposition = .hold with
  | some item => ⟨.hold, item.reason, item.reason_nonempty⟩
  | none =>
    match grades.find? fun item => item.disposition ≠ .pass with
    | some item => ⟨.indeterminate, item.reason, item.reason_nonempty⟩
    | none =>
      if venue.state = .final then
        { disposition := .indeterminate
          reason := "the evidence does not join, so no finality assertion is published" }
      else ⟨.hold, venue.reason, venue.reason_nonempty⟩

theorem openDisposition_ne_pass (problems : List Graded) (receipt : Graded)
    (venue : FinalityEvidence) : (openDisposition problems receipt venue).disposition ≠ .pass := by
  simp only [openDisposition]
  split
  · exact Disposition.noConfusion
  · split
    · exact Disposition.noConfusion
    · split_ifs
      · exact Disposition.noConfusion
      · exact Disposition.noConfusion

/-- A join that publishes nothing. -/
def openJoin (digest : String) (problems : List Graded) (receipt : Graded)
    (venue : FinalityEvidence) (isInstructed : Bool) : SettlementJoin where
  stage := openStage venue isInstructed
  disposition := (openDisposition problems receipt venue).disposition
  reason := (openDisposition problems receipt venue).reason
  leg := venue.leg
  artifactDigest := digest
  receiptDisposition := receipt.disposition
  venueState := venue.state
  venueDisposition := venue.disposition
  reason_nonempty := (openDisposition problems receipt venue).reason_nonempty
  final_iff_pass := iff_of_false (openStage_ne_final venue isInstructed)
    (openDisposition_ne_pass problems receipt venue)
  final_iff_assertion := iff_of_false (openStage_ne_final venue isInstructed) (by simp)
  assertion_of_leg := by simp

/-- A join that publishes the assertion of a reading. -/
def publishedJoin (digest : String) (receipt : Graded) (venue : FinalityEvidence)
    (h : venue.assertion.isSome) : SettlementJoin where
  stage := .final
  disposition := .pass
  reason := "the prepared artifact, the entitled member action, the venue readback, " ++
    "and a kernel finality assertion join"
  leg := venue.leg
  artifactDigest := digest
  receiptDisposition := receipt.disposition
  venueState := venue.state
  venueDisposition := venue.disposition
  assertion := venue.assertion
  reason_nonempty := by decide
  final_iff_pass := by simp
  final_iff_assertion := by simp [h]
  assertion_of_leg := venue.assertion_of_leg

/-- The join of what was found: it publishes when the settlement was instructed, nothing
stands against it, the receipts pass and the reading is final. -/
def closeJoin (digest : String) (problems : List Graded) (receipt : Graded)
    (venue : FinalityEvidence) (isInstructed : Bool) : SettlementJoin :=
  if h : isInstructed ∧ problems.isEmpty ∧ receipt.disposition = .pass ∧
      venue.state = .final ∧ venue.assertion.isSome then
    publishedJoin digest receipt venue h.2.2.2.2
  else openJoin digest problems receipt venue isInstructed

/-- Only a final reading is published. -/
theorem venue_final_of_closeJoin_pass {digest : String} {problems : List Graded}
    {receipt : Graded} {venue : FinalityEvidence} {isInstructed : Bool}
    (h : (closeJoin digest problems receipt venue isInstructed).disposition = .pass) :
    venue.state = .final := by
  rw [closeJoin] at h
  split_ifs at h with hpublish
  · exact hpublish.2.2.2.1
  · exact absurd h (openDisposition_ne_pass problems receipt venue)

/-- The join of the four pieces of evidence. -/
def joinSettlementEvidence (artifact : InstructionArtifact) (instruction : CashLegInstruction)
    (receipts : List (ExternalActionReceipt kernel)) (readback : ReadbackMatch)
    (entry : Option StatusEntry) (facts : StatedFacts) : Outcome SettlementJoin := do
  let digest := instructionArtifactDigest kernel artifact
  let artifactFound := artifactProblem xml artifact instruction
  let identityFound := receiptIdentity kernel receipts instruction
  let found := artifactFound.toList ++ identityFound.toList ++
    (readbackIdentity readback entry instruction).toList
  let receipt := assessReceipts (some digest) (some instruction.createdAt) receipts
  let venue ← finalityFromReadback kernel readback entry facts
  let isInstructed := artifactFound.isNone && identityFound.isNone &&
    instructed kernel receipts instruction digest
  let problems :=
    if venue.state = .final ∧ !isInstructed ∧ (settlementReceipts kernel receipts).isEmpty then
      found ++
        [{ disposition := .indeterminate
           reason := "no settlement instruction receipt was supplied, so finality is not joined" }]
    else found
  .ok (closeJoin digest problems receipt venue isInstructed)

/-- A join passes only over a final reading. -/
theorem venue_final_of_join_pass {artifact : InstructionArtifact}
    {instruction : CashLegInstruction} {receipts : List (ExternalActionReceipt kernel)}
    {readback : ReadbackMatch} {entry : Option StatusEntry} {facts : StatedFacts}
    {joined : SettlementJoin}
    (h : joinSettlementEvidence kernel xml artifact instruction receipts readback entry facts =
      .ok joined)
    (hpass : joined.disposition = .pass) :
    ∃ evidence, finalityFromReadback kernel readback entry facts = .ok evidence ∧
      evidence.state = .final := by
  obtain ⟨venue, hvenue, heq⟩ := Outcome.bind_eq_ok.mp h
  cases heq
  exact ⟨venue, hvenue, venue_final_of_closeJoin_pass hpass⟩

/-! ## Finality and the rest of the report -/

/-- A status no other follows. -/
def SettlementStatus.IsTerminal (status : SettlementStatus) : Prop :=
  status.matchedStatusOrder = 4

/-- No entry of the report gives the identifier another terminal status, and no break names
it. -/
def Uncontradicted (readback : ReadbackMatch) (e2e : String) : Prop :=
  (∀ other ∈ readback.report.entries, other.endToEndId = some e2e → other.status.IsTerminal →
      other.status = .settled) ∧
    ∀ item ∈ readback.breaks, item.endToEndId ≠ some e2e

variable {report : StatusReport} {prepared : List CashLegInstruction}
variable {known : Option (Dict String SettlementStatus)} {readback : ReadbackMatch}

/-- A reconciliation keeps the report, and the breaks of each of its entries. -/
theorem breaks_of_reconcile (h : reconcile report prepared known = .ok readback) :
    readback.report = report ∧ ∀ entry ∈ report.entries, ∃ found,
      findings report prepared (known.getD .empty) entry = .ok found ∧
        ∀ item ∈ found.2, item ∈ readback.breaks := by
  rw [reconcile_eq] at h
  obtain ⟨found, hfound, heq⟩ := Outcome.bind_eq_ok.mp h
  cases heq
  refine ⟨rfl, fun entry hentry => ?_⟩
  obtain ⟨one, hone, hentry'⟩ := Outcome.mem_of_collect hfound hentry
  refine ⟨one, hentry', fun item hitem => ?_⟩
  exact List.mem_append_right _ (List.mem_flatMap.mpr ⟨one, hone, hitem⟩)

/-- An entry that resolves to nothing is found under its identifier. -/
theorem endToEndId_of_resolve {entry : StatusEntry} {e2e : String} {finding : ReadbackBreak}
    (he2e : entry.endToEndId = some e2e) (h : resolve report prepared entry = .error finding) :
    finding.endToEndId = some e2e := by
  simp only [resolve, he2e] at h
  split at h
  · cases h
    rfl
  · split_ifs at h
    cases h
    rfl

theorem resolve_endToEndId {entry : StatusEntry} {e2e e2e' : String}
    {instruction : CashLegInstruction} (he2e : entry.endToEndId = some e2e)
    (h : resolve report prepared entry = .ok (e2e', instruction)) : e2e' = e2e := by
  simp only [resolve, he2e] at h
  split at h
  · cases h
  · split_ifs at h
    cases h
    rfl

/-- A refusal, or an acceptance on other terms, raises a break of its own. -/
theorem mem_statusBreaks_of_terminal {entry : StatusEntry} (e2e : String)
    (hterminal : entry.status.IsTerminal) (hsettled : entry.status ≠ .settled)
    (hcancelled : entry.status ≠ .cancelled) :
    ∃ item ∈ statusBreaks entry e2e, item.endToEndId = some e2e := by
  unfold statusBreaks
  rcases hstatus : entry.status <;>
    simp_all [SettlementStatus.IsTerminal, SettlementStatus.matchedStatusOrder]

/-- Every terminal status but a settlement or a cancellation leaves a break that names the
identifier. -/
theorem break_of_terminal (h : reconcile report prepared known = .ok readback)
    {entry : StatusEntry} (hentry : entry ∈ report.entries) {e2e : String}
    (he2e : entry.endToEndId = some e2e) (hterminal : entry.status.IsTerminal)
    (hsettled : entry.status ≠ .settled) (hcancelled : entry.status ≠ .cancelled) :
    ∃ item ∈ readback.breaks, item.endToEndId = some e2e := by
  obtain ⟨found, hfound, hkept⟩ := (breaks_of_reconcile h).2 entry hentry
  rcases findings_cases report prepared entry with ⟨-, herr⟩ | ⟨-, ⟨finding, hresolve, hok⟩ |
    ⟨e2e', instruction, standing, hresolve, hstanding, hok⟩⟩
  · rw [herr] at hfound
    cases hfound
  · rw [hok] at hfound
    cases hfound
    exact ⟨finding, hkept finding (by simp), endToEndId_of_resolve he2e hresolve⟩
  · rw [hok] at hfound
    cases hfound
    obtain rfl := resolve_endToEndId he2e hresolve
    obtain ⟨item, hitem, hnames⟩ :=
      mem_statusBreaks_of_terminal e2e' hterminal hsettled hcancelled
    obtain ⟨amounts, -, heq⟩ := Outcome.bind_eq_ok.mp hstanding
    cases heq
    refine ⟨item, hkept item ?_, hnames⟩
    simp only [List.mem_append]
    exact Or.inl (Or.inl (Or.inl hitem))

/-- A join passes only over a final reading, and a final reading is uncontradicted exactly
when no entry of the report cancels its identifier: every other contradiction is a break. -/
theorem finality_uncontradicted_iff (hreconcile : reconcile report prepared known = .ok readback)
    {entry : Option StatusEntry} {facts : StatedFacts} {evidence : FinalityEvidence}
    (hread : finalityFromReadback kernel readback entry facts = .ok evidence) :
    (∀ artifact instruction receipts joined,
        joinSettlementEvidence kernel xml artifact instruction receipts readback entry facts =
          .ok joined → joined.disposition = .pass → evidence.state = .final) ∧
      (evidence.state = .final → ∃ e2e, entry.bind StatusEntry.endToEndId = some e2e ∧
        (Uncontradicted readback e2e ↔
          ∀ other ∈ report.entries, other.endToEndId = some e2e → other.status ≠ .cancelled)) := by
  constructor
  · intro artifact instruction receipts joined hjoin hpass
    obtain ⟨evidence', hread', hfinal⟩ := venue_final_of_join_pass kernel xml hjoin hpass
    rw [hread] at hread'
    cases hread'
    exact hfinal
  · intro hfinal
    obtain ⟨-, -, -, e2e, -, ⟨given, hgiven, hname⟩, -, hbreaks⟩ :=
      final_cases kernel hread hfinal
    refine ⟨e2e, by rw [Option.mem_def.mp hgiven]; exact hname, ?_⟩
    rw [Uncontradicted, (breaks_of_reconcile hreconcile).1]
    constructor
    · rintro ⟨hsettled, -⟩ other hother hid hcancelled
      have := hsettled other hother hid (by rw [hcancelled]; rfl)
      rw [hcancelled] at this
      cases this
    · refine fun hnone => ⟨fun other hother hid hterminal => ?_, hbreaks⟩
      -- a terminal status that is not the settlement would have left a break
      by_contra hsettled
      obtain ⟨item, hitem, hnames⟩ := break_of_terminal hreconcile hother hid hterminal hsettled
        (hnone other hother hid)
      exact hbreaks item hitem hnames

/-! ### A settlement reported after a cancellation -/

/-- Facts that make an assertion for the cash leg. -/
def cashFacts : StatedFacts where
  leg := .cash
  governingRuleSet := some "SYNTHETIC-CASH-RULE"
  authoritativeActor := ⟨"act_66666666666666666666666666", .externalEmulator, "synthetic-venue",
    [], true⟩
  authoritativeEventId := "evt_66666666666666666666666666"
  effectiveTime := some (.utc (.of 2026 10 7) 43200000000)
  observationTime := some (.utc (.of 2026 10 7) 46800000000)
  evidenceReference := some "RPT-1"
  conditionalityStatus := "UNCONDITIONAL"
  revocabilityStatus := "IRREVOCABLE"
  provenance := .factSynthetic

/-- The instruction reported settled. -/
def settledEntry : StatusEntry where
  statusCode := "ACSC"
  status := .settled
  endToEndId := some "E2E-1"

/-- The instruction reported cancelled. -/
def cancelledEntry : StatusEntry where
  statusCode := "CANC"
  status := .cancelled
  endToEndId := some "E2E-1"

/-- A library that reads nothing and writes nothing. -/
def noXml : XmlLibrary where
  fromstring _ := none
  tostring _ := []

/-- The readback of a report that only settles the instruction. -/
def settledReadback : ReadbackMatch where
  report := emptyReport.carrying [settledEntry] []
  matched := .ofPairs [("E2E-1", .settled)]

theorem finality_uncontradicted_iff_one_entry :
    reconcile (emptyReport.carrying [settledEntry] []) [hundredDollars] none =
        .ok settledReadback ∧
      Uncontradicted settledReadback "E2E-1" := by
  have hreconcile : reconcile (emptyReport.carrying [settledEntry] []) [hundredDollars] none =
      .ok settledReadback := by decide
  obtain ⟨evidence, hread, hfinal⟩ : ∃ evidence,
      finalityFromReadback plainKernel settledReadback (some settledEntry) cashFacts =
        .ok evidence ∧ evidence.state = .final := ⟨_, rfl, by decide⟩
  obtain ⟨-, hiff⟩ := finality_uncontradicted_iff plainKernel noXml hreconcile hread
  obtain ⟨e2e, hid, hiff⟩ := hiff hfinal
  cases hid
  refine ⟨hreconcile, hiff.mpr fun other hother _ => ?_⟩
  cases List.mem_singleton.mp hother
  decide

/-- A report that cancels an instruction and then settles it is read as final. -/
theorem final_beside_cancellation :
    ¬ ∀ (kernel : Kernel) (report : StatusReport) (prepared : List CashLegInstruction)
        (known : Option (Dict String SettlementStatus)) (readback : ReadbackMatch)
        (entry : StatusEntry) (e2e : String) (facts : StatedFacts) (evidence : FinalityEvidence),
      reconcile report prepared known = .ok readback →
        finalityFromReadback kernel readback (some entry) facts = .ok evidence →
        entry.endToEndId = some e2e → evidence.state = .final → Uncontradicted readback e2e := by
  intro h
  have hreconcile : reconcile (emptyReport.carrying [cancelledEntry, settledEntry] [])
      [hundredDollars] none =
        .ok { settledReadback with
          report := emptyReport.carrying [cancelledEntry, settledEntry] [] } := by decide
  obtain ⟨evidence, hread, hfinal⟩ : ∃ evidence,
      finalityFromReadback plainKernel { settledReadback with
        report := emptyReport.carrying [cancelledEntry, settledEntry] [] } (some settledEntry)
          cashFacts = .ok evidence ∧ evidence.state = .final := ⟨_, rfl, by decide⟩
  have hkept := (h plainKernel _ _ _ _ settledEntry "E2E-1" cashFacts evidence hreconcile hread rfl
    hfinal).1 cancelledEntry (by decide) rfl rfl
  exact absurd hkept (by decide)

end Atreides
