import Atreides.Dsor.Store
import Atreides.Foundation.HashChain
import Atreides.Foundation.IsoFormat
import Atreides.Kernel

/-!
# The journal of a lifecycle

The records of one lifecycle are rendered from the store as a chain of sealed envelopes. An
envelope carries a reference to its record with the digest of the stored payload, and the digest
of the envelope before it. As the store only appends, a journal only grows; and whoever kept the
digest at the end of a journal can tell, from the journal of a store that was written to since,
whether a record before it was changed.

## Main definitions

* `StoredOutput`, `JournalRecord` — what is read back from a row
* `DSORRecordRef`, `EventContent`, `Envelope` — what is sealed
* `JournalKernel` — the functions of the kernel and the machine that rendering calls
* `renderJournal`, `journalOf` — the journal of a lifecycle

## Main results

* `chained_of_renderJournal` — a journal is a hash chain
* `journal_grows_and_pins` — journals only grow, and the digest at the end of one pins the records
  before it
-/

namespace Atreides

/-! ## Reading records back -/

/-- The outputs whose provenance or actor is their own. -/
inductive OutputSource
  | externalActionReceipt (provenance : Provenance)
  | clientOutput (provenance : Provenance)
  | booksPosting (provenance : Provenance)
  | railStatusObserved (provenance : Provenance)
  | finalityAsserted (provenance : Provenance) (authoritativeActor : ActorRef)
  | haltContext (declaredBy : ActorRef)
  | other
  deriving DecidableEq

/-- A stored output, with what a journal reads of it: an attribute it does not have is absent. -/
structure StoredOutput where
  lifecycleId : Option String
  source : OutputSource
  ruleVersion : Option String := none
  gateSetVersion : Option String := none
  doctrineVersion : Option String := none
  deriving DecidableEq

/-- A record as it is read back. -/
structure JournalRecord where
  recordId : Uuid
  dtg : Timestamp
  kind : RecordKind
  output : StoredOutput
  correctionOf : Option Uuid
  deriving DecidableEq

/-! ## Envelopes -/

def journalSchemaVersion : String := "atreides-dsor-journal/0.1-draft"

/-- The actor on envelopes for records the program's own services produced. -/
def atreidesDsorActor : ActorRef where
  actorId := "act_" ++ String.ofList (List.replicate 25 '0') ++ "1"
  actorKind := .deterministicService
  role := "atreides-dsor"
  entitlementRefs := []
  authenticated := true

/-- The reference an envelope carries for one record. -/
structure DSORRecordRef where
  recordId : String
  kind : RecordKind
  correctionOf : Option String
  storedPayloadDigest : String
  deriving DecidableEq

/-- What an envelope is sealed over. -/
structure EventContent where
  eventId : String
  lifecycleId : String
  parentIds : List String
  producerDomain : Domain
  eventType : RecordKind
  schemaVersion : String
  ruleVersion : String
  eventTime : Timestamp
  observationTime : Timestamp
  processingTime : Timestamp
  provenance : Provenance
  actor : ActorRef
  idempotencyKey : String
  payload : DSORRecordRef
  priorEventDigest : Option String
  deriving DecidableEq

/-- A sealed event. -/
structure Envelope extends EventContent where
  envelopeDigest : String
  deriving DecidableEq

/-- What rendering calls of the kernel, of the models that read outputs back, and of the machine
it runs on. -/
structure JournalKernel extends Kernel where
  /-- the output a stored payload is read back as -/
  readOutput : String → Outcome StoredOutput
  /-- a wall-clock time of the machine's zone, in universal time -/
  localAsUtc : Timestamp → Outcome Timestamp
  /-- the text is a lifecycle identifier -/
  checkLifecycleId : String → Outcome Unit
  /-- an identifier of a time in milliseconds and of random bytes -/
  encodeUlid : ℤ → Bytes → Outcome String
  /-- the content is legal for an event -/
  checkEvent : EventContent → Outcome Unit
  /-- the digest that seals an event -/
  eventDigest : EventContent → String

/-! ## Times and identifiers -/

/-- A time in universal time. -/
def JournalKernel.astimezone (kernel : JournalKernel) (t : Timestamp) : Outcome Timestamp :=
  t.utcOffset.elim (kernel.localAsUtc t) fun offset => do
    let shifted := (t.microsecondOfDay : ℤ) - offset
    let date ← t.date.addDays (shifted / microsecondsPerDay)
    .ok (Timestamp.utc date (shifted % microsecondsPerDay).toNat (by
      have hpos : (0 : ℤ) < microsecondsPerDay := by decide
      have hnonneg := Int.emod_nonneg shifted hpos.ne'
      have hlt := Int.emod_lt_of_pos shifted hpos
      omega))

/-- The first instant of 1970. -/
def epoch : Timestamp := Timestamp.midnight (Date.of 1970 1 1)

/-- The value of a hexadecimal digit. -/
def hexValue (c : Char) : ℕ := if c.isDigit then c.toNat - 48 else c.toNat - 87

/-- Pairs of hexadecimal digits as bytes. -/
def bytesOfHex : List Char → Bytes
  | a :: b :: rest => UInt8.ofNat (16 * hexValue a + hexValue b) :: bytesOfHex rest
  | _ => []

/-- The sixteen bytes of an identifier. -/
def uuidBytes (id : Uuid) : Bytes := bytesOfHex (id.text.toList.filter (· ≠ '-'))

/-- The UTF-8 bytes of a text. -/
def encoded (text : String) : Bytes := text.toUTF8.data.toList

theorem encoded_injective : Function.Injective encoded := by
  intro s t h
  apply String.toByteArray_inj.mp
  apply ByteArray.ext
  exact Array.toList_inj.mp h

/-! ## The store -/

namespace DSORStore

/-- Read one row back. -/
def readRow (kernel : JournalKernel) (row : Row) : Outcome JournalRecord := do
  let dtg ← Timestamp.fromisoformat row.dtg
  let output ← kernel.readOutput row.payload
  .ok ⟨row.recordId, dtg, row.kind, output, row.correctionOf⟩

/-- Every record in the store, in the order it was appended. -/
def records (kernel : JournalKernel) (store : DSORStore) : Outcome (List JournalRecord) :=
  Outcome.collect (readRow kernel) store.rows

/-- The bytes stored for a record. -/
def payloadBytes (store : DSORStore) (recordId : Uuid) : Outcome Bytes :=
  match store.rows.find? fun row => row.recordId = recordId with
  | none => .error (.refused "DSORRecordNotFoundError" recordId.text)
  | some row => .ok (encoded row.payload)

/-- The records whose output names the lifecycle, in append order. -/
def lifecycleRecords (kernel : JournalKernel) (store : DSORStore) (lifecycleId : String) :
    Outcome (List JournalRecord) :=
  (List.filter fun record => record.output.lifecycleId = some lifecycleId) <$>
    store.records kernel

end DSORStore

/-! ## Rendering -/

/-- An identifier by the record's own time and identifier, so that a second rendering is the
same. -/
def eventId (kernel : JournalKernel) (record : JournalRecord) : Outcome String := do
  let at' ← kernel.astimezone record.dtg
  let ulid ← kernel.encodeUlid ((at'.instant - epoch.instant) / 1000) ((uuidBytes record.recordId).take 10)
  .ok ("evt_" ++ ulid)

/-- Who stands behind an output, and where it comes from. -/
def provenanceAndActor : OutputSource → Provenance × ActorRef
  | .externalActionReceipt provenance => (provenance, atreidesDsorActor)
  | .clientOutput provenance => (provenance, atreidesDsorActor)
  | .booksPosting provenance => (provenance, atreidesDsorActor)
  | .railStatusObserved provenance => (provenance, atreidesDsorActor)
  | .finalityAsserted provenance actor => (provenance, actor)
  | .haltContext declarer =>
    (if declarer.actorKind = .human then .humanJudgment else .policyResult, declarer)
  | .other => (.policyResult, atreidesDsorActor)

/-- The first version an output states. -/
def ruleVersionOf (output : StoredOutput) : String :=
  (([output.ruleVersion, output.gateSetVersion, output.doctrineVersion].filterMap id).find?
    (· ≠ "")).getD "unversioned"

/-- The reference to a record, with the digest of what the store holds for it. -/
def recordRef (kernel : JournalKernel) (record : JournalRecord) (payload : Bytes) :
    DSORRecordRef where
  recordId := record.recordId.text
  kind := record.kind
  correctionOf := record.correctionOf.map Uuid.text
  storedPayloadDigest := kernel.digestBytes payload

/-- What the envelope of a record is sealed over, after another one. -/
def eventContent (kernel : JournalKernel) (store : DSORStore) (lifecycleId : String)
    (prior : Option Envelope) (record : JournalRecord) : Outcome EventContent := do
  let at' ← kernel.astimezone record.dtg
  let payload ← store.payloadBytes record.recordId
  let eventId ← eventId kernel record
  .ok {
    eventId
    lifecycleId
    parentIds := (prior.map fun e => e.eventId).toList
    producerDomain := .atreides
    eventType := record.kind
    schemaVersion := journalSchemaVersion
    ruleVersion := ruleVersionOf record.output
    eventTime := at'
    observationTime := at'
    processingTime := at'
    provenance := (provenanceAndActor record.output.source).1
    actor := (provenanceAndActor record.output.source).2
    idempotencyKey := "dsor:" ++ record.recordId.text
    payload := recordRef kernel record payload
    priorEventDigest := prior.map Envelope.envelopeDigest }

/-- Seal an event whose content is legal. -/
def sealEvent (kernel : JournalKernel) (content : EventContent) : Outcome Envelope := do
  kernel.checkEvent content
  .ok { content with envelopeDigest := kernel.eventDigest content }

/-- Seal records after an envelope, each linked to the one before it. -/
def sealAfter (kernel : JournalKernel) (store : DSORStore) (lifecycleId : String) :
    Option Envelope → List JournalRecord → Outcome (List Envelope)
  | _, [] => .ok []
  | prior, record :: rest => do
    let content ← eventContent kernel store lifecycleId prior record
    let envelope ← sealEvent kernel content
    let later ← sealAfter kernel store lifecycleId (some envelope) rest
    .ok (envelope :: later)

/-- Seal records as a chain of envelopes, in the order given. -/
def renderJournal (kernel : JournalKernel) (store : DSORStore) (records : List JournalRecord)
    (lifecycleId : String) : Outcome (List Envelope) := do
  kernel.checkLifecycleId lifecycleId
  sealAfter kernel store lifecycleId none records

/-- The journal of a lifecycle, from the store alone. -/
def journalOf (kernel : JournalKernel) (store : DSORStore) (lifecycleId : String) :
    Outcome (List Envelope) := do
  let records ← store.lifecycleRecords kernel lifecycleId
  renderJournal kernel store records lifecycleId

/-! ## A journal is a chain -/

section Chain

variable {kernel : JournalKernel} {store store' : DSORStore} {lifecycleId : String}
  {prior : Option Envelope} {record : JournalRecord} {records : List JournalRecord}
  {journal journal' : List Envelope}

theorem eventContent_eq_ok {content : EventContent}
    (h : eventContent kernel store lifecycleId prior record = .ok content) :
    content.priorEventDigest = prior.map Envelope.envelopeDigest ∧
      ∃ payload, store.payloadBytes record.recordId = .ok payload ∧
        content.payload = recordRef kernel record payload := by
  simp only [eventContent, Outcome.bind_eq_ok] at h
  obtain ⟨at', -, payload, hpayload, id, -, h⟩ := h
  cases h
  exact ⟨rfl, payload, hpayload, rfl⟩

theorem sealEvent_eq_ok {content : EventContent} {envelope : Envelope}
    (h : sealEvent kernel content = .ok envelope) : envelope.toEventContent = content ∧
      envelope.envelopeDigest = kernel.eventDigest content := by
  rw [sealEvent, Outcome.bind_eq_ok] at h
  obtain ⟨-, -, h⟩ := h
  cases h
  exact ⟨rfl, rfl⟩

/-- What an envelope says of the record it was sealed for. -/
def Seals (kernel : JournalKernel) (store : DSORStore) (record : JournalRecord)
    (envelope : Envelope) : Prop :=
  envelope.envelopeDigest = kernel.eventDigest envelope.toEventContent ∧
    ∃ payload, store.payloadBytes record.recordId = .ok payload ∧
      envelope.payload = recordRef kernel record payload

theorem sealAfter_cons_eq_ok :
    sealAfter kernel store lifecycleId prior (record :: records) = .ok journal ↔
      ∃ content envelope later, eventContent kernel store lifecycleId prior record = .ok content ∧
        sealEvent kernel content = .ok envelope ∧
        sealAfter kernel store lifecycleId (some envelope) records = .ok later ∧
        journal = envelope :: later := by
  simp only [sealAfter, Outcome.bind_eq_ok, Except.ok.injEq]
  constructor
  · rintro ⟨content, hcontent, envelope, henvelope, later, hlater, h⟩
    exact ⟨content, envelope, later, hcontent, henvelope, hlater, h.symm⟩
  · rintro ⟨content, envelope, later, hcontent, henvelope, hlater, h⟩
    exact ⟨content, hcontent, envelope, henvelope, later, hlater, h.symm⟩

/-- Each record has its envelope. -/
theorem seals_of_sealAfter (h : sealAfter kernel store lifecycleId prior records = .ok journal) :
    List.Forall₂ (Seals kernel store) records journal := by
  induction records generalizing prior journal with
  | nil =>
    cases h
    exact List.Forall₂.nil
  | cons record records ih =>
    obtain ⟨content, envelope, later, hcontent, henvelope, hlater, rfl⟩ :=
      sealAfter_cons_eq_ok.mp h
    obtain ⟨rfl, hdigest⟩ := sealEvent_eq_ok henvelope
    exact List.Forall₂.cons ⟨hdigest, (eventContent_eq_ok hcontent).2⟩ (ih hlater)

/-- An envelope names the digest of the one before it, and the first the digest it follows. -/
theorem prior_of_sealAfter (h : sealAfter kernel store lifecycleId prior records = .ok journal)
    {before rest : List EventContent} {item : EventContent}
    (hsplit : journal.map Envelope.toEventContent = before ++ item :: rest) :
    item.priorEventDigest =
      (before.getLast?.map kernel.eventDigest).or (prior.map Envelope.envelopeDigest) := by
  induction records generalizing prior journal before with
  | nil =>
    cases h
    simp at hsplit
  | cons record records ih =>
    obtain ⟨content, envelope, later, hcontent, henvelope, hlater, rfl⟩ :=
      sealAfter_cons_eq_ok.mp h
    obtain ⟨rfl, hdigest⟩ := sealEvent_eq_ok henvelope
    rw [List.map_cons] at hsplit
    cases before with
    | nil =>
      obtain ⟨rfl, -⟩ := List.cons.inj hsplit
      simpa using (eventContent_eq_ok hcontent).1
    | cons first before =>
      obtain ⟨rfl, hlaterSplit⟩ := List.cons.inj hsplit
      rw [ih hlater hlaterSplit, List.getLast?_cons]
      rcases before.getLast? with _ | last <;> simp [hdigest]

/-- A journal is a hash chain. -/
theorem chained_of_renderJournal
    (h : renderJournal kernel store records lifecycleId = .ok journal) :
    Chained kernel.eventDigest EventContent.priorEventDigest
      (journal.map Envelope.toEventContent) := by
  rw [renderJournal, Outcome.bind_eq_ok] at h
  obtain ⟨-, -, h⟩ := h
  intro before item rest hsplit
  simpa using prior_of_sealAfter h hsplit

/-! ## Journals grow -/

theorem sealAfter_congr
    (h : ∀ r ∈ records, store.payloadBytes r.recordId = store'.payloadBytes r.recordId) :
    sealAfter kernel store lifecycleId prior records =
      sealAfter kernel store' lifecycleId prior records := by
  induction records generalizing prior with
  | nil => rfl
  | cons record records ih =>
    have hcontent : eventContent kernel store lifecycleId prior record =
        eventContent kernel store' lifecycleId prior record := by
      simp only [eventContent, h record List.mem_cons_self]
    simp only [sealAfter, hcontent]
    congr 1
    funext content
    congr 1
    funext envelope
    rw [ih fun r hr => h r (List.mem_cons_of_mem record hr)]

theorem sealAfter_append {more : List JournalRecord}
    (h : sealAfter kernel store lifecycleId prior (records ++ more) = .ok journal) :
    ∃ earlier, sealAfter kernel store lifecycleId prior records = .ok earlier ∧
      earlier <+: journal := by
  induction records generalizing prior journal with
  | nil => exact ⟨[], rfl, List.nil_prefix⟩
  | cons record records ih =>
    obtain ⟨content, envelope, later, hcontent, henvelope, hlater, rfl⟩ :=
      sealAfter_cons_eq_ok.mp h
    obtain ⟨earlier, hearlier, hbegins⟩ := ih hlater
    refine ⟨envelope :: earlier, ?_, List.cons_prefix_cons.mpr ⟨rfl, hbegins⟩⟩
    exact sealAfter_cons_eq_ok.mpr ⟨content, envelope, earlier, hcontent, henvelope, hearlier, rfl⟩

/-- What is stored for a record of a store stays, as rows are appended. -/
theorem payloadBytes_of_prefix (hrows : store.rows <+: store'.rows) {recordId : Uuid}
    (hmem : recordId ∈ store.rows.map Row.recordId) :
    store.payloadBytes recordId = store'.payloadBytes recordId := by
  obtain ⟨rest, hrest⟩ := hrows
  obtain ⟨row, hrow, rfl⟩ := List.mem_map.mp hmem
  have hfound : (store.rows.find? fun r => r.recordId = row.recordId).isSome = true := by
    rw [List.find?_isSome]
    exact ⟨row, hrow, by simp⟩
  obtain ⟨found, hfound⟩ := Option.isSome_iff_exists.mp hfound
  rw [DSORStore.payloadBytes, DSORStore.payloadBytes, ← hrest, List.find?_append, hfound]
  rfl

theorem recordId_of_readRow {row : Row} (h : DSORStore.readRow kernel row = .ok record) :
    record.recordId = row.recordId ∧ record.kind = row.kind ∧
      record.correctionOf = row.correctionOf ∧
      kernel.readOutput row.payload = .ok record.output := by
  simp only [DSORStore.readRow, Outcome.bind_eq_ok] at h
  obtain ⟨dtg, -, output, houtput, h⟩ := h
  cases h
  exact ⟨rfl, rfl, rfl, houtput⟩

/-- The journal of a store with more rows begins with the journal of the store. -/
theorem journalOf_of_prefix (hrows : store.rows <+: store'.rows)
    (h : journalOf kernel store' lifecycleId = .ok journal') :
    ∃ journal, journalOf kernel store lifecycleId = .ok journal ∧ journal <+: journal' := by
  obtain ⟨rest, hrest⟩ := hrows
  rw [journalOf, Outcome.bind_eq_ok] at h
  obtain ⟨records', hrecords', hrender⟩ := h
  obtain ⟨all', hall', rfl⟩ := Outcome.map_eq_ok.mp hrecords'
  rw [DSORStore.records, ← hrest, Outcome.collect_append_eq_ok] at hall'
  obtain ⟨all, more, hall, -, rfl⟩ := hall'
  rw [renderJournal, Outcome.bind_eq_ok] at hrender
  obtain ⟨_, hcheck, hseal⟩ := hrender
  rw [List.filter_append] at hseal
  obtain ⟨journal, hjournal, hbegins⟩ := sealAfter_append hseal
  refine ⟨journal, ?_, hbegins⟩
  rw [journalOf, Outcome.bind_eq_ok]
  refine ⟨_, Outcome.map_eq_ok.mpr ⟨all, hall, rfl⟩, ?_⟩
  rw [renderJournal, Outcome.bind_eq_ok]
  refine ⟨_, hcheck, ?_⟩
  rw [sealAfter_congr, hjournal]
  intro r hr
  apply payloadBytes_of_prefix ⟨rest, hrest⟩
  obtain ⟨row, hrow, hread⟩ := Outcome.exists_of_mem_collect hall (List.mem_of_mem_filter hr)
  rw [(recordId_of_readRow hread).1]
  exact List.mem_map_of_mem hrow

/-! ## Journals and rows -/

/-- The rows whose output names the lifecycle. -/
def rowsOfLifecycle (kernel : JournalKernel) (rows : List Row) (lifecycleId : String) : List Row :=
  rows.filter fun row => (kernel.readOutput row.payload).toOption.any fun output =>
    output.lifecycleId = some lifecycleId

/-- The reference to a row. -/
def rowRef (kernel : JournalKernel) (row : Row) : DSORRecordRef where
  recordId := row.recordId.text
  kind := row.kind
  correctionOf := row.correctionOf.map Uuid.text
  storedPayloadDigest := kernel.digestBytes (encoded row.payload)

theorem payloadBytes_of_mem {row : Row} (h : row ∈ store.rows) :
    store.payloadBytes row.recordId = .ok (encoded row.payload) := by
  have hfound : (store.rows.find? fun r => r.recordId = row.recordId).isSome = true := by
    rw [List.find?_isSome]
    exact ⟨row, h, by simp⟩
  obtain ⟨found, hfound⟩ := Option.isSome_iff_exists.mp hfound
  have hsame : found = row := by
    apply List.inj_on_of_nodup_map store.table.primary_key (List.mem_of_find?_eq_some hfound) h
    simpa using List.find?_some hfound
  rw [DSORStore.payloadBytes, hfound, hsame]

/-- The records of a lifecycle are read from its rows, in order. -/
theorem rows_of_lifecycleRecords {rows : List Row} {all : List JournalRecord}
    (hall : Outcome.collect (DSORStore.readRow kernel) rows = .ok all) (hsub : rows ⊆ store.rows) :
    List.Forall₂ (fun row record => row ∈ store.rows ∧ record.recordId = row.recordId ∧
        record.kind = row.kind ∧ record.correctionOf = row.correctionOf)
      (rowsOfLifecycle kernel rows lifecycleId)
      (all.filter fun record => record.output.lifecycleId = some lifecycleId) := by
  induction rows generalizing all with
  | nil =>
    cases hall
    exact List.Forall₂.nil
  | cons row rows ih =>
    obtain ⟨record, later, hread, hlater, rfl⟩ := Outcome.collect_cons_eq_ok.mp hall
    obtain ⟨hid, hkind, hcorrection, houtput⟩ := recordId_of_readRow hread
    have hrest := ih hlater fun r hr => hsub (List.mem_cons_of_mem row hr)
    rw [rowsOfLifecycle, List.filter_cons, List.filter_cons, houtput]
    by_cases hnames : record.output.lifecycleId = some lifecycleId
    · rw [if_pos (by simp [Except.toOption, hnames]), if_pos (by simpa using hnames)]
      exact List.Forall₂.cons ⟨hsub List.mem_cons_self, hid, hkind, hcorrection⟩ hrest
    · rw [if_neg (by simp [Except.toOption, hnames]), if_neg (by simpa using hnames)]
      exact hrest

/-- Each envelope of a journal refers to its row, with the digest of the stored payload. -/
theorem refers_of_journalOf (h : journalOf kernel store lifecycleId = .ok journal) :
    List.Forall₂ (fun row envelope => envelope.payload = rowRef kernel row ∧
        envelope.envelopeDigest = kernel.eventDigest envelope.toEventContent)
      (rowsOfLifecycle kernel store.rows lifecycleId) journal := by
  rw [journalOf, Outcome.bind_eq_ok] at h
  obtain ⟨records, hrecords, hrender⟩ := h
  obtain ⟨all, hall, rfl⟩ := Outcome.map_eq_ok.mp hrecords
  rw [renderJournal, Outcome.bind_eq_ok] at hrender
  obtain ⟨-, -, hseal⟩ := hrender
  apply List.Forall₂.comp _ (rows_of_lifecycleRecords hall (List.Subset.refl _))
    (seals_of_sealAfter hseal)
  intro row record envelope ⟨hrow, hid, hkind, hcorrection⟩ ⟨hdigest, payload, hpayload, hrefers⟩
  rw [hid, payloadBytes_of_mem hrow] at hpayload
  cases hpayload
  refine ⟨?_, hdigest⟩
  rw [hrefers, recordRef, rowRef, hid, hkind, hcorrection]

theorem chained_of_journalOf (h : journalOf kernel store lifecycleId = .ok journal) :
    Chained kernel.eventDigest EventContent.priorEventDigest
      (journal.map Envelope.toEventContent) := by
  rw [journalOf, Outcome.bind_eq_ok] at h
  obtain ⟨records, -, hrender⟩ := h
  exact chained_of_renderJournal hrender

/-! ## Journals pin records -/

/-- What the digest at the end of a journal pins of a row. -/
def Row.pinned (row : Row) : Uuid × RecordKind × Option Uuid × String :=
  (row.recordId, row.kind, row.correctionOf, row.payload)

/-- One reference is that of one row, unless two payloads have one digest. -/
theorem pinned_of_rowRef_eq {row row' : Row} (h : rowRef kernel row = rowRef kernel row') :
    row.pinned = row'.pinned ∨ encoded row.payload ≠ encoded row'.payload ∧
      kernel.digestBytes (encoded row.payload) = kernel.digestBytes (encoded row'.payload) := by
  simp only [rowRef, DSORRecordRef.mk.injEq] at h
  obtain ⟨hid, hkind, hcorrection, hdigest⟩ := h
  have htext : Function.Injective Uuid.text := by
    intro ⟨a, _⟩ ⟨b, _⟩ hab
    cases hab
    rfl
  by_cases hpayload : row.payload = row'.payload
  · left
    rw [Row.pinned, Row.pinned, htext hid, hkind, Option.map_injective htext hcorrection, hpayload]
  · exact Or.inr ⟨fun heq => hpayload (encoded_injective heq), hdigest⟩

/-- References in the same order are those of the same rows, unless two payloads have one
digest. -/
theorem pinned_prefix_or_collide {rows rows' : List Row}
    (h : rows.map (rowRef kernel) <+: rows'.map (rowRef kernel)) :
    rows.map Row.pinned <+: rows'.map Row.pinned ∨
      Collide kernel.digestBytes (rows.map fun row => encoded row.payload)
        (rows'.map fun row => encoded row.payload) := by
  induction rows generalizing rows' with
  | nil => exact Or.inl List.nil_prefix
  | cons row rows ih =>
    cases rows' with
    | nil => simp at h
    | cons row' rows' =>
      rw [List.map_cons, List.map_cons, List.cons_prefix_cons] at h
      obtain ⟨href, hrest⟩ := h
      rcases pinned_of_rowRef_eq href with hpinned | ⟨hne, hdigest⟩
      · rcases ih hrest with hbegins | hcollide
        · left
          rw [List.map_cons, List.map_cons, List.cons_prefix_cons]
          exact ⟨hpinned, hbegins⟩
        · exact Or.inr (hcollide.mono (List.subset_cons_self _ _) (List.subset_cons_self _ _))
      · exact Or.inr ⟨_, List.mem_cons_self, _, List.mem_cons_self, hne, hdigest⟩

/-- The references of a journal are those of the rows of the lifecycle. -/
theorem refs_of_journalOf (h : journalOf kernel store lifecycleId = .ok journal) :
    (journal.map Envelope.toEventContent).map EventContent.payload =
      (rowsOfLifecycle kernel store.rows lifecycleId).map (rowRef kernel) := by
  have hrefers := refers_of_journalOf h
  clear h
  generalize rowsOfLifecycle kernel store.rows lifecycleId = rows at hrefers
  induction hrefers with
  | nil => rfl
  | cons hhead _ ih => rw [List.map_cons, List.map_cons, List.map_cons, ih, hhead.1]

theorem digests_of_journalOf (h : journalOf kernel store lifecycleId = .ok journal) :
    journal.map Envelope.envelopeDigest =
      (journal.map Envelope.toEventContent).map kernel.eventDigest := by
  have hrefers := refers_of_journalOf h
  clear h
  generalize rowsOfLifecycle kernel store.rows lifecycleId = rows at hrefers
  induction hrefers with
  | nil => rfl
  | cons hhead _ ih => rw [List.map_cons, List.map_cons, List.map_cons, ih, hhead.2]

/-- Two events of the journals have one digest, or two payloads of the rows do. -/
def JournalsCollide (kernel : JournalKernel) (lifecycleId : String) (store store' : DSORStore)
    (journal journal' : List Envelope) : Prop :=
  Collide kernel.eventDigest (journal.map Envelope.toEventContent)
      (journal'.map Envelope.toEventContent) ∨
    Collide kernel.digestBytes
      ((rowsOfLifecycle kernel store.rows lifecycleId).map fun row => encoded row.payload)
      ((rowsOfLifecycle kernel store'.rows lifecycleId).map fun row => encoded row.payload)

/-- The digest at the end of one journal, where it occurs in another, pins the rows. -/
theorem pinned_of_digest (h : journalOf kernel store lifecycleId = .ok journal)
    (h' : journalOf kernel store' lifecycleId = .ok journal') {pinned : String}
    (hend : (journal.map Envelope.envelopeDigest).getLast? = some pinned)
    (hfound : pinned ∈ journal'.map Envelope.envelopeDigest) :
    (rowsOfLifecycle kernel store.rows lifecycleId).map Row.pinned <+:
        (rowsOfLifecycle kernel store'.rows lifecycleId).map Row.pinned ∨
      JournalsCollide kernel lifecycleId store store' journal journal' := by
  rw [digests_of_journalOf h, List.getLast?_map] at hend
  rw [digests_of_journalOf h'] at hfound
  obtain ⟨event, hevent, rfl⟩ := List.mem_map.mp hfound
  rcases (chained_of_journalOf h).prefix_or_collide (chained_of_journalOf h') hevent hend with
    hbegins | hcollide
  · have hrefs := hbegins.map EventContent.payload
    rw [refs_of_journalOf h, refs_of_journalOf h'] at hrefs
    exact (pinned_prefix_or_collide hrefs).imp_right Or.inr
  · exact Or.inr (Or.inl hcollide)

end Chain

/-- The journal of a lifecycle only grows: after more calls, whatever they append, it begins with
what it was. And the digest at the end of a journal pins its records: where it occurs in the
journal of any other store, that store holds for the lifecycle, first and in the same order, the
same identifiers, kinds, corrections and payloads, unless two of the events that were sealed, or
two of the payloads that are stored, have one digest. -/
theorem journal_grows_and_pins (kernel : JournalKernel) (lifecycleId : String) :
    (∀ requests more journal',
      journalOf kernel (DSORStore.run (requests ++ more)) lifecycleId = .ok journal' →
        ∃ journal, journalOf kernel (DSORStore.run requests) lifecycleId = .ok journal ∧
          journal <+: journal') ∧
    ∀ store store' journal journal' pinned,
      journalOf kernel store lifecycleId = .ok journal →
      journalOf kernel store' lifecycleId = .ok journal' →
      (journal.map Envelope.envelopeDigest).getLast? = some pinned →
      pinned ∈ journal'.map Envelope.envelopeDigest →
        (rowsOfLifecycle kernel store.rows lifecycleId).map Row.pinned <+:
            (rowsOfLifecycle kernel store'.rows lifecycleId).map Row.pinned ∨
          JournalsCollide kernel lifecycleId store store' journal journal' := by
  constructor
  · intro requests more journal' h
    exact journalOf_of_prefix (DSORStore.rows_extend requests more) h
  · intro store store' journal journal' pinned h h' hend hfound
    exact pinned_of_digest h h' hend hfound

/-! ## At work -/

/-- A digest of a fixed width. -/
def sampleDigest (bytes : Bytes) : String :=
  let number := bytes.foldl (fun n byte => (257 * n + byte.toNat) % 10 ^ 60) 7
  "sha256:" ++ String.ofList (Nat.toDigits 10 (10 ^ 63 + number))

/-- A kernel that reads the payloads of one lifecycle. -/
def sampleJournalKernel : JournalKernel where
  toKernel := { plainKernel with digestBytes := sampleDigest }
  readOutput payload :=
    if payload = "" then .error (.valueError "Invalid JSON")
    else .ok { lifecycleId := some "lif_71", source := .booksPosting .factSynthetic }
  localAsUtc t := .ok t
  checkLifecycleId id := Outcome.refuseIf (id = "") (.valueError "lifecycle_id")
  encodeUlid milliseconds bytes := .ok (sampleDigest (bytes ++ encoded (toString milliseconds)))
  checkEvent _ := .ok ()
  eventDigest content := sampleDigest (encoded (content.idempotencyKey ++
    content.payload.storedPayloadDigest ++ content.priorEventDigest.getD ""))

/-- An append of a books posting. -/
def samplePosting (operationId freshId : Uuid) (json : String) (correctionOf : Option Uuid) :
    DSORStore.Append where
  output := { kind := .booksPosting, operationId, json }
  dtg := none
  correctionOf
  now := Timestamp.midnight (Date.of 2027 4 12)
  freshId

def posting71 : Uuid := ⟨"71717171-7171-4171-8171-717171717171", by decide⟩

def posting72 : Uuid := ⟨"72727272-7272-4272-8272-727272727272", by decide⟩

/-- A posting, and its correction. -/
def postedThenCorrected : List DSORStore.Append :=
  [samplePosting posting71 posting71 "\x7b\"lifecycle_id\":\"lif_71\",\"money\":\"10\"\x7d" none,
    samplePosting posting71 posting72 "\x7b\"lifecycle_id\":\"lif_71\",\"money\":\"12\"\x7d"
      (some posting71)]

/-- A journal of one record, pinned, and the journal after its correction. -/
theorem journal_grows_and_pins_posting :
    ∃ journal journal',
      journalOf sampleJournalKernel (DSORStore.run (postedThenCorrected.take 1)) "lif_71" =
        .ok journal ∧
      journalOf sampleJournalKernel (DSORStore.run postedThenCorrected) "lif_71" = .ok journal' ∧
      journal <+: journal' ∧
      ((rowsOfLifecycle sampleJournalKernel
            (DSORStore.run (postedThenCorrected.take 1)).rows "lif_71").map Row.pinned <+:
          (rowsOfLifecycle sampleJournalKernel
            (DSORStore.run postedThenCorrected).rows "lif_71").map Row.pinned ∨
        JournalsCollide sampleJournalKernel "lif_71" (DSORStore.run (postedThenCorrected.take 1))
          (DSORStore.run postedThenCorrected) journal journal') := by
  have hlengths : List.length <$>
        journalOf sampleJournalKernel (DSORStore.run (postedThenCorrected.take 1)) "lif_71" =
      .ok 1 := by
    decide +kernel
  have hlengths' : List.length <$>
        journalOf sampleJournalKernel (DSORStore.run postedThenCorrected) "lif_71" = .ok 2 := by
    decide +kernel
  obtain ⟨journal', h', -⟩ := Outcome.map_eq_ok.mp hlengths'
  obtain ⟨grows, pins⟩ := journal_grows_and_pins sampleJournalKernel "lif_71"
  obtain ⟨journal, h, hbegins⟩ := grows (postedThenCorrected.take 1) (postedThenCorrected.drop 1)
    journal' (by rw [List.take_append_drop]; exact h')
  obtain ⟨_, hsame, hlength⟩ := Outcome.map_eq_ok.mp hlengths
  rw [h] at hsame
  cases hsame
  obtain ⟨envelope, rfl⟩ := List.length_eq_one_iff.mp hlength
  refine ⟨[envelope], journal', h, h', hbegins, ?_⟩
  apply pins _ _ _ _ envelope.envelopeDigest h h' rfl
  exact List.mem_map_of_mem (hbegins.subset List.mem_cons_self)

end Atreides
