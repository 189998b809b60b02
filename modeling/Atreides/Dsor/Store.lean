import Atreides.Foundation.AppendLog
import Atreides.Foundation.Effects
import Atreides.Foundation.Timestamp
import Atreides.Foundation.Uuid

/-!
# The record store

The store is a table of rows. Its schema admits one row for a record identifier and one
original, a row that corrects nothing, for an operation. A correction names a record of
the store. The schema does not look at a correction's operation, and the call that appends
it does not either.

## Main definitions

* `Table`, `Table.insert` — the rows, with what the schema enforces
* `DSORStore.append` — one call
* `Corrects`, `OriginalOf` — the chains of corrections
* `KeepsHistories` — what a run of appends should keep
* `Attaches` — a correction is for the operation of the record it corrects

## Main results

* `append_cases` — a call appends one row, or leaves the store
* `keepsHistories_iff` — a run keeps every operation's history to itself exactly when each
  correction it accepts attaches
-/

namespace Atreides

/-! ## Records -/

/-- The kinds of output a record can wrap. -/
inductive RecordKind
  | routingDecision
  | escalationRequired
  | quorumAuthorityRequired
  | settlementTelemetry
  | settlementEscalation
  | evidenceTimeline
  | investigationEscalation
  | cashGateDecision
  | obligationAcceptance
  | haltContext
  | instructionPrepared
  | railStatusObserved
  | finalityAsserted
  | reconciliationResult
  | customerProtectionComputation
  | corporateActionEvent
  | externalActionReceipt
  | clientOutput
  | booksPosting
  deriving DecidableEq, Repr

/-- An output, with what the store reads of it. -/
structure SettlementDomainOutput where
  kind : RecordKind
  operationId : Uuid
  /-- the `record_id` attribute, which no kind of output declares -/
  recordId : Option Uuid := none
  json : String
  deriving DecidableEq

/-- A record around one output. -/
structure DSORRecord where
  recordId : Uuid
  dtg : Timestamp
  kind : RecordKind
  output : SettlementDomainOutput
  correctionOf : Option Uuid
  deriving DecidableEq

/-- A new record, under an identifier drawn for it. -/
def DSORRecord.assemble (freshId : Uuid) (output : SettlementDomainOutput) (dtg : Timestamp)
    (correctionOf : Option Uuid) : DSORRecord :=
  ⟨freshId, dtg, output.kind, output, correctionOf⟩

/-! ## The table -/

/-- One row of the table. -/
structure Row where
  recordId : Uuid
  operationId : Uuid
  dtg : String
  kind : RecordKind
  payload : String
  correctionOf : Option Uuid
  deriving DecidableEq

/-- The rows that correct nothing. -/
def originals (rows : List Row) : List Row := rows.filter fun row => row.correctionOf.isNone

theorem mem_originals {rows : List Row} {row : Row} :
    row ∈ originals rows ↔ row ∈ rows ∧ row.correctionOf = none := by
  simp [originals]

/-- The rows in the order they were inserted: the record identifier is the key, and the
operation identifies an original. -/
structure Table where
  rows : List Row
  primary_key : (rows.map Row.recordId).Nodup
  unique_original : ((originals rows).map Row.operationId).Nodup

namespace Table

def empty : Table := ⟨[], List.nodup_nil, List.nodup_nil⟩

/-- The constraints admit one more row. -/
def Admits (table : Table) (row : Row) : Prop :=
  row.recordId ∉ table.rows.map Row.recordId ∧
    (row.correctionOf = none → row.operationId ∉ (originals table.rows).map Row.operationId)

instance (table : Table) (row : Row) : Decidable (table.Admits row) :=
  inferInstanceAs (Decidable (_ ∧ (_ → _)))

theorem Admits.primary_key {table : Table} {row : Row} (h : table.Admits row) :
    ((table.rows ++ [row]).map Row.recordId).Nodup := by
  rw [List.map_append]
  exact table.primary_key.append (List.nodup_singleton _) (by simpa using h.1)

theorem Admits.unique_original {table : Table} {row : Row} (h : table.Admits row) :
    ((originals (table.rows ++ [row])).map Row.operationId).Nodup := by
  have happend : originals (table.rows ++ [row]) = originals table.rows ++ originals [row] :=
    List.filter_append _ _
  rw [happend, List.map_append]
  rcases hcorrection : row.correctionOf with _ | target
  · have hnone : originals [row] = [row] := by simp [originals, hcorrection]
    rw [hnone]
    apply table.unique_original.append (List.nodup_singleton _)
    exact List.disjoint_singleton.mpr (h.2 hcorrection)
  · have hsome : originals [row] = [] := by simp [originals, hcorrection]
    rw [hsome, List.map_nil, List.append_nil]
    exact table.unique_original

/-- Insert a row, where the constraints admit it. -/
def insert (table : Table) (row : Row) : Option Table :=
  if h : table.Admits row then
    some ⟨table.rows ++ [row], h.primary_key, h.unique_original⟩
  else none

end Table

/-! ## The store -/

/-- The store: its table is the durable record. -/
structure DSORStore where
  table : Table

namespace DSORStore

def new : DSORStore := ⟨.empty⟩

/-- The rows of the store, in the order they were appended. -/
def rows (store : DSORStore) : List Row := store.table.rows

/-- One call of `append`: its arguments, the clock, and the identifier drawn for the record. -/
structure Append where
  output : SettlementDomainOutput
  dtg : Option Timestamp := none
  correctionOf : Option Uuid := none
  now : Timestamp
  freshId : Uuid
  deriving DecidableEq

/-- A correction corrects something that exists, and not itself. -/
def checkCorrection (store : DSORStore) (request : Append) : Outcome Unit :=
  match request.correctionOf with
  | none => .ok ()
  | some target =>
    if !store.rows.any fun row => row.recordId = target then
      .error (.refused "DSORRecordNotFoundError" ("correction_of=" ++ target.text ++
        " does not resolve to a record in this store. A correction chain that points at " ++
        "nothing is not a chain, and a non-resolving pointer would exempt this record from " ++
        "the append-only constraint (AUR-CANONICAL-001 v1.6 Axiom 4)."))
    else if request.output.recordId = some target then
      .error (.refused "DSORAppendOnlyError" "a record may not correct itself")
    else .ok ()

/-- The row a call inserts. -/
def rowOf (request : Append) : Row where
  recordId := request.freshId
  operationId := request.output.operationId
  dtg := (request.dtg.getD request.now).isoformat
  kind := request.output.kind
  payload := request.output.json
  correctionOf := request.correctionOf

/-- Append a record of an output: an original, or a correction of a stored record. -/
def append (store : DSORStore) (request : Append) : Outcome (DSORStore × DSORRecord) := do
  store.checkCorrection request
  let record := DSORRecord.assemble request.freshId request.output
    (request.dtg.getD request.now) request.correctionOf
  match store.table.insert (rowOf request) with
  | none =>
    throw (.refused "DSORAppendOnlyError"
      ("DSOR append-only violation: a non-correction record for operation_id=" ++
        request.output.operationId.text ++ " already exists. To correct it, pass " ++
        "correction_of=<original_record_id>. Per AUR-CANONICAL-001 v1.6 Axiom 4 " ++
        "(immutable lineage)."))
  | some table => .ok (⟨table⟩, record)

/-- The store a call leaves behind, also when it raises. -/
def after (store : DSORStore) (request : Append) : DSORStore :=
  match store.append request with
  | .ok (store', _) => store'
  | .error _ => store

/-- The store after a run of calls, from an empty one. -/
def run (requests : List Append) : DSORStore := requests.foldl after new

theorem run_concat (requests : List Append) (request : Append) :
    run (requests ++ [request]) = after (run requests) request := by
  simp [run]

/-! ## One call -/

/-- The record a correction names is in the store, and is not the output's own. -/
def Resolves (store : DSORStore) (request : Append) : Prop :=
  ∀ target, request.correctionOf = some target →
    (∃ row ∈ store.rows, row.recordId = target) ∧ request.output.recordId ≠ some target

theorem checkCorrection_eq_ok_iff {store : DSORStore} {request : Append} :
    store.checkCorrection request = .ok () ↔ Resolves store request := by
  rw [checkCorrection, Resolves]
  rcases request.correctionOf with _ | target
  · simp
  · by_cases hfound : ∃ row ∈ store.rows, row.recordId = target
    · have hany : (store.rows.any fun row => row.recordId = target) = true := by simpa using hfound
      by_cases hself : request.output.recordId = some target
      · simp [hany, hself]
      · simp [hany, hself, hfound]
    · have hany : (store.rows.any fun row => row.recordId = target) = false := by simpa using hfound
      simp [hany, hfound]

/-- A call appends the row of a request that resolves and is admitted, or raises. -/
theorem append_cases (store : DSORStore) (request : Append) :
    (Resolves store request ∧ store.table.Admits (rowOf request) ∧
      ∃ store' record, store.append request = .ok (store', record) ∧
        store'.rows = store.rows ++ [rowOf request]) ∨
    (¬ (Resolves store request ∧ store.table.Admits (rowOf request)) ∧
      ∃ e, store.append request = .error e) := by
  rw [append]
  rcases hcheck : store.checkCorrection request with e | ⟨⟩
  · right
    refine ⟨?_, e, rfl⟩
    rintro ⟨hresolves, -⟩
    rw [checkCorrection_eq_ok_iff.mpr hresolves] at hcheck
    cases hcheck
  · have hresolves := checkCorrection_eq_ok_iff.mp hcheck
    by_cases hadmits : store.table.Admits (rowOf request)
    · left
      refine ⟨hresolves, hadmits, ?_⟩
      simp only [Table.insert, hadmits, dif_pos]
      exact ⟨_, _, rfl, rfl⟩
    · right
      simp only [Table.insert, hadmits, dif_neg, not_false_eq_true]
      exact ⟨fun h => h.2, _, rfl⟩

/-- A call of `append`, on the store it changes. -/
def appendRecord (request : Append) : Effect DSORStore DSORRecord := fun store =>
  match store.append request with
  | .ok (store', record) => .ok record store'
  | .error e => .error e store

theorem appendRecord_transactional (request : Append) :
    Effect.Transactional (appendRecord request) := by
  intro store e store' h
  rw [appendRecord] at h
  rcases happend : store.append request with e' | ⟨store'', record⟩
  · rw [happend] at h
    cases h
    rfl
  · rw [happend] at h
    cases h

/-- A call that returns appends the row of its request. -/
theorem rows_of_appendRecord {request : Append} {store store' : DSORStore} {record : DSORRecord}
    (h : appendRecord request store = .ok record store') :
    store'.rows = store.rows ++ [rowOf request] := by
  rw [appendRecord] at h
  rcases append_cases store request with ⟨-, -, _, _, happend, hrows⟩ | ⟨-, _, happend⟩
  · rw [happend] at h
    cases h
    exact hrows
  · rw [happend] at h
    cases h

/-- The record a call returns has the identifier drawn for it. -/
theorem recordId_of_appendRecord {request : Append} {store store' : DSORStore}
    {record : DSORRecord} (h : appendRecord request store = .ok record store') :
    record.recordId = request.freshId := by
  rw [appendRecord] at h
  rcases happend : store.append request with e | ⟨store'', record'⟩
  · rw [happend] at h
    cases h
  · rw [happend] at h
    cases h
    rw [append, Outcome.bind_eq_ok] at happend
    obtain ⟨-, -, hinsert⟩ := happend
    simp only at hinsert
    split at hinsert
    · cases hinsert
    · cases hinsert
      rfl

/-- What a call leaves behind: the store, or the store with one more row. -/
theorem after_cases (store : DSORStore) (request : Append) :
    (Resolves store request ∧ store.table.Admits (rowOf request) ∧
      (after store request).rows = store.rows ++ [rowOf request]) ∨
    (¬ (Resolves store request ∧ store.table.Admits (rowOf request)) ∧
      after store request = store) := by
  rcases append_cases store request with
    ⟨hresolves, hadmits, store', record, happend, hrows⟩ | ⟨hnot, e, happend⟩
  · refine Or.inl ⟨hresolves, hadmits, ?_⟩
    rw [after, happend]
    exact hrows
  · refine Or.inr ⟨hnot, ?_⟩
    rw [after, happend]

/-- No call takes a row away or changes one. -/
theorem rows_after (store : DSORStore) (request : Append) :
    store.rows <+: (after store request).rows := by
  rcases after_cases store request with ⟨-, -, hrows⟩ | ⟨-, hsame⟩
  · rw [hrows]
    exact List.prefix_append _ _
  · rw [hsame]

/-! ## Chains of corrections -/

/-- One row corrects another of the store. -/
def Corrects (store : DSORStore) : Row → Row → Prop :=
  PointsTo Row.recordId Row.correctionOf store.rows

/-- The original where the chain of corrections of a row ends. -/
def OriginalOf (store : DSORStore) : Row → Row → Prop :=
  LeadsTo Row.recordId Row.correctionOf store.rows

/-- Every correction names a row that was appended earlier. -/
theorem backward_run (requests : List Append) :
    Backward Row.recordId Row.correctionOf (run requests).rows := by
  induction requests using List.reverseRecOn with
  | nil => exact linked_nil
  | append_singleton requests request ih =>
    rw [run_concat]
    rcases after_cases (run requests) request with ⟨hresolves, -, hrows⟩ | ⟨-, hsame⟩
    · rw [hrows]
      exact linked_concat.mpr ⟨ih, fun target htarget => (hresolves target htarget).1⟩
    · rw [hsame]
      exact ih

/-! ## Histories of operations -/

/-- The history of every operation in a store: one original, and chains of corrections
that end at the original of their own operation. -/
structure HistoriesApart (store : DSORStore) : Prop where
  one_original : ∀ a ∈ store.rows, ∀ b ∈ store.rows, a.correctionOf = none →
    b.correctionOf = none → a.operationId = b.operationId → a = b
  chains_end : ∀ row ∈ store.rows,
    Acc (fun b a => Corrects store a b) row ∧ ∃ original ∈ store.rows, OriginalOf store row original
  same_operation : ∀ row ∈ store.rows, ∀ original, OriginalOf store row original →
    original.operationId = row.operationId

/-- In every store a run passes through the histories are apart, and what was stored stays:
rows are only appended, and a refused call leaves the store. -/
structure KeepsHistories (requests : List Append) : Prop where
  apart : ∀ before rest, requests = before ++ rest → HistoriesApart (run before)
  grows : ∀ before rest, requests = before ++ rest → (run before).rows <+: (run requests).rows
  refused : ∀ before request rest, requests = before ++ request :: rest →
    ∀ e, (run before).append request = .error e → run (before ++ [request]) = run before

/-- A correction that the store accepts is for the operation of the record it corrects. -/
def Attaches (store : DSORStore) (request : Append) : Prop :=
  request.freshId ∉ store.rows.map Row.recordId → ∀ target ∈ store.rows,
    request.correctionOf = some target.recordId →
      request.output.recordId ≠ some target.recordId →
        request.output.operationId = target.operationId

/-- Every correction of the rows is for the operation of the row it corrects. -/
def Attached (rows : List Row) : Prop :=
  ∀ a ∈ rows, ∀ b, PointsTo Row.recordId Row.correctionOf rows a b →
    b.operationId = a.operationId

/-- A call that attaches keeps the corrections attached. -/
theorem attached_after {store : DSORStore}
    (hbackward : Backward Row.recordId Row.correctionOf store.rows) (h : Attached store.rows)
    {request : Append} (hattaches : Attaches store request) :
    Attached (after store request).rows := by
  rcases after_cases store request with ⟨hresolves, hadmits, hrows⟩ | ⟨-, hsame⟩
  · rw [hrows]
    intro a ha b hb
    -- a correction names a row of the store, whose identifier the new row does not have
    have hnames : ((store.rows ++ [rowOf request]).map Row.recordId).Nodup := hadmits.primary_key
    have hearlier : ∃ c ∈ store.rows, c.recordId = b.recordId := by
      rw [List.mem_append, List.mem_singleton] at ha
      rcases ha with ha | rfl
      · obtain ⟨before, rest, hsplit⟩ := List.append_of_mem ha
        obtain ⟨c, hc, hname⟩ := hbackward before a rest hsplit _ hb.2
        exact ⟨c, by rw [hsplit]; exact List.mem_append_left _ hc, hname⟩
      · exact (hresolves _ hb.2).1
    obtain ⟨c, hc, hname⟩ := hearlier
    have hcb : c = b :=
      List.inj_on_of_nodup_map hnames (List.mem_append_left _ hc) hb.1 hname
    subst hcb
    rw [List.mem_append, List.mem_singleton] at ha
    rcases ha with ha | rfl
    · exact h a ha c ⟨hc, hb.2⟩
    · exact (hattaches hadmits.1 c hc hb.2 (hresolves _ hb.2).2).symm
  · rw [hsame]
    exact h

theorem attached_run {requests : List Append}
    (h : ∀ before request rest, requests = before ++ request :: rest →
      Attaches (run before) request) : Attached (run requests).rows := by
  induction requests using List.reverseRecOn with
  | nil =>
    intro a ha
    exact absurd ha List.not_mem_nil
  | append_singleton requests request ih =>
    rw [run_concat]
    refine attached_after (backward_run requests) (ih ?_) (h requests request [] rfl)
    rintro before earlier rest rfl
    exact h before earlier (rest ++ [request]) (by simp)

theorem historiesApart_of_attached {requests : List Append}
    (h : Attached (run requests).rows) : HistoriesApart (run requests) := by
  have hbackward := backward_run requests
  have hnames := (run requests).table.primary_key
  refine ⟨?_, fun row hrow => ⟨hbackward.acc hnames hrow, hbackward.exists_leadsTo hnames hrow⟩,
    fun row hrow original horiginal => horiginal.preserves (fun a b ha hb => h a ha b hb) hrow⟩
  intro a ha b hb hnone hnone' hoperation
  exact List.inj_on_of_nodup_map (run requests).table.unique_original
    (mem_originals.mpr ⟨ha, hnone⟩) (mem_originals.mpr ⟨hb, hnone'⟩) hoperation

theorem rows_extend (requests more : List Append) :
    (run requests).rows <+: (run (requests ++ more)).rows := by
  rw [run, run, List.foldl_append]
  exact prefix_foldl rows_after _ more

/-- Where the histories are apart after an accepted correction, it attached. -/
theorem attaches_of_apart {store : DSORStore} {request : Append}
    (hbefore : HistoriesApart store) (hafter : HistoriesApart (after store request)) :
    Attaches store request := by
  intro hfresh target htarget hcorrection hself
  have hresolves : Resolves store request := by
    intro name hname
    rw [hcorrection] at hname
    cases hname
    exact ⟨⟨target, htarget, rfl⟩, hself⟩
  have hadmits : store.table.Admits (rowOf request) := by
    refine ⟨hfresh, fun hnone => ?_⟩
    rw [rowOf, hcorrection] at hnone
    cases hnone
  rcases after_cases store request with ⟨-, -, hrows⟩ | ⟨hnot, -⟩
  · obtain ⟨original, horiginal, hpath, hend⟩ := (hbefore.chains_end target htarget).2
    have hgrown : ∀ a b, Corrects store a b → Corrects (after store request) a b := by
      rintro a b ⟨hb, hpointer⟩
      exact ⟨(rows_after store request).subset hb, hpointer⟩
    have hstep : Corrects (after store request) (rowOf request) target :=
      ⟨(rows_after store request).subset htarget, hcorrection⟩
    have hnew : rowOf request ∈ (after store request).rows := by
      rw [hrows]
      exact List.mem_append_right _ (List.mem_singleton_self _)
    have hpath' : OriginalOf (after store request) target original :=
      ⟨Relation.ReflTransGen.mono hgrown _ _ hpath, hend⟩
    have htarget' := hafter.same_operation target ((rows_after store request).subset htarget)
      original hpath'
    have hrequest := hafter.same_operation (rowOf request) hnew original
      ⟨hpath'.1.head hstep, hend⟩
    exact hrequest.symm.trans htarget'
  · exact absurd ⟨hresolves, hadmits⟩ hnot

/-- A run of appends keeps the histories of operations apart exactly when every correction
it accepts is for the operation of the record it corrects. -/
theorem keepsHistories_iff (requests : List Append) :
    KeepsHistories requests ↔ ∀ before request rest, requests = before ++ request :: rest →
      Attaches (run before) request := by
  constructor
  · intro h before request rest hsplit
    refine attaches_of_apart (h.apart before _ hsplit) ?_
    rw [← run_concat]
    exact h.apart (before ++ [request]) rest (by rw [hsplit, List.append_cons])
  · intro h
    refine ⟨?_, ?_, ?_⟩
    · rintro before rest rfl
      apply historiesApart_of_attached
      apply attached_run
      rintro earlier request more rfl
      exact h earlier request (more ++ rest) (by simp)
    · rintro before rest rfl
      exact rows_extend before rest
    · rintro before request rest rfl e he
      rw [run_concat, after, he]

/-! ### A correction of another operation's record -/

/-- An output of one operation. -/
def outputOf (operation : Uuid) : SettlementDomainOutput where
  kind := .settlementTelemetry
  operationId := operation
  json := "\x7b\x7d"

/-- An original of one operation, then a correction of it for another operation. -/
def crossedCorrections : List Append :=
  [{ output := outputOf ⟨"00000000-0000-4000-8000-00000000000a", by decide⟩
     now := .midnight (.of 2026 10 5)
     freshId := ⟨"00000000-0000-4000-8000-000000000001", by decide⟩ },
   { output := outputOf ⟨"00000000-0000-4000-8000-00000000000b", by decide⟩
     correctionOf := some ⟨"00000000-0000-4000-8000-000000000001", by decide⟩
     now := .midnight (.of 2026 10 5)
     freshId := ⟨"00000000-0000-4000-8000-000000000002", by decide⟩ }]

theorem crossedCorrections_not_kept : ¬ ∀ requests, KeepsHistories requests := by
  intro h
  have hkeeps := h crossedCorrections
  have happart := hkeeps.apart [crossedCorrections[0]] [crossedCorrections[1]] rfl
  have happart' := hkeeps.apart crossedCorrections [] rfl
  have hattaches : Attaches (run [crossedCorrections[0]]) crossedCorrections[1] :=
    attaches_of_apart happart happart'
  have hcrossed := hattaches (by decide) (rowOf crossedCorrections[0]) (by decide) (by decide)
    (by decide)
  exact absurd hcrossed (by decide)

end DSORStore

end Atreides
