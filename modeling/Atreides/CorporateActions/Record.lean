import Atreides.CorporateActions.Election
import Atreides.CorporateActions.Reconciliation
import Atreides.Foundation.Numeral
import Atreides.Foundation.Uuid

/-!
# Records of corporate actions

A lifecycle request, an election submission, a default assignment or a reconciliation, each
with everything it was made from. An event's records are enough to rebuild its lifecycle and
its elections, in whatever order they come.

## Main definitions

* `CorporateActionEventRecord` — one record, with the body that says what it is of
* `rebuildFromRecords`, `rebuildElectionsFromRecords` — the lifecycle and the elections of
  a list of records

## Main results

* `lifecycle_kept_and_rebuilt` — what every run of requests keeps, and which journals and
  records rebuild it
-/

namespace Atreides

namespace CorporateActions

/-! ## Records -/

/-- A lifecycle request against an event, and what the lifecycle did with it. -/
structure LifecycleTransitionBody where
  event : CorporateActionEvent
  entry : TransitionEntry

/-- An election submission against an event, and what the workflow did with it. -/
structure ElectionBody where
  event : CorporateActionEvent
  policy : ElectionPolicy
  entry : ElectionEntry

/-- The default applied to every account's uninstructed balance. -/
structure DefaultAssignmentBody where
  event : CorporateActionEvent
  policy : ElectionPolicy
  assignment : DefaultAssignment

/-- An event's entitlement reconciled against its confirmations, with every input. -/
structure ReconciliationBody where
  event : CorporateActionEvent
  entitlement : EntitlementResult
  confirmations : List MovementReport
  result : CorporateActionReconciliation

inductive RecordBody
  | lifecycleTransition (body : LifecycleTransitionBody)
  | election (body : ElectionBody)
  | defaultAssignment (body : DefaultAssignmentBody)
  | reconciliation (body : ReconciliationBody)

/-- Twelve digits: a year, a month, a day, an hour and a minute. -/
def isDtg (text : String) : Bool :=
  text.length = 12 && text.toList.all fun c => (digitValue? c).isSome

/-- One record. -/
structure CorporateActionEventRecord where
  operationId : Uuid
  recordedDtg : String
  body : RecordBody
  dtg : isDtg recordedDtg = true := by decide

/-- Apply or refuse a request, and assemble its record. -/
def recordRequest (lifecycle : Lifecycle) (request : TransitionRequest) (operationId : Uuid)
    (recordedDtg : String) (h : isDtg recordedDtg = true) :
    Lifecycle × CorporateActionEventRecord :=
  let (advanced, entry) := lifecycle.request request
  (advanced,
    { operationId, recordedDtg, dtg := h
      body := .lifecycleTransition { event := lifecycle.event, entry } })

/-- Accept, refuse or recognise a duplicate, and assemble its record. -/
def recordSubmission (book : ElectionBook) (submission : Submission) (operationId : Uuid)
    (recordedDtg : String) (h : isDtg recordedDtg = true) :
    Outcome (ElectionBook × CorporateActionEventRecord) := do
  let (advanced, entry) ← book.submit submission
  .ok (advanced,
    { operationId, recordedDtg, dtg := h
      body := .election { event := book.event, policy := book.policy, entry } })

/-! ## Rebuilding -/

/-- The event of the first body, where every body carries the same event. -/
def oneEvent {β : Type} (eventOf : β → CorporateActionEvent) :
    List β → Outcome CorporateActionEvent
  | [] => .error (journalMismatchError "no records to rebuild from")
  | body :: rest =>
    if rest.any fun b => !(eventOf b).same (eventOf body) then
      .error (journalMismatchError "a record carries a different event from the first record")
    else .ok (eventOf body)

/-- The bodies of the lifecycle records. -/
def transitionBodies (records : List CorporateActionEventRecord) : List LifecycleTransitionBody :=
  records.filterMap fun r =>
    match r.body with
    | .lifecycleTransition body => some body
    | _ => none

/-- The lifecycle of bodies in the order of their entries. -/
def rebuildBodies (bodies : List LifecycleTransitionBody) : Outcome Lifecycle := do
  let event ← oneEvent LifecycleTransitionBody.event bodies
  rebuild event (bodies.map fun b => b.entry)

/-- Rebuild one event's lifecycle from its records, in any order. -/
def rebuildFromRecords (records : List CorporateActionEventRecord) : Outcome Lifecycle :=
  rebuildBodies ((transitionBodies records).insertionSort fun a b =>
    a.entry.sequence ≤ b.entry.sequence)

/-- The bodies of the election records. -/
def electionBodies (records : List CorporateActionEventRecord) : List ElectionBody :=
  records.filterMap fun r =>
    match r.body with
    | .election body => some body
    | _ => none

/-- The policy of the first body, where every body carries the same policy. -/
def onePolicy : List ElectionBody → Outcome ElectionPolicy
  | [] => .error (journalMismatchError "no records to rebuild from")
  | body :: rest =>
    if rest.any fun b => b.policy ≠ body.policy then
      .error (journalMismatchError "a record carries a different policy from the first record")
    else .ok body.policy

/-- The election book of bodies in the order of their entries. -/
def rebuildElectionBodies (bodies : List ElectionBody) : Outcome ElectionBook := do
  let event ← oneEvent ElectionBody.event bodies
  let policy ← onePolicy bodies
  rebuildElections event policy (bodies.map fun b => b.entry)

/-- Rebuild one event's election book from its records, in any order. -/
def rebuildElectionsFromRecords (records : List CorporateActionEventRecord) :
    Outcome ElectionBook :=
  rebuildElectionBodies ((electionBodies records).insertionSort fun a b =>
    a.entry.sequence ≤ b.entry.sequence)

/-! ## The lifecycle of a list of records -/

theorem oneEvent_raises {β : Type} {eventOf : β → CorporateActionEvent} {bodies : List β}
    {e : PyError} (h : oneEvent eventOf bodies = .error e) :
    ∃ text, e = journalMismatchError text := by
  cases bodies with
  | nil =>
    cases h
    exact ⟨_, rfl⟩
  | cons body rest =>
    rw [oneEvent] at h
    split_ifs at h
    cases h
    exact ⟨_, rfl⟩

/-- Bodies that rebuild hold entries at distinct positions. -/
theorem sequences_nodup_of_rebuildBodies {bodies : List LifecycleTransitionBody}
    {lifecycle : Lifecycle} (h : rebuildBodies bodies = .ok lifecycle) :
    (bodies.map fun b => b.entry.sequence).Nodup := by
  obtain ⟨event, -, hrebuild⟩ := Outcome.bind_eq_ok.mp h
  have hpositions := sequences_of_rebuild hrebuild
  rw [List.map_map] at hpositions
  rw [show (fun b : LifecycleTransitionBody => b.entry.sequence) =
    (fun e : TransitionEntry => e.sequence) ∘ fun b => b.entry from rfl, hpositions]
  exact List.nodup_range'

/-- The order of the records does not matter. -/
theorem rebuildFromRecords_perm {records records' : List CorporateActionEventRecord}
    (h : records.Perm records') (lifecycle : Lifecycle) :
    rebuildFromRecords records = .ok lifecycle ↔ rebuildFromRecords records' = .ok lifecycle :=
  insertionSort_ok_iff_of_perm (fun _ _ hbodies => sequences_nodup_of_rebuildBodies hbodies)
    (h.filterMap _) lifecycle

/-- Records that do not rebuild are a mismatch. -/
theorem rebuildFromRecords_raises {records : List CorporateActionEventRecord} {e : PyError}
    (h : rebuildFromRecords records = .error e) : ∃ text, e = journalMismatchError text := by
  rcases Outcome.bind_eq_error.mp h with hevent | ⟨event, -, hrebuild⟩
  · exact oneEvent_raises hevent
  · exact rebuild_raises hrebuild

/-- Bodies that all carry one event are of that event. -/
theorem oneEvent_of_forall {β : Type} {eventOf : β → CorporateActionEvent}
    {event : CorporateActionEvent} {bodies : List β} (hne : bodies ≠ [])
    (h : ∀ b ∈ bodies, eventOf b = event) : oneEvent eventOf bodies = .ok event := by
  cases bodies with
  | nil => exact absurd rfl hne
  | cons body rest =>
    have hbody := h body (by simp)
    have hrest : ¬ rest.any (fun b => !(eventOf b).same (eventOf body)) = true := by
      simp only [List.any_eq_true, not_exists, not_and]
      intro b hb
      rw [h b (by simp [hb]), hbody]
      simp
    rw [oneEvent, if_neg hrest, hbody]

/-- The records of a run, in any order and among records of other kinds, rebuild the lifecycle
the run led to. -/
theorem rebuildFromRecords_of_run {event : CorporateActionEvent}
    {requests : List TransitionRequest} (hne : requests ≠ [])
    {records : List CorporateActionEventRecord}
    (h : (transitionBodies records).Perm
      ((lifecycleAfter event requests).journal.map (LifecycleTransitionBody.mk event))) :
    rebuildFromRecords records = .ok (lifecycleAfter event requests) := by
  generalize hlifecycle : lifecycleAfter event requests = lifecycle at h ⊢
  let bodies := lifecycle.journal.map (LifecycleTransitionBody.mk event)
  have hrebuild : rebuild event lifecycle.journal = .ok lifecycle :=
    rebuild_eq_ok_iff.mpr ⟨requests, hlifecycle, rfl⟩
  have hentries : bodies.map (fun b => b.entry) = lifecycle.journal := by
    simp only [bodies, List.map_map]
    exact List.map_id _
  have hpositions : bodies.map (fun b => b.entry.sequence) = List.range' 0 bodies.length := by
    have hjournal := sequences_of_rebuild hrebuild
    simp only [bodies, List.map_map, List.length_map]
    exact hjournal
  have hevent : oneEvent LifecycleTransitionBody.event bodies = .ok event := by
    apply oneEvent_of_forall
    · have hlength := length_journal event requests
      rw [hlifecycle] at hlength
      simpa [bodies, ← List.length_eq_zero_iff, hlength] using hne
    · simp [bodies]
  -- the bodies sort into the order of the journal, and all carry the event of the run
  rw [rebuildFromRecords, insertionSort_of_positions h hpositions, rebuildBodies, hevent,
    Outcome.ok_bind, hentries, hrebuild]

/-! ## What every run keeps, and what rebuilds it -/

/-- In every run of requests the milestones are reached once each and in an order their rules
allow, dates are in order, an ended lifecycle applies nothing and a refusal changes nothing.
Exactly the journals of runs rebuild, to the lifecycle of the run; its records rebuild it in
any order; and the order of records never matters. -/
theorem lifecycle_kept_and_rebuilt :
    (∀ (event : CorporateActionEvent) (requests : List TransitionRequest),
      (lifecycleAfter event requests).Sound ∧
      ∀ request, ((lifecycleAfter event requests).state.status.ended = true →
          ((lifecycleAfter event requests).request request).2.outcome = .refused) ∧
        (((lifecycleAfter event requests).request request).2.outcome = .refused →
          ((lifecycleAfter event requests).request request).1.state =
            (lifecycleAfter event requests).state)) ∧
    (∀ event journal lifecycle, rebuild event journal = .ok lifecycle ↔
      ∃ requests, lifecycleAfter event requests = lifecycle ∧ lifecycle.journal = journal) ∧
    (∀ event requests records, requests ≠ [] →
      (transitionBodies records).Perm
        ((lifecycleAfter event requests).journal.map (LifecycleTransitionBody.mk event)) →
      rebuildFromRecords records = .ok (lifecycleAfter event requests)) ∧
    (∀ records records', records.Perm records' → ∀ lifecycle,
      rebuildFromRecords records = .ok lifecycle ↔ rebuildFromRecords records' = .ok lifecycle) ∧
    ∀ records e, rebuildFromRecords records = .error e →
      ∃ text, e = journalMismatchError text := by
  refine ⟨?_, ?_, ?_, ?_, ?_⟩
  · intro event requests
    refine ⟨sound_of_run event requests, fun request => ⟨?_, ?_⟩⟩
    · exact fun hended => Lifecycle.refused_of_ended hended request
    · exact Lifecycle.request_of_refused
  · exact fun _ _ _ => rebuild_eq_ok_iff
  · exact fun _ _ _ hne hbodies => rebuildFromRecords_of_run hne hbodies
  · exact fun _ _ hperm lifecycle => rebuildFromRecords_perm hperm lifecycle
  · exact fun _ _ herror => rebuildFromRecords_raises herror

/-- A dividend announced on a first of July. -/
def julyDividend : CorporateActionEvent where
  eventId := "CA-JULY"
  securityId := "US0000000016"
  eventType := .cashDividend
  participation := .mandatory
  dates := { announcementDate := Date.of 2026 7 1 }
  provenance := .factExternal
  source := { sourceId := "DTC-JULY" }

/-- A milestone of the dividend, a day of July. -/
def julyRequest (milestone : Milestone) (date : Date) : TransitionRequest where
  milestone
  effectiveDate := date
  provenance := .factExternal
  source := { sourceId := "DTC-JULY" }

/-- The dividend is paid, and reversed the day after. A request in between is refused. -/
def julyRequests : List TransitionRequest :=
  [julyRequest .entitlementFixed (Date.of 2026 7 2), julyRequest .paid (Date.of 2026 7 3),
    julyRequest .cancelled (Date.of 2026 7 3), julyRequest .reversed (Date.of 2026 7 4)]

/-- The records of the requests, the last one first. -/
def julyRecords : List CorporateActionEventRecord :=
  (lifecycleAfter julyDividend julyRequests).journal.reverse.map fun entry =>
    { operationId := ⟨"00000000-0000-4000-8000-0000000000f1", by decide⟩
      recordedDtg := "202607040000"
      body := .lifecycleTransition { event := julyDividend, entry } }

theorem lifecycle_kept_and_rebuilt_july :
    rebuildFromRecords julyRecords = .ok (lifecycleAfter julyDividend julyRequests) ∧
      (lifecycleAfter julyDividend julyRequests).state.reached =
        [.entitlementFixed, .paid, .reversed] := by
  refine ⟨?_, by decide⟩
  apply lifecycle_kept_and_rebuilt.2.2.1 julyDividend julyRequests julyRecords (by decide)
  apply List.Perm.of_eq ?_ |>.trans ((List.reverse_perm _).map _)
  simp [transitionBodies, julyRecords, List.filterMap_map]

end CorporateActions

end Atreides
