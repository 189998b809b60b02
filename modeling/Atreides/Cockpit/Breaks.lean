import Atreides.Foundation.AppendLog
import Atreides.Kernel

/-!
# Break records

A break record keeps the evidence behind a break: who owned it and when, and what it was resolved
with. An owner is assigned and a break is resolved by building the record anew.

## Main definitions

* `BreakRecord` — the record, with its history of owners
* `assignBreakOwner`, `resolveBreak` — the two operations
* `Accountable` — the history hangs together, and a resolved break has its evidence
* `Accounted` — every record is accountable throughout a run, and a resolved one is left alone

## Main results

* `breaks_accounted` — runs that keep to the order of time and leave resolved breaks alone are
-/

namespace Atreides

/-- The current investigative state, not the status of the cockpit's ticket. -/
inductive BreakState
  | intakeUnassigned
  | open_
  | investigating
  | resolved
  | writtenOff
  deriving DecidableEq, Repr

/-- One action in the break's investigative history. -/
structure BreakAction where
  occurredAt : Timestamp
  actor : ActorRef
  action : String
  deriving DecidableEq

def BreakAction.check (action : BreakAction) : Outcome Unit := do
  Outcome.refuseIf (action.action = "") (.valueError "string_too_short")
  Outcome.refuseIf (action.occurredAt.utcOffset = none)
    (.valueError "break action time must be timezone-aware")

/-- The kinds of evidence that can support operational closure. -/
inductive ResolutionEvidenceKind
  | correctiveActionVerified
  | authorityConfirmation
  deriving DecidableEq, Repr

/-- One attributable owner assignment. -/
structure OwnershipChange where
  changedAt : Timestamp
  changedBy : ActorRef
  previousOwner : Option ActorRef
  assignedOwner : ActorRef
  provenance : Provenance
  deriving DecidableEq

def OwnershipChange.check (change : OwnershipChange) : Outcome Unit := do
  Outcome.refuseIf (change.changedAt.utcOffset = none)
    (.valueError "ownership change time must be timezone-aware")
  Outcome.refuseIf (!change.changedBy.authenticated)
    (.valueError "ownership change actor must be authenticated")
  Outcome.refuseIf (!change.assignedOwner.authenticated)
    (.valueError "assigned break owner must be authenticated")
  Outcome.refuseIf (change.previousOwner = some change.assignedOwner)
    (.valueError "ownership change must assign a different owner")

/-- Evidence supporting a claimed resolution. -/
structure ResolutionEvidence where
  breakId : String
  recordedAt : Timestamp
  recordedBy : ActorRef
  provenance : Provenance
  evidenceKind : ResolutionEvidenceKind
  evidenceRef : String
  detail : String
  deriving DecidableEq

def ResolutionEvidence.check (evidence : ResolutionEvidence) : Outcome Unit := do
  Outcome.refuseIf (evidence.breakId = "") (.valueError "string_too_short")
  Outcome.refuseIf (evidence.evidenceRef = "") (.valueError "string_too_short")
  Outcome.refuseIf (evidence.detail = "") (.valueError "string_too_short")
  Outcome.refuseIf (evidence.recordedAt.utcOffset = none)
    (.valueError "resolution evidence time must be timezone-aware")
  Outcome.refuseIf (!evidence.recordedBy.authenticated)
    (.valueError "resolution actor must be authenticated")

/-- A replayable evidence record for one existing break ticket. -/
structure BreakRecord where
  breakId : String
  operationId : String
  regime : String
  leg : String
  symptom : String
  sources : List String
  difference : String
  originatingEventAt : Timestamp
  originatingEventRef : String
  causeClass : String
  owner : Option ActorRef
  ownerAbsenceReason : Option String
  ownershipHistory : List OwnershipChange := []
  slaTarget : Timestamp
  actions : List BreakAction := []
  resolutionEvidence : Option ResolutionEvidence := none
  state : BreakState := .intakeUnassigned
  dsorRecordId : Option String := none
  deriving DecidableEq

namespace BreakRecord

/-- The texts and the lists of the record that may not be empty. -/
def checkTexts (record : BreakRecord) : Outcome Unit := do
  Outcome.foldSteps (fun _ text => Outcome.refuseIf (text = "") (.valueError "string_too_short")) ()
    [record.breakId, record.operationId, record.regime, record.leg, record.symptom,
      record.difference, record.originatingEventRef, record.causeClass]
  Outcome.refuseIf (record.sources = []) (.valueError "too_short")

/-- The history so far ends with the owner that the change starts from. -/
def follow (previous : Option ActorRef) (change : OwnershipChange) : Outcome (Option ActorRef) :=
  if change.previousOwner ≠ previous then .error (.valueError "ownership history is not contiguous")
  else .ok (some change.assignedOwner)

/-- What is required of an owner, where there is one. -/
def checkOwner (record : BreakRecord) : Outcome Unit :=
  match record.owner with
  | none => do
    Outcome.refuseIf (record.ownerAbsenceReason.getD "" = "")
      (.valueError "an absent owner must carry an explicit absence reason")
    Outcome.refuseIf (record.state ≠ .intakeUnassigned)
      (.valueError "an ownerless break must remain in fail-closed intake")
  | some owner => do
    Outcome.refuseIf (record.ownerAbsenceReason ≠ none)
      (.valueError "owner_absence_reason is set only when owner is absent")
    Outcome.refuseIf (record.state = .intakeUnassigned)
      (.valueError "an assigned break cannot remain in unassigned intake")
    Outcome.refuseIf (!owner.authenticated) (.valueError "break owner must be authenticated")
    match record.ownershipHistory.getLast? with
    | none => .error (.valueError "an assigned break must preserve ownership history")
    | some change =>
      Outcome.refuseIf (change.assignedOwner ≠ owner)
        (.valueError "current owner must match the latest ownership change")

/-- What is required of the evidence of a resolution, where there is one. -/
def checkResolution (record : BreakRecord) : Outcome Unit := do
  Outcome.refuseIf (record.state = .resolved ∧ record.resolutionEvidence = none)
    (.valueError "a resolved break must carry resolution evidence")
  Outcome.refuseIf (record.state ≠ .resolved ∧ record.resolutionEvidence ≠ none)
    (.valueError "resolution evidence is set only by the closure transition")
  Outcome.refuseIf (record.resolutionEvidence.any fun evidence => evidence.breakId ≠ record.breakId)
    (.valueError "resolution evidence belongs to another break")

/-- The record and everything in it is consistent. -/
def check (record : BreakRecord) : Outcome Unit := do
  record.checkTexts
  Outcome.foldSteps (fun _ change => OwnershipChange.check change) () record.ownershipHistory
  Outcome.foldSteps (fun _ action => BreakAction.check action) () record.actions
  Outcome.foldSteps (fun _ evidence => ResolutionEvidence.check evidence) ()
    record.resolutionEvidence.toList
  Outcome.refuseIf (record.originatingEventAt.utcOffset = none)
    (.valueError "originating event time must be timezone-aware")
  Outcome.refuseIf (record.slaTarget.utcOffset = none)
    (.valueError "SLA target must be timezone-aware")
  record.checkOwner
  let _ ← Outcome.foldSteps follow none record.ownershipHistory
  record.checkResolution

/-- The record, where it is consistent. -/
def validated (record : BreakRecord) : Outcome BreakRecord := do
  record.check
  .ok record

end BreakRecord

/-- What is asked of a break record. -/
inductive BreakCall
  | assign (owner changedBy : ActorRef) (changedAt : Timestamp) (provenance : Provenance)
  | resolve (evidence : ResolutionEvidence)
  deriving DecidableEq

/-- The change that assigns an owner to a break. -/
def changeTo (record : BreakRecord) (owner changedBy : ActorRef) (changedAt : Timestamp)
    (provenance : Provenance) : OwnershipChange where
  changedAt := changedAt
  changedBy := changedBy
  previousOwner := record.owner
  assignedOwner := owner
  provenance := provenance

/-- Assign or reassign ownership at the break-management boundary. -/
def assignBreakOwner (record : BreakRecord) (owner changedBy : ActorRef) (changedAt : Timestamp)
    (provenance : Provenance) : Outcome BreakRecord := do
  let change := changeTo record owner changedBy changedAt provenance
  change.check
  { record with
    owner := some owner
    ownerAbsenceReason := none
    ownershipHistory := record.ownershipHistory ++ [change]
    state := if record.state = BreakState.intakeUnassigned then .open_ else record.state }.validated

/-- Refuse evidence that was recorded before a time. -/
def refuseBefore (evidence : ResolutionEvidence) (time : Timestamp) (message : String) :
    Outcome Unit := do
  if ← evidence.recordedAt.isBefore time then .error (.valueError message) else .ok ()

/-- Refuse evidence that was recorded before the last change of owner. -/
def refuseBeforeOwnership (record : BreakRecord) (evidence : ResolutionEvidence) : Outcome Unit :=
  match record.ownershipHistory.getLast? with
  | none => .ok ()
  | some change =>
    refuseBefore evidence change.changedAt "resolution evidence predates the current ownership"

/-- Close an investigated break from attributable, break-bound evidence. -/
def resolveBreak (record : BreakRecord) (evidence : ResolutionEvidence) : Outcome BreakRecord := do
  Outcome.refuseIf (record.state ≠ .investigating)
    (.valueError "only an investigating break can be resolved")
  Outcome.refuseIf (record.owner = none) (.valueError "an ownerless break cannot be resolved")
  Outcome.refuseIf (evidence.breakId ≠ record.breakId)
    (.valueError "resolution evidence belongs to another break")
  refuseBefore evidence record.originatingEventAt "resolution evidence predates the break"
  refuseBeforeOwnership record evidence
  { record with state := .resolved, resolutionEvidence := some evidence }.validated

/-- The record that an operation answers with. -/
def BreakCall.apply (record : BreakRecord) : BreakCall → Outcome BreakRecord
  | .assign owner changedBy changedAt provenance =>
    assignBreakOwner record owner changedBy changedAt provenance
  | .resolve evidence => resolveBreak record evidence

/-- An operation on one of the records. A refused one leaves them as they were. -/
def operate (records : List BreakRecord) (call : ℕ × BreakCall) : List BreakRecord :=
  match records[call.1]? with
  | none => records
  | some record =>
    match call.2.apply record with
    | .error _ => records
    | .ok updated => records.set call.1 updated

/-- The records after a run of operations. -/
def operateAll (records : List BreakRecord) (calls : List (ℕ × BreakCall)) : List BreakRecord :=
  calls.foldl operate records

/-! ## Accountable records -/

/-- The owner that a history ends with. -/
def lastOwner (history : List OwnershipChange) : Option ActorRef :=
  history.getLast?.map OwnershipChange.assignedOwner

/-- Each change starts from the owner that the one before it left. -/
def Contiguous (history : List OwnershipChange) : Prop :=
  Linked (fun before change => change.previousOwner = lastOwner before) history

/-- No change is before an earlier one. -/
def InOrder (history : List OwnershipChange) : Prop :=
  Linked (fun before change => ∀ earlier ∈ before,
    earlier.changedAt.instant ≤ change.changedAt.instant) history

/-- The history of owners hangs together and ends with the owner, and what is resolved has its
evidence. -/
structure Accountable (record : BreakRecord) : Prop where
  contiguous : Contiguous record.ownershipHistory
  inOrder : InOrder record.ownershipHistory
  current : record.owner = lastOwner record.ownershipHistory
  evidenced : record.state = .resolved → record.resolutionEvidence.isSome = true

/-- Throughout a run of operations the records are accountable, a resolved break is left as it is,
and an operation that is refused changes nothing. -/
structure Accounted (records : List BreakRecord) (calls : List (ℕ × BreakCall)) : Prop where
  accountable : ∀ earlier later, calls = earlier ++ later →
    ∀ record ∈ operateAll records earlier, Accountable record
  closed : ∀ earlier call later, calls = earlier ++ call :: later →
    ∀ (place : ℕ) (record : BreakRecord), (operateAll records earlier)[place]? = some record →
      record.state = .resolved → (operateAll records (earlier ++ [call]))[place]? = some record
  refused : ∀ earlier call later, calls = earlier ++ call :: later → ∀ record error,
    (operateAll records earlier)[call.1]? = some record → call.2.apply record = .error error →
      operateAll records (earlier ++ [call]) = operateAll records earlier

/-- What the checks of a record leave open: its history is in order and ends with its owner. -/
structure Orderly (record : BreakRecord) : Prop where
  inOrder : InOrder record.ownershipHistory
  current : record.owner = lastOwner record.ownershipHistory

/-- An owner is assigned to a break that is not resolved, and not before the last change. -/
def Timely (record : BreakRecord) : BreakCall → Prop
  | .assign owner changedBy changedAt provenance =>
    (changeTo record owner changedBy changedAt provenance).check = .ok () →
      record.state ≠ .resolved ∧ ∀ change ∈ record.ownershipHistory.getLast?,
        change.changedAt.instant ≤ changedAt.instant
  | .resolve _ => True

/-- Every operation of a run is timely where it is made. -/
def TimelyRun : List BreakRecord → List (ℕ × BreakCall) → Prop
  | _, [] => True
  | records, call :: rest =>
    (∀ record ∈ records[call.1]?, Timely record call.2) ∧ TimelyRun (operate records call) rest

/-! ## The checks -/

section Checks

variable {record updated : BreakRecord} {history : List OwnershipChange} {change : OwnershipChange}

/-- The walk along the history returns where it is contiguous, with the owner it ends with. -/
theorem follow_eq_ok {last : Option ActorRef} :
    Outcome.foldSteps BreakRecord.follow none history = .ok last ↔
      Contiguous history ∧ last = lastOwner history := by
  induction history using List.reverseRecOn generalizing last with
  | nil =>
    rw [Outcome.foldSteps_nil, Except.ok.injEq, Contiguous]
    constructor
    · rintro rfl
      exact ⟨linked_nil, rfl⟩
    · rintro ⟨-, h⟩
      exact h.symm
  | append_singleton history change ih =>
    rw [Outcome.foldSteps_append, Outcome.bind_eq_ok, Contiguous, linked_concat]
    constructor
    · rintro ⟨owner, howner, hchange⟩
      obtain ⟨hcontiguous, rfl⟩ := ih.mp howner
      rw [Outcome.foldSteps_cons, BreakRecord.follow] at hchange
      split_ifs at hchange with hprevious
      · cases hchange
      · rw [not_not] at hprevious
        cases hchange
        refine ⟨⟨hcontiguous, hprevious⟩, ?_⟩
        rw [lastOwner, List.getLast?_concat]
        rfl
    · rintro ⟨⟨hcontiguous, hprevious⟩, rfl⟩
      refine ⟨lastOwner history, ih.mpr ⟨hcontiguous, rfl⟩, ?_⟩
      rw [Outcome.foldSteps_cons, BreakRecord.follow, if_neg (not_not_intro hprevious), lastOwner,
        List.getLast?_concat]
      rfl

/-- What a record that passes its checks shows. -/
theorem contiguous_of_check (h : record.check = .ok ()) : Contiguous record.ownershipHistory := by
  simp only [BreakRecord.check, Outcome.bind_eq_ok] at h
  obtain ⟨-, -, -, -, -, -, -, -, -, -, -, -, -, -, last, hlast, -⟩ := h
  exact (follow_eq_ok.mp hlast).1

theorem evidenced_of_check (h : record.check = .ok ()) (hresolved : record.state = .resolved) :
    record.resolutionEvidence.isSome = true := by
  simp only [BreakRecord.check, Outcome.bind_eq_ok, BreakRecord.checkResolution,
    Outcome.refuseIf_eq_ok] at h
  obtain ⟨-, -, -, -, -, -, -, -, -, -, -, -, -, -, last, hlast, -, hevidence, -⟩ := h
  exact Option.isSome_iff_ne_none.mpr fun hnone => hevidence ⟨hresolved, hnone⟩

theorem validated_eq_ok :
    record.validated = .ok updated ↔ record.check = .ok () ∧ updated = record := by
  rw [BreakRecord.validated, Outcome.bind_eq_ok]
  constructor
  · rintro ⟨⟨⟩, hcheck, h⟩
    cases h
    exact ⟨hcheck, rfl⟩
  · rintro ⟨hcheck, rfl⟩
    exact ⟨(), hcheck, rfl⟩

/-! ## One operation -/

theorem assign_eq_ok {owner changedBy : ActorRef} {changedAt : Timestamp} {provenance : Provenance}
    (h : assignBreakOwner record owner changedBy changedAt provenance = .ok updated) :
    (changeTo record owner changedBy changedAt provenance).check = .ok () ∧
      updated.check = .ok () ∧ updated.owner = some owner ∧
      updated.ownershipHistory =
        record.ownershipHistory ++ [changeTo record owner changedBy changedAt provenance] := by
  obtain ⟨⟨⟩, hchange, h⟩ := Outcome.bind_eq_ok.mp h
  obtain ⟨hcheck, rfl⟩ := validated_eq_ok.mp h
  exact ⟨hchange, hcheck, rfl, rfl⟩

theorem resolve_eq_ok {evidence : ResolutionEvidence}
    (h : resolveBreak record evidence = .ok updated) :
    record.state = .investigating ∧ updated.check = .ok () ∧ updated.owner = record.owner ∧
      updated.ownershipHistory = record.ownershipHistory := by
  obtain ⟨⟨⟩, hstate, h⟩ := Outcome.bind_eq_ok.mp h
  obtain ⟨-, -, h⟩ := Outcome.bind_eq_ok.mp h
  obtain ⟨-, -, h⟩ := Outcome.bind_eq_ok.mp h
  obtain ⟨-, -, h⟩ := Outcome.bind_eq_ok.mp h
  obtain ⟨-, -, h⟩ := Outcome.bind_eq_ok.mp h
  obtain ⟨hcheck, rfl⟩ := validated_eq_ok.mp h
  rw [Outcome.refuseIf_eq_ok, not_not] at hstate
  exact ⟨hstate, hcheck, rfl, rfl⟩

theorem Accountable.of_check (hcheck : record.check = .ok ()) (horderly : Orderly record) :
    Accountable record where
  contiguous := contiguous_of_check hcheck
  inOrder := horderly.inOrder
  current := horderly.current
  evidenced := evidenced_of_check hcheck

/-- A change that is not before the last one is before none. -/
theorem InOrder.concat (h : InOrder history) (hlast : ∀ last ∈ history.getLast?,
    last.changedAt.instant ≤ change.changedAt.instant) : InOrder (history ++ [change]) := by
  refine linked_concat.mpr ⟨h, ?_⟩
  intro earlier hearlier
  induction history using List.reverseRecOn with
  | nil => cases hearlier
  | append_singleton history last _ =>
    have hle := hlast last (by rw [List.getLast?_concat]; rfl)
    rcases List.mem_append.mp hearlier with hbefore | hsame
    · exact ((linked_concat.mp h).2 earlier hbefore).trans hle
    · rw [List.mem_singleton.mp hsame]
      exact hle

/-- A timely operation leaves an orderly record that passes the checks. -/
theorem Orderly.apply {call : BreakCall} (horderly : Orderly record) (htimely : Timely record call)
    (h : call.apply record = .ok updated) : updated.check = .ok () ∧ Orderly updated := by
  cases call with
  | assign owner changedBy changedAt provenance =>
    obtain ⟨hchange, hcheck, howner, hhistory⟩ := assign_eq_ok h
    refine ⟨hcheck, ?_, ?_⟩
    · rw [hhistory]
      exact horderly.inOrder.concat (htimely hchange).2
    · rw [hhistory, howner, lastOwner, List.getLast?_concat]
      rfl
  | resolve evidence =>
    obtain ⟨-, hcheck, howner, hhistory⟩ := resolve_eq_ok h
    refine ⟨hcheck, ?_, ?_⟩
    · exact hhistory ▸ horderly.inOrder
    · rw [howner, hhistory]
      exact horderly.current

/-- A timely operation on a resolved break is refused. -/
theorem refused_of_resolved {call : BreakCall} (htimely : Timely record call)
    (hresolved : record.state = .resolved) : ∃ error, call.apply record = .error error := by
  cases happly : call.apply record with
  | error error => exact ⟨error, rfl⟩
  | ok updated =>
    cases call with
    | assign owner changedBy changedAt provenance =>
      obtain ⟨hchange, -⟩ := assign_eq_ok happly
      exact absurd hresolved (htimely hchange).1
    | resolve evidence =>
      obtain ⟨hstate, -⟩ := resolve_eq_ok happly
      rw [hresolved] at hstate
      cases hstate

end Checks

/-! ## Runs -/

section Runs

variable {records : List BreakRecord} {calls earlier later : List (ℕ × BreakCall)}
  {call : ℕ × BreakCall}

/-- The records that a run starts from: each passes its checks and is orderly. -/
def Admitted (records : List BreakRecord) : Prop :=
  ∀ record ∈ records, record.check = .ok () ∧ Orderly record

theorem operate_of_error {record : BreakRecord} {error : PyError}
    (hrecord : records[call.1]? = some record) (h : call.2.apply record = .error error) :
    operate records call = records := by
  rw [operate, hrecord]
  simp only [h]

theorem Admitted.operate (h : Admitted records)
    (htimely : ∀ record ∈ records[call.1]?, Timely record call.2) :
    Admitted (operate records call) := by
  rw [Atreides.operate]
  split
  next => exact h
  next record hrecord =>
    split
    next => exact h
    next updated hupdated =>
      intro other hother
      rcases List.mem_or_eq_of_mem_set hother with hmem | rfl
      · exact h other hmem
      · exact (h record (List.mem_of_getElem? hrecord)).2.apply (htimely record hrecord) hupdated

/-- What is resolved stays as it is. -/
theorem getElem?_operate (htimely : ∀ record ∈ records[call.1]?, Timely record call.2) {place : ℕ}
    {record : BreakRecord} (hrecord : records[place]? = some record)
    (hresolved : record.state = .resolved) : (operate records call)[place]? = some record := by
  by_cases hplace : call.1 = place
  · cases hplace
    obtain ⟨error, herror⟩ := refused_of_resolved (htimely record hrecord) hresolved
    rw [operate_of_error hrecord herror, hrecord]
  · rw [operate]
    split
    next => exact hrecord
    next =>
      split
      next => exact hrecord
      next => rw [List.getElem?_set_ne hplace, hrecord]

theorem operateAll_concat (records : List BreakRecord) (calls : List (ℕ × BreakCall))
    (call : ℕ × BreakCall) :
    operateAll records (calls ++ [call]) = operate (operateAll records calls) call := by
  simp [operateAll]

theorem timelyRun_append : TimelyRun records (earlier ++ later) ↔
    TimelyRun records earlier ∧ TimelyRun (operateAll records earlier) later := by
  induction earlier generalizing records with
  | nil => simp [TimelyRun, operateAll]
  | cons call rest ih =>
    rw [List.cons_append, TimelyRun, TimelyRun, ih, and_assoc]
    rfl

theorem Admitted.operateAll (h : Admitted records) (hcalls : TimelyRun records calls) :
    Admitted (operateAll records calls) := by
  induction calls generalizing records with
  | nil => exact h
  | cons call rest ih =>
    obtain ⟨hcall, hrest⟩ := hcalls
    exact ih (h.operate hcall) hrest

/-- Records that are orderly at the start are accounted for throughout a timely run. -/
theorem breaks_accounted (hrecords : Admitted records) (hcalls : TimelyRun records calls) :
    Accounted records calls := by
  constructor
  case accountable =>
    rintro earlier later rfl record hrecord
    have hadmitted := hrecords.operateAll (timelyRun_append.mp hcalls).1
    obtain ⟨hcheck, horderly⟩ := hadmitted record hrecord
    exact .of_check hcheck horderly
  case closed =>
    rintro earlier call later rfl place record hrecord hresolved
    rw [operateAll_concat]
    exact getElem?_operate (timelyRun_append.mp hcalls).2.1 hrecord hresolved
  case refused =>
    rintro earlier call later rfl record error hrecord herror
    rw [operateAll_concat]
    exact operate_of_error hrecord herror

end Runs

/-! ## A break of one day -/

/-- The hour of a day in universal time. -/
def breakHour (hour : ℕ) (h : hour * 3600000000 < microsecondsPerDay := by decide) : Timestamp :=
  .utc (.of 2026 8 11) (hour * 3600000000) h

def operations (actorId : String) : ActorRef where
  actorId := actorId
  actorKind := .human
  role := "settlement operations"
  entitlementRefs := ["synthetic:cockpit"]
  authenticated := true

/-- The first owner, from ten o'clock. -/
def firstChange : OwnershipChange where
  changedAt := breakHour 10
  changedBy := operations "lead"
  previousOwner := none
  assignedOwner := operations "first"
  provenance := .humanJudgment

/-- A break that its first owner investigates. -/
def investigatedBreak : BreakRecord where
  breakId := "BRK-52"
  operationId := "operation-52"
  regime := "CCP"
  leg := "cash"
  symptom := "cash balance mismatch"
  sources := ["operator readback"]
  difference := "expected 10, actual 9"
  originatingEventAt := breakHour 9
  originatingEventRef := "readback:52"
  causeClass := "UNKNOWN"
  owner := some (operations "first")
  ownerAbsenceReason := none
  ownershipHistory := [firstChange]
  slaTarget := breakHour 13
  state := .investigating

/-- The same break, said to be without an owner. -/
def disownedBreak : BreakRecord :=
  { investigatedBreak with
    owner := none
    ownerAbsenceReason := some "awaiting assignment"
    state := .intakeUnassigned }

/-- A second owner is assigned. -/
def reassigned (changedAt : Timestamp) : ℕ × BreakCall :=
  (0, .assign (operations "second") (operations "lead") changedAt .humanJudgment)

def correctedEvidence : ResolutionEvidence where
  breakId := "BRK-52"
  recordedAt := breakHour 12
  recordedBy := operations "lead"
  provenance := .humanJudgment
  evidenceKind := .correctiveActionVerified
  evidenceRef := "synthetic:corrective-action:52"
  detail := "cause corrected and independently replayed"

theorem investigatedBreak_check : investigatedBreak.check = .ok () := by decide +kernel

theorem disownedBreak_check : disownedBreak.check = .ok () := by decide +kernel

/-- A second owner is accepted for an hour before the first one's, and for a break that is
resolved; and a break without an owner may have a history that ends with one. -/
theorem breaks_accounted_counterexample :
    ¬ Accounted [investigatedBreak] [reassigned (breakHour 9)] ∧
      ¬ Accounted [investigatedBreak]
        [(0, .resolve correctedEvidence), reassigned (breakHour 14)] ∧
      ¬ Accounted [disownedBreak] [] := by
  refine ⟨?_, ?_, ?_⟩
  · intro h
    have hchanged : operateAll [investigatedBreak] [reassigned (breakHour 9)] =
        [{ investigatedBreak with
            owner := some (operations "second")
            ownershipHistory := [firstChange, changeTo investigatedBreak (operations "second")
              (operations "lead") (breakHour 9) .humanJudgment] }] := by
      decide +kernel
    have hrecord := h.accountable _ [] (List.append_nil _).symm _
      (hchanged ▸ List.mem_singleton_self _)
    exact absurd (hrecord.inOrder [firstChange] _ [] rfl firstChange (List.mem_singleton_self _))
      (by decide +kernel)
  · intro h
    have hclosed := h.closed [(0, .resolve correctedEvidence)] (reassigned (breakHour 14)) [] rfl 0
      { investigatedBreak with
        state := .resolved
        resolutionEvidence := some correctedEvidence } (by decide +kernel) rfl
    exact absurd hclosed (by decide +kernel)
  · intro h
    have hrecord := h.accountable [] [] rfl disownedBreak (List.mem_singleton_self _)
    exact absurd hrecord.current (by decide +kernel)

theorem breaks_accounted_resolved : Accounted [investigatedBreak]
    [reassigned (breakHour 11), (0, .resolve correctedEvidence)] := by
  apply breaks_accounted
  · intro record hrecord
    rw [List.mem_singleton.mp hrecord]
    refine ⟨investigatedBreak_check, ?_, rfl⟩
    -- a history of one change is in order
    exact linked_concat.mpr ⟨linked_nil, fun earlier hearlier => absurd hearlier List.not_mem_nil⟩
  · refine ⟨?_, ?_, trivial⟩
    · rintro record ⟨⟩ -
      exact ⟨by decide, fun change hchange => by cases hchange; decide +kernel⟩
    · exact fun record hrecord => trivial

end Atreides
