import Atreides.CorporateActions.Events
import Atreides.Foundation.AppendLog
import Atreides.Foundation.Checks
import Atreides.Foundation.Replay

/-!
# The corporate action lifecycle

Event classes do not share one order of dates, so a lifecycle is a set of milestones reached,
with rules that hold for every class. Every request produces one journal entry, applied or
refused, with the reason for a refusal, and the journal rebuilds the lifecycle.

## Main definitions

* `Lifecycle`, `Lifecycle.request` — one event, where it stands, and a request made of it
* `rebuild` — the lifecycle a journal produces
* `Lifecycle.Sound` — what every run of requests keeps

## Main results

* `refusalOf_eq_none` — when a request is applied
* `Lifecycle.Sound.request`, `sound_of_run` — one request keeps the rules, and so does a run
* `rebuild_eq_ok_iff` — exactly the journals of runs rebuild, to the lifecycle of the run
-/

namespace Atreides

namespace CorporateActions

/-! ## Milestones -/

/-- What a request asks the lifecycle to record. -/
inductive Milestone
  | entitlementFixed
  | electionsClosed
  | paid
  | cancelled
  | reversed
  deriving DecidableEq, Repr

inductive LifecycleStatus
  | opened
  | paid
  | cancelled
  | reversed
  deriving DecidableEq, Repr

def LifecycleStatus.ended (status : LifecycleStatus) : Bool :=
  status ∈ [LifecycleStatus.cancelled, .reversed]

/-- Why a request was refused. -/
inductive RefusalReason
  | ended
  | alreadyReached
  | notElective
  | entitlementNotFixed
  | electionsOpen
  | notPaid
  | alreadyPaid
  | beforeAnnouncement
  | beforePreviousMilestone
  deriving DecidableEq, Repr

def RefusalReason.value : RefusalReason → String
  | ended => "ended"
  | alreadyReached => "already_reached"
  | notElective => "not_elective"
  | entitlementNotFixed => "entitlement_not_fixed"
  | electionsOpen => "elections_open"
  | notPaid => "not_paid"
  | alreadyPaid => "already_paid"
  | beforeAnnouncement => "before_announcement"
  | beforePreviousMilestone => "before_previous_milestone"

/-! ## States and entries -/

/-- Where one event's lifecycle stands: the milestones in the order they were applied, and
the effective date of the last one. -/
structure LifecycleState where
  status : LifecycleStatus := .opened
  reached : List Milestone := []
  lastEffectiveDate : Option Date := none
  deriving DecidableEq

/-- A request to record a milestone, and on whose word. -/
structure TransitionRequest where
  milestone : Milestone
  effectiveDate : Date
  provenance : Provenance
  source : SourceIdentity
  deriving DecidableEq

inductive TransitionOutcome
  | applied
  | refused
  deriving DecidableEq, Repr

def TransitionOutcome.value : TransitionOutcome → String
  | applied => "applied"
  | refused => "refused"

/-- One request and what the lifecycle did with it. -/
structure TransitionEntryFields where
  eventId : String
  sequence : ℕ
  request : TransitionRequest
  outcome : TransitionOutcome
  refusal : Option RefusalReason := none
  stateBefore : LifecycleState
  stateAfter : LifecycleState
  deriving DecidableEq

def TransitionEntryFields.consistent (entry : TransitionEntryFields) : Outcome Unit :=
  match entry.outcome with
  | .refused => do
    Outcome.refuseIf (entry.refusal = none) (.valueError "a refused request names its reason")
    Outcome.refuseIf (entry.stateAfter ≠ entry.stateBefore)
      (.valueError "a refused request leaves the state unchanged")
  | .applied =>
    Outcome.refuseIf (entry.refusal ≠ none)
      (.valueError "an applied request has no refusal reason")

/-- An entry whose outcome, reason and states agree. -/
@[ext]
structure TransitionEntry extends TransitionEntryFields where
  is_consistent : toTransitionEntryFields.consistent = .ok () := by decide

instance : DecidableEq TransitionEntry :=
  fun _ _ => decidable_of_iff _ TransitionEntry.ext_iff.symm

/-! ## One request -/

/-- Why a request is refused, or nothing where it is applied. -/
def refusalOf (event : CorporateActionEvent) (state : LifecycleState)
    (request : TransitionRequest) : Option RefusalReason :=
  if state.status.ended then some .ended
  else if request.effectiveDate < event.dates.announcementDate then some .beforeAnnouncement
  else if state.lastEffectiveDate.any (request.effectiveDate < ·) then
    some .beforePreviousMilestone
  else if request.milestone = .reversed then
    if state.status = .paid then none else some .notPaid
  else if request.milestone = .cancelled then
    if state.status = .paid then some .alreadyPaid else none
  else if request.milestone ∈ state.reached then some .alreadyReached
  else if request.milestone = .electionsClosed ∧ !event.participation.elective then
    some .notElective
  else if request.milestone = .paid then
    if .entitlementFixed ∉ state.reached then some .entitlementNotFixed
    else if event.participation.elective ∧ .electionsClosed ∉ state.reached then
      some .electionsOpen
    else none
  else none

/-- The status a milestone leads to, or the one before it. -/
def statusAfter (milestone : Milestone) (status : LifecycleStatus) : LifecycleStatus :=
  match milestone with
  | .paid => .paid
  | .cancelled => .cancelled
  | .reversed => .reversed
  | .entitlementFixed => status
  | .electionsClosed => status

/-- The state an applied request leads to. -/
def LifecycleState.after (state : LifecycleState) (request : TransitionRequest) :
    LifecycleState where
  status := statusAfter request.milestone state.status
  reached := state.reached ++ [request.milestone]
  lastEffectiveDate := some request.effectiveDate

/-- The entry of one request. -/
def step (event : CorporateActionEvent) (state : LifecycleState) (sequence : ℕ)
    (request : TransitionRequest) : TransitionEntry :=
  match refusalOf event state request with
  | some refusal =>
    { eventId := event.eventId, sequence, request, outcome := .refused, refusal := some refusal
      stateBefore := state, stateAfter := state
      is_consistent := by simp [TransitionEntryFields.consistent, Outcome.bind_eq_ok] }
  | none =>
    { eventId := event.eventId, sequence, request, outcome := .applied
      stateBefore := state, stateAfter := state.after request
      is_consistent := by simp [TransitionEntryFields.consistent] }

/-- One event, where it stands, and every request made of it. -/
structure Lifecycle where
  event : CorporateActionEvent
  state : LifecycleState := {}
  journal : List TransitionEntry := []
  deriving DecidableEq

/-- Apply or refuse a request: the new lifecycle and the journal entry. -/
def Lifecycle.request (lifecycle : Lifecycle) (request : TransitionRequest) :
    Lifecycle × TransitionEntry :=
  let entry := step lifecycle.event lifecycle.state lifecycle.journal.length request
  ({ event := lifecycle.event, state := entry.stateAfter,
     journal := lifecycle.journal ++ [entry] }, entry)

/-! ## Rebuilding -/

/-- A journal does not rebuild. -/
def journalMismatchError (message : String) : PyError := .refused "JournalMismatchError" message

/-- An entry belongs to the event and stands at its place. -/
def transitionPlaced (event : CorporateActionEvent) (expectedSequence : ℕ)
    (recorded : TransitionEntry) : Outcome Unit := do
  Outcome.refuseIf (recorded.eventId ≠ event.eventId) (journalMismatchError
    ("entry " ++ toString recorded.sequence ++ " belongs to event " ++
      quoted recorded.eventId ++ ", not " ++ quoted event.eventId))
  Outcome.refuseIf (recorded.sequence ≠ expectedSequence) (journalMismatchError
    ("entry " ++ toString recorded.sequence ++ " is at position " ++ toString expectedSequence ++
      ": the journal is reordered or has a gap"))

/-- An entry's outcome, with the reason for a refusal. -/
def outcomeText (entry : TransitionEntry) : String :=
  entry.outcome.value ++ " (" ++ (entry.refusal.map RefusalReason.value).getD "None" ++ ")"

/-- The recomputed entry is the recorded one. -/
def transitionRecorded (recomputed recorded : TransitionEntry) : Outcome Unit :=
  Outcome.refuseIf (recomputed ≠ recorded) (journalMismatchError
    ("entry " ++ toString recorded.sequence ++ " records " ++ outcomeText recorded ++
      ", and its request recomputes to " ++ outcomeText recomputed))

/-- Replay a journal against the event: the lifecycle it produces. -/
def rebuild (event : CorporateActionEvent) (journal : List TransitionEntry) : Outcome Lifecycle :=
  replay (transitionPlaced event) (fun lifecycle request => .ok (lifecycle.request request))
    (fun entry => entry.request) transitionRecorded 0 { event } journal

/-! ## What a request does -/

section Requests

variable (event : CorporateActionEvent) (state : LifecycleState) (sequence : ℕ)
  (request : TransitionRequest)

/-- The milestone may follow the ones reached. -/
def MayFollow : Milestone → Prop
  | .reversed => state.status = .paid
  | .cancelled => state.status ≠ .paid
  | .entitlementFixed => .entitlementFixed ∉ state.reached
  | .electionsClosed => .electionsClosed ∉ state.reached ∧ event.participation.elective = true
  | .paid => .paid ∉ state.reached ∧ .entitlementFixed ∈ state.reached ∧
      (event.participation.elective = true → .electionsClosed ∈ state.reached)

@[simp] theorem step_eventId : (step event state sequence request).eventId = event.eventId := by
  rw [step]
  split <;> rfl

@[simp] theorem step_sequence : (step event state sequence request).sequence = sequence := by
  rw [step]
  split <;> rfl

@[simp] theorem step_request : (step event state sequence request).request = request := by
  rw [step]
  split <;> rfl

/-- What a request can do: it is refused, and nothing moves, or it is applied. -/
theorem step_cases :
    ((step event state sequence request).outcome = .refused ∧
      (step event state sequence request).stateAfter = state) ∨
    (refusalOf event state request = none ∧
      (step event state sequence request).outcome = .applied ∧
      (step event state sequence request).stateAfter = state.after request) := by
  rw [step]
  cases hrefusal : refusalOf event state request with
  | some reason => exact Or.inl ⟨rfl, rfl⟩
  | none => exact Or.inr ⟨rfl, rfl, rfl⟩

variable {event state sequence request}

/-- A request is applied exactly when the lifecycle has not ended, the date is in order and
the milestone may follow. -/
theorem refusalOf_eq_none : refusalOf event state request = none ↔
    state.status.ended = false ∧ event.dates.announcementDate ≤ request.effectiveDate ∧
      (∀ d, state.lastEffectiveDate = some d → d ≤ request.effectiveDate) ∧
        MayFollow event state request.milestone := by
  have hdate : ∀ d : Date, ¬ request.effectiveDate < d ↔ d ≤ request.effectiveDate :=
    fun d => Nat.not_lt
  have hlast : ¬ state.lastEffectiveDate.any (request.effectiveDate < ·) = true ↔
      ∀ d, state.lastEffectiveDate = some d → d ≤ request.effectiveDate := by
    simp only [Bool.not_eq_true, Option.any_eq_false, decide_eq_false_iff_not, hdate]
  -- the guards on the state and the dates come first, the rule of the milestone after them
  simp only [refusalOf, Outcome.guard_eq_none, hdate, hlast, Bool.not_eq_true]
  cases request.milestone with
  | paid =>
    by_cases hfixed : Milestone.entitlementFixed ∈ state.reached <;>
      simp [MayFollow, Outcome.guard_eq_none, hfixed]
  | _ => simp [MayFollow, Outcome.guard_eq_none]

end Requests

/-! ## Runs -/

/-- The requests of a journal that were applied, in order. -/
def applied (journal : List TransitionEntry) : List TransitionRequest :=
  (journal.filter fun entry => entry.outcome = .applied).map fun entry => entry.request

/-- Payment comes after the entitlement is fixed and, where holders elect, elections close. -/
def PaidAfter (event : CorporateActionEvent) (before : List Milestone) (milestone : Milestone) :
    Prop :=
  milestone = .paid → .entitlementFixed ∈ before ∧
    (event.participation.elective = true → .electionsClosed ∈ before)

/-- What every run of requests keeps: the milestones reached are those of the applied requests,
each once and payment after what it needs, and the dates of the applied requests are in order
and not before the announcement. -/
structure Lifecycle.Sound (lifecycle : Lifecycle) : Prop where
  reached_eq : lifecycle.state.reached = (applied lifecycle.journal).map (·.milestone)
  once : lifecycle.state.reached.Nodup
  paid_after : Linked (PaidAfter lifecycle.event) lifecycle.state.reached
  ended_of_mem : .cancelled ∈ lifecycle.state.reached ∨ .reversed ∈ lifecycle.state.reached →
    lifecycle.state.status.ended = true
  in_order : ((applied lifecycle.journal).map (·.effectiveDate)).Pairwise (· ≤ ·)
  announced : ∀ request ∈ applied lifecycle.journal,
    lifecycle.event.dates.announcementDate ≤ request.effectiveDate
  last : ∀ request ∈ applied lifecycle.journal, ∃ d,
    lifecycle.state.lastEffectiveDate = some d ∧ request.effectiveDate ≤ d

/-- A lifecycle no request was made of. -/
theorem sound_new (event : CorporateActionEvent) : ({ event } : Lifecycle).Sound where
  reached_eq := rfl
  once := List.nodup_nil
  paid_after := linked_nil
  ended_of_mem := by simp
  in_order := List.Pairwise.nil
  announced := by simp [applied]
  last := by simp [applied]

theorem applied_concat (journal : List TransitionEntry) (entry : TransitionEntry) :
    applied (journal ++ [entry]) =
      applied journal ++ if entry.outcome = .applied then [entry.request] else [] := by
  by_cases h : entry.outcome = .applied <;> simp [applied, h]

/-- The milestone of an applied request was not reached before, for an ended lifecycle applies
nothing. -/
theorem notMem_of_mayFollow {event : CorporateActionEvent} {state : LifecycleState}
    {milestone : Milestone} (hopen : state.status.ended = false)
    (hended : .cancelled ∈ state.reached ∨ .reversed ∈ state.reached →
      state.status.ended = true)
    (hfollow : MayFollow event state milestone) : milestone ∉ state.reached := by
  have hnot : .cancelled ∉ state.reached ∧ .reversed ∉ state.reached := by
    rw [← not_or]
    intro hmem
    rw [hended hmem] at hopen
    cases hopen
  cases milestone with
  | cancelled => exact hnot.1
  | reversed => exact hnot.2
  | entitlementFixed => exact hfollow
  | electionsClosed => exact hfollow.1
  | paid => exact hfollow.1

theorem paidAfter_of_mayFollow {event : CorporateActionEvent} {state : LifecycleState}
    {milestone : Milestone} (hfollow : MayFollow event state milestone) :
    PaidAfter event state.reached milestone := by
  rintro rfl
  exact hfollow.2

/-- Where the milestones that end a lifecycle were reached, the status says so. -/
theorem ended_after {state : LifecycleState} {request : TransitionRequest}
    (hopen : state.status.ended = false)
    (hended : .cancelled ∈ state.reached ∨ .reversed ∈ state.reached →
      state.status.ended = true) :
    .cancelled ∈ (state.after request).reached ∨ .reversed ∈ (state.after request).reached →
      (state.after request).status.ended = true := by
  intro hmem
  simp only [LifecycleState.after, List.mem_append, List.mem_singleton] at hmem ⊢
  cases hmilestone : request.milestone with
  | cancelled => rfl
  | reversed => rfl
  | _ =>
    simp only [hmilestone, reduceCtorEq, or_false] at hmem
    rw [hended hmem] at hopen
    cases hopen

/-- A refused request leaves the lifecycle where it stood. -/
theorem Lifecycle.request_of_refused {lifecycle : Lifecycle} {request : TransitionRequest}
    (h : (lifecycle.request request).2.outcome = .refused) :
    (lifecycle.request request).1.state = lifecycle.state := by
  rcases step_cases lifecycle.event lifecycle.state lifecycle.journal.length request with
    ⟨-, hstate⟩ | ⟨-, happlied, -⟩
  · exact hstate
  · rw [Lifecycle.request, happlied] at h
    cases h

/-- One request keeps the rules. -/
theorem Lifecycle.Sound.request {lifecycle : Lifecycle} (h : lifecycle.Sound)
    (request : TransitionRequest) : (lifecycle.request request).1.Sound := by
  rcases step_cases lifecycle.event lifecycle.state lifecycle.journal.length request with
    ⟨hrefused, hstate⟩ | ⟨hnone, happlied, hstate⟩
  · -- a refused request adds an entry that is not applied, and the state is the same
    have hsame : applied (lifecycle.request request).1.journal = applied lifecycle.journal := by
      simp [Lifecycle.request, applied_concat, hrefused]
    have hkept : (lifecycle.request request).1.state = lifecycle.state := hstate
    constructor
    · rw [hsame, hkept, h.reached_eq]
    · rw [hkept]
      exact h.once
    · rw [hkept]
      exact h.paid_after
    · rw [hkept]
      exact h.ended_of_mem
    · rw [hsame]
      exact h.in_order
    · rw [hsame]
      exact h.announced
    · rw [hsame, hkept]
      exact h.last
  · obtain ⟨hopen, hannounced, hlast, hfollow⟩ := refusalOf_eq_none.mp hnone
    have hmore : applied (lifecycle.request request).1.journal =
        applied lifecycle.journal ++ [request] := by
      simp [Lifecycle.request, applied_concat, happlied]
    have hafter : (lifecycle.request request).1.state = lifecycle.state.after request := hstate
    have hdates : ∀ earlier ∈ applied lifecycle.journal,
        earlier.effectiveDate ≤ request.effectiveDate := by
      intro earlier hearlier
      obtain ⟨d, hd, hle⟩ := h.last earlier hearlier
      exact Nat.le_trans hle (hlast d hd)
    constructor
    · rw [hmore, hafter, List.map_append, ← h.reached_eq]
      rfl
    · rw [hafter]
      apply List.Nodup.append h.once (List.nodup_singleton _)
      rw [List.disjoint_singleton]
      exact notMem_of_mayFollow hopen h.ended_of_mem hfollow
    · rw [hafter]
      exact linked_concat.mpr ⟨h.paid_after, paidAfter_of_mayFollow hfollow⟩
    · rw [hafter]
      exact ended_after hopen h.ended_of_mem
    · rw [hmore, List.map_append, List.pairwise_append]
      refine ⟨h.in_order, List.pairwise_singleton _ _, ?_⟩
      simpa using hdates
    · rw [hmore]
      intro earlier hearlier
      rcases List.mem_append.mp hearlier with hbefore | hnew
      · exact h.announced earlier hbefore
      · rw [List.mem_singleton.mp hnew]
        exact hannounced
    · rw [hmore, hafter]
      intro earlier hearlier
      refine ⟨request.effectiveDate, rfl, ?_⟩
      rcases List.mem_append.mp hearlier with hbefore | hnew
      · exact hdates earlier hbefore
      · rw [List.mem_singleton.mp hnew]
        exact Nat.le_refl _

/-- A run of requests on an event. -/
def lifecycleAfter (event : CorporateActionEvent) (requests : List TransitionRequest) :
    Lifecycle :=
  requests.foldl (fun lifecycle request => (lifecycle.request request).1) { event }

theorem lifecycleAfter_concat (event : CorporateActionEvent) (requests : List TransitionRequest)
    (request : TransitionRequest) : lifecycleAfter event (requests ++ [request]) =
      ((lifecycleAfter event requests).request request).1 := by
  simp [lifecycleAfter]

/-- A run keeps the rules: no request is needed for them, and each one keeps them. -/
theorem sound_of_run (event : CorporateActionEvent) (requests : List TransitionRequest) :
    (lifecycleAfter event requests).Sound := by
  induction requests using List.reverseRecOn with
  | nil => exact sound_new event
  | append_singleton requests request ih =>
    rw [lifecycleAfter_concat]
    exact ih.request request

/-- Every request has its entry. -/
theorem length_journal (event : CorporateActionEvent) (requests : List TransitionRequest) :
    (lifecycleAfter event requests).journal.length = requests.length := by
  induction requests using List.reverseRecOn with
  | nil => rfl
  | append_singleton requests request ih =>
    rw [lifecycleAfter_concat, List.length_append, ← ih]
    simp [Lifecycle.request]

/-- Nothing is applied to a lifecycle that has ended. -/
theorem Lifecycle.refused_of_ended {lifecycle : Lifecycle}
    (h : lifecycle.state.status.ended = true) (request : TransitionRequest) :
    (lifecycle.request request).2.outcome = .refused := by
  rcases step_cases lifecycle.event lifecycle.state lifecycle.journal.length request with
    ⟨hrefused, -⟩ | ⟨hnone, -, -⟩
  · exact hrefused
  · rw [(refusalOf_eq_none.mp hnone).1] at h
    cases h

/-! ## The journal rebuilds the lifecycle -/

theorem transitionPlaced_eq_ok {event : CorporateActionEvent} {n : ℕ} {entry : TransitionEntry} :
    transitionPlaced event n entry = .ok () ↔
      entry.eventId = event.eventId ∧ entry.sequence = n := by
  simp only [transitionPlaced, Outcome.bind_eq_ok, Outcome.refuseIf_eq_ok, not_not]
  constructor
  · rintro ⟨_, hevent, hsequence⟩
    exact ⟨hevent, hsequence⟩
  · rintro ⟨hevent, hsequence⟩
    exact ⟨(), hevent, hsequence⟩

/-- The entries of a lifecycle carry their requests and stand at their places. -/
theorem journaling (event : CorporateActionEvent) :
    Journaling (fun lifecycle => lifecycle.event = event) Lifecycle.journal
      (transitionPlaced event) (fun lifecycle request => .ok (lifecycle.request request))
      (fun entry => entry.request) transitionRecorded where
  keeps lifecycle request _ _ h hstep := by
    cases hstep
    exact h
  logs lifecycle request _ _ hstep := by
    cases hstep
    rfl
  carries lifecycle request _ _ hstep := by
    cases hstep
    exact step_request lifecycle.event lifecycle.state lifecycle.journal.length request
  placed lifecycle request _ _ h hstep := by
    cases hstep
    apply transitionPlaced_eq_ok.mpr
    simp [h]
  recognised lifecycle recorded _ _ hstep := by simp [transitionRecorded]

/-- Exactly the journals of runs rebuild, to the lifecycle of the run. -/
theorem rebuild_eq_ok_iff {event : CorporateActionEvent} {journal : List TransitionEntry}
    {lifecycle : Lifecycle} : rebuild event journal = .ok lifecycle ↔
      ∃ requests, lifecycleAfter event requests = lifecycle ∧ lifecycle.journal = journal :=
  (journaling event).replay_eq_ok_iff rfl rfl

/-- The entries of a journal that rebuilds state their positions, in order. -/
theorem sequences_of_rebuild {event : CorporateActionEvent} {journal : List TransitionEntry}
    {lifecycle : Lifecycle} (h : rebuild event journal = .ok lifecycle) :
    journal.map (fun entry => entry.sequence) = List.range' 0 journal.length := by
  apply positions_of_replay ?_ h
  intro n entry hplaced
  exact (transitionPlaced_eq_ok.mp hplaced).2

/-- A journal that does not rebuild is a mismatch. -/
theorem rebuild_raises {event : CorporateActionEvent} {journal : List TransitionEntry}
    {e : PyError} (h : rebuild event journal = .error e) :
    ∃ text, e = journalMismatchError text := by
  apply replay_raises ?_ (fun _ _ _ hstep => nomatch hstep) ?_ h
  · intro n entry error hplaced
    rw [transitionPlaced, Outcome.bind_eq_error] at hplaced
    rcases hplaced with hevent | ⟨-, -, hsequence⟩
    · exact ⟨_, (Outcome.refuseIf_eq_error.mp hevent).2.symm⟩
    · exact ⟨_, (Outcome.refuseIf_eq_error.mp hsequence).2.symm⟩
  · intro recomputed recorded error hrecorded
    exact ⟨_, (Outcome.refuseIf_eq_error.mp hrecorded).2.symm⟩

end CorporateActions

end Atreides
