import Atreides.Foundation.Dict
import Atreides.Foundation.Replay
import Atreides.Foundation.Uuid

/-!
# The escalation register

Escalations and their acknowledgements are two kinds of records, and the state of an escalation
is derived from them. Instants are offsets in seconds that the caller supplies. The register
asks a query instant only whether deadlines have passed and, for the unacknowledged set,
whether an escalation was raised by then. It never asks it of an acknowledgement, nor of the
raising when it derives one escalation's state.

## Main definitions

* `Escalation`, `Acknowledgement`, `EscalationRegister` — the records and what holds them
* `EscalationRegister.state`, `unacknowledged`, `overdue` — what is derived at an instant
* `EscalationRegister.knownAt` — the register of the records dated by an instant
* `KeepsHistory` — a run reports at an instant what was known then

## Main results

* `state_knownAt_iff`, `unacknowledged_knownAt_iff` — when a query of the past is answered
  from the past
* `keepsHistory_iff` — a run reports what was known exactly when nothing of it is dated later
-/

namespace Atreides

namespace EscalationDelivery

/-! ## Records -/

/-- Where an escalation has got to. -/
inductive EscalationState
  | raised
  | acknowledged
  | acknowledgedLate
  | overdue
  deriving DecidableEq, Repr

/-- One escalation as it is raised, before it is checked. -/
structure EscalationFields where
  escalationId : String
  operationId : Uuid
  raisedAtOffsetSeconds : ℤ
  reason : String
  routedTo : String
  acknowledgeByOffsetSeconds : Option ℤ := none
  doctrineVersion : String := "AUR-CUSTODY-ESCALATION-001-draft-v0.1"
  deriving DecidableEq

def EscalationFields.check (e : EscalationFields) : Outcome Unit := do
  Outcome.refuseIf (e.escalationId = "") (.valueError "escalation_id is required")
  Outcome.refuseIf (e.reason = "")
    (.valueError <| "an escalation with no reason is not an escalation; the " ++
      "person receiving it needs to know what they are receiving")
  Outcome.refuseIf (e.routedTo = "")
    (.valueError <| "an escalation with no destination is the condition this " ++
      "register exists to make impossible")
  Outcome.refuseIf (∃ deadline ∈ e.acknowledgeByOffsetSeconds, deadline < e.raisedAtOffsetSeconds)
    (.valueError <| "acknowledge_by_offset_seconds precedes the raising; a " ++
      "deadline in the past is overdue at birth and says nothing " ++
      "about anybody's response")

/-- An escalation that passed its checks. -/
@[ext]
structure Escalation extends EscalationFields where
  checked : toEscalationFields.check = .ok ()

instance : DecidableEq Escalation :=
  fun _ _ => decidable_of_iff _ Escalation.ext_iff.symm

/-- A named person taking an escalation. -/
@[ext]
structure Acknowledgement where
  escalationId : String
  acknowledgedBy : String
  acknowledgedAtOffsetSeconds : ℤ
  named : acknowledgedBy ≠ "" := by decide

instance : DecidableEq Acknowledgement :=
  fun _ _ => decidable_of_iff _ Acknowledgement.ext_iff.symm

/-- Take an escalation under a name. -/
def Acknowledgement.create (escalationId acknowledgedBy : String) (atOffsetSeconds : ℤ) :
    Outcome Acknowledgement :=
  if h : acknowledgedBy = "" then
    .error (.valueError <| "an acknowledgement must name who acknowledged it; an " ++
      "anonymous acknowledgement is indistinguishable from an " ++
      "automated one clearing a queue")
  else .ok ⟨escalationId, acknowledgedBy, atOffsetSeconds, h⟩

/-- Where an escalation has got to, from its acknowledgement where it has one. The instant only
decides whether an unanswered deadline has passed. -/
def Escalation.derivedState (e : Escalation) (ack : Option Acknowledgement) (asOf : ℤ) :
    EscalationState :=
  match ack with
  | some ack =>
    if ∃ deadline ∈ e.acknowledgeByOffsetSeconds, deadline < ack.acknowledgedAtOffsetSeconds then
      .acknowledgedLate
    else .acknowledged
  | none =>
    if ∃ deadline ∈ e.acknowledgeByOffsetSeconds, deadline < asOf then .overdue else .raised

theorem Escalation.derivedState_some_ne_none (e : Escalation) (ack : Acknowledgement) (asOf : ℤ) :
    e.derivedState (some ack) asOf ≠ e.derivedState none asOf := by
  simp only [derivedState]
  split_ifs <;> simp

/-! ## The register -/

/-- The escalations and acknowledgements by identifier, and the order of raising. -/
structure EscalationRegister where
  raised : Dict String Escalation
  acknowledged : Dict String Acknowledgement
  order : List String
  ordered : order = raised.keys
  keyed : ∀ id e, raised.get? id = some e → e.escalationId = id

namespace EscalationRegister

/-- The register before anything is raised. -/
def empty : EscalationRegister := ⟨.empty, .empty, [], rfl, by simp⟩

variable (register : EscalationRegister)

theorem ordered_set {e : Escalation} (h : e.escalationId ∉ register.raised.keys) :
    register.order ++ [e.escalationId] = (register.raised.set e.escalationId e).keys := by
  rw [Dict.keys_set, if_neg h, register.ordered]

theorem keyed_set (e : Escalation) (id : String) (e' : Escalation)
    (h : (register.raised.set e.escalationId e).get? id = some e') : e'.escalationId = id := by
  rw [Dict.get?_set] at h
  split_ifs at h with hid
  · cases h
    exact hid
  · exact register.keyed id e' h

/-- Record an escalation. -/
def raiseEscalation (e : Escalation) : Outcome (EscalationRegister × Escalation) :=
  if h : e.escalationId ∈ register.raised.keys then
    .error (.refused "EscalationAlreadyAcknowledgedError" <|
      "escalation " ++ e.escalationId ++ " has already been raised; re-raising would overwrite " ++
      "the original and its deadline")
  else
    .ok ({ register with
      raised := register.raised.set e.escalationId e
      order := register.order ++ [e.escalationId]
      ordered := register.ordered_set h
      keyed := register.keyed_set e }, e)

/-- Record that a named person has taken an escalation. Neither instant is compared with the
raising. -/
def acknowledge (escalationId acknowledgedBy : String) (atOffsetSeconds : ℤ) :
    Outcome (EscalationRegister × Acknowledgement) := do
  Outcome.refuseIf (escalationId ∉ register.raised.keys)
    (.refused "EscalationNotFoundError" <|
      "no escalation " ++ escalationId ++ " in this register; an acknowledgement for something " ++
      "never raised is either a stale identifier or the wrong register")
  match register.acknowledged.get? escalationId with
  | some existing =>
    .error (.refused "EscalationAlreadyAcknowledgedError" <|
      "escalation " ++ escalationId ++ " was already acknowledged by " ++
      existing.acknowledgedBy ++ "; a second acknowledgement means two people each believe " ++
      "they have it, and overwriting the first would destroy the evidence of that")
  | none => do
    let ack ← Acknowledgement.create escalationId acknowledgedBy atOffsetSeconds
    .ok ({ register with acknowledged := register.acknowledged.set escalationId ack }, ack)

/-! ## Reading -/

/-- Derive the state of one escalation at an instant. -/
def state (escalationId : String) (asOf : ℤ) : Outcome EscalationState :=
  match register.raised.get? escalationId with
  | none => .error (.refused "EscalationNotFoundError" ("no escalation " ++ escalationId))
  | some e => .ok (e.derivedState (register.acknowledged.get? escalationId) asOf)

/-- The escalations of the order that are not acknowledged and were raised by the instant. The
lookup finds every identifier of the order. -/
def unacknowledged (asOf : ℤ) : List Escalation :=
  register.order.filterMap fun id =>
    if (register.acknowledged.get? id).isSome then none
    else (register.raised.get? id).filter fun e => e.raisedAtOffsetSeconds ≤ asOf

/-- The unacknowledged ones past their deadline. -/
def overdue (asOf : ℤ) : List Escalation :=
  (register.unacknowledged asOf).filter fun e =>
    ∃ deadline ∈ e.acknowledgeByOffsetSeconds, deadline < asOf

/-- The acknowledgement of an escalation, where somebody took it. -/
def acknowledgementFor (escalationId : String) : Outcome (Option Acknowledgement) :=
  if escalationId ∉ register.raised.keys then
    .error (.refused "EscalationNotFoundError" ("no escalation " ++ escalationId))
  else .ok (register.acknowledged.get? escalationId)

/-- Every escalation, in the order raised. -/
def escalations : List Escalation := register.order.filterMap register.raised.get?

end EscalationRegister

/-! ## Runs -/

/-- What a caller asks of the register. -/
inductive RegisterRequest
  | raiseEscalation (escalation : Escalation)
  | acknowledge (escalationId acknowledgedBy : String) (atOffsetSeconds : ℤ)
  | state (escalationId : String) (asOf : ℤ)

/-- What the register returns: the record it took, or the state it derived. -/
inductive RegisterAnswer
  | raised (escalation : Escalation)
  | acknowledged (acknowledgement : Acknowledgement)
  | state (state : EscalationState)
  deriving DecidableEq

/-- Ask the register once. -/
def serve (register : EscalationRegister) :
    RegisterRequest → Outcome (EscalationRegister × RegisterAnswer)
  | .raiseEscalation e => do
    let (register', raised) ← register.raiseEscalation e
    .ok (register', .raised raised)
  | .acknowledge id acknowledgedBy atOffsetSeconds => do
    let (register', ack) ← register.acknowledge id acknowledgedBy atOffsetSeconds
    .ok (register', .acknowledged ack)
  | .state id asOf => do
    let derived ← register.state id asOf
    .ok (register, .state derived)

/-- The register after a run of requests. A request that raises changes nothing. -/
def registerAfter (requests : List RegisterRequest) : EscalationRegister :=
  stepAll serve .empty requests

/-- What the requests of a run are answered with. -/
def answersOf (requests : List RegisterRequest) : List RegisterAnswer :=
  answers serve .empty requests

/-! ## What a request does -/

section Steps

variable {register register' : EscalationRegister}

theorem raised_of_raiseEscalation {e e' : Escalation}
    (h : register.raiseEscalation e = .ok (register', e')) :
    e' = e ∧ e.escalationId ∉ register.raised.keys ∧
      register'.raised = register.raised.set e.escalationId e ∧
      register'.acknowledged = register.acknowledged ∧
      register'.order = register.order ++ [e.escalationId] := by
  rw [EscalationRegister.raiseEscalation] at h
  split_ifs at h with hid
  cases h
  exact ⟨rfl, hid, rfl, rfl, rfl⟩

theorem raiseEscalation_of_new {e : Escalation} (h : e.escalationId ∉ register.order) :
    ∃ register', register.raiseEscalation e = .ok (register', e) := by
  rw [register.ordered] at h
  rw [EscalationRegister.raiseEscalation, dif_neg h]
  exact ⟨_, rfl⟩

theorem acknowledged_of_acknowledge {id acknowledgedBy : String} {atOffsetSeconds : ℤ}
    {ack : Acknowledgement}
    (h : register.acknowledge id acknowledgedBy atOffsetSeconds = .ok (register', ack)) :
    ack.escalationId = id ∧ id ∈ register.raised.keys ∧
      register.acknowledged.get? id = none ∧
      register' = { register with acknowledged := register.acknowledged.set id ack } := by
  rw [EscalationRegister.acknowledge, Outcome.bind_eq_ok] at h
  obtain ⟨_, hraised, h⟩ := h
  rw [Outcome.refuseIf_eq_ok, not_not] at hraised
  split at h
  next existing hexisting => cases h
  next hnone =>
    obtain ⟨created, hcreated, h⟩ := Outcome.bind_eq_ok.mp h
    rw [Acknowledgement.create] at hcreated
    split_ifs at hcreated
    cases hcreated
    cases h
    exact ⟨rfl, hraised, hnone, rfl⟩

/-- What an answered request did: a raising was recorded under a new identifier, or an
acknowledgement under a raised identifier that had none, or nothing changed. -/
theorem serve_cases {request : RegisterRequest} {answer : RegisterAnswer}
    (h : serve register request = .ok (register', answer)) :
    (∃ e, answer = .raised e ∧ e.escalationId ∉ register.raised.keys ∧
      register'.raised = register.raised.set e.escalationId e ∧
      register'.acknowledged = register.acknowledged ∧
      register'.order = register.order ++ [e.escalationId]) ∨
    (∃ ack, answer = .acknowledged ack ∧ ack.escalationId ∈ register.raised.keys ∧
      register.acknowledged.get? ack.escalationId = none ∧
      register' =
        { register with acknowledged := register.acknowledged.set ack.escalationId ack }) ∨
    (∃ derived, answer = .state derived ∧ register' = register) := by
  cases request with
  | raiseEscalation e =>
    obtain ⟨⟨r, e'⟩, hraise, h⟩ := Outcome.bind_eq_ok.mp h
    cases h
    obtain ⟨rfl, hnew, hrest⟩ := raised_of_raiseEscalation hraise
    exact Or.inl ⟨e', rfl, hnew, hrest⟩
  | acknowledge id acknowledgedBy atOffsetSeconds =>
    obtain ⟨⟨r, ack⟩, hack, h⟩ := Outcome.bind_eq_ok.mp h
    cases h
    obtain ⟨rfl, hrest⟩ := acknowledged_of_acknowledge hack
    exact Or.inr (Or.inl ⟨ack, rfl, hrest⟩)
  | state id asOf =>
    obtain ⟨derived, -, h⟩ := Outcome.bind_eq_ok.mp h
    cases h
    exact Or.inr (Or.inr ⟨derived, rfl, rfl⟩)

end Steps

/-! ## What every run keeps -/

/-- The identifier an answer raised. -/
def RegisterAnswer.raisedIds : RegisterAnswer → List String
  | .raised e => [e.escalationId]
  | _ => []

/-- The identifier an answer acknowledged. -/
def RegisterAnswer.acknowledgedIds : RegisterAnswer → List String
  | .acknowledged ack => [ack.escalationId]
  | _ => []

theorem order_registerAfter (requests : List RegisterRequest) :
    (registerAfter requests).order = (answersOf requests).flatMap RegisterAnswer.raisedIds := by
  have hstep : ∀ r request r' answer, serve r request = .ok (r', answer) →
      r'.order = r.order ++ answer.raisedIds := by
    intro r request r' answer h
    obtain ⟨e, rfl, -, -, -, horder⟩ | ⟨ack, rfl, -, -, rfl⟩ | ⟨_, rfl, rfl⟩ := serve_cases h
    · exact horder
    · simp [RegisterAnswer.raisedIds]
    · simp [RegisterAnswer.raisedIds]
  exact trace_stepAll hstep requests

theorem acknowledged_registerAfter (requests : List RegisterRequest) :
    (registerAfter requests).acknowledged.keys =
      (answersOf requests).flatMap RegisterAnswer.acknowledgedIds := by
  have hstep : ∀ r request r' answer, serve r request = .ok (r', answer) →
      r'.acknowledged.keys = r.acknowledged.keys ++ answer.acknowledgedIds := by
    intro r request r' answer h
    obtain ⟨e, rfl, -, -, hack, -⟩ | ⟨ack, rfl, -, hnone, rfl⟩ | ⟨_, rfl, rfl⟩ := serve_cases h
    · simp [RegisterAnswer.acknowledgedIds, hack]
    · -- a first acknowledgement is a new key
      rw [Dict.get?_eq_none_iff] at hnone
      simp only [Dict.keys_set, if_neg hnone, RegisterAnswer.acknowledgedIds]
    · simp [RegisterAnswer.acknowledgedIds]
  exact trace_stepAll hstep requests

/-- Only what was raised is acknowledged. -/
def EscalationRegister.AcknowledgesRaised (register : EscalationRegister) : Prop :=
  ∀ id ∈ register.acknowledged.keys, id ∈ register.order

theorem acknowledgesRaised_serve {register register' : EscalationRegister}
    {request : RegisterRequest} {answer : RegisterAnswer} (hr : register.AcknowledgesRaised)
    (h : serve register request = .ok (register', answer)) : register'.AcknowledgesRaised := by
  intro id hid
  obtain ⟨e, -, -, -, hack, horder⟩ | ⟨ack, -, hraised, -, rfl⟩ | ⟨-, -, rfl⟩ := serve_cases h
  · rw [hack] at hid
    rw [horder]
    exact List.mem_append_left _ (hr id hid)
  · rcases Dict.mem_keys_set.mp hid with rfl | hid
    · rw [register.ordered]
      exact hraised
    · exact hr id hid
  · exact hr id hid

theorem acknowledgesRaised_registerAfter (requests : List RegisterRequest) :
    (registerAfter requests).AcknowledgesRaised := by
  apply stepAll_preserves
  · intro register request register' answer hr h
    exact acknowledgesRaised_serve hr h
  · intro id hid
    cases hid

/-! ## What was known at an instant -/

namespace EscalationRegister

variable (register : EscalationRegister)

/-- The register of the records dated by the instant. -/
def knownAt (instant : ℤ) : EscalationRegister where
  raised := register.raised.filter fun e => e.raisedAtOffsetSeconds ≤ instant
  acknowledged := register.acknowledged.filter fun ack => ack.acknowledgedAtOffsetSeconds ≤ instant
  order := (register.raised.filter fun e => e.raisedAtOffsetSeconds ≤ instant).keys
  ordered := rfl
  keyed := by
    intro id e h
    rw [Dict.get?_filter, Option.filter_eq_some_iff] at h
    exact register.keyed id e h.1

/-- Every acknowledgement of an escalation raised by the instant is dated by it too. -/
def AcknowledgedBy (instant : ℤ) : Prop :=
  ∀ e ∈ register.escalations, e.raisedAtOffsetSeconds ≤ instant →
    ∀ ack ∈ register.acknowledged.get? e.escalationId, ack.acknowledgedAtOffsetSeconds ≤ instant

variable {register} {e : Escalation} {t : ℤ}

theorem escalations_eq : register.escalations = register.raised.values := by
  rw [escalations, register.ordered, Dict.filterMap_keys]

theorem mem_escalations :
    e ∈ register.escalations ↔ register.raised.get? e.escalationId = some e := by
  rw [escalations_eq, Dict.mem_values]
  constructor
  · rintro ⟨id, hid⟩
    rw [register.keyed id e hid]
    exact hid
  · exact fun h => ⟨_, h⟩

/-- The unacknowledged set as a filter of what was raised. -/
theorem unacknowledged_eq (register : EscalationRegister) (t : ℤ) :
    register.unacknowledged t = register.escalations.filter fun e =>
      e.raisedAtOffsetSeconds ≤ t ∧ register.acknowledged.get? e.escalationId = none := by
  rw [unacknowledged, escalations, List.filter_filterMap]
  apply List.filterMap_congr
  intro id _
  rcases h : register.raised.get? id with _ | e
  · simp
  · have hid : e.escalationId = id := register.keyed id e h
    rcases hack : register.acknowledged.get? id with _ | ack
    · simp [Option.filter, hid, hack]
    · simp [Option.filter, hid, hack]

theorem mem_unacknowledged : e ∈ register.unacknowledged t ↔
    e ∈ register.escalations ∧ e.raisedAtOffsetSeconds ≤ t ∧
      register.acknowledged.get? e.escalationId = none := by
  rw [unacknowledged_eq, List.mem_filter, decide_eq_true_iff]

theorem unacknowledged_of_overdue (h : e ∈ register.overdue t) :
    e ∈ register.unacknowledged t :=
  List.mem_of_mem_filter h

theorem escalations_knownAt : (register.knownAt t).escalations =
    register.escalations.filter fun e => e.raisedAtOffsetSeconds ≤ t := by
  rw [escalations_eq, escalations_eq, knownAt, Dict.values_filter]

theorem acknowledged_knownAt (id : String) : (register.knownAt t).acknowledged.get? id =
    (register.acknowledged.get? id).filter fun ack => ack.acknowledgedAtOffsetSeconds ≤ t :=
  Dict.get?_filter _ _ id

theorem mem_unacknowledged_knownAt : e ∈ (register.knownAt t).unacknowledged t ↔
    e ∈ register.escalations ∧ e.raisedAtOffsetSeconds ≤ t ∧
      ∀ ack ∈ register.acknowledged.get? e.escalationId, t < ack.acknowledgedAtOffsetSeconds := by
  rw [mem_unacknowledged, escalations_knownAt, acknowledged_knownAt, List.mem_filter,
    decide_eq_true_iff, Option.filter_eq_none_iff]
  simp only [Option.mem_def, decide_eq_true_eq, not_le]
  tauto

/-! ## When a query of the past is answered from the past -/

/-- The unacknowledged set at an instant is the one known then exactly when no escalation raised
by the instant was acknowledged after it. -/
theorem unacknowledged_knownAt_iff :
    register.unacknowledged t = (register.knownAt t).unacknowledged t ↔
      register.AcknowledgedBy t := by
  constructor
  · intro h e he hraised ack hack
    by_contra hlate
    rw [not_le] at hlate
    have hknown : e ∈ (register.knownAt t).unacknowledged t := by
      rw [mem_unacknowledged_knownAt]
      refine ⟨he, hraised, fun ack' hack' => ?_⟩
      rw [Option.mem_unique hack' hack]
      exact hlate
    rw [← h, mem_unacknowledged] at hknown
    rw [hknown.2.2] at hack
    cases hack
  · intro h
    rw [unacknowledged_eq, unacknowledged_eq, escalations_knownAt, List.filter_filter]
    apply List.filter_congr
    intro e he
    rw [acknowledged_knownAt]
    by_cases hraised : e.raisedAtOffsetSeconds ≤ t
    · rcases hack : register.acknowledged.get? e.escalationId with _ | ack
      · simp [hraised]
      · simp [h e he hraised ack hack, Option.filter]
    · simp [hraised]

/-- An escalation leaves the unacknowledged set through acknowledgements of that time only,
exactly under the same condition. -/
theorem left_acknowledged_iff :
    (∀ e ∈ register.escalations, e.raisedAtOffsetSeconds ≤ t → e ∉ register.unacknowledged t →
      ∃ ack ∈ register.acknowledged.get? e.escalationId, ack.acknowledgedAtOffsetSeconds ≤ t) ↔
      register.AcknowledgedBy t := by
  constructor
  · intro h e he hraised ack hack
    have hleft : e ∉ register.unacknowledged t := by
      rw [mem_unacknowledged, hack]
      simp
    obtain ⟨ack', hack', hdated⟩ := h e he hraised hleft
    rw [Option.mem_unique hack hack']
    exact hdated
  · intro h e he hraised hleft
    rcases hack : register.acknowledged.get? e.escalationId with _ | ack
    · exact absurd (mem_unacknowledged.mpr ⟨he, hraised, hack⟩) hleft
    · exact ⟨ack, rfl, h e he hraised ack hack⟩

/-- What is known of an identifier that was never raised. -/
theorem state_knownAt_of_not_raised {id : String} (h : register.raised.get? id = none) :
    register.state id t = (register.knownAt t).state id t := by
  have hknown : (register.knownAt t).raised.get? id = none := by
    rw [knownAt, Dict.get?_filter, h]
    rfl
  rw [state, state, h, hknown]

/-- The state of one escalation at an instant is the one known then exactly when neither its
raising nor its acknowledgement is dated after the instant. -/
theorem state_knownAt_iff (he : e ∈ register.escalations) :
    register.state e.escalationId t = (register.knownAt t).state e.escalationId t ↔
      e.raisedAtOffsetSeconds ≤ t ∧
        ∀ ack ∈ register.acknowledged.get? e.escalationId,
          ack.acknowledgedAtOffsetSeconds ≤ t := by
  rw [mem_escalations] at he
  have hknown : (register.knownAt t).raised.get? e.escalationId =
      if e.raisedAtOffsetSeconds ≤ t then some e else none := by
    rw [knownAt, Dict.get?_filter, he]
    simp [Option.filter]
  rw [state, state, he, hknown, acknowledged_knownAt]
  by_cases hraised : e.raisedAtOffsetSeconds ≤ t
  · rcases hack : register.acknowledged.get? e.escalationId with _ | ack
    · simp [hraised]
    · by_cases hdated : ack.acknowledgedAtOffsetSeconds ≤ t
      · simp [hraised, hdated, Option.filter]
      · -- acknowledged now, and raised or overdue as it was known
        simp [hraised, hdated, Option.filter, e.derivedState_some_ne_none ack t]
  · -- its state now, and not found as it was known
    simp [hraised]

/-! ## Runs that report the past -/

variable (register) in
/-- Nothing recorded is dated after the instant, and no acknowledgement before its raising. -/
structure Timely (t : ℤ) : Prop where
  raised_by : ∀ e ∈ register.escalations, e.raisedAtOffsetSeconds ≤ t
  acknowledged_by : ∀ e ∈ register.escalations,
    ∀ ack ∈ register.acknowledged.get? e.escalationId, ack.acknowledgedAtOffsetSeconds ≤ t
  not_before : ∀ e ∈ register.escalations,
    ∀ ack ∈ register.acknowledged.get? e.escalationId,
      e.raisedAtOffsetSeconds ≤ ack.acknowledgedAtOffsetSeconds

/-- Every state derived at the instant is the one known then exactly when nothing recorded is
dated after it. -/
theorem forall_state_knownAt_iff :
    (∀ id, register.state id t = (register.knownAt t).state id t) ↔
      ∀ e ∈ register.escalations, e.raisedAtOffsetSeconds ≤ t ∧
        ∀ ack ∈ register.acknowledged.get? e.escalationId,
          ack.acknowledgedAtOffsetSeconds ≤ t := by
  constructor
  · exact fun h e he => (state_knownAt_iff he).mp (h e.escalationId)
  · intro h id
    rcases hid : register.raised.get? id with _ | e
    · exact state_knownAt_of_not_raised hid
    · have hkey := register.keyed id e hid
      subst hkey
      have he : e ∈ register.escalations := mem_escalations.mpr hid
      exact (state_knownAt_iff he).mpr (h e he)

end EscalationRegister

open EscalationRegister

/-- What a run reports at an instant is what was known then: the states, the unacknowledged and
the overdue escalations are those of the records dated by the instant. Escalations are raised
once and acknowledged at most once, after they were raised, and leave the unacknowledged set
only through an acknowledgement of that time. -/
structure KeepsHistory (requests : List RegisterRequest) (t : ℤ) : Prop where
  state_known : ∀ id,
    (registerAfter requests).state id t = ((registerAfter requests).knownAt t).state id t
  unacknowledged_known :
    (registerAfter requests).unacknowledged t =
      ((registerAfter requests).knownAt t).unacknowledged t
  overdue_known :
    (registerAfter requests).overdue t = ((registerAfter requests).knownAt t).overdue t
  raised_once : ((answersOf requests).flatMap RegisterAnswer.raisedIds).Nodup
  acknowledged_once : ((answersOf requests).flatMap RegisterAnswer.acknowledgedIds).Nodup
  acknowledged_raised : (registerAfter requests).AcknowledgesRaised
  not_before : ∀ e ∈ (registerAfter requests).escalations,
    ∀ ack ∈ (registerAfter requests).acknowledged.get? e.escalationId,
      e.raisedAtOffsetSeconds ≤ ack.acknowledgedAtOffsetSeconds
  overdue_unacknowledged :
    (registerAfter requests).overdue t ⊆ (registerAfter requests).unacknowledged t
  left_acknowledged : ∀ e ∈ (registerAfter requests).escalations,
    e.raisedAtOffsetSeconds ≤ t → e ∉ (registerAfter requests).unacknowledged t →
      ∃ ack ∈ (registerAfter requests).acknowledged.get? e.escalationId,
        ack.acknowledgedAtOffsetSeconds ≤ t

/-- A run reports what was known at an instant exactly when nothing it recorded is dated later,
and no acknowledgement is dated before its raising. -/
theorem keepsHistory_iff (requests : List RegisterRequest) (t : ℤ) :
    KeepsHistory requests t ↔ (registerAfter requests).Timely t := by
  constructor
  · intro h
    have hstates := forall_state_knownAt_iff.mp h.state_known
    exact ⟨fun e he => (hstates e he).1, fun e he => (hstates e he).2, h.not_before⟩
  · intro h
    have hacknowledged : (registerAfter requests).AcknowledgedBy t :=
      fun e he _ => h.acknowledged_by e he
    have hunacknowledged := unacknowledged_knownAt_iff.mpr hacknowledged
    exact {
      state_known := forall_state_knownAt_iff.mpr
        fun e he => ⟨h.raised_by e he, h.acknowledged_by e he⟩
      unacknowledged_known := hunacknowledged
      overdue_known := by rw [overdue, overdue, hunacknowledged]
      raised_once := by
        rw [← order_registerAfter, (registerAfter requests).ordered]
        exact Dict.keys_nodup _
      acknowledged_once := by
        rw [← acknowledged_registerAfter]
        exact Dict.keys_nodup _
      acknowledged_raised := acknowledgesRaised_registerAfter requests
      not_before := h.not_before
      overdue_unacknowledged := fun _ => unacknowledged_of_overdue
      left_acknowledged := left_acknowledged_iff.mpr hacknowledged }

/-- An escalation raised at its reference instant. -/
def lateReview : Escalation where
  escalationId := "E-1"
  operationId := ⟨"00000000-0000-4000-8000-0000000000a7", by decide⟩
  raisedAtOffsetSeconds := 0
  reason := "funding shortfall at the afternoon deadline"
  routedTo := "desk supervisor"
  checked := by rfl

/-- Raised at 0 and acknowledged at 100, it is reported as acknowledged at 50, when nobody had
taken it. -/
theorem not_keepsHistory_lateReview :
    ¬ KeepsHistory [.raiseEscalation lateReview, .acknowledge "E-1" "j.doe" 100] 50 := by
  intro h
  have hstate := h.state_known "E-1"
  revert hstate
  decide

end EscalationDelivery

end Atreides
