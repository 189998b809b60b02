import Atreides.Agents.SettlementOperations
import Atreides.Foundation.IsoFormat
import Atreides.Messaging.SettlementJoin

/-!
# Rail acknowledgements

An acknowledgement of an instruction is built from a reconciled status report. The status is
the one the reconciliation matched, which is the last entry's where several are about the
instruction; the time is taken from the first of them. What no break names can still be
cancelled by one entry and acknowledged by another.

## Main definitions

* `AcknowledgmentFields`, `fromReadback` — an acknowledgement as it is stated, and how a readback
  establishes one
* `AcknowledgesEntry` — what an acknowledgement and a refusal have to mean
* `EntriesAgree` — the entries for an instruction tell one story

## Main results

* `acknowledgesEntry_iff` — an acknowledgement means what it says exactly when the entries it is
  drawn from agree
-/

namespace Atreides

/-! ## Acknowledgements -/

/-- The rail's acknowledgement of an instruction, as it is stated. -/
structure AcknowledgmentFields where
  endToEndId : String
  status : SettlementStatus
  statusReportMessageId : String
  acknowledgedAt : Timestamp
  deriving DecidableEq

def AcknowledgmentFields.check (fields : AcknowledgmentFields) : Outcome Unit := do
  Outcome.refuseIf (fields.endToEndId = "")
    (.refused "ValidationError" "end_to_end_id: String should have at least 1 character")
  Outcome.refuseIf (fields.statusReportMessageId = "")
    (.refused "ValidationError" "status_report_message_id: String should have at least 1 character")
  Outcome.refuseIf (fields.status ∉ acknowledgingStatuses)
    (.refused "ValidationError"
      ("venue status " ++ quoted fields.status.value ++ " is not an acknowledgement"))
  Outcome.refuseIf (fields.acknowledgedAt.utcOffset = none)
    (.refused "ValidationError" "acknowledged_at must be timezone-aware")

theorem AcknowledgmentFields.check_eq_ok_iff {fields : AcknowledgmentFields} :
    fields.check = .ok () ↔ fields.endToEndId ≠ "" ∧ fields.statusReportMessageId ≠ "" ∧
      fields.status ∈ acknowledgingStatuses ∧ fields.acknowledgedAt.utcOffset.isSome = true := by
  simp only [AcknowledgmentFields.check, Outcome.bind_eq_ok, Outcome.refuseIf_eq_ok, not_not,
    ← Option.isSome_iff_ne_none]
  constructor
  · rintro ⟨-, hid, -, hmessage, -, hstatus, htime⟩
    exact ⟨hid, hmessage, hstatus, htime⟩
  · rintro ⟨hid, hmessage, hstatus, htime⟩
    exact ⟨(), hid, (), hmessage, (), hstatus, htime⟩

/-- Check an acknowledgement. -/
def AcknowledgmentFields.create (fields : AcknowledgmentFields) : Outcome RailAcknowledgment :=
  match h : fields.check with
  | .ok () =>
    have hchecked := AcknowledgmentFields.check_eq_ok_iff.mp h
    .ok {
      endToEndId := fields.endToEndId
      status := fields.status
      statusReportMessageId := fields.statusReportMessageId
      acknowledgedAt := fields.acknowledgedAt
      endToEndId_nonempty := hchecked.1
      messageId_nonempty := hchecked.2.1
      acknowledges := hchecked.2.2.1
      not_naive := hchecked.2.2.2 }
  | .error e => .error e

/-- What an acknowledgement states. -/
def RailAcknowledgment.fields (acknowledgment : RailAcknowledgment) : AcknowledgmentFields where
  endToEndId := acknowledgment.endToEndId
  status := acknowledgment.status
  statusReportMessageId := acknowledgment.statusReportMessageId
  acknowledgedAt := acknowledgment.acknowledgedAt

theorem RailAcknowledgment.check_fields (acknowledgment : RailAcknowledgment) :
    acknowledgment.fields.check = .ok () :=
  AcknowledgmentFields.check_eq_ok_iff.mpr ⟨acknowledgment.endToEndId_nonempty,
    acknowledgment.messageId_nonempty, acknowledgment.acknowledges, acknowledgment.not_naive⟩

/-- The time of an entry: its acceptance, or the report's creation where it gives none. -/
def stampOf (report : StatusReport) (entry : StatusEntry) : String :=
  match entry.acceptanceDatetime with
  | some accepted => if accepted = "" then report.createdAt else accepted
  | none => report.createdAt

/-- The text of a time with its mark of universal time spelled out. -/
def spelledOut (stamp : String) : String :=
  String.ofList (stamp.toList.flatMap fun c => if c = 'Z' then "+00:00".toList else [c])

/-- The instant a time names. -/
def readStamp (stamp : String) : Outcome Timestamp := Timestamp.fromisoformat (spelledOut stamp)

/-- The acknowledgement a reconciled status report establishes. -/
def fromReadback (readback : ReadbackMatch) (endToEndId : String) : Outcome RailAcknowledgment := do
  Outcome.refuseIf (readback.isAbsent = true)
    (.valueError "no readback: silence is not an acknowledgement")
  Outcome.refuseIf (∃ item ∈ readback.breaks, item.endToEndId = some endToEndId)
    (.valueError ("the readback for " ++ quoted endToEndId ++ " did not reconcile cleanly"))
  match readback.matched.get? endToEndId with
  | none =>
    .error (.valueError ("the readback does not match instruction " ++ quoted endToEndId))
  | some status =>
    match readback.report.entries.find? (·.endToEndId = some endToEndId) with
    | none => .error (.refused "StopIteration" "")
    | some entry => do
      let acknowledgedAt ← readStamp (stampOf readback.report entry)
      AcknowledgmentFields.create {
        endToEndId
        status
        statusReportMessageId := readback.report.messageId
        acknowledgedAt }

/-! ## What an acknowledgement means -/

/-- A value error, or the validation error that is one. -/
def IsValueError : PyError → Prop
  | .valueError _ => True
  | .refused error _ => error = "ValidationError"
  | _ => False

/-- The entries of a report for an instruction. -/
def entriesFor (report : StatusReport) (endToEndId : String) : List StatusEntry :=
  report.entries.filter (·.endToEndId = some endToEndId)

/-- An acknowledgement carries the status and the time of one entry for the instruction; no break
names the instruction, and no entry gives it a status that does not acknowledge it. Where there
is no acknowledgement, a value error is raised. -/
structure AcknowledgesEntry (readback : ReadbackMatch) (endToEndId : String) : Prop where
  drawn : ∀ acknowledgment, fromReadback readback endToEndId = .ok acknowledgment →
    ∃ entry ∈ entriesFor readback.report endToEndId, entry.status = acknowledgment.status ∧
      readStamp (stampOf readback.report entry) = .ok acknowledgment.acknowledgedAt
  unbroken : ∀ acknowledgment, fromReadback readback endToEndId = .ok acknowledgment →
    ∀ item ∈ readback.breaks, item.endToEndId ≠ some endToEndId
  unopposed : ∀ acknowledgment, fromReadback readback endToEndId = .ok acknowledgment →
    ∀ entry ∈ entriesFor readback.report endToEndId, entry.status ∈ acknowledgingStatuses
  refused : ∀ e, fromReadback readback endToEndId = .error e → IsValueError e

/-- The entries for an instruction tell one story: none cancels it, and one with the status of
the last has the time of the first. -/
structure EntriesAgree (report : StatusReport) (endToEndId : String) : Prop where
  none_cancelled : ∀ entry ∈ entriesFor report endToEndId, entry.status ≠ .cancelled
  same_time : ∀ first ∈ (entriesFor report endToEndId).head?,
    ∀ last ∈ (entriesFor report endToEndId).getLast?,
      ∃ entry ∈ entriesFor report endToEndId, entry.status = last.status ∧
        readStamp (stampOf report entry) = readStamp (stampOf report first)

/-- The entries would be acknowledged: no break names the instruction, its last status
acknowledges it, its first time can be read with its offset, and the identifiers are there. -/
structure WouldAcknowledge (readback : ReadbackMatch) (endToEndId : String) : Prop where
  unbroken : ∀ item ∈ readback.breaks, item.endToEndId ≠ some endToEndId
  acknowledged : ∃ last ∈ (entriesFor readback.report endToEndId).getLast?,
    last.status ∈ acknowledgingStatuses
  timed : ∃ first ∈ (entriesFor readback.report endToEndId).head?, ∃ acknowledgedAt,
    readStamp (stampOf readback.report first) = .ok acknowledgedAt ∧
      acknowledgedAt.utcOffset.isSome = true
  identified : endToEndId ≠ "" ∧ readback.report.messageId ≠ ""

theorem AcknowledgmentFields.create_eq_ok_iff {fields : AcknowledgmentFields}
    {acknowledgment : RailAcknowledgment} :
    fields.create = .ok acknowledgment ↔ acknowledgment.fields = fields := by
  rw [AcknowledgmentFields.create]
  constructor
  · intro h
    split at h
    · cases h
      rfl
    · cases h
  · rintro rfl
    split
    · rfl
    next e he => cases he.symm.trans (RailAcknowledgment.check_fields acknowledgment)

theorem AcknowledgmentFields.exists_of_check {fields : AcknowledgmentFields}
    (h : fields.check = .ok ()) :
    ∃ acknowledgment : RailAcknowledgment, acknowledgment.fields = fields := by
  obtain ⟨hid, hmessage, hstatus, haware⟩ := AcknowledgmentFields.check_eq_ok_iff.mp h
  exact ⟨{ fields with
    endToEndId_nonempty := hid
    messageId_nonempty := hmessage
    acknowledges := hstatus
    not_naive := haware }, rfl⟩

theorem AcknowledgmentFields.create_error {fields : AcknowledgmentFields} {e : PyError}
    (h : fields.create = .error e) : IsValueError e := by
  rw [AcknowledgmentFields.create] at h
  split at h
  · cases h
  next e' hcheck =>
    cases h
    simp only [AcknowledgmentFields.check, Outcome.bind_eq_error,
      Outcome.refuseIf_eq_error] at hcheck
    obtain ⟨-, rfl⟩ | ⟨-, -, ⟨-, rfl⟩ | ⟨-, -, ⟨-, rfl⟩ | ⟨-, -, -, rfl⟩⟩⟩ := hcheck
    · rfl
    · rfl
    · rfl
    · rfl

/-! ## What a reconciliation matched -/

section

variable {report : StatusReport} {prepared : List CashLegInstruction}
  {known : Option (Dict String SettlementStatus)} {readback : ReadbackMatch} {endToEndId : String}

theorem mem_entriesFor {entry : StatusEntry} : entry ∈ entriesFor report endToEndId ↔
    entry ∈ report.entries ∧ entry.endToEndId = some endToEndId := by
  rw [entriesFor, List.mem_filter, decide_eq_true_iff]

theorem isAbsent_of_reconcile (h : reconcile report prepared known = .ok readback) :
    readback.isAbsent = false := by
  rw [reconcile_eq] at h
  obtain ⟨found, -, hreadback⟩ := Outcome.bind_eq_ok.mp h
  cases hreadback
  rfl

theorem find?_entries (report : StatusReport) (endToEndId : String) :
    report.entries.find? (·.endToEndId = some endToEndId) =
      (entriesFor report endToEndId).head? := by
  rw [entriesFor, List.head?_filter]

/-- The entry a pair was matched from names its identifier and gives its status. -/
theorem of_matchedPair {entry : StatusEntry} {pair : String × SettlementStatus}
    (h : matchedPair report prepared entry = some pair) :
    entry.endToEndId = some pair.1 ∧ pair.2 = entry.status := by
  rw [matchedPair] at h
  rcases hid : entry.endToEndId with _ | e2e
  · simp [resolve, hid] at h
  · split at h
    · cases h
    next e2e' instruction hresolve =>
      cases h
      rw [resolve_endToEndId hid hresolve]
      exact ⟨rfl, rfl⟩

/-- What a status calls for names the instruction. -/
theorem endToEndId_of_statusBreaks {entry : StatusEntry} {item : ReadbackBreak}
    (h : item ∈ statusBreaks entry endToEndId) : item.endToEndId = some endToEndId := by
  rw [statusBreaks.eq_def] at h
  split at h
  all_goals first
    | cases List.mem_singleton.mp h
      rfl
    | cases h

/-- Where no break names an instruction, each of its entries is matched. -/
theorem matchedPair_of_unbroken (h : reconcile report prepared known = .ok readback)
    (hunbroken : ∀ item ∈ readback.breaks, item.endToEndId ≠ some endToEndId)
    {entry : StatusEntry} (hentry : entry ∈ entriesFor report endToEndId) :
    matchedPair report prepared entry = some (endToEndId, entry.status) := by
  obtain ⟨hmem, hid⟩ := mem_entriesFor.mp hentry
  rw [matchedPair]
  rcases hresolve : resolve report prepared entry with finding | ⟨e2e, instruction⟩
  · -- the finding would be a break that names the instruction
    obtain ⟨found, hfound, hkept⟩ := (breaks_of_reconcile h).2 entry hmem
    rw [findings, hresolve] at hfound
    cases hfound
    exact absurd (endToEndId_of_resolve hid hresolve) (hunbroken finding (hkept finding (by simp)))
  · rw [resolve_endToEndId hid hresolve]

/-- Where no break names an instruction, the status matched for it is its last entry's. -/
theorem matched_of_unbroken (h : reconcile report prepared known = .ok readback)
    (hunbroken : ∀ item ∈ readback.breaks, item.endToEndId ≠ some endToEndId) :
    readback.matched.get? endToEndId =
      (entriesFor report endToEndId).getLast?.map StatusEntry.status := by
  have hpairs : ∀ entries : List StatusEntry, (∀ entry ∈ entries, entry ∈ report.entries) →
      (matchedPairs report prepared entries).filter (·.1 = endToEndId) =
        (entries.filter (·.endToEndId = some endToEndId)).map
          fun entry => (endToEndId, entry.status) := by
    intro entries hentries
    induction entries with
    | nil => rfl
    | cons entry rest ih =>
      have hrest := ih fun other hother => hentries other (List.mem_cons_of_mem _ hother)
      rw [matchedPairs] at hrest
      rw [matchedPairs, List.filterMap_cons]
      by_cases hid : entry.endToEndId = some endToEndId
      · have hentry := matchedPair_of_unbroken h hunbroken
          (mem_entriesFor.mpr ⟨hentries entry List.mem_cons_self, hid⟩)
        simpa [hentry, hid] using hrest
      · rcases hpair : matchedPair report prepared entry with _ | pair
        · simpa [hid] using hrest
        · have hother : pair.1 ≠ endToEndId := by
            rintro rfl
            exact hid (of_matchedPair hpair).1
          simpa [hid, hother] using hrest
  rw [reconcile_eq] at h
  obtain ⟨found, hfound, hreadback⟩ := Outcome.bind_eq_ok.mp h
  cases hreadback
  rw [Dict.get?_ofPairs, matched_of_collect hfound, hpairs _ fun _ => id, ← entriesFor,
    List.getLast?_map, Option.map_map]
  rfl

/-- Where no break names an instruction, an entry that does not acknowledge it cancels it. -/
theorem cancelled_of_unbroken (h : reconcile report prepared known = .ok readback)
    (hunbroken : ∀ item ∈ readback.breaks, item.endToEndId ≠ some endToEndId)
    {entry : StatusEntry} (hentry : entry ∈ entriesFor report endToEndId)
    (hstatus : entry.status ∉ acknowledgingStatuses) : entry.status = .cancelled := by
  obtain ⟨hmem, hid⟩ := mem_entriesFor.mp hentry
  obtain ⟨found, hfound, hkept⟩ := (breaks_of_reconcile h).2 entry hmem
  have hnone : statusBreaks entry endToEndId = [] := by
    rw [List.eq_nil_iff_forall_not_mem]
    intro item hitem
    apply hunbroken item ?_ (endToEndId_of_statusBreaks hitem)
    apply hkept
    have hmatched := matchedPair_of_unbroken h hunbroken hentry
    rw [matchedPair] at hmatched
    rcases hresolve : resolve report prepared entry with finding | ⟨e2e, instruction⟩
    · rw [hresolve] at hmatched
      cases hmatched
    · obtain rfl := resolve_endToEndId hid hresolve
      rw [findings, hresolve] at hfound
      obtain ⟨breaks, hbreaks, hpair⟩ := Outcome.bind_eq_ok.mp hfound
      obtain ⟨amounts, -, hall⟩ := Outcome.bind_eq_ok.mp hbreaks
      cases hpair
      cases hall
      simp only [List.mem_append]
      exact Or.inl (Or.inl (Or.inl hitem))
  revert hstatus hnone
  rw [statusBreaks]
  cases entry.status <;> simp [acknowledgingStatuses]

/-! ## When a readback is acknowledged -/

/-- A reconciled report acknowledges an instruction with the status of its last entry and the
time of its first. -/
theorem fromReadback_eq_ok_iff (h : reconcile report prepared known = .ok readback)
    {acknowledgment : RailAcknowledgment} :
    fromReadback readback endToEndId = .ok acknowledgment ↔
      (∀ item ∈ readback.breaks, item.endToEndId ≠ some endToEndId) ∧
        ∃ first ∈ (entriesFor report endToEndId).head?,
          ∃ last ∈ (entriesFor report endToEndId).getLast?, ∃ acknowledgedAt,
            readStamp (stampOf report first) = .ok acknowledgedAt ∧
              acknowledgment.fields =
                ⟨endToEndId, last.status, report.messageId, acknowledgedAt⟩ := by
  have hreport := (breaks_of_reconcile h).1
  have hpresent : readback.isAbsent = false := isAbsent_of_reconcile h
  rw [fromReadback, Outcome.bind_eq_ok, hreport, hpresent]
  simp only [Outcome.refuseIf_eq_ok, Bool.false_eq_true, not_false_eq_true, true_and,
    exists_const, Outcome.bind_eq_ok, not_exists, not_and]
  refine and_congr_right fun hunbroken => ?_
  rw [matched_of_unbroken h hunbroken, find?_entries]
  generalize (entriesFor report endToEndId).head? = first
  generalize (entriesFor report endToEndId).getLast? = last
  rcases last with _ | last
  · simp
  rcases first with _ | first
  · simp
  · simp [Outcome.bind_eq_ok, AcknowledgmentFields.create_eq_ok_iff]

/-- Whatever is not acknowledged is refused by a value error. -/
theorem isValueError_of_fromReadback (h : reconcile report prepared known = .ok readback)
    {e : PyError} (he : fromReadback readback endToEndId = .error e) : IsValueError e := by
  rw [fromReadback, Outcome.bind_eq_error, Outcome.refuseIf_eq_error] at he
  obtain ⟨-, rfl⟩ | ⟨-, -, he⟩ := he
  · trivial
  rw [Outcome.bind_eq_error, Outcome.refuseIf_eq_error] at he
  obtain ⟨-, rfl⟩ | ⟨_, hunbroken, he⟩ := he
  · trivial
  rw [Outcome.refuseIf_eq_ok, not_exists] at hunbroken
  have hmatched := matched_of_unbroken h fun item hitem hid => hunbroken item ⟨hitem, hid⟩
  rw [hmatched, (breaks_of_reconcile h).1, find?_entries] at he
  split at he
  · cases he
    trivial
  next status hstatus =>
    split at he
    next hnone =>
      -- what was matched is an entry of the report
      rw [List.head?_eq_none_iff] at hnone
      rw [hnone] at hstatus
      cases hstatus
    next entry hentry =>
      obtain hstamp | ⟨acknowledgedAt, -, hcreate⟩ := Outcome.bind_eq_error.mp he
      · obtain ⟨message, rfl⟩ := Timestamp.fromisoformat_error _ _ hstamp
        trivial
      · exact AcknowledgmentFields.create_error hcreate

/-- What would be acknowledged is. -/
theorem exists_of_wouldAcknowledge (h : reconcile report prepared known = .ok readback)
    (hwould : WouldAcknowledge readback endToEndId) :
    ∃ acknowledgment, fromReadback readback endToEndId = .ok acknowledgment := by
  have hreport := (breaks_of_reconcile h).1
  obtain ⟨last, hlast, hstatus⟩ := hwould.acknowledged
  obtain ⟨first, hfirst, acknowledgedAt, hstamp, haware⟩ := hwould.timed
  rw [hreport] at hlast hfirst hstamp
  let fields : AcknowledgmentFields :=
    ⟨endToEndId, last.status, report.messageId, acknowledgedAt⟩
  have hidentified := hwould.identified
  rw [hreport] at hidentified
  have hcheck : fields.check = .ok () :=
    AcknowledgmentFields.check_eq_ok_iff.mpr ⟨hidentified.1, hidentified.2, hstatus, haware⟩
  obtain ⟨acknowledgment, hcreate⟩ := AcknowledgmentFields.exists_of_check hcheck
  exact ⟨acknowledgment, (fromReadback_eq_ok_iff h).mpr
    ⟨hwould.unbroken, first, hfirst, last, hlast, acknowledgedAt, hstamp, hcreate⟩⟩

/-- What is acknowledged would be. -/
theorem wouldAcknowledge_of_eq_ok (h : reconcile report prepared known = .ok readback)
    {acknowledgment : RailAcknowledgment}
    (hack : fromReadback readback endToEndId = .ok acknowledgment) :
    WouldAcknowledge readback endToEndId := by
  have hreport := (breaks_of_reconcile h).1
  obtain ⟨hunbroken, first, hfirst, last, hlast, acknowledgedAt, hstamp, hfields⟩ :=
    (fromReadback_eq_ok_iff h).mp hack
  have hchecked := RailAcknowledgment.check_fields acknowledgment
  rw [hfields, AcknowledgmentFields.check_eq_ok_iff] at hchecked
  obtain ⟨hid, hmessage, hstatus, haware⟩ := hchecked
  rw [← hreport] at hfirst hlast hstamp hmessage
  exact ⟨hunbroken, ⟨last, hlast, hstatus⟩, ⟨first, hfirst, acknowledgedAt, hstamp, haware⟩, hid,
    hmessage⟩

/-- An acknowledgement means what it says exactly when, if the readback would be acknowledged,
the entries for the instruction agree. -/
theorem acknowledgesEntry_iff (h : reconcile report prepared known = .ok readback) :
    AcknowledgesEntry readback endToEndId ↔
      (WouldAcknowledge readback endToEndId → EntriesAgree report endToEndId) := by
  have hreport := (breaks_of_reconcile h).1
  constructor
  · intro hmeans hwould
    obtain ⟨acknowledgment, hack⟩ := exists_of_wouldAcknowledge h hwould
    obtain ⟨-, first, hfirst, last, hlast, acknowledgedAt, hstamp, hfields⟩ :=
      (fromReadback_eq_ok_iff h).mp hack
    constructor
    · intro entry hentry hcancelled
      have hstatus := hmeans.unopposed acknowledgment hack entry (hreport ▸ hentry)
      rw [hcancelled] at hstatus
      revert hstatus
      decide
    · intro first' hfirst' last' hlast'
      obtain rfl := Option.mem_unique hfirst hfirst'
      obtain rfl := Option.mem_unique hlast hlast'
      obtain ⟨entry, hentry, hstatus, htime⟩ := hmeans.drawn acknowledgment hack
      have hlastStatus : acknowledgment.status = last.status :=
        congrArg AcknowledgmentFields.status hfields
      have hfirstTime : acknowledgment.acknowledgedAt = acknowledgedAt :=
        congrArg AcknowledgmentFields.acknowledgedAt hfields
      rw [hreport, hfirstTime] at htime
      rw [hreport] at hentry
      exact ⟨entry, hentry, hstatus.trans hlastStatus, htime.trans hstamp.symm⟩
  · intro hagree
    refine ⟨?_, ?_, ?_, fun _ => isValueError_of_fromReadback h⟩
    · intro acknowledgment hack
      obtain ⟨-, first, hfirst, last, hlast, acknowledgedAt, hstamp, hfields⟩ :=
        (fromReadback_eq_ok_iff h).mp hack
      obtain ⟨entry, hentry, hstatus, htime⟩ :=
        (hagree (wouldAcknowledge_of_eq_ok h hack)).same_time first hfirst last hlast
      have hlastStatus : acknowledgment.status = last.status :=
        congrArg AcknowledgmentFields.status hfields
      have hfirstTime : acknowledgment.acknowledgedAt = acknowledgedAt :=
        congrArg AcknowledgmentFields.acknowledgedAt hfields
      rw [hreport, hfirstTime]
      exact ⟨entry, hentry, hstatus.trans hlastStatus.symm, htime.trans hstamp⟩
    · intro acknowledgment hack
      exact ((fromReadback_eq_ok_iff h).mp hack).1
    · intro acknowledgment hack entry hentry
      by_contra hstatus
      rw [hreport] at hentry
      have hcancelled :=
        cancelled_of_unbroken h ((fromReadback_eq_ok_iff h).mp hack).1 hentry hstatus
      exact (hagree (wouldAcknowledge_of_eq_ok h hack)).none_cancelled entry hentry hcancelled

end

/-! ### Received first and settled later -/

/-- The instruction reported received at ten. -/
def receivedAtTen : StatusEntry where
  statusCode := "RCVD"
  status := .received
  endToEndId := some "E2E-1"
  acceptanceDatetime := some "2026-10-05T10:00:00Z"

/-- The instruction reported settled at noon. -/
def settledAtNoon : StatusEntry where
  statusCode := "ACSC"
  status := .settled
  endToEndId := some "E2E-1"
  acceptanceDatetime := some "2026-10-05T12:00:00Z"

/-- The readback of a report with the entries of one instruction, the last of them settled. -/
def readbackOf (entries : List StatusEntry) : ReadbackMatch where
  report := emptyReport.carrying entries []
  matched := .ofPairs [("E2E-1", .settled)]

/-- A report with one entry is acknowledged by it. -/
theorem acknowledgesEntry_settledAtNoon :
    reconcile (emptyReport.carrying [settledAtNoon] []) [hundredDollars] none =
        .ok (readbackOf [settledAtNoon]) ∧
      AcknowledgesEntry (readbackOf [settledAtNoon]) "E2E-1" := by
  have hreconcile : reconcile (emptyReport.carrying [settledAtNoon] []) [hundredDollars] none =
      .ok (readbackOf [settledAtNoon]) := by decide
  have hentries : entriesFor (emptyReport.carrying [settledAtNoon] []) "E2E-1" =
      [settledAtNoon] := by decide
  refine ⟨hreconcile, (acknowledgesEntry_iff hreconcile).mpr fun _ => ⟨?_, ?_⟩⟩
  · rw [hentries]
    decide
  · rw [hentries]
    rintro first hfirst last hlast
    cases hfirst
    cases hlast
    exact ⟨settledAtNoon, List.mem_cons_self, rfl, rfl⟩

/-- Received at ten and settled at noon, the instruction is acknowledged as settled at ten. -/
theorem not_acknowledgesEntry_settledAtTen :
    ¬ ∀ (report : StatusReport) (prepared : List CashLegInstruction)
        (known : Option (Dict String SettlementStatus)) (readback : ReadbackMatch)
        (endToEndId : String), reconcile report prepared known = .ok readback →
      AcknowledgesEntry readback endToEndId := by
  intro h
  have hreconcile : reconcile (emptyReport.carrying [receivedAtTen, settledAtNoon] [])
      [hundredDollars] none = .ok (readbackOf [receivedAtTen, settledAtNoon]) := by decide
  have hmeans := h _ _ _ _ "E2E-1" hreconcile
  have hten : readStamp "2026-10-05T10:00:00Z" =
      .ok (.utc (.of 2026 10 5) 36000000000) := by decide +kernel
  have hnoon : readStamp "2026-10-05T12:00:00Z" =
      .ok (.utc (.of 2026 10 5) 43200000000) := by decide +kernel
  have hwould : WouldAcknowledge (readbackOf [receivedAtTen, settledAtNoon]) "E2E-1" :=
    { unbroken := nofun
      acknowledged := ⟨settledAtNoon, by decide, by decide⟩
      timed := ⟨receivedAtTen, by decide, _, hten, by decide⟩
      identified := by decide }
  obtain ⟨acknowledgment, hack⟩ := exists_of_wouldAcknowledge hreconcile hwould
  obtain ⟨-, first, hfirst, last, hlast, acknowledgedAt, hstamp, hfields⟩ :=
    (fromReadback_eq_ok_iff hreconcile).mp hack
  cases hfirst
  cases hlast
  obtain ⟨entry, hentry, hstatus, htime⟩ := hmeans.drawn acknowledgment hack
  have hlastStatus : acknowledgment.status = .settled :=
    congrArg AcknowledgmentFields.status hfields
  have hfirstTime : acknowledgment.acknowledgedAt = acknowledgedAt :=
    congrArg AcknowledgmentFields.acknowledgedAt hfields
  rw [hlastStatus] at hstatus
  rw [hfirstTime] at htime
  cases hten.symm.trans hstamp
  have hmem : entry ∈ [receivedAtTen, settledAtNoon] := (mem_entriesFor.mp hentry).1
  rcases List.mem_pair.mp hmem with rfl | rfl
  · cases hstatus
  · cases hnoon.symm.trans htime

end Atreides
