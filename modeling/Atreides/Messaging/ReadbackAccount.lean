import Atreides.Messaging.Reconciliation
import Atreides.Messaging.StatusReports

/-!
# Every block of a report

A report is reconciled block by block, and each block should come out of it as the status matched for
its identifier or as a break that names it. Two things go wrong. An echoed amount that is a
signalling NaN cannot be compared, and the whole file raises. And the status matched for an identifier
is the one of its last block, so an earlier one with nothing to report is replaced without a trace.

## Main definitions

* `Addresses` — the prepared instruction an identifier is matched to
* `AccountedFor`, `NothingDropped` — a block, and every block of a document, comes out
* `Traceable` — the condition on the report and on what was prepared

## Main results

* `resolve_eq_ok_iff` — an entry is matched where its identifier addresses an instruction
* `nothingDropped_iff` — exactly when every block comes out
-/

namespace Atreides

/-! ## What an identifier addresses -/

/-- The last of some items with a key. -/
def lastWith {α : Type} (key : α → String) (value : String) (items : List α) : Option α :=
  (items.filter fun item => key item = value).getLast?

theorem get?_ofPairs_map {α : Type} (key : α → String) (items : List α) (value : String) :
    (Dict.ofPairs (items.map fun item => (key item, item))).get? value =
      lastWith key value items := by
  rw [Dict.get?_ofPairs, lastWith, List.filter_map, List.getLast?_map, Option.map_map]
  exact Option.map_id'

/-- The prepared instruction an identifier is matched to: the last one that carries it, where the
message the report is about is not another one's. -/
structure Addresses (report : StatusReport) (prepared : List CashLegInstruction) (e2e : String)
    (instruction : CashLegInstruction) : Prop where
  last : lastWith (fun i => i.endToEndId) e2e prepared = some instruction
  message : ∀ m ∈ report.originalMessageId,
    ∀ other ∈ lastWith (fun i => i.messageId) m prepared, other = instruction

/-- A break names an entry by its identifier and its status code. -/
def Names (item : ReadbackBreak) (e2e status : Option String) : Prop :=
  item.endToEndId = e2e ∧ item.statusCode = status

section Resolving

variable {report : StatusReport} {prepared : List CashLegInstruction} {entry : StatusEntry}
  {e2e : String} {instruction : CashLegInstruction}

theorem Addresses.unique {other : CashLegInstruction}
    (h : Addresses report prepared e2e instruction) (h' : Addresses report prepared e2e other) :
    instruction = other :=
  Option.some.inj (h.last.symm.trans h'.last)

/-- The report's message is not another instruction's. -/
theorem any_ne_eq_false_iff : (report.originalMessageId.bind
    (Dict.ofPairs (prepared.map fun i => (i.messageId, i))).get?).any (· ≠ instruction) = false ↔
      ∀ m ∈ report.originalMessageId,
        ∀ other ∈ lastWith (fun i => i.messageId) m prepared, other = instruction := by
  cases report.originalMessageId with
  | none => simp
  | some m =>
    simp only [Option.bind_some, get?_ofPairs_map, Option.mem_def, Option.some.injEq, forall_eq']
    cases lastWith (fun i : CashLegInstruction => i.messageId) m prepared with
    | none => simp
    | some other => simp

/-- An entry is matched where its identifier addresses an instruction. -/
theorem resolve_eq_ok_iff : resolve report prepared entry = .ok (e2e, instruction) ↔
    entry.endToEndId = some e2e ∧ Addresses report prepared e2e instruction := by
  unfold resolve
  cases hid : entry.endToEndId with
  | none => simp
  | some id =>
    dsimp only
    rw [get?_ofPairs_map]
    cases hlast : lastWith (fun i : CashLegInstruction => i.endToEndId) id prepared with
    | none =>
      refine iff_of_false (by simp) ?_
      rintro ⟨heq, haddresses⟩
      rw [← Option.some.inj heq] at haddresses
      rw [haddresses.last] at hlast
      cases hlast
    | some found =>
      dsimp only
      constructor
      · intro h
        split_ifs at h with hother
        cases h
        exact ⟨rfl, hlast, any_ne_eq_false_iff.mp (Bool.eq_false_iff.mpr hother)⟩
      · rintro ⟨heq, haddresses⟩
        cases heq
        have hfound : found = instruction := Option.some.inj (hlast.symm.trans haddresses.last)
        rw [hfound, if_neg]
        exact Bool.eq_false_iff.mp (any_ne_eq_false_iff.mpr haddresses.message)

/-- Why an entry is not matched, said of the entry. -/
theorem resolve_eq_error {finding : ReadbackBreak}
    (h : resolve report prepared entry = .error finding) :
    Names finding entry.endToEndId (some entry.statusCode) := by
  unfold resolve at h
  cases hid : entry.endToEndId with
  | none =>
    rw [hid] at h
    cases h
    exact ⟨rfl, rfl⟩
  | some id =>
    rw [hid] at h
    simp only [get?_ofPairs_map] at h
    cases hlast : lastWith (fun i : CashLegInstruction => i.endToEndId) id prepared with
    | none =>
      rw [hlast] at h
      cases h
      exact ⟨rfl, rfl⟩
    | some found =>
      rw [hlast] at h
      dsimp only at h
      split_ifs at h
      cases h
      exact ⟨rfl, rfl⟩

theorem incomparable_iff : Incomparable report prepared entry ↔
    (∃ e2e instruction, entry.endToEndId = some e2e ∧ Addresses report prepared e2e instruction) ∧
      ∃ negative payload, entry.echoedAmount = some (.nan negative true payload) := by
  rw [Incomparable, matchedPair]
  refine and_congr_left fun _ => ?_
  cases hresolve : resolve report prepared entry with
  | error finding =>
    refine iff_of_false (by simp) ?_
    rintro ⟨e2e, instruction, haddressed⟩
    rw [resolve_eq_ok_iff.mpr haddressed] at hresolve
    cases hresolve
  | ok found =>
    refine iff_of_true rfl ⟨found.1, found.2, ?_⟩
    exact resolve_eq_ok_iff.mp hresolve

end Resolving

/-! ## What is found about a matched entry -/

/-- Something is found about a matched entry: its status calls for it, what it echoes is not what was
instructed, or it moves against what was established. -/
def Remarkable (entry : StatusEntry) (instruction : CashLegInstruction)
    (prior : Option SettlementStatus) : Prop :=
  entry.status = .unrecognized ∨ entry.status = .acceptedWithChange ∨ entry.status = .rejected ∨
    (∃ echoed ∈ entry.echoedAmount, Decimal.eq echoed instruction.amount = .ok false) ∨
    (∃ echoed ∈ entry.echoedCurrency, echoed ≠ instruction.currency) ∨
    ¬ MovesForward prior entry.status

section Findings

variable {entry : StatusEntry} {e2e : String} {instruction : CashLegInstruction}
  {prior : Option SettlementStatus} {breaks : List ReadbackBreak}

theorem statusBreaks_ne_nil : statusBreaks entry e2e ≠ [] ↔ entry.status = .unrecognized ∨
    entry.status = .acceptedWithChange ∨ entry.status = .rejected := by
  unfold statusBreaks
  cases entry.status <;> simp

theorem amountBreaks_ne_nil (h : amountBreaks entry e2e instruction = .ok breaks) :
    breaks ≠ [] ↔ ∃ echoed ∈ entry.echoedAmount, Decimal.eq echoed instruction.amount = .ok false := by
  unfold amountBreaks at h
  cases hechoed : entry.echoedAmount with
  | none =>
    rw [hechoed] at h
    cases h
    simp
  | some echoed =>
    rw [hechoed] at h
    obtain ⟨same, hsame, h⟩ := Outcome.bind_eq_ok.mp h
    cases h
    cases same with
    | true => simp [hsame]
    | false => simp [hsame]

theorem currencyBreaks_ne_nil : currencyBreaks entry e2e instruction ≠ [] ↔
    ∃ echoed ∈ entry.echoedCurrency, echoed ≠ instruction.currency := by
  unfold currencyBreaks
  cases entry.echoedCurrency with
  | none => simp
  | some echoed => simp

theorem entryBreaks_ne_nil (h : entryBreaks entry e2e instruction prior = .ok breaks) :
    breaks ≠ [] ↔ Remarkable entry instruction prior := by
  obtain ⟨amounts, hamounts, h⟩ := Outcome.bind_eq_ok.mp h
  cases h
  have hstatus : statusBreaks entry e2e ≠ [] ↔ _ := statusBreaks_ne_nil
  have hcurrency : currencyBreaks entry e2e instruction ≠ [] ↔ _ := currencyBreaks_ne_nil
  rw [ne_eq, List.append_eq_nil_iff, List.append_eq_nil_iff, List.append_eq_nil_iff,
    progressionBreak_eq_nil_iff, Remarkable, ← amountBreaks_ne_nil hamounts, ← hcurrency]
  tauto

/-- A break about an entry that is matched under an identifier. -/
def Finding (item : ReadbackBreak) (e2e : String) (entry : StatusEntry) : Prop :=
  Names item (some e2e) (some entry.statusCode) ∧ item.code ≠ .identifierDisagreement

theorem finding_of_mem_statusBreaks {item : ReadbackBreak} (h : item ∈ statusBreaks entry e2e) :
    Finding item e2e entry := by
  unfold statusBreaks at h
  cases hstatus : entry.status <;> rw [hstatus] at h <;>
    first
      | exact absurd h List.not_mem_nil
      | exact List.mem_singleton.mp h ▸ ⟨⟨rfl, rfl⟩, by simp⟩

theorem finding_of_mem_progressionBreak {item : ReadbackBreak}
    (h : item ∈ progressionBreak entry e2e prior) :
    Finding item e2e entry := by
  cases prior with
  | none => exact absurd h List.not_mem_nil
  | some established =>
    simp only [progressionBreak] at h
    split_ifs at h
    · exact absurd h List.not_mem_nil
    · exact List.mem_singleton.mp h ▸ ⟨⟨rfl, rfl⟩, by simp⟩
    · exact List.mem_singleton.mp h ▸ ⟨⟨rfl, rfl⟩, by simp⟩
    · exact List.mem_singleton.mp h ▸ ⟨⟨rfl, rfl⟩, by simp⟩
    · exact absurd h List.not_mem_nil

theorem finding_of_mem_amountBreaks (hbreaks : amountBreaks entry e2e instruction = .ok breaks)
    {item : ReadbackBreak} (h : item ∈ breaks) :
    Finding item e2e entry := by
  unfold amountBreaks at hbreaks
  cases hechoed : entry.echoedAmount with
  | none =>
    rw [hechoed] at hbreaks
    cases hbreaks
    exact absurd h List.not_mem_nil
  | some echoed =>
    rw [hechoed] at hbreaks
    obtain ⟨same, -, hbreaks⟩ := Outcome.bind_eq_ok.mp hbreaks
    cases hbreaks
    cases same with
    | true => exact absurd h List.not_mem_nil
    | false => exact List.mem_singleton.mp h ▸ ⟨⟨rfl, rfl⟩, by simp⟩

theorem finding_of_mem_currencyBreaks {item : ReadbackBreak}
    (h : item ∈ currencyBreaks entry e2e instruction) :
    Finding item e2e entry := by
  unfold currencyBreaks at h
  cases hechoed : entry.echoedCurrency with
  | none =>
    rw [hechoed] at h
    exact absurd h List.not_mem_nil
  | some echoed =>
    rw [hechoed] at h
    dsimp only at h
    split_ifs at h
    · exact absurd h List.not_mem_nil
    · exact List.mem_singleton.mp h ▸ ⟨⟨rfl, rfl⟩, by simp⟩

/-- What is found about a matched entry names it, and is not that its identifiers disagree. -/
theorem finding_of_mem_entryBreaks (h : entryBreaks entry e2e instruction prior = .ok breaks)
    {item : ReadbackBreak} (hitem : item ∈ breaks) :
    Finding item e2e entry := by
  obtain ⟨amounts, hamounts, h⟩ := Outcome.bind_eq_ok.mp h
  cases h
  simp only [List.mem_append] at hitem
  obtain ((hstatus | hamount) | hcurrency) | hprogression := hitem
  · exact finding_of_mem_statusBreaks hstatus
  · exact finding_of_mem_amountBreaks hamounts hamount
  · exact finding_of_mem_currencyBreaks hcurrency
  · exact finding_of_mem_progressionBreak hprogression

end Findings

/-! ## What a reconciliation reports -/

section Reconciled

variable {report : StatusReport} {prepared : List CashLegInstruction} {entry : StatusEntry}
  {known : Option (Dict String SettlementStatus)} {prior : Dict String SettlementStatus}
  {found : ReadbackMatch} {e2e : String} {instruction : CashLegInstruction}

/-- A report is reconciled unless one of its matched entries cannot be compared. -/
theorem reconcile_returns_iff : (∃ found, reconcile report prepared known = .ok found) ↔
    ¬ ∃ entry ∈ report.entries, Incomparable report prepared entry := by
  rw [reconcile_eq]
  obtain ⟨hbad, herror⟩ | ⟨hgood, hok⟩ := collect_findings_cases report prepared report.entries
  · refine iff_of_false ?_ (not_not.mpr hbad)
    rw [herror]
    rintro ⟨found, h⟩
    cases h
  · obtain ⟨collected, hcollected⟩ := hok (known.getD .empty)
    refine iff_of_true ?_ hgood
    rw [hcollected]
    exact ⟨_, rfl⟩

theorem reconcile_found (h : reconcile report prepared known = .ok found) :
    found.matched = .ofPairs (matchedPairs report prepared report.entries) ∧
      found.breaks = report.malformed.map (malformedBreak report) ++
        report.entries.flatMap (breaksOf report prepared (known.getD .empty)) := by
  rw [reconcile_eq, Outcome.bind_eq_ok] at h
  obtain ⟨collected, hcollected, h⟩ := h
  cases h
  exact ⟨by rw [matched_of_collect hcollected], by rw [breaks_of_collect hcollected]⟩

/-- The status matched for an identifier is the one of its last entry. -/
theorem get?_matchedPairs (h : Addresses report prepared e2e instruction)
    (entries : List StatusEntry) :
    (Dict.ofPairs (matchedPairs report prepared entries)).get? e2e =
      (entries.filter fun entry => entry.endToEndId = some e2e).getLast?.map StatusEntry.status := by
  have hfilter : (matchedPairs report prepared entries).filter (·.1 = e2e) =
      (entries.filter fun entry => entry.endToEndId = some e2e).map fun entry =>
        (e2e, entry.status) := by
    induction entries with
    | nil => rfl
    | cons entry rest ih =>
      rw [matchedPairs, List.filterMap_cons]
      by_cases hid : entry.endToEndId = some e2e
      · have hpair : matchedPair report prepared entry = some (e2e, entry.status) := by
          rw [matchedPair, resolve_eq_ok_iff.mpr ⟨hid, h⟩]
        rw [List.filter_cons_of_pos (by simpa using hid), hpair, List.map_cons]
        simp only [decide_true, List.filter_cons_of_pos]
        rw [← ih, matchedPairs]
      · rw [List.filter_cons_of_neg (by simpa using hid), ← ih, matchedPairs]
        cases hresolve : resolve report prepared entry with
        | error finding =>
          have hpair : matchedPair report prepared entry = none := by rw [matchedPair, hresolve]
          rw [hpair]
        | ok resolved =>
          have hpair : matchedPair report prepared entry = some (resolved.1, entry.status) := by
            rw [matchedPair, hresolve]
          have hother : resolved.1 ≠ e2e := by
            rintro rfl
            exact hid (resolve_eq_ok_iff.mp hresolve).1
          rw [hpair, List.filter_cons_of_neg (by simpa using hother)]
  rw [Dict.get?_ofPairs, hfilter, List.getLast?_map, Option.map_map]
  rfl

theorem breaksOf_of_error {finding : ReadbackBreak}
    (h : resolve report prepared entry = .error finding) :
    breaksOf report prepared prior entry = [finding] := by
  rw [breaksOf, findings, h]

theorem breaksOf_of_ok (prior : Dict String SettlementStatus)
    (h : resolve report prepared entry = .ok (e2e, instruction))
    (hcomparable : ¬ Incomparable report prepared entry) :
    entryBreaks entry e2e instruction (prior.get? e2e) =
      .ok (breaksOf report prepared prior entry) := by
  have hamount : ∃ amounts, amountBreaks entry e2e instruction = .ok amounts := by
    obtain ⟨hnan, -⟩ | ⟨-, hok⟩ := amountBreaks_outcome entry e2e instruction
    · refine absurd ⟨?_, hnan⟩ hcomparable
      rw [matchedPair, h]
      rfl
    · exact hok
  obtain ⟨amounts, hamounts⟩ := hamount
  rw [breaksOf, findings, h]
  simp only [entryBreaks, hamounts, Outcome.ok_bind]

end Reconciled

/-! ## Accounting -/

/-- A block comes out of a reconciliation: as the status matched for its identifier, or as a break
that names it. One that could not be read is named by its place as well. -/
def AccountedFor (found : ReadbackMatch) : Except MalformedEntry StatusEntry → Prop
  | .error bad => ∃ item ∈ found.breaks, Names item bad.endToEndId bad.statusCode ∧
      ∃ rest, item.detail = "status entry " ++ toString bad.ordinal ++ " " ++ rest
  | .ok entry => (∃ e2e ∈ entry.endToEndId, found.matched.get? e2e = some entry.status) ∨
      ∃ item ∈ found.breaks, Names item entry.endToEndId (some entry.statusCode)

/-- A document is reconciled, and every block of it comes out. -/
def NothingDropped (root : XmlElement) (report : StatusReport)
    (prepared : List CashLegInstruction) (known : Option (Dict String SettlementStatus)) : Prop :=
  ∃ found, reconcile report prepared known = .ok found ∧
    ∀ block ∈ documentBlocks root, AccountedFor found block

/-- No matched entry echoes a signalling NaN; and every matched entry has the status of the last one
of its identifier, or something is found about one of its identifier and its status code. -/
structure Traceable (report : StatusReport) (prepared : List CashLegInstruction)
    (known : Option (Dict String SettlementStatus)) : Prop where
  comparable : ∀ entry ∈ report.entries, ∀ e2e instruction, entry.endToEndId = some e2e →
    Addresses report prepared e2e instruction →
      ¬ ∃ negative payload, entry.echoedAmount = some (.nan negative true payload)
  kept : ∀ entry ∈ report.entries, ∀ e2e instruction, entry.endToEndId = some e2e →
    Addresses report prepared e2e instruction →
      (∃ last, (report.entries.filter fun other => other.endToEndId = some e2e).getLast? =
        some last ∧ last.status = entry.status) ∨
      ∃ other ∈ report.entries, other.endToEndId = some e2e ∧
        other.statusCode = entry.statusCode ∧
          Remarkable other instruction ((known.getD .empty).get? e2e)

section Accounting

variable {root : XmlElement} {report : StatusReport} {prepared : List CashLegInstruction}
  {known : Option (Dict String SettlementStatus)}

theorem not_incomparable_iff : (¬ ∃ entry ∈ report.entries, Incomparable report prepared entry) ↔
    ∀ entry ∈ report.entries, ∀ e2e instruction, entry.endToEndId = some e2e →
      Addresses report prepared e2e instruction →
        ¬ ∃ negative payload, entry.echoedAmount = some (.nan negative true payload) := by
  simp only [incomparable_iff]
  constructor
  · intro h entry hentry e2e instruction hid haddresses hnan
    exact h ⟨entry, hentry, ⟨e2e, instruction, hid, haddresses⟩, hnan⟩
  · rintro h ⟨entry, hentry, ⟨e2e, instruction, hid, haddresses⟩, hnan⟩
    exact h entry hentry e2e instruction hid haddresses hnan

/-- A block that cannot be read has no identifier or no status. -/
theorem names_of_unread {bad : MalformedEntry} (h : .error bad ∈ documentBlocks root) :
    bad.endToEndId = none ∨ bad.statusCode = none := by
  rw [documentBlocks] at h
  cases hpayload : findPayload root with
  | none =>
    rw [hpayload] at h
    exact absurd h List.not_mem_nil
  | some payload =>
    rw [hpayload] at h
    obtain ⟨block, -, hread⟩ := List.mem_map.mp h
    rw [readBlock] at hread
    cases hcode : block.1.textOf "TxSts" with
    | none =>
      rw [hcode] at hread
      cases hread
      exact .inr rfl
    | some code =>
      rw [hcode] at hread
      dsimp only at hread
      split_ifs at hread
      cases hread
      exact .inl rfl

theorem mem_entries (h : readStatusReport root = .ok report) {entry : StatusEntry} :
    entry ∈ report.entries ↔ .ok entry ∈ documentBlocks root := by
  rw [(parse_blocks h).1, List.mem_filterMap]
  constructor
  · rintro ⟨block, hblock, heq⟩
    cases block with
    | error bad => cases heq
    | ok other =>
      cases heq
      exact hblock
  · exact fun hblock => ⟨_, hblock, rfl⟩

theorem mem_malformed (h : readStatusReport root = .ok report) {bad : MalformedEntry} :
    bad ∈ report.malformed ↔ .error bad ∈ documentBlocks root := by
  rw [(parse_blocks h).2, List.mem_filterMap]
  constructor
  · rintro ⟨block, hblock, heq⟩
    cases block with
    | error other =>
      cases heq
      exact hblock
    | ok entry => cases heq
  · exact fun hblock => ⟨_, hblock, rfl⟩

/-- A break that names a matched entry is about an entry of its identifier and its code. -/
theorem exists_remarkable (h : readStatusReport root = .ok report)
    (hcomparable : ¬ ∃ entry ∈ report.entries, Incomparable report prepared entry)
    {e2e code : String} {instruction : CashLegInstruction}
    (haddresses : Addresses report prepared e2e instruction) {item : ReadbackBreak}
    (hitem : item ∈ report.malformed.map (malformedBreak report) ++
      report.entries.flatMap (breaksOf report prepared (known.getD .empty)))
    (hnames : Names item (some e2e) (some code)) :
    ∃ other ∈ report.entries, other.endToEndId = some e2e ∧ other.statusCode = code ∧
      Remarkable other instruction ((known.getD .empty).get? e2e) := by
  obtain hitem | hitem := List.mem_append.mp hitem
  · obtain ⟨bad, hbad, rfl⟩ := List.mem_map.mp hitem
    obtain hnone | hnone := names_of_unread ((mem_malformed h).mp hbad)
    · cases hnone.symm.trans hnames.1
    · cases hnone.symm.trans hnames.2
  · obtain ⟨other, hother, hitem⟩ := List.mem_flatMap.mp hitem
    cases hresolve : resolve report prepared other with
    | error finding =>
      -- an entry of that identifier is matched
      rw [breaksOf_of_error hresolve, List.mem_singleton] at hitem
      have hid : other.endToEndId = some e2e :=
        (resolve_eq_error hresolve).1.symm.trans (hitem ▸ hnames.1)
      rw [resolve_eq_ok_iff.mpr ⟨hid, haddresses⟩] at hresolve
      cases hresolve
    | ok resolved =>
      obtain ⟨hid, haddresses'⟩ := resolve_eq_ok_iff.mp hresolve
      have hbreaks := breaksOf_of_ok (known.getD .empty) hresolve fun hbad =>
        hcomparable ⟨other, hother, hbad⟩
      have hnamed := (finding_of_mem_entryBreaks hbreaks hitem).1
      have he2e : resolved.1 = e2e := Option.some.inj (hnamed.1.symm.trans hnames.1)
      have hcode : other.statusCode = code := Option.some.inj (hnamed.2.symm.trans hnames.2)
      rw [he2e] at hid haddresses' hbreaks
      rw [← haddresses'.unique haddresses]
      exact ⟨other, hother, hid, hcode,
        (entryBreaks_ne_nil hbreaks).mp (List.ne_nil_of_mem hitem)⟩

/-- Where the report is traceable, every entry comes out. -/
theorem accountedFor_entry (htraceable : Traceable report prepared known) {found : ReadbackMatch}
    (hfound : reconcile report prepared known = .ok found) {entry : StatusEntry}
    (hentry : entry ∈ report.entries) : AccountedFor found (.ok entry) := by
  obtain ⟨hmatched, hbreaks⟩ := reconcile_found hfound
  have hmem : ∀ other ∈ report.entries, ∀ item ∈ breaksOf report prepared (known.getD .empty) other,
      item ∈ found.breaks := by
    intro other hother item hitem
    rw [hbreaks]
    exact List.mem_append_right _ (List.mem_flatMap.mpr ⟨other, hother, hitem⟩)
  cases hresolve : resolve report prepared entry with
  | error finding =>
    refine .inr ⟨finding, hmem entry hentry finding ?_, resolve_eq_error hresolve⟩
    rw [breaksOf_of_error hresolve]
    exact List.mem_singleton_self finding
  | ok resolved =>
    obtain ⟨hid, haddresses⟩ := resolve_eq_ok_iff.mp hresolve
    obtain ⟨last, hlast, hstatus⟩ | ⟨other, hother, hid', hcode, hremarkable⟩ :=
      htraceable.kept entry hentry _ _ hid haddresses
    · refine .inl ⟨_, hid, ?_⟩
      rw [hmatched, get?_matchedPairs haddresses, hlast, ← hstatus]
      rfl
    · have hcomparable : ¬ Incomparable report prepared other := fun hbad =>
        not_incomparable_iff.mpr htraceable.comparable ⟨other, hother, hbad⟩
      have hother' := breaksOf_of_ok (known.getD .empty)
        (resolve_eq_ok_iff.mpr ⟨hid', haddresses⟩) hcomparable
      obtain ⟨item, hitem⟩ :=
        List.exists_mem_of_ne_nil _ ((entryBreaks_ne_nil hother').mpr hremarkable)
      have hnamed := (finding_of_mem_entryBreaks hother' hitem).1
      refine .inr ⟨item, hmem other hother item hitem, ?_, ?_⟩
      · rw [hnamed.1, hid]
      · rw [hnamed.2, hcode]

end Accounting

/-! ### A file that raises, and one that drops a settlement -/

/-- A block that reports a status of the instruction, and what else it holds. -/
def statusBlock (code : String) (others : List XmlElement) : XmlElement :=
  .group "TxInfAndSts" ([.leaf "TxSts" code, .leaf "OrgnlEndToEndId" "E2E-1"] ++ others)

/-- A report about the instruction's message. -/
def statusFile (blocks : List XmlElement) : XmlElement :=
  .group "Document" [.group
    (XmlElement.qualified "urn:iso:std:iso:20022:tech:xsd:pacs.002.001.14" "FIToFIPmtStsRpt")
    ([.group "GrpHdr" [.leaf "MsgId" "RPT-45", .leaf "CreDtTm" "2026-10-05T16:00:00Z"],
      .group "OrgnlGrpInfAndSts" [.leaf "OrgnlMsgId" "MSG-1"]] ++ blocks)]

/-- An echoed amount that is a signalling NaN. -/
def signallingAmount : XmlElement :=
  .group "OrgnlTxRef" [.element "IntrBkSttlmAmt" [("Ccy", "USD")] (some "sNaN") []]

end Atreides
