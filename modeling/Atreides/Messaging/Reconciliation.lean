import Atreides.Messaging.Readback

/-!
# Reconciling a report in one call or in two

A report's entries can arrive in one file or in two. Reconciling them in one call should
find what reconciling the first file and then the second finds, once the statuses the first
one established are known. The matched statuses always agree. The breaks agree unless an
entry of the second file moves against a status that only the first file established.

## Main definitions

* `findings` — what one entry contributes, apart from the accumulators
* `inOneCall`, `inTwoCalls` — the two ways to reconcile a report
* `MovesForward` — a status that raises no progression break

## Main results

* `reconcile_eq` — a reconciliation collects what its entries contribute
* `one_call_eq_two_calls_iff` — exactly when one call and two agree
-/

namespace Atreides

/-! ## What one entry contributes -/

/-- The statuses and the breaks one entry contributes. -/
def findings (report : StatusReport) (prepared : List CashLegInstruction)
    (prior : Dict String SettlementStatus) (entry : StatusEntry) :
    Outcome (List (String × SettlementStatus) × List ReadbackBreak) :=
  match resolve report prepared entry with
  | .error finding => .ok ([], [finding])
  | .ok (e2e, instruction) => do
    let breaks ← entryBreaks entry e2e instruction (prior.get? e2e)
    .ok ([(e2e, entry.status)], breaks)

/-- The identifier and status an entry matches, if it resolves to an instruction. -/
def matchedPair (report : StatusReport) (prepared : List CashLegInstruction)
    (entry : StatusEntry) : Option (String × SettlementStatus) :=
  match resolve report prepared entry with
  | .error _ => none
  | .ok (e2e, _) => some (e2e, entry.status)

/-- The statuses a list of entries matches, in order. -/
def matchedPairs (report : StatusReport) (prepared : List CashLegInstruction)
    (entries : List StatusEntry) : List (String × SettlementStatus) :=
  entries.filterMap (matchedPair report prepared)

/-- The entry's echoed amount is a signalling NaN, with which nothing can be compared. -/
def Incomparable (report : StatusReport) (prepared : List CashLegInstruction)
    (entry : StatusEntry) : Prop :=
  (matchedPair report prepared entry).isSome ∧
    ∃ negative payload, entry.echoedAmount = some (.nan negative true payload)

/-- The amount of an entry can be compared unless it echoes a signalling NaN. -/
theorem amountBreaks_outcome (entry : StatusEntry) (e2e : String)
    (instruction : CashLegInstruction) :
    ((∃ negative payload, entry.echoedAmount = some (.nan negative true payload)) ∧
        amountBreaks entry e2e instruction = .error .invalidOperation) ∨
      ((¬ ∃ negative payload, entry.echoedAmount = some (.nan negative true payload)) ∧
        ∃ breaks, amountBreaks entry e2e instruction = .ok breaks) := by
  obtain ⟨amount, hamount⟩ := instruction.amount_finite
  have hcompare : ∀ echoed : Decimal, (∃ negative payload, echoed = .nan negative true payload) ∨
      ∃ same, Decimal.eq echoed instruction.amount = .ok same := by
    rw [hamount]
    rintro (d | negative | ⟨negative, _ | _, payload⟩)
    · exact Or.inr ⟨_, rfl⟩
    · exact Or.inr ⟨_, rfl⟩
    · exact Or.inr ⟨_, rfl⟩
    · exact Or.inl ⟨negative, payload, rfl⟩
  unfold amountBreaks
  rcases entry.echoedAmount with _ | echoed
  · exact Or.inr ⟨by simp, [], rfl⟩
  · rcases hcompare echoed with ⟨negative, payload, rfl⟩ | ⟨same, hsame⟩
    · exact Or.inl ⟨⟨negative, payload, rfl⟩, rfl⟩
    · refine Or.inr ⟨?_, ?_⟩
      · rintro ⟨negative, payload, heq⟩
        cases heq
        cases hsame
      · dsimp only
        rw [hsame]
        exact ⟨_, rfl⟩

/-- What an entry contributes apart from its progression: none of it depends on what was
established before. -/
def standingBreaks (entry : StatusEntry) (e2e : String) (instruction : CashLegInstruction) :
    Outcome (List ReadbackBreak) := do
  let amounts ← amountBreaks entry e2e instruction
  .ok (statusBreaks entry e2e ++ amounts ++ currencyBreaks entry e2e instruction)

theorem entryBreaks_eq (entry : StatusEntry) (e2e : String) (instruction : CashLegInstruction)
    (prior : Option SettlementStatus) :
    entryBreaks entry e2e instruction prior =
      (standingBreaks entry e2e instruction >>= fun standing =>
        .ok (standing ++ progressionBreak entry e2e prior)) := by
  unfold entryBreaks standingBreaks
  cases amountBreaks entry e2e instruction <;> rfl

/-! ## The loop -/

variable {report : StatusReport} {prepared : List CashLegInstruction}
variable {prior : Dict String SettlementStatus}

/-- The breaks of an entry that resolves to no instruction, or can be compared. -/
theorem findings_cases (report : StatusReport) (prepared : List CashLegInstruction)
    (entry : StatusEntry) :
    (Incomparable report prepared entry ∧
        ∀ prior, findings report prepared prior entry = .error .invalidOperation) ∨
      (¬ Incomparable report prepared entry ∧
        ((∃ finding, resolve report prepared entry = .error finding ∧
            ∀ prior, findings report prepared prior entry = .ok ([], [finding])) ∨
          ∃ e2e instruction standing, resolve report prepared entry = .ok (e2e, instruction) ∧
            standingBreaks entry e2e instruction = .ok standing ∧
              ∀ prior : Dict String SettlementStatus, findings report prepared prior entry =
                .ok ([(e2e, entry.status)],
                  standing ++ progressionBreak entry e2e (prior.get? e2e)))) := by
  unfold Incomparable findings matchedPair
  rcases hresolve : resolve report prepared entry with finding | ⟨e2e, instruction⟩
  · exact Or.inr ⟨by simp, Or.inl ⟨finding, rfl, fun _ => rfl⟩⟩
  · rcases amountBreaks_outcome entry e2e instruction with ⟨hnan, herr⟩ | ⟨hnan, breaks, hok⟩
    · refine Or.inl ⟨⟨by simp, hnan⟩, fun prior => ?_⟩
      simp [entryBreaks, herr]
    · refine Or.inr ⟨fun h => hnan h.2, Or.inr ⟨e2e, instruction, _, rfl,
        by simp [standingBreaks, hok]; rfl, fun prior => ?_⟩⟩
      simp [entryBreaks, hok]

/-- One turn of the loop adds what the entry contributes. -/
theorem reconcileEntry_eq (matched : Dict String SettlementStatus) (breaks : List ReadbackBreak)
    (entry : StatusEntry) :
    reconcileEntry report prepared prior (matched, breaks) entry =
      (findings report prepared prior entry >>= fun found =>
        .ok (matched.setAll found.1, breaks ++ found.2)) := by
  unfold reconcileEntry findings
  rcases resolve report prepared entry with finding | ⟨e2e, instruction⟩
  · rfl
  · dsimp only
    rcases entryBreaks entry e2e instruction (prior.get? e2e) with e | found
    · rfl
    · rfl

/-- The loop collects what the entries contribute. -/
theorem loop_eq (entries : List StatusEntry) (matched : Dict String SettlementStatus)
    (breaks : List ReadbackBreak) :
    Outcome.foldSteps (reconcileEntry report prepared prior) (matched, breaks) entries =
      (Outcome.collect (findings report prepared prior) entries >>= fun found =>
        .ok (matched.setAll (found.flatMap Prod.fst), breaks ++ found.flatMap Prod.snd)) := by
  induction entries generalizing matched breaks with
  | nil => simp
  | cons entry rest ih =>
    rw [Outcome.foldSteps_cons, Outcome.collect, reconcileEntry_eq]
    rcases findings report prepared prior entry with e | ⟨pairs, found⟩
    · rfl
    · simp only [Outcome.ok_bind, ih]
      rcases Outcome.collect (findings report prepared prior) rest with e | more
      · rfl
      · simp [Dict.setAll_append]

/-- A reconciliation collects what its entries contribute. -/
theorem reconcile_eq (report : StatusReport) (prepared : List CashLegInstruction)
    (known : Option (Dict String SettlementStatus)) :
    reconcile report prepared known =
      (Outcome.collect (findings report prepared (known.getD .empty)) report.entries >>=
        fun found => .ok
          { report
            matched := .ofPairs (found.flatMap Prod.fst)
            breaks := report.malformed.map (malformedBreak report) ++
              found.flatMap Prod.snd }) := by
  unfold reconcile
  simp only [loop_eq]
  cases Outcome.collect (findings report prepared (known.getD .empty)) report.entries <;> rfl

/-- The pairs a comparable list of entries matches do not depend on what was known. -/
theorem matched_of_collect {entries : List StatusEntry}
    {found : List (List (String × SettlementStatus) × List ReadbackBreak)}
    (h : Outcome.collect (findings report prepared prior) entries = .ok found) :
    found.flatMap Prod.fst = matchedPairs report prepared entries := by
  induction entries generalizing found with
  | nil =>
    cases h
    rfl
  | cons entry rest ih =>
    obtain ⟨head, tail, hhead, htail, rfl⟩ := Outcome.collect_cons_eq_ok.mp h
    rw [List.flatMap_cons, ih htail, matchedPairs, matchedPairs, List.filterMap_cons]
    rcases findings_cases report prepared entry with
      ⟨-, herr⟩ | ⟨-, ⟨finding, hresolve, hok⟩ | ⟨e2e, instruction, standing, hresolve, -, hok⟩⟩
    · rw [herr] at hhead
      cases hhead
    · rw [hok] at hhead
      cases hhead
      simp [matchedPair, hresolve]
    · rw [hok] at hhead
      cases hhead
      simp [matchedPair, hresolve]

/-! ## Progression -/

/-- A status that does not move against what was established: nothing was, or the same, or
something less far along. -/
def MovesForward (prior : Option SettlementStatus) (status : SettlementStatus) : Prop :=
  ∀ established ∈ prior, established = status ∨
    established.matchedStatusOrder < status.matchedStatusOrder

instance (prior : Option SettlementStatus) (status : SettlementStatus) :
    Decidable (MovesForward prior status) := by
  unfold MovesForward
  infer_instance

theorem progressionBreak_eq_nil_iff {entry : StatusEntry} {e2e : String}
    {prior : Option SettlementStatus} :
    progressionBreak entry e2e prior = [] ↔ MovesForward prior entry.status := by
  rcases prior with _ | established
  · simp [progressionBreak, MovesForward]
  have hsettled : established = .settled → established ≠ entry.status →
      ¬ established.matchedStatusOrder < entry.status.matchedStatusOrder := by
    rintro rfl -
    cases entry.status <;> decide
  simp only [progressionBreak, MovesForward, Option.mem_def, Option.some.injEq, forall_eq']
  split_ifs with hsame hterminal hback hequal
  · simp [hsame]
  · simpa [hsame] using hsettled hterminal hsame
  · refine ⟨False.elim, ?_⟩
    rintro (heq | hlt)
    · exact absurd heq hsame
    · omega
  · refine ⟨False.elim, ?_⟩
    rintro (heq | hlt)
    · exact absurd heq hsame
    · omega
  · exact ⟨fun _ => Or.inr (by omega), fun _ => rfl⟩

theorem value_no_space (status : SettlementStatus) : ' ' ∉ status.value.toList := by
  cases status <;> decide

theorem value_injective {a b : SettlementStatus} (h : a.value = b.value) : a = b := by
  revert h
  cases a <;> cases b <;> decide

/-- What a progression break says about the status it moved against. -/
theorem mem_progressionBreak {entry : StatusEntry} {e2e : String} {prior : SettlementStatus}
    {item : ReadbackBreak} (h : item ∈ progressionBreak entry e2e (some prior)) :
    item.endToEndId = some e2e ∧
      ((prior = .settled ∧ item.code = .statusRegression ∧ ∃ rest, item.detail =
          quoted e2e ++ (" was reported SETTLED and is now reported " ++ rest)) ∨
        (item.code = .statusRegression ∧ ∃ rest, rest.toList.head? = some ' ' ∧
          item.detail = quoted e2e ++ (" moved backward from " ++ (prior.value ++ rest))) ∨
        (item.code = .statusConflict ∧ ∃ rest, rest.toList.head? = some ' ' ∧
          item.detail = quoted e2e ++ (" carries two different statuses at the same progression " ++
            ("level: " ++ (prior.value ++ rest))))) := by
  simp only [progressionBreak] at h
  split_ifs at h with hsame hterminal hback hequal
  · cases h
  · rw [List.mem_singleton] at h
    subst h
    refine ⟨rfl, Or.inl ⟨hterminal, rfl, ?_⟩⟩
    simp only [String.append_assoc]
    exact ⟨_, rfl⟩
  · rw [List.mem_singleton] at h
    subst h
    refine ⟨rfl, Or.inr (Or.inl ⟨rfl, " to " ++ entry.status.value, ?_, ?_⟩)⟩
    · simp [String.toList_append]
    · simp only [String.append_assoc]
  · rw [List.mem_singleton] at h
    subst h
    refine ⟨rfl, Or.inr (Or.inr ⟨rfl, " and " ++ (entry.status.value ++
      ". Usually a duplicate or crossed message rather than a real reversal"), ?_, ?_⟩)⟩
    · simp [String.toList_append]
    · simp only [String.append_assoc]
  · cases h

/-- One progression break does not arise against two different statuses. -/
theorem prior_eq_of_mem_progressionBreak {entry entry' : StatusEntry} {e2e : String}
    {prior prior' : SettlementStatus} {item : ReadbackBreak}
    (h : item ∈ progressionBreak entry e2e (some prior))
    (h' : item ∈ progressionBreak entry' e2e (some prior')) : prior = prior' := by
  obtain ⟨-, hcases⟩ := mem_progressionBreak h
  obtain ⟨-, hcases'⟩ := mem_progressionBreak h'
  rcases hcases with ⟨hset, hcode, rest, hdetail⟩ | ⟨hcode, rest, hrest, hdetail⟩ |
      ⟨hcode, rest, hrest, hdetail⟩ <;>
    rcases hcases' with ⟨hset', hcode', rest', hdetail'⟩ | ⟨hcode', rest', hrest', hdetail'⟩ |
      ⟨hcode', rest', hrest', hdetail'⟩
  · exact hset.trans hset'.symm
  · -- the two regression texts part after the identifier
    have htext := congrArg String.toList (hdetail.symm.trans hdetail')
    simp [String.toList_append] at htext
  · rw [hcode] at hcode'
    cases hcode'
  · have htext := congrArg String.toList (hdetail.symm.trans hdetail')
    simp [String.toList_append] at htext
  · have htext := hdetail.symm.trans hdetail'
    rw [String.append_right_inj, String.append_right_inj] at htext
    exact value_injective
      (word_eq_of_append (value_no_space prior) (value_no_space prior') hrest hrest' htext)
  · rw [hcode] at hcode'
    cases hcode'
  · rw [hcode] at hcode'
    cases hcode'
  · rw [hcode] at hcode'
    cases hcode'
  · have htext := hdetail.symm.trans hdetail'
    rw [String.append_right_inj, String.append_right_inj, String.append_right_inj] at htext
    exact value_injective
      (word_eq_of_append (value_no_space prior) (value_no_space prior') hrest hrest' htext)

/-! ## One call or two -/

/-- The report with other entries. -/
def StatusReport.carrying (report : StatusReport) (entries : List StatusEntry)
    (malformed : List MalformedEntry) : StatusReport :=
  { report with entries, malformed }

@[simp] theorem carrying_entries (entries : List StatusEntry) (malformed : List MalformedEntry) :
    (report.carrying entries malformed).entries = entries := rfl

@[simp] theorem carrying_malformed (entries : List StatusEntry)
    (malformed : List MalformedEntry) :
    (report.carrying entries malformed).malformed = malformed := rfl

@[simp] theorem findings_carrying (entries : List StatusEntry) (malformed : List MalformedEntry) :
    findings (report.carrying entries malformed) prepared prior =
      findings report prepared prior := rfl

@[simp] theorem malformedBreak_carrying (entries : List StatusEntry)
    (malformed : List MalformedEntry) :
    malformedBreak (report.carrying entries malformed) = malformedBreak report := rfl

/-- The matched statuses and the breaks of one reconciliation. -/
def inOneCall (report : StatusReport) (prepared : List CashLegInstruction)
    (known : Option (Dict String SettlementStatus)) :
    Outcome (Dict String SettlementStatus × List ReadbackBreak) := do
  let found ← reconcile report prepared known
  .ok (found.matched, found.breaks)

/-- The matched statuses and the breaks of two reconciliations, the first of the entries `a`
and the second of the entries `b`, knowing what the first one matched. The entries that could
not be read are in the first report. -/
def inTwoCalls (report : StatusReport) (prepared : List CashLegInstruction)
    (known : Option (Dict String SettlementStatus)) (a b : List StatusEntry) :
    Outcome (Dict String SettlementStatus × List ReadbackBreak) := do
  let first ← inOneCall (report.carrying a report.malformed) prepared known
  let second ← inOneCall (report.carrying b []) prepared
    (some ((known.getD .empty).update first.1))
  .ok (first.1.update second.1, first.2 ++ second.2)

theorem inOneCall_eq (report : StatusReport) (prepared : List CashLegInstruction)
    (known : Option (Dict String SettlementStatus)) :
    inOneCall report prepared known =
      (Outcome.collect (findings report prepared (known.getD .empty)) report.entries >>=
        fun found => .ok (.ofPairs (found.flatMap Prod.fst),
          report.malformed.map (malformedBreak report) ++ found.flatMap Prod.snd)) := by
  rw [inOneCall, reconcile_eq]
  cases Outcome.collect (findings report prepared (known.getD .empty)) report.entries <;> rfl

/-- The statuses established once the entries `a` are known. -/
def establishedAfter (report : StatusReport) (prepared : List CashLegInstruction)
    (known : Option (Dict String SettlementStatus)) (a : List StatusEntry) :
    Dict String SettlementStatus :=
  (known.getD .empty).setAll (matchedPairs report prepared a)

/-- No entry of `b` moves against a status that `a` established or replaced. -/
def NoLateMovement (report : StatusReport) (prepared : List CashLegInstruction)
    (known : Option (Dict String SettlementStatus)) (a b : List StatusEntry) : Prop :=
  ∀ entry ∈ b, ∀ pair ∈ matchedPair report prepared entry,
    (known.getD .empty).get? pair.1 = (establishedAfter report prepared known a).get? pair.1 ∨
      (MovesForward ((known.getD .empty).get? pair.1) pair.2 ∧
        MovesForward ((establishedAfter report prepared known a).get? pair.1) pair.2)

theorem collect_append {α β : Type} (f : α → Outcome β) (xs ys : List α) :
    Outcome.collect f (xs ++ ys) =
      (Outcome.collect f xs >>= fun found => Outcome.collect f ys >>= fun more =>
        .ok (found ++ more)) := by
  induction xs with
  | nil => cases h : Outcome.collect f ys <;> simp [h]
  | cons x xs ih =>
    simp only [List.cons_append, Outcome.collect, ih]
    cases f x with
    | error e => rfl
    | ok b =>
      cases Outcome.collect f xs with
      | error e => rfl
      | ok found => cases Outcome.collect f ys <;> rfl

/-- A list with an incomparable entry raises, and no other list does. -/
theorem collect_findings_cases (report : StatusReport) (prepared : List CashLegInstruction)
    (entries : List StatusEntry) :
    ((∃ entry ∈ entries, Incomparable report prepared entry) ∧ ∀ prior,
        Outcome.collect (findings report prepared prior) entries = .error .invalidOperation) ∨
      ((¬ ∃ entry ∈ entries, Incomparable report prepared entry) ∧ ∀ prior,
        ∃ found, Outcome.collect (findings report prepared prior) entries = .ok found) := by
  induction entries with
  | nil => exact Or.inr ⟨by simp, fun _ => ⟨[], rfl⟩⟩
  | cons entry rest ih =>
    have hexists : (∃ other ∈ entry :: rest, Incomparable report prepared other) ↔
        Incomparable report prepared entry ∨
          ∃ other ∈ rest, Incomparable report prepared other := by
      simp
    rw [hexists]
    simp only [Outcome.collect]
    rcases findings_cases report prepared entry with ⟨hbad, herr⟩ | ⟨hgood, hok⟩
    · exact Or.inl ⟨Or.inl hbad, fun prior => by rw [herr]; rfl⟩
    · have hfound : ∀ prior, ∃ found, findings report prepared prior entry = .ok found := by
        rcases hok with ⟨finding, -, hok⟩ | ⟨e2e, instruction, standing, -, -, hok⟩
        · exact fun prior => ⟨_, hok prior⟩
        · exact fun prior => ⟨_, hok prior⟩
      rcases ih with ⟨hbad, herr⟩ | ⟨hgood', hok'⟩
      · refine Or.inl ⟨Or.inr hbad, fun prior => ?_⟩
        obtain ⟨found, hf⟩ := hfound prior
        rw [hf, herr]
        rfl
      · refine Or.inr ⟨fun h => h.elim hgood hgood', fun prior => ?_⟩
        obtain ⟨found, hf⟩ := hfound prior
        obtain ⟨more, hm⟩ := hok' prior
        exact ⟨found :: more, by rw [hf, hm]; rfl⟩

/-- The breaks a comparable entry contributes against the statuses `prior`. -/
def breaksOf (report : StatusReport) (prepared : List CashLegInstruction)
    (prior : Dict String SettlementStatus) (entry : StatusEntry) : List ReadbackBreak :=
  match findings report prepared prior entry with
  | .ok found => found.2
  | .error _ => []

theorem breaks_of_collect {entries : List StatusEntry}
    {found : List (List (String × SettlementStatus) × List ReadbackBreak)}
    (h : Outcome.collect (findings report prepared prior) entries = .ok found) :
    found.flatMap Prod.snd = entries.flatMap (breaksOf report prepared prior) := by
  induction entries generalizing found with
  | nil =>
    cases h
    rfl
  | cons entry rest ih =>
    obtain ⟨head, tail, hhead, htail, rfl⟩ := Outcome.collect_cons_eq_ok.mp h
    rw [List.flatMap_cons, List.flatMap_cons, ih htail, breaksOf, hhead]

/-- One call and two match the same statuses; they find the same breaks when the entries of
the second report contribute the same breaks against what was known before and after. -/
theorem one_call_eq_two_calls_iff_breaks (report : StatusReport)
    (prepared : List CashLegInstruction) (known : Option (Dict String SettlementStatus))
    (a b : List StatusEntry) :
    inOneCall (report.carrying (a ++ b) report.malformed) prepared known =
        inTwoCalls report prepared known a b ↔
      (∃ entry ∈ a ++ b, Incomparable report prepared entry) ∨
        b.flatMap (breaksOf report prepared (known.getD .empty)) =
          b.flatMap (breaksOf report prepared (establishedAfter report prepared known a)) := by
  simp only [inTwoCalls, inOneCall_eq, carrying_entries, carrying_malformed, findings_carrying,
    malformedBreak_carrying, collect_append]
  rcases collect_findings_cases report prepared a with ⟨⟨entry, hin, hbad⟩, herr⟩ | ⟨hgood, hok⟩
  · rw [herr]
    exact ⟨fun _ => Or.inl ⟨entry, List.mem_append_left b hin, hbad⟩, fun _ => rfl⟩
  obtain ⟨first, hfirst⟩ := hok (known.getD .empty)
  have hmatched : (known.getD Dict.empty).update (Dict.ofPairs (first.flatMap Prod.fst)) =
      establishedAfter report prepared known a := by
    rw [Dict.update_ofPairs, matched_of_collect hfirst, establishedAfter]
  simp only [hfirst, Outcome.ok_bind, hmatched, Option.getD_some]
  rcases collect_findings_cases report prepared b with
    ⟨⟨entry, hin, hbad⟩, herr⟩ | ⟨hgood', hok'⟩
  · rw [herr, herr]
    exact ⟨fun _ => Or.inl ⟨entry, List.mem_append_right a hin, hbad⟩, fun _ => rfl⟩
  obtain ⟨before, hbefore⟩ := hok' (known.getD .empty)
  obtain ⟨afterwards, hafter⟩ := hok' (establishedAfter report prepared known a)
  have hpairs : before.flatMap Prod.fst = afterwards.flatMap Prod.fst := by
    rw [matched_of_collect hbefore, matched_of_collect hafter]
  have hnone : ¬ ∃ entry ∈ a ++ b, Incomparable report prepared entry := by
    rintro ⟨entry, hin, hbad⟩
    rcases List.mem_append.mp hin with h | h
    · exact hgood ⟨entry, h, hbad⟩
    · exact hgood' ⟨entry, h, hbad⟩
  have hdict : Dict.ofPairs (first.flatMap Prod.fst ++ before.flatMap Prod.fst) =
      (Dict.ofPairs (first.flatMap Prod.fst)).update
        (Dict.ofPairs (afterwards.flatMap Prod.fst)) := by
    rw [Dict.update_ofPairs, hpairs, Dict.ofPairs, Dict.setAll_append]
    rfl
  simp only [hbefore, hafter, Outcome.ok_bind, hnone, false_or, Except.ok.injEq, Prod.mk.injEq,
    hdict, true_and, List.flatMap_append, List.map_nil, List.nil_append, List.append_assoc]
  rw [List.append_cancel_left_eq, List.append_cancel_left_eq, breaks_of_collect hbefore,
    breaks_of_collect hafter]

/-- A break about how a status moved. -/
def IsProgression (item : ReadbackBreak) : Prop :=
  item.code = .statusRegression ∨ item.code = .statusConflict

theorem isProgression_of_mem {entry : StatusEntry} {e2e : String}
    {established : Option SettlementStatus} {item : ReadbackBreak}
    (h : item ∈ progressionBreak entry e2e established) : IsProgression item := by
  rcases established with _ | status
  · cases h
  · rcases (mem_progressionBreak h).2 with ⟨-, hcode, -⟩ | ⟨hcode, -⟩ | ⟨hcode, -⟩
    · exact Or.inl hcode
    · exact Or.inl hcode
    · exact Or.inr hcode

/-- Nothing but the progression of a matched entry raises a progression break. -/
theorem not_isProgression_of_mem_standing {entry : StatusEntry} {e2e : String}
    {instruction : CashLegInstruction} {standing : List ReadbackBreak} {item : ReadbackBreak}
    (hstanding : standingBreaks entry e2e instruction = .ok standing) (h : item ∈ standing) :
    ¬ IsProgression item := by
  rw [standingBreaks, Outcome.bind_eq_ok] at hstanding
  obtain ⟨amounts, hamounts, heq⟩ := hstanding
  cases heq
  rw [List.mem_append, List.mem_append] at h
  unfold IsProgression
  rcases h with (h | h) | h
  · unfold statusBreaks at h
    split at h <;> simp at h <;> simp [h]
  · unfold amountBreaks at hamounts
    split at hamounts
    · cases hamounts
      cases h
    · rw [Outcome.bind_eq_ok] at hamounts
      obtain ⟨same, -, heq⟩ := hamounts
      cases heq
      split_ifs at h
      · cases h
      · rw [List.mem_singleton] at h
        simp [h]
  · unfold currencyBreaks at h
    split at h
    · cases h
    · split_ifs at h
      · cases h
      · rw [List.mem_singleton] at h
        simp [h]

theorem not_isProgression_of_resolve {entry : StatusEntry} {finding : ReadbackBreak}
    (h : resolve report prepared entry = .error finding) : ¬ IsProgression finding := by
  unfold IsProgression
  simp only [resolve] at h
  split at h
  · cases h
    simp [unidentifiedBreak]
  · split at h
    · cases h
      simp [unsolicitedBreak]
    · split_ifs at h
      cases h
      simp [disagreementBreak]

/-- The progression breaks of a comparable entry are those of its matched status. -/
theorem mem_breaksOf_iff {entry : StatusEntry} {item : ReadbackBreak}
    (hgood : ¬ Incomparable report prepared entry) (hitem : IsProgression item) :
    item ∈ breaksOf report prepared prior entry ↔
      ∃ pair ∈ matchedPair report prepared entry,
        item ∈ progressionBreak entry pair.1 (prior.get? pair.1) := by
  rcases findings_cases report prepared entry with ⟨hbad, -⟩ | ⟨-, ⟨finding, hresolve, hok⟩ |
    ⟨e2e, instruction, standing, hresolve, hstanding, hok⟩⟩
  · exact absurd hbad hgood
  · have hnot := not_isProgression_of_resolve hresolve
    simp only [breaksOf, hok, matchedPair, hresolve, List.mem_singleton]
    constructor
    · rintro rfl
      exact absurd hitem hnot
    · rintro ⟨pair, hpair, -⟩
      cases hpair
  · simp only [breaksOf, hok, matchedPair, hresolve, List.mem_append]
    constructor
    · rintro (h | h)
      · exact absurd hitem (not_isProgression_of_mem_standing hstanding h)
      · exact ⟨_, rfl, h⟩
    · rintro ⟨pair, hpair, h⟩
      cases hpair
      exact Or.inr h

/-- Where the statuses of two histories differ, an entry that moves against one of them
raises a break the other history does not. -/
theorem movesForward_of_flatMap_eq {prior' : Dict String SettlementStatus}
    {entries : List StatusEntry}
    (hgood : ∀ entry ∈ entries, ¬ Incomparable report prepared entry)
    (h : entries.flatMap (breaksOf report prepared prior) =
      entries.flatMap (breaksOf report prepared prior')) {entry : StatusEntry}
    (hentry : entry ∈ entries) {pair : String × SettlementStatus}
    (hpair : pair ∈ matchedPair report prepared entry)
    (hne : prior.get? pair.1 ≠ prior'.get? pair.1) :
    MovesForward (prior.get? pair.1) entry.status := by
  rw [← @progressionBreak_eq_nil_iff entry pair.1, List.eq_nil_iff_forall_not_mem]
  intro item hitem
  have hprogression := isProgression_of_mem hitem
  have hleft : item ∈ entries.flatMap (breaksOf report prepared prior) :=
    List.mem_flatMap.mpr ⟨entry, hentry,
      (mem_breaksOf_iff (hgood entry hentry) hprogression).mpr ⟨pair, hpair, hitem⟩⟩
  rw [h] at hleft
  obtain ⟨entry', hentry', hmem⟩ := List.mem_flatMap.mp hleft
  obtain ⟨pair', -, hitem'⟩ := (mem_breaksOf_iff (hgood entry' hentry') hprogression).mp hmem
  rcases hprior : prior.get? pair.1 with _ | established
  · rw [hprior] at hitem
    cases hitem
  rcases hprior' : prior'.get? pair'.1 with _ | established'
  · rw [hprior'] at hitem'
    cases hitem'
  rw [hprior] at hitem
  rw [hprior'] at hitem'
  have hid : pair.1 = pair'.1 := by
    have := (mem_progressionBreak hitem).1.symm.trans (mem_progressionBreak hitem').1
    exact Option.some.inj this
  rw [← hid] at hitem'
  have hsame := prior_eq_of_mem_progressionBreak hitem hitem'
  rw [← hid] at hprior'
  exact hne (by rw [hprior, hprior', hsame])

theorem matchedPair_status {entry : StatusEntry} {pair : String × SettlementStatus}
    (h : pair ∈ matchedPair report prepared entry) : pair.2 = entry.status := by
  unfold matchedPair at h
  split at h
  · cases h
  · cases h
    rfl

/-- The breaks of the second report depend on what the first one established exactly when
one of its entries moves against it. -/
theorem flatMap_breaks_eq_iff {known : Option (Dict String SettlementStatus)}
    {a b : List StatusEntry} (hgood : ∀ entry ∈ b, ¬ Incomparable report prepared entry) :
    b.flatMap (breaksOf report prepared (known.getD .empty)) =
        b.flatMap (breaksOf report prepared (establishedAfter report prepared known a)) ↔
      NoLateMovement report prepared known a b := by
  constructor
  · intro h entry hentry pair hpair
    rw [matchedPair_status hpair]
    by_cases hsame : (known.getD .empty).get? pair.1 =
        (establishedAfter report prepared known a).get? pair.1
    · exact Or.inl hsame
    · exact Or.inr ⟨movesForward_of_flatMap_eq hgood h hentry hpair hsame,
        movesForward_of_flatMap_eq hgood h.symm hentry hpair (Ne.symm hsame)⟩
  · intro h
    rw [List.flatMap_def, List.flatMap_def]
    congr 1
    refine List.map_congr_left fun entry hentry => ?_
    have hmove := h entry hentry
    rcases findings_cases report prepared entry with ⟨hbad, -⟩ | ⟨-, ⟨finding, -, hok⟩ |
      ⟨e2e, instruction, standing, hresolve, -, hok⟩⟩
    · exact absurd hbad (hgood entry hentry)
    · simp only [breaksOf, hok]
    · have hpair : matchedPair report prepared entry = some (e2e, entry.status) := by
        simp only [matchedPair, hresolve]
      simp only [breaksOf, hok]
      congr 1
      rcases hmove _ hpair with hsame | ⟨hbefore, hafter⟩
      · rw [hsame]
      · rw [progressionBreak_eq_nil_iff.mpr hbefore, progressionBreak_eq_nil_iff.mpr hafter]

/-- A report reconciled in one call gives what its two parts give in two calls exactly when
no entry of the second part moves against a status the first part established (or an entry
echoes an amount nothing compares with, and every call raises). -/
theorem one_call_eq_two_calls_iff (report : StatusReport) (prepared : List CashLegInstruction)
    (known : Option (Dict String SettlementStatus)) (a b : List StatusEntry) :
    inOneCall (report.carrying (a ++ b) report.malformed) prepared known =
        inTwoCalls report prepared known a b ↔
      (∃ entry ∈ a ++ b, Incomparable report prepared entry) ∨
        NoLateMovement report prepared known a b := by
  rw [one_call_eq_two_calls_iff_breaks]
  by_cases hbad : ∃ entry ∈ a ++ b, Incomparable report prepared entry
  · exact iff_of_true (Or.inl hbad) (Or.inl hbad)
  · refine or_congr_right (flatMap_breaks_eq_iff fun entry hentry h => hbad ?_)
    exact ⟨entry, List.mem_append_right a hentry, h⟩

/-! ### A settlement reported and withdrawn -/

/-- A prepared instruction of one hundred dollars. -/
def hundredDollars : CashLegInstruction where
  messageId := "MSG-1"
  endToEndId := "E2E-1"
  createdAt := .midnight (.of 2026 10 8)
  amount := .finite 100
  currency := "USD"
  debtor := { bicfi := "AAAAUS33" }
  creditor := { bicfi := "BBBBUS33" }
  settlementMethod := .clearingSystem
  sender := { bicfi := "AAAAUS33" }
  receiver := { bicfi := "BBBBUS33" }
  valid := by decide

/-- A report that names the instruction's message and carries no entry yet. -/
def emptyReport : StatusReport where
  messageId := "RPT-1"
  createdAt := "2026-10-05T12:00:00Z"
  namespaceUri := "urn:iso:std:iso:20022:tech:xsd:pacs.002.001.16"
  originalMessageId := some "MSG-1"
  originalMessageNameId := some "pacs.009.001.13"
  groupStatusCode := none
  entries := []

/-- One file that reports the instruction settled and then pending raises no break; two
files raise a regression. -/
theorem one_call_ne_two_calls :
    ¬ ∀ (report : StatusReport) (prepared : List CashLegInstruction)
        (known : Option (Dict String SettlementStatus)) (a b : List StatusEntry),
      inOneCall (report.carrying (a ++ b) report.malformed) prepared known =
        inTwoCalls report prepared known a b := by
  intro h
  have hsame := h emptyReport [hundredDollars] none
    [{ statusCode := "ACSC", status := .settled, endToEndId := some "E2E-1" }]
    [{ statusCode := "PDNG", status := .inProgress, endToEndId := some "E2E-1" }]
  exact absurd hsame (by decide)

end Atreides
