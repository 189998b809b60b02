import Atreides.Agents.Investigation

/-!
# Investigations and the order of the evidence

An investigation sorts its evidence by the instant, the source and the label. What differs in
nothing else stays in the order it was supplied in, and times with and without an offset cannot be
sorted at all. For a call, it is determined when its output is one output whatever the order of the
observations.

## Main definitions

* `Determined` — one output in any order, with all the evidence, that is a timeline where it should
  be
* `Sortable` — what the order of the evidence must not depend on

## Main results

* `assemble_of_order` — the output of a call whose observations can be sorted
* `determined_iff` — the output is determined exactly where the observations can be told apart
-/

namespace Atreides

namespace SettlementInvestigationAnalyst

variable {call : InvestigationCall} {observations ordered : List EvidenceItem}
  {gaps declared : List EvidenceGap}

/-! ## Sorted observations -/

theorem order_injective : Function.Injective EvidenceSource.order := by
  intro a b h
  exact (List.idxOf_inj (EvidenceSource.mem_expected a)).mp h

theorem sortKey_eq_iff {a b : EvidenceItem} : sortKey a = sortKey b ↔
    a.observedAt.instant = b.observedAt.instant ∧ a.source = b.source ∧ a.label = b.label := by
  rw [sortKey, sortKey, toLex_inj, Prod.mk.injEq, toLex_inj, Prod.mk.injEq, order_injective.eq_iff]

theorem instant_le_of_sortKey_le {a b : EvidenceItem} (h : sortKey a ≤ sortKey b) :
    a.observedAt.instant ≤ b.observedAt.instant := by
  obtain hlt | ⟨heq, -⟩ := Prod.Lex.toLex_le_toLex.mp h
  · exact hlt.le
  · exact heq.le

/-- The times of the items can be compared: all have an offset, or none has. -/
def Comparable (items : List EvidenceItem) : Prop :=
  (∀ item ∈ items, item.observedAt.utcOffset.isSome) ∨
    ∀ item ∈ items, item.observedAt.utcOffset.isNone

theorem Comparable.of_perm {items items' : List EvidenceItem} (h : Comparable items)
    (hperm : items.Perm items') : Comparable items' :=
  h.imp (fun haware item hitem => haware item (hperm.symm.subset hitem))
    fun hnaive item hitem => hnaive item (hperm.symm.subset hitem)

theorem order_eq_ok : order observations = .ok ordered ↔
    Comparable observations ∧ observations.insertionSort (sortKey · ≤ sortKey ·) = ordered := by
  rw [order]
  have hcondition : ((observations.all fun item => item.observedAt.utcOffset.isSome) ||
      (observations.all fun item => item.observedAt.utcOffset.isNone)) = true ↔
        Comparable observations := by
    rw [Bool.or_eq_true, List.all_eq_true, List.all_eq_true, Comparable]
  split_ifs with h
  · rw [Except.ok.injEq]
    exact ⟨fun heq => ⟨hcondition.mp h, heq⟩, fun heq => heq.2⟩
  · constructor
    · intro heq
      cases heq
    · rintro ⟨hcomparable, -⟩
      exact absurd (hcondition.mpr hcomparable) h

/-- Items in order have no item before the one it follows. -/
theorem validateChronological_of_sorted :
    ∀ {items : List EvidenceItem}, Comparable items →
      items.Pairwise (sortKey · ≤ sortKey ·) → validateChronological items = .ok () := by
  intro items
  induction items using validateChronological.induct with
  | case1 earlier later rest ih =>
    intro hcomparable hsorted
    have hkind : later.observedAt.utcOffset.isSome = earlier.observedAt.utcOffset.isSome := by
      obtain haware | hnaive := hcomparable
      · rw [haware later (by simp), haware earlier (by simp)]
      · rw [Option.isNone_iff_eq_none.mp (hnaive later (by simp)),
          Option.isNone_iff_eq_none.mp (hnaive earlier (by simp))]
    have hafter : ¬ later.observedAt.instant < earlier.observedAt.instant :=
      not_lt.mpr (instant_le_of_sortKey_le ((List.pairwise_cons.mp hsorted).1 later (by simp)))
    rw [validateChronological, Timestamp.isBefore, if_pos hkind, decide_eq_false hafter]
    apply ih
    · exact hcomparable.imp (fun h item hitem => h item (List.mem_cons_of_mem _ hitem))
        fun h item hitem => h item (List.mem_cons_of_mem _ hitem)
    · exact (List.pairwise_cons.mp hsorted).2
  | case2 items h =>
    intro _ _
    cases items with
    | nil => rfl
    | cons earlier rest =>
      cases rest with
      | nil => rfl
      | cons later rest => exact absurd rfl (h earlier later rest)

/-! ## The output of a call -/

/-- The gaps that escalate are those declared that do, and all unaccounted for. -/
theorem filter_escalates_eq_nil_iff :
    (gaps ++ unaccountedGaps ordered gaps).filter EvidenceGap.escalates = [] ↔
      (∀ gap ∈ gaps, gap.escalates = false) ∧ uncovered ordered gaps = [] := by
  rw [List.filter_append, List.append_eq_nil_iff, List.filter_eq_nil_iff, unaccountedGaps]
  apply and_congr
  · simp
  · constructor
    · intro h
      cases huncovered : uncovered ordered gaps with
      | nil => rfl
      | cons source rest =>
        rw [huncovered] at h
        exact absurd h (by simp [unaccountedGap, EvidenceGap.escalates])
    · intro h
      rw [h]
      rfl

theorem exists_createTimeline {base : InvestigationOutputBase} (hitems : ordered ≠ [])
    (hordered : validateChronological ordered = .ok ())
    (hescalates : gaps.filter EvidenceGap.escalates = []) (hcovered : uncovered ordered gaps = []) :
    ∃ timeline, EvidenceTimeline.create base ordered gaps = .ok timeline ∧
      timeline.items = ordered := by
  rw [EvidenceTimeline.create, dif_neg hitems]
  split
  · rename_i e herror
    rw [hordered] at herror
    cases herror
  · rw [dif_pos hescalates, dif_pos hcovered]
    exact ⟨_, rfl, rfl⟩

theorem exists_createEscalation {base : InvestigationOutputBase}
    {code : InvestigationDiscrepancyCode} {detail : String}
    (hcode : code ≠ .noEvidenceAssembled) (hordered : validateChronological ordered = .ok ())
    (hescalates : gaps.any EvidenceGap.escalates = true) :
    ∃ escalation, InvestigationEscalation.create base code detail gaps ordered = .ok escalation ∧
      escalation.partialTimeline = ordered := by
  have hgaps : gaps ≠ [] := by
    rintro rfl
    cases hescalates
  have hof : if code = .noEvidenceAssembled then ordered = []
      else gaps.any EvidenceGap.escalates = true := by
    rw [if_neg hcode]
    exact hescalates
  rw [InvestigationEscalation.create, dif_neg hgaps]
  split
  · rename_i e herror
    rw [hordered] at herror
    cases herror
  · rw [dif_pos hof]
    exact ⟨_, rfl, rfl⟩

/-- Ordered items have an output, which carries them. It is a timeline where there are items, no
declared gap escalates and every source is covered. -/
theorem exists_conclude (hordered : validateChronological ordered = .ok ()) :
    ∃ output, conclude call ordered (gaps ++ unaccountedGaps ordered gaps) = .ok output ∧
      output.items = ordered ∧ ((∃ timeline, output = .timeline timeline) ↔
        ordered ≠ [] ∧ (∀ gap ∈ gaps, gap.escalates = false) ∧ uncovered ordered gaps = []) := by
  rw [conclude]
  by_cases hempty : ordered = []
  · -- there is nothing to reconstruct, and always a gap to report
    subst hempty
    rw [if_pos rfl]
    have hgaps : (if gaps ++ unaccountedGaps [] gaps = [] then unaccountedGaps [] []
        else gaps ++ unaccountedGaps [] gaps) ≠ [] := by
      split_ifs with hnone
      · exact List.cons_ne_nil _ _
      · exact hnone
    rw [InvestigationEscalation.create, dif_neg hgaps]
    refine ⟨_, rfl, rfl, ?_⟩
    simp
  · rw [if_neg hempty]
    dsimp only
    by_cases hescalating :
        (gaps ++ unaccountedGaps ordered gaps).filter EvidenceGap.escalates = []
    · rw [if_neg (not_not.mpr hescalating)]
      obtain ⟨hdeclared, hcovered⟩ := filter_escalates_eq_nil_iff.mp hescalating
      have hall : uncovered ordered (gaps ++ unaccountedGaps ordered gaps) = [] := by
        rw [unaccountedGaps, hcovered, List.map_nil, List.append_nil]
        exact hcovered
      obtain ⟨timeline, hok, hitems⟩ :=
        exists_createTimeline hempty hordered hescalating hall
      rw [hok, Outcome.ok_bind]
      exact ⟨_, rfl, hitems, iff_of_true ⟨timeline, rfl⟩ ⟨hempty, hdeclared, hcovered⟩⟩
    · rw [if_pos hescalating]
      have hany : (gaps ++ unaccountedGaps ordered gaps).any EvidenceGap.escalates = true := by
        obtain ⟨gap, hgap⟩ := List.exists_mem_of_ne_nil _ hescalating
        exact List.any_eq_true.mpr ⟨gap, List.mem_filter.mp hgap⟩
      have hcode : classify ((gaps ++ unaccountedGaps ordered gaps).filter
          EvidenceGap.escalates) ≠ .noEvidenceAssembled := by
        rw [classify]
        split_ifs <;> decide
      obtain ⟨escalation, hok, hitems⟩ := exists_createEscalation hcode hordered hany
      rw [hok, Outcome.ok_bind]
      refine ⟨_, rfl, hitems, iff_of_false (by rintro ⟨timeline, h⟩; cases h) ?_⟩
      rintro ⟨-, hdeclared, hcovered⟩
      exact hescalating (filter_escalates_eq_nil_iff.mpr ⟨hdeclared, hcovered⟩)

/-! ## Determined outputs -/

/-- The observations can be compared, and those of one instant, source and label are one. -/
structure Sortable (observations : List EvidenceItem) : Prop where
  comparable : Comparable observations
  told_apart : ∀ a ∈ observations, ∀ b ∈ observations,
    a.observedAt.instant = b.observedAt.instant → a.source = b.source → a.label = b.label → a = b

/-- In every order of the observations the call assembles, and goes on to persist, one output. It
carries the observations, each as often as it was supplied, and is a timeline exactly where there is
one, every source is observed or declared, and no declared gap escalates. -/
def Determined (analyst : SettlementInvestigationAnalyst) (call : InvestigationCall) : Prop :=
  ∃ output, (∀ observations, call.observations.Perm observations →
      assemble (call.observing observations) = .ok output ∧
        analyst.run (call.observing observations) =
          analyst.persist output (call.now.getD call.clock) call.freshId) ∧
    output.items.Perm call.observations ∧
      ((∃ timeline, output = .timeline timeline) ↔ call.observations ≠ [] ∧
        (∀ source, source ∈ call.observations.map EvidenceItem.source ∨
          source ∈ call.gaps.map EvidenceGap.source) ∧
          ∀ gap ∈ call.gaps, gap.escalates = false)

theorem uncovered_eq_nil_iff {items : List EvidenceItem} : uncovered items gaps = [] ↔
    ∀ source, source ∈ items.map EvidenceItem.source ∨
      source ∈ gaps.map EvidenceGap.source := by
  rw [uncovered, List.filter_eq_nil_iff]
  constructor
  · intro h source
    have hsource := h source source.mem_expected
    rw [decide_eq_true_eq] at hsource
    tauto
  · intro h source _
    rw [decide_eq_true_eq]
    have hsource := h source
    tauto

/-- The output of a call whose observations can be sorted depends on what they are in order. -/
theorem assemble_of_order (hcomparable : Comparable call.observations) :
    ∃ output, assemble call = .ok output ∧
      output.items = call.observations.insertionSort (sortKey · ≤ sortKey ·) ∧
        ((∃ timeline, output = .timeline timeline) ↔ call.observations ≠ [] ∧
          (∀ source, source ∈ call.observations.map EvidenceItem.source ∨
            source ∈ call.gaps.map EvidenceGap.source) ∧
            ∀ gap ∈ call.gaps, gap.escalates = false) := by
  have htrans : IsTrans EvidenceItem (sortKey · ≤ sortKey ·) := ⟨fun _ _ _ => le_trans⟩
  have htotal : Std.Total (fun a b : EvidenceItem => sortKey a ≤ sortKey b) :=
    ⟨fun a b => le_total (sortKey a) (sortKey b)⟩
  have hperm := List.perm_insertionSort (sortKey · ≤ sortKey ·) call.observations
  have hordered := validateChronological_of_sorted (hcomparable.of_perm hperm.symm)
    (List.pairwise_insertionSort _ _)
  obtain ⟨output, hok, hitems, hkind⟩ := @exists_conclude call _ call.gaps hordered
  refine ⟨output, ?_, hitems, hkind.trans ?_⟩
  · rw [assemble, order_eq_ok.mpr ⟨hcomparable, rfl⟩]
    exact hok
  · -- what is sorted has the members of what was supplied
    rw [uncovered_eq_nil_iff]
    simp only [(hperm.map EvidenceItem.source).mem_iff]
    have hnil : call.observations.insertionSort (sortKey · ≤ sortKey ·) = [] ↔
        call.observations = [] := by
      rw [← List.length_eq_zero_iff, hperm.length_eq, List.length_eq_zero_iff]
    rw [ne_eq, hnil]
    tauto

/-- The output of a call is determined exactly where its observations can be told apart. -/
theorem determined_iff (analyst : SettlementInvestigationAnalyst) (call : InvestigationCall) :
    Determined analyst call ↔ Sortable call.observations := by
  have hkey : (∀ a ∈ call.observations, ∀ b ∈ call.observations, sortKey a = sortKey b → a = b) ↔
      ∀ a ∈ call.observations, ∀ b ∈ call.observations,
        a.observedAt.instant = b.observedAt.instant → a.source = b.source → a.label = b.label →
          a = b := by
    simp only [sortKey_eq_iff, and_imp]
  constructor
  · rintro ⟨output, hone, hitems, hkind⟩
    have hcomparable : ∀ observations, call.observations.Perm observations →
        Comparable observations := by
      intro observations hperm
      obtain ⟨ordered, hordered, -⟩ := Outcome.bind_eq_ok.mp (hone observations hperm).1
      exact (order_eq_ok.mp hordered).1
    refine ⟨hcomparable _ (List.Perm.refl _), hkey.mp (insertionSort_order_free_iff.mp ?_)⟩
    intro observations hperm
    have hsorted : ∀ observations, call.observations.Perm observations →
        observations.insertionSort (sortKey · ≤ sortKey ·) = output.items := by
      intro observations hperm
      obtain ⟨output', hok, hitems', -⟩ :=
        @assemble_of_order (call.observing observations) (hcomparable observations hperm)
      rw [(hone observations hperm).1] at hok
      cases hok
      exact hitems'.symm
    rw [hsorted observations hperm, hsorted _ (List.Perm.refl _)]
  · rintro ⟨hcomparable, htold⟩
    obtain ⟨output, hok, hitems, hkind⟩ := assemble_of_order hcomparable
    refine ⟨output, ?_, ?_, hkind⟩
    · intro observations hperm
      have hassemble : assemble (call.observing observations) = .ok output := by
        have hsorted := insertionSort_order_free_iff.mpr (hkey.mpr htold) observations hperm
        have horder : order observations = order call.observations := by
          rw [order_eq_ok.mpr ⟨hcomparable.of_perm hperm, rfl⟩, hsorted,
            order_eq_ok.mpr ⟨hcomparable, rfl⟩]
        rw [← hok, assemble, assemble]
        exact congrArg (fun ordered => ordered >>= fun ordered =>
          conclude call ordered (call.gaps ++ unaccountedGaps ordered call.gaps)) horder
      refine ⟨hassemble, ?_⟩
      rw [run, hassemble]
      rfl
    · rw [hitems]
      exact List.perm_insertionSort _ _

/-! ### Two amounts of one instant -/

/-- A reading of the funding state, at ten in the morning. -/
def fundingReading (amount : String) : EvidenceItem where
  source := .fundingState
  observedAt := Timestamp.utc (.of 2026 10 23) 36000000000
  label := "available_balance"
  value := amount
  provenance := "nostro statement"

/-- An analyst whose outputs are encoded as nothing. -/
def plainAnalyst : SettlementInvestigationAnalyst := ⟨fun _ => ""⟩

def investigatedId : Uuid := ⟨"00000000-0000-0000-0000-000000000055", by decide +kernel⟩

/-- A call that was given two readings of one instant, which differ. -/
def twoReadings : InvestigationCall where
  operationId := investigatedId
  taskId := ⟨"00000000-0000-0000-0000-000000000056", by decide +kernel⟩
  lineageStub := {
    operationId := investigatedId
    authorityTier := .t1
    authorityId := "operator-55"
    initiatedAt := Timestamp.midnight (.of 2026 10 23)
    preOperationStateHash :=
      ⟨"5555555555555555555555555555555555555555555555555555555555555555", by decide +kernel⟩
    caomMode_nonempty := caomModeDefault_ne_empty }
  observations := [fundingReading "100", fundingReading "250"]
  clock := Timestamp.utc (.of 2026 10 23) 43260000000
  freshId := ⟨"00000000-0000-0000-0000-000000000057", by decide +kernel⟩

/-- The two readings stay in the order they came in. -/
theorem determined_counterexample : ¬ Determined plainAnalyst twoReadings := by
  rintro ⟨output, hone, -⟩
  have hitems : ∀ observations, twoReadings.observations.Perm observations →
      Comparable observations →
        output.items = observations.insertionSort (sortKey · ≤ sortKey ·) := by
    intro observations hperm hcomparable
    obtain ⟨output', hok, hsorted, -⟩ :=
      @assemble_of_order (twoReadings.observing observations) hcomparable
    rw [(hone observations hperm).1] at hok
    cases hok
    exact hsorted
  have hfirst := hitems [fundingReading "100", fundingReading "250"] (List.Perm.refl _)
    (.inl (by decide))
  have hsecond := hitems [fundingReading "250", fundingReading "100"] (List.Perm.swap _ _ _)
    (.inl (by decide))
  have hsame := hfirst.symm.trans hsecond
  revert hsame
  decide +kernel

end SettlementInvestigationAnalyst

end Atreides
