import Atreides.Messaging.Receipt

/-!
# Sets of receipts

What a list of receipts is answered with depends on which receipts it holds, and not on their
order or on how often each was supplied.

## Main definitions

* `Agreeing` — the receipts of one event state one action
* `UsableReceipts` — what a set of receipts has to show

## Main results

* `assess_receipts` — a set passes exactly when it is usable, in any order, and more receipts
  never make it so
-/

namespace Atreides

variable {kernel : Kernel}

/-! ## Receipts that agree -/

/-- What the receipts of one event have to state alike. -/
def ReceiptFields.claim (fields : ReceiptFields) :
    ExternalAction × String × String × String × String :=
  (fields.action, fields.artifactDigest, fields.entitledMemberId, fields.messageId,
    fields.endToEndId)

/-- Any two receipts of one event state the same. -/
def Agreeing (receipts : List (ExternalActionReceipt kernel)) : Prop :=
  ∀ r ∈ receipts, ∀ s ∈ receipts, r.eventId = s.eventId → r.claim = s.claim

/-- Every receipt names the prepared artifact and was not observed before it, and those of one
event agree. -/
structure UsableReceipts (preparedArtifactDigest : Option String) (preparedAt : Option Timestamp)
    (receipts : List (ExternalActionReceipt kernel)) : Prop where
  prepared : ∃ digest prepared, preparedArtifactDigest = some digest ∧
    kernel.isDigest digest = true ∧ preparedAt = some prepared ∧ prepared.isUtc = true ∧
      ∀ receipt ∈ receipts, receipt.artifactDigest = digest ∧
        prepared.instant ≤ receipt.observationTime.instant
  agree : Agreeing receipts

section Assessment

variable {preparedArtifactDigest : Option String} {preparedAt : Option Timestamp}
  {receipts receipts' : List (ExternalActionReceipt kernel)}
  {receipt : ExternalActionReceipt kernel}

/-- A group disagrees when one of it does not state what the first one does. -/
theorem disagree_cons_iff {rest : List (ExternalActionReceipt kernel)} :
    disagree (receipt :: rest) = true ↔ ∃ other ∈ rest, other.claim ≠ receipt.claim := by
  simp only [disagree, List.any_eq_true, Bool.or_eq_true, decide_eq_true_eq,
    ReceiptFields.claim, ne_eq, Prod.mk.injEq]
  apply exists_congr
  intro other
  tauto

/-- A group disagrees when two of it state different things. -/
theorem disagree_iff : disagree receipts = true ↔
    ∃ r ∈ receipts, ∃ s ∈ receipts, r.claim ≠ s.claim := by
  cases receipts with
  | nil => simp [disagree]
  | cons first rest =>
    rw [disagree_cons_iff]
    constructor
    · rintro ⟨other, hother, hne⟩
      exact ⟨other, List.mem_cons_of_mem first hother, first, List.mem_cons_self, hne⟩
    · rintro ⟨r, hr, s, hs, hne⟩
      -- one of the two differs from the first
      by_cases hfirst : r.claim = first.claim
      · have hother : s.claim ≠ first.claim := fun h => hne (hfirst.trans h.symm)
        refine ⟨s, (List.mem_cons.mp hs).resolve_left ?_, hother⟩
        rintro rfl
        exact hother rfl
      · refine ⟨r, (List.mem_cons.mp hr).resolve_left ?_, hfirst⟩
        rintro rfl
        exact hfirst rfl

/-- No event has a group that disagrees exactly when the receipts agree. -/
theorem find_disagree_eq_none_iff :
    ((Dict.firstKeys (receipts.map fun receipt => receipt.eventId)).find? fun event =>
      disagree (receipts.filter fun r => r.eventId = event)) = none ↔ Agreeing receipts := by
  simp only [List.find?_eq_none, Dict.mem_firstKeys, List.mem_map, disagree_iff, List.mem_filter,
    decide_eq_true_eq, Agreeing]
  constructor
  · intro h r hr s hs hevent
    by_contra hne
    exact h r.eventId ⟨r, hr, rfl⟩ ⟨r, ⟨hr, rfl⟩, s, ⟨hs, hevent.symm⟩, hne⟩
  · rintro h _ - ⟨r, ⟨hr, rfl⟩, s, ⟨hs, hevent⟩, hne⟩
    exact hne (h r hr s hs hevent.symm)

/-! ## One receipt -/

/-- A receipt passes exactly when the artifact is known, the receipt names it and was not observed
before it. -/
theorem assessReceipt_pass_iff :
    (assessReceipt preparedArtifactDigest preparedAt receipt).disposition = .pass ↔
      ∃ digest prepared, preparedArtifactDigest = some digest ∧ kernel.isDigest digest = true ∧
        preparedAt = some prepared ∧ prepared.isUtc = true ∧ receipt.artifactDigest = digest ∧
          prepared.instant ≤ receipt.observationTime.instant := by
  rw [assessReceipt]
  split
  next hdigest =>
    simp only [reduceCtorEq, false_iff]
    rintro ⟨digest, prepared, rfl, hvalid, -⟩
    simp [Option.filter, hvalid] at hdigest
  next digest hdigest =>
    obtain ⟨rfl, hvalid⟩ := Option.filter_eq_some_iff.mp hdigest
    split
    next hprepared =>
      simp only [reduceCtorEq, false_iff]
      rintro ⟨_, prepared, -, -, rfl, hutc, -⟩
      simp [Option.filter, hutc] at hprepared
    next prepared hprepared =>
      obtain ⟨rfl, hutc⟩ := Option.filter_eq_some_iff.mp hprepared
      simp only [Option.some.injEq, exists_and_left, exists_eq_left', hvalid, hutc, true_and]
      split_ifs with hdiffers hstale
      · simp only [false_iff]
        exact fun h => hdiffers h.1
      · simp only [false_iff]
        intro h
        omega
      · simp only [true_iff]
        exact ⟨not_not.mp hdiffers, by omega⟩

theorem assessReceipt_ne_block :
    (assessReceipt preparedArtifactDigest preparedAt receipt).disposition ≠ .block := by
  rw [assessReceipt]
  split
  next => exact Disposition.noConfusion
  next =>
    split
    next => exact Disposition.noConfusion
    next => split_ifs <;> exact Disposition.noConfusion

/-! ## A set -/

theorem assessReceipts_of_disagreeing (hne : receipts ≠ []) (h : ¬ Agreeing receipts) :
    (assessReceipts preparedArtifactDigest preparedAt receipts).disposition = .hold := by
  rw [assessReceipts, if_neg (by simpa using hne)]
  simp only
  split
  next => rfl
  next hnone => exact absurd (find_disagree_eq_none_iff.mp hnone) h

theorem assessReceipts_of_hold (hne : receipts ≠ []) (h : Agreeing receipts)
    (hhold : ∃ r ∈ receipts,
      (assessReceipt preparedArtifactDigest preparedAt r).disposition = .hold) :
    (assessReceipts preparedArtifactDigest preparedAt receipts).disposition = .hold := by
  rw [assessReceipts, if_neg (by simpa using hne)]
  simp only [find_disagree_eq_none_iff.mpr h]
  split
  next item hitem => simpa using List.find?_some hitem
  next hnone =>
    obtain ⟨r, hr, hhold⟩ := hhold
    exact absurd hhold (by simpa using List.find?_eq_none.mp hnone _ (List.mem_map_of_mem hr))

/-- Without a hold, receipts that agree pass where each of them does. -/
theorem assessReceipts_of_no_hold (hne : receipts ≠ []) (h : Agreeing receipts)
    (hhold : ∀ r ∈ receipts,
      (assessReceipt preparedArtifactDigest preparedAt r).disposition ≠ .hold) :
    (assessReceipts preparedArtifactDigest preparedAt receipts).disposition =
      if ∀ r ∈ receipts, (assessReceipt preparedArtifactDigest preparedAt r).disposition = .pass
      then .pass else .indeterminate := by
  rw [assessReceipts, if_neg (by simpa using hne)]
  simp only [find_disagree_eq_none_iff.mpr h]
  split
  next item hitem =>
    obtain ⟨r, hr, rfl⟩ := List.mem_map.mp (List.mem_of_find?_eq_some hitem)
    exact absurd (by simpa using List.find?_some hitem) (hhold r hr)
  next =>
    split
    next item hitem =>
      obtain ⟨r, hr, rfl⟩ := List.mem_map.mp (List.mem_of_find?_eq_some hitem)
      have hpass : (assessReceipt preparedArtifactDigest preparedAt r).disposition ≠ .pass := by
        simpa using List.find?_some hitem
      rw [if_neg fun hall => hpass (hall r hr)]
      have hblock : (assessReceipt preparedArtifactDigest preparedAt r).disposition ≠ .block :=
        assessReceipt_ne_block
      have hnot := hhold r hr
      -- neither a hold nor a pass nor a block is left
      cases hdisposition : (assessReceipt preparedArtifactDigest preparedAt r).disposition with
      | pass => exact absurd hdisposition hpass
      | hold => exact absurd hdisposition hnot
      | block => exact absurd hdisposition hblock
      | indeterminate => rfl
    next hnone =>
      rw [if_pos]
      intro r hr
      simpa using List.find?_eq_none.mp hnone _ (List.mem_map_of_mem hr)

/-- A set passes exactly when its receipts agree and each of them passes. -/
theorem assessReceipts_pass_iff (hne : receipts ≠ []) :
    (assessReceipts preparedArtifactDigest preparedAt receipts).disposition = .pass ↔
      Agreeing receipts ∧ ∀ r ∈ receipts,
        (assessReceipt preparedArtifactDigest preparedAt r).disposition = .pass := by
  by_cases hagree : Agreeing receipts
  · by_cases hhold : ∃ r ∈ receipts,
        (assessReceipt preparedArtifactDigest preparedAt r).disposition = .hold
    · rw [assessReceipts_of_hold hne hagree hhold]
      obtain ⟨r, hr, hhold⟩ := hhold
      constructor
      · exact fun h => Disposition.noConfusion h
      · intro h
        have hpass := h.2 r hr
        rw [hhold] at hpass
        exact Disposition.noConfusion hpass
    · push Not at hhold
      rw [assessReceipts_of_no_hold hne hagree hhold]
      split_ifs with hall
      · exact ⟨fun _ => ⟨hagree, hall⟩, fun _ => rfl⟩
      · exact ⟨fun h => h.elim, fun h => absurd h.2 hall⟩
  · rw [assessReceipts_of_disagreeing hne hagree]
    exact ⟨fun h => Disposition.noConfusion h, fun h => absurd h.1 hagree⟩

theorem usableReceipts_iff (hne : receipts ≠ []) :
    UsableReceipts preparedArtifactDigest preparedAt receipts ↔ Agreeing receipts ∧
      ∀ r ∈ receipts, (assessReceipt preparedArtifactDigest preparedAt r).disposition = .pass := by
  simp only [assessReceipt_pass_iff]
  constructor
  · rintro ⟨⟨digest, prepared, hdigest, hvalid, hprepared, hutc, hall⟩, hagree⟩
    exact ⟨hagree, fun r hr => ⟨digest, prepared, hdigest, hvalid, hprepared, hutc, hall r hr⟩⟩
  · rintro ⟨hagree, hall⟩
    obtain ⟨first, hfirst⟩ := List.exists_mem_of_ne_nil receipts hne
    obtain ⟨digest, prepared, hdigest, hvalid, hprepared, hutc, -⟩ := hall first hfirst
    refine ⟨⟨digest, prepared, hdigest, hvalid, hprepared, hutc, ?_⟩, hagree⟩
    intro r hr
    obtain ⟨digest', prepared', hdigest', -, hprepared', -, hr'⟩ := hall r hr
    cases hdigest.symm.trans hdigest'
    cases hprepared.symm.trans hprepared'
    exact hr'

/-- The disposition is that of any other list of the same receipts. -/
theorem assessReceipts_of_same (hne : receipts ≠ [])
    (h : ∀ r, r ∈ receipts' ↔ r ∈ receipts) :
    (assessReceipts preparedArtifactDigest preparedAt receipts').disposition =
      (assessReceipts preparedArtifactDigest preparedAt receipts).disposition := by
  obtain ⟨first, hfirst⟩ := List.exists_mem_of_ne_nil receipts hne
  have hne' : receipts' ≠ [] := List.ne_nil_of_mem ((h first).mpr hfirst)
  have hagrees : Agreeing receipts' ↔ Agreeing receipts := by simp only [Agreeing, h]
  by_cases hagree : Agreeing receipts
  · by_cases hhold : ∃ r ∈ receipts,
        (assessReceipt preparedArtifactDigest preparedAt r).disposition = .hold
    · rw [assessReceipts_of_hold hne hagree hhold]
      apply assessReceipts_of_hold hne' (hagrees.mpr hagree)
      simpa only [h] using hhold
    · push Not at hhold
      have hhold' : ∀ r ∈ receipts',
          (assessReceipt preparedArtifactDigest preparedAt r).disposition ≠ .hold :=
        fun r hr => hhold r ((h r).mp hr)
      rw [assessReceipts_of_no_hold hne hagree hhold,
        assessReceipts_of_no_hold hne' (hagrees.mpr hagree) hhold']
      simp only [h]
  · rw [assessReceipts_of_disagreeing hne hagree,
      assessReceipts_of_disagreeing hne' fun hagree' => hagree (hagrees.mp hagree')]

/-- A set of receipts passes exactly when it is usable, whatever their order and however often each
was supplied, and a receipt more does not make a set pass that does not. -/
theorem assess_receipts (preparedArtifactDigest : Option String) (preparedAt : Option Timestamp)
    {receipts : List (ExternalActionReceipt kernel)} (hne : receipts ≠ []) :
    ((assessReceipts preparedArtifactDigest preparedAt receipts).disposition = .pass ↔
      UsableReceipts preparedArtifactDigest preparedAt receipts) ∧
    (∀ receipts' : List (ExternalActionReceipt kernel), (∀ r, r ∈ receipts' ↔ r ∈ receipts) →
      (assessReceipts preparedArtifactDigest preparedAt receipts').disposition =
        (assessReceipts preparedArtifactDigest preparedAt receipts).disposition) ∧
    (∀ (receipt : ExternalActionReceipt kernel) (more : List (ExternalActionReceipt kernel)),
      more.Perm (receipt :: receipts) →
        (assessReceipts preparedArtifactDigest preparedAt receipts).disposition ≠ .pass →
          (assessReceipts preparedArtifactDigest preparedAt more).disposition ≠ .pass) := by
  refine ⟨?_, fun receipts' h => assessReceipts_of_same hne h, ?_⟩
  · rw [assessReceipts_pass_iff hne, usableReceipts_iff hne]
  · intro receipt more hmore hnot hpass
    have hmem : ∀ r ∈ receipts, r ∈ more := fun r hr =>
      hmore.mem_iff.mpr (List.mem_cons_of_mem receipt hr)
    have hmoreNe : more ≠ [] := List.ne_nil_of_mem (hmore.mem_iff.mpr List.mem_cons_self)
    obtain ⟨hagree, hall⟩ := (assessReceipts_pass_iff hmoreNe).mp hpass
    apply hnot
    rw [assessReceipts_pass_iff hne]
    exact ⟨fun r hr s hs => hagree r (hmem r hr) s (hmem s hs), fun r hr => hall r (hmem r hr)⟩

end Assessment

/-! ## A receipt supplied twice -/

/-- The digest of a prepared artifact. -/
def observedDigest : String := "sha256:" ++ String.ofList (List.replicate 64 'a')

/-- A settlement instruction that a member was observed to give. -/
def observedReceipt : ExternalActionReceipt plainKernel where
  entitledMemberId := "MEMBER-54"
  eventId := "EVT-54-00000000000000000000000"
  action := .settlementInstruction
  artifactDigest := observedDigest
  observationTime := .midnight (.of 2026 6 10)
  provenance := .factSynthetic
  messageId := "MSG-54"
  endToEndId := "E2E-54"
  passes := by decide +kernel

theorem assess_receipts_twice :
    (assessReceipts (some observedDigest) (some (.midnight (.of 2026 6 9)))
      [observedReceipt, observedReceipt]).disposition = .pass := by
  refine (assess_receipts (some observedDigest) (some (.midnight (.of 2026 6 9)))
    (List.cons_ne_nil observedReceipt [observedReceipt])).1.mpr ⟨?_, ?_⟩
  · refine ⟨observedDigest, .midnight (.of 2026 6 9), rfl, by decide +kernel, rfl, rfl, ?_⟩
    simp only [List.mem_cons, List.not_mem_nil, or_false, or_self]
    rintro receipt rfl
    exact ⟨rfl, by decide +kernel⟩
  · simp only [Agreeing, List.mem_cons, List.not_mem_nil, or_false, or_self]
    rintro r rfl s rfl -
    rfl

end Atreides
