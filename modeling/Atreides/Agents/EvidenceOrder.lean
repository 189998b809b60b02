import Atreides.Agents.Eligibility

/-!
# Evidence in any order

An eligibility verification reads its evidence from lists. What it answers does not depend on
their order and repetitions as long as its times can be compared and the attestations of a
correspondent do not contradict each other: of several attestations only the last one is read.

## Main definitions

* `Acceptable` — what the evidence shows, whichever way it is listed
* `Verified` — a verification is returned, it is right, and it is the same in any order
* `Comparable`, `Undivided` — the times that are compared, and the attestations that are read

## Main results

* `verified_iff` — a verification is right in any order exactly on such evidence
-/

namespace Timestamp

/-- Both times are naive, or both have an offset. -/
def SameKind (s t : Timestamp) : Prop := s.utcOffset.isSome = t.utcOffset.isSome

instance (s t : Timestamp) : Decidable (s.SameKind t) :=
  inferInstanceAs (Decidable (s.utcOffset.isSome = t.utcOffset.isSome))

theorem isBefore_returns_iff {s t : Timestamp} :
    (s.isBefore t).Returns ↔ s.SameKind t := by
  rw [isBefore, SameKind]
  split_ifs with h
  · simp [h]
  · simp [h]

end Timestamp

namespace Atreides

namespace EligibilityVerification

/-- Which checks passed. -/
def verdicts (verification : EligibilityVerification) : List (EligibilityCheckKind × Bool) :=
  verification.checks.map fun check => (check.kind, check.passed)

end EligibilityVerification

namespace EligibilityInputs

/-- The inputs with their evidence listed in another way. -/
def relisted (inputs : EligibilityInputs) (ofac sanctions : List ScreeningEvidence)
    (attestations : List CorrespondentBankComplianceEvidence) : EligibilityInputs :=
  { inputs with
    ofacScreenings := ofac
    sanctionsScreenings := sanctions
    correspondentCompliance := attestations }

end EligibilityInputs

/-! ## What is required -/

instance (expiresAt checkTime : Timestamp) : Decidable (Current expiresAt checkTime) :=
  inferInstanceAs (Decidable (expiresAt.isBefore checkTime = .ok false))

/-- The evidence is there and has not expired, the screenings are clear, and each expected
correspondent has an attestation that has not expired. -/
structure Acceptable (inputs : EligibilityInputs) : Prop where
  owner : ∃ evidence, inputs.kyc = some evidence ∧ Current evidence.expiresAt inputs.checkTime
  counterparty : inputs.requiresKyb = true →
    ∃ evidence, inputs.kyb = some evidence ∧ Current evidence.expiresAt inputs.checkTime
  ofac_screened : inputs.ofacScreenings ≠ []
  ofac_clear : ∀ screening ∈ inputs.ofacScreenings, screening.isMatch = false
  sanctions_screened : inputs.sanctionsScreenings ≠ []
  sanctions_clear : ∀ screening ∈ inputs.sanctionsScreenings, screening.isMatch = false
  correspondents : inputs.requiresCorrespondentCompliance = true →
    ∀ bic ∈ inputs.expectedCorrespondentBics, ∃ evidence ∈ inputs.correspondentCompliance,
      evidence.correspondentBic = bic ∧ Current evidence.expiresAt inputs.checkTime

/-- A verification is returned, it passes exactly on acceptable evidence, and its verdicts are
those of the same evidence in any other order and with any repetitions. -/
structure Verified (inputs : EligibilityInputs) : Prop where
  returns : (verifyEligibility inputs).Returns
  right : ∀ verification, verifyEligibility inputs = .ok verification →
    (verification.allPassed = true ↔ Acceptable inputs)
  same : ∀ verification, verifyEligibility inputs = .ok verification →
    ∀ ofac sanctions attestations, (∀ s, s ∈ ofac ↔ s ∈ inputs.ofacScreenings) →
      (∀ s, s ∈ sanctions ↔ s ∈ inputs.sanctionsScreenings) →
      (∀ a, a ∈ attestations ↔ a ∈ inputs.correspondentCompliance) →
        ∃ relisted, verifyEligibility (inputs.relisted ofac sanctions attestations) = .ok relisted ∧
          relisted.verdicts = verification.verdicts

/-! ## What is read -/

/-- The attestation is one the verification may read. -/
def MayRead (inputs : EligibilityInputs) (evidence : CorrespondentBankComplianceEvidence) : Prop :=
  inputs.requiresCorrespondentCompliance = true ∧ evidence ∈ inputs.correspondentCompliance ∧
    evidence.correspondentBic ∈ inputs.expectedCorrespondentBics

/-- The times that are compared with the time of the check are of its kind. -/
structure Comparable (inputs : EligibilityInputs) : Prop where
  owner : ∀ evidence, inputs.kyc = some evidence →
    evidence.expiresAt.SameKind inputs.checkTime
  counterparty : inputs.requiresKyb = true → ∀ evidence, inputs.kyb = some evidence →
    evidence.expiresAt.SameKind inputs.checkTime
  correspondents : ∀ evidence, MayRead inputs evidence →
    evidence.expiresAt.SameKind inputs.checkTime

/-- Where each expected correspondent has an attestation that has not expired, none of its
attestations has. -/
def Undivided (inputs : EligibilityInputs) : Prop :=
  (∀ bic ∈ inputs.expectedCorrespondentBics, ∃ evidence ∈ inputs.correspondentCompliance,
    evidence.correspondentBic = bic ∧ Current evidence.expiresAt inputs.checkTime) →
    ∀ evidence, MayRead inputs evidence → Current evidence.expiresAt inputs.checkTime

section Checks

variable {inputs : EligibilityInputs} {evidence : CorrespondentBankComplianceEvidence}
  {bic : String}

/-! ## Attestations -/

theorem mem_of_byBic (h : (byBic inputs).get? bic = some evidence) :
    evidence ∈ inputs.correspondentCompliance ∧ evidence.correspondentBic = bic := by
  obtain ⟨other, hother, hpair⟩ := List.mem_map.mp (Dict.mem_of_get?_ofPairs h)
  cases hpair
  exact ⟨hother, rfl⟩

theorem exists_byBic (h : evidence ∈ inputs.correspondentCompliance) :
    ∃ last, (byBic inputs).get? evidence.correspondentBic = some last := by
  apply Option.isSome_iff_exists.mp
  rw [Dict.get?_isSome_iff, byBic, Dict.mem_keys_ofPairs, List.map_map]
  exact List.mem_map_of_mem h

/-- An attestation that comes last is the one that is read. -/
theorem byBic_append (ofac sanctions : List ScreeningEvidence)
    (later : List CorrespondentBankComplianceEvidence) :
    (byBic (inputs.relisted ofac sanctions (inputs.correspondentCompliance ++ later))).get? bic =
      ((Dict.ofPairs (later.map fun evidence => (evidence.correspondentBic, evidence))).get? bic).or
        ((byBic inputs).get? bic) := by
  have hpairs : byBic (inputs.relisted ofac sanctions (inputs.correspondentCompliance ++ later)) =
      (byBic inputs).setAll (later.map fun evidence => (evidence.correspondentBic, evidence)) := by
    rw [byBic, byBic, Dict.ofPairs, Dict.ofPairs, ← Dict.setAll_append, ← List.map_append]
    rfl
  rw [hpairs, Dict.get?_setAll]

/-! ## Where a check returns -/

theorem unlessExpired_returns_iff {expiresAt : Timestamp} {kind : EligibilityCheckKind}
    {reason : String} :
    (unlessExpired inputs kind expiresAt reason).Returns ↔
      expiresAt.SameKind inputs.checkTime := by
  rw [← Timestamp.isBefore_returns_iff, unlessExpired]
  cases expiresAt.isBefore inputs.checkTime with
  | error e => simp [bind, Except.bind]
  | ok expired => cases expired <;> simp

theorem verifyKyc_returns_iff : (verifyKyc inputs).Returns ↔
    ∀ evidence, inputs.kyc = some evidence → evidence.expiresAt.SameKind inputs.checkTime := by
  rw [verifyKyc]
  cases inputs.kyc with
  | none => simp
  | some evidence => simp [unlessExpired_returns_iff]

theorem verifyKyb_returns_iff : (verifyKyb inputs).Returns ↔
    (inputs.requiresKyb = true → ∀ evidence, inputs.kyb = some evidence →
      evidence.expiresAt.SameKind inputs.checkTime) := by
  rw [verifyKyb]
  cases inputs.requiresKyb with
  | false => simp
  | true =>
    cases inputs.kyb with
    | none => simp
    | some evidence => simp [unlessExpired_returns_iff]

theorem attestationOf_returns_iff : (attestationOf inputs bic).Returns ↔
    ∀ evidence, (byBic inputs).get? bic = some evidence →
      evidence.expiresAt.SameKind inputs.checkTime := by
  rw [attestationOf]
  cases (byBic inputs).get? bic with
  | none => simp
  | some evidence =>
    simp only [Option.some.injEq, forall_eq', ← Timestamp.isBefore_returns_iff]
    cases evidence.expiresAt.isBefore inputs.checkTime with
    | error e => simp [bind, Except.bind]
    | ok expired => cases expired <;> simp

theorem verifyCorrespondentBankCompliance_returns_iff :
    (verifyCorrespondentBankCompliance inputs).Returns ↔
      (inputs.requiresCorrespondentCompliance = true →
        ∀ bic ∈ inputs.expectedCorrespondentBics, (attestationOf inputs bic).Returns) := by
  rw [verifyCorrespondentBankCompliance]
  cases inputs.requiresCorrespondentCompliance with
  | false => simp
  | true =>
    have hmem : ∀ bic, bic ∈ expectedBics inputs ↔ bic ∈ inputs.expectedCorrespondentBics :=
      fun bic => Finset.mem_sort _
    simp only [← hmem, Bool.not_true, Bool.false_eq_true, if_false, forall_const]
    constructor
    · rintro ⟨check, hcheck⟩ bic hbic
      obtain ⟨found, hfound, -⟩ := Outcome.bind_eq_ok.mp hcheck
      obtain ⟨entry, -, hread⟩ := Outcome.mem_of_collect hfound hbic
      obtain ⟨attestation, hattestation, -⟩ := Outcome.bind_eq_ok.mp hread
      exact ⟨attestation, hattestation⟩
    · intro hreturns
      obtain ⟨found, hfound, -⟩ := (@Outcome.collect_forall_iff _ _ (fun bic => do
          let attestation ← attestationOf inputs bic
          .ok (bic, attestation)) (fun _ => True) (expectedBics inputs)).mpr (by
            intro bic hbic
            obtain ⟨attestation, hattestation⟩ := hreturns bic hbic
            exact ⟨(bic, attestation), by rw [hattestation]; rfl, trivial⟩)
      rw [hfound]
      simp only [Outcome.ok_bind]
      split_ifs <;> exact ⟨_, rfl⟩

/-- The verification returns where its checks do. -/
theorem verifyEligibility_returns_iff : (verifyEligibility inputs).Returns ↔
    (verifyKyc inputs).Returns ∧ (verifyKyb inputs).Returns ∧
      (verifyCorrespondentBankCompliance inputs).Returns := by
  constructor
  · rintro ⟨verification, h⟩
    obtain ⟨kyc, kyb, correspondents, hkyc, hkyb, hcorrespondents, -⟩ :=
      verifyEligibility_eq_ok.mp h
    exact ⟨⟨kyc, hkyc⟩, ⟨kyb, hkyb⟩, ⟨correspondents, hcorrespondents⟩⟩
  · rintro ⟨⟨kyc, hkyc⟩, ⟨kyb, hkyb⟩, ⟨correspondents, hcorrespondents⟩⟩
    have hcomplete : ([kyc, kyb, verifyOfac inputs, verifySanctions inputs, correspondents].map
        EligibilityCheck.kind).Perm EligibilityCheckKind.all := by
      simp only [List.map_cons, List.map_nil, verifyKyc_kind hkyc, verifyKyb_kind hkyb,
        verifyOfac, verifySanctions, unlessMatched_kind,
        verifyCorrespondentBankCompliance_kind hcorrespondents]
      exact List.Perm.refl _
    exact ⟨⟨_, hcomplete⟩, verifyEligibility_eq_ok.mpr
      ⟨kyc, kyb, correspondents, hkyc, hkyb, hcorrespondents, rfl⟩⟩

/-- The verdicts, check by check. -/
theorem verdicts_eq {verification : EligibilityVerification} {kyc kyb correspondents}
    (hkyc : verifyKyc inputs = .ok kyc) (hkyb : verifyKyb inputs = .ok kyb)
    (hcorrespondents : verifyCorrespondentBankCompliance inputs = .ok correspondents)
    (h : verifyEligibility inputs = .ok verification) :
    verification.verdicts = [(.kyc, kyc.passed), (.kyb, kyb.passed),
      (.ofac, (verifyOfac inputs).passed), (.sanctions, (verifySanctions inputs).passed),
      (.correspondentBankCompliance, correspondents.passed)] := by
  obtain ⟨kyc', kyb', correspondents', hkyc', hkyb', hcorrespondents', hchecks⟩ :=
    verifyEligibility_eq_ok.mp h
  cases hkyc.symm.trans hkyc'
  cases hkyb.symm.trans hkyb'
  cases hcorrespondents.symm.trans hcorrespondents'
  rw [EligibilityVerification.verdicts, hchecks]
  simp only [List.map_cons, List.map_nil, verifyKyc_kind hkyc, verifyKyb_kind hkyb,
    verifyOfac, verifySanctions, unlessMatched_kind,
    verifyCorrespondentBankCompliance_kind hcorrespondents]

theorem passed_iff {result : Outcome EligibilityCheck} {check : EligibilityCheck}
    (h : result = .ok check) : check.passed = true ↔ Passes result := by
  constructor
  · exact fun hpassed => ⟨check, h, hpassed⟩
  · rintro ⟨other, hother, hpassed⟩
    cases h.symm.trans hother
    exact hpassed

/-! ## Evidence that can be compared and is undivided -/

theorem Comparable.returns (h : Comparable inputs) : (verifyEligibility inputs).Returns := by
  rw [verifyEligibility_returns_iff, verifyKyc_returns_iff, verifyKyb_returns_iff,
    verifyCorrespondentBankCompliance_returns_iff]
  refine ⟨h.owner, h.counterparty, ?_⟩
  intro hrequires bic hbic
  rw [attestationOf_returns_iff]
  intro evidence hevidence
  obtain ⟨hmem, rfl⟩ := mem_of_byBic hevidence
  exact h.correspondents evidence ⟨hrequires, hmem, hbic⟩

/-- The correspondents pass exactly where each has an attestation that has not expired. -/
theorem Undivided.passes_iff (h : Undivided inputs) :
    Passes (verifyCorrespondentBankCompliance inputs) ↔
      (inputs.requiresCorrespondentCompliance = true →
        ∀ bic ∈ inputs.expectedCorrespondentBics, ∃ evidence ∈ inputs.correspondentCompliance,
          evidence.correspondentBic = bic ∧ Current evidence.expiresAt inputs.checkTime) := by
  rw [verifyCorrespondentBankCompliance_passes_iff]
  apply forall_congr'
  intro hrequires
  simp only [attestationOf_eq_current]
  constructor
  · intro hread bic hbic
    obtain ⟨evidence, hevidence, hcurrent⟩ := hread bic hbic
    obtain ⟨hmem, hsame⟩ := mem_of_byBic hevidence
    exact ⟨evidence, hmem, hsame, hcurrent⟩
  · intro hexists bic hbic
    obtain ⟨evidence, hmem, rfl, -⟩ := hexists bic hbic
    obtain ⟨last, hlast⟩ := exists_byBic hmem
    obtain ⟨hmemLast, hsame⟩ := mem_of_byBic hlast
    exact ⟨last, hlast, h hexists last ⟨hrequires, hmemLast, hsame ▸ hbic⟩⟩

variable {ofac sanctions : List ScreeningEvidence}
  {attestations : List CorrespondentBankComplianceEvidence}

/-- What may be read does not depend on the order. -/
theorem mayRead_relisted (h : ∀ a, a ∈ attestations ↔ a ∈ inputs.correspondentCompliance) :
    MayRead (inputs.relisted ofac sanctions attestations) evidence ↔ MayRead inputs evidence := by
  exact and_congr_right fun _ => and_congr_left fun _ => h evidence

theorem Comparable.relisted (hcomparable : Comparable inputs)
    (h : ∀ a, a ∈ attestations ↔ a ∈ inputs.correspondentCompliance) :
    Comparable (inputs.relisted ofac sanctions attestations) where
  owner := hcomparable.owner
  counterparty := hcomparable.counterparty
  correspondents evidence hevidence :=
    hcomparable.correspondents evidence ((mayRead_relisted h).mp hevidence)

theorem Undivided.relisted (hundivided : Undivided inputs)
    (h : ∀ a, a ∈ attestations ↔ a ∈ inputs.correspondentCompliance) :
    Undivided (inputs.relisted ofac sanctions attestations) := by
  intro hexists evidence hevidence
  refine hundivided ?_ evidence ((mayRead_relisted h).mp hevidence)
  intro bic hbic
  obtain ⟨other, hother, hother'⟩ := hexists bic hbic
  exact ⟨other, (h other).mp hother, hother'⟩

theorem screenings_clear_congr {screenings screenings' : List ScreeningEvidence}
    (h : ∀ s, s ∈ screenings ↔ s ∈ screenings') :
    (screenings ≠ [] ∧ ∀ screening ∈ screenings, screening.isMatch = false) ↔
      (screenings' ≠ [] ∧ ∀ screening ∈ screenings', screening.isMatch = false) := by
  simp only [ne_eq, List.eq_nil_iff_forall_not_mem, h]

theorem Undivided.eligible_iff (h : Undivided inputs) : Eligible inputs ↔ Acceptable inputs := by
  have hcorrespondents := h.passes_iff
  rw [verifyCorrespondentBankCompliance_passes_iff] at hcorrespondents
  simp only [attestationOf_eq_current] at hcorrespondents
  constructor
  · intro heligible
    exact ⟨heligible.owner, heligible.counterparty, heligible.ofac_screened, heligible.ofac_clear,
      heligible.sanctions_screened, heligible.sanctions_clear,
      hcorrespondents.mp heligible.correspondents⟩
  · intro hacceptable
    exact ⟨hacceptable.owner, hacceptable.counterparty, hacceptable.ofac_screened,
      hacceptable.ofac_clear, hacceptable.sanctions_screened, hacceptable.sanctions_clear,
      hcorrespondents.mpr hacceptable.correspondents⟩

/-- Comparable evidence that is undivided is verified. -/
theorem verified_of (hcomparable : Comparable inputs) (hundivided : Undivided inputs) :
    Verified inputs := by
  constructor
  case returns => exact hcomparable.returns
  case right =>
    intro verification hverification
    rw [← hundivided.eligible_iff, ← verifyEligibility_passes_iff]
    constructor
    · exact fun hpassed => ⟨verification, hverification, hpassed⟩
    · rintro ⟨other, hother, hpassed⟩
      cases hverification.symm.trans hother
      exact hpassed
  case same =>
    intro verification hverification ofac sanctions attestations hofac hsanctions hattestations
    have hagain : Comparable (inputs.relisted ofac sanctions attestations) :=
      hcomparable.relisted hattestations
    obtain ⟨relisted, hrelisted⟩ := hagain.returns
    obtain ⟨kyc, kyb, correspondents, hkyc, hkyb, hcorrespondents, -⟩ :=
      verifyEligibility_eq_ok.mp hverification
    obtain ⟨kyc', kyb', correspondents', hkyc', hkyb', hcorrespondents', -⟩ :=
      verifyEligibility_eq_ok.mp hrelisted
    refine ⟨relisted, hrelisted, ?_⟩
    rw [verdicts_eq hkyc hkyb hcorrespondents hverification,
      verdicts_eq hkyc' hkyb' hcorrespondents' hrelisted]
    -- the first two checks read no list
    cases hkyc.symm.trans hkyc'
    cases hkyb.symm.trans hkyb'
    have hofacPassed : (verifyOfac (inputs.relisted ofac sanctions attestations)).passed =
        (verifyOfac inputs).passed := by
      rw [Bool.eq_iff_iff, verifyOfac, verifyOfac, unlessMatched_passes_iff,
        unlessMatched_passes_iff]
      exact screenings_clear_congr hofac
    have hsanctionsPassed :
        (verifySanctions (inputs.relisted ofac sanctions attestations)).passed =
          (verifySanctions inputs).passed := by
      rw [Bool.eq_iff_iff, verifySanctions, verifySanctions, unlessMatched_passes_iff,
        unlessMatched_passes_iff]
      exact screenings_clear_congr hsanctions
    have hcorrespondentsPassed : correspondents'.passed = correspondents.passed := by
      rw [Bool.eq_iff_iff, passed_iff hcorrespondents', passed_iff hcorrespondents,
        hundivided.passes_iff, (hundivided.relisted hattestations).passes_iff]
      apply forall_congr'
      intro _
      apply forall₂_congr
      intro bic _
      apply exists_congr
      intro evidence
      exact and_congr_left fun _ => hattestations evidence
    rw [hofacPassed, hsanctionsPassed, hcorrespondentsPassed]

/-! ## What a verification that is right in any order needs -/

/-- Attestations that are listed again, at the end. -/
def EligibilityInputs.again (inputs : EligibilityInputs)
    (later : List CorrespondentBankComplianceEvidence) : EligibilityInputs :=
  inputs.relisted inputs.ofacScreenings inputs.sanctionsScreenings
    (inputs.correspondentCompliance ++ later)

/-- Listing attestations again changes no verdict. -/
theorem Verified.again (h : Verified inputs) {verification : EligibilityVerification}
    (hverification : verifyEligibility inputs = .ok verification)
    (later : List CorrespondentBankComplianceEvidence)
    (hlater : ∀ a ∈ later, a ∈ inputs.correspondentCompliance) :
    ∃ relisted, verifyEligibility (inputs.again later) = .ok relisted ∧
      relisted.verdicts = verification.verdicts := by
  apply h.same verification hverification
  · exact fun _ => Iff.rfl
  · exact fun _ => Iff.rfl
  · intro a
    rw [List.mem_append]
    exact ⟨fun ha => ha.elim id (hlater a), Or.inl⟩

/-- An attestation that is listed again at the end is the one that is read. -/
theorem byBic_again (evidence : CorrespondentBankComplianceEvidence) :
    (byBic (inputs.again [evidence])).get? evidence.correspondentBic = some evidence := by
  rw [EligibilityInputs.again, byBic_append, Dict.get?_ofPairs]
  simp

theorem Verified.comparable (h : Verified inputs) : Comparable inputs := by
  obtain ⟨verification, hverification⟩ := h.returns
  obtain ⟨hkyc, hkyb, -⟩ := verifyEligibility_returns_iff.mp ⟨_, hverification⟩
  refine ⟨verifyKyc_returns_iff.mp hkyc, verifyKyb_returns_iff.mp hkyb, ?_⟩
  rintro evidence ⟨hrequires, hmem, hbic⟩
  obtain ⟨relisted, hrelisted, -⟩ := h.again hverification [evidence]
    (by simpa using hmem)
  obtain ⟨-, -, hcorrespondents⟩ := verifyEligibility_returns_iff.mp ⟨_, hrelisted⟩
  have hread := verifyCorrespondentBankCompliance_returns_iff.mp hcorrespondents hrequires _ hbic
  exact attestationOf_returns_iff.mp hread evidence (byBic_again evidence)

/-- The verdict on the correspondents is one of the verdicts. -/
theorem passes_of_verdicts {inputs' : EligibilityInputs}
    {verification verification' : EligibilityVerification}
    (h : verifyEligibility inputs = .ok verification)
    (h' : verifyEligibility inputs' = .ok verification')
    (hverdicts : verification'.verdicts = verification.verdicts) :
    Passes (verifyCorrespondentBankCompliance inputs') ↔
      Passes (verifyCorrespondentBankCompliance inputs) := by
  obtain ⟨kyc, kyb, correspondents, hkyc, hkyb, hcorrespondents, -⟩ := verifyEligibility_eq_ok.mp h
  obtain ⟨kyc', kyb', correspondents', hkyc', hkyb', hcorrespondents', -⟩ :=
    verifyEligibility_eq_ok.mp h'
  rw [verdicts_eq hkyc hkyb hcorrespondents h, verdicts_eq hkyc' hkyb' hcorrespondents' h']
    at hverdicts
  simp only [List.cons.injEq, Prod.mk.injEq] at hverdicts
  rw [← passed_iff hcorrespondents, ← passed_iff hcorrespondents', hverdicts.2.2.2.2.1.2]

theorem Verified.undivided (h : Verified inputs) : Undivided inputs := by
  rintro hexists evidence hevidence
  obtain ⟨hrequires, hmem, hbic⟩ := hevidence
  obtain ⟨verification, hverification⟩ := h.returns
  -- with the attestations that have not expired at the end, the correspondents pass
  let current := inputs.correspondentCompliance.filter fun a =>
    Current a.expiresAt inputs.checkTime
  obtain ⟨fresh, hfresh, hsame⟩ := h.again hverification current
    fun a ha => List.mem_of_mem_filter ha
  have hpasses : Passes (verifyCorrespondentBankCompliance (inputs.again current)) := by
    rw [verifyCorrespondentBankCompliance_passes_iff]
    intro _ bic hbic
    rw [attestationOf_eq_current]
    obtain ⟨a, ha, rfl, hcurrent⟩ := hexists bic hbic
    have hkey : a.correspondentBic ∈ (Dict.ofPairs (current.map fun evidence =>
        (evidence.correspondentBic, evidence))).keys := by
      rw [Dict.mem_keys_ofPairs, List.map_map]
      exact List.mem_map_of_mem (List.mem_filter.mpr ⟨ha, decide_eq_true hcurrent⟩)
    obtain ⟨last, hlast⟩ := Option.isSome_iff_exists.mp (Dict.get?_isSome_iff.mpr hkey)
    obtain ⟨a', ha', hpair⟩ := List.mem_map.mp (Dict.mem_of_get?_ofPairs hlast)
    obtain ⟨-, rfl⟩ := Prod.mk.inj hpair
    refine ⟨a', ?_, decide_eq_true_eq.mp (List.mem_filter.mp ha').2⟩
    rw [EligibilityInputs.again, byBic_append, hlast]
    rfl
  -- so they pass with this attestation at the end
  obtain ⟨relisted, hrelisted, hsame'⟩ := h.again hverification [evidence]
    (by simpa using hmem)
  rw [passes_of_verdicts hverification hfresh hsame,
    ← passes_of_verdicts hverification hrelisted hsame'] at hpasses
  have hread := verifyCorrespondentBankCompliance_passes_iff.mp hpasses hrequires _ hbic
  obtain ⟨last, hlast, hcurrent⟩ := attestationOf_eq_current.mp hread
  rw [byBic_again] at hlast
  cases hlast
  exact hcurrent

end Checks

/-- A verification returns, is right, and is the same in any order of the evidence exactly where
the times that may be read can be compared and the attestations do not contradict each other. -/
theorem verified_iff (inputs : EligibilityInputs) :
    Verified inputs ↔ Comparable inputs ∧ Undivided inputs := by
  constructor
  · exact fun h => ⟨h.comparable, h.undivided⟩
  · exact fun h => verified_of h.1 h.2

/-! ## Renewed attestations -/

/-- A screening of the owner that matched no list. -/
def clearScreening : ScreeningEvidence where
  subjectId := "OWNER-57"
  isMatch := false
  list_named := rfl
  list_only_of_match := rfl

/-- An owner who is known, screenings that are clear, and the attestations of one correspondent. -/
def routedInputs (expiresAt : Timestamp)
    (attestations : List CorrespondentBankComplianceEvidence) : EligibilityInputs where
  checkTime := .midnight (.of 2026 6 9)
  kyc := some ⟨"OWNER-57", expiresAt⟩
  ofacScreenings := [clearScreening]
  sanctionsScreenings := [clearScreening]
  correspondentCompliance := attestations
  requiresKyb := false
  requiresCorrespondentCompliance := true
  expectedCorrespondentBics := {"CORRUS33"}

def lapsed : CorrespondentBankComplianceEvidence :=
  { correspondentBic := "CORRUS33", expiresAt := .midnight (.of 2026 6 8) }

def renewed : CorrespondentBankComplianceEvidence :=
  { correspondentBic := "CORRUS33", expiresAt := .midnight (.of 2027 6 8) }

/-- A renewed attestation is not seen behind the lapsed one, and an expiry without an offset
cannot be compared with the time of the check. -/
theorem verified_counterexample :
    ¬ Verified (routedInputs (.midnight (.of 2027 6 8)) [renewed, lapsed]) ∧
      ¬ Verified (routedInputs ⟨.of 2027 6 8, 0, none, by decide⟩ [renewed]) := by
  constructor
  · intro h
    have hcurrent := h.undivided (by
      intro bic hbic
      rw [Finset.mem_singleton.mp hbic]
      exact ⟨renewed, List.mem_cons_self, rfl, by decide +kernel⟩) lapsed
      ⟨rfl, List.mem_cons_of_mem _ List.mem_cons_self, Finset.mem_singleton_self _⟩
    exact absurd hcurrent (by decide +kernel)
  · intro h
    exact absurd (h.comparable.owner _ rfl) (by decide +kernel)

end Atreides
