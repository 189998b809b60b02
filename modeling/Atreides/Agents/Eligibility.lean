import Mathlib.Data.Finset.Sort
import Mathlib.Data.String.Basic
import Atreides.Foundation.Dict
import Atreides.Foundation.Timestamp

/-!
# Eligibility before routing

The evidence an agent has gathered for an operation, and the five checks it passes before a
path is chosen: the owner's identity, the counterparty's, the two screenings, and the
compliance of the correspondents the operation is expected to route through.

## Main definitions

* `EligibilityInputs` — the evidence
* `verifyEligibility` — the five checks
* `Eligible` — what the evidence shows when all five pass

## Main results

* `verifyEligibility_passes_iff` — all five checks pass exactly on eligible evidence
* `Eligible.attested` — an expected correspondent is attested
-/

namespace Atreides

/-! ## Evidence -/

/-- That an owner was identified, and until when it counts. -/
structure KycEvidence where
  beneficialOwnerId : String
  expiresAt : Timestamp
  deriving DecidableEq

/-- That a counterparty was identified, and until when it counts. -/
structure KybEvidence where
  counterpartyEntityId : String
  expiresAt : Timestamp
  deriving DecidableEq

/-- A screening of a subject. A match names the list it is on. -/
structure ScreeningEvidence where
  subjectId : String
  isMatch : Bool
  matchedList : Option String := none
  list_named : isMatch = matchedList.any (· ≠ "") := by decide
  list_only_of_match : isMatch = matchedList.isSome := by decide
  deriving DecidableEq

/-- The compliance attestation of a correspondent. -/
structure CorrespondentBankComplianceEvidence where
  correspondentBic : String
  expiresAt : Timestamp
  bic_length : 8 ≤ correspondentBic.length ∧ correspondentBic.length ≤ 11 := by decide
  deriving DecidableEq

/-- The evidence for one operation. Where correspondents must comply, some are expected. -/
structure EligibilityInputs where
  checkTime : Timestamp
  kyc : Option KycEvidence := none
  kyb : Option KybEvidence := none
  ofacScreenings : List ScreeningEvidence := []
  sanctionsScreenings : List ScreeningEvidence := []
  correspondentCompliance : List CorrespondentBankComplianceEvidence := []
  requiresKyb : Bool := true
  requiresCorrespondentCompliance : Bool := false
  expectedCorrespondentBics : Finset String := ∅
  expected_nonempty :
    requiresCorrespondentCompliance = true → expectedCorrespondentBics ≠ ∅ := by decide

/-! ## Checks -/

inductive EligibilityCheckKind
  | kyc
  | kyb
  | ofac
  | sanctions
  | correspondentBankCompliance
  deriving DecidableEq, Repr

namespace EligibilityCheckKind

def value : EligibilityCheckKind → String
  | kyc => "kyc"
  | kyb => "kyb"
  | ofac => "ofac"
  | sanctions => "sanctions"
  | correspondentBankCompliance => "correspondent_bank_compliance"

/-- The five kinds. -/
def all : List EligibilityCheckKind := [kyc, kyb, ofac, sanctions, correspondentBankCompliance]

end EligibilityCheckKind

/-- The result of a check. It has a reason exactly when it failed. -/
structure EligibilityCheck where
  kind : EligibilityCheckKind
  passed : Bool
  failureReason : Option String
  verifiedAt : Timestamp
  failed_for_reason : passed = failureReason.isNone
  deriving DecidableEq

namespace EligibilityCheck

/-- A check that passed. -/
def pass (inputs : EligibilityInputs) (kind : EligibilityCheckKind) : EligibilityCheck :=
  ⟨kind, true, none, inputs.checkTime, rfl⟩

/-- A check that failed. -/
def fail (inputs : EligibilityInputs) (kind : EligibilityCheckKind) (reason : String) :
    EligibilityCheck :=
  ⟨kind, false, some reason, inputs.checkTime, rfl⟩

end EligibilityCheck

open EligibilityCheck

/-- A check of evidence that expires. -/
def unlessExpired (inputs : EligibilityInputs) (kind : EligibilityCheckKind)
    (expiresAt : Timestamp) (reason : String) : Outcome EligibilityCheck := do
  if ← expiresAt.isBefore inputs.checkTime then .ok (fail inputs kind reason)
  else .ok (pass inputs kind)

/-- A check of screenings: some were made, and none matched. -/
def unlessMatched (inputs : EligibilityInputs) (kind : EligibilityCheckKind)
    (screenings : List ScreeningEvidence) (notPerformed : String)
    (matched : ScreeningEvidence → String) : EligibilityCheck :=
  if screenings = [] then fail inputs kind notPerformed
  else
    match screenings.find? (·.isMatch) with
    | some first => fail inputs kind (matched first)
    | none => pass inputs kind

def verifyKyc (inputs : EligibilityInputs) : Outcome EligibilityCheck :=
  match inputs.kyc with
  | none =>
    .ok (fail inputs .kyc ("KYC evidence missing for beneficial owner; per AUR-CUSTODY-001 " ++
      "v1.0 Section VI Guardrail 4 (eligibility before routing), KYC verification must be " ++
      "performed and current before any routing decision."))
  | some evidence =>
    unlessExpired inputs .kyc evidence.expiresAt ("KYC evidence for beneficial owner " ++
      quoted evidence.beneficialOwnerId ++ " expired at " ++ evidence.expiresAt.isoformat ++
      " (check time " ++ inputs.checkTime.isoformat ++
      "); per AUR-CUSTODY-001 v1.0 Section VI Guardrail 4.")

def verifyKyb (inputs : EligibilityInputs) : Outcome EligibilityCheck :=
  if !inputs.requiresKyb then .ok (pass inputs .kyb)
  else
    match inputs.kyb with
    | none =>
      .ok (fail inputs .kyb ("KYB evidence missing for counterparty entity; per " ++
        "AUR-CUSTODY-001 v1.0 Section VI Guardrail 4 (eligibility before routing), KYB " ++
        "verification must be performed for operations involving counterparty entities."))
    | some evidence =>
      unlessExpired inputs .kyb evidence.expiresAt ("KYB evidence for counterparty entity " ++
        quoted evidence.counterpartyEntityId ++ " expired at " ++
        evidence.expiresAt.isoformat ++ " (check time " ++ inputs.checkTime.isoformat ++
        "); per AUR-CUSTODY-001 v1.0 Section VI Guardrail 4.")

def verifyOfac (inputs : EligibilityInputs) : EligibilityCheck :=
  unlessMatched inputs .ofac inputs.ofacScreenings
    ("OFAC screening not performed for any subject; per AUR-CUSTODY-001 v1.0 Section VI " ++
      "Guardrail 4 and AUR-CANONICAL-001 v1.6 Axiom 8 (Verana Autonomous Block), OFAC " ++
      "screening is required before routing.")
    fun first => "OFAC screening matched: subject " ++ quoted first.subjectId ++ " on list " ++
      optionText quoted first.matchedList ++ "; per AUR-CANONICAL-001 v1.6 Axiom 8 (Verana " ++
      "Autonomous Block), Verana enforces OFAC autonomously and the agent does not route past " ++
      "a match."

def verifySanctions (inputs : EligibilityInputs) : EligibilityCheck :=
  unlessMatched inputs .sanctions inputs.sanctionsScreenings
    ("Non-OFAC sanctions screening not performed for any subject; per AUR-CUSTODY-001 v1.0 " ++
      "Section VI Guardrail 4, sanctions screening (UN, EU, UK HMT, jurisdiction-specific " ++
      "lists) is required before routing.")
    fun first => "Sanctions screening matched: subject " ++ quoted first.subjectId ++
      " on list " ++ optionText quoted first.matchedList ++ "; per AUR-CUSTODY-001 v1.0 " ++
      "Section VI Guardrail 4, the agent does not route past a sanctions match."

/-- The attestations by identifier; the last of several for one correspondent counts. -/
def byBic (inputs : EligibilityInputs) : Dict String CorrespondentBankComplianceEvidence :=
  .ofPairs (inputs.correspondentCompliance.map fun evidence =>
    (evidence.correspondentBic, evidence))

/-- What is found for an expected correspondent. -/
inductive Attestation
  | missing
  | expired
  | current
  deriving DecidableEq, Repr

def attestationOf (inputs : EligibilityInputs) (bic : String) : Outcome Attestation :=
  match (byBic inputs).get? bic with
  | none => .ok .missing
  | some evidence => do
    if ← evidence.expiresAt.isBefore inputs.checkTime then .ok .expired else .ok .current

/-- The expected correspondents in the order of their identifiers. The code reads them in the
set's own order and sorts what it reports. -/
def expectedBics (inputs : EligibilityInputs) : List String :=
  inputs.expectedCorrespondentBics.sort (· ≤ ·)

def verifyCorrespondentBankCompliance (inputs : EligibilityInputs) : Outcome EligibilityCheck :=
  if !inputs.requiresCorrespondentCompliance then
    .ok (pass inputs .correspondentBankCompliance)
  else do
    let found ← Outcome.collect (fun bic => do
      let attestation ← attestationOf inputs bic
      .ok (bic, attestation)) (expectedBics inputs)
    let missing := (found.filter (·.2 = .missing)).map Prod.fst
    let expired := (found.filter (·.2 = .expired)).map Prod.fst
    if missing ≠ [] then
      .ok (fail inputs .correspondentBankCompliance
        ("Correspondent-bank compliance attestation missing for required BICs: " ++
          quotedList missing ++ "; per AUR-CUSTODY-001 v1.0 Section VI Guardrail 4 line 634, " ++
          "correspondent-bank compliance must be verified before any correspondent-banking-" ++
          "routed settlement."))
    else if expired ≠ [] then
      .ok (fail inputs .correspondentBankCompliance
        ("Correspondent-bank compliance attestation expired for BICs: " ++ quotedList expired ++
          " (check time " ++ inputs.checkTime.isoformat ++
          "); per AUR-CUSTODY-001 v1.0 Section VI Guardrail 4."))
    else .ok (pass inputs .correspondentBankCompliance)

/-! ## Verification -/

/-- The results of the five checks, one of each kind. -/
structure EligibilityVerification where
  checks : List EligibilityCheck
  complete : (checks.map EligibilityCheck.kind).Perm EligibilityCheckKind.all

namespace EligibilityVerification

def allPassed (verification : EligibilityVerification) : Bool :=
  verification.checks.all EligibilityCheck.passed

def failedChecks (verification : EligibilityVerification) : List EligibilityCheck :=
  verification.checks.filter fun check => !check.passed

end EligibilityVerification

/-- A verification of the given checks, where there is one of each kind. -/
def EligibilityVerification.build (checks : List EligibilityCheck) :
    Outcome EligibilityVerification :=
  if h : (checks.map EligibilityCheck.kind).Perm EligibilityCheckKind.all then .ok ⟨checks, h⟩
  else .error (.valueError "EligibilityVerification requires each check kind exactly once")

def verifyEligibility (inputs : EligibilityInputs) : Outcome EligibilityVerification := do
  let kyc ← verifyKyc inputs
  let kyb ← verifyKyb inputs
  let correspondents ← verifyCorrespondentBankCompliance inputs
  EligibilityVerification.build
    [kyc, kyb, verifyOfac inputs, verifySanctions inputs, correspondents]

/-! ## What passing means -/

/-- The expiry is not before the time. -/
def Current (expiresAt checkTime : Timestamp) : Prop := expiresAt.isBefore checkTime = .ok false

/-- What the evidence shows when all five checks pass. -/
structure Eligible (inputs : EligibilityInputs) : Prop where
  owner : ∃ evidence, inputs.kyc = some evidence ∧ Current evidence.expiresAt inputs.checkTime
  counterparty : inputs.requiresKyb = true →
    ∃ evidence, inputs.kyb = some evidence ∧ Current evidence.expiresAt inputs.checkTime
  ofac_screened : inputs.ofacScreenings ≠ []
  ofac_clear : ∀ screening ∈ inputs.ofacScreenings, screening.isMatch = false
  sanctions_screened : inputs.sanctionsScreenings ≠ []
  sanctions_clear : ∀ screening ∈ inputs.sanctionsScreenings, screening.isMatch = false
  correspondents : inputs.requiresCorrespondentCompliance = true →
    ∀ bic ∈ inputs.expectedCorrespondentBics, ∃ evidence,
      (byBic inputs).get? bic = some evidence ∧ Current evidence.expiresAt inputs.checkTime

/-- A check that returned and passed. -/
def Passes (result : Outcome EligibilityCheck) : Prop :=
  ∃ check, result = .ok check ∧ check.passed = true

section Checks

variable {inputs : EligibilityInputs} {check : EligibilityCheck}

@[simp] theorem pass_passed (kind : EligibilityCheckKind) : (pass inputs kind).passed = true :=
  rfl

@[simp] theorem fail_passed (kind : EligibilityCheckKind) (reason : String) :
    (fail inputs kind reason).passed = false := rfl

@[simp] theorem pass_kind (kind : EligibilityCheckKind) : (pass inputs kind).kind = kind := rfl

@[simp] theorem fail_kind (kind : EligibilityCheckKind) (reason : String) :
    (fail inputs kind reason).kind = kind := rfl

/-- Evidence that expires passes its check exactly when it is current. -/
theorem unlessExpired_passes_iff {expiresAt : Timestamp} {kind : EligibilityCheckKind}
    {reason : String} :
    Passes (unlessExpired inputs kind expiresAt reason) ↔ Current expiresAt inputs.checkTime := by
  rw [unlessExpired, Current]
  rcases expiresAt.isBefore inputs.checkTime with e | _ | _ <;> simp [Passes]

/-- Screenings pass their check exactly when there are some and none matched. -/
theorem unlessMatched_passes_iff {kind : EligibilityCheckKind}
    {screenings : List ScreeningEvidence} {notPerformed : String}
    {matched : ScreeningEvidence → String} :
    (unlessMatched inputs kind screenings notPerformed matched).passed = true ↔
      screenings ≠ [] ∧ ∀ screening ∈ screenings, screening.isMatch = false := by
  rw [unlessMatched]
  split_ifs with hnone
  · simp [hnone]
  · rcases hfirst : screenings.find? (·.isMatch) with _ | first
    · simp only [hfirst]
      rw [List.find?_eq_none] at hfirst
      simpa [hnone] using hfirst
    · simp only [hfirst]
      have hmatched := List.find?_some hfirst
      have hmem := List.mem_of_find?_eq_some hfirst
      simp only [fail_passed, Bool.false_eq_true, false_iff, not_and, not_forall]
      exact fun _ => ⟨first, hmem, by simp [hmatched]⟩

theorem verifyKyc_passes_iff : Passes (verifyKyc inputs) ↔
    ∃ evidence, inputs.kyc = some evidence ∧ Current evidence.expiresAt inputs.checkTime := by
  rw [verifyKyc]
  rcases inputs.kyc with _ | evidence
  · simp [Passes]
  · simp [unlessExpired_passes_iff]

theorem verifyKyb_passes_iff : Passes (verifyKyb inputs) ↔
    (inputs.requiresKyb = true → ∃ evidence, inputs.kyb = some evidence ∧
      Current evidence.expiresAt inputs.checkTime) := by
  rw [verifyKyb]
  rcases inputs.requiresKyb with _ | _
  · simp [Passes]
  · rcases inputs.kyb with _ | evidence
    · simp [Passes]
    · simp [unlessExpired_passes_iff]

/-! ### Correspondents -/

theorem attestationOf_eq_current {bic : String} : attestationOf inputs bic = .ok .current ↔
    ∃ evidence, (byBic inputs).get? bic = some evidence ∧
      Current evidence.expiresAt inputs.checkTime := by
  rw [attestationOf]
  rcases (byBic inputs).get? bic with _ | evidence
  · simp
  · simp only [Option.some.injEq, exists_eq_left', Current]
    rcases evidence.expiresAt.isBefore inputs.checkTime with e | _ | _ <;> simp

/-- The check of the correspondents passes exactly when each expected one is attested. -/
theorem verifyCorrespondentBankCompliance_passes_iff :
    Passes (verifyCorrespondentBankCompliance inputs) ↔
      (inputs.requiresCorrespondentCompliance = true →
        ∀ bic ∈ inputs.expectedCorrespondentBics, attestationOf inputs bic = .ok .current) := by
  rw [verifyCorrespondentBankCompliance]
  rcases inputs.requiresCorrespondentCompliance with _ | _
  · simp [Passes]
  · have hmem : ∀ bic, bic ∈ expectedBics inputs ↔ bic ∈ inputs.expectedCorrespondentBics :=
      fun bic => Finset.mem_sort _
    simp only [← hmem, Bool.not_true, Bool.false_eq_true, if_false, forall_const]
    constructor
    · rintro ⟨check, hcheck, hpassed⟩
      obtain ⟨found, hfound, hresult⟩ := Outcome.bind_eq_ok.mp hcheck
      -- neither list of failures has an entry, so each attestation is current
      split_ifs at hresult with hmissing hexpired
      · cases hresult
        cases hpassed
      · cases hresult
        cases hpassed
      · push Not at hmissing hexpired
        simp only [List.map_eq_nil_iff, List.filter_eq_nil_iff, decide_eq_true_eq]
          at hmissing hexpired
        intro bic hbic
        obtain ⟨entry, hentry, hread⟩ := Outcome.mem_of_collect hfound hbic
        obtain ⟨attestation, hattestation, hpair⟩ := Outcome.bind_eq_ok.mp hread
        cases hpair
        rw [hattestation]
        have hnot := hmissing _ hentry
        have hnot' := hexpired _ hentry
        rcases attestation with _ | _ | _
        · exact absurd rfl hnot
        · exact absurd rfl hnot'
        · rfl
    · intro hcurrent
      have hcollect : Outcome.collect (fun bic => do
          let attestation ← attestationOf inputs bic
          .ok (bic, attestation)) (expectedBics inputs) =
          .ok ((expectedBics inputs).map fun bic => (bic, Attestation.current)) := by
        rw [← Outcome.collect_ok]
        apply Outcome.collect_congr
        intro bic hbic
        rw [hcurrent bic hbic]
        rfl
      refine ⟨pass inputs .correspondentBankCompliance, ?_, rfl⟩
      rw [hcollect]
      simp [List.filter_map]

/-! ### The verification -/

theorem unlessExpired_kind {expiresAt : Timestamp} {kind : EligibilityCheckKind} {reason : String}
    (h : unlessExpired inputs kind expiresAt reason = .ok check) : check.kind = kind := by
  obtain ⟨expired, -, hresult⟩ := Outcome.bind_eq_ok.mp h
  split_ifs at hresult <;> cases hresult <;> rfl

theorem unlessMatched_kind {kind : EligibilityCheckKind} {screenings : List ScreeningEvidence}
    {notPerformed : String} {matched : ScreeningEvidence → String} :
    (unlessMatched inputs kind screenings notPerformed matched).kind = kind := by
  rw [unlessMatched]
  split_ifs
  · rfl
  · split <;> rfl

theorem verifyKyc_kind (h : verifyKyc inputs = .ok check) : check.kind = .kyc := by
  rw [verifyKyc] at h
  split at h
  · cases h
    rfl
  · exact unlessExpired_kind h

theorem verifyKyb_kind (h : verifyKyb inputs = .ok check) : check.kind = .kyb := by
  rw [verifyKyb] at h
  split_ifs at h
  · cases h
    rfl
  · split at h
    · cases h
      rfl
    · exact unlessExpired_kind h

theorem verifyCorrespondentBankCompliance_kind
    (h : verifyCorrespondentBankCompliance inputs = .ok check) :
    check.kind = .correspondentBankCompliance := by
  rw [verifyCorrespondentBankCompliance] at h
  split_ifs at h
  · cases h
    rfl
  · obtain ⟨found, -, hresult⟩ := Outcome.bind_eq_ok.mp h
    simp only at hresult
    split_ifs at hresult <;> cases hresult <;> rfl

/-- The verification holds the five results, whenever each check returns one. -/
theorem verifyEligibility_eq_ok {verification : EligibilityVerification} :
    verifyEligibility inputs = .ok verification ↔
      ∃ kyc kyb correspondents, verifyKyc inputs = .ok kyc ∧ verifyKyb inputs = .ok kyb ∧
        verifyCorrespondentBankCompliance inputs = .ok correspondents ∧
        verification.checks =
          [kyc, kyb, verifyOfac inputs, verifySanctions inputs, correspondents] := by
  constructor
  · intro h
    obtain ⟨kyc, hkyc, h⟩ := Outcome.bind_eq_ok.mp h
    obtain ⟨kyb, hkyb, h⟩ := Outcome.bind_eq_ok.mp h
    obtain ⟨correspondents, hcorrespondents, h⟩ := Outcome.bind_eq_ok.mp h
    rw [EligibilityVerification.build] at h
    split_ifs at h
    cases h
    exact ⟨kyc, kyb, correspondents, hkyc, hkyb, hcorrespondents, rfl⟩
  · rintro ⟨kyc, kyb, correspondents, hkyc, hkyb, hcorrespondents, hchecks⟩
    rw [verifyEligibility, hkyc, hkyb, hcorrespondents]
    simp only [Outcome.ok_bind, EligibilityVerification.build]
    rcases verification with ⟨checks, hcomplete⟩
    cases hchecks
    rw [dif_pos hcomplete]

/-- All five checks pass exactly on eligible evidence. -/
theorem verifyEligibility_passes_iff :
    (∃ verification, verifyEligibility inputs = .ok verification ∧
      verification.allPassed = true) ↔ Eligible inputs := by
  constructor
  · rintro ⟨verification, hverified, hpassed⟩
    obtain ⟨kyc, kyb, correspondents, hkyc, hkyb, hcorrespondents, hchecks⟩ :=
      verifyEligibility_eq_ok.mp hverified
    rw [EligibilityVerification.allPassed, hchecks] at hpassed
    simp only [List.all_cons, List.all_nil, Bool.and_true, Bool.and_eq_true] at hpassed
    obtain ⟨hkyc', hkyb', hofac, hsanctions, hcorrespondents'⟩ := hpassed
    rw [verifyOfac, unlessMatched_passes_iff] at hofac
    rw [verifySanctions, unlessMatched_passes_iff] at hsanctions
    refine ⟨verifyKyc_passes_iff.mp ⟨kyc, hkyc, hkyc'⟩, verifyKyb_passes_iff.mp ⟨kyb, hkyb, hkyb'⟩,
      hofac.1, hofac.2, hsanctions.1, hsanctions.2, ?_⟩
    intro hrequired bic hbic
    exact attestationOf_eq_current.mp (verifyCorrespondentBankCompliance_passes_iff.mp
      ⟨correspondents, hcorrespondents, hcorrespondents'⟩ hrequired bic hbic)
  · intro h
    obtain ⟨kyc, hkyc, hkyc'⟩ := verifyKyc_passes_iff.mpr h.owner
    obtain ⟨kyb, hkyb, hkyb'⟩ := verifyKyb_passes_iff.mpr h.counterparty
    obtain ⟨correspondents, hcorrespondents, hcorrespondents'⟩ :=
      verifyCorrespondentBankCompliance_passes_iff.mpr fun hrequired bic hbic =>
        attestationOf_eq_current.mpr (h.correspondents hrequired bic hbic)
    have hofac : (verifyOfac inputs).passed = true :=
      unlessMatched_passes_iff.mpr ⟨h.ofac_screened, h.ofac_clear⟩
    have hsanctions : (verifySanctions inputs).passed = true :=
      unlessMatched_passes_iff.mpr ⟨h.sanctions_screened, h.sanctions_clear⟩
    have hcomplete : ([kyc, kyb, verifyOfac inputs, verifySanctions inputs, correspondents].map
        EligibilityCheck.kind).Perm EligibilityCheckKind.all := by
      simp only [List.map_cons, List.map_nil, verifyKyc_kind hkyc, verifyKyb_kind hkyb,
        verifyOfac, verifySanctions, unlessMatched_kind,
        verifyCorrespondentBankCompliance_kind hcorrespondents]
      exact List.Perm.refl _
    refine ⟨⟨_, hcomplete⟩, verifyEligibility_eq_ok.mpr
      ⟨kyc, kyb, correspondents, hkyc, hkyb, hcorrespondents, rfl⟩, ?_⟩
    simp [EligibilityVerification.allPassed, hkyc', hkyb', hcorrespondents', hofac, hsanctions]

end Checks

end Atreides
