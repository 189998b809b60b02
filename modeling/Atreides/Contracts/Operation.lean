import Atreides.Foundation.Text
import Atreides.Foundation.Timestamp
import Atreides.Foundation.Uuid

/-!
# Custody operations

The contract of a custody operation, as the agents read it: its lineage, the asset and the
owner it acts on, what its failure would mean, the surface it is on where it is on one, and
how it settles. An operation whose failure is final is on a surface, and one on a surface is
under quorum authority.

## Main definitions

* `DsorLineageStub` — the lineage an operation carries
* `FailureModeClass`, `InherentSafetySurface`, `Contracts.SettlementMethod` — the vocabularies
* `CustodyOperation` — the operation
-/

namespace Atreides

/-! ## Digests -/

/-- The text is a digest in hexadecimal: 64 digits, in lower case. -/
def isSha256Hex (text : String) : Bool :=
  text.length = 64 && text.toList.all fun c => c.isDigit || ('a' ≤ c && c ≤ 'f')

/-- A digest in hexadecimal. -/
structure Sha256Hex where
  text : String
  wellFormed : isSha256Hex text = true := by decide
  deriving DecidableEq

/-! ## Lineage -/

def currentDoctrineVersion : String := "1.6"

def caomModeDefault : String := "CAOM-001"

theorem caomModeDefault_ne_empty : caomModeDefault ≠ "" := by decide

/-- The tiers of authority. The last is that of a quorum. -/
inductive CaomTier
  | t0
  | t1
  | t2
  | t3
  | quorum
  deriving DecidableEq, Repr

/-- The lineage an operation travels with. -/
@[ext]
structure DsorLineageStub where
  operationId : Uuid
  doctrineVersion : String := currentDoctrineVersion
  caomMode : String := caomModeDefault
  authorityTier : CaomTier
  authorityId : String
  initiatedAt : Timestamp
  sessionId : Option String := none
  c2HandoffId : Option String := none
  preOperationStateHash : Sha256Hex
  postOperationStateHash : Option Sha256Hex := none
  caomMode_nonempty : caomMode ≠ "" := by decide
  authorityId_nonempty : authorityId ≠ "" := by decide

instance : DecidableEq DsorLineageStub := fun _ _ => decidable_of_iff _ DsorLineageStub.ext_iff.symm

/-- The text is a doctrine version: two or three numbers, joined by points. -/
def isDoctrineVersion (text : String) : Bool :=
  let parts := text.toList.splitOn '.'
  (parts.length = 2 || parts.length = 3) &&
    parts.all fun part => !part.isEmpty && part.all isDecimalDigit

/-- Build a lineage from its texts, which are trimmed and checked. -/
def DsorLineageStub.ofTexts (operationId : Uuid) (doctrineVersion caomMode : String)
    (authorityTier : CaomTier) (authorityId : String) (initiatedAt : Timestamp)
    (preOperationStateHash : Sha256Hex) : Outcome DsorLineageStub :=
  if hmode : trimmed caomMode = "" then
    .error (.refused "ValidationError" "caom_mode: String should have at least 1 character")
  else if hauthority : trimmed authorityId = "" then
    .error (.refused "ValidationError" "authority_id: String should have at least 1 character")
  else if !isDoctrineVersion (trimmed doctrineVersion) then
    .error (.refused "ValidationError" ("doctrine_version " ++ quoted (trimmed doctrineVersion) ++
      " must match 'major.minor' or 'major.minor.patch' per AUR-CANONICAL-001 v1.6 Section VII."))
  else
    .ok {
      operationId
      doctrineVersion := trimmed doctrineVersion
      caomMode := trimmed caomMode
      authorityTier
      authorityId := trimmed authorityId
      initiatedAt
      preOperationStateHash
      caomMode_nonempty := hmode
      authorityId_nonempty := hauthority }

/-! ## What a failure would mean -/

/-- How an operation can fail: recoverably, by the system or by hand, or not, and then with or
without a remedy outside. -/
inductive FailureModeClass
  | ra
  | rm
  | urR
  | urF
  deriving DecidableEq, Repr

namespace FailureModeClass

def value : FailureModeClass → String
  | ra => "RA"
  | rm => "RM"
  | urR => "UR-R"
  | urF => "UR-F"

/-- No mechanism undoes the failure. -/
def isFinal (failure : FailureModeClass) : Bool := failure = urF

end FailureModeClass

/-- The surfaces on which no single failure may cause a loss. -/
inductive InherentSafetySurface
  | pledgedAssetMaterial
  | nativeDigitalAssetMaterial
  | tokenizedAssetIssuer
  | fiatSettlementMaterial
  | correspondentBankingIntegrity
  | depositoryMembership
  | largeValuePaymentFinality
  | fxBundledSettlement
  | keyCeremony
  | coldStorage
  | custodianOfCustodian
  | beneficialOwnerIdentityChange
  | quorumEnrollmentChange
  | physicalCommodityVaultMaterial
  | realEstateTitle
  | ipRightsMaterial
  | insuranceContractMaterial
  | ilsTriggerDetermination
  | carbonCreditRegistryMaterial
  | physicalAssetAuthentication
  deriving DecidableEq, Repr

def InherentSafetySurface.value : InherentSafetySurface → String
  | pledgedAssetMaterial => "pledged_asset_material_magnitude"
  | nativeDigitalAssetMaterial => "native_digital_asset_material_magnitude"
  | tokenizedAssetIssuer => "tokenized_asset_issuer"
  | fiatSettlementMaterial => "fiat_settlement_material_magnitude"
  | correspondentBankingIntegrity => "correspondent_banking_integrity"
  | depositoryMembership => "depository_membership"
  | largeValuePaymentFinality => "large_value_payment_finality"
  | fxBundledSettlement => "fx_bundled_settlement"
  | keyCeremony => "key_ceremony"
  | coldStorage => "cold_storage"
  | custodianOfCustodian => "custodian_of_custodian"
  | beneficialOwnerIdentityChange => "beneficial_owner_identity_change"
  | quorumEnrollmentChange => "quorum_enrollment_change"
  | physicalCommodityVaultMaterial => "physical_commodity_vault_material"
  | realEstateTitle => "real_estate_title"
  | ipRightsMaterial => "ip_rights_material"
  | insuranceContractMaterial => "insurance_contract_material"
  | ilsTriggerDetermination => "ils_trigger_determination"
  | carbonCreditRegistryMaterial => "carbon_credit_registry_material"
  | physicalAssetAuthentication => "physical_asset_authentication"

/-! ## How an operation settles -/

/-- The settlement methods, with what some of them name. -/
inductive Contracts.SettlementMethod
  | dvp1
  | dvp2
  | dvp3
  | dvd
  | pvp (viaCls : Bool)
  | fop
  | atomic (rail : String)
  | conditional (condition : String)
  | triparty (agent : String)
  | bilateral
  | ccpCleared (ccp : String)
  deriving DecidableEq, Repr

/-! ## What an operation acts on -/

inductive MajorAssetCategory
  | traditionalFinancialSecurities
  | fundsAndPooledVehicles
  | physicalAndFinancialCommodities
  | realEstateAndRealAssets
  | insuranceAndReinsurance
  | intellectualPropertyAndRoyalties
  | tradeFinanceAndReceivables
  | tokenizedRepresentations
  | nativeDigitalAssets
  | alternativeAndSpecialtyAssets
  | emerging
  deriving DecidableEq, Repr

def MajorAssetCategory.value : MajorAssetCategory → String
  | traditionalFinancialSecurities => "traditional_financial_securities"
  | fundsAndPooledVehicles => "funds_and_pooled_vehicles"
  | physicalAndFinancialCommodities => "physical_and_financial_commodities"
  | realEstateAndRealAssets => "real_estate_and_real_assets"
  | insuranceAndReinsurance => "insurance_and_reinsurance"
  | intellectualPropertyAndRoyalties => "intellectual_property_and_royalties"
  | tradeFinanceAndReceivables => "trade_finance_and_receivables"
  | tokenizedRepresentations => "tokenized_representations"
  | nativeDigitalAssets => "native_digital_assets"
  | alternativeAndSpecialtyAssets => "alternative_and_specialty_assets"
  | emerging => "emerging"

/-- The class of an asset, and its identifier where the class has them. -/
structure AssetClass where
  majorCategory : MajorAssetCategory
  subCategory : String
  assetIdentifier : Option String := none
  deriving DecidableEq

/-- The object of custody. -/
structure CustodyObject where
  beneficialOwnerId : String
  assetClass : AssetClass
  deriving DecidableEq

/-! ## Operations -/

/-- A custody operation. The record of a quorum is read for its presence only. -/
structure CustodyOperation where
  kind : String
  lineage : DsorLineageStub
  custodyObject : CustodyObject
  failureModeClass : FailureModeClass
  inherentSafetySurface : Option InherentSafetySurface := none
  hasQuorumAuthority : Bool := false
  settlementMethod : Option Contracts.SettlementMethod := none
  final_on_surface :
    failureModeClass.isFinal = true → inherentSafetySurface.isSome = true := by decide
  surface_has_quorum :
    inherentSafetySurface.isSome = true → hasQuorumAuthority = true := by decide
  quorum_tier : hasQuorumAuthority = true ↔ lineage.authorityTier = .quorum := by decide
  deriving DecidableEq

/-- An operation that is on no surface has a failure that is not final. -/
theorem CustodyOperation.not_final {operation : CustodyOperation}
    (h : operation.inherentSafetySurface = none) : operation.failureModeClass ≠ .urF := by
  intro hfinal
  have hsurface := operation.final_on_surface (by rw [hfinal]; rfl)
  rw [h] at hsurface
  cases hsurface

end Atreides
