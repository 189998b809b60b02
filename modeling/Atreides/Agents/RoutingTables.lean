import Mathlib.Data.Finset.Basic
import Atreides.Foundation.Casing

/-!
# Routing tables

The registry of approved paths. A path serves some of the seven dimensions of path selection,
and the registry answers each dimension's query with the paths that meet its criteria, in the
order of the registry.

## Main definitions

* `PathSelectionDimension` — the seven dimensions
* `ApprovedPath`, `RoutingTables` — a path, and the registry of them
* `RoutingTables.isApproved` — whether a path is approved for a dimension
* `RoutingTables.findRailPaths` and its siblings — the queries

## Main results

* `RoutingTables.findPath_eq_some_iff` — an identifier names the one path that has it
* `RoutingTables.isApproved_of_mem` — a path of the registry is approved for what it serves
-/

namespace Atreides

/-! ## Vocabulary -/

inductive PathSelectionDimension
  | multiCurrencyRailRouting
  | correspondentBankingCoordination
  | crossBorderFxLeg
  | depositoryVsSubCustodian
  | largeValuePaymentSystem
  | fedRelatedOperation
  | cashSweepAndShortTermInvestment
  deriving DecidableEq, Repr

def PathSelectionDimension.value : PathSelectionDimension → String
  | multiCurrencyRailRouting => "multi_currency_rail_routing"
  | correspondentBankingCoordination => "correspondent_banking_coordination"
  | crossBorderFxLeg => "cross_border_fx_leg"
  | depositoryVsSubCustodian => "depository_vs_sub_custodian"
  | largeValuePaymentSystem => "large_value_payment_system"
  | fedRelatedOperation => "fed_related_operation"
  | cashSweepAndShortTermInvestment => "cash_sweep_and_short_term_investment"

/-- When settlement over a path is final. -/
inductive FinalityModel
  | rtgsFinal
  | netFinalEod
  | batchFinal
  | correspondentDependent
  | atomicPvp
  deriving DecidableEq, Repr

def FinalityModel.value : FinalityModel → String
  | rtgsFinal => "rtgs_final"
  | netFinalEod => "net_final_eod"
  | batchFinal => "batch_final"
  | correspondentDependent => "correspondent_dependent"
  | atomicPvp => "atomic_pvp"

/-- The dimensions whose paths are rails. -/
def railDimensions : Finset PathSelectionDimension :=
  {.multiCurrencyRailRouting, .largeValuePaymentSystem}

/-! ## Paths -/

/-- An approved path. Its texts are without white space at their ends. -/
structure ApprovedPath where
  pathId : String
  dimensions : Finset PathSelectionDimension
  description : String
  eligibleCurrencies : Finset String := ∅
  eligibleJurisdictions : Finset String := ∅
  finalityModel : Option FinalityModel := none
  correspondentBic : Option String := none
  pvpEligiblePairs : Finset String := ∅
  pathId_nonempty : pathId ≠ "" := by decide
  description_nonempty : description ≠ "" := by decide
  dimensions_nonempty : dimensions ≠ ∅ := by decide
  rail_has_finality :
    dimensions ∩ railDimensions ≠ ∅ → finalityModel.isSome = true := by decide
  correspondent_has_bic :
    .correspondentBankingCoordination ∈ dimensions →
      correspondentBic.any (· ≠ "") = true := by decide
  pairs_only_on_fx : pvpEligiblePairs ≠ ∅ → .crossBorderFxLeg ∈ dimensions := by decide
  deriving DecidableEq

/-- The registry. No two paths have one identifier. -/
structure RoutingTables where
  paths : List ApprovedPath
  pathIds_nodup : (paths.map ApprovedPath.pathId).Nodup

namespace RoutingTables

variable {tables : RoutingTables} {path : ApprovedPath} {pathId : String}
  {dimension : PathSelectionDimension}

def findPath (tables : RoutingTables) (pathId : String) : Option ApprovedPath :=
  tables.paths.find? fun path => path.pathId = pathId

def isApproved (tables : RoutingTables) (pathId : String) (dimension : PathSelectionDimension) :
    Bool :=
  (tables.findPath pathId).any fun path => dimension ∈ path.dimensions

/-- A jurisdiction is met where none is stated, or the path operates in it. -/
def meetsJurisdiction (jurisdiction : Option String) (path : ApprovedPath) : Bool :=
  jurisdiction.all fun stated => stated ∈ path.eligibleJurisdictions

def findRailPaths (tables : RoutingTables) (currency : String) (jurisdiction : Option String)
    (finalityModel : Option FinalityModel) : List ApprovedPath :=
  tables.paths.filter fun path =>
    path.dimensions ∩ railDimensions ≠ ∅ && currency ∈ path.eligibleCurrencies &&
      meetsJurisdiction jurisdiction path &&
      finalityModel.all fun stated => path.finalityModel = some stated

def findCorrespondentPaths (tables : RoutingTables) (currency : String)
    (jurisdiction : Option String) : List ApprovedPath :=
  tables.paths.filter fun path =>
    .correspondentBankingCoordination ∈ path.dimensions && currency ∈ path.eligibleCurrencies &&
      meetsJurisdiction jurisdiction path

def findFxPvpPaths (tables : RoutingTables) (currencyPair : String) : List ApprovedPath :=
  tables.paths.filter fun path =>
    .crossBorderFxLeg ∈ path.dimensions && upper currencyPair ∈ path.pvpEligiblePairs

def findDepositoryPaths (tables : RoutingTables) (jurisdiction : String) : List ApprovedPath :=
  tables.paths.filter fun path =>
    .depositoryVsSubCustodian ∈ path.dimensions && jurisdiction ∈ path.eligibleJurisdictions

def findCashSweepPaths (tables : RoutingTables) (currency : String) : List ApprovedPath :=
  tables.paths.filter fun path =>
    .cashSweepAndShortTermInvestment ∈ path.dimensions && currency ∈ path.eligibleCurrencies

/-! ## What an identifier names -/

/-- An identifier names the one path that has it. -/
theorem findPath_eq_some_iff :
    tables.findPath pathId = some path ↔ path ∈ tables.paths ∧ path.pathId = pathId := by
  have hnodup := tables.pathIds_nodup
  rw [findPath]
  generalize tables.paths = paths at hnodup ⊢
  induction paths with
  | nil => simp
  | cons first rest ih =>
    rw [List.map_cons, List.nodup_cons] at hnodup
    by_cases hfirst : first.pathId = pathId
    · rw [List.find?_cons_of_pos (by simpa using hfirst), Option.some.injEq, List.mem_cons]
      constructor
      · rintro rfl
        exact ⟨Or.inl rfl, hfirst⟩
      · rintro ⟨rfl | hrest, hid⟩
        · rfl
        · -- a later path with the identifier would repeat it
          exact absurd (List.mem_map.mpr ⟨path, hrest, hid.trans hfirst.symm⟩) hnodup.1
    · rw [List.find?_cons_of_neg (by simpa using hfirst), List.mem_cons]
      refine (ih hnodup.2).trans ?_
      constructor
      · rintro ⟨hrest, hid⟩
        exact ⟨Or.inr hrest, hid⟩
      · rintro ⟨rfl | hrest, hid⟩
        · exact absurd hid hfirst
        · exact ⟨hrest, hid⟩

/-- A path of the registry is approved for exactly what it serves. -/
theorem isApproved_of_mem (h : path ∈ tables.paths) :
    tables.isApproved path.pathId dimension = true ↔ dimension ∈ path.dimensions := by
  have hfound := findPath_eq_some_iff.mpr ⟨h, rfl⟩
  simp [isApproved, hfound]

end RoutingTables

end Atreides
