import Mathlib.Data.String.Basic
import Atreides.Deadlines.Calendar
import Atreides.Foundation.Arithmetic
import Atreides.Foundation.SortedSet
import Atreides.Kernel

/-!
# Margin

The margin of an account under Regulation T, the maintenance rule and the house rate: the market
value of its long and short positions, its equity, what each rule requires, and the calls that
follow. The rates come from a table of rows, each pinned to the bytes of its source; a row whose
source has other bytes is missing, and without every rate nothing is decided. The amounts are
those of any arithmetic.

## Main definitions

* `MarginAccount`, `MarginResult` — the account, and what is computed of it
* `loadRules` — the rates whose sources are the pinned ones
* `computeMargin` — the margin of an account
-/

namespace Atreides

namespace Margin

open Arithmetic (zero ofDecimal lt add sub mul neg abs)

/-! ## Accounts and results -/

section Records

variable (N : Type) [Arithmetic N]

/-- A position at a positive price. -/
structure MarginPosition where
  issue : String
  quantity : N
  price : N
  newTrade : Bool := false
  issue_nonempty : issue ≠ "" := by decide
  price_pos : lt zero price = true := by decide

structure MarginAccount where
  accountId : String
  cashBalance : N
  positions : List (MarginPosition N)
  accountId_nonempty : accountId ≠ "" := by decide

/-- Money that is called for. -/
structure MarginCall where
  kind : String
  amount : N
  dueDate : Option Date
  authority : String
  duePeriodAuthority : Option String := none

/-- Positions that would cure a deficiency, the largest first. It is advice only. -/
structure LiquidationRecommendation where
  positions : List String
  estimatedProceeds : N
  reason : String

/-- A rate that was used, and where it is from. -/
structure RuleTrace where
  ruleId : String
  citation : String
  sourceSha256 : String
  value : N

structure MarginResult where
  accountId : String
  disposition : Disposition
  longMarketValue : N
  shortMarketValue : N
  debitBalance : N
  creditBalance : N
  equity : N
  regTInitialRequirement : Option N
  finraMaintenanceRequirement : Option N
  houseRequirement : Option N
  excessOrDeficiency : Option N
  calls : List (MarginCall N)
  liquidation : Option (LiquidationRecommendation N)
  rulesUsed : List (RuleTrace N)
  missingRules : List String

end Records

/-! ## Rules -/

/-- A row of the table: a rate, with the bytes its source is pinned to. -/
structure RuleRow where
  ruleId : String
  citation : String
  sourceFile : String
  sourceSha256 : String
  value : FiniteDecimal

variable {N : Type} [Arithmetic N]

/-- The rates that are loaded, where each is from, and the rows that are missing. -/
structure LoadedRules (N : Type) where
  values : Dict String N := .empty
  traces : List (RuleTrace N) := []
  missing : List String := []

/-- One row of the table. A source that is not there has no digest. -/
def loadRule (sha256 : String → String) (loaded : LoadedRules N) (row : RuleRow) :
    LoadedRules N :=
  if sha256 row.sourceFile ≠ row.sourceSha256 then
    { loaded with missing := loaded.missing ++ [row.ruleId] }
  else
    { loaded with
      values := loaded.values.set row.ruleId (ofDecimal row.value)
      traces := loaded.traces ++
        [⟨row.ruleId, row.citation, sha256 row.sourceFile, ofDecimal row.value⟩] }

/-- The rates of the rows whose sources have the bytes they are pinned to. -/
def loadRules (sha256 : String → String) (rows : List RuleRow) : LoadedRules N :=
  rows.foldl (loadRule sha256) {}

/-- The rates without which nothing is decided. -/
def requiredRules : List String :=
  ["reg_t.initial", "reg_t.payment_period", "finra.long_maintenance",
    "finra.short_under_5_percent", "finra.short_under_5_per_share",
    "finra.short_5_plus_percent", "finra.short_5_plus_per_share"]

/-- The rates that are missing: those whose sources changed, and those that no row states. -/
def allMissing (loaded : LoadedRules N) : List String :=
  sortedSet (loaded.missing ++ requiredRules.filter fun id => id ∉ loaded.values.keys)

/-- A loaded rate. -/
def rate (loaded : LoadedRules N) (ruleId : String) : Outcome N :=
  match loaded.values.get? ruleId with
  | some value => .ok value
  | none => .error (.keyError ruleId)

omit [Arithmetic N] in
/-- Where no rate is missing, every required rate is loaded. -/
theorem rate_of_allMissing {loaded : LoadedRules N} {ruleId : String}
    (h : allMissing loaded = []) (hrequired : ruleId ∈ requiredRules) :
    ∃ value, loaded.values.get? ruleId = some value := by
  have hnot : ruleId ∉ allMissing loaded := by
    rw [h]
    exact List.not_mem_nil
  rw [allMissing, mem_sortedSet, List.mem_append, not_or, List.mem_filter] at hnot
  have hkey : ruleId ∈ loaded.values.keys := by
    by_contra hkey
    exact hnot.2 ⟨hrequired, by simpa using hkey⟩
  exact Option.isSome_iff_exists.mp (Dict.get?_isSome_iff.mpr hkey)

/-! The table as it is committed. -/

def regTSha256 : String := "56391ca4bd4f7aac78962f0ab39655ee3ff84ad25f070f66577a5e65c4464def"

def finra4210Sha256 : String := "779835babaebfaed62ea0de0291b8d03b38b51148ea5c289ebb8527c67ca4f8e"

def regTRow (ruleId citation : String) (value : FiniteDecimal) : RuleRow :=
  ⟨ruleId, citation, "reg-t.txt", regTSha256, value⟩

def finra4210Row (ruleId citation : String) (value : FiniteDecimal) : RuleRow :=
  ⟨ruleId, citation, "finra-4210.txt", finra4210Sha256, value⟩

def marginTable : List RuleRow := [
  regTRow "reg_t.initial" "12 CFR 220.12" ⟨false, 50, -2⟩,
  regTRow "reg_t.payment_period" "12 CFR 220.2" 4,
  finra4210Row "finra.long_maintenance" "FINRA Rule 4210(c)(1)" ⟨false, 25, -2⟩,
  finra4210Row "finra.short_under_5_percent" "FINRA Rule 4210(c)(2)" ⟨false, 100, -2⟩,
  finra4210Row "finra.short_under_5_per_share" "FINRA Rule 4210(c)(2)" ⟨false, 250, -2⟩,
  finra4210Row "finra.short_5_plus_percent" "FINRA Rule 4210(c)(3)" ⟨false, 30, -2⟩,
  finra4210Row "finra.short_5_plus_per_share" "FINRA Rule 4210(c)(3)" ⟨false, 500, -2⟩]

theorem marginTable_unique : (marginTable.map RuleRow.ruleId).Nodup := by decide

/-! ## Figures -/

/-- The value of a long position, added to the others. -/
def addLong (total : N) (position : MarginPosition N) : Outcome N :=
  if lt zero position.quantity then do
    let value ← mul position.quantity position.price
    add total value
  else .ok total

/-- The value of a short position, added to the others. -/
def addShort (total : N) (position : MarginPosition N) : Outcome N :=
  if lt position.quantity zero then do
    let shares ← neg position.quantity
    let value ← mul shares position.price
    add total value
  else .ok total

def longValue (positions : List (MarginPosition N)) : Outcome N :=
  Outcome.foldSteps addLong zero positions

def shortValue (positions : List (MarginPosition N)) : Outcome N :=
  Outcome.foldSteps addShort zero positions

/-- The rates of a short position: by the value, and by the share. A price below five has rates
of its own. -/
def shortRates (loaded : LoadedRules N) (price : N) : Outcome (N × N) :=
  if lt price (ofDecimal 5) then do
    let percent ← rate loaded "finra.short_under_5_percent"
    let perShare ← rate loaded "finra.short_under_5_per_share"
    .ok (percent, perShare)
  else do
    let percent ← rate loaded "finra.short_5_plus_percent"
    let perShare ← rate loaded "finra.short_5_plus_per_share"
    .ok (percent, perShare)

/-- The maintenance of a short position, added to the rest. -/
def addShortMaintenance (loaded : LoadedRules N) (maintenance : N)
    (position : MarginPosition N) : Outcome N :=
  if !lt position.quantity zero then .ok maintenance
  else do
    let shares ← neg position.quantity
    let market ← mul shares position.price
    let (percent, perShare) ← shortRates loaded position.price
    let byValue ← mul market percent
    let byShare ← mul shares perShare
    add maintenance (Arithmetic.max byValue byShare)

/-- What the account is worth. -/
structure Figures (N : Type) where
  long : N
  short : N
  debit : N
  credit : N
  equity : N

def figures (account : MarginAccount N) : Outcome (Figures N) := do
  let long ← longValue account.positions
  let short ← shortValue account.positions
  let owed ← neg account.cashBalance
  let debit := Arithmetic.max owed zero
  let credit := Arithmetic.max account.cashBalance zero
  let assets ← add long credit
  let covered ← sub assets short
  let equity ← sub covered debit
  .ok { long, short, debit, credit, equity }

/-- What the rules require. -/
structure Requirements (N : Type) where
  initial : N
  maintenance : N
  house : N

def requirements (loaded : LoadedRules N) (account : MarginAccount N) (figures : Figures N)
    (houseMaintenanceRate : N) : Outcome (Requirements N) := do
  let newLong ← longValue (account.positions.filter MarginPosition.newTrade)
  let newShort ← shortValue (account.positions.filter MarginPosition.newTrade)
  let bought ← add newLong newShort
  let initialRate ← rate loaded "reg_t.initial"
  let initial ← mul bought initialRate
  let maintenanceRate ← rate loaded "finra.long_maintenance"
  let ofLong ← mul figures.long maintenanceRate
  let maintenance ← Outcome.foldSteps (addShortMaintenance loaded) ofLong account.positions
  let gross ← add figures.long figures.short
  let house ← mul gross houseMaintenanceRate
  .ok { initial, maintenance, house }

/-! ## Calls -/

/-- When a decision is made, and by which calendar its calls fall due. -/
structure MarginSetting where
  tradeDate : Date
  calendar : DeadlineCalendar
  maintenanceCallDueBusinessDays : ℤ

/-- The initial requirement of what was newly traded is not met. -/
def regTCall (loaded : LoadedRules N) (setting : MarginSetting) (initial equity : N) :
    Outcome (List (MarginCall N)) :=
  if lt (Arithmetic.max equity zero) initial then do
    let amount ← sub initial (Arithmetic.max equity zero)
    let days ← rate loaded "reg_t.payment_period"
    let due ← setting.calendar.addBusinessDays setting.tradeDate (Arithmetic.truncate days)
    .ok [{ kind := "REG_T", amount, dueDate := some due, authority := "12 CFR Part 220" }]
  else .ok []

def maintenanceCall (setting : MarginSetting) (maintenance equity : N) :
    Outcome (List (MarginCall N)) :=
  if lt equity maintenance then do
    let amount ← sub maintenance equity
    let due ← setting.calendar.addBusinessDays setting.tradeDate
      setting.maintenanceCallDueBusinessDays
    .ok [{ kind := "MAINTENANCE", amount, dueDate := some due
           authority := "FINRA Rule 4210(c)", duePeriodAuthority := some "INTERNAL_POLICY" }]
  else .ok []

def houseCall (maintenance house equity : N) : Outcome (List (MarginCall N)) :=
  if lt maintenance house && lt equity house then do
    let amount ← sub house equity
    .ok [{ kind := "HOUSE", amount, dueDate := none, authority := "INTERNAL_POLICY" }]
  else .ok []

/-- The absolute market value of a position, with its issue. -/
def absoluteValue (position : MarginPosition N) : Outcome (N × String) := do
  let value ← mul position.quantity position.price
  let value ← abs value
  .ok (value, position.issue)

/-- The positions that would cure a deficiency: all of them, the largest first, and those of one
value in the order of the account. -/
def liquidationOf (account : MarginAccount N) (long deficiency : N) :
    Outcome (Option (LiquidationRecommendation N)) :=
  if lt zero deficiency then do
    let valued ← Outcome.collect absoluteValue account.positions
    let ordered := valued.insertionSort fun a b => Arithmetic.le b.1 a.1 = true
    .ok (some {
      positions := ordered.map Prod.snd
      estimatedProceeds := Arithmetic.min long deficiency
      reason := "advisory positions ordered by absolute market value to cure deficiency" })
  else .ok none

/-! ## The engine -/

/-- Nothing is decided without every rate. -/
def undecided (loaded : LoadedRules N) (account : MarginAccount N) (figures : Figures N) :
    MarginResult N where
  accountId := account.accountId
  disposition := .indeterminate
  longMarketValue := figures.long
  shortMarketValue := figures.short
  debitBalance := figures.debit
  creditBalance := figures.credit
  equity := figures.equity
  regTInitialRequirement := none
  finraMaintenanceRequirement := none
  houseRequirement := none
  excessOrDeficiency := none
  calls := []
  liquidation := none
  rulesUsed := loaded.traces
  missingRules := allMissing loaded

/-- The margin of an account, where every rate is loaded. -/
def decided (loaded : LoadedRules N) (account : MarginAccount N) (setting : MarginSetting)
    (figures : Figures N) (houseMaintenanceRate : N) : Outcome (MarginResult N) := do
  let required ← requirements loaded account figures houseMaintenanceRate
  let governing := Arithmetic.max required.maintenance required.house
  let deficiency ← sub governing figures.equity
  let regT ← regTCall loaded setting required.initial figures.equity
  let maintenance ← maintenanceCall setting required.maintenance figures.equity
  let house ← houseCall required.maintenance required.house figures.equity
  let liquidation ← liquidationOf account figures.long deficiency
  let excess ← sub figures.equity governing
  .ok {
    accountId := account.accountId
    disposition := if lt zero deficiency then .hold else .pass
    longMarketValue := figures.long
    shortMarketValue := figures.short
    debitBalance := figures.debit
    creditBalance := figures.credit
    equity := figures.equity
    regTInitialRequirement := some required.initial
    finraMaintenanceRequirement := some required.maintenance
    houseRequirement := some required.house
    excessOrDeficiency := some excess
    calls := regT ++ maintenance ++ house
    liquidation
    rulesUsed := loaded.traces
    missingRules := [] }

/-- The margin of an account. -/
def computeMargin (sha256 : String → String) (rows : List RuleRow) (account : MarginAccount N)
    (setting : MarginSetting) (houseMaintenanceRate : N) : Outcome (MarginResult N) := do
  let loaded := loadRules sha256 rows
  let figures ← figures account
  if allMissing loaded ≠ [] then .ok (undecided loaded account figures)
  else decided loaded account setting figures houseMaintenanceRate

end Margin

/-- The sources are the pinned ones. -/
def pinnedSources (file : String) : String :=
  if file = "reg-t.txt" then Margin.regTSha256 else Margin.finra4210Sha256

end Atreides
