import Mathlib.Data.List.Sort
import Mathlib.Data.String.Basic
import Atreides.Foundation.Decimal.Sums
import Atreides.Foundation.Dict
import Atreides.Kernel

/-!
# What the customer protection engines share

Money that is exact and finite, the table of rule items read from the pinned text, and the
reader that remembers what a computation used and what was missing.

## Main definitions

* `Money`, `NonNegativeMoney` — balances, checked where they enter
* `RuleTable`, `RuleReader` — rule items and their reading
* `decide` — the disposition of one computation
-/

namespace Atreides

namespace CustomerProtection

/-! ## Money -/

/-- A balance: any finite decimal. -/
abbrev Money := FiniteDecimal

def Money.check : Decimal → Outcome Money
  | .finite d => .ok d
  | _ => .error (.valueError "finite_number")

/-- A finite decimal that is not negative. -/
structure NonNegativeMoney where
  amount : FiniteDecimal
  nonneg : FiniteDecimal.le 0 amount = true := by decide
  deriving DecidableEq

namespace NonNegativeMoney

instance : Inhabited NonNegativeMoney := ⟨⟨0, rfl⟩⟩

def check : Decimal → Outcome NonNegativeMoney
  | .finite d =>
    if h : FiniteDecimal.le 0 d = true then .ok ⟨d, h⟩
    else .error (.valueError "greater_than_equal")
  | _ => .error (.valueError "finite_number")

/-- A field that may be left out. -/
def checkOptional : Option Decimal → Outcome (Option NonNegativeMoney)
  | none => .ok none
  | some d => some <$> check d

theorem check_eq_ok {d : Decimal} {m : NonNegativeMoney} :
    check d = .ok m ↔ d = .finite m.amount := by
  constructor
  · intro h
    rcases d with d | negative | ⟨negative, signaling, payload⟩
    · rw [check] at h
      split_ifs at h
      cases h
      rfl
    · cases h
    · cases h
  · rintro rfl
    rw [check, dif_pos m.nonneg]

theorem value_nonneg (m : NonNegativeMoney) : 0 ≤ m.amount.value := by
  simpa using FiniteDecimal.le_iff.mp m.nonneg

theorem checkOptional_eq_ok {d : Option Decimal} {m : Option NonNegativeMoney} :
    checkOptional d = .ok m ↔ d = m.map fun m => .finite m.amount := by
  rcases d with _ | d
  · rw [checkOptional, Except.ok.injEq]
    rcases m with _ | m <;> simp
  · rw [checkOptional, Outcome.map_eq_ok]
    constructor
    · rintro ⟨a, ha, rfl⟩
      simp [check_eq_ok.mp ha]
    · intro h
      rcases m with _ | m
      · cases h
      · cases h
        exact ⟨m, check_eq_ok.mpr rfl, rfl⟩

end NonNegativeMoney

/-! ## Rules -/

/-- How an item's figure is read, and whether it has a value at all. -/
inductive RuleKind
  | percent
  | usd
  | months
  | calendarDays
  | businessDays
  | count
  | exhibitACredit
  | exhibitADebit
  | controlLocation
  | noncontrolLocation
  | provision
  deriving DecidableEq, Repr

/-- A rule item the loader has checked against its source. -/
structure RuleItem where
  id : String
  kind : RuleKind
  citation : String
  sourceId : String
  sha256 : String
  value : Option FiniteDecimal
  deriving DecidableEq

/-- Loaded, checked rule items. -/
structure RuleTable where
  items : List RuleItem

namespace RuleTable

/-- The item, or nothing when it was never written or was refused. -/
def get (table : RuleTable) (ruleId : String) : Option RuleItem :=
  table.items.find? fun item => item.id = ruleId

def ofKind (table : RuleTable) (kind : RuleKind) : List RuleItem :=
  table.items.filter fun item => item.kind = kind

theorem get_isSome_of_mem {table : RuleTable} {item : RuleItem} (h : item ∈ table.items) :
    (table.get item.id).isSome = true := by
  rw [get, List.find?_isSome]
  exact ⟨item, h, by simp⟩

end RuleTable

/-- One rule item a computation read. -/
structure RuleRef where
  ruleId : String
  citation : String
  sourceId : String
  sha256 : String
  value : Option FiniteDecimal
  deriving DecidableEq

/-- The rule items of one computation: what was missing and what was used. -/
structure RuleReader where
  table : RuleTable
  missingRules : List String := []
  usedRules : Dict String RuleRef := .empty

namespace RuleReader

/-- Look an item up, remembering whether it is there. -/
def item (reader : RuleReader) (ruleId : String) : RuleReader × Option RuleRef :=
  match reader.table.get ruleId with
  | none => ({ reader with missingRules := Dict.noteKey reader.missingRules ruleId }, none)
  | some item =>
    let ref : RuleRef := ⟨item.id, item.citation, item.sourceId, item.sha256, item.value⟩
    ({ reader with usedRules := reader.usedRules.set ruleId ref }, some ref)

/-- The item's value, or nothing (recorded as missing) when it is not loaded. -/
def value (reader : RuleReader) (ruleId : String) : RuleReader × Option FiniteDecimal :=
  let (reader, ref) := reader.item ruleId
  (reader, ref.bind RuleRef.value)

/-- Whether a categorical item is loaded. -/
def present (reader : RuleReader) (ruleId : String) : RuleReader × Bool :=
  let (reader, ref) := reader.item ruleId
  (reader, ref.isSome)

/-- Record a rule problem that is not a lookup. -/
def flag (reader : RuleReader) (description : String) : RuleReader :=
  { reader with missingRules := Dict.noteKey reader.missingRules description }

/-- Ids of every loaded item of a kind, in table order. -/
def ofKind (reader : RuleReader) (kind : RuleKind) : List String :=
  (reader.table.ofKind kind).map RuleItem.id

def missing (reader : RuleReader) : List String := reader.missingRules.insertionSort (· ≤ ·)

def used (reader : RuleReader) : List RuleRef :=
  (reader.usedRules.keys.insertionSort (· ≤ ·)).filterMap reader.usedRules.get?

end RuleReader

/-- The disposition of one computation: a missing rule outweighs every other finding. -/
protected def decide (missingRules missingInputs breaches : List String) : Disposition :=
  if missingRules ≠ [] then .indeterminate
  else if missingInputs ≠ [] ∨ breaches ≠ [] then .hold
  else .pass

/-- A computation passes where nothing was missing and nothing was breached. -/
theorem decide_eq_pass {missingRules missingInputs breaches : List String} :
    CustomerProtection.decide missingRules missingInputs breaches = .pass ↔
      missingRules = [] ∧ missingInputs = [] ∧ breaches = [] := by
  rw [CustomerProtection.decide]
  by_cases hrules : missingRules = []
  · by_cases hinputs : missingInputs = [] <;> by_cases hbreaches : breaches = [] <;>
      simp [hrules, hinputs, hbreaches]
  · simp [hrules]

end CustomerProtection

end Atreides
