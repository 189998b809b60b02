import Atreides.CustomerProtection.Inputs
import Atreides.CustomerProtection.Reading
import Atreides.Foundation.Agree
import Atreides.Foundation.Decimal.Values
import Atreides.Foundation.Offset
import Atreides.Foundation.Tally

/-!
# Securities haircuts

A government position falls in the maturity band its months lie in. What is held in a band is
netted and charged at the band's rate, and the charges on longs and shorts of one category are
set against each other, or stand apart by election. An equity position is charged on the greater
of its sides, and on what the lesser exceeds a share of the greater by.

## Main definitions

* `governmentBands`, `MaturityBands` — the bands and what a table states for them
* `governmentHaircut`, `equityHaircut` — the haircuts
* `Carried` — no figure of a government haircut is rounded

## Main results

* `MaturityBands.existsUnique_holds` — a position falls in one band
* `governmentLines_exact` — a haircut by its exact figures
-/

namespace Atreides

open DecimalContext (ambient)

namespace CustomerProtection

/-! ## Lines -/

/-- One haircut deduction and where its rate came from. -/
structure HaircutLine where
  assetClass : AssetClass
  description : String
  amount : Money
  paragraph : String
  deriving DecidableEq

/-- What a line states, however its amount is written. -/
def HaircutLine.stated (line : HaircutLine) : AssetClass × String × ℚ × String :=
  (line.assetClass, line.description, line.amount.value, line.paragraph)

/-! ## Maturity bands -/

/-- A category and a subcategory of it. -/
abbrev BandKey := String × String

/-- The categories and their subcategories. -/
def governmentBands : List (String × List String) :=
  [("cat1", ["i", "ii", "iii", "iv"]), ("cat2", ["i", "ii"]), ("cat3", ["i", "ii"]),
    ("cat4", ["i", "ii", "iii", "iv"])]

/-- The bands, in maturity order. -/
def bandKeys : List BandKey := governmentBands.flatMap fun c => c.2.map fun sub => (c.1, sub)

/-- The last band, which has no upper bound. -/
def lastBand : BandKey := ("cat4", "iv")

def bandRate (key : BandKey) : String := "15c3-1.c2viA1." ++ key.1 ++ "." ++ key.2 ++ ".rate"

def bandUpper (key : BandKey) : String :=
  "15c3-1.c2viA1." ++ key.1 ++ "." ++ key.2 ++ ".upper_months"

def govOffset : String := "15c3-1.c2viA1.offset_percent"

/-- A band with its rate and its upper bound in months, where they are loaded. -/
structure Band where
  key : BandKey
  rate : Option FiniteDecimal
  upper : Option FiniteDecimal

def readUpper (key : BandKey) : Reading (Option FiniteDecimal) :=
  if key = lastBand then pure none else Reading.value (bandUpper key)

def readBand (key : BandKey) : Reading Band := do
  let upper ← readUpper key
  let rate ← Reading.value (bandRate key)
  pure ⟨key, rate, upper⟩

/-- The bands with what the rules state for them. -/
def readGovernmentBands : Reading (List Band) := Computation.collect readBand bandKeys

/-- The share of the lesser charge that an election keeps. -/
def readOffset : GovernmentElection → Reading (Option FiniteDecimal)
  | .category => Reading.value govOffset
  | .subcategory => pure (some 0)

/-- What the rules state for the bands, where they state it all. -/
structure MaturityBands where
  limits : List (BandKey × FiniteDecimal)
  final : BandKey
  rates : Dict BandKey FiniteDecimal

/-- The bands, unless a rate or the upper bound of a band before the last is not loaded. -/
def maturityBands (bands : List Band) : Option MaturityBands :=
  if (bands.any fun b => b.rate.isNone) || bands.dropLast.any fun b => b.upper.isNone then none
  else some {
    limits := bands.dropLast.filterMap fun b => b.upper.map fun upper => (b.key, upper)
    final := (bands.getLast?.map Band.key).getD lastBand
    rates := Dict.ofPairs (bands.filterMap fun b => b.rate.map fun rate => (b.key, rate)) }

/-! ## Netting -/

/-- The months to a position's maturity, where they are stated. -/
def Position.months (p : Position) : FiniteDecimal :=
  (p.monthsToMaturity.map NonNegativeMoney.amount).getD 0

namespace MaturityBands

variable (m : MaturityBands)

/-- The band months lie in: the first whose upper bound they are under, or the last. -/
def bandOf (months : FiniteDecimal) : BandKey :=
  ((m.limits.find? fun l => months.lt l.2).map Prod.fst).getD m.final

/-- Add a position's sides to what is held in its band. -/
def enter (net : Dict BandKey FiniteDecimal) (p : Position) :
    Outcome (Dict BandKey FiniteDecimal) := do
  let withLong ← (net.getD (m.bandOf p.months) 0).add ambient p.longMarketValue.amount
  let withShort ← withLong.sub ambient p.shortMarketValue.amount
  .ok (net.set (m.bandOf p.months) withShort)

/-- Net a position, unless its months are not stated. -/
def netPosition (net : Dict BandKey FiniteDecimal) (p : Position) :
    Reading (Dict BandKey FiniteDecimal) :=
  if p.monthsToMaturity.isNone then do
    Reading.missInput ("months_to_maturity[" ++ p.issue ++ "]")
    pure net
  else Computation.ofOutcome (m.enter net p)

def netPositions (net : Dict BandKey FiniteDecimal) :
    List Position → Reading (Dict BandKey FiniteDecimal)
  | [] => pure net
  | p :: rest => do
    let net ← m.netPosition net p
    netPositions net rest

/-! ## Charging -/

/-- Charge what is held in a subcategory, on its side. -/
def subDeduction (net : Dict BandKey FiniteDecimal) (category : String)
    (deductions : FiniteDecimal × FiniteDecimal) (sub : String) :
    Outcome (FiniteDecimal × FiniteDecimal) :=
  match m.rates.get? (category, sub) with
  | none => .error (.keyError sub)
  | some rate =>
    if FiniteDecimal.le 0 (net.getD (category, sub) 0) then do
      let deduction ← (net.getD (category, sub) 0).mul ambient rate
      let longs ← deductions.1.add ambient deduction
      .ok (longs, deductions.2)
    else do
      let amount ← (net.getD (category, sub) 0).neg ambient
      let deduction ← amount.mul ambient rate
      let shorts ← deductions.2.add ambient deduction
      .ok (deductions.1, shorts)

end MaturityBands

/-- The deduction for a category, by election, and the paragraph it is made under. -/
def categoryDeduction (offset longs shorts : FiniteDecimal) :
    GovernmentElection → Outcome (FiniteDecimal × String)
  | .category => do
    let difference ← longs.sub ambient shorts
    let size ← difference.abs ambient
    let kept ← offset.mul ambient (FiniteDecimal.min longs shorts)
    let amount ← size.add ambient kept
    .ok (amount, "(c)(2)(vi)(A)(1)")
  | .subcategory => do
    let amount ← longs.add ambient shorts
    .ok (amount, "(c)(2)(vi)(A)(2)")

/-- The line of a category, unless nothing is charged in it. -/
def categoryLine (election : GovernmentElection) (offset : FiniteDecimal) (category : String)
    (deductions : FiniteDecimal × FiniteDecimal) : Outcome (List HaircutLine) :=
  if deductions.1.isZero && deductions.2.isZero then .ok []
  else do
    let (amount, paragraph) ← categoryDeduction offset deductions.1 deductions.2 election
    .ok [⟨.government, "government " ++ category, amount, paragraph⟩]

namespace MaturityBands

variable (m : MaturityBands)

def categoryLines (election : GovernmentElection) (offset : FiniteDecimal)
    (net : Dict BandKey FiniteDecimal) (category : String × List String) :
    Outcome (List HaircutLine) := do
  let deductions ← Outcome.foldSteps (m.subDeduction net category.1) (0, 0) category.2
  categoryLine election offset category.1 deductions

/-- The lines of all categories. -/
def governmentLines (election : GovernmentElection) (offset : FiniteDecimal)
    (net : Dict BandKey FiniteDecimal) : Outcome (List HaircutLine) :=
  List.flatten <$> Outcome.collect (m.categoryLines election offset net) governmentBands

end MaturityBands

/-- The haircut, where the bands and the offset are loaded and every maturity is stated. -/
def haircutOf (positions : List Position) (election : GovernmentElection) :
    Option MaturityBands → Option FiniteDecimal → Reading (Option (List HaircutLine))
  | some m, some offset => do
    let net ← m.netPositions Dict.empty positions
    if positions.any fun p => p.monthsToMaturity.isNone then pure none
    else Computation.ofOutcome (some <$> m.governmentLines election offset net)
  | _, _ => pure none

/-- The haircut on government securities. -/
def governmentHaircut (positions : List Position) (election : GovernmentElection) :
    Reading (Option (List HaircutLine)) := do
  let bands ← readGovernmentBands
  let offset ← readOffset election
  haircutOf positions election (maturityBands bands) offset

/-! ## Equity -/

def equityRate : String := "15c3-1.c2viJ.rate"

def equityLesserThreshold : String := "15c3-1.c2viJ.lesser_threshold"

def equityExcessRate : String := "15c3-1.c2viJ.excess_rate"

/-- The line of an equity position. -/
def equityLine (rate threshold excessRate : FiniteDecimal) (p : Position) :
    Outcome HaircutLine := do
  let greater := FiniteDecimal.max p.longMarketValue.amount p.shortMarketValue.amount
  let lesser := FiniteDecimal.min p.longMarketValue.amount p.shortMarketValue.amount
  let share ← threshold.mul ambient greater
  let beyond ← lesser.sub ambient share
  let base ← rate.mul ambient greater
  let extra ← excessRate.mul ambient (FiniteDecimal.max beyond 0)
  let amount ← base.add ambient extra
  .ok ⟨.equity, p.issue, amount, "(c)(2)(vi)(J)"⟩

def equityLines (positions : List Position) :
    Option FiniteDecimal → Option FiniteDecimal → Option FiniteDecimal →
      Reading (Option (List HaircutLine))
  | some rate, some threshold, some excessRate =>
    Computation.ofOutcome
      (some <$> Outcome.collect (equityLine rate threshold excessRate) positions)
  | _, _, _ => pure none

/-- The haircut on equity. -/
def equityHaircut (positions : List Position) : Reading (Option (List HaircutLine)) := do
  let rate ← Reading.value equityRate
  let threshold ← Reading.value equityLesserThreshold
  let excessRate ← Reading.value equityExcessRate
  equityLines positions rate threshold excessRate

/-! ## What reading returns -/

/-- The computation returns the value, whatever was read before, and misses no input. -/
def Reads {α : Type} (table : RuleTable) (x : Reading α) (v : α) : Prop :=
  ∀ s, s.rules.table = table →
    ∃ s', x s = .ok (v, s') ∧ s'.rules.table = table ∧ s'.missingInputs = s.missingInputs

namespace Reads

variable {α β : Type} {table : RuleTable}

protected theorem pure (v : α) : Reads table (pure v : Reading α) v :=
  fun s hs => ⟨s, rfl, hs, rfl⟩

protected theorem bind {x : Reading α} {f : α → Reading β} {v : α} {w : β}
    (hx : Reads table x v) (hf : Reads table (f v) w) : Reads table (x >>= f) w := by
  intro s hs
  obtain ⟨t, ht, htable, hmissing⟩ := hx s hs
  obtain ⟨u, hu, hutable, humissing⟩ := hf t htable
  exact ⟨u, Computation.bind_eq_ok.mpr ⟨v, t, ht, hu⟩, hutable, humissing.trans hmissing⟩

protected theorem ofOutcome {x : Outcome α} {v : α} (hx : x = .ok v) :
    Reads table (Computation.ofOutcome x) v := by
  intro s hs
  exact ⟨s, by rw [hx]; rfl, hs, rfl⟩

theorem table_item (reader : RuleReader) (ruleId : String) :
    (reader.item ruleId).1.table = reader.table := by
  rw [RuleReader.item]
  rcases reader.table.get ruleId with _ | item <;> rfl

theorem value_item (reader : RuleReader) (ruleId : String) :
    (reader.item ruleId).2.bind RuleRef.value = reader.table.figure ruleId := by
  rw [RuleReader.item, RuleTable.figure]
  rcases reader.table.get ruleId with _ | item <;> rfl

protected theorem value (table : RuleTable) (ruleId : String) :
    Reads table (Reading.value ruleId) (table.figure ruleId) := by
  intro s hs
  refine ⟨{ s with rules := (s.rules.item ruleId).1 }, ?_, ?_, rfl⟩
  · rw [← hs, ← value_item]
    rfl
  · rw [table_item, hs]

protected theorem collect {f : α → Reading β} {g : α → β} {xs : List α}
    (hf : ∀ x ∈ xs, Reads table (f x) (g x)) :
    Reads table (Computation.collect f xs) (xs.map g) := by
  induction xs with
  | nil => exact Reads.pure []
  | cons x xs ih =>
    rw [Computation.collect, List.map_cons]
    refine (hf x (by simp)).bind ?_
    exact (ih fun y hy => hf y (by simp [hy])).bind (Reads.pure _)

end Reads

/-! ## What a table states for the bands -/

namespace RuleTable

variable (table : RuleTable)

/-- A band with what the table states for it. -/
def band (key : BandKey) : Band where
  key := key
  rate := table.figure (bandRate key)
  upper := if key = lastBand then none else table.figure (bandUpper key)

def bands : List Band := bandKeys.map table.band

/-- The share of the lesser charge the table states for an election. -/
def offsetOf : GovernmentElection → Option FiniteDecimal
  | .category => table.figure govOffset
  | .subcategory => some 0

/-- The table states the rate of every band, the upper bound of every band before the last, and
the offset. -/
structure CompleteBands : Prop where
  rate : ∀ key ∈ bandKeys, table.figure (bandRate key) ≠ none
  upper : ∀ key ∈ bandKeys, key ≠ lastBand → table.figure (bandUpper key) ≠ none
  offset : table.figure govOffset ≠ none

end RuleTable

section Bands

variable {table : RuleTable}

theorem reads_band (key : BandKey) : Reads table (readBand key) (table.band key) := by
  have hupper : Reads table (readUpper key) (table.band key).upper := by
    rw [readUpper, RuleTable.band]
    by_cases hkey : key = lastBand
    · rw [if_pos hkey]
      simp only [if_pos hkey]
      exact Reads.pure none
    · rw [if_neg hkey]
      simp only [if_neg hkey]
      exact Reads.value table (bandUpper key)
  exact hupper.bind ((Reads.value table (bandRate key)).bind (Reads.pure _))

theorem reads_governmentBands : Reads table readGovernmentBands table.bands :=
  Reads.collect fun key _ => reads_band key

theorem reads_offset (election : GovernmentElection) :
    Reads table (readOffset election) (table.offsetOf election) := by
  cases election with
  | category => exact Reads.value table govOffset
  | subcategory => exact Reads.pure _

theorem bandKeys_eq : bandKeys = bandKeys.dropLast ++ [lastBand] := by decide

theorem bandKeys_nodup : bandKeys.Nodup := by decide

theorem mem_bandKeys {c : String × List String} {sub : String} (hc : c ∈ governmentBands)
    (hsub : sub ∈ c.2) : (c.1, sub) ∈ bandKeys :=
  List.mem_flatMap.mpr ⟨c, hc, List.mem_map_of_mem hsub⟩

theorem lastBand_not_mem : lastBand ∉ bandKeys.dropLast := by decide

/-- A table that states every rate, and every upper bound before the last, states the bands. -/
theorem exists_maturityBands (hrate : ∀ key ∈ bandKeys, table.figure (bandRate key) ≠ none)
    (hupper : ∀ key ∈ bandKeys, key ≠ lastBand → table.figure (bandUpper key) ≠ none) :
    ∃ m, maturityBands table.bands = some m := by
  refine ⟨_, if_neg ?_⟩
  intro hmissing
  rw [Bool.or_eq_true, List.any_eq_true, List.any_eq_true] at hmissing
  obtain ⟨b, hb, hnone⟩ | ⟨b, hb, hnone⟩ := hmissing
  · obtain ⟨key, hkey, rfl⟩ := List.mem_map.mp hb
    exact hrate key hkey (Option.isNone_iff_eq_none.mp hnone)
  · rw [RuleTable.bands, ← List.map_dropLast] at hb
    obtain ⟨key, hkey, rfl⟩ := List.mem_map.mp hb
    have hlast : key ≠ lastBand := fun heq => lastBand_not_mem (heq ▸ hkey)
    rw [RuleTable.band, if_neg hlast] at hnone
    exact hupper key (List.mem_of_mem_dropLast hkey) hlast (Option.isNone_iff_eq_none.mp hnone)

/-- A complete table states the bands. -/
theorem RuleTable.CompleteBands.exists_bands (h : table.CompleteBands) :
    ∃ m, maturityBands table.bands = some m :=
  exists_maturityBands h.rate h.upper

/-- What the bands of a table are made of. -/
theorem maturityBands_eq_some {m : MaturityBands} (h : maturityBands table.bands = some m) :
    m.final = lastBand ∧ m.limits.map Prod.fst = bandKeys.dropLast ∧
      ∀ key ∈ bandKeys, ∃ rate, table.figure (bandRate key) = some rate ∧
        m.rates.get? key = some rate := by
  rw [maturityBands] at h
  split_ifs at h with hmissing
  cases h
  rw [Bool.or_eq_true, not_or, List.any_eq_true, List.any_eq_true] at hmissing
  obtain ⟨hrates, huppers⟩ := hmissing
  refine ⟨?_, ?_, ?_⟩
  · rw [RuleTable.bands, List.getLast?_map, bandKeys_eq, List.getLast?_concat]
    rfl
  · change List.map Prod.fst (List.filterMap _ _) = _
    rw [List.map_filterMap, RuleTable.bands, ← List.map_dropLast, List.filterMap_map]
    -- every band before the last has an upper bound, so none is left out
    have hall : ∀ key ∈ bandKeys.dropLast,
        ((fun b : Band => (b.upper.map fun upper => (b.key, upper)).map Prod.fst) ∘ table.band)
          key = some key := by
      intro key hkey
      have hupper : (table.band key).upper ≠ none := by
        intro hnone
        refine huppers ⟨table.band key, ?_, Option.isNone_iff_eq_none.mpr hnone⟩
        rw [RuleTable.bands, ← List.map_dropLast]
        exact List.mem_map_of_mem hkey
      obtain ⟨upper, hupper⟩ := Option.ne_none_iff_exists'.mp hupper
      rw [Function.comp_apply, hupper]
      rfl
    rw [List.filterMap_congr hall, List.filterMap_some]
  · intro key hkey
    have hrate : table.figure (bandRate key) ≠ none := by
      intro hnone
      exact hrates ⟨table.band key, List.mem_map_of_mem hkey, Option.isNone_iff_eq_none.mpr hnone⟩
    obtain ⟨rate, hrate⟩ := Option.ne_none_iff_exists'.mp hrate
    have hmem : ∀ k r,
        (k, r) ∈ table.bands.filterMap (fun b => b.rate.map fun rate => (b.key, rate)) →
          table.figure (bandRate k) = some r := by
      intro k r hkr
      obtain ⟨b, hb, hpair⟩ := List.mem_filterMap.mp hkr
      obtain ⟨k', -, rfl⟩ := List.mem_map.mp hb
      obtain ⟨r', hr', hpair⟩ := Option.map_eq_some_iff.mp hpair
      cases hpair
      exact hr'
    refine ⟨rate, hrate, (Dict.get?_ofPairs_iff ?_).mpr ?_⟩
    · rintro ⟨k, r⟩ hp ⟨k', r'⟩ hq heq
      cases heq
      have := (hmem k r hp).symm.trans (hmem k r' hq)
      cases this
      rfl
    · refine List.mem_filterMap.mpr ⟨table.band key, List.mem_map_of_mem hkey, ?_⟩
      rw [RuleTable.band, hrate]
      rfl

end Bands

/-! ## One band -/

namespace MaturityBands

variable {m : MaturityBands} {months : FiniteDecimal} {key : BandKey}

/-- Months lie in a band: under its upper bound and no earlier one, or, in the last band, under
no bound at all. -/
def Holds (m : MaturityBands) (months : FiniteDecimal) (key : BandKey) : Prop :=
  (∃ upper before after, m.limits = before ++ (key, upper) :: after ∧
    months.value < upper.value ∧ ∀ l ∈ before, l.2.value ≤ months.value) ∨
  key = m.final ∧ ∀ l ∈ m.limits, l.2.value ≤ months.value

theorem holds_iff : m.Holds months key ↔ m.bandOf months = key := by
  rw [Holds, bandOf]
  constructor
  · rintro (⟨upper, before, after, hlimits, hunder, hbefore⟩ | ⟨rfl, hall⟩)
    · have hfind : m.limits.find? (fun l => months.lt l.2) = some (key, upper) := by
        rw [List.find?_eq_some_iff_append]
        refine ⟨FiniteDecimal.lt_iff.mpr hunder, before, after, hlimits, ?_⟩
        intro l hl
        rw [Bool.not_eq_true', Bool.eq_false_iff, ne_eq, FiniteDecimal.lt_iff, not_lt]
        exact hbefore l hl
      rw [hfind]
      rfl
    · have hfind : m.limits.find? (fun l => months.lt l.2) = none := by
        rw [List.find?_eq_none]
        intro l hl
        simpa [FiniteDecimal.lt_iff] using hall l hl
      rw [hfind]
      rfl
  · intro h
    rcases hfind : m.limits.find? (fun l => months.lt l.2) with _ | l
    · rw [hfind] at h
      refine Or.inr ⟨h.symm, fun l hl => ?_⟩
      simpa [FiniteDecimal.lt_iff] using List.find?_eq_none.mp hfind l hl
    · rw [hfind] at h
      obtain ⟨hunder, before, after, hlimits, hbefore⟩ := List.find?_eq_some_iff_append.mp hfind
      obtain ⟨key', upper⟩ := l
      cases h
      refine Or.inl ⟨upper, before, after, hlimits, FiniteDecimal.lt_iff.mp hunder, ?_⟩
      intro l hl
      have hover := hbefore l hl
      rwa [Bool.not_eq_true', Bool.eq_false_iff, ne_eq, FiniteDecimal.lt_iff, not_lt] at hover

theorem bandOf_mem {table : RuleTable} (h : maturityBands table.bands = some m)
    (months : FiniteDecimal) : m.bandOf months ∈ bandKeys := by
  obtain ⟨hfinal, hlimits, -⟩ := maturityBands_eq_some h
  rw [bandKeys_eq, bandOf]
  rcases hfind : m.limits.find? (fun l => months.lt l.2) with _ | l
  · rw [hfind, Option.map_none, Option.getD_none, hfinal]
    exact List.mem_append_right _ (List.mem_singleton_self _)
  · rw [hfind, Option.map_some, Option.getD_some, ← hlimits]
    exact List.mem_append_left _ (List.mem_map_of_mem (List.mem_of_find?_eq_some hfind))

/-- Months lie in one band of a complete table. -/
theorem existsUnique_holds {table : RuleTable} (h : maturityBands table.bands = some m)
    (months : FiniteDecimal) : ∃! key, key ∈ bandKeys ∧ m.Holds months key :=
  ⟨m.bandOf months, ⟨bandOf_mem h months, holds_iff.mpr rfl⟩,
    fun _ hkey => (holds_iff.mp hkey.2).symm⟩

/-! ## Exact figures -/

/-- A position's sides, posted to its band: what is short takes away. -/
def sides (m : MaturityBands) (p : Position) : List (BandKey × FiniteDecimal) :=
  [(m.bandOf p.months, p.longMarketValue.amount),
    (m.bandOf p.months, p.shortMarketValue.amount.copyNegate)]

def postings (m : MaturityBands) (xs : List Position) : List (BandKey × FiniteDecimal) :=
  xs.flatMap m.sides

/-- What is held in a band. -/
def held (m : MaturityBands) (xs : List Position) (key : BandKey) : ℚ :=
  (amountsOf key (m.postings xs)).sum

/-- A band's rate. -/
def rateOf (m : MaturityBands) (key : BandKey) : ℚ := (m.rates.getD key 0).value

def subKeys (category : String × List String) : List BandKey :=
  category.2.map fun sub => (category.1, sub)

/-- The deductions on what is long in a category, and on what is short in it. -/
def longs (m : MaturityBands) (xs : List Position) (category : String × List String) : ℚ :=
  longCharge m.rateOf (m.held xs) (subKeys category)

def shorts (m : MaturityBands) (xs : List Position) (category : String × List String) : ℚ :=
  shortCharge m.rateOf (m.held xs) (subKeys category)

end MaturityBands

/-- The deduction for a category by election. -/
def GovernmentElection.charge (offset longs shorts : ℚ) : GovernmentElection → ℚ
  | .category => offsetCharge offset longs shorts
  | .subcategory => longs + shorts

def GovernmentElection.paragraph : GovernmentElection → String
  | .category => "(c)(2)(vi)(A)(1)"
  | .subcategory => "(c)(2)(vi)(A)(2)"

/-- No figure on the way to a category's deduction is rounded. -/
def GovernmentElection.ChargeCarried (offset longs shorts : ℚ) : GovernmentElection → Prop
  | .category => ambient.Represents (longs - shorts) ∧
      ambient.Represents (offset * min longs shorts) ∧
      ambient.Represents (offsetCharge offset longs shorts)
  | .subcategory => ambient.Represents (longs + shorts)

namespace MaturityBands

/-- No figure of a government haircut is rounded. -/
structure Carried (m : MaturityBands) (election : GovernmentElection) (offset : ℚ)
    (xs : List Position) : Prop where
  nets : ∀ key, ExactSums ambient (amountsOf key (m.postings xs))
  longs : ∀ c ∈ governmentBands, ExactSums ambient (longCharges m.rateOf (m.held xs) (subKeys c))
  shorts : ∀ c ∈ governmentBands,
    ExactSums ambient (shortCharges m.rateOf (m.held xs) (subKeys c))
  charge : ∀ c ∈ governmentBands, election.ChargeCarried offset (m.longs xs c) (m.shorts xs c)

/-- What the line of a category states, unless nothing is charged in it. -/
def exactLine (election : GovernmentElection) (offset : ℚ) (category : String)
    (longs shorts : ℚ) : List (AssetClass × String × ℚ × String) :=
  if longs = 0 ∧ shorts = 0 then []
  else [(.government, "government " ++ category, election.charge offset longs shorts,
    election.paragraph)]

/-- What the lines of all categories state. -/
def exactLines (m : MaturityBands) (election : GovernmentElection) (offset : ℚ)
    (xs : List Position) : List (AssetClass × String × ℚ × String) :=
  governmentBands.flatMap fun c => exactLine election offset c.1 (m.longs xs c) (m.shorts xs c)

end MaturityBands

/-! ## Netting is exact -/

namespace MaturityBands

variable {m : MaturityBands} {table : RuleTable} {net : Dict BandKey FiniteDecimal}
variable {prior xs : List Position} {p : Position}

theorem amountsOf_postings_concat (m : MaturityBands) (prior : List Position) (p : Position)
    (key : BandKey) : amountsOf key (m.postings (prior ++ [p])) =
      amountsOf key (m.postings prior) ++ amountsOf key (m.sides p) := by
  rw [postings, List.flatMap_append, amountsOf_append]
  simp [postings]

theorem amountsOf_sides_self (m : MaturityBands) (p : Position) :
    amountsOf (m.bandOf p.months) (m.sides p) =
      [p.longMarketValue.amount.value, -p.shortMarketValue.amount.value] := by
  simp [amountsOf, sides]

theorem amountsOf_sides_of_ne {key : BandKey} (h : m.bandOf p.months ≠ key) :
    amountsOf key (m.sides p) = [] := by
  simp [amountsOf, sides, h]

/-- The dictionary holds what is held in every band. -/
def Netted (m : MaturityBands) (net : Dict BandKey FiniteDecimal) (xs : List Position) : Prop :=
  ∀ key, (net.getD key 0).value = m.held xs key

theorem netted_empty (m : MaturityBands) : m.Netted Dict.empty [] :=
  fun _ => FiniteDecimal.value_zero

/-- Netting one more position is exact. -/
theorem Netted.enter (h : m.Netted net prior)
    (hexact : ∀ key, ExactSums ambient (amountsOf key (m.postings (prior ++ [p])))) :
    ∃ net', m.enter net p = .ok net' ∧ m.Netted net' (prior ++ [p]) := by
  have hband := hexact (m.bandOf p.months)
  rw [amountsOf_postings_concat, amountsOf_sides_self, List.append_cons] at hband
  obtain ⟨withLong, hlong, hlongvalue⟩ :=
    FiniteDecimal.add_exact_of_sums (h (m.bandOf p.months)) hband.append_left
  have hshort : ambient.Represents (withLong.value - p.shortMarketValue.amount.value) := by
    have := hband.represents
    rwa [List.sum_append, ← hlongvalue, List.sum_singleton, ← sub_eq_add_neg] at this
  obtain ⟨withShort, hsub, hvalue⟩ := FiniteDecimal.sub_exact_iff.mpr hshort
  refine ⟨net.set (m.bandOf p.months) withShort, ?_, fun key => ?_⟩
  · rw [MaturityBands.enter, hlong, Outcome.ok_bind, hsub, Outcome.ok_bind]
  · rw [Dict.getD_set, held, amountsOf_postings_concat]
    by_cases hkey : m.bandOf p.months = key
    · subst hkey
      rw [if_pos rfl, amountsOf_sides_self, hvalue, hlongvalue]
      simp only [List.sum_append, List.sum_cons, List.sum_nil]
      ring
    · rw [if_neg hkey, amountsOf_sides_of_ne hkey, List.append_nil]
      exact h key

/-- Netting positions whose maturities are stated is exact. -/
theorem Netted.netPositions (h : m.Netted net prior)
    (hexact : ∀ key, ExactSums ambient (amountsOf key (m.postings (prior ++ xs))))
    (hmonths : ∀ p ∈ xs, p.monthsToMaturity ≠ none) :
    ∃ net', Reads table (m.netPositions net xs) net' ∧ m.Netted net' (prior ++ xs) := by
  induction xs generalizing net prior with
  | nil => exact ⟨net, Reads.pure net, by rwa [List.append_nil]⟩
  | cons p xs ih =>
    rw [List.append_cons] at hexact ⊢
    have hhead : ∀ key, ExactSums ambient (amountsOf key (m.postings (prior ++ [p]))) := by
      intro key
      have := hexact key
      rw [postings, List.flatMap_append, amountsOf_append] at this
      exact this.append_left
    obtain ⟨next, hnext, hnetted⟩ := h.enter hhead
    obtain ⟨net', hnet', hall⟩ := ih hnetted hexact fun q hq => hmonths q (by simp [hq])
    refine ⟨net', ?_, hall⟩
    have hstated : ¬ p.monthsToMaturity.isNone = true := by
      rw [Option.isNone_iff_eq_none]
      exact hmonths p (by simp)
    rw [MaturityBands.netPositions, netPosition, if_neg hstated]
    exact (Reads.ofOutcome hnext).bind hnet'

/-! ## Charging is exact -/

/-- A deduction on one side is exact where the running total is. -/
theorem charge_exact {amount rate total : FiniteDecimal} {charges : List ℚ}
    (htotal : total.value = charges.sum)
    (hexact : ExactSums ambient (charges ++ [amount.value * rate.value])) :
    ∃ deduction total', amount.mul ambient rate = .ok deduction ∧
      total.add ambient deduction = .ok total' ∧
      total'.value = (charges ++ [amount.value * rate.value]).sum := by
  obtain ⟨deduction, hmul, hvalue⟩ :=
    FiniteDecimal.mul_exact_iff.mpr (hexact.append_right.of_mem (List.mem_singleton_self _))
  rw [← hvalue] at hexact ⊢
  obtain ⟨total', hadd, htotal'⟩ := FiniteDecimal.add_exact_of_sums htotal hexact
  exact ⟨deduction, total', hmul, hadd, htotal'⟩

/-- Charging one more subcategory is exact. -/
theorem subDeduction_exact {category sub : String} {before : List BandKey}
    {deductions : FiniteDecimal × FiniteDecimal} {rate : FiniteDecimal} (hnet : m.Netted net xs)
    (hheld : ambient.Represents (m.held xs (category, sub)))
    (hrate : m.rates.get? (category, sub) = some rate)
    (hlongs : deductions.1.value = longCharge m.rateOf (m.held xs) before)
    (hshorts : deductions.2.value = shortCharge m.rateOf (m.held xs) before)
    (hlong : ExactSums ambient (longCharges m.rateOf (m.held xs) (before ++ [(category, sub)])))
    (hshort : ExactSums ambient
      (shortCharges m.rateOf (m.held xs) (before ++ [(category, sub)]))) :
    ∃ next, m.subDeduction net category deductions sub = .ok next ∧
      next.1.value = longCharge m.rateOf (m.held xs) (before ++ [(category, sub)]) ∧
      next.2.value = shortCharge m.rateOf (m.held xs) (before ++ [(category, sub)]) := by
  have hrateOf : m.rateOf (category, sub) = rate.value := by
    rw [rateOf, Dict.getD, hrate, Option.getD_some]
  have hvalue := hnet (category, sub)
  have hlongsplit : longCharges m.rateOf (m.held xs) (before ++ [(category, sub)]) =
      longCharges m.rateOf (m.held xs) before ++
        [max (m.held xs (category, sub)) 0 * rate.value] := by
    rw [longCharges, List.map_append, List.map_singleton, hrateOf, longCharges]
  have hshortsplit : shortCharges m.rateOf (m.held xs) (before ++ [(category, sub)]) =
      shortCharges m.rateOf (m.held xs) before ++
        [max (-m.held xs (category, sub)) 0 * rate.value] := by
    rw [shortCharges, List.map_append, List.map_singleton, hrateOf, shortCharges]
  rw [longCharge, shortCharge, hlongsplit, hshortsplit]
  rw [hlongsplit] at hlong
  rw [hshortsplit] at hshort
  rw [subDeduction, hrate]
  simp only
  by_cases hside : FiniteDecimal.le 0 (net.getD (category, sub) 0) = true
  · have hnonneg : 0 ≤ m.held xs (category, sub) := by
      simpa [hvalue] using FiniteDecimal.le_iff.mp hside
    rw [max_eq_left hnonneg, ← hvalue] at hlong
    obtain ⟨deduction, total, hmul, hadd, htotal⟩ := charge_exact hlongs hlong
    rw [if_pos hside, hmul, Outcome.ok_bind, hadd, Outcome.ok_bind]
    refine ⟨_, rfl, ?_, ?_⟩
    · rw [max_eq_left hnonneg, ← hvalue]
      exact htotal
    · rw [max_eq_right (neg_nonpos.mpr hnonneg), zero_mul, List.sum_append, List.sum_singleton,
        add_zero]
      exact hshorts
  · have hneg : m.held xs (category, sub) ≤ 0 := by
      rw [FiniteDecimal.le_iff, FiniteDecimal.value_zero, hvalue] at hside
      exact (not_le.mp hside).le
    obtain ⟨amount, hamount, hamountvalue⟩ := FiniteDecimal.neg_exact (hvalue ▸ hheld)
    rw [hvalue] at hamountvalue
    rw [max_eq_left (neg_nonneg.mpr hneg), ← hamountvalue] at hshort
    obtain ⟨deduction, total, hmul, hadd, htotal⟩ := charge_exact hshorts hshort
    rw [if_neg hside, hamount, Outcome.ok_bind, hmul, Outcome.ok_bind, hadd, Outcome.ok_bind]
    refine ⟨_, rfl, ?_, ?_⟩
    · rw [max_eq_right hneg, zero_mul, List.sum_append, List.sum_singleton, add_zero]
      exact hlongs
    · rw [max_eq_left (neg_nonneg.mpr hneg), ← hamountvalue]
      exact htotal

/-- Charging subcategories is exact. -/
theorem foldSteps_subDeduction_exact {category : String} {subs : List String}
    {before : List BandKey} {deductions : FiniteDecimal × FiniteDecimal} (hnet : m.Netted net xs)
    (hheld : ∀ key, ambient.Represents (m.held xs key))
    (hrates : ∀ sub ∈ subs, ∃ rate, m.rates.get? (category, sub) = some rate)
    (hlongs : deductions.1.value = longCharge m.rateOf (m.held xs) before)
    (hshorts : deductions.2.value = shortCharge m.rateOf (m.held xs) before)
    (hlong : ExactSums ambient
      (longCharges m.rateOf (m.held xs) (before ++ subKeys (category, subs))))
    (hshort : ExactSums ambient
      (shortCharges m.rateOf (m.held xs) (before ++ subKeys (category, subs)))) :
    ∃ next, Outcome.foldSteps (m.subDeduction net category) deductions subs = .ok next ∧
      next.1.value = longCharge m.rateOf (m.held xs) (before ++ subKeys (category, subs)) ∧
      next.2.value = shortCharge m.rateOf (m.held xs) (before ++ subKeys (category, subs)) := by
  induction subs generalizing before deductions with
  | nil =>
    exact ⟨deductions, rfl, by simpa [subKeys] using hlongs, by simpa [subKeys] using hshorts⟩
  | cons sub subs ih =>
    have hkeys : before ++ subKeys (category, sub :: subs) =
        before ++ [(category, sub)] ++ subKeys (category, subs) := by
      simp [subKeys]
    rw [hkeys] at hlong hshort ⊢
    obtain ⟨rate, hrate⟩ := hrates sub (by simp)
    have hlongfirst := hlong
    have hshortfirst := hshort
    rw [longCharges, List.map_append] at hlongfirst
    rw [shortCharges, List.map_append] at hshortfirst
    obtain ⟨mid, hmid, hmidlongs, hmidshorts⟩ := subDeduction_exact hnet (hheld _) hrate hlongs
      hshorts hlongfirst.append_left hshortfirst.append_left
    obtain ⟨next, hnext, hvalues⟩ := ih (fun other hother => hrates other (by simp [hother]))
      hmidlongs hmidshorts hlong hshort
    exact ⟨next, by rw [Outcome.foldSteps_cons, hmid, Outcome.ok_bind, hnext], hvalues⟩

end MaturityBands

/-- A category's deduction is exact where no figure on the way is rounded. -/
theorem categoryDeduction_exact {offset longs shorts : FiniteDecimal}
    {election : GovernmentElection}
    (h : election.ChargeCarried offset.value longs.value shorts.value) :
    ∃ amount, categoryDeduction offset longs shorts election = .ok (amount, election.paragraph) ∧
      amount.value = election.charge offset.value longs.value shorts.value := by
  cases election with
  | category =>
    obtain ⟨hdifference, hkept, htotal⟩ := h
    obtain ⟨difference, hsub, hdifferencevalue⟩ := FiniteDecimal.sub_exact_iff.mpr hdifference
    obtain ⟨size, habs, hsize⟩ := FiniteDecimal.abs_exact_iff.mpr
      (by rw [hdifferencevalue]; exact hdifference.abs)
    rw [← FiniteDecimal.value_min] at hkept
    obtain ⟨kept, hmul, hkeptvalue⟩ := FiniteDecimal.mul_exact_iff.mpr hkept
    rw [FiniteDecimal.value_min] at hkeptvalue
    have hsum : size.value + kept.value = offsetCharge offset.value longs.value shorts.value := by
      rw [hsize, hdifferencevalue, hkeptvalue, offsetCharge]
    obtain ⟨amount, hadd, hamount⟩ := FiniteDecimal.add_exact_iff.mpr (hsum ▸ htotal)
    refine ⟨amount, ?_, hamount.trans hsum⟩
    rw [categoryDeduction, hsub, Outcome.ok_bind, habs, Outcome.ok_bind, hmul, Outcome.ok_bind,
      hadd, Outcome.ok_bind]
    rfl
  | subcategory =>
    obtain ⟨amount, hadd, hamount⟩ := FiniteDecimal.add_exact_iff.mpr h
    refine ⟨amount, ?_, hamount⟩
    rw [categoryDeduction, hadd, Outcome.ok_bind]
    rfl

/-- A category's line is exact where no figure on the way is rounded. -/
theorem categoryLine_exact {offset : FiniteDecimal} {deductions : FiniteDecimal × FiniteDecimal}
    {election : GovernmentElection} {category : String}
    (h : election.ChargeCarried offset.value deductions.1.value deductions.2.value) :
    ∃ lines, categoryLine election offset category deductions = .ok lines ∧
      lines.map HaircutLine.stated = MaturityBands.exactLine election offset.value category
        deductions.1.value deductions.2.value := by
  rw [categoryLine, MaturityBands.exactLine]
  by_cases hzero : deductions.1.value = 0 ∧ deductions.2.value = 0
  · rw [if_pos hzero, if_pos]
    · exact ⟨[], rfl, rfl⟩
    · rw [Bool.and_eq_true, FiniteDecimal.isZero_iff, FiniteDecimal.isZero_iff]
      exact hzero
  · obtain ⟨amount, hamount, hvalue⟩ := categoryDeduction_exact h
    rw [if_neg hzero, if_neg, hamount]
    · exact ⟨_, rfl, by rw [← hvalue]; rfl⟩
    · rw [Bool.and_eq_true, FiniteDecimal.isZero_iff, FiniteDecimal.isZero_iff]
      exact hzero

namespace MaturityBands

variable {m : MaturityBands} {table : RuleTable} {net : Dict BandKey FiniteDecimal}
variable {xs : List Position} {election : GovernmentElection} {offset : FiniteDecimal}

/-- Collecting lines category by category. -/
theorem collect_lines_exact {categories : List (String × List String)}
    {f : String × List String → Outcome (List HaircutLine)}
    {g : String × List String → List (AssetClass × String × ℚ × String)}
    (h : ∀ c ∈ categories, ∃ lines, f c = .ok lines ∧ lines.map HaircutLine.stated = g c) :
    ∃ lines, List.flatten <$> Outcome.collect f categories = .ok lines ∧
      lines.map HaircutLine.stated = categories.flatMap g := by
  induction categories with
  | nil => exact ⟨[], rfl, rfl⟩
  | cons c categories ih =>
    obtain ⟨first, hfirst, hstated⟩ := h c (by simp)
    obtain ⟨rest, hrest, hreststated⟩ := ih fun d hd => h d (by simp [hd])
    obtain ⟨collected, hcollected, rfl⟩ := Outcome.map_eq_ok.mp hrest
    refine ⟨(first :: collected).flatten, ?_, ?_⟩
    · rw [Outcome.map_eq_ok]
      exact ⟨_, Outcome.collect_cons_eq_ok.mpr ⟨first, collected, hfirst, hcollected, rfl⟩, rfl⟩
    · rw [List.flatten_cons, List.map_append, hstated, hreststated, List.flatMap_cons]

/-- The lines are exact where no figure of the haircut is rounded. -/
theorem governmentLines_exact (hbands : maturityBands table.bands = some m)
    (hnet : m.Netted net xs) (h : m.Carried election offset.value xs) :
    ∃ lines, m.governmentLines election offset net = .ok lines ∧
      lines.map HaircutLine.stated = m.exactLines election offset.value xs := by
  apply collect_lines_exact
  intro c hc
  have hrates : ∀ sub ∈ c.2, ∃ rate, m.rates.get? (c.1, sub) = some rate := by
    intro sub hsub
    obtain ⟨rate, -, hrate⟩ := (maturityBands_eq_some hbands).2.2 _ (mem_bandKeys hc hsub)
    exact ⟨rate, hrate⟩
  obtain ⟨deductions, hfold, hlongs, hshorts⟩ := @foldSteps_subDeduction_exact _ _ _ c.1 c.2 []
    (0, 0) hnet (fun key => (h.nets key).represents) hrates
    FiniteDecimal.value_zero FiniteDecimal.value_zero (h.longs c hc) (h.shorts c hc)
  have hcharge := h.charge c hc
  rw [longs, shorts, ← show subKeys (c.1, c.2) = subKeys c from rfl] at hcharge
  rw [List.nil_append] at hlongs hshorts
  rw [← hlongs, ← hshorts] at hcharge
  obtain ⟨lines, hlines, hstated⟩ := @categoryLine_exact _ _ _ c.1 hcharge
  refine ⟨lines, by rw [categoryLines, hfold, Outcome.ok_bind, hlines], ?_⟩
  rw [hstated, hlongs, hshorts]
  rfl

end MaturityBands

/-- The haircut by its exact figures, where none of them is rounded. -/
theorem governmentHaircut_exact {table : RuleTable} {m : MaturityBands} {xs : List Position}
    {election : GovernmentElection} {offset : FiniteDecimal}
    (hbands : maturityBands table.bands = some m) (hoffset : table.offsetOf election = some offset)
    (hmonths : ∀ p ∈ xs, p.monthsToMaturity ≠ none)
    (h : m.Carried election offset.value xs) :
    ∃ lines, Reads table (governmentHaircut xs election) (some lines) ∧
      lines.map HaircutLine.stated = m.exactLines election offset.value xs := by
  obtain ⟨net, hnet, hnetted⟩ :
      ∃ net, Reads table (m.netPositions .empty xs) net ∧ m.Netted net ([] ++ xs) :=
    m.netted_empty.netPositions h.nets hmonths
  obtain ⟨lines, hlines, hstated⟩ := MaturityBands.governmentLines_exact hbands hnetted h
  refine ⟨lines, ?_, hstated⟩
  have hstatedAll : ¬ (xs.any fun p => p.monthsToMaturity.isNone) = true := by
    rw [List.any_eq_true]
    rintro ⟨p, hp, hnone⟩
    exact hmonths p hp (Option.isNone_iff_eq_none.mp hnone)
  refine reads_governmentBands.bind ((reads_offset election).bind ?_)
  rw [hbands, hoffset, haircutOf]
  refine hnet.bind ?_
  rw [if_neg hstatedAll]
  exact Reads.ofOutcome (by rw [hlines]; rfl)

end CustomerProtection

end Atreides
