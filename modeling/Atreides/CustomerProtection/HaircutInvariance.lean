import Atreides.CustomerProtection.Haircuts

/-!
# What a haircut depends on

A government haircut depends on what is held in each band, and not on the side: so not on the
order of the positions, nor on how they are split, and it is the same where every long is a short.
An equity haircut is made position by position, so it depends neither on their order nor on their
sides, but a position may be split only into parts that lie alike.

## Main definitions

* `Position.swapped`, `PartsOf` — sides turned, and positions split
* `Alike` — parts that are charged together what they are charged as one

## Main results

* `exactLines_congr`, `exactLines_swapped` — what a government haircut depends on
* `exactLines_category_le` — the offset against none
* `equityLine_swapped`, `sum_sidesCharge_split` — what changes no equity haircut
-/

namespace Atreides

open DecimalContext (ambient)

namespace CustomerProtection

/-! ## Positions rearranged -/

/-- The position with its sides turned. -/
def Position.swapped (p : Position) : Position :=
  { p with longMarketValue := p.shortMarketValue, shortMarketValue := p.longMarketValue }

/-- The long side of a position, and its short side. -/
def Position.long (p : Position) : ℚ := p.longMarketValue.amount.value

def Position.short (p : Position) : ℚ := p.shortMarketValue.amount.value

/-- The position is split into parts: of one issue and maturity, and adding up side by side. -/
structure PartsOf (p : Position) (parts : List Position) : Prop where
  issue : ∀ q ∈ parts, q.issue = p.issue
  months : ∀ q ∈ parts, q.monthsToMaturity = p.monthsToMaturity
  long : (parts.map Position.long).sum = p.long
  short : (parts.map Position.short).sum = p.short

/-- The lists' positions are split, one after the other. -/
def SplitInto (xs : List Position) (parts : List (List Position)) : Prop :=
  List.Forall₂ PartsOf xs parts

namespace MaturityBands

variable {m : MaturityBands} {xs ys : List Position} {key : BandKey}
variable {election : GovernmentElection} {offset : ℚ}

/-! ## What is held -/

/-- What a position adds to a band. -/
def adds (m : MaturityBands) (key : BandKey) (p : Position) : ℚ :=
  if m.bandOf p.months = key then p.long - p.short else 0

theorem sum_amountsOf_sides (m : MaturityBands) (key : BandKey) (p : Position) :
    (amountsOf key (m.sides p)).sum = m.adds key p := by
  rw [adds]
  by_cases h : m.bandOf p.months = key
  · subst h
    rw [if_pos rfl, amountsOf_sides_self, List.sum_cons, List.sum_singleton, ← sub_eq_add_neg]
    rfl
  · rw [if_neg h, amountsOf_sides_of_ne h, List.sum_nil]

theorem held_eq (m : MaturityBands) (xs : List Position) (key : BandKey) :
    m.held xs key = (xs.map (m.adds key)).sum := by
  induction xs with
  | nil => rfl
  | cons p xs ih =>
    rw [held, postings, List.flatMap_cons, amountsOf_append, List.sum_append, sum_amountsOf_sides,
      List.map_cons, List.sum_cons, ← ih]
    rfl

theorem held_perm (h : ys.Perm xs) : m.held ys key = m.held xs key := by
  rw [held_eq, held_eq, (h.map _).sum_eq]

theorem adds_swapped (p : Position) : m.adds key p.swapped = -m.adds key p := by
  rw [adds, adds, show p.swapped.months = p.months from rfl]
  by_cases h : m.bandOf p.months = key
  · rw [if_pos h, if_pos h, neg_sub]
    rfl
  · rw [if_neg h, if_neg h, neg_zero]

theorem held_swapped (xs : List Position) :
    m.held (xs.map Position.swapped) key = -m.held xs key := by
  rw [held_eq, held_eq, List.map_map, List.sum_neg, List.map_map]
  congr 1
  apply List.map_congr_left
  intro p _
  exact adds_swapped p

theorem sum_adds_parts {p : Position} {parts : List Position} (h : PartsOf p parts) :
    (parts.map (m.adds key)).sum = m.adds key p := by
  have hmonths : ∀ q ∈ parts, m.bandOf q.months = m.bandOf p.months := by
    intro q hq
    rw [Position.months, Position.months, h.months q hq]
  by_cases hkey : m.bandOf p.months = key
  · have hadds : ∀ q ∈ parts, m.adds key q = q.long + -q.short := by
      intro q hq
      rw [adds, if_pos ((hmonths q hq).trans hkey), sub_eq_add_neg]
    rw [List.map_congr_left hadds, List.sum_map_add, adds, if_pos hkey, h.long, ← h.short,
      sub_eq_add_neg, List.sum_neg, List.map_map]
    rfl
  · have hadds : ∀ q ∈ parts, m.adds key q = 0 := by
      intro q hq
      rw [adds, if_neg (by rwa [hmonths q hq])]
    rw [List.map_congr_left hadds, adds, if_neg hkey]
    simp

/-- Splitting positions leaves what is held. -/
theorem held_split {parts : List (List Position)} (h : SplitInto xs parts) :
    m.held parts.flatten key = m.held xs key := by
  induction h with
  | nil => rfl
  | cons hparts _ ih =>
    rw [held_eq, held_eq] at ih ⊢
    rw [List.flatten_cons, List.map_append, List.sum_append, ih, sum_adds_parts hparts,
      List.map_cons, List.sum_cons]

/-! ## What the lines depend on -/

theorem exactLines_congr (h : ∀ key, m.held ys key = m.held xs key) :
    m.exactLines election offset ys = m.exactLines election offset xs := by
  rw [exactLines, exactLines]
  congr 1
  funext c
  rw [longs, longs, shorts, shorts, funext h]

theorem longs_swapped (xs : List Position) (c : String × List String) :
    m.longs (xs.map Position.swapped) c = m.shorts xs c := by
  rw [longs, shorts, longCharge, shortCharge, longCharges_neg fun k _ => held_swapped xs]

theorem shorts_swapped (xs : List Position) (c : String × List String) :
    m.shorts (xs.map Position.swapped) c = m.longs xs c := by
  rw [longs, shorts, longCharge, shortCharge, shortCharges_neg fun k _ => held_swapped xs]

end MaturityBands

theorem GovernmentElection.charge_comm (election : GovernmentElection) (offset longs shorts : ℚ) :
    election.charge offset longs shorts = election.charge offset shorts longs := by
  cases election with
  | category => exact offsetCharge_comm offset longs shorts
  | subcategory => exact add_comm longs shorts

theorem GovernmentElection.ChargeCarried.symm {election : GovernmentElection}
    {offset longs shorts : ℚ} (h : election.ChargeCarried offset longs shorts) :
    election.ChargeCarried offset shorts longs := by
  cases election with
  | category =>
    obtain ⟨hdifference, hkept, htotal⟩ := h
    refine ⟨?_, by rwa [min_comm], by rwa [offsetCharge_comm]⟩
    rw [← neg_sub]
    exact hdifference.neg
  | subcategory =>
    rw [ChargeCarried, add_comm]
    exact h

namespace MaturityBands

variable {m : MaturityBands} {xs ys : List Position}
variable {election : GovernmentElection} {offset : ℚ}

theorem exactLines_swapped (xs : List Position) :
    m.exactLines election offset (xs.map Position.swapped) = m.exactLines election offset xs := by
  rw [exactLines, exactLines]
  congr 1
  funext c
  rw [longs_swapped, shorts_swapped, exactLine, exactLine, election.charge_comm]
  simp only [and_comm]

/-- No figure is rounded in another order either. -/
theorem Carried.perm (h : m.Carried election offset xs) (hperm : ys.Perm xs) :
    m.Carried election offset ys := by
  have hheld : m.held ys = m.held xs := funext fun key => held_perm hperm
  refine ⟨fun key => ?_, ?_, ?_, ?_⟩
  · exact (h.nets key).perm (amountsOf_perm key (hperm.flatMap_right _))
  · rw [hheld]
    exact h.longs
  · rw [hheld]
    exact h.shorts
  · intro c hc
    rw [MaturityBands.longs, MaturityBands.shorts, hheld]
    exact h.charge c hc

theorem amountsOf_sides_swapped (key : BandKey) (p : Position) :
    (amountsOf key (m.sides p.swapped)).Perm ((amountsOf key (m.sides p)).map fun x => -x) := by
  by_cases h : m.bandOf p.months = key
  · subst h
    rw [amountsOf_sides_self, show m.bandOf p.months = m.bandOf p.swapped.months from rfl,
      amountsOf_sides_self]
    simp only [List.map_cons, List.map_nil, neg_neg]
    exact List.Perm.swap _ _ _
  · rw [amountsOf_sides_of_ne h, amountsOf_sides_of_ne (p := p.swapped) h]
    exact List.Perm.nil

theorem amountsOf_postings_swapped (key : BandKey) (xs : List Position) :
    (amountsOf key (m.postings (xs.map Position.swapped))).Perm
      ((amountsOf key (m.postings xs)).map fun x => -x) := by
  induction xs with
  | nil => exact List.Perm.nil
  | cons p xs ih =>
    rw [List.map_cons, postings, postings, List.flatMap_cons, List.flatMap_cons, amountsOf_append,
      amountsOf_append, List.map_append]
    exact (amountsOf_sides_swapped key p).append ih

/-- No figure is rounded with the sides turned either. -/
theorem Carried.swapped (h : m.Carried election offset xs) :
    m.Carried election offset (xs.map Position.swapped) := by
  refine ⟨fun key => ?_, fun c hc => ?_, fun c hc => ?_, fun c hc => ?_⟩
  · exact (h.nets key).neg.perm (amountsOf_postings_swapped key xs)
  · rw [longCharges_neg fun k _ => held_swapped xs]
    exact h.shorts c hc
  · rw [shortCharges_neg fun k _ => held_swapped xs]
    exact h.longs c hc
  · rw [longs_swapped, shorts_swapped]
    exact (h.charge c hc).symm

end MaturityBands

/-! ## No haircut is negative -/

theorem nonneg_of_mul {a b r : FiniteDecimal} (h : a.mul ambient b = .ok r)
    (ha : 0 ≤ a.value) (hb : 0 ≤ b.value) : 0 ≤ r.value := by
  apply DecimalContext.fix_nonneg h
  rw [FiniteDecimal.value_exactMul]
  exact mul_nonneg ha hb

theorem nonneg_of_neg {a r : FiniteDecimal} (h : a.neg ambient = .ok r)
    (ha : a.value ≤ 0) : 0 ≤ r.value := by
  apply DecimalContext.fix_nonneg h
  rw [FiniteDecimal.value_negated]
  exact neg_nonneg.mpr ha

theorem nonneg_of_abs {a r : FiniteDecimal} (h : a.abs ambient = .ok r) :
    0 ≤ r.value := by
  apply DecimalContext.fix_nonneg h
  rw [FiniteDecimal.value_copyAbs]
  exact abs_nonneg _

/-- A category's deduction is not negative where its sides and the offset are not. -/
theorem categoryDeduction_nonneg {offset longs shorts amount : FiniteDecimal} {paragraph : String}
    {election : GovernmentElection} (hoffset : 0 ≤ offset.value) (hlongs : 0 ≤ longs.value)
    (hshorts : 0 ≤ shorts.value)
    (h : categoryDeduction offset longs shorts election = .ok (amount, paragraph)) :
    0 ≤ amount.value := by
  cases election with
  | category =>
    rw [categoryDeduction, Outcome.bind_eq_ok] at h
    obtain ⟨difference, -, h⟩ := h
    rw [Outcome.bind_eq_ok] at h
    obtain ⟨size, hsize, h⟩ := h
    rw [Outcome.bind_eq_ok] at h
    obtain ⟨kept, hkept, h⟩ := h
    rw [Outcome.bind_eq_ok] at h
    obtain ⟨total, htotal, h⟩ := h
    cases h
    have hmin : 0 ≤ (FiniteDecimal.min longs shorts).value := by
      rw [FiniteDecimal.value_min]
      exact le_min hlongs hshorts
    exact FiniteDecimal.add_nonneg_of_ok htotal (nonneg_of_abs hsize)
      (nonneg_of_mul hkept hoffset hmin)
  | subcategory =>
    rw [categoryDeduction, Outcome.bind_eq_ok] at h
    obtain ⟨total, htotal, h⟩ := h
    cases h
    exact FiniteDecimal.add_nonneg_of_ok htotal hlongs hshorts

namespace MaturityBands

variable {m : MaturityBands} {net : Dict BandKey FiniteDecimal}

/-- Charging a subcategory keeps what is deducted on either side from being negative. -/
theorem subDeduction_nonneg {category sub : String} {d d' : FiniteDecimal × FiniteDecimal}
    (hrate : ∀ rate ∈ m.rates.get? (category, sub), 0 ≤ rate.value)
    (hd : 0 ≤ d.1.value ∧ 0 ≤ d.2.value) (h : m.subDeduction net category d sub = .ok d') :
    0 ≤ d'.1.value ∧ 0 ≤ d'.2.value := by
  rw [subDeduction] at h
  rcases hget : m.rates.get? (category, sub) with _ | rate
  · rw [hget] at h
    cases h
  rw [hget] at h
  have hnonneg := hrate rate hget
  simp only at h
  by_cases hside : FiniteDecimal.le 0 (net.getD (category, sub) 0) = true
  · rw [if_pos hside, Outcome.bind_eq_ok] at h
    obtain ⟨deduction, hmul, h⟩ := h
    rw [Outcome.bind_eq_ok] at h
    obtain ⟨longs, hadd, h⟩ := h
    cases h
    have hheld : 0 ≤ (net.getD (category, sub) 0).value := by
      simpa using FiniteDecimal.le_iff.mp hside
    exact ⟨FiniteDecimal.add_nonneg_of_ok hadd hd.1
      (nonneg_of_mul hmul hheld hnonneg), hd.2⟩
  · rw [if_neg hside, Outcome.bind_eq_ok] at h
    obtain ⟨amount, hneg, h⟩ := h
    rw [Outcome.bind_eq_ok] at h
    obtain ⟨deduction, hmul, h⟩ := h
    rw [Outcome.bind_eq_ok] at h
    obtain ⟨shorts, hadd, h⟩ := h
    cases h
    have hheld : (net.getD (category, sub) 0).value ≤ 0 := by
      rw [FiniteDecimal.le_iff, FiniteDecimal.value_zero] at hside
      exact (not_le.mp hside).le
    exact ⟨hd.1, FiniteDecimal.add_nonneg_of_ok hadd hd.2
      (nonneg_of_mul hmul (nonneg_of_neg hneg hheld) hnonneg)⟩

/-- No line is negative where no rate is and the offset is not. -/
theorem governmentLines_nonneg {election : GovernmentElection} {offset : FiniteDecimal}
    {lines : List HaircutLine} (hoffset : 0 ≤ offset.value)
    (hrates : ∀ key ∈ bandKeys, ∀ rate ∈ m.rates.get? key, 0 ≤ rate.value)
    (h : m.governmentLines election offset net = .ok lines) :
    ∀ line ∈ lines, 0 ≤ line.amount.value := by
  rw [governmentLines, Outcome.map_eq_ok] at h
  obtain ⟨collected, hcollect, rfl⟩ := h
  intro line hline
  obtain ⟨ls, hls, hmem⟩ := List.mem_flatten.mp hline
  obtain ⟨c, hmember, hc⟩ := Outcome.exists_of_mem_collect hcollect hls
  rw [categoryLines, Outcome.bind_eq_ok] at hc
  obtain ⟨deductions, hfold, hc⟩ := hc
  have hdeductions : 0 ≤ deductions.1.value ∧ 0 ≤ deductions.2.value :=
    Outcome.foldSteps_preserves_of_mem (fun d => 0 ≤ d.1.value ∧ 0 ≤ d.2.value)
      (fun sub hsub d d' hd hstep => subDeduction_nonneg
        (hrates _ (mem_bandKeys hmember hsub)) hd hstep)
      ⟨FiniteDecimal.value_zero.ge, FiniteDecimal.value_zero.ge⟩ hfold
  rw [categoryLine] at hc
  split_ifs at hc with hzero
  · cases hc
    cases hmem
  · rw [Outcome.bind_eq_ok] at hc
    obtain ⟨⟨amount, paragraph⟩, hamount, hc⟩ := hc
    cases hc
    rw [List.mem_singleton] at hmem
    subst hmem
    exact categoryDeduction_nonneg hoffset hdeductions.1 hdeductions.2 hamount

end MaturityBands

/-! ## The offset against none -/

/-- The table states no negative rate. -/
def RuleTable.NoNegativeRate (table : RuleTable) : Prop :=
  ∀ key ∈ bandKeys, ∀ rate ∈ table.figure (bandRate key), 0 ≤ rate.value

namespace MaturityBands

variable {m : MaturityBands} {xs : List Position} {c : String × List String} {table : RuleTable}

theorem rates_nonneg (hbands : maturityBands table.bands = some m) (h : table.NoNegativeRate) :
    ∀ key ∈ bandKeys, ∀ rate ∈ m.rates.get? key, 0 ≤ rate.value := by
  intro key hkey rate hrate
  obtain ⟨rate', hfigure, hget⟩ := (maturityBands_eq_some hbands).2.2 key hkey
  rw [hget] at hrate
  cases hrate
  exact h key hkey rate hfigure

theorem rateOf_nonneg (hbands : maturityBands table.bands = some m) (h : table.NoNegativeRate)
    (hc : c ∈ governmentBands) : ∀ key ∈ subKeys c, 0 ≤ m.rateOf key := by
  intro key hkey
  obtain ⟨sub, hsub, rfl⟩ := List.mem_map.mp hkey
  have hmem := mem_bandKeys hc hsub
  obtain ⟨rate, -, hget⟩ := (maturityBands_eq_some hbands).2.2 _ hmem
  rw [rateOf, Dict.getD, hget]
  exact rates_nonneg hbands h _ hmem rate hget

/-- A line states no more than another of its category. -/
def NoMore (a b : AssetClass × String × ℚ × String) : Prop := a.2.1 = b.2.1 ∧ a.2.2.1 ≤ b.2.2.1

/-- Setting longs and shorts against each other raises no category's deduction. -/
theorem exactLines_category_le {offset : ℚ} (hbands : maturityBands table.bands = some m)
    (h : table.NoNegativeRate) (hoffset : offset ≤ 2) (xs : List Position) :
    List.Forall₂ NoMore (m.exactLines .category offset xs) (m.exactLines .subcategory 0 xs) := by
  have hcategories : ∀ categories : List (String × List String),
      (∀ c ∈ categories, c ∈ governmentBands) → List.Forall₂ NoMore
        (categories.flatMap fun c => exactLine .category offset c.1 (m.longs xs c) (m.shorts xs c))
        (categories.flatMap fun c => exactLine .subcategory 0 c.1 (m.longs xs c)
          (m.shorts xs c)) := by
    intro categories hall
    induction categories with
    | nil => exact List.Forall₂.nil
    | cons c categories ih =>
      rw [List.flatMap_cons, List.flatMap_cons]
      refine List.rel_append ?_ (ih fun d hd => hall d (by simp [hd]))
      have hrates := rateOf_nonneg hbands h (hall c (by simp))
      rw [exactLine, exactLine]
      by_cases hzero : m.longs xs c = 0 ∧ m.shorts xs c = 0
      · rw [if_pos hzero, if_pos hzero]
        exact List.Forall₂.nil
      · rw [if_neg hzero, if_neg hzero]
        refine List.Forall₂.cons ⟨rfl, ?_⟩ List.Forall₂.nil
        exact offsetCharge_le hoffset (longCharge_nonneg hrates) (shortCharge_nonneg hrates)
  exact hcategories governmentBands fun c hc => hc

end MaturityBands

/-! ## Equity -/

open FiniteDecimal (Same)

/-- An equity line states the same with the sides turned. -/
theorem equityLine_swapped (rate threshold excessRate : FiniteDecimal) (p : Position) :
    Outcome.Agree (fun a b : HaircutLine => a.stated = b.stated)
      (equityLine rate threshold excessRate p.swapped)
      (equityLine rate threshold excessRate p) := by
  have hgreater : Same
      (FiniteDecimal.max p.swapped.longMarketValue.amount p.swapped.shortMarketValue.amount)
      (FiniteDecimal.max p.longMarketValue.amount p.shortMarketValue.amount) := by
    rw [Same, FiniteDecimal.value_max, FiniteDecimal.value_max]
    exact max_comm _ _
  have hlesser : Same
      (FiniteDecimal.min p.swapped.longMarketValue.amount p.swapped.shortMarketValue.amount)
      (FiniteDecimal.min p.longMarketValue.amount p.shortMarketValue.amount) := by
    rw [Same, FiniteDecimal.value_min, FiniteDecimal.value_min]
    exact min_comm _ _
  rw [equityLine, equityLine]
  refine ((Same.refl threshold).mul hgreater).bind fun share share' hshare => ?_
  refine (hlesser.sub hshare).bind fun beyond beyond' hbeyond => ?_
  refine ((Same.refl rate).mul hgreater).bind fun base base' hbase => ?_
  have hexcess : Same (FiniteDecimal.max beyond 0) (FiniteDecimal.max beyond' 0) := by
    rw [Same, FiniteDecimal.value_max, FiniteDecimal.value_max, hbeyond]
  refine ((Same.refl excessRate).mul hexcess).bind fun extra extra' hextra => ?_
  refine (hbase.add hextra).bind fun amount amount' hamount => ?_
  refine Outcome.Agree.ok ?_
  rw [HaircutLine.stated, HaircutLine.stated, show amount.value = amount'.value from hamount]
  rfl

/-- No figure of an equity line is rounded. -/
structure EquityCarried (rate threshold excessRate : ℚ) (p : Position) : Prop where
  share : ambient.Represents (threshold * max p.long p.short)
  beyond : ambient.Represents (min p.long p.short - threshold * max p.long p.short)
  base : ambient.Represents (rate * max p.long p.short)
  extra : ambient.Represents
    (excessRate * max (min p.long p.short - threshold * max p.long p.short) 0)
  amount : ambient.Represents (sidesCharge rate threshold excessRate p.long p.short)

/-- An equity line is exact where no figure of it is rounded. -/
theorem equityLine_exact {rate threshold excessRate : FiniteDecimal} {p : Position}
    (h : EquityCarried rate.value threshold.value excessRate.value p) :
    ∃ line, equityLine rate threshold excessRate p = .ok line ∧
      line.amount.value =
        sidesCharge rate.value threshold.value excessRate.value p.long p.short := by
  have hgreater : (FiniteDecimal.max p.longMarketValue.amount p.shortMarketValue.amount).value =
      max p.long p.short := FiniteDecimal.value_max _ _
  have hlesser : (FiniteDecimal.min p.longMarketValue.amount p.shortMarketValue.amount).value =
      min p.long p.short := FiniteDecimal.value_min _ _
  have hshare := h.share
  have hbeyond := h.beyond
  have hbase := h.base
  have hextra := h.extra
  have hamount := h.amount
  rw [← hgreater] at hshare hbase
  obtain ⟨share, hmul, hsharevalue⟩ := FiniteDecimal.mul_exact_iff.mpr hshare
  rw [hgreater] at hsharevalue
  rw [← hsharevalue, ← hlesser] at hbeyond
  obtain ⟨beyond, hsub, hbeyondvalue⟩ := FiniteDecimal.sub_exact_iff.mpr hbeyond
  rw [hlesser, hsharevalue] at hbeyondvalue
  have hexcess : (FiniteDecimal.max beyond 0).value =
      max (min p.long p.short - threshold.value * max p.long p.short) 0 := by
    rw [FiniteDecimal.value_max, hbeyondvalue, FiniteDecimal.value_zero]
  obtain ⟨base, hbasemul, hbasevalue⟩ := FiniteDecimal.mul_exact_iff.mpr hbase
  rw [hgreater] at hbasevalue
  rw [← hexcess] at hextra
  obtain ⟨extra, hextramul, hextravalue⟩ := FiniteDecimal.mul_exact_iff.mpr hextra
  rw [hexcess] at hextravalue
  have hsum : base.value + extra.value =
      sidesCharge rate.value threshold.value excessRate.value p.long p.short := by
    rw [hbasevalue, hextravalue, sidesCharge]
  obtain ⟨amount, hadd, hvalue⟩ := FiniteDecimal.add_exact_iff.mpr (hsum ▸ hamount)
  refine ⟨⟨.equity, p.issue, amount, "(c)(2)(vi)(J)"⟩, ?_, hvalue.trans hsum⟩
  rw [equityLine, hmul, Outcome.ok_bind, hsub, Outcome.ok_bind, hbasemul, Outcome.ok_bind,
    hextramul, Outcome.ok_bind, hadd, Outcome.ok_bind]

/-- The parts lie alike: greater on one side throughout, and their lesser sides within the share
throughout or beyond it throughout. -/
def Alike (threshold : ℚ) (parts : List Position) : Prop :=
  ((∀ q ∈ parts, q.short ≤ q.long) ∨ ∀ q ∈ parts, q.long ≤ q.short) ∧
    ((∀ q ∈ parts, threshold * max q.long q.short ≤ min q.long q.short) ∨
      ∀ q ∈ parts, min q.long q.short ≤ threshold * max q.long q.short)

/-- The amounts of some lines. -/
def totalOf (lines : List HaircutLine) : ℚ := (lines.map fun line => line.amount.value).sum

/-- Lines of positions no figure of which is rounded. -/
theorem collect_equityLine {rate threshold excessRate : FiniteDecimal} {xs : List Position}
    (h : ∀ p ∈ xs, EquityCarried rate.value threshold.value excessRate.value p) :
    ∃ lines, Outcome.collect (equityLine rate threshold excessRate) xs = .ok lines ∧
      totalOf lines = (xs.map fun p =>
        sidesCharge rate.value threshold.value excessRate.value p.long p.short).sum := by
  induction xs with
  | nil => exact ⟨[], rfl, rfl⟩
  | cons p xs ih =>
    obtain ⟨line, hline, hvalue⟩ := equityLine_exact (h p (by simp))
    obtain ⟨lines, hlines, htotal⟩ := ih fun q hq => h q (by simp [hq])
    refine ⟨line :: lines, Outcome.collect_cons_eq_ok.mpr ⟨line, lines, hline, hlines, rfl⟩, ?_⟩
    rw [totalOf] at htotal ⊢
    rw [List.map_cons, List.sum_cons, hvalue, htotal, List.map_cons, List.sum_cons]

/-- Splitting positions into parts that lie alike leaves their charges together. -/
theorem sum_sidesCharge_split {rate threshold excessRate : ℚ} {xs : List Position}
    {parts : List (List Position)} (h : SplitInto xs parts)
    (halike : ∀ ps ∈ parts, Alike threshold ps) :
    (parts.flatten.map fun p => sidesCharge rate threshold excessRate p.long p.short).sum =
      (xs.map fun p => sidesCharge rate threshold excessRate p.long p.short).sum := by
  induction h with
  | nil => rfl
  | cons hparts _ ih =>
    obtain ⟨hside, hshare⟩ := halike _ List.mem_cons_self
    rw [List.flatten_cons, List.map_append, List.sum_append, List.map_cons, List.sum_cons,
      ih fun ps hps => halike ps (by simp [hps]), sum_sidesCharge hside hshare]
    rw [show (List.map (fun x : Position => x.long) _).sum = _ from hparts.long,
      show (List.map (fun x : Position => x.short) _).sum = _ from hparts.short]

end CustomerProtection

end Atreides
