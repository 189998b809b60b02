import Atreides.CustomerProtection.HaircutDigits

/-!
# Runs of the haircuts

What a haircut returns, from any state of the reading, for positions in any order, with their
sides turned, and split.

## Main results

* `haircuts_invariant` — what neither haircut depends on, and the offset against none
-/

namespace Atreides

open DecimalContext (ambient)

namespace CustomerProtection

/-! ## Runs -/

/-- Reading returns its value and goes on, whatever comes next. -/
theorem Reads.then_eq {α : Type} {table : RuleTable} {x : Reading α} {v : α}
    (hx : Reads table x v) {s : Findings} (hs : s.rules.table = table) :
    ∃ t, t.rules.table = table ∧ ∀ {β : Type} (f : α → Reading β), (x >>= f) s = f v t := by
  obtain ⟨t, ht, htable, -⟩ := hx s hs
  refine ⟨t, htable, fun f => ?_⟩
  change (x s >>= fun p => f p.1 p.2) = _
  rw [ht]
  rfl

/-- The lines a government haircut returns are made from the bands of the table. -/
theorem lines_of_governmentHaircut {xs : List Position} {election : GovernmentElection}
    {s s' : Findings} {lines : List HaircutLine}
    (h : governmentHaircut xs election s = .ok (some lines, s')) :
    ∃ m offset net, maturityBands s.rules.table.bands = some m ∧
      s.rules.table.offsetOf election = some offset ∧
      m.governmentLines election offset net = .ok lines := by
  obtain ⟨t, ht, hbands⟩ := (@reads_governmentBands s.rules.table).then_eq rfl
  obtain ⟨u, -, hoffset⟩ := (@reads_offset s.rules.table election).then_eq ht
  rw [governmentHaircut, hbands, hoffset] at h
  rcases hm : maturityBands s.rules.table.bands with _ | m
  · rw [hm] at h
    cases h
  rcases ho : s.rules.table.offsetOf election with _ | offset
  · rw [hm, ho] at h
    cases h
  rw [hm, ho, haircutOf, Computation.bind_eq_ok] at h
  obtain ⟨net, v, -, h⟩ := h
  refine ⟨m, offset, net, rfl, rfl, ?_⟩
  split_ifs at h
  · cases h
  · rw [Computation.ofOutcome, Outcome.map_eq_ok] at h
    obtain ⟨result, hresult, hpair⟩ := h
    cases hpair
    obtain ⟨lines', hlines, hsome⟩ := Outcome.map_eq_ok.mp hresult
    cases hsome
    exact hlines

/-- Reading the equity rules does not depend on the positions. -/
theorem equityHaircut_eq (s : Findings) : ∃ t, ∀ xs, equityHaircut xs s =
    equityLines xs (s.rules.table.figure equityRate) (s.rules.table.figure equityLesserThreshold)
      (s.rules.table.figure equityExcessRate) t := by
  obtain ⟨t, ht, hrate⟩ := (Reads.value s.rules.table equityRate).then_eq rfl
  obtain ⟨u, hu, hthreshold⟩ := (Reads.value s.rules.table equityLesserThreshold).then_eq ht
  obtain ⟨v, -, hexcess⟩ := (Reads.value s.rules.table equityExcessRate).then_eq hu
  refine ⟨v, fun xs => ?_⟩
  rw [equityHaircut, hrate, hthreshold, hexcess]

theorem equityLines_eq_ok {xs : List Position} {rate threshold excessRate : Option FiniteDecimal}
    {s s' : Findings} {lines : List HaircutLine} :
    equityLines xs rate threshold excessRate s = .ok (some lines, s') ↔
      s' = s ∧ ∃ r t e, rate = some r ∧ threshold = some t ∧ excessRate = some e ∧
        Outcome.collect (equityLine r t e) xs = .ok lines := by
  constructor
  · intro h
    rcases rate with _ | r
    · cases h
    rcases threshold with _ | t
    · cases h
    rcases excessRate with _ | e
    · cases h
    rw [equityLines, Computation.ofOutcome, Outcome.map_eq_ok] at h
    obtain ⟨result, hresult, hpair⟩ := h
    cases hpair
    obtain ⟨lines', hlines, hsome⟩ := Outcome.map_eq_ok.mp hresult
    cases hsome
    exact ⟨rfl, r, t, e, rfl, rfl, rfl, hlines⟩
  · rintro ⟨rfl, r, t, e, rfl, rfl, rfl, hlines⟩
    rw [equityLines, Computation.ofOutcome, hlines]
    rfl

/-- An equity haircut with the sides turned states the same. -/
theorem equityHaircut_swapped {xs : List Position} {s s' : Findings} {lines : List HaircutLine}
    (h : equityHaircut xs s = .ok (some lines, s')) :
    ∃ lines', equityHaircut (xs.map Position.swapped) s = .ok (some lines', s') ∧
      lines'.map HaircutLine.stated = lines.map HaircutLine.stated := by
  obtain ⟨t, heq⟩ := equityHaircut_eq s
  rw [heq, equityLines_eq_ok] at h
  obtain ⟨rfl, r, th, e, hr, hth, he, hlines⟩ := h
  suffices hcollect : ∃ lines', Outcome.collect (equityLine r th e) (xs.map Position.swapped) =
      .ok lines' ∧ lines'.map HaircutLine.stated = lines.map HaircutLine.stated by
    obtain ⟨lines', hlines', hstated⟩ := hcollect
    exact ⟨lines', by rw [heq, equityLines_eq_ok]; exact ⟨rfl, r, th, e, hr, hth, he, hlines'⟩,
      hstated⟩
  clear heq
  induction xs generalizing lines with
  | nil =>
    cases hlines
    exact ⟨[], rfl, rfl⟩
  | cons p xs ih =>
    obtain ⟨line, rest, hline, hrest, rfl⟩ := Outcome.collect_cons_eq_ok.mp hlines
    obtain ⟨rest', hrest', hstated⟩ := ih hrest
    have hagree := equityLine_swapped r th e p
    rw [hline] at hagree
    rcases hswapped : equityLine r th e p.swapped with err | line'
    · rw [hswapped] at hagree
      cases hagree
    · rw [hswapped] at hagree
      cases hagree with
      | ok hsame =>
        refine ⟨line' :: rest', Outcome.collect_cons_eq_ok.mpr
          ⟨line', rest', hswapped, hrest', rfl⟩, ?_⟩
        rw [List.map_cons, List.map_cons, hsame, hstated]

/-- An equity haircut of the positions in another order has the same lines in another order. -/
theorem equityHaircut_perm {xs ys : List Position} {s s' : Findings} {lines : List HaircutLine}
    (hperm : ys.Perm xs) (h : equityHaircut xs s = .ok (some lines, s')) :
    ∃ lines', equityHaircut ys s = .ok (some lines', s') ∧ lines'.Perm lines := by
  obtain ⟨t, heq⟩ := equityHaircut_eq s
  rw [heq, equityLines_eq_ok] at h
  obtain ⟨rfl, r, th, e, hr, hth, he, hlines⟩ := h
  obtain ⟨lines', hlines', hsame⟩ := Outcome.collect_perm hperm.symm hlines
  exact ⟨lines', by rw [heq, equityLines_eq_ok]; exact ⟨rfl, r, th, e, hr, hth, he, hlines'⟩,
    hsame.symm⟩

/-- An equity haircut of positions split into parts that lie alike comes to the same. -/
theorem equityHaircut_split {xs : List Position} {parts : List (List Position)} {s : Findings}
    {rate threshold excessRate : FiniteDecimal}
    (hrate : s.rules.table.figure equityRate = some rate)
    (hthreshold : s.rules.table.figure equityLesserThreshold = some threshold)
    (hexcess : s.rules.table.figure equityExcessRate = some excessRate)
    (hsplit : SplitInto xs parts) (halike : ∀ ps ∈ parts, Alike threshold.value ps)
    (hcarried : ∀ p ∈ xs ++ parts.flatten,
      EquityCarried rate.value threshold.value excessRate.value p) :
    ∃ s' lines lines', equityHaircut xs s = .ok (some lines, s') ∧
      equityHaircut parts.flatten s = .ok (some lines', s') ∧ totalOf lines' = totalOf lines := by
  obtain ⟨t, heq⟩ := equityHaircut_eq s
  obtain ⟨lines, hlines, htotal⟩ := @collect_equityLine _ _ _ xs fun p hp =>
    hcarried p (List.mem_append_left _ hp)
  obtain ⟨lines', hlines', htotal'⟩ := @collect_equityLine _ _ _ parts.flatten fun p hp =>
    hcarried p (List.mem_append_right _ hp)
  refine ⟨t, lines, lines', ?_, ?_, ?_⟩
  · rw [heq, equityLines_eq_ok]
    exact ⟨rfl, rate, threshold, excessRate, hrate, hthreshold, hexcess, hlines⟩
  · rw [heq, equityLines_eq_ok]
    exact ⟨rfl, rate, threshold, excessRate, hrate, hthreshold, hexcess, hlines'⟩
  · rw [htotal, htotal', sum_sidesCharge_split hsplit halike]

/-! ## The haircuts -/

/-- The positions rearranged: in another order, with every side turned, or split. -/
def Rearranged (xs ys : List Position) : Prop :=
  ys.Perm xs ∨ ys = xs.map Position.swapped ∨ ∃ parts, SplitInto xs parts ∧ ys = parts.flatten

namespace Rearranged

variable {m : MaturityBands} {election : GovernmentElection} {offset : ℚ} {xs ys : List Position}

theorem months (h : Rearranged xs ys) (hmonths : ∀ p ∈ xs, p.monthsToMaturity ≠ none) :
    ∀ q ∈ ys, q.monthsToMaturity ≠ none := by
  intro q hq
  obtain hperm | rfl | ⟨parts, hsplit, rfl⟩ := h
  · exact hmonths q (hperm.subset hq)
  · obtain ⟨p, hp, rfl⟩ := List.mem_map.mp hq
    exact hmonths p hp
  · obtain ⟨ps, hps, hmem⟩ := List.mem_flatten.mp hq
    obtain ⟨p, hp, hparts⟩ := exists_of_forall₂_mem hsplit hps
    rw [hparts.months q hmem]
    exact hmonths p hp

theorem exactLines_eq (h : Rearranged xs ys) :
    m.exactLines election offset ys = m.exactLines election offset xs := by
  obtain hperm | rfl | ⟨parts, hsplit, rfl⟩ := h
  · exact MaturityBands.exactLines_congr fun key => MaturityBands.held_perm hperm
  · exact MaturityBands.exactLines_swapped xs
  · exact MaturityBands.exactLines_congr fun key => MaturityBands.held_split hsplit

end Rearranged

/-- What the haircuts of a complete table do not depend on: months lie in one band; no deduction
is negative where no rate and no offset is; a government haircut none of whose figures is rounded
is the same for the positions rearranged, and where the offset keeps no more than twice the lesser
charge, no more than without it; and an equity haircut states the same with the sides turned, line
by line in any order, and comes to the same for parts that lie alike. -/
theorem haircuts_invariant {table : RuleTable} (hcomplete : table.CompleteBands) :
    ∃ m, maturityBands table.bands = some m ∧
      (∀ months, ∃! key, key ∈ bandKeys ∧ m.Holds months key) ∧
      (∀ xs election s s' lines, s.rules.table = table → table.NoNegativeRate →
        (∀ offset ∈ table.offsetOf election, 0 ≤ offset.value) →
        governmentHaircut xs election s = .ok (some lines, s') →
          ∀ line ∈ lines, 0 ≤ line.amount.value) ∧
      (∀ election, ∀ offset ∈ table.offsetOf election, ∀ xs ys, Rearranged xs ys →
        (∀ p ∈ xs, p.monthsToMaturity ≠ none) → m.Carried election offset.value xs →
        m.Carried election offset.value ys → ∃ lines lines',
          Reads table (governmentHaircut xs election) (some lines) ∧
          Reads table (governmentHaircut ys election) (some lines') ∧
          lines'.map HaircutLine.stated = lines.map HaircutLine.stated) ∧
      (∀ offset ∈ table.offsetOf .category, offset.value ≤ 2 → table.NoNegativeRate → ∀ xs,
        (∀ p ∈ xs, p.monthsToMaturity ≠ none) → m.Carried .category offset.value xs →
        m.Carried .subcategory 0 xs → ∃ lines lines',
          Reads table (governmentHaircut xs .category) (some lines) ∧
          Reads table (governmentHaircut xs .subcategory) (some lines') ∧
          List.Forall₂ (fun a b => a.description = b.description ∧
            a.amount.value ≤ b.amount.value) lines lines') ∧
      (∀ xs s s' lines, equityHaircut xs s = .ok (some lines, s') →
        (∃ lines', equityHaircut (xs.map Position.swapped) s = .ok (some lines', s') ∧
          lines'.map HaircutLine.stated = lines.map HaircutLine.stated) ∧
        ∀ ys, ys.Perm xs → ∃ lines', equityHaircut ys s = .ok (some lines', s') ∧
          lines'.Perm lines) ∧
      ∀ rate threshold excessRate xs parts s, s.rules.table = table →
        table.figure equityRate = some rate →
        table.figure equityLesserThreshold = some threshold →
        table.figure equityExcessRate = some excessRate → SplitInto xs parts →
        (∀ ps ∈ parts, Alike threshold.value ps) →
        (∀ p ∈ xs ++ parts.flatten,
          EquityCarried rate.value threshold.value excessRate.value p) →
        ∃ s' lines lines', equityHaircut xs s = .ok (some lines, s') ∧
          equityHaircut parts.flatten s = .ok (some lines', s') ∧
          totalOf lines' = totalOf lines := by
  obtain ⟨m, hm⟩ := hcomplete.exists_bands
  refine ⟨m, hm, MaturityBands.existsUnique_holds hm, ?_, ?_, ?_, ?_, ?_⟩
  · intro xs election s s' lines hs hrates hoffset h
    obtain ⟨m', offset, net, hm', ho, hlines⟩ := lines_of_governmentHaircut h
    rw [hs] at hm' ho
    exact MaturityBands.governmentLines_nonneg (hoffset offset ho)
      (MaturityBands.rates_nonneg hm' hrates) hlines
  · intro election offset ho xs ys hrearranged hmonths hxs hys
    obtain ⟨lines, hlines, hstated⟩ := governmentHaircut_exact hm ho hmonths hxs
    obtain ⟨lines', hlines', hstated'⟩ :=
      governmentHaircut_exact hm ho (hrearranged.months hmonths) hys
    exact ⟨lines, lines', hlines, hlines', by rw [hstated, hstated', hrearranged.exactLines_eq]⟩
  · intro offset ho htwo hrates xs hmonths hcategory hsubcategory
    obtain ⟨lines, hlines, hstated⟩ := governmentHaircut_exact hm ho hmonths hcategory
    rw [← FiniteDecimal.value_zero] at hsubcategory
    obtain ⟨lines', hlines', hstated'⟩ := governmentHaircut_exact hm rfl hmonths hsubcategory
    refine ⟨lines, lines', hlines, hlines', ?_⟩
    have hle := MaturityBands.exactLines_category_le hm hrates htwo xs
    rw [← FiniteDecimal.value_zero, ← hstated, ← hstated', List.forall₂_map_left_iff,
      List.forall₂_map_right_iff] at hle
    exact hle
  · intro xs s s' lines h
    exact ⟨equityHaircut_swapped h, fun ys hperm => equityHaircut_perm hperm h⟩
  · rintro rate threshold excessRate xs parts s rfl hrate hthreshold hexcess hsplit halike hcarried
    exact equityHaircut_split hrate hthreshold hexcess hsplit halike hcarried

/-! ## At work -/

/-- An item of the table with a figure. -/
def figureItem (ruleId : String) (figure : FiniteDecimal) : RuleItem where
  id := ruleId
  kind := .percent
  citation := "17 CFR 240.15c3-1"
  sourceId := "17-cfr-240-15c3-1"
  sha256 := "d2"
  value := some figure

/-- A table with one rate for all bands, of three months each. -/
def bandTable (rate offset : FiniteDecimal) : RuleTable where
  items := bandKeys.map (fun key => figureItem (bandRate key) rate) ++
    bandKeys.dropLast.zipIdx.map (fun p => figureItem (bandUpper p.1) (.ofInt (3 * (p.2 + 1)))) ++
    [figureItem govOffset offset, figureItem equityRate ⟨false, 15, -2⟩,
      figureItem equityLesserThreshold ⟨false, 25, -2⟩, figureItem equityExcessRate ⟨false, 15, -2⟩]

/-- Before anything is read. -/
def unread (table : RuleTable) : Findings where
  rules := { table }

/-- A position of some months. -/
def positionOf (months long short : NonNegativeMoney) : Position where
  issue := "ISSUE-51"
  assetClass := "government"
  longMarketValue := long
  shortMarketValue := short
  monthsToMaturity := some months

def hundred : NonNegativeMoney := ⟨⟨false, 100, 0⟩, by decide⟩

def noMoney : NonNegativeMoney := ⟨⟨false, 0, 0⟩, by decide⟩

/-- Ten to the twenty-eighth: the least number the context counts in tens. -/
def enormous : NonNegativeMoney := ⟨⟨false, 1, 28⟩, by decide⟩

def twoMonths : NonNegativeMoney := ⟨2, by decide⟩

def fourMonths : NonNegativeMoney := ⟨4, by decide⟩

/-- Rates of two percent, and an offset of a half. -/
def halfOffset : RuleTable := bandTable ⟨false, 2, -2⟩ ⟨false, 50, -2⟩

theorem split_hundreds : SplitInto [positionOf twoMonths hundred hundred]
    [[positionOf twoMonths hundred noMoney, positionOf twoMonths noMoney hundred]] := by
  refine List.Forall₂.cons ⟨?_, ?_, ?_, ?_⟩ List.Forall₂.nil
  · simp [positionOf]
  · simp [positionOf]
  · norm_num [positionOf, Position.long, hundred, noMoney, FiniteDecimal.value,
      FiniteDecimal.toInt]
  · norm_num [positionOf, Position.short, hundred, noMoney, FiniteDecimal.value,
      FiniteDecimal.toInt]

/-- A haircut as an equity position of one hundred on both sides has it, and as its sides have it
apart; a haircut on positions whose sums are rounded, in two orders; and haircuts with a negative
rate, and with an offset of three times the lesser charge. -/
theorem haircuts_vary :
    (∃ whole longPart shortPart : FiniteDecimal,
      SplitInto [positionOf twoMonths hundred hundred]
        [[positionOf twoMonths hundred noMoney, positionOf twoMonths noMoney hundred]] ∧
      Prod.fst <$> equityHaircut [positionOf twoMonths hundred hundred] (unread halfOffset) =
        .ok (some [⟨.equity, "ISSUE-51", whole, "(c)(2)(vi)(J)"⟩]) ∧
      Prod.fst <$> equityHaircut
        [positionOf twoMonths hundred noMoney, positionOf twoMonths noMoney hundred]
        (unread halfOffset) = .ok (some [⟨.equity, "ISSUE-51", longPart, "(c)(2)(vi)(J)"⟩,
          ⟨.equity, "ISSUE-51", shortPart, "(c)(2)(vi)(J)"⟩]) ∧
      whole.value < longPart.value + shortPart.value) ∧
    (∃ amount : FiniteDecimal,
      Prod.fst <$> governmentHaircut [positionOf twoMonths enormous noMoney,
        positionOf twoMonths noMoney enormous, positionOf twoMonths twoMonths noMoney] .category
        (unread halfOffset) =
          .ok (some [⟨.government, "government cat1", amount, "(c)(2)(vi)(A)(1)"⟩]) ∧
      Prod.fst <$> governmentHaircut [positionOf twoMonths enormous noMoney,
        positionOf twoMonths twoMonths noMoney, positionOf twoMonths noMoney enormous] .category
        (unread halfOffset) = .ok (some [])) ∧
    (∃ amount : FiniteDecimal,
      Prod.fst <$> governmentHaircut [positionOf twoMonths hundred noMoney] .subcategory
        (unread (bandTable ⟨true, 2, -2⟩ ⟨false, 50, -2⟩)) =
          .ok (some [⟨.government, "government cat1", amount, "(c)(2)(vi)(A)(2)"⟩]) ∧
      amount.value < 0) ∧
    ∃ offsetting apart : FiniteDecimal,
      Prod.fst <$> governmentHaircut [positionOf twoMonths hundred noMoney,
        positionOf fourMonths noMoney hundred] .category (unread (bandTable ⟨false, 2, -2⟩ 3)) =
          .ok (some [⟨.government, "government cat1", offsetting, "(c)(2)(vi)(A)(1)"⟩]) ∧
      Prod.fst <$> governmentHaircut [positionOf twoMonths hundred noMoney,
        positionOf fourMonths noMoney hundred] .subcategory
        (unread (bandTable ⟨false, 2, -2⟩ 3)) =
          .ok (some [⟨.government, "government cat1", apart, "(c)(2)(vi)(A)(2)"⟩]) ∧
      apart.value < offsetting.value := by
  refine ⟨⟨⟨false, 262500, -4⟩, ⟨false, 1500, -2⟩, ⟨false, 1500, -2⟩, split_hundreds, ?_, ?_, ?_⟩,
    ⟨⟨false, 4, -2⟩, ?_, ?_⟩, ⟨⟨true, 200, -2⟩, ?_, ?_⟩,
    ⟨false, 600, -2⟩, ⟨false, 400, -2⟩, ?_, ?_, ?_⟩
  · decide +kernel
  · decide +kernel
  · norm_num [FiniteDecimal.value, FiniteDecimal.toInt]
  · decide +kernel
  · decide +kernel
  · decide +kernel
  · norm_num [FiniteDecimal.value, FiniteDecimal.toInt]
  · decide +kernel
  · decide +kernel
  · norm_num [FiniteDecimal.value, FiniteDecimal.toInt]

theorem halfOffset_complete : halfOffset.CompleteBands where
  rate := by decide +kernel
  upper := by decide +kernel
  offset := by decide +kernel

/-- A hundred long, and a hundred short in the band after it. -/
def hundredsApart : List Position :=
  [positionOf twoMonths hundred noMoney, positionOf fourMonths noMoney hundred]

theorem halfOffset_rates : ∀ key ∈ bandKeys,
    halfOffset.figure (bandRate key) = some ⟨false, 2, -2⟩ := by
  decide +kernel

theorem hundredsApart_short :
    ShortFigures halfOffset ⟨false, 50, -2⟩ 0 (-2) (-2) 1 hundredsApart where
  fine := by decide
  coarse := by decide
  rate_nonpos := by decide
  offset_nonpos := by decide
  positions := by
    intro p hp
    rw [hundredsApart, List.mem_cons, List.mem_singleton] at hp
    obtain rfl | rfl := hp
    · exact ⟨OnGrid.value _, OnGrid.value _⟩
    · exact ⟨OnGrid.value _, OnGrid.value _⟩
  rates := by
    intro key hkey rate hrate
    rw [halfOffset_rates key hkey] at hrate
    cases hrate
    refine ⟨OnGrid.value _, ?_⟩
    norm_num [FiniteDecimal.value, FiniteDecimal.toInt]
  offset_grid := OnGrid.value _
  one_le := le_rfl
  within := by
    have hgross : gross hundredsApart = 200 := by
      norm_num [gross, hundredsApart, positionOf, Position.long, Position.short, hundred, noMoney,
        FiniteDecimal.value, FiniteDecimal.toInt]
    rw [hgross]
    norm_num [FiniteDecimal.value, FiniteDecimal.toInt]

/-- A long hundred and a short one are charged the same with their sides turned. -/
theorem hundredsApart_swapped : ∃ lines lines',
    Reads halfOffset (governmentHaircut hundredsApart .category) (some lines) ∧
    Reads halfOffset (governmentHaircut (hundredsApart.map Position.swapped) .category)
      (some lines') ∧
    lines'.map HaircutLine.stated = lines.map HaircutLine.stated := by
  obtain ⟨m, hm, -, -, hrearranged, -⟩ := haircuts_invariant halfOffset_complete
  have hcarried : m.Carried .category _ hundredsApart := hundredsApart_short.carried hm
  refine hrearranged .category ⟨false, 50, -2⟩ (by decide +kernel) hundredsApart _
    (Or.inr (Or.inl rfl)) (by decide) hcarried hcarried.swapped

end CustomerProtection

end Atreides
