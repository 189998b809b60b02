import Mathlib.Data.List.Perm.Lattice
import Atreides.Foundation.RunningTotals
import Atreides.Foundation.Tally
import Atreides.Rails.Cns

/-!
# Netting and the order of the trades

The positions a list of trades nets into should not depend on the order the trades arrive
in. Where the totals do not round they do not, but the bound on magnitudes is checked on
every running total, so an order may be refused that another order of the same trades is
not.

## Main definitions

* `netBound` — the largest magnitude the rounded comparison lets through
* `SameOutcome` — the same positions, or a refusal each
* `OrderFree` — every order of the trades has the same outcome, and it is exact

## Main results

* `netPositions_cases` — finite trades net exactly when all running totals stay in the bound
* `orderFree_iff` — exactly when the order does not matter
-/

namespace Atreides

open DecimalContext (ambient)

/-! ## The bound -/

/-- The largest magnitude that is not beyond the declared bound once it is rounded. -/
def netBound : ℚ := 10 ^ 30 + 500

theorem exceedsBound_iff {d : FiniteDecimal} :
    exceedsBound d = .ok false ↔ |d.value| ≤ netBound := by
  have hbound : declaredBound.value = 10 ^ 27 * 10 ^ (3 : ℤ) := by
    norm_num [declaredBound, FiniteDecimal.value, FiniteDecimal.toInt]
  have hhalf : netBound = (10 ^ 27 + 1 / 2) * 10 ^ (3 : ℤ) := by norm_num [netBound]
  have hrounded : ∀ {r : FiniteDecimal}, d.abs ambient = .ok r →
      (declaredBound.lt r = false ↔ |d.value| ≤ netBound) := by
    intro r hr
    rw [Bool.eq_false_iff, ne_eq, FiniteDecimal.lt_iff, not_lt, hbound, hhalf]
    exact @FiniteDecimal.abs_le_decade_iff ambient d r 3 (by decide) (by decide) (by decide) hr
  rw [exceedsBound, Outcome.bind_eq_ok]
  constructor
  · rintro ⟨r, hr, h⟩
    exact (hrounded hr).mp (Except.ok.inj h)
  · intro h
    obtain ⟨r, hr⟩ : ∃ r, d.abs ambient = .ok r := by
      refine DecimalContext.fix_returns (by decide) ?_
      rw [← FiniteDecimal.abs_value, FiniteDecimal.value_copyAbs, abs_abs]
      refine h.trans_lt (lt_of_lt_of_le ?_ (ten_zpow_le (by decide : (31 : ℤ) ≤ ambient.Emax)))
      norm_num [netBound]
    exact ⟨r, hr, congrArg Except.ok ((hrounded hr).mpr h)⟩

/-! ## Trades -/

/-- Trades of finite amounts, as they are supplied. -/
def asTrades (amounts : List (String × FiniteDecimal)) : List (String × Supplied) :=
  amounts.map fun p => (p.1, .decimal (.finite p.2))

/-- The signed amounts of one security, in order. -/
def signedAmounts (securityId : String) (trades : List (String × Supplied)) : List ℚ :=
  (trades.filter fun t => t.1 = securityId).filterMap fun t => t.2.finite?.map FiniteDecimal.value

theorem signedAmounts_asTrades (securityId : String) (amounts : List (String × FiniteDecimal)) :
    signedAmounts securityId (asTrades amounts) = amountsOf securityId amounts := by
  rw [signedAmounts, asTrades, amountsOf, List.filter_map, List.filterMap_map,
    ← List.filterMap_eq_map]
  rfl

theorem signedAmounts_perm (securityId : String) {xs ys : List (String × Supplied)}
    (h : xs.Perm ys) : (signedAmounts securityId xs).Perm (signedAmounts securityId ys) :=
  (h.filter _).filterMap _

/-- A trade of a finite amount within the bound. -/
def Admissible (trade : String × Supplied) : Prop :=
  ∃ d : FiniteDecimal, trade.2 = .decimal (.finite d) ∧ |d.value| ≤ netBound

/-- Trades are admissible exactly when they are trades of finite amounts within the bound. -/
theorem forall_admissible_iff {trades : List (String × Supplied)} :
    (∀ trade ∈ trades, Admissible trade) ↔
      ∃ amounts, trades = asTrades amounts ∧ ∀ p ∈ amounts, |p.2.value| ≤ netBound := by
  constructor
  · intro h
    induction trades with
    | nil => exact ⟨[], rfl, by simp⟩
    | cons trade rest ih =>
      obtain ⟨amounts, hamounts, hwithin⟩ := ih fun t ht => h t (List.mem_cons_of_mem _ ht)
      obtain ⟨d, hd, hle⟩ := h trade List.mem_cons_self
      refine ⟨(trade.1, d) :: amounts, ?_, ?_⟩
      · rw [asTrades, List.map_cons, ← hd, ← asTrades, hamounts]
      · rintro p hp
        rcases List.mem_cons.mp hp with rfl | hp
        · exact hle
        · exact hwithin p hp
  · rintro ⟨amounts, rfl, hwithin⟩ trade htrade
    obtain ⟨p, hp, rfl⟩ := List.mem_map.mp htrade
    exact ⟨p.2, rfl, hwithin p hp⟩

/-! ## One trade -/

/-- The totals and the counts of the amounts so far. -/
structure Netted (totals : NettingTotals) (amounts : List (String × FiniteDecimal)) : Prop where
  totals_eq : Tallied totals.1 amounts
  counts_eq : ∀ securityId, totals.2.getD securityId 0 =
    (amounts.filter fun p => p.1 = securityId).length

theorem Netted.empty : Netted (.empty, .empty) [] :=
  ⟨Tallied.empty, fun _ => rfl⟩

/-- A magnitude is let through exactly when it is within the bound; otherwise the comparison
says so or raises. -/
theorem exceedsBound_cases (d : FiniteDecimal) :
    (|d.value| ≤ netBound ∧ exceedsBound d = .ok false) ∨
      (¬ |d.value| ≤ netBound ∧
        (exceedsBound d = .ok true ∨ ∃ e, exceedsBound d = .error e)) := by
  rw [← exceedsBound_iff]
  rcases exceedsBound d with e | _ | _
  · exact Or.inr ⟨by simp, Or.inr ⟨e, rfl⟩⟩
  · exact Or.inl ⟨rfl, rfl⟩
  · exact Or.inr ⟨by simp, Or.inl rfl⟩

variable {totals : NettingTotals} {amounts : List (String × FiniteDecimal)}

/-- A trade is added when its amount and its security's new total are within the bound, and
is refused otherwise. -/
theorem netTrade_cases (h : Netted totals amounts) (securityId : String) (d : FiniteDecimal)
    (hexact : ExactSums nettingContext (amountsOf securityId (amounts ++ [(securityId, d)]))) :
    (|d.value| ≤ netBound ∧
        |(amountsOf securityId (amounts ++ [(securityId, d)])).sum| ≤ netBound ∧
        ∃ totals', netTrade totals (securityId, .decimal (.finite d)) = .ok totals' ∧
          Netted totals' (amounts ++ [(securityId, d)])) ∨
      (¬ (|d.value| ≤ netBound ∧
          |(amountsOf securityId (amounts ++ [(securityId, d)])).sum| ≤ netBound) ∧
        ∃ e, netTrade totals (securityId, .decimal (.finite d)) = .error e) := by
  simp only [netTrade, Supplied.finite?]
  rcases exceedsBound_cases d with ⟨hwithin, hd⟩ | ⟨hbeyond, hd⟩
  · obtain ⟨balances, hbalances, htallied⟩ := h.totals_eq.addTo hexact
    rw [Dict.addTo, Outcome.bind_eq_ok] at hbalances
    obtain ⟨total, htotal, hset⟩ := hbalances
    cases hset
    have hvalue : total.value = (amountsOf securityId (amounts ++ [(securityId, d)])).sum := by
      rw [← htallied.value_eq, Dict.getD_set, if_pos rfl]
    rw [← hvalue]
    rcases exceedsBound_cases total with ⟨hwithin', htotal'⟩ | ⟨hbeyond, htotal'⟩
    · refine Or.inl ⟨hwithin, hwithin', (totals.1.set securityId total,
        totals.2.set securityId (totals.2.getD securityId 0 + 1)),
        by simp [hd, htotal, htotal'], htallied, ?_⟩
      intro s
      rw [Dict.getD_set, List.filter_append, List.length_append, ← h.counts_eq]
      by_cases hs : securityId = s
      · simp [hs]
      · simp [hs]
    · refine Or.inr ⟨fun hboth => hbeyond hboth.2, ?_⟩
      rcases htotal' with htotal' | ⟨e, htotal'⟩
      · exact ⟨_, by simp [hd, htotal, htotal']; rfl⟩
      · exact ⟨e, by simp [hd, htotal, htotal']⟩
  · refine Or.inr ⟨fun hboth => hbeyond hboth.1, ?_⟩
    rcases hd with hd | ⟨e, hd⟩
    · exact ⟨_, by simp [hd]; rfl⟩
    · exact ⟨e, by simp [hd]⟩

/-- A trade that is added is admissible, whatever the totals are. -/
theorem admissible_of_netTrade {trade : String × Supplied} {totals' : NettingTotals}
    (h : netTrade totals trade = .ok totals') : Admissible trade := by
  obtain ⟨securityId, d | b | quoted⟩ := trade
  · rcases d with d | negative | ⟨negative, signaling, payload⟩
    · simp only [netTrade, Supplied.finite?] at h
      rcases exceedsBound_cases d with ⟨hwithin, -⟩ | ⟨-, hd | ⟨e, hd⟩⟩
      · exact ⟨d, rfl, hwithin⟩
      · simp [hd] at h
      · simp [hd] at h
    · cases h
    · cases h
  · cases h
  · cases h

/-! ## All trades -/

/-- The totals of a list of trades. -/
def netAll (trades : List (String × Supplied)) : Outcome NettingTotals :=
  Outcome.foldSteps netTrade (.empty, .empty) trades

/-- Trades that net are all admissible. -/
theorem admissible_of_netAll {trades : List (String × Supplied)} {totals : NettingTotals}
    (h : netAll trades = .ok totals) : ∀ trade ∈ trades, Admissible trade := by
  unfold netAll at h
  generalize ((Dict.empty, Dict.empty) : NettingTotals) = start at h
  induction trades generalizing start with
  | nil => simp
  | cons trade rest ih =>
    rw [Outcome.foldSteps_cons, Outcome.bind_eq_ok] at h
    obtain ⟨next, hnext, hrest⟩ := h
    intro t ht
    rcases List.mem_cons.mp ht with rfl | ht
    · exact admissible_of_netTrade hnext
    · exact ih next hrest t ht

/-- Every amount and every running total of a security are within the bound. -/
def WithinBounds (amounts : List (String × FiniteDecimal)) : Prop :=
  (∀ p ∈ amounts, |p.2.value| ≤ netBound) ∧
    ∀ securityId, RunsWithin netBound (amountsOf securityId amounts)

theorem withinBounds_concat {securityId : String} {d : FiniteDecimal} :
    WithinBounds (amounts ++ [(securityId, d)]) ↔ WithinBounds amounts ∧ |d.value| ≤ netBound ∧
      |(amountsOf securityId (amounts ++ [(securityId, d)])).sum| ≤ netBound := by
  have hself := amountsOf_append securityId amounts [(securityId, d)]
  rw [amountsOf_singleton_self] at hself
  constructor
  · rintro ⟨hamounts, hruns⟩
    refine ⟨⟨fun p hp => hamounts p (List.mem_append_left _ hp), fun s => ?_⟩,
      hamounts (securityId, d) (by simp), (hruns securityId).sum⟩
    have := hruns s
    rw [amountsOf_append] at this
    exact fun ys hys => this ys (hys.trans (List.prefix_append _ _))
  · rintro ⟨⟨hamounts, hruns⟩, hd, htotal⟩
    refine ⟨fun p hp => ?_, fun s => ?_⟩
    · rcases List.mem_append.mp hp with hp | hp
      · exact hamounts p hp
      · rw [List.mem_singleton.mp hp]
        exact hd
    · by_cases hs : securityId = s
      · subst hs
        rw [hself, runsWithin_concat, ← hself]
        exact ⟨hruns securityId, htotal⟩
      · rw [amountsOf_append, amountsOf_singleton_of_ne hs, List.append_nil]
        exact hruns s

/-- Finite amounts net when they stay within the bounds, to their exact totals, and are
refused otherwise. -/
theorem netAll_cases
    (hexact : ∀ securityId, ExactSums nettingContext (amountsOf securityId amounts)) :
    (WithinBounds amounts ∧ ∃ totals, netAll (asTrades amounts) = .ok totals ∧
        Netted totals amounts) ∨
      (¬ WithinBounds amounts ∧ ∃ e, netAll (asTrades amounts) = .error e) := by
  induction amounts using List.reverseRecOn with
  | nil =>
    have hbound : (0 : ℚ) ≤ netBound := by norm_num [netBound]
    exact Or.inl ⟨⟨by simp, fun _ => runsWithin_nil hbound⟩, _, rfl, Netted.empty⟩
  | append_singleton amounts p ih =>
    obtain ⟨securityId, d⟩ := p
    have hsplit : netAll (asTrades (amounts ++ [(securityId, d)])) =
        (netAll (asTrades amounts) >>= fun totals =>
          netTrade totals (securityId, .decimal (.finite d))) := by
      rw [netAll, asTrades, List.map_append, Outcome.foldSteps_append, ← asTrades, ← netAll]
      congr 1
      funext totals
      simp only [List.map_cons, List.map_nil, Outcome.foldSteps_cons, Outcome.foldSteps_nil]
      exact bind_pure _
    have hexact' : ∀ s, ExactSums nettingContext (amountsOf s amounts) := by
      intro s
      have := hexact s
      rw [amountsOf_append] at this
      exact this.append_left
    rw [hsplit, withinBounds_concat]
    rcases ih hexact' with ⟨hwithin, totals, htotals, hnetted⟩ | ⟨hbeyond, e, he⟩
    · rw [htotals]
      rcases netTrade_cases hnetted securityId d (hexact securityId) with
        ⟨hd, htotal, hok⟩ | ⟨hnot, herr⟩
      · exact Or.inl ⟨⟨hwithin, hd, htotal⟩, hok⟩
      · exact Or.inr ⟨fun h => hnot h.2, herr⟩
    · exact Or.inr ⟨fun h => hbeyond h.1, e, by rw [he]; rfl⟩

/-! ## Orders of the trades -/

/-- Some order of the amounts stays within the bounds when every amount and every total do. -/
theorem exists_order_withinBounds (hamounts : ∀ p ∈ amounts, |p.2.value| ≤ netBound)
    (htotals : ∀ securityId, |(amountsOf securityId amounts).sum| ≤ netBound) :
    ∃ ordered, ordered.Perm amounts ∧ WithinBounds ordered := by
  -- an order for each security, and then one security after the other
  have hgroup : ∀ s : String, ∃ g : List (String × FiniteDecimal),
      g.Perm (amounts.filter fun p => p.1 = s) ∧
        RunsWithin netBound (g.map fun p => p.2.value) := fun s =>
    exists_order_within (fun p hp => hamounts p (List.mem_of_mem_filter hp)) (htotals s)
  choose g hperm hruns using hgroup
  have hkeys : ∀ s, ∀ p ∈ g s, p.1 = s := fun s p hp => by
    simpa using (List.mem_filter.mp ((hperm s).subset hp)).2
  have hnodup := Dict.nodup_firstKeys (amounts.map Prod.fst)
  have hordered : ((Dict.firstKeys (amounts.map Prod.fst)).flatMap g).Perm amounts :=
    perm_groups hnodup (fun p hp => Dict.mem_firstKeys.mpr (List.mem_map_of_mem hp))
      fun s _ => hperm s
  refine ⟨_, hordered, fun p hp => hamounts p (hordered.subset hp), fun s => ?_⟩
  rw [amountsOf, filter_groups hkeys hnodup]
  split_ifs with hs
  · exact hruns s
  · exact runsWithin_nil (by norm_num [netBound])

/-- A flow beyond the bound is reached by some order of the amounts. -/
theorem exists_order_not_withinBounds {securityId : String}
    (h : netBound < inflow (amountsOf securityId amounts) ∨
      outflow (amountsOf securityId amounts) < -netBound) :
    ∃ ordered, ordered.Perm amounts ∧ ¬ WithinBounds ordered := by
  obtain ⟨g, hperm, hbeyond⟩ := exists_order_beyond h
  refine ⟨g ++ amounts.filter (fun p => !decide (p.1 = securityId)),
    (hperm.append_right _).trans (List.filter_append_perm _ amounts), fun hwithin => ?_⟩
  refine hbeyond fun ys hys => (hwithin.2 securityId) ys (hys.trans ?_)
  have hkeys : (g.filter fun p => p.1 = securityId) = g := by
    rw [List.filter_eq_self]
    exact fun p hp => (List.mem_filter.mp (hperm.subset hp)).2
  rw [amountsOf_append, amountsOf, hkeys]
  exact List.prefix_append _ _

/-- The totals of finite amounts in two orders. -/
theorem Netted.perm {totals totals' : NettingTotals}
    {amounts' : List (String × FiniteDecimal)} (h : Netted totals amounts)
    (h' : Netted totals' amounts') (hperm : amounts'.Perm amounts) :
    totals'.1.keys.Perm totals.1.keys ∧
      (∀ s, (totals'.1.getD s 0).value = (totals.1.getD s 0).value) ∧
      ∀ s, totals'.2.getD s 0 = totals.2.getD s 0 := by
  refine ⟨?_, fun s => ?_, fun s => ?_⟩
  · rw [List.perm_ext_iff_of_nodup totals'.1.keys_nodup totals.1.keys_nodup]
    intro s
    rw [h.totals_eq.mem_keys, h'.totals_eq.mem_keys]
    exact (hperm.map Prod.fst).mem_iff
  · exact h'.totals_eq.value_congr h.totals_eq s (amountsOf_perm s hperm).sum_eq
  · rw [h.counts_eq, h'.counts_eq]
    exact (hperm.filter _).length_eq

/-! ## Outcomes -/

/-- Two positions that differ at most in how the quantity is written. -/
def NetPosition.Same (p q : NetPosition) : Prop :=
  { q with quantity := p.quantity } = p ∧ Decimal.eq p.quantity q.quantity = .ok true

/-- Both calls return the same positions, or both refuse. -/
def SameOutcome (r r' : Outcome (List NetPosition)) : Prop :=
  (∃ ps qs, r = .ok ps ∧ r' = .ok qs ∧ List.Forall₂ NetPosition.Same ps qs) ∨
    ((∃ e, r = .error e) ∧ ∃ e, r' = .error e)

variable (marketId : String) (settlementDateOffsetDays : ℤ)
variable (assignedProcessingDateOffsetDays : Option ℤ)

/-- Every order of the trades has the same outcome, and every position returned is the exact
sum of its security's signed amounts. -/
def OrderFree (trades : List (String × Supplied)) (novated : Bool) : Prop :=
  ∀ ordered : List (String × Supplied), ordered.Perm trades →
    SameOutcome
        (netPositions trades marketId settlementDateOffsetDays novated
          assignedProcessingDateOffsetDays)
        (netPositions ordered marketId settlementDateOffsetDays novated
          assignedProcessingDateOffsetDays) ∧
      ∀ ps, netPositions ordered marketId settlementDateOffsetDays novated
          assignedProcessingDateOffsetDays = .ok ps →
        ∀ p ∈ ps, ∃ d, p.quantity = .finite d ∧
          d.value = (signedAmounts p.securityId trades).sum

/-- The positions of the same amounts in two orders are the same. -/
theorem positionsOf_same {totals totals' : NettingTotals}
    {amounts' : List (String × FiniteDecimal)} (h : Netted totals amounts)
    (h' : Netted totals' amounts') (hperm : amounts'.Perm amounts) :
    List.Forall₂ NetPosition.Same
      (positionsOf marketId settlementDateOffsetDays assignedProcessingDateOffsetDays totals)
      (positionsOf marketId settlementDateOffsetDays assignedProcessingDateOffsetDays totals') := by
  obtain ⟨hkeys, hvalues, hcounts⟩ := h.perm h' hperm
  have hsorted : totals'.1.keys.insertionSort (· ≤ ·) = totals.1.keys.insertionSort (· ≤ ·) := by
    refine List.Perm.eq_of_sortedLE (List.sortedLE_insertionSort) (List.sortedLE_insertionSort) ?_
    exact (List.perm_insertionSort _ _).trans (hkeys.trans (List.perm_insertionSort _ _).symm)
  rw [positionsOf, positionsOf, hsorted, List.forall₂_map_left_iff, List.forall₂_map_right_iff,
    List.forall₂_same]
  intro s _
  refine ⟨by simp [hcounts], ?_⟩
  change Except.ok _ = _
  rw [Except.ok.injEq, FiniteDecimal.eq_iff]
  exact (hvalues s).symm

/-- Novated trades of finite amounts return the positions of their totals when they stay
within the bounds, and are refused otherwise. -/
theorem netPositions_cases
    (hexact : ∀ securityId, ExactSums nettingContext (amountsOf securityId amounts)) :
    (WithinBounds amounts ∧ ∃ totals, Netted totals amounts ∧
        netPositions (asTrades amounts) marketId settlementDateOffsetDays true
            assignedProcessingDateOffsetDays =
          .ok (positionsOf marketId settlementDateOffsetDays assignedProcessingDateOffsetDays
            totals)) ∨
      (¬ WithinBounds amounts ∧ ∃ e,
        netPositions (asTrades amounts) marketId settlementDateOffsetDays true
          assignedProcessingDateOffsetDays = .error e) := by
  have heq : netPositions (asTrades amounts) marketId settlementDateOffsetDays true
      assignedProcessingDateOffsetDays = (netAll (asTrades amounts) >>= fun totals =>
        .ok (positionsOf marketId settlementDateOffsetDays assignedProcessingDateOffsetDays
          totals)) := rfl
  rw [heq]
  rcases netAll_cases hexact with ⟨hwithin, totals, htotals, hnetted⟩ | ⟨hbeyond, e, he⟩
  · exact Or.inl ⟨hwithin, totals, hnetted, by rw [htotals]; rfl⟩
  · exact Or.inr ⟨hbeyond, e, by rw [he]; rfl⟩

theorem asTrades_perm_iff {amounts' : List (String × FiniteDecimal)} :
    (asTrades amounts').Perm (asTrades amounts) ↔ amounts'.Perm amounts := by
  refine List.map_perm_map_iff fun p q h => ?_
  obtain ⟨hname, hquantity⟩ := Prod.mk.inj h
  exact Prod.ext hname (Decimal.finite.inj (Supplied.decimal.inj hquantity))

/-- An order of trades of finite amounts is trades of an order of the amounts. -/
theorem perm_asTrades {ordered : List (String × Supplied)} (h : ordered.Perm (asTrades amounts)) :
    ∃ amounts' : List (String × FiniteDecimal), ordered = asTrades amounts' ∧
      amounts'.Perm amounts := by
  obtain ⟨amounts', hordered, hperm⟩ := (List.eq_map_comp_perm _).ge ordered amounts h
  exact ⟨amounts', hordered, hperm⟩

/-- The order of finite amounts does not matter exactly when all orders of them stay within
the bounds, or none does. -/
theorem orderFree_iff_withinBounds
    (hexact : ∀ securityId, ExactSums nettingContext (amountsOf securityId amounts)) :
    OrderFree marketId settlementDateOffsetDays assignedProcessingDateOffsetDays
        (asTrades amounts) true ↔
      ∀ ordered : List (String × FiniteDecimal), ordered.Perm amounts →
        (WithinBounds ordered ↔ WithinBounds amounts) := by
  have hcases := fun {xs : List (String × FiniteDecimal)} (hxs : xs.Perm amounts) =>
    @netPositions_cases xs marketId settlementDateOffsetDays assignedProcessingDateOffsetDays
      fun s => (hexact s).perm (amountsOf_perm s hxs)
  have hown := hcases (List.Perm.refl amounts)
  constructor
  · intro hfree ordered hperm
    obtain ⟨hsame, -⟩ := hfree _ (asTrades_perm_iff.mpr hperm)
    rcases hown with ⟨hwithin, totals, -, hok⟩ | ⟨hbeyond, e, herr⟩ <;>
      rcases hcases hperm with ⟨hwithin', totals', -, hok'⟩ | ⟨hbeyond', e', herr'⟩
    · exact iff_of_true hwithin' hwithin
    · rw [hok, herr'] at hsame
      rcases hsame with ⟨ps, qs, -, h, -⟩ | ⟨⟨e, h⟩, -⟩ <;> cases h
    · rw [herr, hok'] at hsame
      rcases hsame with ⟨ps, qs, h, -, -⟩ | ⟨-, e, h⟩ <;> cases h
    · exact iff_of_false hbeyond' hbeyond
  · intro hall ordered hordered
    obtain ⟨amounts', rfl, hperm⟩ := perm_asTrades hordered
    rcases hown with ⟨hwithin, totals, hnetted, hok⟩ | ⟨hbeyond, e, herr⟩ <;>
      rcases hcases hperm with ⟨hwithin', totals', hnetted', hok'⟩ | ⟨hbeyond', e', herr'⟩
    · refine ⟨Or.inl ⟨_, _, hok, hok', positionsOf_same _ _ _ hnetted hnetted' hperm⟩, ?_⟩
      intro ps hps p hp
      rw [hok'] at hps
      cases hps
      obtain ⟨s, -, rfl⟩ := List.mem_map.mp hp
      refine ⟨_, rfl, ?_⟩
      rw [signedAmounts_asTrades, hnetted'.totals_eq.value_eq, (amountsOf_perm s hperm).sum_eq]
    · exact absurd ((hall amounts' hperm).mpr hwithin) hbeyond'
    · exact absurd ((hall amounts' hperm).mp hwithin') hbeyond
    · refine ⟨Or.inr ⟨⟨e, herr⟩, e', herr'⟩, ?_⟩
      intro ps hps
      rw [herr'] at hps
      cases hps

/-- All orders stay within the bounds, or none does, exactly when some security's total is
beyond them or no security's flows are, as long as every amount is within them. -/
theorem all_orders_iff (hamounts : ∀ p ∈ amounts, |p.2.value| ≤ netBound) :
    (∀ ordered : List (String × FiniteDecimal), ordered.Perm amounts →
        (WithinBounds ordered ↔ WithinBounds amounts)) ↔
      (∃ s, netBound < |(amountsOf s amounts).sum|) ∨
        ∀ s, inflow (amountsOf s amounts) ≤ netBound ∧
          -netBound ≤ outflow (amountsOf s amounts) := by
  constructor
  · intro hall
    by_cases htotals : ∀ s, |(amountsOf s amounts).sum| ≤ netBound
    · -- some order stays within the bounds, so every order does
      obtain ⟨good, hgood, hwithin⟩ := exists_order_withinBounds hamounts htotals
      refine Or.inr fun s => ?_
      by_contra hflows
      rw [not_and_or, not_le, not_le] at hflows
      obtain ⟨bad, hbad, hbeyond⟩ := exists_order_not_withinBounds hflows
      exact hbeyond ((hall bad hbad).mpr ((hall good hgood).mp hwithin))
    · push Not at htotals
      exact Or.inl htotals
  · rintro (⟨s, hs⟩ | hflows) ordered hperm
    · have hnone : ∀ xs : List (String × FiniteDecimal), xs.Perm amounts → ¬ WithinBounds xs := by
        intro xs hxs hwithin
        have htotal := (hwithin.2 s).sum
        rw [(amountsOf_perm s hxs).sum_eq] at htotal
        exact absurd htotal (not_le.mpr hs)
      exact iff_of_false (hnone ordered hperm) (hnone amounts (List.Perm.refl amounts))
    · have heach : ∀ xs : List (String × FiniteDecimal), xs.Perm amounts → WithinBounds xs := by
        intro xs hxs
        refine ⟨fun p hp => hamounts p (hxs.subset hp), fun s => ?_⟩
        exact runsWithin_of_flows (hflows s).1 (hflows s).2 (amountsOf_perm s hxs)
      exact iff_of_true (heach ordered hperm) (heach amounts (List.Perm.refl amounts))

/-- Trades of which one is not admissible are refused in every order. -/
theorem orderFree_of_not_admissible {trades : List (String × Supplied)}
    (h : ∃ trade ∈ trades, ¬ Admissible trade) :
    OrderFree marketId settlementDateOffsetDays assignedProcessingDateOffsetDays trades true := by
  obtain ⟨trade, htrade, hnot⟩ := h
  have hrefused : ∀ xs : List (String × Supplied), xs.Perm trades →
      ∃ e, netPositions xs marketId settlementDateOffsetDays true
        assignedProcessingDateOffsetDays = .error e := by
    intro xs hxs
    rcases hnet : netAll xs with e | totals
    · refine ⟨e, ?_⟩
      change (netAll xs >>= _) = _
      rw [hnet]
      rfl
    · exact absurd (admissible_of_netAll hnet trade (hxs.symm.subset htrade)) hnot
  intro ordered hordered
  obtain ⟨e, he⟩ := hrefused ordered hordered
  refine ⟨Or.inr ⟨hrefused trades (List.Perm.refl trades), e, he⟩, fun ps hps => ?_⟩
  rw [he] at hps
  cases hps

/-- The order of the trades does not matter exactly when nothing was novated, a trade is
refused on its own, a security's total is beyond the bound, or both flows of every security
are within it. -/
theorem orderFree_iff {trades : List (String × Supplied)} (novated : Bool)
    (hexact : (∀ trade ∈ trades, Admissible trade) →
      ∀ securityId, ExactSums nettingContext (signedAmounts securityId trades)) :
    OrderFree marketId settlementDateOffsetDays assignedProcessingDateOffsetDays trades novated ↔
      novated = false ∨ (∃ trade ∈ trades, ¬ Admissible trade) ∨
        (∃ securityId, netBound < |(signedAmounts securityId trades).sum|) ∨
          ∀ securityId, inflow (signedAmounts securityId trades) ≤ netBound ∧
            -netBound ≤ outflow (signedAmounts securityId trades) := by
  rcases novated with _ | _
  · refine iff_of_true (fun ordered _ => ⟨Or.inl ⟨[], [], rfl, rfl, List.Forall₂.nil⟩, ?_⟩)
      (Or.inl rfl)
    intro ps hps p hp
    cases hps
    cases hp
  · by_cases hadmissible : ∀ trade ∈ trades, Admissible trade
    · obtain ⟨amounts, rfl, hamounts⟩ := forall_admissible_iff.mp hadmissible
      have hexact' := hexact hadmissible
      simp only [signedAmounts_asTrades] at hexact' ⊢
      rw [orderFree_iff_withinBounds _ _ _ hexact', all_orders_iff hamounts]
      constructor
      · exact fun h => Or.inr (Or.inr h)
      · rintro (h | ⟨trade, htrade, hnot⟩ | h)
        · cases h
        · exact absurd (hadmissible trade htrade) hnot
        · exact h
    · push Not at hadmissible
      exact iff_of_true (orderFree_of_not_admissible _ _ _ hadmissible)
        (Or.inr (Or.inl hadmissible))

/-- Ten bought and four sold of one security. -/
def tenBoughtFourSold : List (String × FiniteDecimal) :=
  [("ISSUE-1", ⟨false, 10, 0⟩), ("ISSUE-1", ⟨true, 4, 0⟩)]

theorem orderFree_iff_ten_bought_four_sold :
    OrderFree "MARKET-1" 1 none (asTrades tenBoughtFourSold) true := by
  have hvalues : ∀ s, signedAmounts s (asTrades tenBoughtFourSold) =
      if s = "ISSUE-1" then [10, -4] else [] := by
    intro s
    rw [signedAmounts_asTrades]
    by_cases hs : "ISSUE-1" = s
    · subst hs
      norm_num [amountsOf, tenBoughtFourSold, FiniteDecimal.value, FiniteDecimal.toInt]
    · simp [amountsOf, tenBoughtFourSold, hs, Ne.symm hs]
  have hgrid : ∀ x : ℚ, x ∈ [(10 : ℚ), -4] → OnGrid 0 x := by
    intro x hx
    rcases List.mem_pair.mp hx with rfl | rfl
    · exact ⟨10, by norm_num⟩
    · exact ⟨-4, by norm_num⟩
  have hexact : ExactSums nettingContext [(10 : ℚ), -4] :=
    ExactSums.of_grid hgrid (by decide) (by decide)
      (by norm_num [sumAbs, nettingContext, DecimalContext.withPrec])
  refine (orderFree_iff "MARKET-1" 1 none true fun _ s => ?_).mpr
    (Or.inr (Or.inr (Or.inr fun s => ?_)))
  · rw [hvalues]
    split_ifs
    · exact hexact
    · exact ExactSums.nil _
  · rw [hvalues]
    split_ifs
    · norm_num [inflow, outflow, netBound]
    · norm_num [inflow, outflow, netBound]

/-- Two large purchases of one security and a large sale of it in between. -/
def saleBetweenPurchases : List (String × FiniteDecimal) :=
  [("ISSUE-1", ⟨false, 9, 29⟩), ("ISSUE-1", ⟨true, 9, 29⟩), ("ISSUE-1", ⟨false, 9, 29⟩)]

/-- The same trades, both purchases first. -/
def purchasesFirst : List (String × FiniteDecimal) :=
  [("ISSUE-1", ⟨false, 9, 29⟩), ("ISSUE-1", ⟨false, 9, 29⟩), ("ISSUE-1", ⟨true, 9, 29⟩)]

/-- The trades net one way and are refused the other way. -/
theorem netting_not_orderFree :
    ¬ ∀ trades : List (String × Supplied), OrderFree "MARKET-1" 1 none trades true := by
  intro h
  have hperm : purchasesFirst.Perm saleBetweenPurchases := (List.Perm.swap _ _ []).cons _
  obtain ⟨ps, hps⟩ : ∃ ps, netPositions (asTrades saleBetweenPurchases) "MARKET-1" 1 true none =
      .ok ps := ⟨_, rfl⟩
  obtain ⟨e, he⟩ : ∃ e, netPositions (asTrades purchasesFirst) "MARKET-1" 1 true none =
      .error e := ⟨_, rfl⟩
  obtain ⟨hsame, -⟩ := h _ _ (asTrades_perm_iff.mpr hperm)
  rw [hps, he] at hsame
  rcases hsame with ⟨_, _, _, hok, _⟩ | ⟨⟨_, herr⟩, _⟩
  · cases hok
  · cases herr

end Atreides
