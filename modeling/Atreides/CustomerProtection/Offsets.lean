import Mathlib.Tactic.Linarith
import Atreides.CustomerProtection.Challenger
import Atreides.Foundation.Decimal.Cancel

/-!
# Offset pairs

What the pairing of unexplained differences leaves: disjoint pairs, each of two differences of one
group that cancel, and no two unexplained differences that would.

## Main definitions

* `FigureVariance.Offsets` — two unexplained differences of one group cancel
* `OffsetPairs` — what is paired, what is kept and what is left
* `FirstPassed` — the unexplained differences are those a first pass leaves

## Main results

* `pairOffsets_pairs` — the pairs that are formed, and what they explain
-/

namespace Atreides

open DecimalContext (ambient)

namespace CustomerProtection

/-! ## Differences that cancel -/

section

variable {allowed : FiniteDecimal} {u v : FigureVariance}

/-- Two differences that cancel have a sum, as decimal arithmetic gives it, within what is
allowed. -/
theorem exists_of_cancels (h : cancels allowed u v = .ok true) :
    ∃ a b r, u.variance = some a ∧ v.variance = some b ∧ a.add ambient b = .ok r ∧
      |r.value| ≤ allowed.value := by
  rw [cancels] at h
  split at h
  · next a b ha hb =>
    obtain ⟨r, hr, h⟩ := Outcome.bind_eq_ok.mp h
    obtain ⟨size, hsize, h⟩ := Outcome.bind_eq_ok.mp h
    obtain ⟨size', hsize', hvalue⟩ :=
      FiniteDecimal.abs_exact_iff.mpr (FiniteDecimal.represents_of_add hr).abs
    rw [hsize] at hsize'
    cases hsize'
    refine ⟨a, b, r, ha, hb, hr, ?_⟩
    rw [← hvalue]
    exact FiniteDecimal.le_iff.mp (Except.ok.inj h)
  · cases h

/-- Whether two differences cancel depends on the value of their sum alone. -/
theorem cancels_congr {u' v' : FigureVariance} {a b a' b' : Money} (ha : u.variance = some a)
    (hb : v.variance = some b) (ha' : u'.variance = some a') (hb' : v'.variance = some b')
    (h : a.value + b.value = a'.value + b'.value) :
    cancels allowed u v = cancels allowed u' v' := by
  have hsize : ∀ {x y : Money} {w w' : FigureVariance}, w.variance = some x →
      w'.variance = some y → cancels allowed w w' =
        (FiniteDecimal.value <$> x.add ambient y >>= fun q =>
          .ok (decide (|q| ≤ allowed.value))) := by
    intro x y w w' hx hy
    rw [cancels, hx, hy]
    dsimp only
    rcases hr : x.add ambient y with e | r
    · rfl
    · obtain ⟨size, hsize, hvalue⟩ :=
        FiniteDecimal.abs_exact_iff.mpr (FiniteDecimal.represents_of_add hr).abs
      have hle : size.le allowed = decide (|r.value| ≤ allowed.value) := by
        rw [Bool.eq_iff_iff, FiniteDecimal.le_iff, hvalue, decide_eq_true_iff]
      change (r.abs ambient >>= fun size => Except.ok (size.le allowed)) = _
      rw [hsize]
      exact congrArg Except.ok hle
  rw [hsize ha hb, hsize ha' hb']
  congr 1
  exact DecimalContext.fix_value_congr
    (by rw [FiniteDecimal.value_exactAdd, FiniteDecimal.value_exactAdd, h])

theorem cancels_comm : cancels allowed u v = cancels allowed v u := by
  rcases ha : u.variance with _ | a
  · rw [cancels, cancels, ha]
    rcases v.variance with _ | b
    · rfl
    · rfl
  · rcases hb : v.variance with _ | b
    · rw [cancels, cancels, ha, hb]
    · exact cancels_congr ha hb hb ha (add_comm _ _)

end

/-- Two unexplained differences of one group cancel. -/
structure FigureVariance.Offsets (allowed : FiniteDecimal) (first second : FigureVariance) :
    Prop where
  unknown : first.classification = .unknown
  unknown' : second.classification = .unknown
  group : second.group = first.group
  cancels : CustomerProtection.cancels allowed first second = .ok true

theorem FigureVariance.Offsets.symm {allowed : FiniteDecimal} {first second : FigureVariance}
    (h : first.Offsets allowed second) : second.Offsets allowed first :=
  ⟨h.unknown', h.unknown, h.group.symm, cancels_comm.trans h.cancels⟩

/-! ## Looking for an offset -/

section

variable {allowed : FiniteDecimal} {state : Pairing} {first : FigureVariance}

/-- Where no offset is found, no place that was looked at offers one. -/
theorem cancels_of_findOffset_eq_none {places : List ℕ}
    (h : findOffset allowed state first places = .ok none) {j : ℕ} {second : FigureVariance}
    (hj : j ∈ places) (hsecond : state.out[j]? = some second) (hpaired : j ∉ state.paired)
    (hunknown : second.classification = .unknown) (hgroup : second.group = first.group) :
    cancels allowed first second = .ok false := by
  induction places with
  | nil => cases hj
  | cons place rest ih =>
    rw [findOffset] at h
    split at h
    · next hnone =>
      rcases List.mem_cons.mp hj with rfl | hj
      · rw [hsecond] at hnone
        cases hnone
      · exact ih h hj
    · next here hhere =>
      split_ifs at h with hskip
      · rcases List.mem_cons.mp hj with rfl | hj
        · rw [hsecond] at hhere
          cases hhere
          exact absurd hskip (by simp [hpaired, hunknown, hgroup])
        · exact ih h hj
      · obtain ⟨found, hfound, h⟩ := Outcome.bind_eq_ok.mp h
        split_ifs at h with hcancels
        · cases h
        · rcases List.mem_cons.mp hj with rfl | hj
          · rw [hsecond] at hhere
            cases hhere
            rw [hfound, Bool.eq_false_of_not_eq_true hcancels]
          · exact ih h hj

/-- Looking for an offset returns where every sum that is needed does. -/
theorem findOffset_returns (hsums : ∀ second ∈ state.out, (cancels allowed first second).Returns)
    (places : List ℕ) : (findOffset allowed state first places).Returns := by
  induction places with
  | nil => exact ⟨none, rfl⟩
  | cons place rest ih =>
    rw [findOffset]
    split
    · exact ih
    · next second hsecond =>
      split_ifs
      · exact ih
      · obtain ⟨found, hfound⟩ := hsums second (List.mem_of_getElem? hsecond)
        rw [hfound]
        cases found
        · exact ih
        · exact ⟨some (place, second), rfl⟩

/-- What looking for an offset of one place does: it pairs the place with a later one, or no later
one would offset it. -/
theorem pairAt_pairs_or_leaves {state' : Pairing} {i : ℕ} (h : pairAt allowed state i = .ok state') :
    (∃ j first second, i < j ∧ state.out[i]? = some first ∧ state.out[j]? = some second ∧
      i ∉ state.paired ∧ j ∉ state.paired ∧ first.Offsets allowed second ∧
      state' = ⟨(state.out.set i (first.offsetBy second)).set j (second.offsetBy first),
        state.paired ++ [i, j]⟩) ∨
    state' = state ∧ (i ∉ state.paired → ∀ j first second, i < j → state.out[i]? = some first →
      state.out[j]? = some second → j ∉ state.paired → ¬ first.Offsets allowed second) := by
  rw [pairAt] at h
  split at h
  · next hnone =>
    cases h
    refine .inr ⟨rfl, fun _ j first second _ hfirst => ?_⟩
    rw [hnone] at hfirst
    cases hfirst
  · next first hfirst =>
    split_ifs at h with hskip
    · cases h
      refine .inr ⟨rfl, fun hi j first' second _ hfirst' _ _ hoffsets => ?_⟩
      rw [hfirst] at hfirst'
      cases hfirst'
      exact hskip.elim (fun hclass => hclass hoffsets.unknown) hi
    · obtain ⟨found, hfound, h⟩ := Outcome.bind_eq_ok.mp h
      push Not at hskip
      rcases found with _ | ⟨j, second⟩
      · cases h
        refine .inr ⟨rfl, fun _ j first' second hij hfirst' hsecond hj hoffsets => ?_⟩
        rw [hfirst] at hfirst'
        cases hfirst'
        have hlength := (List.getElem?_eq_some_iff.mp hsecond).1
        have hplace : j ∈ List.range' (i + 1) (state.out.length - (i + 1)) := by
          rw [List.mem_range'_1]
          omega
        have hnot := cancels_of_findOffset_eq_none hfound hplace hsecond hj hoffsets.unknown'
          hoffsets.group
        rw [hoffsets.cancels] at hnot
        cases hnot
      · cases h
        obtain ⟨hplace, hsecond, hj, hunknown, hgroup, hcancels⟩ := findOffset_eq_some hfound
        exact .inl ⟨j, first, second, (List.mem_range'_1.mp hplace).1, hfirst, hsecond, hskip.2,
          hj, ⟨hskip.1, hunknown, hgroup, hcancels⟩, rfl⟩

end

/-! ## Pairs -/

/-- The places of some pairs. -/
def places (pairs : List (ℕ × ℕ)) : List ℕ := pairs.flatMap fun p => [p.1, p.2]

/-- What is paired, what is kept, and what is left: no place is in two pairs, each pair is of two
unexplained differences that offset each other and are explained by each other, every other
difference is as it was, and no two that are left would offset each other. -/
structure OffsetPairs (variances : List FigureVariance) (allowed : FiniteDecimal)
    (out : List FigureVariance) (pairs : List (ℕ × ℕ)) : Prop where
  length : out.length = variances.length
  disjoint : (places pairs).Nodup
  offset : ∀ p ∈ pairs, p.1 < p.2 ∧ ∃ first second, variances[p.1]? = some first ∧
    variances[p.2]? = some second ∧ first.Offsets allowed second ∧
    out[p.1]? = some (first.offsetBy second) ∧ out[p.2]? = some (second.offsetBy first)
  kept : ∀ k, k ∉ places pairs → out[k]? = variances[k]?
  maximal : ∀ (i j : ℕ) (first second : FigureVariance), i ≠ j → out[i]? = some first →
    out[j]? = some second → ¬ first.Offsets allowed second

/-- The pairs so far, where offsets were looked for of the places before one. -/
structure Pairing.Formed (variances : List FigureVariance) (allowed : FiniteDecimal) (n : ℕ)
    (state : Pairing) (pairs : List (ℕ × ℕ)) : Prop where
  paired : state.paired = places pairs
  length : state.out.length = variances.length
  disjoint : (places pairs).Nodup
  offset : ∀ p ∈ pairs, p.1 < p.2 ∧ ∃ first second, variances[p.1]? = some first ∧
    variances[p.2]? = some second ∧ first.Offsets allowed second ∧
    state.out[p.1]? = some (first.offsetBy second) ∧
    state.out[p.2]? = some (second.offsetBy first)
  kept : ∀ k, k ∉ places pairs → state.out[k]? = variances[k]?
  left : ∀ i < n, i ∉ places pairs → ∀ (j : ℕ) (first second : FigureVariance), i < j →
    j ∉ places pairs → variances[i]? = some first → variances[j]? = some second →
      ¬ first.Offsets allowed second

theorem mem_places {pairs : List (ℕ × ℕ)} {k : ℕ} :
    k ∈ places pairs ↔ ∃ p ∈ pairs, k = p.1 ∨ k = p.2 := by
  simp [places, List.mem_flatMap]

/-- One place: it is paired, or left for good. -/
theorem Pairing.Formed.pairAt {variances : List FigureVariance} {allowed : FiniteDecimal} {n : ℕ}
    {state state' : Pairing} {pairs : List (ℕ × ℕ)}
    (hformed : Formed variances allowed n state pairs)
    (h : CustomerProtection.pairAt allowed state n = .ok state') :
    ∃ pairs', Formed variances allowed (n + 1) state' pairs' := by
  obtain ⟨j, first, second, hij, hfirst, hsecond, hi, hj, hoffsets, rfl⟩ | ⟨rfl, hleft⟩ :=
    pairAt_pairs_or_leaves h
  · rw [hformed.paired] at hi hj
    have hsplit : places (pairs ++ [(n, j)]) = places pairs ++ [n, j] := by
      simp [places]
    have hi' : n < state.out.length := (List.getElem?_eq_some_iff.mp hfirst).1
    have hj' : j < state.out.length := (List.getElem?_eq_some_iff.mp hsecond).1
    have hother : ∀ k, k ≠ n → k ≠ j →
        ((state.out.set n (first.offsetBy second)).set j (second.offsetBy first))[k]? =
          state.out[k]? := by
      intro k hkn hkj
      rw [List.getElem?_set_ne hkj.symm, List.getElem?_set_ne hkn.symm]
    refine ⟨pairs ++ [(n, j)], ?_, ?_, ?_, ?_, ?_, ?_⟩
    · rw [hsplit, hformed.paired]
    · rw [List.length_set, List.length_set, hformed.length]
    · rw [hsplit, List.nodup_append]
      refine ⟨hformed.disjoint, by simp [hij.ne], ?_⟩
      rintro a ha b hb rfl
      rcases List.mem_cons.mp hb with rfl | hb
      · exact hi ha
      · exact hj (List.mem_singleton.mp hb ▸ ha)
    · intro p hp
      rcases List.mem_append.mp hp with hp | hp
      · obtain ⟨hlt, u, v, hu, hv, huv, hout, hout'⟩ := hformed.offset p hp
        have hmem : ∀ k, k = p.1 ∨ k = p.2 → k ∈ places pairs := fun k hk =>
          mem_places.mpr ⟨p, hp, hk⟩
        have hne : ∀ k, k = p.1 ∨ k = p.2 → k ≠ n ∧ k ≠ j := fun k hk =>
          ⟨fun heq => hi (heq ▸ hmem k hk), fun heq => hj (heq ▸ hmem k hk)⟩
        refine ⟨hlt, u, v, hu, hv, huv, ?_, ?_⟩
        · rw [hother p.1 (hne p.1 (.inl rfl)).1 (hne p.1 (.inl rfl)).2, hout]
        · rw [hother p.2 (hne p.2 (.inr rfl)).1 (hne p.2 (.inr rfl)).2, hout']
      · obtain rfl := List.mem_singleton.mp hp
        refine ⟨hij, first, second, ?_, ?_, hoffsets, ?_, ?_⟩
        · rw [← hformed.kept n hi, hfirst]
        · rw [← hformed.kept j hj, hsecond]
        · rw [List.getElem?_set_ne hij.ne', List.getElem?_set_self hi']
        · rw [List.getElem?_set_self (by rwa [List.length_set])]
    · intro k hk
      rw [hsplit] at hk
      simp only [List.mem_append, List.mem_cons, List.not_mem_nil, or_false, not_or] at hk
      rw [hother k hk.2.1 hk.2.2, hformed.kept k hk.1]
    · intro i hin hnot k u v hik hk
      rw [hsplit] at hnot hk
      simp only [List.mem_append, List.mem_cons, List.not_mem_nil, or_false, not_or] at hnot hk
      exact hformed.left i (by omega) hnot.1 k u v hik hk.1
  · refine ⟨pairs, hformed.paired, hformed.length, hformed.disjoint, hformed.offset,
      hformed.kept, ?_⟩
    intro i hin hnot k u v hik hk hu hv
    rcases Nat.lt_succ_iff_lt_or_eq.mp hin with hlt | rfl
    · exact hformed.left i hlt hnot k u v hik hk hu hv
    · rw [hformed.paired] at hleft
      exact hleft hnot k u v hik ((hformed.kept i hnot).trans hu) ((hformed.kept k hk).trans hv) hk

/-- Every difference that stands in the list has the amount of one that was supplied. -/
theorem Pairing.Formed.variance {variances : List FigureVariance} {allowed : FiniteDecimal}
    {n : ℕ} {state : Pairing} {pairs : List (ℕ × ℕ)}
    (hformed : Formed variances allowed n state pairs) {k : ℕ} {w : FigureVariance}
    (hw : state.out[k]? = some w) : ∃ v ∈ variances, w.variance = v.variance := by
  by_cases hk : k ∈ places pairs
  · obtain ⟨p, hp, hk⟩ := mem_places.mp hk
    obtain ⟨-, first, second, hfirst, hsecond, -, hout, hout'⟩ := hformed.offset p hp
    rcases hk with rfl | rfl
    · rw [hout] at hw
      cases hw
      exact ⟨first, List.mem_of_getElem? hfirst, rfl⟩
    · rw [hout'] at hw
      cases hw
      exact ⟨second, List.mem_of_getElem? hsecond, rfl⟩
  · rw [hformed.kept k hk] at hw
    exact ⟨w, List.mem_of_getElem? hw, rfl⟩

section

variable {variances : List FigureVariance} {allowed : FiniteDecimal}

/-- A place is looked at to the end where every sum that is needed is. -/
theorem Pairing.Formed.returns {n : ℕ} {state : Pairing} {pairs : List (ℕ × ℕ)}
    (hformed : Formed variances allowed n state pairs)
    (hsums : ∀ u ∈ variances, ∀ v ∈ variances, (cancels allowed u v).Returns) :
    (CustomerProtection.pairAt allowed state n).Returns := by
  rw [CustomerProtection.pairAt]
  split
  · exact ⟨state, rfl⟩
  · next first hfirst =>
    split_ifs
    · exact ⟨state, rfl⟩
    · have hsums' : ∀ second ∈ state.out, (cancels allowed first second).Returns := by
        intro second hsecond
        obtain ⟨k, hk⟩ := List.mem_iff_getElem?.mp hsecond
        obtain ⟨u, hu, hvariance⟩ := hformed.variance hfirst
        obtain ⟨v, hv, hvariance'⟩ := hformed.variance hk
        have hsum := hsums u hu v hv
        rw [cancels, ← hvariance, ← hvariance'] at hsum
        exact hsum
      obtain ⟨found, hfound⟩ :=
        findOffset_returns hsums' (List.range' (n + 1) (state.out.length - (n + 1)))
      dsimp only
      rw [hfound]
      rcases found with _ | ⟨j, second⟩
      · exact ⟨state, rfl⟩
      · exact ⟨_, rfl⟩

/-- A whole run, place by place. -/
theorem formed_of_run (hsums : ∀ u ∈ variances, ∀ v ∈ variances, (cancels allowed u v).Returns)
    (n : ℕ) : ∃ state pairs,
      Outcome.foldSteps (CustomerProtection.pairAt allowed) ⟨variances, []⟩ (List.range n) =
        .ok state ∧ state.Formed variances allowed n pairs := by
  induction n with
  | zero =>
    refine ⟨⟨variances, []⟩, [], rfl, rfl, rfl, List.nodup_nil, ?_, fun _ _ => rfl, ?_⟩
    · intro p hp
      cases hp
    · intro i hi
      omega
  | succ n ih =>
    obtain ⟨state, pairs, hrun, hformed⟩ := ih
    obtain ⟨state', hstep⟩ := hformed.returns hsums
    obtain ⟨pairs', hformed'⟩ := hformed.pairAt hstep
    refine ⟨state', pairs', ?_, hformed'⟩
    rw [List.range_succ, Outcome.foldSteps_append, hrun]
    change (Outcome.foldSteps _ state [n]) = _
    rw [Outcome.foldSteps_cons, hstep]
    rfl

/-- When every place was looked at, nothing that is left could be paired. -/
theorem Pairing.Formed.offsetPairs {state : Pairing} {pairs : List (ℕ × ℕ)}
    (hformed : Formed variances allowed variances.length state pairs) :
    OffsetPairs variances allowed state.out pairs := by
  have hplace : ∀ {k : ℕ} {w : FigureVariance}, state.out[k]? = some w →
      w.classification = .unknown → k < variances.length ∧ k ∉ places pairs ∧
        variances[k]? = some w := by
    intro k w hw hunknown
    have hlength := (List.getElem?_eq_some_iff.mp hw).1
    have hk : k ∉ places pairs := by
      intro hk
      obtain ⟨p, hp, hk⟩ := mem_places.mp hk
      obtain ⟨-, first, second, -, -, -, hout, hout'⟩ := hformed.offset p hp
      -- what is paired is not unexplained
      rcases hk with rfl | rfl
      · rw [hout] at hw
        cases hw
        cases hunknown
      · rw [hout'] at hw
        cases hw
        cases hunknown
    exact ⟨hformed.length ▸ hlength, hk, (hformed.kept k hk).symm.trans hw⟩
  refine ⟨hformed.length, hformed.disjoint, hformed.offset, hformed.kept, ?_⟩
  intro i j first second hij hfirst hsecond hoffsets
  obtain ⟨hi, hi', hfirst⟩ := hplace hfirst hoffsets.unknown
  obtain ⟨hj, hj', hsecond⟩ := hplace hsecond hoffsets.unknown'
  rcases lt_or_gt_of_ne hij with hlt | hgt
  · exact hformed.left i hi hi' j first second hlt hj' hfirst hsecond hoffsets
  · exact hformed.left j hj hj' i second first hgt hi' hsecond hfirst hoffsets.symm

/-! ## What pairs explain -/

/-- The amount of a difference at a place, exactly. -/
def amountAt (variances : List FigureVariance) (k : ℕ) : ℚ :=
  ((variances[k]?.bind FigureVariance.variance).map FiniteDecimal.value).getD 0

/-- The pairs of a group. -/
def pairsOf (variances : List FigureVariance) (pairs : List (ℕ × ℕ)) (group : String) :
    List (ℕ × ℕ) :=
  pairs.filter fun p => variances[p.1]?.map FigureVariance.group = some group

/-- What the pairs of a group explain altogether. -/
def explainedSum (variances : List FigureVariance) (pairs : List (ℕ × ℕ)) (group : String) : ℚ :=
  ((places (pairsOf variances pairs group)).map (amountAt variances)).sum

/-- The unexplained differences are those a first pass leaves: each is an amount that the context
holds, beyond the tolerance. -/
def FirstPassed (variances : List FigureVariance) (allowed : FiniteDecimal) : Prop :=
  ∀ v ∈ variances, v.classification = .unknown → ∃ amount, v.variance = some amount ∧
    ambient.Represents amount.value ∧ allowed.value < |amount.value|

/-- Two differences that a first pass leaves and that cancel are together within the tolerance,
exactly. -/
theorem abs_amounts_le (hpassed : FirstPassed variances allowed) {i j : ℕ}
    {first second : FigureVariance} (hfirst : variances[i]? = some first)
    (hsecond : variances[j]? = some second) (hoffsets : first.Offsets allowed second) :
    |amountAt variances i + amountAt variances j| ≤ allowed.value := by
  obtain ⟨a, b, r, ha, hb, hr, hle⟩ := exists_of_cancels hoffsets.cancels
  obtain ⟨a', ha', hheld, hlarge⟩ :=
    hpassed first (List.mem_of_getElem? hfirst) hoffsets.unknown
  obtain ⟨b', hb', hheld', hlarge'⟩ :=
    hpassed second (List.mem_of_getElem? hsecond) hoffsets.unknown'
  rw [ha] at ha'
  rw [hb] at hb'
  cases ha'
  cases hb'
  have hexact := FiniteDecimal.add_exact_of_cancel hheld hheld' hr (hle.trans_lt hlarge)
    (hle.trans_lt hlarge')
  have hamount : amountAt variances i = a.value := by
    rw [amountAt, hfirst, Option.bind_some, ha]
    rfl
  have hamount' : amountAt variances j = b.value := by
    rw [amountAt, hsecond, Option.bind_some, hb]
    rfl
  rw [hamount, hamount', ← hexact]
  exact hle

/-- What the pairs of a group explain is within the tolerance for each of them. -/
theorem OffsetPairs.abs_explainedSum_le {out : List FigureVariance} {pairs : List (ℕ × ℕ)}
    (hpairs : OffsetPairs variances allowed out pairs) (hpassed : FirstPassed variances allowed)
    (group : String) : |explainedSum variances pairs group| ≤
      allowed.value * (pairsOf variances pairs group).length := by
  have hmem : ∀ p ∈ pairsOf variances pairs group, p ∈ pairs := fun p hp =>
    List.mem_of_mem_filter hp
  rw [explainedSum]
  generalize pairsOf variances pairs group = chosen at hmem ⊢
  induction chosen with
  | nil => simp [places]
  | cons p chosen ih =>
    obtain ⟨-, first, second, hfirst, hsecond, hoffsets, -, -⟩ :=
      hpairs.offset p (hmem p List.mem_cons_self)
    have hone := abs_amounts_le hpassed hfirst hsecond hoffsets
    have hrest := ih fun q hq => hmem q (List.mem_cons_of_mem p hq)
    have hsplit : ((places (p :: chosen)).map (amountAt variances)).sum =
        (amountAt variances p.1 + amountAt variances p.2) +
          ((places chosen).map (amountAt variances)).sum := by
      simp [places]
      ring
    calc |((places (p :: chosen)).map (amountAt variances)).sum|
        ≤ |amountAt variances p.1 + amountAt variances p.2| +
            |((places chosen).map (amountAt variances)).sum| := by
          rw [hsplit]
          exact abs_add_le _ _
      _ ≤ allowed.value + allowed.value * chosen.length := add_le_add hone hrest
      _ = allowed.value * (p :: chosen).length := by
          rw [List.length_cons]
          push_cast
          ring

end

/-! ## What a first pass leaves -/

/-- What is allowed where a tolerance is stated or not. -/
def allowedOf (tolerance : Option NonNegativeMoney) : FiniteDecimal :=
  (tolerance.map NonNegativeMoney.amount).getD 0

/-- A comparison is left unexplained only beyond the tolerance. -/
theorem lt_of_classified_unknown {inputs : ChallengerInputs} {vendor : VendorFigure}
    {variance : Money} {explanation : String} (hheld : ambient.Represents variance.value)
    (h : classified inputs vendor variance = .ok (.unknown, explanation)) :
    (allowedOf inputs.roundingTolerance).value < |variance.value| := by
  rw [classified] at h
  split_ifs at h with hzero hdate
  · cases h
  · cases h
  · rw [FiniteDecimal.isZero_iff] at hzero
    rcases htolerance : inputs.roundingTolerance with _ | tolerance
    · rw [allowedOf, Option.map_none, Option.getD_none, FiniteDecimal.value_zero]
      exact abs_pos.mpr hzero
    · rw [htolerance] at h
      obtain ⟨size, hsize, h⟩ := Outcome.bind_eq_ok.mp h
      obtain ⟨size', hsize', hvalue⟩ := FiniteDecimal.abs_exact_iff.mpr hheld.abs
      rw [hsize] at hsize'
      cases hsize'
      rw [allowedOf, Option.map_some, Option.getD_some, ← hvalue]
      by_contra hsmall
      rw [not_lt, ← FiniteDecimal.le_iff] at hsmall
      rw [if_pos hsmall] at h
      cases h

/-- A first pass leaves an engine figure unexplained only beyond the tolerance. -/
theorem exists_of_firstPass_unknown {inputs : ChallengerInputs} {figure : Figure}
    {vendor : Option VendorFigure} {v : FigureVariance}
    (h : firstPass inputs figure vendor = .ok v) (hunknown : v.classification = .unknown) :
    ∃ amount, v.variance = some amount ∧ ambient.Represents amount.value ∧
      (allowedOf inputs.roundingTolerance).value < |amount.value| := by
  rcases hengine : figure.value with _ | x
  · simp only [firstPass, hengine, Except.ok.injEq] at h
    subst h
    cases hunknown
  rcases vendor with _ | w
  · simp only [firstPass, hengine, Except.ok.injEq] at h
    subst h
    cases hunknown
  rcases hvendor : w.value with _ | y
  · simp only [firstPass, hengine, Option.bind_some, hvendor, Except.ok.injEq] at h
    subst h
    cases hunknown
  · simp only [firstPass, hengine, Option.bind_some, hvendor, Outcome.bind_eq_ok] at h
    obtain ⟨variance, hvariance, ⟨found, explanation⟩, hfound, h⟩ := h
    cases h
    obtain rfl : found = .unknown := hunknown
    have hheld := FiniteDecimal.represents_of_sub hvariance
    exact ⟨variance, rfl, hheld, lt_of_classified_unknown hheld hfound⟩

/-- The comparisons of a challenger are those a first pass leaves. -/
theorem firstPassed_compared {inputs : ChallengerInputs} {compared : List FigureVariance}
    (h : inputs.compared = .ok compared) :
    FirstPassed compared (allowedOf inputs.roundingTolerance) := by
  obtain ⟨engine, hengine, h⟩ := Outcome.bind_eq_ok.mp h
  cases h
  intro v hv hunknown
  rcases List.mem_append.mp hv with hv | hv
  · obtain ⟨figure, -, hfirst⟩ := Outcome.exists_of_mem_collect hengine hv
    exact exists_of_firstPass_unknown hfirst hunknown
  · obtain ⟨w, -, rfl⟩ := List.mem_map.mp hv
    cases hunknown

/-! ## Main result -/

/-- For every list of differences and every tolerance where no sum of two of them overflows: the
pairs are disjoint, each of two differences of one group that cancel; nothing else changes, and no
two that would cancel are left. Where the unexplained differences are those a first pass leaves,
as they are in every list that is compared, what the pairs of a group explain altogether is within
the tolerance for each pair. -/
theorem pairOffsets_pairs (variances : List FigureVariance) (tolerance : Option NonNegativeMoney)
    (hsums : ∀ u ∈ variances, ∀ v ∈ variances, (cancels (allowedOf tolerance) u v).Returns) :
    (∃ out pairs, pairOffsets variances tolerance = .ok out ∧
      OffsetPairs variances (allowedOf tolerance) out pairs ∧
      (FirstPassed variances (allowedOf tolerance) → ∀ group,
        |explainedSum variances pairs group| ≤
          (allowedOf tolerance).value * (pairsOf variances pairs group).length)) ∧
    ∀ inputs : ChallengerInputs, inputs.roundingTolerance = tolerance →
      inputs.compared = .ok variances → FirstPassed variances (allowedOf tolerance) := by
  obtain ⟨state, pairs, hrun, hformed⟩ := formed_of_run hsums variances.length
  refine ⟨⟨state.out, pairs, ?_, hformed.offsetPairs,
    hformed.offsetPairs.abs_explainedSum_le⟩, ?_⟩
  · change (Outcome.foldSteps (pairAt (allowedOf tolerance)) ⟨variances, []⟩
      (List.range variances.length) >>= fun state : Pairing => Except.ok state.out) = _
    rw [hrun]
    rfl
  · rintro inputs rfl hcompared
    exact firstPassed_compared hcompared

/-! ## Beyond twenty-eight digits -/

/-- A difference of one group that is not explained. -/
def unexplained (name : String) (amount : FiniteDecimal) : FigureVariance :=
  ⟨name, "15c3-3a.credits", none, none, some amount, .unknown, "not explained"⟩

/-- A tolerance of twenty-eight nines. -/
def vastTolerance : NonNegativeMoney := ⟨⟨false, 9999999999999999999999999999, 0⟩, by decide⟩

/-- As much as the tolerance, and two fifths more. -/
def vastDifferences : List FigureVariance :=
  [unexplained "15c3-3a.item.01" ⟨false, 9999999999999999999999999999, 0⟩,
    unexplained "15c3-3a.item.02" ⟨false, 4, -1⟩]

/-- The sum of two differences is rounded to twenty-eight digits, so that a pair may explain more
than the tolerance; and where it overflows nothing is paired at all. -/
theorem pairOffsets_rounds :
    pairOffsets vastDifferences (some vastTolerance) = .ok
      [(unexplained "15c3-3a.item.01" ⟨false, 9999999999999999999999999999, 0⟩).offsetBy
          (unexplained "15c3-3a.item.02" ⟨false, 4, -1⟩),
        (unexplained "15c3-3a.item.02" ⟨false, 4, -1⟩).offsetBy
          (unexplained "15c3-3a.item.01" ⟨false, 9999999999999999999999999999, 0⟩)] ∧
    ¬ |explainedSum vastDifferences [(0, 1)] "15c3-3a.credits"| ≤
      vastTolerance.amount.value * 1 ∧
    pairOffsets [unexplained "15c3-3a.item.01" ⟨false, 9, 999999⟩,
      unexplained "15c3-3a.item.02" ⟨false, 9, 999999⟩] none = .error .overflow := by
  refine ⟨by decide +kernel, ?_, by decide +kernel⟩
  have hsum : explainedSum vastDifferences [(0, 1)] "15c3-3a.credits" =
      9999999999999999999999999999 + 4 / 10 := by
    norm_num [explainedSum, pairsOf, places, amountAt, vastDifferences, unexplained,
      FiniteDecimal.value, FiniteDecimal.toInt]
  have htolerance : vastTolerance.amount.value = 9999999999999999999999999999 := by
    norm_num [vastTolerance, FiniteDecimal.value, FiniteDecimal.toInt]
  rw [hsum, htolerance]
  norm_num

/-- Three differences of one group, two of which cancel. -/
theorem pairOffsets_pairs_three :
    ∃ out pairs, pairOffsets [unexplained "a" ⟨false, 5, 0⟩, unexplained "b" ⟨false, 7, 0⟩,
        unexplained "c" ⟨true, 5, 0⟩] none = .ok out ∧
      OffsetPairs [unexplained "a" ⟨false, 5, 0⟩, unexplained "b" ⟨false, 7, 0⟩,
        unexplained "c" ⟨true, 5, 0⟩] (allowedOf none) out pairs := by
  have hsums : ∀ u ∈ [unexplained "a" ⟨false, 5, 0⟩, unexplained "b" ⟨false, 7, 0⟩,
      unexplained "c" ⟨true, 5, 0⟩], ∀ v ∈ [unexplained "a" ⟨false, 5, 0⟩,
        unexplained "b" ⟨false, 7, 0⟩, unexplained "c" ⟨true, 5, 0⟩],
          (cancels (allowedOf none) u v).Returns := by
    simp only [List.forall_mem_cons, List.not_mem_nil, false_implies, implies_true, and_true]
    refine ⟨⟨⟨_, rfl⟩, ⟨_, rfl⟩, ⟨_, rfl⟩⟩, ⟨⟨_, rfl⟩, ⟨_, rfl⟩, ⟨_, rfl⟩⟩, ⟨_, rfl⟩, ⟨_, rfl⟩,
      ⟨_, rfl⟩⟩
  obtain ⟨⟨out, pairs, hout, hpairs, -⟩, -⟩ := pairOffsets_pairs _ none hsums
  exact ⟨out, pairs, hout, hpairs⟩

end CustomerProtection

end Atreides
