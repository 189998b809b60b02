import Atreides.Foundation.Tally

/-!
# Totals by key, as they are added

A tally adds the amounts of each key in the order of the list, whatever other keys come between
them. Two dictionaries of numbers are compared key by key.

## Main definitions

* `runningTotal` — the amounts under one key, added in order
* `Dict.sameNumbers` — two dictionaries hold the same keys and equal numbers
* `LastIsTotal` — the last amount of every key is the total under it

## Main results

* `getD_tally`, `tally_returns_iff` — a tally is its running totals
* `sameNumbers_eq_true_iff` — the comparison, where the expected numbers are finite
* `sameNumbers_own_iff` — a list agrees with its own last amounts where these are its totals
-/

variable {κ : Type} [DecidableEq κ] {ctx : DecimalContext}

/-! ## Running totals -/

/-- The amounts under a key, added to zero in order. -/
def runningTotal (ctx : DecimalContext) (k : κ) (xs : List (κ × FiniteDecimal)) :
    Outcome FiniteDecimal :=
  Outcome.foldSteps (fun total x => total.add ctx x) 0
    ((xs.filter fun p => p.1 = k).map Prod.snd)

section

variable {xs : List (κ × FiniteDecimal)} {d : Dict κ FiniteDecimal} {k : κ}

@[simp] theorem runningTotal_nil : runningTotal ctx k [] = .ok 0 := rfl

theorem runningTotal_concat_self (x : FiniteDecimal) :
    runningTotal ctx k (xs ++ [(k, x)]) =
      (runningTotal ctx k xs >>= fun total => total.add ctx x) := by
  have hlast : [(k, x)].filter (fun p => decide (p.1 = k)) = [(k, x)] := by simp
  rw [runningTotal, List.filter_append, hlast, List.map_append, Outcome.foldSteps_append]
  refine congrArg _ ?_
  funext total
  rw [List.map_singleton, Outcome.foldSteps_cons]
  exact bind_pure _

theorem runningTotal_concat_of_ne {k' : κ} (h : k' ≠ k) (x : FiniteDecimal) :
    runningTotal ctx k (xs ++ [(k', x)]) = runningTotal ctx k xs := by
  have hlast : [(k', x)].filter (fun p => decide (p.1 = k)) = [] := by simp [h]
  rw [runningTotal, List.filter_append, hlast, List.append_nil, runningTotal]

/-- What a tally holds under a key is the key's running total. -/
theorem getD_tally (h : tally ctx xs = .ok d) (k : κ) :
    runningTotal ctx k xs = .ok (d.getD k 0) := by
  induction xs using List.reverseRecOn generalizing d with
  | nil =>
    cases h
    rfl
  | append_singleton xs p ih =>
    obtain ⟨k', x⟩ := p
    rw [tally_concat, Outcome.bind_eq_ok] at h
    obtain ⟨before, hbefore, hlast⟩ := h
    rw [Dict.addTo, Outcome.bind_eq_ok] at hlast
    obtain ⟨total, htotal, hset⟩ := hlast
    cases hset
    rw [Dict.getD_set]
    by_cases hk : k' = k
    · subst hk
      rw [runningTotal_concat_self, ih hbefore, if_pos rfl, Outcome.ok_bind]
      exact htotal
    · rw [runningTotal_concat_of_ne hk, ih hbefore, if_neg hk]

/-- A list can be tallied where every key has a running total. -/
theorem tally_returns_iff :
    (∃ d, tally ctx xs = .ok d) ↔ ∀ k, ∃ total, runningTotal ctx k xs = .ok total := by
  constructor
  · rintro ⟨d, hd⟩ k
    exact ⟨_, getD_tally hd k⟩
  · intro h
    induction xs using List.reverseRecOn with
    | nil => exact ⟨_, rfl⟩
    | append_singleton xs p ih =>
      obtain ⟨k', x⟩ := p
      have hprior : ∀ k, ∃ total, runningTotal ctx k xs = .ok total := by
        intro k
        obtain ⟨total, htotal⟩ := h k
        by_cases hk : k' = k
        · subst hk
          rw [runningTotal_concat_self, Outcome.bind_eq_ok] at htotal
          obtain ⟨before, hbefore, -⟩ := htotal
          exact ⟨before, hbefore⟩
        · rw [runningTotal_concat_of_ne hk] at htotal
          exact ⟨total, htotal⟩
      obtain ⟨before, hbefore⟩ := ih hprior
      obtain ⟨total, htotal⟩ := h k'
      rw [runningTotal_concat_self, getD_tally hbefore k', Outcome.ok_bind] at htotal
      exact ⟨before.set k' total, by
        rw [tally_concat, hbefore, Outcome.ok_bind, Dict.addTo, htotal]
        rfl⟩

end

/-! ## The same numbers -/

/-- Compare each number with the one expected under its key, up to the first that differs. -/
def sameItems (expected : Dict κ Decimal) : List (κ × FiniteDecimal) → Outcome Bool
  | [] => .ok true
  | (k, x) :: rest =>
    match expected.get? k with
    | none => .ok false
    | some y => do
      let same ← Decimal.eq y (.finite x)
      if same then sameItems expected rest else .ok false

/-- Dictionaries of numbers are equal where they hold the same keys with equal numbers. -/
def Dict.sameNumbers (actual : Dict κ FiniteDecimal) (expected : Dict κ Decimal) : Outcome Bool :=
  if actual.items.length ≠ expected.items.length then .ok false
  else sameItems expected actual.items

theorem sameItems_eq_true_iff {expected : Dict κ Decimal} {items : List (κ × FiniteDecimal)}
    (hfinite : ∀ k y, expected.get? k = some y → ∃ z, y = .finite z) :
    sameItems expected items = .ok true ↔
      ∀ p ∈ items, ∃ z, expected.get? p.1 = some (.finite z) ∧ z.value = p.2.value := by
  induction items with
  | nil => simp [sameItems]
  | cons p rest ih =>
    obtain ⟨k, x⟩ := p
    rw [sameItems, List.forall_mem_cons, ← ih]
    rcases hget : expected.get? k with _ | y
    · simp
    · obtain ⟨z, rfl⟩ := hfinite k y hget
      have heq : Decimal.eq (.finite z) (.finite x) = .ok (z.eq x) := rfl
      dsimp only
      rw [heq]
      simp only [Outcome.ok_bind, Option.some.injEq, Decimal.finite.injEq, exists_eq_left']
      by_cases hsame : z.value = x.value
      · rw [if_pos (FiniteDecimal.eq_iff.mpr hsame)]
        simp [hsame]
      · rw [if_neg fun h => hsame (FiniteDecimal.eq_iff.mp h)]
        simp [hsame]

/-- Where the expected numbers are finite, the comparison holds just where both dictionaries hold
the same numbers. -/
theorem sameNumbers_eq_true_iff {actual : Dict κ FiniteDecimal} {expected : Dict κ Decimal}
    (hfinite : ∀ k y, expected.get? k = some y → ∃ z, y = .finite z) :
    actual.sameNumbers expected = .ok true ↔
      (∀ k, k ∈ actual.keys ↔ k ∈ expected.keys) ∧
        ∀ k x, actual.get? k = some x →
          ∃ z, expected.get? k = some (.finite z) ∧ z.value = x.value := by
  have hlengths : actual.keys.length = actual.items.length ∧
      expected.keys.length = expected.items.length :=
    ⟨List.length_map _, List.length_map _⟩
  rw [Dict.sameNumbers]
  constructor
  · intro h
    have hlength : actual.items.length = expected.items.length := by
      by_contra hne
      rw [if_pos hne] at h
      cases h
    rw [if_neg (not_not.mpr hlength)] at h
    have hitems := (sameItems_eq_true_iff hfinite).mp h
    have hget : ∀ k x, actual.get? k = some x →
        ∃ z, expected.get? k = some (.finite z) ∧ z.value = x.value := fun k x hx =>
      hitems (k, x) (Dict.get?_eq_some_iff.mp hx)
    have hsub : actual.keys ⊆ expected.keys := by
      intro k hk
      obtain ⟨x, hx⟩ := Option.isSome_iff_exists.mp (Dict.get?_isSome_iff.mpr hk)
      obtain ⟨z, hz, -⟩ := hget k x hx
      rw [← Dict.get?_isSome_iff, hz]
      rfl
    -- as many keys, all of them expected, are all that are expected
    have hperm : actual.keys.Perm expected.keys :=
      (List.subperm_of_subset actual.keys_nodup hsub).perm_of_length_le (by omega)
    exact ⟨fun k => hperm.mem_iff, hget⟩
  · rintro ⟨hkeys, hget⟩
    have hperm : actual.keys.Perm expected.keys :=
      (List.perm_ext_iff_of_nodup actual.keys_nodup expected.keys_nodup).mpr hkeys
    have hlength := hperm.length_eq
    rw [if_neg (by omega)]
    refine (sameItems_eq_true_iff hfinite).mpr ?_
    intro p hp
    exact hget p.1 p.2 (Dict.get?_eq_some_iff.mpr hp)

theorem sameItems_returns {expected : Dict κ Decimal} (items : List (κ × FiniteDecimal))
    (hfinite : ∀ k y, expected.get? k = some y → ∃ z, y = .finite z) :
    ∃ same, sameItems expected items = .ok same := by
  induction items with
  | nil => exact ⟨true, rfl⟩
  | cons p rest ih =>
    obtain ⟨k, x⟩ := p
    rw [sameItems]
    rcases hget : expected.get? k with _ | y
    · exact ⟨false, rfl⟩
    · obtain ⟨z, rfl⟩ := hfinite k y hget
      have heq : Decimal.eq (.finite z) (.finite x) = .ok (z.eq x) := rfl
      dsimp only
      rw [heq, Outcome.ok_bind]
      cases z.eq x
      · exact ⟨false, rfl⟩
      · exact ih

/-- Where the expected numbers are finite, the comparison comes to an answer. -/
theorem sameNumbers_returns (actual : Dict κ FiniteDecimal) {expected : Dict κ Decimal}
    (hfinite : ∀ k y, expected.get? k = some y → ∃ z, y = .finite z) :
    ∃ same, actual.sameNumbers expected = .ok same := by
  rw [Dict.sameNumbers]
  split_ifs
  · exact ⟨false, rfl⟩
  · exact sameItems_returns _ hfinite

/-! ## The last amount against the total -/

/-- The finite amounts of a list. -/
def finiteAmounts (pairs : List (κ × Decimal)) : List (κ × FiniteDecimal) :=
  pairs.filterMap fun p => match p.2 with
    | .finite d => some (p.1, d)
    | _ => none

omit [DecidableEq κ] in
theorem finiteAmounts_cons (p : κ × Decimal) (pairs : List (κ × Decimal)) :
    finiteAmounts (p :: pairs) = finiteAmounts [p] ++ finiteAmounts pairs :=
  List.filterMap_append (l := [p])

/-- The last amount of every key is the key's running total. -/
def LastIsTotal (ctx : DecimalContext) (pairs : List (κ × Decimal)) : Prop :=
  ∀ k last, (Dict.ofPairs pairs).get? k = some (.finite last) →
    ∃ total, runningTotal ctx k (finiteAmounts pairs) = .ok total ∧ total.value = last.value

section

variable {pairs : List (κ × Decimal)} {d : Dict κ FiniteDecimal}

omit [DecidableEq κ] in
theorem keys_finiteAmounts (h : ∀ p ∈ pairs, ∃ z, p.2 = .finite z) :
    (finiteAmounts pairs).map Prod.fst = pairs.map Prod.fst := by
  induction pairs with
  | nil => rfl
  | cons p rest ih =>
    obtain ⟨k, y⟩ := p
    obtain ⟨z, rfl⟩ : ∃ z, y = .finite z := h (k, y) List.mem_cons_self
    have hcons : finiteAmounts ((k, Decimal.finite z) :: rest) = (k, z) :: finiteAmounts rest := rfl
    rw [hcons, List.map_cons, List.map_cons]
    exact congrArg _ (ih fun p hp => h p (List.mem_cons_of_mem _ hp))

theorem finite_of_get?_ofPairs (h : ∀ p ∈ pairs, ∃ z, p.2 = .finite z) :
    ∀ k y, (Dict.ofPairs pairs).get? k = some y → ∃ z, y = .finite z :=
  fun k y hget => h (k, y) (Dict.mem_of_get?_ofPairs hget)

/-- A key without amounts has a total of zero. -/
theorem runningTotal_of_not_mem {k : κ} {xs : List (κ × FiniteDecimal)}
    (h : k ∉ xs.map Prod.fst) : runningTotal ctx k xs = .ok 0 := by
  have hnone : xs.filter (fun p => decide (p.1 = k)) = [] := by
    rw [List.filter_eq_nil_iff]
    intro p hp hk
    exact h (List.mem_map.mpr ⟨p, hp, of_decide_eq_true hk⟩)
  rw [runningTotal, hnone]
  rfl

/-- A list's own tally is what its last amounts say just where the last amounts are the totals. -/
theorem sameNumbers_own_iff (h : ∀ p ∈ pairs, ∃ z, p.2 = .finite z) :
    (∃ d, tally ctx (finiteAmounts pairs) = .ok d ∧
      d.sameNumbers (.ofPairs pairs) = .ok true) ↔ LastIsTotal ctx pairs := by
  have hfinite := finite_of_get?_ofPairs h
  have hkeys : ∀ k, k ∈ (finiteAmounts pairs).map Prod.fst ↔ k ∈ (Dict.ofPairs pairs).keys := by
    intro k
    rw [keys_finiteAmounts h, Dict.mem_keys_ofPairs]
  constructor
  · rintro ⟨d, hd, hsame⟩ k last hlast
    obtain ⟨hsamekeys, hget⟩ := (sameNumbers_eq_true_iff hfinite).mp hsame
    have hk : k ∈ d.keys := by
      rw [hsamekeys, ← Dict.get?_isSome_iff, hlast]
      rfl
    obtain ⟨x, hx⟩ := Option.isSome_iff_exists.mp (Dict.get?_isSome_iff.mpr hk)
    obtain ⟨z, hz, hvalue⟩ := hget k x hx
    rw [hlast] at hz
    cases hz
    refine ⟨x, ?_, hvalue.symm⟩
    rw [getD_tally hd k, Dict.getD, hx, Option.getD_some]
  · intro hlast
    have htotals : ∀ k, ∃ total, runningTotal ctx k (finiteAmounts pairs) = .ok total := by
      intro k
      by_cases hk : k ∈ (finiteAmounts pairs).map Prod.fst
      · obtain ⟨y, hy⟩ := Option.isSome_iff_exists.mp
          (Dict.get?_isSome_iff.mpr ((hkeys k).mp hk))
        obtain ⟨z, rfl⟩ := hfinite k y hy
        obtain ⟨total, htotal, -⟩ := hlast k z hy
        exact ⟨total, htotal⟩
      · exact ⟨0, runningTotal_of_not_mem hk⟩
    obtain ⟨d, hd⟩ := tally_returns_iff.mpr htotals
    have hsamekeys : ∀ k, k ∈ d.keys ↔ k ∈ (Dict.ofPairs pairs).keys := by
      intro k
      rw [mem_keys_tally hd, hkeys]
    refine ⟨d, hd, (sameNumbers_eq_true_iff hfinite).mpr ⟨hsamekeys, ?_⟩⟩
    intro k x hx
    have hk : k ∈ (Dict.ofPairs pairs).keys := by
      rw [← hsamekeys, ← Dict.get?_isSome_iff, hx]
      rfl
    obtain ⟨y, hy⟩ := Option.isSome_iff_exists.mp (Dict.get?_isSome_iff.mpr hk)
    obtain ⟨z, rfl⟩ := hfinite k y hy
    obtain ⟨total, htotal, hvalue⟩ := hlast k z hy
    rw [getD_tally hd k, Dict.getD, hx, Option.getD_some] at htotal
    cases htotal
    exact ⟨z, hy, hvalue.symm⟩

/-- A tally that is found the same has, under every key, the total of the list it is compared
with. -/
theorem runningTotal_of_sameNumbers (h : ∀ p ∈ pairs, ∃ z, p.2 = .finite z)
    (hlast : LastIsTotal ctx pairs) (hsame : d.sameNumbers (.ofPairs pairs) = .ok true) (k : κ) :
    ∃ total, runningTotal ctx k (finiteAmounts pairs) = .ok total ∧
      total.value = (d.getD k 0).value := by
  obtain ⟨hsamekeys, hget⟩ := (sameNumbers_eq_true_iff (finite_of_get?_ofPairs h)).mp hsame
  rw [Dict.getD]
  rcases hx : d.get? k with _ | x
  · refine ⟨0, runningTotal_of_not_mem ?_, rfl⟩
    rw [keys_finiteAmounts h, ← Dict.mem_keys_ofPairs, ← hsamekeys]
    exact Dict.get?_eq_none_iff.mp hx
  · obtain ⟨z, hz, hvalue⟩ := hget k x hx
    obtain ⟨total, htotal, hsum⟩ := hlast k z hz
    exact ⟨total, htotal, hsum.trans hvalue⟩

end
