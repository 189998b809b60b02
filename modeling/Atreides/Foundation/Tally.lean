import Atreides.Foundation.Decimal.Sums
import Atreides.Foundation.Grouping

/-!
# Tallies

A tally adds each amount of a list to the running balance of its key, in a dictionary
that remembers the order in which the keys first appeared. Where the sums of every key
are exact, the balances are the exact totals and the list's order shows in the order of
the keys only.

## Main definitions

* `amountsOf` — what a list holds under one key
* `Dict.addTo`, `Dict.addToInner` — one posting to a tally, flat or nested
* `tally` — a list posted to an empty tally
* `Tallied`, `TalliedInner` — a dictionary that holds the totals of a list

## Main results

* `Tallied.addTo`, `TalliedInner.addTo` — one posting keeps a tally exact
* `keys_tally`, `value_tally`, `tally_returns` — what a tally holds, key by key
-/

/-! ## Amounts under a key -/

section Amounts

variable {κ : Type} [DecidableEq κ]

/-- The amounts a list holds under the key `k`, in order. -/
def amountsOf (k : κ) (xs : List (κ × FiniteDecimal)) : List ℚ :=
  (xs.filter fun p => p.1 = k).map fun p => p.2.value

@[simp] theorem amountsOf_nil (k : κ) : amountsOf k [] = [] := rfl

theorem amountsOf_append (k : κ) (xs ys : List (κ × FiniteDecimal)) :
    amountsOf k (xs ++ ys) = amountsOf k xs ++ amountsOf k ys := by
  simp [amountsOf]

@[simp] theorem amountsOf_singleton_self (k : κ) (x : FiniteDecimal) :
    amountsOf k [(k, x)] = [x.value] := by
  simp [amountsOf]

theorem amountsOf_singleton_of_ne {k k' : κ} (h : k' ≠ k) (x : FiniteDecimal) :
    amountsOf k [(k', x)] = [] := by
  simp [amountsOf, h]

theorem amountsOf_perm (k : κ) {xs ys : List (κ × FiniteDecimal)} (h : xs.Perm ys) :
    (amountsOf k xs).Perm (amountsOf k ys) :=
  (h.filter _).map _

/-- A key the list does not mention has no amounts. -/
theorem amountsOf_eq_nil {k : κ} {xs : List (κ × FiniteDecimal)} (h : k ∉ xs.map Prod.fst) :
    amountsOf k xs = [] := by
  rw [amountsOf, List.map_eq_nil_iff, List.filter_eq_nil_iff]
  rintro ⟨k', x⟩ hmem hk
  have hk' : k' = k := by simpa using hk
  exact h (hk' ▸ List.mem_map.mpr ⟨(k', x), hmem, rfl⟩)

end Amounts

/-! ## Flat tallies -/

section Flat

variable {κ : Type} [DecidableEq κ]

/-- Add an amount to the balance under a key; a key without one starts at zero. -/
def Dict.addTo (ctx : DecimalContext) (d : Dict κ FiniteDecimal) (k : κ) (x : FiniteDecimal) :
    Outcome (Dict κ FiniteDecimal) := do
  let total ← (d.getD k 0).add ctx x
  .ok (d.set k total)

theorem Dict.keys_addTo {ctx : DecimalContext} {d d' : Dict κ FiniteDecimal} {k : κ}
    {x : FiniteDecimal} (h : d.addTo ctx k x = .ok d') : d'.keys = Dict.noteKey d.keys k := by
  rw [Dict.addTo, Outcome.bind_eq_ok] at h
  obtain ⟨total, -, hset⟩ := h
  cases hset
  exact d.keys_set_eq_noteKey k total

/-- The dictionary holds the exact total of every key, keys in order of appearance. -/
structure Tallied (d : Dict κ FiniteDecimal) (xs : List (κ × FiniteDecimal)) : Prop where
  keys_eq : d.keys = Dict.firstKeys (xs.map Prod.fst)
  value_eq : ∀ k, (d.getD k 0).value = (amountsOf k xs).sum

theorem Tallied.empty : Tallied (Dict.empty : Dict κ FiniteDecimal) [] :=
  ⟨rfl, fun _ => FiniteDecimal.value_zero⟩

theorem Dict.getD_set {α : Type} (d : Dict κ α) (k k' : κ) (v default : α) :
    (d.set k v).getD k' default = if k = k' then v else d.getD k' default := by
  rw [Dict.getD, Dict.get?_set]
  split_ifs <;> rfl

/-- One posting keeps a tally exact. -/
theorem Tallied.addTo {ctx : DecimalContext} {d : Dict κ FiniteDecimal}
    {xs : List (κ × FiniteDecimal)} (h : Tallied d xs) {k : κ} {x : FiniteDecimal}
    (hexact : ExactSums ctx (amountsOf k (xs ++ [(k, x)]))) :
    ∃ d', d.addTo ctx k x = .ok d' ∧ Tallied d' (xs ++ [(k, x)]) := by
  rw [amountsOf_append, amountsOf_singleton_self] at hexact
  obtain ⟨total, htotal, hvalue⟩ :=
    FiniteDecimal.add_exact_of_sums (h.value_eq k) hexact
  refine ⟨d.set k total, by simp [Dict.addTo, htotal], ?_, ?_⟩
  · rw [Dict.keys_set_eq_noteKey, h.keys_eq]
    simp
  · intro k'
    rw [Dict.getD_set, amountsOf_append]
    split_ifs with hk
    · subst hk
      rw [hvalue, amountsOf_singleton_self]
    · rw [amountsOf_singleton_of_ne hk, List.append_nil]
      exact h.value_eq k'

/-- Two tallies of the same amounts under every key hold the same balances. -/
theorem Tallied.value_congr {d d' : Dict κ FiniteDecimal} {xs ys : List (κ × FiniteDecimal)}
    (h : Tallied d xs) (h' : Tallied d' ys) (k : κ)
    (hsum : (amountsOf k xs).sum = (amountsOf k ys).sum) :
    (d.getD k 0).value = (d'.getD k 0).value := by
  rw [h.value_eq, h'.value_eq, hsum]

theorem Tallied.mem_keys {d : Dict κ FiniteDecimal} {xs : List (κ × FiniteDecimal)}
    (h : Tallied d xs) {k : κ} : k ∈ d.keys ↔ k ∈ xs.map Prod.fst := by
  rw [h.keys_eq, Dict.mem_firstKeys]

end Flat

/-! ## Tallies of a list -/

section List

variable {κ : Type} [DecidableEq κ] {ctx : DecimalContext}
variable {xs : List (κ × FiniteDecimal)} {d d' : Dict κ FiniteDecimal} {k : κ}

/-- Post the amounts of a list one after the other. -/
def Dict.addAll (ctx : DecimalContext) (d : Dict κ FiniteDecimal)
    (xs : List (κ × FiniteDecimal)) : Outcome (Dict κ FiniteDecimal) :=
  Outcome.foldSteps (fun d p => d.addTo ctx p.1 p.2) d xs

@[simp] theorem Dict.addAll_nil : d.addAll ctx [] = .ok d := rfl

@[simp] theorem Dict.addAll_singleton (x : FiniteDecimal) :
    d.addAll ctx [(k, x)] = d.addTo ctx k x := by
  rw [Dict.addAll, Outcome.foldSteps_cons]
  exact bind_pure _

theorem Dict.addAll_append (xs ys : List (κ × FiniteDecimal)) :
    d.addAll ctx (xs ++ ys) = (d.addAll ctx xs >>= fun d => d.addAll ctx ys) :=
  Outcome.foldSteps_append _ _ _ _

/-- The dictionary a list is tallied into. -/
def tally (ctx : DecimalContext) (xs : List (κ × FiniteDecimal)) :
    Outcome (Dict κ FiniteDecimal) := Dict.empty.addAll ctx xs

theorem tally_concat (p : κ × FiniteDecimal) :
    tally ctx (xs ++ [p]) = (tally ctx xs >>= fun d => d.addTo ctx p.1 p.2) := by
  rw [tally, Dict.addAll_append]
  congr 1
  funext d
  exact Dict.addAll_singleton p.2

theorem keys_tally (h : tally ctx xs = .ok d) : d.keys = Dict.firstKeys (xs.map Prod.fst) := by
  induction xs using List.reverseRecOn generalizing d with
  | nil =>
    cases h
    rfl
  | append_singleton xs p ih =>
    rw [tally_concat, Outcome.bind_eq_ok] at h
    obtain ⟨before, hbefore, hlast⟩ := h
    rw [Dict.keys_addTo hlast, ih hbefore]
    simp

theorem mem_keys_tally (h : tally ctx xs = .ok d) : k ∈ d.keys ↔ k ∈ xs.map Prod.fst := by
  rw [keys_tally h, Dict.mem_firstKeys]

/-- A key whose sums are exact is tallied to its total, whatever the others do. -/
theorem value_tally (h : tally ctx xs = .ok d) (hexact : ExactSums ctx (amountsOf k xs)) :
    (d.getD k 0).value = (amountsOf k xs).sum := by
  induction xs using List.reverseRecOn generalizing d with
  | nil =>
    cases h
    exact FiniteDecimal.value_zero
  | append_singleton xs p ih =>
    obtain ⟨k', x⟩ := p
    rw [tally_concat, Outcome.bind_eq_ok] at h
    obtain ⟨before, hbefore, hlast⟩ := h
    rw [Dict.addTo, Outcome.bind_eq_ok] at hlast
    obtain ⟨total, htotal, hset⟩ := hlast
    cases hset
    rw [amountsOf_append] at hexact ⊢
    have hprior := ih hbefore hexact.append_left
    rw [Dict.getD_set]
    by_cases hk : k' = k
    · subst hk
      rw [amountsOf_singleton_self] at hexact ⊢
      obtain ⟨total', htotal', hvalue⟩ := FiniteDecimal.add_exact_of_sums hprior hexact
      rw [htotal] at htotal'
      cases htotal'
      rw [if_pos rfl, hvalue]
    · rw [if_neg hk, amountsOf_singleton_of_ne hk, List.append_nil, hprior]

/-- A list whose sums are exact under every key can be tallied. -/
theorem tally_returns (hexact : ∀ k, ExactSums ctx (amountsOf k xs)) :
    ∃ d, tally ctx xs = .ok d := by
  induction xs using List.reverseRecOn with
  | nil => exact ⟨_, rfl⟩
  | append_singleton xs p ih =>
    obtain ⟨k, x⟩ := p
    have hbefore : ∀ k, ExactSums ctx (amountsOf k xs) := by
      intro k
      have := hexact k
      rw [amountsOf_append] at this
      exact this.append_left
    obtain ⟨before, hd⟩ := ih hbefore
    have hlast := hexact k
    rw [amountsOf_append, amountsOf_singleton_self] at hlast
    obtain ⟨total, htotal, -⟩ := FiniteDecimal.add_exact_of_sums (value_tally hd (hbefore k)) hlast
    exact ⟨before.set k total, by rw [tally_concat, hd]; simp [Dict.addTo, htotal]⟩

end List

/-! ## Nested tallies -/

section Nested

variable {κ μ : Type} [DecidableEq κ]

/-- What a list of doubly keyed amounts holds under one outer key. -/
def innerOf (k : κ) (xs : List ((κ × μ) × FiniteDecimal)) : List (μ × FiniteDecimal) :=
  (xs.filter fun p => p.1.1 = k).map fun p => (p.1.2, p.2)

theorem innerOf_append (k : κ) (xs ys : List ((κ × μ) × FiniteDecimal)) :
    innerOf k (xs ++ ys) = innerOf k xs ++ innerOf k ys := by
  simp [innerOf]

@[simp] theorem innerOf_singleton_self (k : κ) (m : μ) (x : FiniteDecimal) :
    innerOf k [((k, m), x)] = [(m, x)] := by
  simp [innerOf]

theorem innerOf_singleton_of_ne {k k' : κ} (h : k' ≠ k) (m : μ) (x : FiniteDecimal) :
    innerOf k [((k', m), x)] = [] := by
  simp [innerOf, h]

variable [DecidableEq μ]

/-- Add an amount to the balance under an inner key of an outer key. -/
def Dict.addToInner (ctx : DecimalContext) (d : Dict κ (Dict μ FiniteDecimal)) (k : κ) (m : μ)
    (x : FiniteDecimal) : Outcome (Dict κ (Dict μ FiniteDecimal)) := do
  let inner ← (d.getD k .empty).addTo ctx m x
  .ok (d.set k inner)

theorem Dict.keys_addToInner {ctx : DecimalContext} {d d' : Dict κ (Dict μ FiniteDecimal)}
    {k : κ} {m : μ} {x : FiniteDecimal} (h : d.addToInner ctx k m x = .ok d') :
    d'.keys = Dict.noteKey d.keys k := by
  rw [Dict.addToInner, Outcome.bind_eq_ok] at h
  obtain ⟨inner, -, hset⟩ := h
  cases hset
  exact d.keys_set_eq_noteKey k inner

theorem amountsOf_innerOf (k : κ) (m : μ) (xs : List ((κ × μ) × FiniteDecimal)) :
    amountsOf m (innerOf k xs) = amountsOf (k, m) xs := by
  induction xs with
  | nil => rfl
  | cons p xs ih =>
    obtain ⟨⟨k', m'⟩, x⟩ := p
    simp only [amountsOf, innerOf] at ih ⊢
    by_cases hk : k' = k <;> by_cases hm : m' = m <;> simp [hk, hm, ih]

/-- The dictionary holds the tally of every outer key, in order of appearance. -/
structure TalliedInner (d : Dict κ (Dict μ FiniteDecimal))
    (xs : List ((κ × μ) × FiniteDecimal)) : Prop where
  keys_eq : d.keys = Dict.firstKeys (xs.map fun p => p.1.1)
  inner : ∀ k, Tallied (d.getD k .empty) (innerOf k xs)

theorem TalliedInner.empty : TalliedInner (Dict.empty : Dict κ (Dict μ FiniteDecimal)) [] :=
  ⟨rfl, fun _ => Tallied.empty⟩

/-- The balance under an inner key is the exact total of the pair. -/
theorem TalliedInner.value_eq {d : Dict κ (Dict μ FiniteDecimal)}
    {xs : List ((κ × μ) × FiniteDecimal)} (h : TalliedInner d xs) (k : κ) (m : μ) :
    ((d.getD k .empty).getD m 0).value = (amountsOf (k, m) xs).sum := by
  rw [(h.inner k).value_eq, amountsOf_innerOf]

/-- One posting keeps a nested tally exact. -/
theorem TalliedInner.addTo {ctx : DecimalContext} {d : Dict κ (Dict μ FiniteDecimal)}
    {xs : List ((κ × μ) × FiniteDecimal)} (h : TalliedInner d xs) {k : κ} {m : μ}
    {x : FiniteDecimal} (hexact : ExactSums ctx (amountsOf (k, m) (xs ++ [((k, m), x)]))) :
    ∃ d', d.addToInner ctx k m x = .ok d' ∧ TalliedInner d' (xs ++ [((k, m), x)]) := by
  rw [← amountsOf_innerOf, innerOf_append, innerOf_singleton_self] at hexact
  obtain ⟨inner, hinner, htallied⟩ := (h.inner k).addTo hexact
  refine ⟨d.set k inner, by simp [Dict.addToInner, hinner], ?_, ?_⟩
  · rw [Dict.keys_set_eq_noteKey, h.keys_eq]
    simp
  · intro k'
    rw [Dict.getD_set, innerOf_append]
    split_ifs with hk
    · subst hk
      rw [innerOf_singleton_self]
      exact htallied
    · rw [innerOf_singleton_of_ne hk, List.append_nil]
      exact h.inner k'

/-- Post doubly keyed amounts one after the other. -/
def Dict.addAllInner (ctx : DecimalContext) (d : Dict κ (Dict μ FiniteDecimal))
    (xs : List ((κ × μ) × FiniteDecimal)) : Outcome (Dict κ (Dict μ FiniteDecimal)) :=
  Outcome.foldSteps (fun d p => d.addToInner ctx p.1.1 p.1.2 p.2) d xs

/-- The nested dictionary a list is tallied into. -/
def tallyInner (ctx : DecimalContext) (xs : List ((κ × μ) × FiniteDecimal)) :
    Outcome (Dict κ (Dict μ FiniteDecimal)) := Dict.empty.addAllInner ctx xs

section TallyInner

variable {ctx : DecimalContext} {xs : List ((κ × μ) × FiniteDecimal)}
variable {d : Dict κ (Dict μ FiniteDecimal)}

@[simp] theorem Dict.addAllInner_nil : d.addAllInner ctx [] = .ok d := rfl

@[simp] theorem Dict.addAllInner_singleton (k : κ) (m : μ) (x : FiniteDecimal) :
    d.addAllInner ctx [((k, m), x)] = d.addToInner ctx k m x := by
  rw [Dict.addAllInner, Outcome.foldSteps_cons]
  exact bind_pure _

theorem Dict.addAllInner_append (xs ys : List ((κ × μ) × FiniteDecimal)) :
    d.addAllInner ctx (xs ++ ys) =
      (d.addAllInner ctx xs >>= fun d => d.addAllInner ctx ys) :=
  Outcome.foldSteps_append _ _ _ _

theorem tallyInner_concat (p : (κ × μ) × FiniteDecimal) :
    tallyInner ctx (xs ++ [p]) =
      (tallyInner ctx xs >>= fun d => d.addToInner ctx p.1.1 p.1.2 p.2) := by
  rw [tallyInner, Dict.addAllInner_append]
  congr 1
  funext d
  exact Dict.addAllInner_singleton p.1.1 p.1.2 p.2

theorem keys_tallyInner (h : tallyInner ctx xs = .ok d) :
    d.keys = Dict.firstKeys (xs.map fun p => p.1.1) := by
  induction xs using List.reverseRecOn generalizing d with
  | nil =>
    cases h
    rfl
  | append_singleton xs p ih =>
    rw [tallyInner_concat, Outcome.bind_eq_ok] at h
    obtain ⟨before, hbefore, hlast⟩ := h
    rw [Dict.keys_addToInner hlast, ih hbefore]
    simp

/-- The tally under an outer key is the tally of what the list holds under it. -/
theorem tally_innerOf (h : tallyInner ctx xs = .ok d) (k : κ) :
    tally ctx (innerOf k xs) = .ok (d.getD k .empty) := by
  induction xs using List.reverseRecOn generalizing d with
  | nil =>
    cases h
    rfl
  | append_singleton xs p ih =>
    obtain ⟨⟨k', m⟩, x⟩ := p
    rw [tallyInner_concat, Outcome.bind_eq_ok] at h
    obtain ⟨before, hbefore, hlast⟩ := h
    rw [Dict.addToInner, Outcome.bind_eq_ok] at hlast
    obtain ⟨inner, hinner, hset⟩ := hlast
    cases hset
    rw [innerOf_append, Dict.getD_set]
    by_cases hk : k' = k
    · subst hk
      rw [innerOf_singleton_self, tally_concat, ih hbefore, if_pos rfl]
      exact hinner
    · rw [innerOf_singleton_of_ne hk, List.append_nil, if_neg hk]
      exact ih hbefore

/-- A list whose sums are exact under every pair can be tallied. -/
theorem tallyInner_returns (hexact : ∀ p, ExactSums ctx (amountsOf p xs)) :
    ∃ d, tallyInner ctx xs = .ok d := by
  induction xs using List.reverseRecOn with
  | nil => exact ⟨_, rfl⟩
  | append_singleton xs p ih =>
    obtain ⟨⟨k, m⟩, x⟩ := p
    have hbefore : ∀ p, ExactSums ctx (amountsOf p xs) := by
      intro p
      have := hexact p
      rw [amountsOf_append] at this
      exact this.append_left
    obtain ⟨before, hd⟩ := ih hbefore
    have hlast := hexact (k, m)
    rw [amountsOf_append, amountsOf_singleton_self] at hlast
    have hprior : ((before.getD k .empty).getD m 0).value = (amountsOf (k, m) xs).sum := by
      rw [value_tally (tally_innerOf hd k) (by rw [amountsOf_innerOf]; exact hbefore (k, m)),
        amountsOf_innerOf]
    obtain ⟨total, htotal, -⟩ := FiniteDecimal.add_exact_of_sums hprior hlast
    exact ⟨before.set k ((before.getD k .empty).set m total), by
      rw [tallyInner_concat, hd]
      simp [Dict.addToInner, Dict.addTo, htotal]⟩

end TallyInner

end Nested
