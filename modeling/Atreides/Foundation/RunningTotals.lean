import Mathlib.Algebra.BigOperators.Group.List.Lemmas
import Mathlib.Algebra.Order.BigOperators.Group.List
import Mathlib.Algebra.Order.Group.Abs
import Mathlib.Data.List.Perm.Subperm
import Mathlib.Tactic.Linarith

/-!
# Running totals within a bound

A list of signed amounts is added up in some order. Whether every running total stays
within a bound depends on the order, and the totals of the positive and of the negative
amounts say how far: no order leaves the bound when both lie within it, some order leaves
it otherwise, and some order stays within it whenever every amount and the total do.

## Main definitions

* `RunsWithin` — every running total of a list stays within a bound
* `inflow`, `outflow` — the totals of the positive and of the negative amounts

## Main results

* `runsWithin_of_flows` — the flows bound every order
* `exists_order_beyond` — a flow beyond the bound is reached by some order
* `exists_order_within` — some order stays within the bound of the amounts and the total
-/

/-- Taking some elements first is an order, and the total of these is a running total. -/
theorem exists_order_first {α β : Type*} (f : α → β) (as : List α) (p : α → Bool) :
    ∃ bs : List α, bs.Perm as ∧ (as.filter p).map f <+: bs.map f := by
  refine ⟨as.filter p ++ as.filter (fun a => !p a), List.filter_append_perm p as, ?_⟩
  rw [List.map_append]
  exact List.prefix_append _ _

variable {K : Type*} [CommRing K] [LinearOrder K]
variable {bound : K} {xs ys : List K} {x : K}

/-- Every running total of the list stays within the bound. -/
def RunsWithin (bound : K) (xs : List K) : Prop := ∀ ys, ys <+: xs → |ys.sum| ≤ bound

/-- One more amount adds one running total. -/
theorem runsWithin_concat :
    RunsWithin bound (xs ++ [x]) ↔ RunsWithin bound xs ∧ |(xs ++ [x]).sum| ≤ bound := by
  constructor
  · intro h
    exact ⟨fun ys hys => h ys (hys.trans (List.prefix_append xs [x])), h _ List.prefix_rfl⟩
  · rintro ⟨h, htotal⟩ ys hys
    rcases List.prefix_concat_iff.mp hys with rfl | hys'
    · exact htotal
    · exact h ys hys'

theorem RunsWithin.sum (h : RunsWithin bound xs) : |xs.sum| ≤ bound := h xs List.prefix_rfl

/-! ## Flows -/

/-- The total of the positive amounts. -/
def inflow (xs : List K) : K := (xs.filter fun x => 0 < x).sum

/-- The total of the negative amounts. -/
def outflow (xs : List K) : K := (xs.filter fun x => x < 0).sum

theorem inflow_cons (x : K) (xs : List K) : inflow (x :: xs) = max x 0 + inflow xs := by
  unfold inflow
  by_cases h : 0 < x
  · rw [List.filter_cons_of_pos (by simpa using h), List.sum_cons, max_eq_left h.le]
  · rw [List.filter_cons_of_neg (by simpa using h), max_eq_right (not_lt.mp h), zero_add]

theorem outflow_cons (x : K) (xs : List K) : outflow (x :: xs) = min x 0 + outflow xs := by
  unfold outflow
  by_cases h : x < 0
  · rw [List.filter_cons_of_pos (by simpa using h), List.sum_cons, min_eq_left h.le]
  · rw [List.filter_cons_of_neg (by simpa using h), min_eq_right (not_lt.mp h), zero_add]

theorem inflow_perm (h : xs.Perm ys) : inflow xs = inflow ys := (h.filter _).sum_eq

theorem outflow_perm (h : xs.Perm ys) : outflow xs = outflow ys := (h.filter _).sum_eq

variable [IsStrictOrderedRing K]

theorem runsWithin_nil (h : 0 ≤ bound) : RunsWithin bound ([] : List K) := by
  intro ys hys
  rw [List.prefix_nil.mp hys]
  simpa using h

/-- A selection from the list adds up to something between the flows. -/
theorem sum_between_flows (h : ys.Sublist xs) : outflow xs ≤ ys.sum ∧ ys.sum ≤ inflow xs := by
  induction h with
  | slnil => simp [inflow, outflow]
  | cons x _ ih =>
    rw [inflow_cons, outflow_cons]
    exact ⟨(by linarith [ih.1, min_le_right x 0]), (by linarith [ih.2, le_max_right x 0])⟩
  | cons_cons x _ ih =>
    rw [inflow_cons, outflow_cons, List.sum_cons]
    exact ⟨(by linarith [ih.1, min_le_left x 0]), (by linarith [ih.2, le_max_left x 0])⟩

/-- No order leaves a bound that holds both flows. -/
theorem runsWithin_of_flows (hin : inflow xs ≤ bound) (hout : -bound ≤ outflow xs)
    (h : ys.Perm xs) : RunsWithin bound ys := by
  intro zs hzs
  obtain ⟨hlow, hhigh⟩ := sum_between_flows hzs.sublist
  rw [outflow_perm h] at hlow
  rw [inflow_perm h] at hhigh
  exact abs_le.mpr ⟨hout.trans hlow, hhigh.trans hin⟩

/-! ## Orders -/

section Orders

variable {α : Type*} {f : α → K} {as : List α}

/-- A flow beyond the bound is reached by some order. -/
theorem exists_order_beyond (h : bound < inflow (as.map f) ∨ outflow (as.map f) < -bound) :
    ∃ bs : List α, bs.Perm as ∧ ¬ RunsWithin bound (bs.map f) := by
  rcases h with h | h
  · obtain ⟨bs, hperm, hfirst⟩ := exists_order_first f as fun a => 0 < f a
    refine ⟨bs, hperm, fun hwithin => ?_⟩
    rw [inflow, List.filter_map] at h
    exact absurd ((le_abs_self _).trans (hwithin _ hfirst)) (not_le.mpr h)
  · obtain ⟨bs, hperm, hfirst⟩ := exists_order_first f as fun a => f a < 0
    refine ⟨bs, hperm, fun hwithin => ?_⟩
    rw [outflow, List.filter_map] at h
    exact absurd (abs_le.mp (hwithin _ hfirst)).1 (not_le.mpr h)

/-- From a start within the bound, some order stays within it as long as every amount and
the total do: amounts are taken against the sign of the running total while there are any. -/
private theorem exists_order_from {start : K} (hstart : |start| ≤ bound)
    (hamounts : ∀ a ∈ as, |f a| ≤ bound) (htotal : |start + (as.map f).sum| ≤ bound) :
    ∃ bs : List α, bs.Perm as ∧ ∀ zs, zs <+: bs.map f → |start + zs.sum| ≤ bound := by
  classical
  induction hn : as.length generalizing as start with
  | zero =>
    rw [List.length_eq_zero_iff] at hn
    subst hn
    refine ⟨[], List.Perm.refl _, fun zs hzs => ?_⟩
    rw [List.map_nil, List.prefix_nil] at hzs
    simpa [hzs] using hstart
  | succ n ih =>
    have hstep : ∃ a ∈ as, |start + f a| ≤ bound := by
      rw [abs_le] at hstart htotal
      have hall : ∀ a ∈ as, -bound ≤ f a ∧ f a ≤ bound := fun a ha => abs_le.mp (hamounts a ha)
      by_cases hsign : 0 ≤ start
      · by_cases hagainst : ∃ a ∈ as, f a ≤ 0
        · obtain ⟨a, ha, hle⟩ := hagainst
          exact ⟨a, ha, abs_le.mpr ⟨by linarith [(hall a ha).1], by linarith⟩⟩
        · -- nothing is left against the total, so the rest only adds to it
          push Not at hagainst
          obtain ⟨a, rest, rfl⟩ := List.exists_cons_of_length_eq_add_one hn
          have hrest : 0 ≤ (rest.map f).sum := List.sum_nonneg fun x hx => by
            obtain ⟨b, hb, rfl⟩ := List.mem_map.mp hx
            exact (hagainst b (List.mem_cons_of_mem a hb)).le
          rw [List.map_cons, List.sum_cons] at htotal
          refine ⟨a, List.mem_cons_self, abs_le.mpr ⟨?_, by linarith⟩⟩
          linarith [hagainst a List.mem_cons_self]
      · rw [not_le] at hsign
        by_cases hagainst : ∃ a ∈ as, 0 ≤ f a
        · obtain ⟨a, ha, hle⟩ := hagainst
          exact ⟨a, ha, abs_le.mpr ⟨by linarith, by linarith [(hall a ha).2]⟩⟩
        · push Not at hagainst
          obtain ⟨a, rest, rfl⟩ := List.exists_cons_of_length_eq_add_one hn
          have hrest : 0 ≤ (rest.map fun b => -f b).sum := List.sum_nonneg fun x hx => by
            obtain ⟨b, hb, rfl⟩ := List.mem_map.mp hx
            linarith [hagainst b (List.mem_cons_of_mem a hb)]
          have hneg : (rest.map fun b => -f b) = (rest.map f).map fun x => -x := by simp
          rw [hneg, ← List.sum_neg] at hrest
          rw [List.map_cons, List.sum_cons] at htotal
          refine ⟨a, List.mem_cons_self, abs_le.mpr ⟨by linarith, ?_⟩⟩
          linarith [hagainst a List.mem_cons_self]
    obtain ⟨a, ha, hnext⟩ := hstep
    have hperm := List.perm_cons_erase ha
    have hsum : (as.map f).sum = f a + ((as.erase a).map f).sum := by
      rw [(hperm.map f).sum_eq, List.map_cons, List.sum_cons]
    obtain ⟨bs, hbs, hwithin⟩ := ih hnext
      (fun b hb => hamounts b (List.mem_of_mem_erase hb)) (by rw [add_assoc, ← hsum]; exact htotal)
      (by rw [List.length_erase_of_mem ha, hn]; rfl)
    refine ⟨a :: bs, (hbs.cons a).trans hperm.symm, fun zs hzs => ?_⟩
    rw [List.map_cons, List.prefix_cons_iff] at hzs
    rcases hzs with rfl | ⟨ws, rfl, hws⟩
    · simpa using hstart
    · rw [List.sum_cons, ← add_assoc]
      exact hwithin ws hws

/-- Some order stays within a bound that holds every amount and the total. -/
theorem exists_order_within (hamounts : ∀ a ∈ as, |f a| ≤ bound)
    (htotal : |(as.map f).sum| ≤ bound) :
    ∃ bs : List α, bs.Perm as ∧ RunsWithin bound (bs.map f) := by
  have hbound : 0 ≤ bound := (abs_nonneg _).trans htotal
  obtain ⟨bs, hperm, hwithin⟩ :=
    exists_order_from (by simpa using hbound : |(0 : K)| ≤ bound) hamounts
      (by simpa using htotal)
  exact ⟨bs, hperm, fun zs hzs => by simpa using hwithin zs hzs⟩

end Orders
