import Mathlib.Algebra.BigOperators.Group.Finset.Sigma
import Mathlib.Algebra.Order.BigOperators.Group.Finset
import Mathlib.Algebra.Order.Group.Abs
import Mathlib.Tactic.Linarith

/-!
# Totals of groups

Signed balances are grouped, and each group is reported by the magnitude of its total. The
magnitudes add up to what is owed in all exactly when no group is in credit, and a group
reports what its members owe exactly when none of them is in credit.

## Main results

* `sum_abs_groups_iff` — magnitudes of groups against the grand total
* `sum_abs_members_iff` — magnitudes of groups against their members
-/

variable {K κ ρ : Type*} [Field K] [Fintype κ] [DecidableEq ρ] (g : κ → ρ) (b : κ → K)

/-- The total of the balances of a group. -/
def groupTotal (r : ρ) : K := ∑ k with g k = r, b k

theorem sum_groupTotal {groups : Finset ρ} (h : ∀ k, g k ∈ groups) :
    ∑ r ∈ groups, groupTotal g b r = ∑ k, b k :=
  Finset.sum_fiberwise_of_maps_to (fun k _ => h k) b

variable [LinearOrder K] [IsStrictOrderedRing K]

theorem neg_eq_abs_iff {x : K} : -x = |x| ↔ x ≤ 0 := by
  rw [eq_comm, abs_eq_neg_self]

/-- The magnitudes of the groups add up to what is owed in all exactly when no group is in
credit. -/
theorem sum_abs_groups_iff {groups : Finset ρ} (h : ∀ k, g k ∈ groups) :
    ∑ r ∈ groups, |groupTotal g b r| = -∑ k, b k ↔ ∀ r ∈ groups, groupTotal g b r ≤ 0 := by
  rw [← sum_groupTotal g b h, ← Finset.sum_neg_distrib, eq_comm,
    Finset.sum_eq_sum_iff_of_le fun r _ => neg_le_abs (groupTotal g b r)]
  exact forall₂_congr fun r _ => neg_eq_abs_iff

/-- Groups that are not in credit report what their members owe exactly when no member is in
credit. -/
theorem sum_abs_members_iff {groups : Finset ρ} (h : ∀ r ∈ groups, groupTotal g b r ≤ 0) :
    ∑ r ∈ groups, |groupTotal g b r| = ∑ k with g k ∈ groups, max (-b k) 0 ↔
      ∀ k, g k ∈ groups → b k ≤ 0 := by
  have hmagnitudes : ∑ r ∈ groups, |groupTotal g b r| = ∑ k with g k ∈ groups, -b k := by
    rw [Finset.sum_congr rfl fun r hr => abs_of_nonpos (h r hr), Finset.sum_neg_distrib,
      Finset.sum_neg_distrib]
    congr 1
    simp only [groupTotal]
    rw [← Finset.sum_fiberwise_of_maps_to (s := Finset.univ.filter fun k => g k ∈ groups)
      (t := groups) (g := g) (fun k hk => (Finset.mem_filter.mp hk).2) b]
    refine Finset.sum_congr rfl fun r hr => ?_
    rw [Finset.filter_filter]
    refine Finset.sum_congr (Finset.filter_congr fun k _ => ?_) fun _ _ => rfl
    exact ⟨fun hk => ⟨hk ▸ hr, hk⟩, fun hk => hk.2⟩
  rw [hmagnitudes, Finset.sum_eq_sum_iff_of_le fun k _ => le_max_left (-b k) 0]
  constructor
  · intro hall k hk
    have := hall k (by simpa using hk)
    rw [eq_comm, max_eq_left_iff] at this
    exact neg_nonneg.mp this
  · intro hall k hk
    rw [max_eq_left (neg_nonneg.mpr (hall k (Finset.mem_filter.mp hk).2))]
