import Mathlib.Algebra.BigOperators.Group.List.Lemmas
import Mathlib.Algebra.Order.BigOperators.Group.List
import Mathlib.Data.List.Perm.Subperm
import Atreides.Foundation.Decimal.Exact

/-!
# Running sums that do not round

Decimal addition is commutative and, where nothing is rounded, associative. A list of
numbers has exact sums in a context when the context holds the sum of every selection
from it, in whatever order; then a running total is the exact total at every step, and
the order of the list does not matter.

## Main results

* `ExactSums.of_grid`, `FitsOn` — few enough digits on one grid make every sum exact
* `FiniteDecimal.sum_exact` — a running sum over such a list is the exact sum
-/

/-! ## Sums of magnitudes -/

section Magnitudes

variable {xs ys : List ℚ}

theorem OnGrid.sum {e : ℤ} (h : ∀ x ∈ xs, OnGrid e x) : OnGrid e xs.sum := by
  induction xs with
  | nil => exact OnGrid.zero e
  | cons x xs ih =>
    rw [List.sum_cons]
    exact (h x (by simp)).add (ih fun y hy => h y (by simp [hy]))

/-- The magnitudes of a list, added up. -/
def sumAbs (xs : List ℚ) : ℚ := (xs.map fun x => |x|).sum

@[simp] theorem sumAbs_nil : sumAbs [] = 0 := rfl

@[simp] theorem sumAbs_cons (x : ℚ) (xs : List ℚ) : sumAbs (x :: xs) = |x| + sumAbs xs := rfl

@[simp] theorem sumAbs_append (xs ys : List ℚ) : sumAbs (xs ++ ys) = sumAbs xs + sumAbs ys := by
  simp [sumAbs]

theorem abs_sum_le_sumAbs (xs : List ℚ) : |xs.sum| ≤ sumAbs xs := by
  induction xs with
  | nil => simp
  | cons x xs ih =>
    rw [List.sum_cons, sumAbs_cons]
    exact (abs_add_le x xs.sum).trans (by linarith)

theorem sumAbs_le_of_subperm (h : ys.Subperm xs) : sumAbs ys ≤ sumAbs xs := by
  obtain ⟨zs, hperm, hsub⟩ := h
  rw [sumAbs, ← (hperm.map _).sum_eq]
  refine (hsub.map _).sum_le_sum fun x hx => ?_
  obtain ⟨y, -, rfl⟩ := List.mem_map.mp hx
  exact abs_nonneg y

end Magnitudes

/-! ## Exact sums -/

/-- The context holds the sum of every selection from the list. -/
def ExactSums (ctx : DecimalContext) (xs : List ℚ) : Prop :=
  ∀ ys : List ℚ, ys.Subperm xs → ctx.Represents ys.sum

namespace ExactSums

variable {ctx : DecimalContext} {xs ys : List ℚ} {x : ℚ}

theorem represents (h : ExactSums ctx xs) : ctx.Represents xs.sum := h xs (List.Subperm.refl xs)

theorem subperm (h : ExactSums ctx xs) (hsub : ys.Subperm xs) : ExactSums ctx ys :=
  fun zs hzs => h zs (hzs.trans hsub)

theorem perm (h : ExactSums ctx xs) (hperm : ys.Perm xs) : ExactSums ctx ys :=
  h.subperm hperm.subperm

theorem sublist (h : ExactSums ctx xs) (hsub : ys.Sublist xs) : ExactSums ctx ys :=
  h.subperm hsub.subperm

theorem of_mem (h : ExactSums ctx xs) (hx : x ∈ xs) : ctx.Represents x := by
  have := h [x] (List.singleton_subperm_iff.mpr hx)
  simpa using this

@[simp] theorem nil (ctx : DecimalContext) : ExactSums ctx [] := by
  intro ys hys
  rw [List.subperm_nil.mp hys]
  exact ctx.represents_zero

theorem append_left (h : ExactSums ctx (xs ++ ys)) : ExactSums ctx xs :=
  h.sublist (List.sublist_append_left xs ys)

theorem append_right (h : ExactSums ctx (xs ++ ys)) : ExactSums ctx ys :=
  h.sublist (List.sublist_append_right xs ys)

/-- Numbers on one grid whose magnitudes together stay short have exact sums. -/
theorem of_grid {e : ℤ} (hgrid : ∀ x ∈ xs, OnGrid e x) (hfine : ctx.etiny ≤ e)
    (hcoarse : e + ctx.prec ≤ ctx.Emax + 1)
    (hshort : sumAbs xs < 10 ^ ((ctx.prec : ℤ) + e)) : ExactSums ctx xs := by
  intro ys hys
  refine DecimalContext.Represents.of_grid (OnGrid.sum fun y hy => hgrid y (hys.subset hy))
    hfine hcoarse ?_
  exact ((abs_sum_le_sumAbs ys).trans (sumAbs_le_of_subperm hys)).trans_lt hshort

/-- Turning every sign keeps every sum exact. -/
theorem neg (h : ExactSums ctx xs) : ExactSums ctx (xs.map fun x => -x) := by
  rintro ys ⟨zs, hperm, hsub⟩
  obtain ⟨ws, hws, rfl⟩ := List.sublist_map_iff.mp hsub
  rw [← hperm.sum_eq, ← List.sum_neg]
  exact (h ws hws.subperm).neg

end ExactSums

/-! ## Numbers that fit together -/

/-- The numbers lie on one grid the context can count in, and together stay within its
digits. -/
structure FitsOn (ctx : DecimalContext) (e : ℤ) (xs : List ℚ) : Prop where
  fine : ctx.etiny ≤ e
  coarse : e + ctx.prec ≤ ctx.Emax + 1
  grid : ∀ x ∈ xs, OnGrid e x
  short : sumAbs xs < 10 ^ ((ctx.prec : ℤ) + e)

namespace FitsOn

variable {ctx : DecimalContext} {e : ℤ} {xs ys : List ℚ} {v : ℚ}

theorem exactSums (h : FitsOn ctx e xs) : ExactSums ctx xs :=
  ExactSums.of_grid h.grid h.fine h.coarse h.short

/-- A number on the grid that is no larger than all of them together is held. -/
theorem represents (h : FitsOn ctx e xs) (hgrid : OnGrid e v)
    (hle : |v| ≤ sumAbs xs) : ctx.Represents v :=
  DecimalContext.Represents.of_grid hgrid h.fine h.coarse (hle.trans_lt h.short)

/-- Numbers on the grid that together are no larger fit as well. -/
theorem of_le (h : FitsOn ctx e xs) (hgrid : ∀ y ∈ ys, OnGrid e y)
    (hle : sumAbs ys ≤ sumAbs xs) : FitsOn ctx e ys :=
  ⟨h.fine, h.coarse, hgrid, hle.trans_lt h.short⟩

theorem subperm (h : FitsOn ctx e xs) (hsub : ys.Subperm xs) : FitsOn ctx e ys :=
  h.of_le (fun y hy => h.grid y (hsub.subset hy)) (sumAbs_le_of_subperm hsub)

theorem sublist (h : FitsOn ctx e xs) (hsub : ys.Sublist xs) : FitsOn ctx e ys :=
  h.subperm hsub.subperm

theorem perm (h : FitsOn ctx e xs) (hperm : ys.Perm xs) : FitsOn ctx e ys :=
  h.subperm hperm.subperm

end FitsOn

namespace FiniteDecimal

variable {ctx : DecimalContext}

/-- One more addition keeps a running total exact. -/
theorem add_exact_of_sums {total x : FiniteDecimal} {prior : List ℚ}
    (htotal : total.value = prior.sum) (h : ExactSums ctx (prior ++ [x.value])) :
    ∃ r, add ctx total x = .ok r ∧ r.value = (prior ++ [x.value]).sum := by
  have hsum : (prior ++ [x.value]).sum = total.value + x.value := by simp [htotal]
  rw [hsum]
  exact add_exact_iff.mpr (hsum ▸ h.represents)

/-- A running sum raises only where it overflows. -/
theorem sum_error {start : FiniteDecimal} {xs : List FiniteDecimal} {e : PyError}
    (h : sum ctx start xs = .error e) : e = .overflow := by
  induction xs generalizing start with
  | nil => cases h
  | cons x xs ih =>
    rw [sum, Outcome.foldSteps_cons, Outcome.bind_eq_error] at h
    obtain h | ⟨next, -, h⟩ := h
    · exact DecimalContext.fix_error h
    · exact ih h

/-- A running sum over numbers with exact sums is their exact sum. -/
theorem sum_exact {xs : List FiniteDecimal} :
    ∀ {start : FiniteDecimal} {prior : List ℚ}, start.value = prior.sum →
      ExactSums ctx (prior ++ xs.map value) →
        ∃ r, sum ctx start xs = .ok r ∧ r.value = (prior ++ xs.map value).sum := by
  induction xs with
  | nil =>
    intro start prior hstart _
    exact ⟨start, rfl, by simpa using hstart⟩
  | cons x xs ih =>
    intro start prior hstart h
    have hlist : prior ++ (x :: xs).map value = prior ++ [x.value] ++ xs.map value := by simp
    rw [hlist] at h ⊢
    obtain ⟨total, htotal, hvalue⟩ := add_exact_of_sums hstart h.append_left
    obtain ⟨r, hr, hrvalue⟩ := ih hvalue h
    refine ⟨r, ?_, hrvalue⟩
    rw [sum, Outcome.foldSteps_cons, htotal]
    exact hr

end FiniteDecimal
