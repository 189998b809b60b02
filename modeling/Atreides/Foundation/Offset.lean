import Mathlib.Algebra.BigOperators.Ring.List
import Mathlib.Algebra.Order.BigOperators.Group.List
import Mathlib.Algebra.Order.Field.Basic
import Mathlib.Tactic.Linarith
import Mathlib.Tactic.Ring

/-!
# Charges on longs and shorts

Balances are held in bands, each charged at a rate of its own. What is long and what is short is
charged apart, and one charge is set against the other: their difference is charged whole, and of
the lesser of them a share only.

## Main definitions

* `longCharges`, `shortCharges` — the charges on some bands
* `offsetCharge` — the charge after the lesser is set against the greater
* `sidesCharge` — a charge on the greater of two sides, and on an excess of the lesser

## Main results

* `offsetCharge_nonneg`, `offsetCharge_comm` — no charge is negative, and none has a side
* `offsetCharge_le` — the offset adds nothing where the share is at most two
* `sum_sidesCharge` — a charge is the sum of the charges on parts that lie alike
-/

variable {K κ : Type*} [Field K] [LinearOrder K] [IsStrictOrderedRing K]

/-- The charges on the bands that are long, each at its rate. -/
def longCharges (rate net : κ → K) (ks : List κ) : List K :=
  ks.map fun k => max (net k) 0 * rate k

/-- The charges on the bands that are short, each at its rate. -/
def shortCharges (rate net : κ → K) (ks : List κ) : List K :=
  ks.map fun k => max (-net k) 0 * rate k

def longCharge (rate net : κ → K) (ks : List κ) : K := (longCharges rate net ks).sum

def shortCharge (rate net : κ → K) (ks : List κ) : K := (shortCharges rate net ks).sum

/-- The difference of two charges, and a share of the lesser. -/
def offsetCharge (share longs shorts : K) : K := |longs - shorts| + share * min longs shorts

section Charges

variable {rate net net' : κ → K} {ks : List κ}

theorem longCharge_nonneg (hrate : ∀ k ∈ ks, 0 ≤ rate k) : 0 ≤ longCharge rate net ks := by
  apply List.sum_nonneg
  intro x hx
  obtain ⟨k, hk, rfl⟩ := List.mem_map.mp hx
  exact mul_nonneg (le_max_right _ _) (hrate k hk)

omit [IsStrictOrderedRing K] in
/-- Turning every balance turns the charges on what is long into those on what is short. -/
theorem longCharges_neg (h : ∀ k ∈ ks, net' k = -net k) :
    longCharges rate net' ks = shortCharges rate net ks := by
  apply List.map_congr_left
  intro k hk
  rw [h k hk]

omit [IsStrictOrderedRing K] in
theorem shortCharges_neg (h : ∀ k ∈ ks, net' k = -net k) :
    shortCharges rate net' ks = longCharges rate net ks := by
  symm
  apply longCharges_neg
  intro k hk
  rw [h k hk, neg_neg]

theorem shortCharge_nonneg (hrate : ∀ k ∈ ks, 0 ≤ rate k) : 0 ≤ shortCharge rate net ks := by
  apply List.sum_nonneg
  intro x hx
  obtain ⟨k, hk, rfl⟩ := List.mem_map.mp hx
  exact mul_nonneg (le_max_right _ _) (hrate k hk)

end Charges

section Offsets

variable {share longs shorts : K}

omit [IsStrictOrderedRing K] in
theorem offsetCharge_comm (share longs shorts : K) :
    offsetCharge share longs shorts = offsetCharge share shorts longs := by
  rw [offsetCharge, offsetCharge, abs_sub_comm, min_comm]

theorem offsetCharge_nonneg (hshare : 0 ≤ share) (hlongs : 0 ≤ longs) (hshorts : 0 ≤ shorts) :
    0 ≤ offsetCharge share longs shorts :=
  add_nonneg (abs_nonneg _) (mul_nonneg hshare (le_min hlongs hshorts))

/-- The charges apart are their difference and twice the lesser. -/
theorem add_eq_abs_sub_add (longs shorts : K) :
    longs + shorts = |longs - shorts| + 2 * min longs shorts := by
  rcases le_total longs shorts with h | h
  · rw [min_eq_left h, abs_of_nonpos (sub_nonpos.mpr h)]
    ring
  · rw [min_eq_right h, abs_of_nonneg (sub_nonneg.mpr h)]
    ring

/-- Where no more than twice the lesser charge is kept, setting the charges against each other
does not raise them. -/
theorem offsetCharge_le (hshare : share ≤ 2) (hlongs : 0 ≤ longs) (hshorts : 0 ≤ shorts) :
    offsetCharge share longs shorts ≤ longs + shorts := by
  rw [offsetCharge, add_eq_abs_sub_add longs shorts]
  have := mul_le_mul_of_nonneg_right hshare (le_min hlongs hshorts)
  linarith

end Offsets

/-! ## Sides -/

/-- A charge on the greater of two sides, and on what the lesser exceeds a share of it by. -/
def sidesCharge (rate share excessRate long short : K) : K :=
  rate * max long short + excessRate * max (min long short - share * max long short) 0

omit [IsStrictOrderedRing K] in
theorem sidesCharge_comm (rate share excessRate long short : K) :
    sidesCharge rate share excessRate long short =
      sidesCharge rate share excessRate short long := by
  rw [sidesCharge, sidesCharge, max_comm long, min_comm long]

section Parts

variable {ι : Type*} {xs : List ι} {f g : ι → K}

/-- Maxima add up where they are taken on one side throughout. -/
theorem sum_max (h : (∀ x ∈ xs, g x ≤ f x) ∨ ∀ x ∈ xs, f x ≤ g x) :
    (xs.map fun x => max (f x) (g x)).sum = max (xs.map f).sum (xs.map g).sum := by
  obtain h | h := h
  · rw [List.map_congr_left fun x hx => max_eq_left (h x hx), max_eq_left (List.sum_le_sum h)]
  · rw [List.map_congr_left fun x hx => max_eq_right (h x hx), max_eq_right (List.sum_le_sum h)]

theorem sum_min (h : (∀ x ∈ xs, g x ≤ f x) ∨ ∀ x ∈ xs, f x ≤ g x) :
    (xs.map fun x => min (f x) (g x)).sum = min (xs.map f).sum (xs.map g).sum := by
  obtain h | h := h
  · rw [List.map_congr_left fun x hx => min_eq_right (h x hx), min_eq_right (List.sum_le_sum h)]
  · rw [List.map_congr_left fun x hx => min_eq_left (h x hx), min_eq_left (List.sum_le_sum h)]

/-- Parts that are greater on one side, and within the share throughout or beyond it throughout,
are charged together what they are charged as one. -/
theorem sum_sidesCharge {rate share excessRate : K}
    (hside : (∀ x ∈ xs, g x ≤ f x) ∨ ∀ x ∈ xs, f x ≤ g x)
    (hshare : (∀ x ∈ xs, share * max (f x) (g x) ≤ min (f x) (g x)) ∨
      ∀ x ∈ xs, min (f x) (g x) ≤ share * max (f x) (g x)) :
    (xs.map fun x => sidesCharge rate share excessRate (f x) (g x)).sum =
      sidesCharge rate share excessRate (xs.map f).sum (xs.map g).sum := by
  have hexcess : (xs.map fun x => max (min (f x) (g x) - share * max (f x) (g x)) 0).sum =
      max ((xs.map fun x => min (f x) (g x)).sum -
        share * (xs.map fun x => max (f x) (g x)).sum) 0 := by
    rw [sum_max (hshare.imp (fun h x hx => sub_nonneg.mpr (h x hx)) fun h x hx =>
      sub_nonpos.mpr (h x hx))]
    simp only [sub_eq_add_neg, ← neg_mul]
    rw [List.sum_map_add, List.sum_map_mul_left]
    simp
  simp only [sidesCharge]
  rw [List.sum_map_add, List.sum_map_mul_left, List.sum_map_mul_left, hexcess, sum_max hside,
    sum_min hside]

end Parts
