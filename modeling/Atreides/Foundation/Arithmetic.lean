import Atreides.Foundation.Decimal.Exact

/-!
# Arithmetics

A computation of amounts is carried out in some arithmetic: in decimals that are rounded after
every operation, or in exact numbers. The operations may raise. A computation that is written
for any arithmetic is one computation in each.

## Main definitions

* `Arithmetic` — the operations on amounts
* `Arithmetic.max`, `Arithmetic.min`, `Arithmetic.le` — what is made of them
-/

/-- The arithmetic that a computation of amounts is carried out in. -/
class Arithmetic (N : Type) where
  ofDecimal : FiniteDecimal → N
  lt : N → N → Bool
  add : N → N → Outcome N
  sub : N → N → Outcome N
  mul : N → N → Outcome N
  div : N → N → Outcome N
  neg : N → Outcome N
  abs : N → Outcome N
  /-- the integer towards zero -/
  truncate : N → ℤ

namespace Arithmetic

/-- Decimals in the ambient context. -/
instance : Arithmetic FiniteDecimal where
  ofDecimal d := d
  lt := FiniteDecimal.lt
  add := FiniteDecimal.add .ambient
  sub := FiniteDecimal.sub .ambient
  mul := FiniteDecimal.mul .ambient
  div := FiniteDecimal.div .ambient
  neg := FiniteDecimal.neg .ambient
  abs := FiniteDecimal.abs .ambient
  truncate := FiniteDecimal.truncate

/-- Exact numbers. Only a division by zero raises. -/
instance : Arithmetic ℚ where
  ofDecimal d := d.value
  lt a b := a < b
  add a b := .ok (a + b)
  sub a b := .ok (a - b)
  mul a b := .ok (a * b)
  div a b :=
    if b = 0 then .error (if a = 0 then .invalidOperation else .divisionByZero) else .ok (a / b)
  neg a := .ok (-a)
  abs a := .ok |a|
  truncate a := if a < 0 then -(-a).floor else a.floor

section Any

variable {N : Type} [Arithmetic N]

/-- Zero, as a decimal literal is. -/
def zero : N := ofDecimal 0

def le (a b : N) : Bool := !lt b a

/-- The larger number, the first when they are equal. -/
def max (a b : N) : N := if lt a b then b else a

/-- The smaller number, the first when they are equal. -/
def min (a b : N) : N := if lt b a then b else a

end Any

/-! ## Exact numbers -/

section Exact

variable {a b : ℚ}

@[simp] theorem exact_zero : (zero : ℚ) = 0 := by
  exact FiniteDecimal.value_eq_zero_iff.mpr rfl

@[simp] theorem exact_lt : lt a b = decide (a < b) := rfl

@[simp] theorem exact_le : le a b = decide (a ≤ b) := by
  simp [le, ← not_lt]

@[simp] theorem exact_add : add a b = .ok (a + b) := rfl

@[simp] theorem exact_sub : sub a b = .ok (a - b) := rfl

@[simp] theorem exact_mul : mul a b = .ok (a * b) := rfl

@[simp] theorem exact_neg : neg a = .ok (-a) := rfl

@[simp] theorem exact_abs : abs a = .ok |a| := rfl

theorem exact_div (h : b ≠ 0) : div a b = .ok (a / b) := if_neg h

@[simp] theorem exact_max : max a b = Max.max a b := by
  rw [max, exact_lt, max_def]
  by_cases h : a < b
  · rw [if_pos (decide_eq_true h), if_pos h.le]
  · rw [if_neg (by simpa using h)]
    split_ifs with hle
    · exact le_antisymm hle (not_lt.mp h)
    · rfl

@[simp] theorem exact_min : min a b = Min.min a b := by
  rw [min, exact_lt, min_def]
  by_cases h : b < a
  · rw [if_pos (decide_eq_true h), if_neg (not_le.mpr h)]
  · rw [if_neg (by simpa using h), if_pos (not_lt.mp h)]

end Exact

end Arithmetic
