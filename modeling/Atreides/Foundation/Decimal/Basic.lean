import Mathlib.Algebra.Group.Nat.Defs
import Mathlib.Data.Nat.Log
import Atreides.Foundation.Outcome

/-!
# Decimal arithmetic in a context

The General Decimal Arithmetic numbers: a finite decimal is a sign, a coefficient and a
power of ten, and beside the finite ones stand the infinities and the quiet and
signalling NaNs. Every operation computes the exact result and then fits it into a
context, which bounds the number of digits and the exponent and rounds half to even.
Of the signals a context raises, the invalid operation, the division by zero and the
overflow are trapped and escape as exceptions; the others are silent.

## Main definitions

* `FiniteDecimal` — sign, coefficient and exponent
* `DecimalContext.fix` — rounding an exact result into a context
* `FiniteDecimal.add`, `sub`, `mul`, `div`, `neg`, `abs` — the operations in a context
* `Decimal` — finite decimals, infinities and NaNs, with the comparisons that raise
-/

/-- The finite decimal `(-1) ^ negative * coefficient * 10 ^ exponent`. -/
structure FiniteDecimal where
  negative : Bool
  coefficient : ℕ
  exponent : ℤ
  deriving DecidableEq, Repr

/-- A precision and an exponent range around zero. -/
structure DecimalContext where
  prec : ℕ
  Emax : ℤ
  Emin : ℤ
  prec_pos : 0 < prec
  Emax_nonneg : 0 ≤ Emax
  Emin_nonpos : Emin ≤ 0
  deriving DecidableEq

namespace DecimalContext

/-- The context in force unless a block sets another. -/
def ambient : DecimalContext := ⟨28, 999999, -999999, by decide, by decide, by decide⟩

/-- The ambient context with another precision. -/
def withPrec (prec : ℕ) (prec_pos : 0 < prec := by decide) : DecimalContext :=
  { ambient with prec, prec_pos }

/-- The least exponent a result may have. -/
def etiny (ctx : DecimalContext) : ℤ := ctx.Emin - (ctx.prec - 1)

/-- The greatest exponent a full-width result may have. -/
def etop (ctx : DecimalContext) : ℤ := ctx.Emax - (ctx.prec - 1)

end DecimalContext

/-- How many decimal digits a number is written with; zero is written with one. -/
def digitCount (n : ℕ) : ℕ := Nat.log 10 n + 1

/-- Drop the last `k` digits, rounding to the nearest and halves to the even neighbour. -/
def roundHalfEven (n k : ℕ) : ℕ :=
  let kept := n / 10 ^ k
  let dropped := n % 10 ^ k
  if 2 * dropped < 10 ^ k then kept
  else if 10 ^ k < 2 * dropped then kept + 1
  else if kept % 2 = 0 then kept else kept + 1

namespace DecimalContext

/-- The exponent at which a result written with all the context's digits would end. -/
def widest (ctx : DecimalContext) (d : FiniteDecimal) : ℤ :=
  digitCount d.coefficient + d.exponent - ctx.prec

/-- The least exponent a result may keep: no digit beyond the precision, and none finer
than the context's smallest step. -/
def target (ctx : DecimalContext) (d : FiniteDecimal) : ℤ := max (ctx.widest d) ctx.etiny

/-- Fit an exact result into the context. A result too large for the exponent range
overflows; one too long, or finer than the context's smallest step, is rounded. -/
def fix (ctx : DecimalContext) (d : FiniteDecimal) : Outcome FiniteDecimal :=
  if d.coefficient = 0 then
    .ok { d with exponent := min (max d.exponent ctx.etiny) ctx.Emax }
  else if ctx.etop < ctx.widest d then .error .overflow
  else if d.exponent < ctx.target d then
    let rounded := roundHalfEven d.coefficient (ctx.target d - d.exponent).toNat
    if rounded = 10 ^ ctx.prec then
      -- the carry made one digit too many; the last one is a zero
      if ctx.etop < ctx.target d + 1 then .error .overflow
      else .ok ⟨d.negative, rounded / 10, ctx.target d + 1⟩
    else .ok ⟨d.negative, rounded, ctx.target d⟩
  else .ok d

end DecimalContext

namespace FiniteDecimal

/-- The integer `n` with exponent zero. -/
def ofInt (n : ℤ) : FiniteDecimal := ⟨n < 0, n.natAbs, 0⟩

instance (n : ℕ) : OfNat FiniteDecimal n := ⟨⟨false, n, 0⟩⟩

instance : Inhabited FiniteDecimal := ⟨0⟩

/-- The coefficient with its sign. -/
def toInt (d : FiniteDecimal) : ℤ := if d.negative then -(d.coefficient : ℤ) else d.coefficient

/-- The signed coefficient written with the exponent `e`, for `e ≤ d.exponent`. -/
def scaled (d : FiniteDecimal) (e : ℤ) : ℤ := d.toInt * ((10 ^ (d.exponent - e).toNat : ℕ) : ℤ)

/-- The exponent both numbers can be written with. -/
def common (a b : FiniteDecimal) : ℤ := min a.exponent b.exponent

/-- Numeric comparison. -/
def lt (a b : FiniteDecimal) : Bool := a.scaled (common a b) < b.scaled (common a b)

/-- Numeric comparison. -/
def le (a b : FiniteDecimal) : Bool := a.scaled (common a b) ≤ b.scaled (common a b)

/-- Numeric equality: `1.0` and `1.00` are equal numbers with different exponents. -/
def eq (a b : FiniteDecimal) : Bool := a.scaled (common a b) = b.scaled (common a b)

/-- Whether the number is zero, whatever its sign and exponent. -/
def isZero (d : FiniteDecimal) : Bool := d.coefficient = 0

/-- The larger number, the first when they are equal. -/
def max (a b : FiniteDecimal) : FiniteDecimal := if a.lt b then b else a

/-- The smaller number, the first when they are equal. -/
def min (a b : FiniteDecimal) : FiniteDecimal := if b.lt a then b else a

/-- The number with the other sign, exactly. -/
def copyNegate (d : FiniteDecimal) : FiniteDecimal := { d with negative := !d.negative }

/-- The number without its sign, exactly. -/
def copyAbs (d : FiniteDecimal) : FiniteDecimal := { d with negative := false }

/-- The exact sum. A sum of opposite numbers is a positive zero. -/
def exactAdd (a b : FiniteDecimal) : FiniteDecimal :=
  let e := common a b
  let total := a.scaled e + b.scaled e
  ⟨if total = 0 then a.negative && b.negative else total < 0, total.natAbs, e⟩

/-- The exact product. -/
def exactMul (a b : FiniteDecimal) : FiniteDecimal :=
  ⟨a.negative ^^ b.negative, a.coefficient * b.coefficient, a.exponent + b.exponent⟩

/-- Addition in a context. -/
def add (ctx : DecimalContext) (a b : FiniteDecimal) : Outcome FiniteDecimal :=
  ctx.fix (exactAdd a b)

/-- Subtraction in a context. -/
def sub (ctx : DecimalContext) (a b : FiniteDecimal) : Outcome FiniteDecimal :=
  add ctx a b.copyNegate

/-- Multiplication in a context. -/
def mul (ctx : DecimalContext) (a b : FiniteDecimal) : Outcome FiniteDecimal :=
  ctx.fix (exactMul a b)

/-- Unary minus rounds as every operation does, and never returns a negative zero. -/
def neg (ctx : DecimalContext) (d : FiniteDecimal) : Outcome FiniteDecimal :=
  ctx.fix (if d.coefficient = 0 then d.copyAbs else d.copyNegate)

/-- The absolute value rounds as every operation does. -/
def abs (ctx : DecimalContext) (d : FiniteDecimal) : Outcome FiniteDecimal :=
  ctx.fix d.copyAbs

/-- Strip trailing zeros off a quotient until the exponent reaches the ideal one. -/
def stripTo (ideal : ℤ) : ℕ → FiniteDecimal → FiniteDecimal
  | 0, d => d
  | fuel + 1, d =>
    if d.exponent < ideal ∧ d.coefficient % 10 = 0 then
      stripTo ideal fuel { d with coefficient := d.coefficient / 10, exponent := d.exponent + 1 }
    else d

/-- Division in a context: enough digits for correct rounding, with an inexact quotient
marked so that no later rounding mistakes it for a tie. -/
def div (ctx : DecimalContext) (a b : FiniteDecimal) : Outcome FiniteDecimal :=
  let negative := a.negative ^^ b.negative
  let ideal := a.exponent - b.exponent
  if b.coefficient = 0 then
    .error (if a.coefficient = 0 then .invalidOperation else .divisionByZero)
  else if a.coefficient = 0 then ctx.fix ⟨negative, 0, ideal⟩
  else
    let shift : ℤ := digitCount b.coefficient - digitCount a.coefficient + ctx.prec + 1
    let numerator := a.coefficient * 10 ^ shift.toNat
    let denominator := b.coefficient * 10 ^ (-shift).toNat
    let quotient := numerator / denominator
    let exponent := ideal - shift
    if numerator % denominator = 0 then
      ctx.fix (stripTo ideal (ideal - exponent).toNat ⟨negative, quotient, exponent⟩)
    else if quotient % 5 = 0 then ctx.fix ⟨negative, quotient + 1, exponent⟩
    else ctx.fix ⟨negative, quotient, exponent⟩

/-- The least integer that is not below the number, with exponent zero. -/
def ceilToIntegral (d : FiniteDecimal) : FiniteDecimal :=
  if 0 ≤ d.exponent then d
  else
    let unit := 10 ^ (-d.exponent).toNat
    if d.negative then ⟨true, d.coefficient / unit, 0⟩
    else ⟨false, (d.coefficient + unit - 1) / unit, 0⟩

/-- The integer towards zero. -/
def truncate (d : FiniteDecimal) : ℤ :=
  let n := if 0 ≤ d.exponent then d.coefficient * 10 ^ d.exponent.toNat
    else d.coefficient / 10 ^ (-d.exponent).toNat
  if d.negative then -(n : ℤ) else n

/-- Add up a list from the left, rounding after each addition. -/
def sum (ctx : DecimalContext) (start : FiniteDecimal) (xs : List FiniteDecimal) :
    Outcome FiniteDecimal :=
  Outcome.foldSteps (add ctx) start xs

end FiniteDecimal

/-- A decimal: finite, infinite, or not a number. -/
inductive Decimal
  | finite (d : FiniteDecimal)
  | infinite (negative : Bool)
  | nan (negative signaling : Bool) (payload : ℕ)
  deriving DecidableEq, Repr

namespace Decimal

instance : Coe FiniteDecimal Decimal := ⟨finite⟩

instance (n : ℕ) : OfNat Decimal n := ⟨finite (OfNat.ofNat n)⟩

/-- Whether the decimal is finite. -/
def isFinite : Decimal → Bool
  | finite _ => true
  | _ => false

/-- Whether the decimal is a NaN, quiet or signalling. -/
def isNaN : Decimal → Bool
  | nan .. => true
  | _ => false

/-- Whether the decimal is a NaN that signals whenever it is used. -/
def isSignaling : Decimal → Bool
  | nan _ signaling _ => signaling
  | _ => false

/-- Ordering of two decimals that are not NaNs. -/
def ltNumber : Decimal → Decimal → Bool
  | finite a, finite b => a.lt b
  | finite _, infinite negative => !negative
  | infinite negative, finite _ => negative
  | infinite a, infinite b => a && !b
  | _, _ => false

/-- `a < b`. A comparison with a NaN is an invalid operation. -/
def lt (a b : Decimal) : Outcome Bool :=
  if a.isNaN || b.isNaN then .error .invalidOperation else .ok (a.ltNumber b)

/-- `a ≤ b`. A comparison with a NaN is an invalid operation. -/
def le (a b : Decimal) : Outcome Bool :=
  if a.isNaN || b.isNaN then .error .invalidOperation else .ok (!b.ltNumber a)

/-- `a == b`. A quiet NaN equals nothing; a signalling one is an invalid operation. -/
def eq : Decimal → Decimal → Outcome Bool
  | nan _ true _, _ => .error .invalidOperation
  | _, nan _ true _ => .error .invalidOperation
  | nan .., _ => .ok false
  | _, nan .. => .ok false
  | finite a, finite b => .ok (a.eq b)
  | infinite a, infinite b => .ok (a == b)
  | _, _ => .ok false

/-- Two decimals are ordered unless one of them is no number. -/
theorem lt_returns_iff {a b : Decimal} :
    (lt a b).Returns ↔ a.isNaN = false ∧ b.isNaN = false := by
  rw [lt]
  cases a.isNaN <;> cases b.isNaN <;> simp

/-- Two decimals are compared for equality unless one of them signals. -/
theorem eq_returns_iff {a b : Decimal} :
    (eq a b).Returns ↔ a.isSignaling = false ∧ b.isSignaling = false := by
  rcases a with a | a | ⟨_, _ | _, _⟩ <;> rcases b with b | b | ⟨_, _ | _, _⟩ <;>
    simp [eq, isSignaling]

/-- What equals a number is a number. -/
theorem not_isNaN_of_eq {a b : Decimal} (h : eq a b = .ok true) : b.isNaN = false := by
  rcases a with a | a | ⟨_, _ | _, _⟩ <;> rcases b with b | b | ⟨_, _ | _, _⟩ <;>
    first | rfl | cases h

/-- Truth value: only a zero is false, and a NaN is true. -/
def truthy : Decimal → Bool
  | finite d => !d.isZero
  | _ => true

/-- The decimal with the other sign, exactly. -/
def copyNegate : Decimal → Decimal
  | finite d => finite d.copyNegate
  | infinite negative => infinite (!negative)
  | nan negative signaling payload => nan (!negative) signaling payload

/-- The absolute value in a context. A quiet NaN is passed on with its sign. -/
def abs (ctx : DecimalContext) : Decimal → Outcome Decimal
  | finite d => finite <$> d.abs ctx
  | infinite _ => .ok (infinite false)
  | nan _ true _ => .error .invalidOperation
  | nan negative false payload => .ok (nan negative false payload)

/-- Addition in a context. A signalling NaN, or infinities of opposite sign, are invalid;
a quiet NaN is passed on. -/
def add (ctx : DecimalContext) : Decimal → Decimal → Outcome Decimal
  | nan _ true _, _ => .error .invalidOperation
  | _, nan _ true _ => .error .invalidOperation
  | nan negative false payload, _ => .ok (nan negative false payload)
  | _, nan negative false payload => .ok (nan negative false payload)
  | infinite a, infinite b => if a = b then .ok (infinite a) else .error .invalidOperation
  | infinite a, finite _ => .ok (infinite a)
  | finite _, infinite b => .ok (infinite b)
  | finite a, finite b => finite <$> a.add ctx b

/-- Subtraction in a context. The NaN checks come before the sign of the second operand
is turned, so a NaN that is passed on keeps its sign. -/
def sub (ctx : DecimalContext) : Decimal → Decimal → Outcome Decimal
  | nan _ true _, _ => .error .invalidOperation
  | _, nan _ true _ => .error .invalidOperation
  | nan negative false payload, _ => .ok (nan negative false payload)
  | _, nan negative false payload => .ok (nan negative false payload)
  | a, b => add ctx a b.copyNegate

/-- Unary minus in a context. A quiet NaN is passed on with its sign. -/
def neg (ctx : DecimalContext) : Decimal → Outcome Decimal
  | finite d => finite <$> d.neg ctx
  | infinite negative => .ok (infinite !negative)
  | nan _ true _ => .error .invalidOperation
  | nan negative false payload => .ok (nan negative false payload)

/-- The sign, also of a zero. -/
def isNegative : Decimal → Bool
  | finite d => d.negative
  | infinite negative => negative
  | nan negative .. => negative

/-- Multiplication in a context. An infinity times a zero is invalid. -/
def mul (ctx : DecimalContext) : Decimal → Decimal → Outcome Decimal
  | nan _ true _, _ => .error .invalidOperation
  | _, nan _ true _ => .error .invalidOperation
  | nan negative false payload, _ => .ok (nan negative false payload)
  | _, nan negative false payload => .ok (nan negative false payload)
  | finite a, finite b => finite <$> a.mul ctx b
  | a, b =>
    if a.truthy && b.truthy then .ok (infinite (a.isNegative ^^ b.isNegative))
    else .error .invalidOperation

/-- Division in a context. A finite number over an infinity is the least zero. -/
def div (ctx : DecimalContext) : Decimal → Decimal → Outcome Decimal
  | nan _ true _, _ => .error .invalidOperation
  | _, nan _ true _ => .error .invalidOperation
  | nan negative false payload, _ => .ok (nan negative false payload)
  | _, nan negative false payload => .ok (nan negative false payload)
  | infinite _, infinite _ => .error .invalidOperation
  | infinite negative, finite b => .ok (infinite (negative ^^ b.negative))
  | finite a, infinite negative => .ok (finite ⟨a.negative ^^ negative, 0, ctx.etiny⟩)
  | finite a, finite b => finite <$> a.div ctx b

/-- The least integral value that is not below the decimal. -/
def ceilToIntegral : Decimal → Outcome Decimal
  | finite d => .ok (finite d.ceilToIntegral)
  | infinite negative => .ok (infinite negative)
  | nan _ true _ => .error .invalidOperation
  | nan negative false payload => .ok (nan negative false payload)

/-- The larger of two, the first when neither is larger. -/
def max (a b : Decimal) : Outcome Decimal := do
  if ← lt a b then .ok b else .ok a

/-- The smaller of two, the first when neither is smaller. -/
def min (a b : Decimal) : Outcome Decimal := do
  if ← lt b a then .ok b else .ok a

end Decimal
