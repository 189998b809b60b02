import Atreides.Foundation.Outcome

/-!
# Finality classes

The classes of finality that rails and obligations share, whose book a final rail is final
on, and the state of an obligation that awaits an outcome. Values of these arrive from
outside: one that names no member is kept as it came and reported.

## Main definitions

* `Coerced` — a member of an enumeration, or a value that names none
* `FinalityClass`, `SettlementPerimeter`, `DeterminationOutcome`
* `continuouslyAvailable`, `obligationFinalityClass`
-/

namespace Atreides

/-! ## Members and other values -/

/-- A value at the boundary: a member of an enumeration, or how another value shows. -/
inductive Coerced (α : Type)
  | member (a : α)
  | unrecognised (shown : String)
  deriving DecidableEq, Repr

/-- The value is no member. -/
def Coerced.isUnrecognised {α : Type} : Coerced α → Bool
  | member _ => false
  | unrecognised _ => true

/-- A member's value, or a marker for anything else. -/
def Coerced.describe {α : Type} (value : α → String) : Coerced α → String
  | member a => value a
  | unrecognised shown => "UNRECOGNISED:" ++ shown

/-! ## Finality -/

/-- When a movement of money becomes irrevocable. The last class is one of an obligation and
never one of a rail. -/
inductive FinalityClass
  | grossFinal
  | deferredNet
  | ledgerFinal
  | correspondentDependent
  | determinationDependent
  deriving DecidableEq, Repr

def FinalityClass.value : FinalityClass → String
  | grossFinal => "GROSS_FINAL"
  | deferredNet => "DEFERRED_NET"
  | ledgerFinal => "LEDGER_FINAL"
  | correspondentDependent => "CORRESPONDENT_DEPENDENT"
  | determinationDependent => "DETERMINATION_DEPENDENT"

/-! ## Perimeters -/

/-- Which side of the settling institution's book the counterparty is on. -/
inductive SettlementPerimeter
  | notAssessed
  | onUs
  | offUs
  deriving DecidableEq, Repr

def SettlementPerimeter.value : SettlementPerimeter → String
  | notAssessed => "NOT_ASSESSED"
  | onUs => "ON_US"
  | offUs => "OFF_US"

/-- Outside banking hours a ledger-final rail is available on one institution's book only. -/
def continuouslyAvailable (isLedgerFinal : Bool) (perimeter : Coerced SettlementPerimeter) :
    Bool :=
  if !isLedgerFinal then true else perimeter = .member .onUs

/-! ## Determination -/

/-- The state of a contingent obligation with respect to its outcome. -/
inductive DeterminationOutcome
  | notApplicable
  | awaitingDetermination
  | qualifiedBounded
  | qualifiedUnbounded
  | qualificationUnknown
  | unqualified
  deriving DecidableEq, Repr

def DeterminationOutcome.value : DeterminationOutcome → String
  | notApplicable => "not_applicable"
  | awaitingDetermination => "awaiting_determination"
  | qualifiedBounded => "qualified_bounded"
  | qualifiedUnbounded => "qualified_unbounded"
  | qualificationUnknown => "qualification_unknown"
  | unqualified => "unqualified"

/-- The finality class of the obligation, where it has one of its own. -/
def obligationFinalityClass : Coerced DeterminationOutcome → Outcome (Option FinalityClass)
  | .member .notApplicable | .member .unqualified => .ok none
  | .member .awaitingDetermination | .member .qualifiedBounded
  | .member .qualifiedUnbounded | .member .qualificationUnknown =>
    .ok (some .determinationDependent)
  | .unrecognised shown =>
    .error (.refused "AssertionError" ("unhandled DeterminationOutcome: " ++ shown))

end Atreides
