import Mathlib.Data.List.Basic

/-!
# Identifiers

A universally unique identifier, by its canonical text: thirty-two lower-case hexadecimal
digits in groups of 8, 4, 4, 4 and 12.
-/

/-- The characters of an identifier: hyphens at four places, hexadecimal digits elsewhere. -/
def isCanonicalUuid (text : String) : Bool :=
  text.length = 36 && text.toList.zipIdx.all fun (c, place) =>
    if place = 8 ∨ place = 13 ∨ place = 18 ∨ place = 23 then c = '-'
    else c.isDigit || ('a' ≤ c && c ≤ 'f')

/-- A universally unique identifier. -/
structure Uuid where
  text : String
  canonical : isCanonicalUuid text = true := by decide
  deriving DecidableEq
