import Atreides.Foundation.Text

/-!
# Numerals

The decimal that a text denotes. Blanks at the ends and underscores are dropped, the digits of
every script count, and the letters may be of either case. A text that is no numeral, and one
whose number the widest context cannot hold exactly, is an invalid operation.

## Main definitions

* `readNumeral` — the grammar
* `Decimal.ofText` — the decimal of a text
* `intText` — the text of an integer
-/

/-! ## Characters -/

/-- The value of a decimal digit: its place among the ten of its script. -/
def digitValue? (c : Char) : Option ℕ :=
  (decimalDigits.find? fun run => run.1 ≤ c.toNat && c.toNat ≤ run.2).map fun run =>
    (c.toNat - run.1) % 10

/-- The character a numeral is read with: a digit of any script is the plain one, and a blank
a space. Any other character outside the plain ones has none. -/
def numeralCharacter (c : Char) : Option Char :=
  if 0 < c.toNat && c.toNat ≤ 127 then some c.toLower
  else if isBlank c then some ' '
  else (digitValue? c).map fun digit => Char.ofNat (48 + digit)

/-- The characters of a text that a numeral is read from. -/
def numeralCharacters (text : String) : Option (List Char) :=
  ((stripped text).toList.filter (· ≠ '_')).mapM numeralCharacter

/-! ## The grammar -/

/-- The number of a text of one or more digits. -/
def readDigits (chars : List Char) : Option ℕ :=
  if chars ≠ [] ∧ chars.all Char.isDigit then some (Nat.ofDigitChars 10 chars 0) else none

/-- Whether a minus sign stands in front, and what follows the sign. -/
def readSign : List Char → Bool × List Char
  | '-' :: rest => (true, rest)
  | '+' :: rest => (false, rest)
  | chars => (false, chars)

/-- The power of ten after the mark of an exponent, where there is one. -/
def readExponent : List Char → Option ℤ
  | [] => some 0
  | _ :: rest =>
    (readDigits (readSign rest).2).map fun n => if (readSign rest).1 then -(n : ℤ) else n

/-- The number of digits with at most one point among them, and a power of ten. -/
def readFinite (negative : Bool) (chars : List Char) : Option FiniteDecimal := do
  let mantissa := chars.takeWhile (· ≠ 'e')
  let fraction := (mantissa.dropWhile (· ≠ '.')).drop 1
  let coefficient ← readDigits (mantissa.takeWhile (· ≠ '.') ++ fraction)
  let exponent ← readExponent (chars.dropWhile (· ≠ 'e'))
  some ⟨negative, coefficient, exponent - fraction.length⟩

/-- The diagnostic digits after the name of a NaN, which may be missing. -/
def readPayload (chars : List Char) : Option ℕ :=
  if chars = [] then some 0 else readDigits chars

/-- A number without its sign. -/
def readUnsigned (negative : Bool) : List Char → Option Decimal
  | 'i' :: rest =>
    if rest = "nf".toList ∨ rest = "nfinity".toList then some (.infinite negative) else none
  | 'n' :: 'a' :: 'n' :: payload => (readPayload payload).map (.nan negative false)
  | 's' :: 'n' :: 'a' :: 'n' :: payload => (readPayload payload).map (.nan negative true)
  | chars => (readFinite negative chars).map .finite

/-- The decimal that a text spells, whatever its size. -/
def readNumeral (text : String) : Option Decimal := do
  let chars ← numeralCharacters text
  readUnsigned (readSign chars).1 (readSign chars).2

/-! ## Size -/

/-- The widest context there is. -/
def DecimalContext.widestContext : DecimalContext :=
  ⟨999999999999999999, 999999999999999999, -999999999999999999, by decide, by decide, by decide⟩

/-- The context holds the number as it is written. -/
def DecimalContext.holds (ctx : DecimalContext) (d : FiniteDecimal) : Bool :=
  if d.coefficient = 0 then ctx.etiny ≤ d.exponent && d.exponent ≤ ctx.Emax
  else ctx.target d ≤ d.exponent && ctx.widest d ≤ ctx.etop

/-- What a context holds, it does not change. -/
theorem DecimalContext.fix_of_holds {ctx : DecimalContext} {d : FiniteDecimal}
    (h : ctx.holds d = true) : ctx.fix d = .ok d := by
  by_cases hzero : d.coefficient = 0
  · rw [DecimalContext.holds, if_pos hzero, Bool.and_eq_true_iff, decide_eq_true_iff,
      decide_eq_true_iff] at h
    have hsame : min (max d.exponent ctx.etiny) ctx.Emax = d.exponent := by omega
    rw [DecimalContext.fix, if_pos hzero, hsame]
  · rw [DecimalContext.holds, if_neg hzero, Bool.and_eq_true_iff, decide_eq_true_iff,
      decide_eq_true_iff] at h
    -- neither too large nor too fine
    rw [DecimalContext.fix, if_neg hzero, if_neg (by omega), if_neg (by omega)]

/-- The decimal of a text. -/
def Decimal.ofText (text : String) : Outcome Decimal :=
  match readNumeral text with
  | some (.finite d) =>
    if DecimalContext.widestContext.holds d then .ok (.finite d) else .error .invalidOperation
  | some d => .ok d
  | none => .error .invalidOperation

example : Decimal.ofText " -1_0.50e+3 " = .ok (.finite ⟨true, 1050, 1⟩) := by decide +kernel

/-! ## Integers as text -/

/-- How many digits an integer may be written with. -/
def maxStrDigits : ℕ := 4300

/-- The text of an integer. One of too many digits is not written. -/
def intText (n : ℤ) : Outcome String :=
  if maxStrDigits < digitCount n.natAbs then
    .error (.valueError <| "Exceeds the limit (4300 digits) for integer string conversion; " ++
      "use sys.set_int_max_str_digits() to increase the limit")
  else .ok (toString n)

theorem intText_returns_iff {n : ℤ} :
    (intText n).Returns ↔ digitCount n.natAbs ≤ maxStrDigits := by
  rw [intText]
  split_ifs with h
  · simp [h]
  · simpa using h
