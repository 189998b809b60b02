import Mathlib.Data.List.DropRight
import Atreides.Foundation.Decimal.Exact
import Atreides.Foundation.PlainNumerals

/-!
# Numerals without idle zeros

The zeros before the whole part of a plain numeral and those after its fraction say nothing. A
numeral written without them is read as the same number.

## Main definitions

* `wholePart`, `fractionPart` — a plain text before and after its point
* `joinedParts` — the numeral of a whole part and a fraction
* `partsValue` — the number it stands for

## Main results

* `partsValue_trimmed` — idle zeros do not change the number
* `readNumeral_joinedParts` — what a numeral of two parts is read as
* `pointedDigits_parts` — the parts of a number's digits stand for the number
-/

section

open scoped Characters

/-! ## Parts -/

/-- What stands before the first point. -/
def wholePart (chars : List Char) : List Char := chars.takeWhile (· ≠ '.')

/-- What stands after the first point. -/
def fractionPart (chars : List Char) : List Char := (chars.dropWhile (· ≠ '.')).drop 1

/-- A numeral of two parts: a zero for a whole part that is empty, and no point before a fraction
that is. -/
def joinedParts (whole fraction : List Char) : List Char :=
  (if whole = [] then ['0'] else whole) ++ if fraction = [] then [] else '.' :: fraction

/-- The number that two parts stand for. -/
def partsValue (whole fraction : List Char) : ℚ :=
  Nat.ofDigitChars 10 (whole ++ fraction) 0 * 10 ^ (-(fraction.length : ℤ))

/-! ## Idle zeros -/

theorem ofDigitChars_dropWhile_zero (chars : List Char) :
    Nat.ofDigitChars 10 (chars.dropWhile (· = '0')) 0 = Nat.ofDigitChars 10 chars 0 := by
  induction chars with
  | nil => rfl
  | cons c chars ih =>
    by_cases hc : c = '0'
    · have hdrop : (c :: chars).dropWhile (· = '0') = chars.dropWhile (· = '0') := by
        rw [List.dropWhile_cons_of_pos (by simpa using hc)]
      rw [hdrop, ih, hc, Nat.ofDigitChars_cons]
      rfl
    · rw [List.dropWhile_cons_of_neg (by simpa using hc)]

theorem partsValue_dropWhile (whole fraction : List Char) :
    partsValue (whole.dropWhile (· = '0')) fraction = partsValue whole fraction := by
  rw [partsValue, partsValue, Nat.ofDigitChars_append, Nat.ofDigitChars_append,
    ofDigitChars_dropWhile_zero]

/-- A text is what is left of it, and the zeros dropped from its end. -/
theorem rdropWhile_append_zeros (chars : List Char) :
    ∃ k, chars = chars.rdropWhile (· = '0') ++ List.replicate k '0' := by
  induction chars using List.reverseRecOn with
  | nil => exact ⟨0, rfl⟩
  | append_singleton chars c ih =>
    by_cases hc : c = '0'
    · obtain ⟨k, hk⟩ := ih
      refine ⟨k + 1, ?_⟩
      rw [List.rdropWhile_concat_pos _ _ _ (by simpa using hc), List.replicate_succ', hc,
        ← List.append_assoc, ← hk]
    · refine ⟨0, ?_⟩
      rw [List.rdropWhile_concat_neg _ _ _ (by simpa using hc), List.replicate_zero,
        List.append_nil]

theorem partsValue_rdropWhile (whole fraction : List Char) :
    partsValue whole (fraction.rdropWhile (· = '0')) = partsValue whole fraction := by
  obtain ⟨k, hk⟩ := rdropWhile_append_zeros fraction
  generalize fraction.rdropWhile (· = '0') = kept at *
  subst hk
  have hscale : (10 : ℚ) ^ k * 10 ^ (-((kept ++ List.replicate k '0').length : ℤ)) =
      10 ^ (-(kept.length : ℤ)) := by
    rw [← zpow_natCast, ← zpow_add₀ (by norm_num), List.length_append, List.length_replicate]
    congr 1
    push_cast
    ring
  rw [partsValue, partsValue, ← List.append_assoc, Nat.ofDigitChars_append (l := whole ++ kept),
    Nat.ofDigitChars_replicate_zero, ← hscale]
  push_cast
  ring

/-- Zeros before the whole part and after the fraction do not change the number. -/
theorem partsValue_trimmed (whole fraction : List Char) :
    partsValue (whole.dropWhile (· = '0')) (fraction.rdropWhile (· = '0')) =
      partsValue whole fraction := by
  rw [partsValue_dropWhile, partsValue_rdropWhile]

/-! ## Reading two parts -/

section

variable {whole fraction : List Char}

theorem mem_joinedParts {c : Char} (h : c ∈ joinedParts whole fraction) :
    c = '0' ∨ c = '.' ∨ c ∈ whole ++ fraction := by
  rw [joinedParts, List.mem_append] at h
  rw [List.mem_append]
  rcases h with h | h
  · split_ifs at h
    · exact .inl (List.mem_singleton.mp h)
    · exact .inr (.inr (.inl h))
  · split_ifs at h
    · exact absurd h List.not_mem_nil
    · rcases List.mem_cons.mp h with h | h
      · exact .inr (.inl h)
      · exact .inr (.inr (.inr h))

theorem joinedParts_ne_nil : joinedParts whole fraction ≠ [] := by
  rw [joinedParts]
  split_ifs with h <;> simp [h]

/-- A numeral of two parts is read as the number of their digits, with the point between them. -/
theorem readNumeral_joinedParts (h : ∀ c ∈ whole ++ fraction, c.isDigit = true) :
    readNumeral (String.ofList (joinedParts whole fraction)) = some (.finite
      ⟨false, Nat.ofDigitChars 10 (whole ++ fraction) 0, -(fraction.length : ℤ)⟩) := by
  have hnought : ∀ chars : List Char, Nat.ofDigitChars 10 ('0' :: chars) 0 =
      Nat.ofDigitChars 10 chars 0 := by
    intro chars
    rw [Nat.ofDigitChars_cons]
    rfl
  -- the whole part as it is written
  have hwritten : ∃ shown : List Char, (if whole = [] then ['0'] else whole) = shown ∧
      shown ≠ [] ∧ (∀ c ∈ shown, c.isDigit = true) ∧
        Nat.ofDigitChars 10 (shown ++ fraction) 0 =
          Nat.ofDigitChars 10 (whole ++ fraction) 0 := by
    by_cases hwhole : whole = []
    · refine ⟨['0'], if_pos hwhole, by decide, by decide, ?_⟩
      rw [hwhole, List.singleton_append, hnought, List.nil_append]
    · exact ⟨whole, if_neg hwhole, hwhole, fun c hc => h c (List.mem_append_left _ hc), rfl⟩
  obtain ⟨shown, hshown, hne, hdigit, hnumber⟩ := hwritten
  rw [joinedParts, hshown, ← hnumber]
  by_cases hfraction : fraction = []
  · rw [if_pos hfraction, List.append_nil, hfraction, List.append_nil,
      readNumeral_whole (String.toList_ofList) hne hdigit]
    rfl
  · rw [if_neg hfraction, readNumeral_parts (String.toList_ofList) hne hdigit
      fun c hc => h c (List.mem_append_right _ hc), zero_sub]

/-- So many digits stand for less than so many powers of ten. -/
theorem ofDigitChars_lt_pow {chars : List Char} (h : ∀ c ∈ chars, c.isDigit = true) :
    Nat.ofDigitChars 10 chars 0 < 10 ^ chars.length := by
  induction chars using List.reverseRecOn with
  | nil => decide
  | append_singleton chars c ih =>
    have hc : c.toNat ≤ 57 := by
      have hdigit := h c (by simp)
      have hrange : 48 ≤ c.toNat ∧ c.toNat ≤ 57 := by
        simpa [Char.isDigit, UInt32.le_iff_toNat_le] using hdigit
      exact hrange.2
    have hlast : c.toNat - '0'.toNat ≤ 9 := by
      have hzero : '0'.toNat = 48 := rfl
      omega
    have hrest := ih fun d hd => h d (List.mem_append_left _ hd)
    rw [Nat.ofDigitChars_append, Nat.ofDigitChars_cons, Nat.ofDigitChars_nil, List.length_append,
      List.length_singleton, pow_succ]
    omega

/-- A numeral of few digits is read in full. -/
theorem ofText_joinedParts (h : ∀ c ∈ whole ++ fraction, c.isDigit = true)
    (hfew : whole.length + fraction.length ≤ 200) :
    Decimal.ofText (String.ofList (joinedParts whole fraction)) = .ok (.finite
      ⟨false, Nat.ofDigitChars 10 (whole ++ fraction) 0, -(fraction.length : ℤ)⟩) := by
  have hlength : (whole ++ fraction).length ≤ 200 := by
    rw [List.length_append]
    exact hfew
  have hplaces : (fraction.length : ℤ) ≤ 200 := by omega
  have hsmall : Nat.ofDigitChars 10 (whole ++ fraction) 0 < 10 ^ 200 :=
    (ofDigitChars_lt_pow h).trans_le (Nat.pow_le_pow_right (by norm_num) hlength)
  have hcount := (digitCount_le_iff (by norm_num)).mpr hsmall
  rw [Decimal.ofText, readNumeral_joinedParts h]
  refine if_pos ?_
  generalize Nat.ofDigitChars 10 (whole ++ fraction) 0 = n at hcount
  rw [DecimalContext.holds]
  split_ifs
  · rw [Bool.and_eq_true_iff, decide_eq_true_iff, decide_eq_true_iff]
    simp only [DecimalContext.etiny, DecimalContext.widestContext]
    omega
  · rw [Bool.and_eq_true_iff, decide_eq_true_iff, decide_eq_true_iff]
    simp only [DecimalContext.target, DecimalContext.widest, DecimalContext.etiny,
      DecimalContext.etop, DecimalContext.widestContext]
    omega

end

/-! ## The parts of a number's text -/

/-- Digits with a point at any place begin with a digit. -/
theorem pointedDigits_head {digits : String} (hne : digits.toList ≠ [])
    (hdigit : ∀ c ∈ digits.toList, c.isDigit = true) (place : ℤ) :
    ∃ c rest, (pointedDigits digits place).toList = c :: rest ∧ c.isDigit = true := by
  obtain ⟨c, rest, hcons⟩ := List.exists_cons_of_ne_nil hne
  have hc : c.isDigit = true := hdigit c (by simp [hcons])
  rw [pointedDigits]
  split_ifs with hbefore hafter
  · rw [String.append_assoc, String.toList_append]
    exact ⟨'0', _, rfl, by decide⟩
  · rw [String.toList_append, hcons]
    exact ⟨c, _, rfl, hc⟩
  · obtain ⟨k, hk⟩ : ∃ k, place.toNat = k + 1 := ⟨place.toNat - 1, by omega⟩
    rw [String.append_assoc, String.toList_append, String.toList_ofList, hcons, hk,
      List.take_succ_cons]
    exact ⟨c, _, rfl, hc⟩

/-- The two parts of a number's digits with a point at any place are digits, and stand for the
number, moved by as many places. -/
theorem pointedDigits_parts (n : ℕ) (place : ℤ) :
    (∀ c ∈ wholePart (pointedDigits (toString n) place).toList ++
      fractionPart (pointedDigits (toString n) place).toList, c.isDigit = true) ∧
    partsValue (wholePart (pointedDigits (toString n) place).toList)
      (fractionPart (pointedDigits (toString n) place).toList) =
        n * 10 ^ (place - (toString n).length) := by
  have hread := readNumeral_pointedDigits n place
  have hdigits : ∀ c ∈ (toString n).toList, c.isDigit = true := by
    intro c hc
    rw [Nat.toString_eq_ofList_toDigits, String.toList_ofList] at hc
    exact Nat.isDigit_of_mem_toDigits (by decide) (by decide) hc
  have hne : (toString n).toList ≠ [] := by
    rw [Nat.toString_eq_ofList_toDigits, String.toList_ofList, ← List.length_pos_iff]
    exact Nat.length_toDigits_pos
  generalize hshift : place - ((toString n).length : ℤ) = shift at *
  generalize toString n = digits at *
  obtain ⟨c, rest, hhead, hc⟩ := pointedDigits_head hne hdigits place
  have hchars := plain_pointedDigits hdigits place
  -- the numeral is read by its parts, so the parts are digits of the number it is read as
  rw [readNumeral_plain hhead hc hchars, readFinite_plain hchars] at hread
  generalize (pointedDigits digits place).toList = chars at *
  have hparts : readDigits (wholePart chars ++ fractionPart chars) =
      some (n * 10 ^ shift.toNat) ∧ -((fractionPart chars).length : ℤ) = min shift 0 := by
    rw [Option.map_map, Option.map_eq_some_iff] at hread
    obtain ⟨m, hm, hfinite⟩ := hread
    rw [Function.comp_apply, Decimal.finite.injEq, FiniteDecimal.mk.injEq] at hfinite
    obtain ⟨-, hnumber, hplaces⟩ := hfinite
    rw [← hnumber]
    exact ⟨hm, by rw [← hplaces, zero_sub]; rfl⟩
  obtain ⟨hnumber, hplaces⟩ := hparts
  rw [readDigits] at hnumber
  split_ifs at hnumber with hall
  have hscale : (10 : ℚ) ^ shift.toNat * 10 ^ min shift 0 = 10 ^ shift := by
    rw [← zpow_natCast, ← zpow_add₀ (by norm_num)]
    congr 1
    omega
  refine ⟨List.all_eq_true.mp hall.2, ?_⟩
  rw [partsValue, Option.some_inj.mp hnumber, hplaces, ← hscale]
  push_cast
  ring

end
