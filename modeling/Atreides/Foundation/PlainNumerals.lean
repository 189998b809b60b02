import Mathlib.Data.List.TakeWhile
import Atreides.Foundation.Numeral

/-!
# Reading plain numerals

A numeral of digits with a point among them, or after or before all of them, is read as the
number its digits and its point stand for.

## Main results

* `readNumeral_whole`, `readNumeral_parts` — numerals without and with a point
* `readNumeral_pointedDigits` — the digits of a number, with the point at any place
-/

section

open scoped Characters

/-! ## Characters of a plain numeral -/

/-- A digit or a point. -/
def isPlainCharacter (c : Char) : Bool := c.isDigit || c = '.'

/-- Plain characters are read as they are. -/
theorem numeralCharacter_plain {c : Char} (h : isPlainCharacter c = true) :
    isBlank c = false ∧ c ≠ '_' ∧ numeralCharacter c = some c := by
  rw [isPlainCharacter, Bool.or_eq_true, decide_eq_true_iff] at h
  rcases h with h | rfl
  · have hrange : 48 ≤ c.toNat ∧ c.toNat ≤ 57 := by
      simpa [Char.isDigit, UInt32.le_iff_toNat_le] using h
    have hdigits : ∀ k < 10, isBlank (Char.ofNat (48 + k)) = false ∧ Char.ofNat (48 + k) ≠ '_' ∧
        numeralCharacter (Char.ofNat (48 + k)) = some (Char.ofNat (48 + k)) := by decide
    have hc : 48 + (c.toNat - 48) = c.toNat := by omega
    have hdigit := hdigits (c.toNat - 48) (by omega)
    rwa [hc, Char.ofNat_toNat] at hdigit
  · decide

/-- A text of plain characters is read as it is. -/
theorem numeralCharacters_plain {text : String}
    (h : ∀ c ∈ text.toList, isPlainCharacter c = true) :
    numeralCharacters text = some text.toList := by
  have hdrop : ∀ {chars : List Char}, (∀ c ∈ chars, isPlainCharacter c = true) →
      chars.dropWhile isBlank = chars := by
    intro chars hchars
    rw [List.dropWhile_eq_self_iff]
    intro hlength
    rw [(numeralCharacter_plain (hchars _ (List.getElem_mem hlength))).1]
    exact Bool.false_ne_true
  have hfilter : text.toList.filter (· ≠ '_') = text.toList := by
    rw [List.filter_eq_self]
    intro c hc
    simpa using (numeralCharacter_plain (h c hc)).2.1
  have hread : ∀ {chars : List Char}, (∀ c ∈ chars, isPlainCharacter c = true) →
      chars.mapM numeralCharacter = some chars := by
    intro chars hchars
    induction chars with
    | nil => rfl
    | cons c chars ih =>
      rw [List.mapM_cons, (numeralCharacter_plain (hchars c (by simp))).2.2,
        ih fun d hd => hchars d (by simp [hd])]
      rfl
  rw [numeralCharacters, stripped, String.toList_ofList, hdrop h,
    hdrop fun c hc => h c (List.mem_reverse.mp hc), List.reverse_reverse, hfilter, hread h]

/-! ## The number of a plain numeral -/

/-- A text that begins with a digit has no sign and is no name. -/
theorem readUnsigned_digit {c : Char} {rest : List Char} (hc : c.isDigit = true) :
    readSign (c :: rest) = (false, c :: rest) ∧
      readUnsigned false (c :: rest) = (readFinite false (c :: rest)).map .finite := by
  constructor
  · rw [readSign]
    · rintro rest' h
      rw [(List.cons.inj h).1] at hc
      exact absurd hc (by decide)
    · rintro rest' h
      rw [(List.cons.inj h).1] at hc
      exact absurd hc (by decide)
  · rw [readUnsigned]
    all_goals
      intro _ h
      rw [(List.cons.inj h).1] at hc
      exact absurd hc (by decide)

/-- What a number without a power of ten is read from. -/
theorem readFinite_plain {chars : List Char} (h : ∀ c ∈ chars, isPlainCharacter c = true) :
    readFinite false chars =
      (readDigits (chars.takeWhile (· ≠ '.') ++ (chars.dropWhile (· ≠ '.')).drop 1)).map
        fun n => ⟨false, n, 0 - (((chars.dropWhile (· ≠ '.')).drop 1).length : ℤ)⟩ := by
  have hmark : ∀ c ∈ chars, decide (c ≠ 'e') = true := by
    intro c hc
    rw [decide_eq_true_iff]
    rintro rfl
    exact absurd (h _ hc) (by decide)
  rw [readFinite, List.takeWhile_eq_self_iff.mpr hmark, List.dropWhile_eq_nil_iff.mpr hmark]
  simp only [readExponent, Option.bind_eq_bind, Option.bind_some]
  rcases readDigits (chars.takeWhile (· ≠ '.') ++ (chars.dropWhile (· ≠ '.')).drop 1) with _ | n
  · rfl
  · rfl

theorem readDigits_digits {chars : List Char} (hne : chars ≠ [])
    (h : ∀ c ∈ chars, c.isDigit = true) :
    readDigits chars = some (Nat.ofDigitChars 10 chars 0) := by
  rw [readDigits, if_pos ⟨hne, List.all_eq_true.mpr h⟩]

/-- A text of plain characters that begins with a digit is read as a finite number. -/
theorem readNumeral_plain {text : String} {c : Char} {rest : List Char}
    (htext : text.toList = c :: rest) (hc : c.isDigit = true)
    (h : ∀ d ∈ text.toList, isPlainCharacter d = true) :
    readNumeral text = (readFinite false text.toList).map .finite := by
  obtain ⟨hsign, hunsigned⟩ := @readUnsigned_digit c rest hc
  rw [readNumeral, numeralCharacters_plain h]
  simp only [Option.bind_eq_bind, Option.bind_some]
  rw [htext, hsign, hunsigned]

/-- A text of digits is read as their number. -/
theorem readNumeral_whole {text : String} {digits : List Char} (htext : text.toList = digits)
    (hne : digits ≠ []) (h : ∀ c ∈ digits, c.isDigit = true) :
    readNumeral text = some (.finite ⟨false, Nat.ofDigitChars 10 digits 0, 0⟩) := by
  have hplain : ∀ c ∈ digits, isPlainCharacter c = true := fun c hc => by
    rw [isPlainCharacter, h c hc, Bool.true_or]
  have hpoint : ∀ c ∈ digits, decide (c ≠ '.') = true := by
    intro c hc
    rw [decide_eq_true_iff]
    rintro rfl
    exact absurd (h _ hc) (by decide)
  obtain ⟨c, rest, hdigits⟩ := List.exists_cons_of_ne_nil hne
  rw [readNumeral_plain (htext.trans hdigits) (h c (by simp [hdigits]))
    (fun d hd => hplain d (htext ▸ hd)), htext, readFinite_plain hplain,
    List.takeWhile_eq_self_iff.mpr hpoint, List.dropWhile_eq_nil_iff.mpr hpoint, List.drop_nil,
    List.append_nil, readDigits_digits hne h]
  rfl

/-- A point divides the number by ten for every digit after it. -/
theorem readNumeral_parts {text : String} {whole fraction : List Char}
    (htext : text.toList = whole ++ '.' :: fraction) (hne : whole ≠ [])
    (hwhole : ∀ c ∈ whole, c.isDigit = true) (hfraction : ∀ c ∈ fraction, c.isDigit = true) :
    readNumeral text = some (.finite
      ⟨false, Nat.ofDigitChars 10 (whole ++ fraction) 0, 0 - (fraction.length : ℤ)⟩) := by
  have hplain : ∀ c ∈ whole ++ '.' :: fraction, isPlainCharacter c = true := by
    intro c hc
    rw [isPlainCharacter, Bool.or_eq_true, decide_eq_true_iff]
    rcases List.mem_append.mp hc with hc | hc
    · exact .inl (hwhole c hc)
    · rcases List.mem_cons.mp hc with hc | hc
      · exact .inr hc
      · exact .inl (hfraction c hc)
  have hpoint : ∀ c ∈ whole, decide (c ≠ '.') = true := by
    intro c hc
    rw [decide_eq_true_iff]
    rintro rfl
    exact absurd (hwhole _ hc) (by decide)
  obtain ⟨htake, hdrop⟩ := @takeWhile_dropWhile_append _ _ ('.' :: fraction) hpoint
    (by rintro c ⟨⟩; decide)
  obtain ⟨c, rest, hcons⟩ := List.exists_cons_of_ne_nil hne
  have hstart : text.toList = c :: (rest ++ '.' :: fraction) := by
    rw [htext, hcons, List.cons_append]
  rw [readNumeral_plain hstart (hwhole c (by simp [hcons]))
    (fun d hd => hplain d (htext ▸ hd)), htext, readFinite_plain hplain, htake, hdrop,
    List.drop_one, List.tail_cons, readDigits_digits (by simp [hne])
      (fun d hd => (List.mem_append.mp hd).elim (hwhole d) (hfraction d))]
  rfl

/-! ## Digits with a point among them -/

/-- Digits with a point at any place begin with a digit and are plain. -/
theorem plain_pointedDigits {digits : String} (hdigit : ∀ c ∈ digits.toList, c.isDigit = true)
    (place : ℤ) : ∀ c ∈ (pointedDigits digits place).toList, isPlainCharacter c = true := by
  have hplain : ∀ {c : Char}, c.isDigit = true → isPlainCharacter c = true := fun h => by
    rw [isPlainCharacter, h, Bool.true_or]
  have hzeros : ∀ {k : ℕ}, ∀ c ∈ (String.ofList (List.replicate k '0')).toList,
      isPlainCharacter c = true := by
    intro k c hc
    rw [String.toList_ofList] at hc
    rw [List.eq_of_mem_replicate hc]
    decide
  intro c hc
  rw [pointedDigits] at hc
  split_ifs at hc with hbefore hafter
  · rw [String.toList_append, String.toList_append, List.mem_append, List.mem_append] at hc
    rcases hc with (hc | hc) | hc
    · revert c
      decide
    · exact hzeros c hc
    · exact hplain (hdigit c hc)
  · rw [String.toList_append, List.mem_append] at hc
    rcases hc with hc | hc
    · exact hplain (hdigit c hc)
    · exact hzeros c hc
  · rw [String.toList_append, String.toList_append, List.mem_append, List.mem_append] at hc
    simp only [String.toList_ofList] at hc
    rcases hc with (hc | hc) | hc
    · exact hplain (hdigit c (List.mem_of_mem_take hc))
    · revert c
      decide
    · exact hplain (hdigit c (List.mem_of_mem_drop hc))

/-- The digits of a number with a point at a place are read as the number, moved by as many
places. -/
theorem readNumeral_pointedDigits (n : ℕ) (place : ℤ) :
    readNumeral (pointedDigits (toString n) place) = some (.finite
      ⟨false, n * 10 ^ (place - (toString n).length).toNat,
        min (place - (toString n).length) 0⟩) := by
  have hzero : ∀ {k : ℕ}, ∀ c ∈ List.replicate k '0', c.isDigit = true := by
    intro k c hc
    rw [List.eq_of_mem_replicate hc]
    decide
  have hchars : (toString n).toList = Nat.toDigits 10 n := by
    rw [Nat.toString_eq_ofList_toDigits, String.toList_ofList]
  have hdigit : ∀ c ∈ (toString n).toList, c.isDigit = true := fun c hc =>
    Nat.isDigit_of_mem_toDigits (by decide) (by decide) (hchars ▸ hc)
  have hnumber : Nat.ofDigitChars 10 (toString n).toList 0 = n := by
    rw [hchars, Nat.ofDigitChars_ten_toDigits]
  have hlength : (toString n).toList.length = (toString n).length := String.length_toList
  have hpos : 0 < (toString n).length := by
    rw [← hlength, hchars]
    exact Nat.length_toDigits_pos
  have hnought : ∀ text : String, ("0." ++ text).toList = '0' :: '.' :: text.toList := fun text =>
    String.toList_append
  have hpoint : ∀ text : String, ("." ++ text).toList = '.' :: text.toList := fun text =>
    String.toList_append
  generalize toString n = digits at *
  have hne : digits.toList ≠ [] := by
    rw [← List.length_pos_iff, hlength]
    exact hpos
  rw [pointedDigits]
  by_cases hbefore : place ≤ 0
  · have htext : ("0." ++ String.ofList (List.replicate (-place).toNat '0') ++ digits).toList =
        ['0'] ++ '.' :: (List.replicate (-place).toNat '0' ++ digits.toList) := by
      rw [String.append_assoc, hnought, String.toList_append, String.toList_ofList]
      rfl
    have hnone : (place - digits.length).toNat = 0 := by omega
    have hplaces : min (place - digits.length) 0 =
        0 - ((List.replicate (-place).toNat '0' ++ digits.toList).length : ℤ) := by
      rw [List.length_append, List.length_replicate, hlength]
      omega
    have hcoefficient : Nat.ofDigitChars 10
        (['0'] ++ (List.replicate (-place).toNat '0' ++ digits.toList)) 0 = n := by
      rw [Nat.ofDigitChars_append, Nat.ofDigitChars_append, Nat.ofDigitChars_replicate_zero]
      exact hnumber
    rw [if_pos hbefore, readNumeral_parts htext (by decide) (by decide)
      (fun c hc => (List.mem_append.mp hc).elim (hzero c) (hdigit c)), hcoefficient, hplaces,
      hnone, pow_zero, mul_one]
  · rw [if_neg hbefore]
    by_cases hafter : digits.length ≤ place
    · have htext : (digits ++ String.ofList
          (List.replicate (place.toNat - digits.length) '0')).toList =
            digits.toList ++ List.replicate (place.toNat - digits.length) '0' := by
        rw [String.toList_append, String.toList_ofList]
      have hzeros : (place - digits.length).toNat = place.toNat - digits.length := by omega
      have hplaces : min (place - digits.length) 0 = 0 := by omega
      rw [if_pos hafter, readNumeral_whole htext
        (List.append_ne_nil_of_left_ne_nil hne _)
        (fun c hc => (List.mem_append.mp hc).elim (hdigit c) (hzero c)),
        Nat.ofDigitChars_append, hnumber, Nat.ofDigitChars_replicate_zero, hzeros, hplaces,
        mul_comm]
    · have htext : (String.ofList (digits.toList.take place.toNat) ++ "." ++
          String.ofList (digits.toList.drop place.toNat)).toList =
            digits.toList.take place.toNat ++ '.' :: digits.toList.drop place.toNat := by
        rw [String.append_assoc, String.toList_append, hpoint, String.toList_ofList,
          String.toList_ofList]
      have hnone : (place - digits.length).toNat = 0 := by omega
      have hplaces : min (place - digits.length) 0 =
          0 - ((digits.toList.drop place.toNat).length : ℤ) := by
        rw [List.length_drop, hlength]
        omega
      have hwhole : digits.toList.take place.toNat ≠ [] := by
        rw [← List.length_pos_iff, List.length_take, hlength]
        omega
      rw [if_neg hafter, readNumeral_parts htext hwhole
        (fun c hc => hdigit c (List.mem_of_mem_take hc))
        (fun c hc => hdigit c (List.mem_of_mem_drop hc)), List.take_append_drop, hnumber,
        hplaces, hnone, pow_zero, mul_one]

end
