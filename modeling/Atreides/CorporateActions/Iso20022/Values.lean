import Atreides.CorporateActions.Iso20022.Adapter
import Atreides.Messaging.EmitReading

/-!
# Values read back

What the adapter writes for a value it reads back: a number as the same number, a date as the
date, a code as what it stands for. Texts of visible characters are kept as they are, and an
identifier is carried with the blanks it has.

## Main definitions

* `Kept` — a text that is carried unchanged and not shortened
* `WrittenNumber` — a text that is read as a number

## Main results

* `decimal_written` — a value within its limits is read as the same number
* `eventIdentifier_carried`, `accountIdentifier_carried` — identifiers are carried
-/

namespace Atreides

namespace CorporateActions

namespace Iso20022

open XmlElement XmlText

open CustomerProtection (NonNegativeMoney)

open scoped Characters

/-! ## Texts -/

/-- A text without blanks is not shortened. -/
theorem stripped_of_not_blank {text : String} (h : ∀ c ∈ text.toList, isBlank c = false) :
    stripped text = text := by
  have hdrop : ∀ {chars : List Char}, (∀ c ∈ chars, isBlank c = false) →
      chars.dropWhile isBlank = chars := by
    intro chars hchars
    rw [List.dropWhile_eq_self_iff]
    intro hlength
    rw [hchars _ (List.getElem_mem hlength)]
    exact Bool.false_ne_true
  rw [stripped, hdrop h, hdrop fun c hc => h c (List.mem_reverse.mp hc), List.reverse_reverse,
    String.ofList_toList]

/-- A printable character without an accent, and not a blank. -/
def isVisible (c : Char) : Bool := 33 ≤ c.toNat && c.toNat ≤ 126

/-- A visible character is one a document holds, and no blank. -/
theorem of_isVisible {c : Char} (h : isVisible c = true) :
    isXmlChar c = true ∧ c ≠ carriageReturn ∧ isBlank c = false := by
  rw [isVisible, Bool.and_eq_true, decide_eq_true_iff, decide_eq_true_iff] at h
  refine ⟨?_, ?_, ?_⟩
  · have hplain : (32 ≤ c.toNat && c.toNat ≠ 0xFFFE && c.toNat ≠ 0xFFFF) = true := by
      simp only [Bool.and_eq_true, decide_eq_true_iff]
      omega
    rw [isXmlChar, hplain, Bool.or_true]
  · rintro rfl
    exact absurd h.1 (by decide)
  · rw [isBlank]
    simp only [Bool.or_eq_false_iff, Bool.and_eq_false_iff, decide_eq_false_iff_not]
    omega

/-- A text of visible characters: a document carries it unchanged, and a reader does not shorten
it. -/
structure Kept (text : String) : Prop where
  carried : CarriedText text
  whole : stripped text = text
  visible : ∀ c ∈ text.toList, isVisible c = true

theorem kept_of_visible {text : String} (hne : text ≠ "")
    (h : ∀ c ∈ text.toList, isVisible c = true) : Kept text := by
  refine ⟨⟨hne, fun c hc => ?_⟩, stripped_of_not_blank fun c hc => (of_isVisible (h c hc)).2.2, h⟩
  exact ⟨(of_isVisible (h c hc)).1, (of_isVisible (h c hc)).2.1⟩

theorem isVisible_of_isDigit {c : Char} (h : c.isDigit = true) : isVisible c = true := by
  have hrange : 48 ≤ c.toNat ∧ c.toNat ≤ 57 := by
    simpa [Char.isDigit, UInt32.le_iff_toNat_le] using h
  rw [isVisible, Bool.and_eq_true, decide_eq_true_iff, decide_eq_true_iff]
  omega

theorem kept_isoformat (date : Date) : Kept date.isoformat := by
  apply kept_of_visible
  · intro hempty
    have hread := date.fromisoformat_isoformat
    rw [hempty] at hread
    cases hread
  · intro c hc
    rcases Date.isDigit_or_dash_of_mem_isoformat hc with hdigit | rfl
    · exact isVisible_of_isDigit hdigit
    · decide

/-! ## Numbers -/

/-- A text that is kept, and read as a number. -/
def WrittenNumber (text : String) (number : ℚ) : Prop :=
  Kept text ∧ ∃ read : FiniteDecimal, read.value = number ∧
    ∀ what, parseDecimal text what = .ok read

theorem parseDecimal_eq_ok {text what : String} {value : FiniteDecimal}
    (h : Decimal.ofText text = .ok (.finite value)) : parseDecimal text what = .ok value := by
  rw [parseDecimal, h]

/-- The two parts of a number's plain text are digits, and stand for the number. -/
theorem plainText_parts {d : FiniteDecimal} (hd : d.negative = false) :
    (∀ c ∈ wholePart (FiniteDecimal.plainText d).toList ++
      fractionPart (FiniteDecimal.plainText d).toList, c.isDigit = true) ∧
    partsValue (wholePart (FiniteDecimal.plainText d).toList)
      (fractionPart (FiniteDecimal.plainText d).toList) = d.value := by
  have hvalue : d.value = d.coefficient * 10 ^ d.exponent := by
    rw [FiniteDecimal.value, FiniteDecimal.toInt, hd]
    rfl
  have htext : ∀ place, (if d.negative = true then "-" else "") ++
      pointedDigits (toString d.coefficient) place =
        pointedDigits (toString d.coefficient) place := by
    intro place
    rw [hd, if_neg Bool.false_ne_true, String.empty_append]
  rw [FiniteDecimal.plainText, htext]
  split_ifs with hzero
  · -- a zero is written without the places its exponent leaves empty
    have hparts := pointedDigits_parts d.coefficient ((toString d.coefficient).length : ℤ)
    rw [sub_self, zpow_zero, mul_one] at hparts
    refine ⟨hparts.1, hparts.2.trans ?_⟩
    rw [hvalue, hzero.1, Nat.cast_zero, zero_mul]
  · have hparts := pointedDigits_parts d.coefficient
      (d.exponent + (toString d.coefficient).length : ℤ)
    rw [add_sub_cancel_right] at hparts
    rwa [hvalue]

/-- A number that is not below zero and has a sign is a zero. -/
theorem coefficient_eq_zero_of_negative {d : FiniteDecimal} (hnonneg : ¬ d.lt 0 = true)
    (hnegative : d.negative = true) : d.coefficient = 0 := by
  rw [FiniteDecimal.lt_iff, FiniteDecimal.value_zero, not_lt] at hnonneg
  rw [← FiniteDecimal.value_eq_zero_iff]
  have hmagnitude := d.magnitude_nonneg
  rw [FiniteDecimal.value_eq_magnitude, if_pos hnegative] at hnonneg ⊢
  linarith

/-- The text of a zero with a sign is the sign and a zero, and then nothing or a point and more
zeros. -/
theorem plainText_negativeZero {d : FiniteDecimal} (hnegative : d.negative = true)
    (hzero : d.coefficient = 0) :
    (FiniteDecimal.plainText d).toList = ['-', '0'] ∨
      ∃ k, (FiniteDecimal.plainText d).toList = '-' :: '0' :: '.' :: List.replicate k '0' := by
  have hdigits : toString (0 : ℕ) = "0" := rfl
  have hlength : "0".length = 1 := rfl
  have hchars : "0".toList = ['0'] := rfl
  have hpoint : "0.".toList = ['0', '.'] := rfl
  rw [FiniteDecimal.plainText, hnegative, hzero, hdigits, hlength, if_pos rfl]
  by_cases hexponent : 0 ≤ d.exponent
  · left
    have hplace : (if 0 = 0 ∧ 0 < d.exponent then ((1 : ℕ) : ℤ) else d.exponent + (1 : ℕ)) = 1 := by
      split_ifs <;> omega
    rw [hplace]
    rfl
  · right
    have hplace : (if 0 = 0 ∧ 0 < d.exponent then ((1 : ℕ) : ℤ) else d.exponent + (1 : ℕ)) =
        d.exponent + 1 := by
      rw [if_neg (by omega)]
      rfl
    rw [hplace, pointedDigits, if_pos (by omega)]
    refine ⟨(-(d.exponent + 1)).toNat + 1, ?_⟩
    have hzeros : (String.ofList (List.replicate (-(d.exponent + 1)).toNat '0')).toList =
        List.replicate (-(d.exponent + 1)).toNat '0' := String.toList_ofList
    rw [String.toList_append, String.toList_append, String.toList_append, hzeros, hpoint, hchars,
      List.replicate_succ']
    rfl

/-- A zero with a sign is written as one digit after the sign. -/
theorem negativeZero_parts {d : FiniteDecimal} (hnegative : d.negative = true)
    (hzero : d.coefficient = 0) :
    joinedParts ((wholePart (FiniteDecimal.plainText d).toList).dropWhile (· = '0'))
      ((fractionPart (FiniteDecimal.plainText d).toList).rdropWhile (· = '0')) =
        ['-', '0'] := by
  rcases plainText_negativeZero hnegative hzero with hchars | ⟨k, hchars⟩
  · rw [hchars]
    decide
  · have hwhole : wholePart ('-' :: '0' :: '.' :: List.replicate k '0') = ['-', '0'] := rfl
    have hfraction : fractionPart ('-' :: '0' :: '.' :: List.replicate k '0') =
        List.replicate k '0' := rfl
    have hnone : (List.replicate k '0').rdropWhile (· = '0') = [] := by
      rw [List.rdropWhile_eq_nil_iff]
      intro c hc
      rw [List.eq_of_mem_replicate hc]
      decide
    rw [hchars, hwhole, hfraction, hnone]
    decide

/-- A value within its limits is read as the same number. -/
theorem decimal_written {value : FiniteDecimal} {digits : DigitLimits} {what text : String}
    (hfew : digits.total ≤ 200) (h : decimal value digits what = .ok text) :
    WrittenNumber text value.value := by
  rw [decimal, Outcome.bind_eq_ok] at h
  obtain ⟨_, hnonneg, h⟩ := h
  rw [Outcome.refuseIf_eq_ok] at hnonneg
  rw [Outcome.bind_eq_ok] at h
  obtain ⟨_, hlimits, h⟩ := h
  rw [Outcome.refuseIf_eq_ok, not_or, not_lt, not_lt] at hlimits
  cases h
  rcases hnegative : value.negative with _ | _
  · obtain ⟨hdigits, hvalue⟩ := plainText_parts hnegative
    generalize wholePart (FiniteDecimal.plainText value).toList = whole at *
    generalize fractionPart (FiniteDecimal.plainText value).toList = fraction at *
    have htrimmed : ∀ c ∈ whole.dropWhile (· = '0') ++ fraction.rdropWhile (· = '0'),
        c.isDigit = true := by
      intro c hc
      apply hdigits
      rw [List.mem_append] at hc ⊢
      rcases hc with hc | hc
      · exact .inl ((List.dropWhile_suffix _).subset hc)
      · exact .inr ((List.rdropWhile_prefix _ _).subset hc)
    have hread := ofText_joinedParts htrimmed (hlimits.1.trans hfew)
    refine ⟨kept_of_visible ?_ ?_, _, ?_, fun what => parseDecimal_eq_ok hread⟩
    · intro hempty
      rw [← String.toList_eq_nil_iff, String.toList_ofList] at hempty
      exact joinedParts_ne_nil hempty
    · intro c hc
      rw [String.toList_ofList] at hc
      rcases mem_joinedParts hc with rfl | rfl | hc
      · decide
      · decide
      · exact isVisible_of_isDigit (htrimmed c hc)
    · rw [← hvalue, ← partsValue_trimmed, partsValue, FiniteDecimal.value, FiniteDecimal.toInt]
      rfl
  · have hzero := coefficient_eq_zero_of_negative hnonneg hnegative
    have hread : Decimal.ofText (String.ofList ['-', '0']) = .ok (.finite ⟨true, 0, 0⟩) := by
      decide +kernel
    rw [negativeZero_parts hnegative hzero, FiniteDecimal.value_eq_zero_iff.mpr hzero]
    refine ⟨kept_of_visible (by decide) (by decide), ⟨true, 0, 0⟩, ?_,
      fun what => parseDecimal_eq_ok hread⟩
    exact FiniteDecimal.value_eq_zero_iff.mpr rfl

/-! ## Identifiers -/

theorem isVisible_of_isNameChar {c : Char} (h : isNameChar c = true) : isVisible c = true := by
  have hmarks : ∀ d ∈ ['.', '-', '_'], isVisible d = true := by decide
  rw [isNameChar_eq] at h
  simp only [Bool.or_eq_true, Bool.and_eq_true, decide_eq_true_iff] at h
  have hrange : ∀ {low high : UInt32}, 33 ≤ low.toNat → high.toNat ≤ 126 → c.val ≥ low →
      c.val ≤ high → isVisible c = true := by
    intro low high hlow hhigh hge hle
    rw [ge_iff_le, UInt32.le_iff_toNat_le] at hge
    rw [UInt32.le_iff_toNat_le] at hle
    rw [isVisible, Bool.and_eq_true, decide_eq_true_iff, decide_eq_true_iff]
    exact ⟨hlow.trans hge, hle.trans hhigh⟩
  rcases h with ((h | h) | h) | h
  · rcases h with (h | h) | h
    · exact hrange (by decide) (by decide) h.1 h.2
    · exact hrange (by decide) (by decide) h.1 h.2
    · exact hrange (by decide) (by decide) h.1 h.2
  · exact hmarks c (by simp [h])
  · exact hmarks c (by simp [h])
  · exact hmarks c (by simp [h])

/-- A character of an identifier is visible or a space. -/
theorem visible_or_space {c : Char} (h : isFinxChar c = true ∨ c = '/') :
    isVisible c = true ∨ c = ' ' := by
  have hmarks : ∀ d ∈ ['-', '?', ':', '(', ')', '.', ',', singleQuote, '+', ' ', '/'],
      isVisible d = true ∨ d = ' ' := by decide
  rcases h with h | rfl
  · rw [isFinxChar, Bool.or_eq_true, decide_eq_true_iff] at h
    rcases h with h | h
    · left
      apply isVisible_of_isNameChar
      rw [isNameChar, h, Bool.true_or, Bool.true_or, Bool.true_or]
    · exact hmarks c (by simp at h ⊢; tauto)
  · exact hmarks '/' (by decide)

theorem mem_isSlashed {chars : List Char} (h : isSlashed chars = true) :
    ∀ c ∈ chars, isFinxChar c = true ∨ c = '/' := by
  induction chars with
  | nil =>
    intro c hc
    exact absurd hc List.not_mem_nil
  | cons first rest ih =>
    intro c hc
    by_cases hslash : first = '/'
    · subst hslash
      rw [isSlashed, Bool.and_eq_true] at h
      rcases List.mem_cons.mp hc with rfl | hc
      · exact .inr rfl
      · exact ih h.2 c hc
    · rw [isSlashed, Bool.and_eq_true] at h
      · rcases List.mem_cons.mp hc with rfl | hc
        · exact .inl h.1
        · exact ih h.2 c hc
      · exact hslash

/-- What a check of an identifier promises. -/
theorem checked_eq_ok {value what text : String} {pattern : String → Bool} {maximum : ℕ}
    (h : checked value pattern what maximum = .ok text) :
    text = value ∧ value ≠ "" ∧ pattern value = true := by
  rw [checked, Outcome.bind_eq_ok] at h
  obtain ⟨_, hpass, h⟩ := h
  rw [Outcome.refuseIf_eq_ok, not_or, not_or, Bool.not_eq_false] at hpass
  cases h
  refine ⟨rfl, ?_, hpass.2.2⟩
  rintro rfl
  exact hpass.1 (by decide)

/-- A text of such characters is carried, whatever blanks it has. -/
theorem carriedText_of_finx {text : String} (hne : text ≠ "")
    (h : ∀ c ∈ text.toList, isFinxChar c = true ∨ c = '/') : CarriedText text := by
  refine ⟨hne, fun c hc => ?_⟩
  rcases visible_or_space (h c hc) with hvisible | rfl
  · exact ⟨(of_isVisible hvisible).1, (of_isVisible hvisible).2.1⟩
  · decide

theorem eventIdentifier_carried {value text : String} (h : eventIdentifier value = .ok text) :
    text = value ∧ CarriedText value := by
  obtain ⟨hsame, hne, hpattern⟩ := checked_eq_ok h
  rw [matchesFinx16, Bool.and_eq_true] at hpattern
  exact ⟨hsame, carriedText_of_finx hne (mem_isSlashed hpattern.2)⟩

theorem accountIdentifier_carried {value text : String} (h : accountIdentifier value = .ok text) :
    text = value ∧ CarriedText value := by
  obtain ⟨hsame, hne, hpattern⟩ := checked_eq_ok h
  rw [matchesFinx35, Bool.and_eq_true, List.all_eq_true] at hpattern
  refine ⟨hsame, carriedText_of_finx hne fun c hc => ?_⟩
  have hc := hpattern.2 c hc
  rwa [Bool.or_eq_true, decide_eq_true_iff] at hc

theorem isVisible_of_isCapital {c : Char} (h : isCapital c = true) : isVisible c = true := by
  rw [isCapital, Bool.and_eq_true, decide_eq_true_iff, decide_eq_true_iff] at h
  have hlow : 65 ≤ c.toNat := h.1
  have hhigh : c.toNat ≤ 90 := h.2
  rw [isVisible, Bool.and_eq_true, decide_eq_true_iff, decide_eq_true_iff]
  omega

theorem isVisible_of_isAsciiDigit {c : Char} (h : isAsciiDigit c = true) :
    isVisible c = true := by
  rw [isAsciiDigit, Bool.and_eq_true, decide_eq_true_iff, decide_eq_true_iff] at h
  have hlow : 48 ≤ c.toNat := h.1
  have hhigh : c.toNat ≤ 57 := h.2
  rw [isVisible, Bool.and_eq_true, decide_eq_true_iff, decide_eq_true_iff]
  omega

theorem kept_isin {text : String} (h : isIsin text = true) : Kept text := by
  simp only [isIsin, Bool.and_eq_true, List.all_eq_true, decide_eq_true_iff] at h
  obtain ⟨⟨⟨hlength, hcountry⟩, hmiddle⟩, hcheck⟩ := h
  apply kept_of_visible
  · rintro rfl
    exact absurd hlength (by decide)
  · intro c hc
    rw [← List.take_append_drop 2 text.toList, List.mem_append] at hc
    rcases hc with hc | hc
    · exact isVisible_of_isCapital (hcountry c hc)
    rw [← List.take_append_drop 9 (text.toList.drop 2), List.drop_drop, List.mem_append] at hc
    rcases hc with hc | hc
    · have hc := hmiddle c hc
      rw [Bool.or_eq_true] at hc
      exact hc.elim isVisible_of_isCapital isVisible_of_isAsciiDigit
    · exact isVisible_of_isAsciiDigit (hcheck c hc)

theorem kept_optionNumber {text : String} (h : isOptionNumber text = true) : Kept text := by
  rw [isOptionNumber, Bool.and_eq_true, decide_eq_true_iff, List.all_eq_true] at h
  apply kept_of_visible
  · rintro rfl
    exact absurd h.1 (by decide)
  · exact fun c hc => isVisible_of_isAsciiDigit (h.2 c hc)

theorem nonEmpty_eq_ok {text : String} {named : { text : String // required text = .ok () }} :
    nonEmpty text = .ok named ↔ named.1 = text := by
  rw [nonEmpty, Outcome.checked_eq_ok]
  constructor
  · rintro ⟨_, rfl⟩
    rfl
  · rintro rfl
    exact ⟨named.2, rfl⟩

/-- A number that is read as one that is not negative is not negative. -/
theorem check_of_value {money : NonNegativeMoney} {read : FiniteDecimal}
    (h : read.value = money.amount.value) :
    ∃ money', NonNegativeMoney.check (.finite read) = .ok money' ∧
      money'.amount.value = money.amount.value := by
  have hnonneg : FiniteDecimal.le 0 read = true := by
    rw [FiniteDecimal.le_iff, FiniteDecimal.value_zero, h]
    exact money.value_nonneg
  exact ⟨⟨read, hnonneg⟩, dif_pos hnonneg, h⟩

theorem isXmlChar_of_currency {currency : String} (h : isCurrencyCode currency = true) :
    ∀ c ∈ currency.toList, isXmlChar c = true := by
  intro c hc
  rw [isCurrencyCode, Bool.and_eq_true, List.all_eq_true] at h
  exact (of_isVisible (isVisible_of_isCapital (h.2 c hc))).1

/-! ## Codes -/

theorem lookup_eventTypes (event : EventType) : lookup eventTypes (eventCode event) = some event := by
  cases event <;> decide

theorem lookup_participations (participation : Participation) :
    lookup participations (participationCode participation) = some participation := by
  cases participation <;> decide

theorem lookup_optionTypes (option : OptionType) :
    lookup optionTypes (optionCode option) = some option := by
  cases option <;> decide

theorem kept_eventCode (event : EventType) : Kept (eventCode event) := by
  cases event <;> exact kept_of_visible (by decide) (by decide)

theorem kept_participationCode (participation : Participation) :
    Kept (participationCode participation) := by
  cases participation <;> exact kept_of_visible (by decide) (by decide)

theorem kept_optionCode (option : OptionType) : Kept (optionCode option) := by
  cases option <;> exact kept_of_visible (by decide) (by decide)

end Iso20022

end CorporateActions

end Atreides
