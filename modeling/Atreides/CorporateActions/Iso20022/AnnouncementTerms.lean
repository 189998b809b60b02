import Atreides.CorporateActions.Iso20022.Announcements
import Atreides.CorporateActions.Iso20022.Opening
import Atreides.Foundation.Decimal.Division

/-!
# Terms in an announcement

What the one option of a mandatory event says of its terms, and what is read of it. The option has
room for one figure in cash, which is read under the name that the event's class gives it, or for
one ratio. A rate of securities is written as a ratio of whole numbers and read as their quotient.

## Main definitions

* `CarriesTerms` — the terms that an announcement of an event carries whole

## Main results

* `readPrice_written` — the text of a reinvestment price is read as its currency and its price
* `termsRead_cash`, `termsRead_ratio` — which terms are read as they were stated
-/

namespace Atreides

namespace CorporateActions

namespace Iso20022

open XmlElement XmlText

open CustomerProtection (NonNegativeMoney)

open DecimalContext (ambient)

open scoped Characters

/-! ## Texts of a price -/

/-- A text is not shortened where neither its first character is blank nor its last. -/
theorem stripped_of_ends {text : String} (hfirst : ∀ c ∈ text.toList.head?, isBlank c = false)
    (hlast : ∀ c ∈ text.toList.getLast?, isBlank c = false) : stripped text = text := by
  have hdrop : ∀ {chars : List Char}, (∀ c ∈ chars.head?, isBlank c = false) →
      chars.dropWhile isBlank = chars := by
    intro chars hchars
    cases chars with
    | nil => rfl
    | cons c chars => exact List.dropWhile_cons_of_neg (by rw [hchars c rfl]; decide)
  rw [stripped, hdrop hfirst, hdrop, List.reverse_reverse, String.ofList_toList]
  intro c hc
  rw [List.head?_reverse] at hc
  exact hlast c hc

theorem isVisible_of_currency {currency : String} (h : isCurrencyCode currency = true) :
    currency ≠ "" ∧ ∀ c ∈ currency.toList, isVisible c = true := by
  rw [isCurrencyCode, Bool.and_eq_true, decide_eq_true_iff, List.all_eq_true] at h
  refine ⟨?_, fun c hc => isVisible_of_isCapital (h.2 c hc)⟩
  rintro rfl
  exact absurd h.1 (by decide)

/-- The text of a reinvestment price. -/
def priceText (currency text : String) : String := reinvestmentMark ++ currency ++ " " ++ text

section

variable {currency text : String}

theorem priceText_toList : (priceText currency text).toList =
    reinvestmentMark.toList ++ (currency.toList ++ ' ' :: text.toList) := by
  rw [priceText, String.toList_append, String.toList_append, String.toList_append,
    List.append_assoc, List.append_assoc]
  rfl

theorem space_not_mem (h : ∀ c ∈ text.toList, isVisible c = true) : ' ' ∉ text.toList := by
  intro hmem
  exact absurd (h ' ' hmem) (by decide)

/-- The text of a price is carried, and not shortened. -/
theorem priceText_carried (hcode : isCurrencyCode currency = true) (htext : Kept text) :
    CarriedText (priceText currency text) ∧
      stripped (priceText currency text) = priceText currency text := by
  have hcurrency := (isVisible_of_currency hcode).2
  have hmark : ∀ c ∈ reinvestmentMark.toList, isXmlChar c = true ∧ c ≠ carriageReturn := by
    decide
  have hspace : isXmlChar ' ' = true ∧ ' ' ≠ carriageReturn := by decide
  refine ⟨⟨?_, ?_⟩, stripped_of_ends ?_ ?_⟩
  · intro hempty
    rw [← String.toList_eq_nil_iff, priceText_toList] at hempty
    cases hempty
  · intro c hc
    rw [priceText_toList, List.mem_append, List.mem_append, List.mem_cons] at hc
    rcases hc with hc | hc | rfl | hc
    · exact hmark c hc
    · exact ⟨(of_isVisible (hcurrency c hc)).1, (of_isVisible (hcurrency c hc)).2.1⟩
    · exact hspace
    · exact htext.carried.2 c hc
  · intro c hc
    rw [priceText_toList] at hc
    cases hc
    decide
  · intro c hc
    have hne : text.toList ≠ [] := by
      rw [ne_eq, String.toList_eq_nil_iff]
      exact htext.carried.1
    rw [priceText_toList, List.getLast?_append, List.getLast?_append, List.getLast?_cons,
      List.getLast?_eq_some_getLast hne] at hc
    rw [Option.getD_some, Option.some_or, Option.some_or, Option.mem_some_iff] at hc
    rw [← hc]
    exact (of_isVisible (htext.visible _ (List.getLast_mem hne))).2.2

/-- The text of a price splits into its two words, its currency and its price. -/
theorem splitOn_priceText (hcode : isCurrencyCode currency = true) (htext : Kept text) :
    (priceText currency text).toList.splitOn ' ' =
      ["REINVESTMENT".toList, "PRICE".toList, currency.toList, text.toList] := by
  have hwords : (priceText currency text).toList = [' '].intercalate
      ["REINVESTMENT".toList, "PRICE".toList, currency.toList, text.toList] := by
    rw [priceText_toList, List.intercalate]
    simp [reinvestmentMark]
  rw [hwords]
  refine List.splitOn_intercalate _ ?_ (List.cons_ne_nil _ _)
  intro word hword
  simp only [List.mem_cons, List.not_mem_nil, or_false] at hword
  rcases hword with rfl | rfl | rfl | rfl
  · decide
  · decide
  · exact space_not_mem (isVisible_of_currency hcode).2
  · exact space_not_mem htext.visible

end

/-! ## Terms that are complete -/

/-- What terms need to be complete. -/
theorem paired_eq_ok {fields : EventTermsFields} : fields.paired = .ok () ↔
    (fields.currency.all isCurrencyCode = true ∧ fields.splitNew.any (· ≤ 0) = false ∧
      fields.splitOld.any (· ≤ 0) = false) ∧
    fields.splitNew.isNone = fields.splitOld.isNone ∧
    (fields.cashRatePerShare.isNone = fields.currency.isNone ∨ fields.otherCash = true) ∧
    (fields.currency.isNone = false ∨ fields.otherCash = false) := by
  simp only [EventTermsFields.paired, positiveSide, Outcome.bind_eq_ok, Outcome.refuseIf_eq_ok,
    exists_const, Bool.not_eq_true', Bool.not_eq_true, Bool.not_eq_false, not_and_or, not_not]
  tauto

theorem eventTerms_eq_ok {fields : EventTermsFields} {terms : EventTerms} :
    eventTerms fields = .ok terms ↔ terms.toEventTermsFields = fields := by
  rw [eventTerms, Outcome.checked_eq_ok]
  constructor
  · rintro ⟨_, rfl⟩
    rfl
  · rintro rfl
    exact ⟨terms.complete, rfl⟩

/-- Terms that need nothing more are built. -/
theorem eventTerms_of_paired (fields : EventTermsFields) (h : fields.paired = .ok ()) :
    ∃ terms, eventTerms fields = .ok terms ∧ terms.toEventTermsFields = fields := by
  exact ⟨⟨fields, h⟩, eventTerms_eq_ok.mpr rfl, rfl⟩

section

variable {terms : EventTerms}

/-- A figure in cash comes with a currency. -/
theorem currency_of_cash (h : terms.cashRatePerShare ≠ none ∨ terms.otherCash = true) :
    ∃ currency, terms.currency = some currency ∧ isCurrencyCode currency = true := by
  obtain ⟨⟨hcode, -, -⟩, -, hpaired, hneeded⟩ := paired_eq_ok.mp terms.complete
  rcases hcurrency : terms.currency with _ | currency
  · rw [hcurrency] at hpaired hneeded
    exfalso
    rcases hneeded with hneeded | hneeded
    · exact Bool.noConfusion hneeded
    · rcases hpaired with hpaired | hpaired
      · rcases h with h | h
        · exact h (Option.isNone_iff_eq_none.mp hpaired)
        · exact Bool.false_ne_true (hneeded.symm.trans h)
      · exact Bool.false_ne_true (hneeded.symm.trans hpaired)
  · rw [hcurrency, Option.all_some] at hcode
    exact ⟨currency, rfl, hcode⟩

/-- Without a currency there is no figure in cash. -/
theorem no_cash_of_currency (h : terms.currency = none) :
    terms.cashRatePerShare = none ∧ terms.interestAmountPerFace = none ∧
      terms.redemptionPricePerFace = none ∧ terms.reinvestmentPricePerShare = none := by
  have hnone : ¬ (terms.cashRatePerShare ≠ none ∨ terms.otherCash = true) := by
    intro hcash
    obtain ⟨currency, hcurrency, -⟩ := currency_of_cash hcash
    rw [h] at hcurrency
    cases hcurrency
  simp only [EventTermsFields.otherCash, not_or, not_not, Bool.not_eq_true, Bool.or_eq_false_iff,
    Option.isSome_eq_false_iff, Option.isNone_iff_eq_none] at hnone
  exact ⟨hnone.1, hnone.2.1.1, hnone.2.1.2, hnone.2.2⟩

/-- A currency without a figure in cash is that of a reinvestment price. -/
theorem reinvestment_of_currency (h : terms.currency ≠ none) (hcash : statedCash terms = none) :
    terms.reinvestmentPricePerShare ≠ none := by
  rw [statedCash, Option.or_eq_none_iff, Option.or_eq_none_iff] at hcash
  obtain ⟨hrate, hinterest, hredemption⟩ := hcash
  obtain ⟨-, -, hpaired, -⟩ := paired_eq_ok.mp terms.complete
  intro hnone
  rw [EventTermsFields.otherCash, hrate, hinterest, hredemption, hnone] at hpaired
  rcases hpaired with hpaired | hpaired
  · exact h (Option.isNone_iff_eq_none.mp hpaired.symm)
  · exact Bool.noConfusion hpaired

end

/-! ## Terms in cash -/

/-- The option of terms in cash. -/
def cashElements (payable : Date) (currency text : String) (price : Option String) :
    XmlElement :=
  .group "CorpActnOptnDtls" (optionHead "001" (optionCode .cash) true ++
    [cashRateElement payable currency text] ++
      (price.map fun price => textElement (priceText currency price)).toList)

/-- A figure as a message carries it: as the text of the same number. -/
def WrittenFigure (text : Option String) (figure : Option NonNegativeMoney) : Prop :=
  match text, figure with
  | none, none => True
  | some text, some figure => WrittenNumber text figure.amount.value
  | _, _ => False

/-- What the option of terms in cash is made of. -/
theorem cashOption_parts {terms : EventTerms} {cash : NonNegativeMoney} {payable : Date}
    {option : XmlElement} (h : cashOption terms cash payable = .ok option) :
    ∃ currency text price, terms.currency = some currency ∧ isCurrencyCode currency = true ∧
      terms.stockRatePerShare = none ∧ terms.splitNew = none ∧
      WrittenNumber text cash.amount.value ∧
      WrittenFigure price terms.reinvestmentPricePerShare ∧
      option = cashElements payable currency text price := by
  rw [cashOption] at h
  rcases hcurrency : terms.currency with _ | currency
  · rw [hcurrency] at h
    cases h
  have hcode : isCurrencyCode currency = true := by
    obtain ⟨⟨hcode, -, -⟩, -⟩ := paired_eq_ok.mp terms.complete
    rwa [hcurrency, Option.all_some] at hcode
  rw [hcurrency] at h
  dsimp only at h
  rw [Outcome.bind_eq_ok] at h
  obtain ⟨_, honly, h⟩ := h
  rw [Outcome.refuseIf_eq_ok, not_or, not_not, not_not] at honly
  rw [Outcome.bind_eq_ok] at h
  obtain ⟨text, htext, h⟩ := h
  rw [Outcome.bind_eq_ok] at h
  obtain ⟨information, hinformation, h⟩ := h
  have hwritten := decimal_written (by decide) htext
  rw [reinvestmentElements] at hinformation
  rcases hprice : terms.reinvestmentPricePerShare with _ | price
  · rw [hprice] at hinformation
    cases hinformation
    exact ⟨currency, text, none, rfl, hcode, honly.1, honly.2, hwritten, trivial,
      (Except.ok.inj h).symm⟩
  · rw [hprice] at hinformation
    dsimp only at hinformation
    rw [Outcome.bind_eq_ok] at hinformation
    obtain ⟨priced, hpriced, hinformation⟩ := hinformation
    cases hinformation
    exact ⟨currency, text, some priced, rfl, hcode, honly.1, honly.2, hwritten,
      decimal_written (by decide) hpriced, (Except.ok.inj h).symm⟩

section

variable {namespaceUri currency text : String} {price : Option String}
  {cash : NonNegativeMoney} {reinvestment : Option NonNegativeMoney}

/-- The text of a price is read as the price, in its currency. -/
theorem readPrice_written {terms : EventTerms} (hcode : isCurrencyCode currency = true)
    (hterms : terms.toEventTermsFields =
      { cashRatePerShare := terms.cashRatePerShare, currency := some currency })
    (hprice : WrittenFigure price reinvestment) :
    ∃ (price' : Option NonNegativeMoney) (terms' : EventTerms),
      sameFigure price' reinvestment = true ∧
      withReinvestment terms ((price.map (priceText currency)).map stripped) = .ok terms' ∧
      terms'.toEventTermsFields =
        { cashRatePerShare := terms.cashRatePerShare
          currency := some currency
          reinvestmentPricePerShare := price' } := by
  rcases price with _ | text <;> rcases reinvestment with _ | reinvestment
  · exact ⟨none, terms, rfl, rfl, hterms⟩
  · exact hprice.elim
  · exact hprice.elim
  · obtain ⟨hkept, number, hnumber, hparsed⟩ : WrittenNumber text reinvestment.amount.value :=
      hprice
    obtain ⟨money, hmoney, hvalue⟩ := check_of_value hnumber
    have hpaired : EventTermsFields.paired
        { cashRatePerShare := terms.cashRatePerShare
          currency := some currency
          reinvestmentPricePerShare := some money } = .ok () := by
      rw [paired_eq_ok]
      exact ⟨⟨hcode, rfl, rfl⟩, rfl, .inr rfl, .inl rfl⟩
    obtain ⟨terms', hterms', hfields⟩ := eventTerms_of_paired _ hpaired
    have hmark : reinvestmentMark.toList.isPrefixOf (priceText currency text).toList = true := by
      rw [priceText_toList, List.isPrefixOf_iff_prefix]
      exact List.prefix_append _ _
    refine ⟨some money, terms', ?_, ?_, hfields⟩
    · exact FiniteDecimal.eq_iff.mpr hvalue
    · rw [Option.map_some, Option.map_some, (priceText_carried hcode hkept).2, withReinvestment]
      rw [if_pos hmark, splitOn_priceText hcode hkept]
      dsimp only
      rw [String.ofList_toList, String.ofList_toList, hparsed, Outcome.ok_bind, hmoney,
        Outcome.ok_bind, hterms']

/-- The option of terms in cash is read as them: a rate of cash, and the price of a reinvestment
where there is one. -/
theorem readTerms_cash (payable : Date) (huri : namespaceUri ≠ "") (hcode : isCurrencyCode currency = true)
    (hwritten : WrittenNumber text cash.amount.value)
    (hprice : WrittenFigure price reinvestment) :
    ∃ (cash' : NonNegativeMoney) (price' : Option NonNegativeMoney) (terms : EventTerms),
      cash'.amount.value = cash.amount.value ∧ sameFigure price' reinvestment = true ∧
      readTerms namespaceUri (inNamespace namespaceUri
        (cashElements payable currency text price)) = .ok terms ∧
      terms.toEventTermsFields =
        { cashRatePerShare := some cash'
          currency := some currency
          reinvestmentPricePerShare := price' } := by
  obtain ⟨hkept, number, hnumber, hparsed⟩ := hwritten
  obtain ⟨cash', hcash', hvalue⟩ := check_of_value hnumber
  have hpaired : EventTermsFields.paired
      { cashRatePerShare := some cash', currency := some currency } = .ok () := by
    rw [paired_eq_ok]
    exact ⟨⟨hcode, rfl, rfl⟩, rfl, .inl rfl, .inl rfl⟩
  obtain ⟨terms, hterms, hfields⟩ := eventTerms_of_paired _ hpaired
  have hrateShare : terms.cashRatePerShare = some cash' := by rw [hfields]
  obtain ⟨price', terms', hsame, hread, hfields'⟩ := readPrice_written hcode
    (by rw [hrateShare, hfields]) hprice
  rw [hrateShare] at hfields'
  refine ⟨cash', price', terms', hvalue, hsame, ?_, hfields'⟩
  generalize ht : cashElements payable currency text price = t
  let amount : XmlElement := .element "Amt" [("Ccy", currency)] (some text) []
  let rate : XmlElement := .group "RateTpAndAmtAndRateSts"
    [nest ["RateTp"] (.leaf "Cd" incomeRate), amount]
  have hcashFound : t.findPath "" ["CshMvmntDtls"] =
      some (cashRateElement payable currency text) := by
    rw [← ht]
    cases price <;> rfl
  have hnoSecurities : t.findPath "" ["SctiesMvmntDtls"] = none := by
    rw [← ht]
    cases price <;> rfl
  have htext : textAt "" ["AddtlInf", "AddtlTxt", "AddtlInf"] t =
      (price.map (priceText currency)).map stripped := by
    rw [← ht]
    cases price <;> rfl
  have hrate : (cashRateElement payable currency text).findPath ""
      ["RateAndAmtDtls", "GrssDstrbtnRate", "RateTpAndAmtAndRateSts"] = some rate := rfl
  have hrateType : textAt "" ["RateTp", "Cd"] rate = some (stripped incomeRate) := rfl
  have hamount : rate.findPath "" ["Amt"] = some amount := rfl
  have hamountText : textAt "" ["Amt"] rate = some (stripped text) := rfl
  have hcurrency : amount.attribute? "Ccy" = some currency := rfl
  have hkeptIncome : Kept incomeRate := kept_of_visible (by decide) (by decide)
  have hincome : ¬ incomeRate ≠ incomeRate := fun hne => hne rfl
  rw [readTerms, findPath_inNamespace huri, findPath_inNamespace huri, hcashFound, hnoSecurities]
  dsimp only [Option.map_some, Option.map_none]
  rw [readCashTerms, findPath_inNamespace huri, hrate, Option.map_some, orRefuse, Outcome.ok_bind,
    requiredAt_within huri, requiredAt_of_kept hrateType hkeptIncome, Outcome.ok_bind,
    Outcome.refuseIf_bind hincome, findPath_inNamespace huri, hamount]
  dsimp only [Option.map_some]
  rw [requiredAt_within huri, requiredAt_of_kept hamountText hkept, Outcome.ok_bind, hparsed,
    Outcome.ok_bind, hcash', Outcome.ok_bind, attribute?_within, hcurrency, hterms,
    Outcome.ok_bind, textAt_within huri, htext, hread]

end

/-! ## Terms in securities -/

/-- The tag of a rate of additional securities. -/
def additionalTag : String := "AddtlQtyForExstgScties"

/-- The tag of a ratio of new securities to old ones. -/
def newToOldTag : String := "NewToOd"

/-- The two quantities of a ratio. -/
def quantities (first second : String) : XmlElement :=
  .group "QtyToQty" [.leaf "Qty1" first, .leaf "Qty2" second]

/-- The option of terms in securities. -/
def ratioElements (security : String) (payable : Date) (tag first second : String) : XmlElement :=
  .group "CorpActnOptnDtls" (optionHead "001" (optionCode .secu) true ++
    [ratioElement security payable tag first second])

/-- A ratio is that of a rate or that of a split. -/
theorem ratioOf_eq_ok {terms : EventTerms} {tag : String} {first second : ℤ} :
    ratioOf terms = .ok (tag, first, second) ↔
      (∃ rate, terms.stockRatePerShare = some rate ∧ tag = additionalTag ∧
        first = rate.amount.value.num ∧ second = rate.amount.value.den) ∨
      (terms.stockRatePerShare = none ∧ terms.splitNew = some first ∧
        terms.splitOld = some second ∧ tag = newToOldTag) := by
  rw [ratioOf, additionalTag, newToOldTag]
  rcases terms.stockRatePerShare with _ | rate
  · rcases terms.splitNew with _ | new
    · simp
    · rcases terms.splitOld with _ | old
      · simp
      · simp only [Except.ok.injEq, Prod.mk.injEq, Option.some_inj]
        constructor
        · rintro ⟨rfl, rfl, rfl⟩
          exact .inr ⟨trivial, rfl, rfl, rfl⟩
        · rintro (⟨rate, hrate, -⟩ | ⟨-, rfl, rfl, rfl⟩)
          · cases hrate
          · exact ⟨rfl, rfl, rfl⟩
  · simp only [Except.ok.injEq, Prod.mk.injEq]
    constructor
    · rintro ⟨rfl, rfl, rfl⟩
      exact .inl ⟨rate, rfl, rfl, rfl, rfl⟩
    · rintro (⟨rate', hrate, rfl, rfl, rfl⟩ | ⟨hnone, -⟩)
      · cases hrate
        exact ⟨rfl, rfl, rfl⟩
      · cases hnone

/-- What the option of terms in securities is made of. -/
theorem ratioOption_parts {terms : EventTerms} {security : String} {payable : Date}
    {option : XmlElement} (h : ratioOption terms security payable = .ok option) :
    ∃ (tag : String) (first second : ℤ) (firstText secondText : String),
      (terms.stockRatePerShare = none ∨ terms.splitNew = none) ∧
      ratioOf terms = .ok (tag, first, second) ∧
      WrittenNumber firstText first ∧ WrittenNumber secondText second ∧
      option = ratioElements security payable tag firstText secondText := by
  rw [ratioOption, Outcome.bind_eq_ok] at h
  obtain ⟨_, honly, h⟩ := h
  rw [Outcome.refuseIf_eq_ok, not_and_or, not_not, not_not] at honly
  rw [Outcome.bind_eq_ok] at h
  obtain ⟨⟨tag, first, second⟩, hratio, h⟩ := h
  dsimp only at h
  rw [Outcome.bind_eq_ok] at h
  obtain ⟨firstText, hfirst, h⟩ := h
  rw [Outcome.bind_eq_ok] at h
  obtain ⟨secondText, hsecond, h⟩ := h
  have hfirst := decimal_written (by decide) hfirst
  have hsecond := decimal_written (by decide) hsecond
  rw [FiniteDecimal.value_ofInt] at hfirst hsecond
  exact ⟨tag, first, second, firstText, secondText, honly, hratio, hfirst, hsecond,
    (Except.ok.inj h).symm⟩

section

variable {namespaceUri firstText secondText : String}

/-- The two quantities of a ratio are read as the numbers they were written for. -/
theorem readQuantities_written {x y : ℚ} (huri : namespaceUri ≠ "")
    (hfirst : WrittenNumber firstText x) (hsecond : WrittenNumber secondText y) (hy : y ≠ 0) :
    ∃ first second : FiniteDecimal, first.value = x ∧ second.value = y ∧
      readQuantities namespaceUri (inNamespace namespaceUri (quantities firstText secondText)) =
        .ok (first, second) := by
  obtain ⟨hkeptFirst, first, hfirstValue, hfirstParsed⟩ := hfirst
  obtain ⟨hkeptSecond, second, hsecondValue, hsecondParsed⟩ := hsecond
  have hfirstText : textAt "" ["Qty1"] (quantities firstText secondText) =
      some (stripped firstText) := rfl
  have hsecondText : textAt "" ["Qty2"] (quantities firstText secondText) =
      some (stripped secondText) := rfl
  have hnonzero : ¬ second.isZero = true := by
    rw [FiniteDecimal.isZero_iff, hsecondValue]
    exact hy
  refine ⟨first, second, hfirstValue, hsecondValue, ?_⟩
  rw [readQuantities, requiredAt_within huri, requiredAt_of_kept hfirstText hkeptFirst,
    Outcome.ok_bind, hfirstParsed, Outcome.ok_bind, requiredAt_within huri,
    requiredAt_of_kept hsecondText hkeptSecond, Outcome.ok_bind, hsecondParsed, Outcome.ok_bind,
    Outcome.refuseIf_bind hnonzero]

/-- An option of a rate is read as the quotient of the two parts of the rate's fraction. -/
theorem readTerms_rate (security : String) (payable : Date) {rate : ℚ} (huri : namespaceUri ≠ "")
    (hfirst : WrittenNumber firstText rate.num) (hsecond : WrittenNumber secondText rate.den) :
    ∃ first second : FiniteDecimal, second.coefficient ≠ 0 ∧ first.value / second.value = rate ∧
      readTerms namespaceUri (inNamespace namespaceUri
        (ratioElements security payable additionalTag firstText secondText)) =
          (FiniteDecimal.div ambient first second >>= fun rate =>
            NonNegativeMoney.check (.finite rate) >>= fun rate =>
              eventTerms { stockRatePerShare := some rate }) := by
  have hden : (rate.den : ℚ) ≠ 0 := Nat.cast_ne_zero.mpr rate.den_nz
  obtain ⟨first, second, hfirstValue, hsecondValue, hread⟩ :=
    readQuantities_written huri hfirst hsecond hden
  refine ⟨first, second, ?_, ?_, ?_⟩
  · intro hzero
    rw [← FiniteDecimal.value_eq_zero_iff, hsecondValue] at hzero
    exact hden hzero
  · rw [hfirstValue, hsecondValue, Rat.num_div_den]
  · generalize ht : ratioElements security payable additionalTag firstText secondText = t
    have hnoCash : t.findPath "" ["CshMvmntDtls"] = none := by
      rw [← ht]
      rfl
    have hmovement : t.findPath "" ["SctiesMvmntDtls"] =
        some (ratioElement security payable additionalTag firstText secondText) := by
      rw [← ht]
      rfl
    have hrate : (ratioElement security payable additionalTag firstText secondText).findPath ""
        ["RateDtls", "AddtlQtyForExstgScties", "QtyToQty"] =
          some (quantities firstText secondText) := rfl
    rw [readTerms, findPath_inNamespace huri, findPath_inNamespace huri, hnoCash, hmovement]
    dsimp only [Option.map_some, Option.map_none]
    rw [readRatio, findPath_inNamespace huri, hrate]
    dsimp only [Option.map_some]
    rw [hread, Outcome.ok_bind]

/-- An option of a split is read as the split. -/
theorem readTerms_split (security : String) (payable : Date) {new old : ℤ} (huri : namespaceUri ≠ "") (hnew : 0 < new) (hold : 0 < old)
    (hfirst : WrittenNumber firstText new) (hsecond : WrittenNumber secondText old) :
    ∃ terms : EventTerms, terms.toEventTermsFields = { splitNew := some new, splitOld := some old } ∧
      readTerms namespaceUri (inNamespace namespaceUri
        (ratioElements security payable newToOldTag firstText secondText)) = .ok terms := by
  have hne : (old : ℚ) ≠ 0 := by exact_mod_cast hold.ne'
  obtain ⟨first, second, hfirstValue, hsecondValue, hread⟩ :=
    readQuantities_written huri hfirst hsecond hne
  have hpaired : EventTermsFields.paired { splitNew := some new, splitOld := some old } =
      .ok () := by
    rw [paired_eq_ok]
    refine ⟨⟨rfl, ?_, ?_⟩, rfl, .inl rfl, .inr rfl⟩
    · exact decide_eq_false (not_le.mpr hnew)
    · exact decide_eq_false (not_le.mpr hold)
  obtain ⟨terms, hterms, hfields⟩ := eventTerms_of_paired _ hpaired
  refine ⟨terms, hfields, ?_⟩
  generalize ht : ratioElements security payable newToOldTag firstText secondText = t
  have hnoCash : t.findPath "" ["CshMvmntDtls"] = none := by
    rw [← ht]
    rfl
  have hmovement : t.findPath "" ["SctiesMvmntDtls"] =
      some (ratioElement security payable newToOldTag firstText secondText) := by
    rw [← ht]
    rfl
  have hnoRate : (ratioElement security payable newToOldTag firstText secondText).findPath ""
      ["RateDtls", "AddtlQtyForExstgScties", "QtyToQty"] = none := rfl
  have hsplit : (ratioElement security payable newToOldTag firstText secondText).findPath ""
      ["RateDtls", "NewToOd", "QtyToQty"] = some (quantities firstText secondText) := rfl
  have hwhole : ¬ (first.value.isInt = false ∨ second.value.isInt = false) := by
    rw [hfirstValue, hsecondValue, Rat.isInt, Rat.isInt, Rat.den_intCast, Rat.den_intCast]
    decide
  rw [readTerms, findPath_inNamespace huri, findPath_inNamespace huri, hnoCash, hmovement]
  dsimp only [Option.map_some, Option.map_none]
  rw [readRatio, findPath_inNamespace huri, findPath_inNamespace huri, hnoRate, hsplit]
  dsimp only [Option.map_some, Option.map_none]
  rw [hread, Outcome.ok_bind]
  dsimp only
  rw [Outcome.refuseIf_bind hwhole, FiniteDecimal.truncate_of_int hfirstValue,
    FiniteDecimal.truncate_of_int hsecondValue, hterms]

end

/-! ## Terms that are read as they were stated -/

/-- The terms that an announcement of a class of events carries whole. In cash they are the one
figure of the class, beside which only a rate of cash may have a reinvestment price. In securities
they have no currency, and a rate that the context of arithmetic holds. -/
def CarriesTerms (eventType : EventType) (terms : EventTerms) : Prop :=
  if statedCash terms = none then
    terms.currency = none ∧
      ∀ rate ∈ terms.stockRatePerShare, ambient.Represents rate.amount.value
  else if eventType = .interestPayment then
    terms.cashRatePerShare = none ∧ terms.redemptionPricePerFace = none ∧
      terms.reinvestmentPricePerShare = none
  else if eventType ∈ redemptionTypes then
    terms.cashRatePerShare = none ∧ terms.interestAmountPerFace = none ∧
      terms.reinvestmentPricePerShare = none
  else terms.interestAmountPerFace = none ∧ terms.redemptionPricePerFace = none

/-- No terms are carried whole. -/
theorem carriesTerms_unstated (eventType : EventType) : CarriesTerms eventType .unstated := by
  have hnone : statedCash .unstated = none := rfl
  rw [CarriesTerms, if_pos hnone]
  refine ⟨rfl, ?_⟩
  intro rate hrate
  cases hrate

theorem sameFigure_none {figure : Option NonNegativeMoney} :
    sameFigure none figure = true ↔ figure = none := by
  rcases figure with _ | figure
  · exact iff_of_true rfl rfl
  · exact iff_of_false Bool.false_ne_true (Option.some_ne_none figure)

theorem sameFigure_some {figure other : NonNegativeMoney} :
    sameFigure (some figure) (some other) = true ↔ figure.amount.value = other.amount.value :=
  FiniteDecimal.eq_iff

theorem same_iff {a b : EventTerms} : a.same b = true ↔
    sameFigure a.cashRatePerShare b.cashRatePerShare = true ∧ a.currency = b.currency ∧
      sameFigure a.stockRatePerShare b.stockRatePerShare = true ∧
      a.splitNew = b.splitNew ∧ a.splitOld = b.splitOld ∧
      sameFigure a.interestAmountPerFace b.interestAmountPerFace = true ∧
      sameFigure a.redemptionPricePerFace b.redemptionPricePerFace = true ∧
      sameFigure a.reinvestmentPricePerShare b.reinvestmentPricePerShare = true := by
  simp only [EventTerms.same, Bool.and_eq_true, decide_eq_true_iff, and_assoc]

/-- Both sides of a split are stated or neither is, and stated ones are positive. -/
theorem split_stated (terms : EventTerms) : terms.splitNew.isNone = terms.splitOld.isNone ∧
    (∀ new ∈ terms.splitNew, 0 < new) ∧ ∀ old ∈ terms.splitOld, 0 < old := by
  obtain ⟨⟨-, hnew, hold⟩, hsides, -⟩ := paired_eq_ok.mp terms.complete
  refine ⟨hsides, ?_, ?_⟩
  · intro new hmem
    rw [Option.mem_def.mp hmem] at hnew
    exact not_le.mp (of_decide_eq_false hnew)
  · intro old hmem
    rw [Option.mem_def.mp hmem] at hold
    exact not_le.mp (of_decide_eq_false hold)

section

variable {namespaceUri security : String} {eventType : EventType} {terms : EventTerms}
  {payable : Date} {option : XmlElement}

/-- Terms in cash are read, as the same ones exactly where they are carried whole. -/
theorem termsRead_cash (eventType : EventType) {cash : NonNegativeMoney} (huri : namespaceUri ≠ "")
    (hcash : statedCash terms = some cash) (h : cashOption terms cash payable = .ok option) :
    ∃ read, (readTerms namespaceUri (inNamespace namespaceUri option) >>=
        termsOfEventType eventType) = .ok read ∧
      (read.same terms = true ↔ CarriesTerms eventType terms) := by
  obtain ⟨currency, text, price, hcurrency, hcode, hstock, hnew, hwritten, hprice, rfl⟩ :=
    cashOption_parts h
  have hold : terms.splitOld = none := by
    have hsides := (split_stated terms).1
    rw [hnew] at hsides
    exact Option.isNone_iff_eq_none.mp hsides.symm
  obtain ⟨cash', price', read, hvalue, hreinvested, hread, hfields⟩ :=
    readTerms_cash payable huri hcode hwritten hprice
  have hstated : ¬ statedCash terms = none := by
    rw [hcash]
    exact Option.some_ne_none cash
  have hrate : read.cashRatePerShare = some cash' := by rw [hfields]
  have hreadCurrency : read.currency = some currency := by rw [hfields]
  rw [hread, Outcome.ok_bind, termsOfEventType, CarriesTerms, if_neg hstated, hrate, hreadCurrency]
  rw [statedCash] at hcash
  by_cases hinterest : eventType = .interestPayment
  · rw [if_pos ⟨hinterest, Option.some_ne_none cash'⟩, if_pos hinterest]
    obtain ⟨given, hgiven, hgivenFields⟩ := eventTerms_of_paired
      { interestAmountPerFace := some cash', currency := some currency }
      (paired_eq_ok.mpr ⟨⟨hcode, rfl, rfl⟩, rfl, .inr rfl, .inl rfl⟩)
    refine ⟨given, hgiven, ?_⟩
    rw [same_iff, hgivenFields]
    simp only [sameFigure_none, hcurrency, hstock, hnew, hold, true_and]
    constructor
    · rintro ⟨hnone, -, hredemption, hreinvestment⟩
      exact ⟨hnone, hredemption, hreinvestment⟩
    · rintro ⟨hnone, hredemption, hreinvestment⟩
      rw [hnone, hredemption, Option.none_or, Option.or_none] at hcash
      refine ⟨hnone, ?_, hredemption, hreinvestment⟩
      rw [hcash, sameFigure_some]
      exact hvalue
  · rw [if_neg fun hboth => hinterest hboth.1, if_neg hinterest]
    by_cases hredeemed : eventType ∈ redemptionTypes
    · rw [if_pos ⟨hredeemed, Option.some_ne_none cash'⟩, if_pos hredeemed]
      obtain ⟨given, hgiven, hgivenFields⟩ := eventTerms_of_paired
        { redemptionPricePerFace := some cash', currency := some currency }
        (paired_eq_ok.mpr ⟨⟨hcode, rfl, rfl⟩, rfl, .inr rfl, .inl rfl⟩)
      refine ⟨given, hgiven, ?_⟩
      rw [same_iff, hgivenFields]
      simp only [sameFigure_none, hcurrency, hstock, hnew, hold, true_and]
      constructor
      · rintro ⟨hnone, hinterestNone, -, hreinvestment⟩
        exact ⟨hnone, hinterestNone, hreinvestment⟩
      · rintro ⟨hnone, hinterestNone, hreinvestment⟩
        rw [hnone, hinterestNone, Option.none_or, Option.none_or] at hcash
        refine ⟨hnone, hinterestNone, ?_, hreinvestment⟩
        rw [hcash, sameFigure_some]
        exact hvalue
    · rw [if_neg fun hboth => hredeemed hboth.1, if_neg hredeemed]
      refine ⟨read, rfl, ?_⟩
      rw [same_iff, hfields]
      simp only [sameFigure_none, hcurrency, hstock, hnew, hold, hreinvested, true_and, and_true]
      constructor
      · rintro ⟨-, hinterestNone, hredemption⟩
        exact ⟨hinterestNone, hredemption⟩
      · rintro ⟨hinterestNone, hredemption⟩
        rw [hinterestNone, hredemption, Option.none_or, Option.or_none] at hcash
        refine ⟨?_, hinterestNone, hredemption⟩
        rw [hcash, sameFigure_some]
        exact hvalue

/-- Terms in securities keep their name whatever the class. -/
theorem termsOfEventType_securities (h : terms.cashRatePerShare = none) :
    termsOfEventType eventType terms = .ok terms := by
  have hno : ∀ P : Prop, ¬ (P ∧ terms.cashRatePerShare ≠ none) := by
    intro P hboth
    exact hboth.2 h
  rw [termsOfEventType, if_neg (hno _), if_neg (hno _)]

/-- Terms in securities are read as they were stated exactly where they are carried whole. -/
theorem termsRead_ratio (huri : namespaceUri ≠ "") (hcash : statedCash terms = none)
    (h : ratioOption terms security payable = .ok option) :
    (∃ read, (readTerms namespaceUri (inNamespace namespaceUri option) >>=
        termsOfEventType eventType) = .ok read ∧ read.same terms = true) ↔
      CarriesTerms eventType terms := by
  obtain ⟨tag, first, second, firstText, secondText, honly, hratio, hfirst, hsecond, rfl⟩ :=
    ratioOption_parts h
  rw [CarriesTerms, if_pos hcash]
  rcases ratioOf_eq_ok.mp hratio with ⟨rate, hrate, rfl, rfl, rfl⟩ | ⟨hnoRate, hnew, hold, rfl⟩
  · have hsplit : terms.splitNew = none := by
      rw [hrate] at honly
      exact honly.resolve_left (Option.some_ne_none rate)
    have hsplitOld : terms.splitOld = none := by
      have hsides := (split_stated terms).1
      rw [hsplit] at hsides
      exact Option.isNone_iff_eq_none.mp hsides.symm
    obtain ⟨dividend, divisor, hdivisor, hquotient, hread⟩ :=
      readTerms_rate security payable huri hfirst (by exact_mod_cast hsecond)
    have hexact : (∃ quotient, FiniteDecimal.div ambient dividend divisor = .ok quotient ∧
        quotient.value = rate.amount.value) ↔ ambient.Represents rate.amount.value := by
      rw [← hquotient]
      exact FiniteDecimal.div_exact_iff hdivisor
    have hholds : (∀ held ∈ terms.stockRatePerShare, ambient.Represents held.amount.value) ↔
        ambient.Represents rate.amount.value := by
      rw [hrate]
      exact ⟨fun hall => hall rate rfl, fun hheld held hmem => Option.some_inj.mp hmem ▸ hheld⟩
    rw [hholds, ← hexact, hread]
    constructor
    · rintro ⟨read, hdecoded, hsame⟩
      rw [bind_assoc, Outcome.bind_eq_ok] at hdecoded
      obtain ⟨quotient, hdiv, hdecoded⟩ := hdecoded
      rw [bind_assoc, Outcome.bind_eq_ok] at hdecoded
      obtain ⟨money, hmoney, hdecoded⟩ := hdecoded
      rw [Outcome.bind_eq_ok] at hdecoded
      obtain ⟨given, hgiven, hdecoded⟩ := hdecoded
      have hfields := eventTerms_eq_ok.mp hgiven
      rw [termsOfEventType_securities (by rw [hfields])] at hdecoded
      cases hdecoded
      rw [same_iff, hfields, hrate, sameFigure_some] at hsame
      cases NonNegativeMoney.check_eq_ok.mp hmoney
      exact ⟨hsame.2.1.symm, money.amount, hdiv, hsame.2.2.1⟩
    · rintro ⟨hcurrency, quotient, hdiv, hvalue⟩
      obtain ⟨money, hmoney, hamount⟩ := check_of_value hvalue
      obtain ⟨given, hgiven, hfields⟩ := eventTerms_of_paired
        { stockRatePerShare := some money }
        (paired_eq_ok.mpr ⟨⟨rfl, rfl, rfl⟩, rfl, .inl rfl, .inr rfl⟩)
      refine ⟨given, ?_, ?_⟩
      · rw [hdiv, Outcome.ok_bind, hmoney, Outcome.ok_bind, hgiven, Outcome.ok_bind,
          termsOfEventType_securities (by rw [hfields])]
      · obtain ⟨hnone, hinterest, hredemption, hreinvestment⟩ := no_cash_of_currency hcurrency
        rw [same_iff, hfields, hrate, hcurrency, hsplit, hsplitOld, hnone, hinterest, hredemption,
          hreinvestment, sameFigure_some]
        exact ⟨rfl, rfl, hamount, rfl, rfl, rfl, rfl, rfl⟩
  · obtain ⟨-, hpositive, hpositiveOld⟩ := split_stated terms
    obtain ⟨read, hfields, hread⟩ := readTerms_split security payable huri
      (hpositive first hnew) (hpositiveOld second hold) hfirst hsecond
    rw [hread, Outcome.ok_bind, termsOfEventType_securities (by rw [hfields])]
    constructor
    · rintro ⟨read', hread', hsame⟩
      cases hread'
      rw [same_iff, hfields] at hsame
      refine ⟨hsame.2.1.symm, ?_⟩
      intro rate hrate
      rw [hnoRate] at hrate
      cases hrate
    · rintro ⟨hcurrency, -⟩
      obtain ⟨hnone, hinterest, hredemption, hreinvestment⟩ := no_cash_of_currency hcurrency
      refine ⟨read, rfl, ?_⟩
      rw [same_iff, hfields, hnoRate, hnew, hold, hcurrency, hnone, hinterest, hredemption,
        hreinvestment]
      exact ⟨rfl, rfl, rfl, rfl, rfl, rfl, rfl, rfl⟩

end

end Iso20022

end CorporateActions

end Atreides
