import Atreides.Foundation.Decimal.Exact
import Atreides.Foundation.PlainNumerals
import Atreides.Messaging.Emit
import Atreides.Messaging.XmlPaths

/-!
# Reading an instruction back

The header and the document of an instruction, written as text and read again. What the message
paths lead to is what the instruction states, where its texts are ones that a document carries
unchanged.

## Main definitions

* `emitBusinessApplicationHeader`, `emitFiCreditTransfer` — the two texts of an instruction
* `Carriable` — the instruction's texts are ones that a document carries unchanged
* `HeaderSays`, `DocumentSays` — what a message says of an instruction

## Main results

* `ofText_fmtAmount` — an amount is read as the number it was written from
* `emit_says` — both messages are read back as the instruction
-/

namespace Atreides

open XmlElement XmlText

open scoped Characters

/-- The header of an instruction, as text. -/
def emitBusinessApplicationHeader (instruction : CashLegInstruction) (profile : DepositoryProfile) :
    String :=
  writeDocument (messageNamespace profile.businessApplicationHeaderName)
    (businessApplicationHeader instruction profile)

/-- The credit transfer of an instruction, as text. -/
def emitFiCreditTransfer (instruction : CashLegInstruction) (profile : DepositoryProfile) :
    String :=
  writeDocument (messageNamespace profile.fiCreditTransferName)
    (fiCreditTransfer instruction profile)

/-! ## Amounts -/

/-- An instruction's amount is a positive number of few digits. -/
theorem CashLegInstruction.amount_digits (instruction : CashLegInstruction) :
    ∃ d, instruction.amount = .finite d ∧ d.negative = false ∧ d.coefficient ≠ 0 ∧
      digitCount d.coefficient + (max d.exponent 0).toNat ≤ 18 ∧
        (max (-d.exponent) 0).toNat ≤ 5 := by
  have hvalid := instruction.valid
  simp only [CashLegInstruction.validate, Outcome.bind_eq_ok] at hvalid
  obtain ⟨_, -, _, -, _, hamount, -⟩ := hvalid
  obtain ⟨d, hd⟩ := instruction.amount_finite
  rw [hd, checkAmount] at hamount
  split_ifs at hamount with hsign
  dsimp only at hamount
  split_ifs at hamount with hdigits
  rw [not_or, not_lt, not_lt] at hdigits
  have hpositive : 0 < d.value := by
    by_contra hle
    rw [not_lt] at hle
    exact hsign (FiniteDecimal.le_iff.mpr (by rwa [FiniteDecimal.value_zero]))
  have hcoefficient : d.coefficient ≠ 0 := by
    intro hzero
    rw [FiniteDecimal.value, FiniteDecimal.toInt, hzero] at hpositive
    simp at hpositive
  refine ⟨d, hd, ?_, hcoefficient, hdigits.1, hdigits.2⟩
  by_contra hnegative
  have hpower : (0 : ℚ) < 10 ^ d.exponent := zpow_pos (by norm_num) _
  rw [FiniteDecimal.value, FiniteDecimal.toInt, if_pos (by simpa using hnegative)] at hpositive
  have hle : ((-(d.coefficient : ℤ) : ℤ) : ℚ) ≤ 0 := by
    push_cast
    have := Nat.cast_nonneg (α := ℚ) d.coefficient
    linarith
  nlinarith

/-- A positive amount is written as its digits, with the point where its exponent puts it. -/
theorem fmtAmount_eq {d : FiniteDecimal} (hnegative : d.negative = false)
    (hcoefficient : d.coefficient ≠ 0) :
    fmtAmount (.finite d) = pointedDigits (toString d.coefficient)
      (d.exponent + (toString d.coefficient).length) := by
  rw [fmtAmount, FiniteDecimal.plainText, hnegative]
  simp [hcoefficient]

/-- An amount is read as the number it was written from. -/
theorem ofText_fmtAmount (instruction : CashLegInstruction) :
    ∃ d read, instruction.amount = .finite d ∧
      Decimal.ofText (fmtAmount instruction.amount) = .ok (.finite read) ∧
        read.value = d.value := by
  obtain ⟨d, hd, hnegative, hcoefficient, hdigits, hfraction⟩ := instruction.amount_digits
  have hplace : (d.exponent + (toString d.coefficient).length : ℤ) -
      (toString d.coefficient).length = d.exponent := by ring
  have hread := readNumeral_pointedDigits d.coefficient
    (d.exponent + (toString d.coefficient).length)
  rw [hplace] at hread
  have hcount := digitCount_mul_pow hcoefficient d.exponent.toNat
  have hwritten : d.coefficient * 10 ^ d.exponent.toNat ≠ 0 :=
    Nat.mul_ne_zero hcoefficient (Nat.pow_pos (by norm_num)).ne'
  refine ⟨d, ⟨false, d.coefficient * 10 ^ d.exponent.toNat, min d.exponent 0⟩, hd, ?_, ?_⟩
  · rw [hd, fmtAmount_eq hnegative hcoefficient, Decimal.ofText, hread]
    refine if_pos ?_
    rw [DecimalContext.holds, if_neg hwritten, Bool.and_eq_true_iff, decide_eq_true_iff,
      decide_eq_true_iff]
    simp only [DecimalContext.target, DecimalContext.widest, DecimalContext.etiny,
      DecimalContext.etop, DecimalContext.widestContext, hcount]
    omega
  · -- a positive exponent is written out as zeros
    have hsplit : (10 : ℚ) ^ d.exponent.toNat * 10 ^ min d.exponent 0 = 10 ^ d.exponent := by
      have hparts : (d.exponent.toNat : ℤ) + min d.exponent 0 = d.exponent := by omega
      rw [← zpow_natCast, ← zpow_add₀ (by norm_num), hparts]
    rw [FiniteDecimal.value, FiniteDecimal.value, FiniteDecimal.toInt, FiniteDecimal.toInt,
      hnegative, ← hsplit, if_neg Bool.false_ne_true, if_neg Bool.false_ne_true]
    push_cast
    ring

/-! ## Trees that are carried -/

/-- An element that writing and reading do not change. -/
structure Carried (namespaceUri : String) (e : XmlElement) : Prop where
  plain : PlainElement namespaceUri e
  writable : Writable e
  steady : Steady e

/-- A text that a document carries unchanged. -/
def CarriedText (text : String) : Prop :=
  text ≠ "" ∧ ∀ c ∈ text.toList, isXmlChar c = true ∧ c ≠ carriageReturn

/-- The elements of some trees are carried. -/
def AllCarried (namespaceUri : String) (ts : List XmlElement) : Prop :=
  ∀ e ∈ iterAll ts, Carried namespaceUri e

section

variable {namespaceUri tag : String}

theorem head?_of_plainName (h : PlainName tag.toList) : tag.toList.head? ≠ some openBrace := by
  intro hhead
  have hmem := List.mem_of_mem_head? hhead
  exact absurd (h.2 openBrace hmem) (by decide)

/-- An element of a plain name is carried where its text and attributes are. -/
theorem carried_element {attributes : List (String × String)} {text : Option String}
    {children : List XmlElement} (htag : PlainName tag.toList)
    (hnames : ∀ p ∈ attributes, PlainName p.1.toList ∧ p.1 ≠ "xmlns")
    (hnodup : (attributes.map Prod.fst).Nodup)
    (hvalues : ∀ p ∈ attributes, ∀ c ∈ p.2.toList, isXmlChar c = true)
    (htext : ∀ held, text = some held → CarriedText held) :
    Carried namespaceUri (.element tag attributes text children) := by
  refine ⟨⟨?_, fun p hp => (hnames p hp).1, hnodup⟩, ⟨?_, hvalues⟩, ⟨head?_of_plainName htag, ?_,
    fun p hp => (hnames p hp).2⟩⟩
  · rw [XmlElement.tag, writtenName_of_head (head?_of_plainName htag)]
    exact htag
  · intro c hc
    rcases text with _ | held
    · exact absurd hc (by simp [XmlElement.text])
    · exact ((htext held rfl).2 c hc).1
  · intro held hheld
    exact ⟨(htext held hheld).1, fun hreturn => ((htext held hheld).2 _ hreturn).2 rfl⟩

theorem allCarried_nil : AllCarried namespaceUri [] := by
  intro e he
  rw [iterAll] at he
  exact absurd he List.not_mem_nil

/-- One tree more is carried where its element and its children are. -/
theorem AllCarried.cons {attributes : List (String × String)} {text : Option String}
    {children ts : List XmlElement} (hts : AllCarried namespaceUri ts)
    (he : Carried namespaceUri (.element tag attributes text children))
    (hchildren : AllCarried namespaceUri children) :
    AllCarried namespaceUri (.element tag attributes text children :: ts) := by
  intro e hmem
  rw [iterAll, iter] at hmem
  rcases List.mem_append.mp hmem with hmem | hmem
  · rcases List.mem_cons.mp hmem with rfl | hmem
    · exact he
    · exact hchildren e hmem
  · exact hts e hmem

theorem AllCarried.leaf {ts : List XmlElement} {text : String} (hts : AllCarried namespaceUri ts)
    (htag : PlainName tag.toList) (htext : CarriedText text) :
    AllCarried namespaceUri (.leaf tag text :: ts) := by
  refine hts.cons (carried_element htag ?_ List.nodup_nil ?_ ?_) allCarried_nil
  · intro p hp
    cases hp
  · intro p hp
    cases hp
  · intro held hheld
    rwa [← Option.some_inj.mp hheld]

theorem AllCarried.group {ts children : List XmlElement} (hts : AllCarried namespaceUri ts)
    (htag : PlainName tag.toList) (hchildren : AllCarried namespaceUri children) :
    AllCarried namespaceUri (.group tag children :: ts) := by
  refine hts.cons (carried_element htag ?_ List.nodup_nil ?_ ?_) hchildren
  · intro p hp
    cases hp
  · intro p hp
    cases hp
  · intro held hheld
    cases hheld

end

/-! ## Texts of an instruction -/

/-- Four letters or digits, two letters, two letters or digits, and three more or none: an
identifier's pattern, over a whole text. -/
def isBicfi (chars : List Char) : Bool :=
  (chars.length = 8 || chars.length = 11) && (chars.take 4).all isCapitalOrDigit &&
    ((chars.drop 4).take 2).all isCapital && (chars.drop 6).all isCapitalOrDigit

/-- Three capital letters, over a whole text. -/
def isCurrency (chars : List Char) : Bool := chars.length = 3 && chars.all isCapital

theorem isCapitalOrDigit_of_isCapital {c : Char} (h : isCapital c = true) :
    isCapitalOrDigit c = true := by
  rw [isCapitalOrDigit, h, Bool.true_or]

/-- An identifier is letters and digits throughout. -/
theorem isCapitalOrDigit_of_mem_bicfi {chars : List Char} (h : isBicfi chars = true) {c : Char}
    (hc : c ∈ chars) : isCapitalOrDigit c = true := by
  simp only [isBicfi, Bool.and_eq_true, List.all_eq_true] at h
  obtain ⟨⟨⟨-, hbank⟩, hcountry⟩, hrest⟩ := h
  rw [← List.take_append_drop 4 chars, List.mem_append] at hc
  rcases hc with hc | hc
  · exact hbank c hc
  rw [← List.take_append_drop 2 (chars.drop 4), List.drop_drop, List.mem_append] at hc
  rcases hc with hc | hc
  · exact isCapitalOrDigit_of_isCapital (hcountry c hc)
  · exact hrest c hc

/-- A text is what an end-anchored pattern sees of it, and a line feed where it ends in one. -/
theorem beforeFinalNewline_append (text : String) :
    text.toList = beforeFinalNewline text ∨
      text.toList = beforeFinalNewline text ++ [lineFeed] := by
  rw [beforeFinalNewline]
  rcases hreverse : text.toList.reverse with _ | ⟨c, rest⟩
  · exact .inl (List.reverse_eq_nil_iff.mp hreverse)
  · have htext : text.toList = rest.reverse ++ [c] := by
      rw [← List.reverse_reverse text.toList, hreverse, List.reverse_cons]
    dsimp only
    split_ifs with hc
    · right
      have hfeed : c = lineFeed := by
        rw [← Char.ofNat_toNat c, hc]
        rfl
      rw [htext, hfeed]
    · exact .inl rfl

/-- The whole of a text that ends in no line feed is what an end-anchored pattern sees. -/
theorem beforeFinalNewline_eq {text : String} (h : text.toList.getLast? ≠ some lineFeed) :
    beforeFinalNewline text = text.toList := by
  rcases beforeFinalNewline_append text with hsame | hfeed
  · exact hsame.symm
  · rw [hfeed, List.getLast?_append, List.getLast?_singleton] at h
    exact absurd rfl h

/-- An institution's identifier matches its pattern. -/
theorem FinancialInstitution.bicfi_matches (fi : FinancialInstitution) :
    isBicfi (beforeFinalNewline fi.bicfi) = true := by
  have hvalid := fi.valid
  rw [FinancialInstitution.validate] at hvalid
  split_ifs at hvalid with hpattern
  rw [Bool.not_eq_true, Bool.not_eq_false'] at hpattern
  exact hpattern

theorem FinancialInstitution.name_ne_empty (fi : FinancialInstitution) {name : String}
    (h : fi.name = some name) : name ≠ "" := by
  have hvalid := fi.valid
  rw [FinancialInstitution.validate] at hvalid
  split_ifs at hvalid with hpattern hlength
  rintro rfl
  rw [h] at hlength
  exact hlength rfl

/-- What the checks of an instruction promise of its texts. -/
theorem CashLegInstruction.texts (instruction : CashLegInstruction) :
    (∀ text ∈ [instruction.messageId, instruction.endToEndId],
      text ≠ "" ∧ ∀ c ∈ text.toList, ¬ c.toNat < 32) ∧
    isCurrency (beforeFinalNewline instruction.currency) = true ∧
    instruction.debtor.bicfi ≠ instruction.creditor.bicfi := by
  have hvalid := instruction.valid
  simp only [CashLegInstruction.validate, Outcome.bind_eq_ok] at hvalid
  obtain ⟨_, hmessage, _, hendToEnd, _, -, hrest⟩ := hvalid
  by_cases hcurrency : (!matchesCurrency instruction.currency) = true
  · rw [if_pos hcurrency] at hrest
    cases hrest
  rw [if_neg hcurrency] at hrest
  by_cases hnaive : instruction.createdAt.utcOffset = none
  · rw [if_pos hnaive] at hrest
    cases hrest
  rw [if_neg hnaive] at hrest
  by_cases hparties : instruction.debtor.bicfi = instruction.creditor.bicfi
  · rw [if_pos hparties] at hrest
    cases hrest
  rw [if_neg hparties, Outcome.bind_eq_ok] at hrest
  obtain ⟨_, hcontrol, hcontrol'⟩ := hrest
  have hne : ∀ {field text : String}, checkIdentifierLength field text = .ok () → text ≠ "" := by
    rintro field text h rfl
    cases h
  have hplain : ∀ {field text : String}, checkControlCharacters field text = .ok () →
      ∀ c ∈ text.toList, ¬ c.toNat < 32 := by
    intro field text h c hc hlt
    rw [checkControlCharacters, if_pos (List.any_eq_true.mpr ⟨c, hc, by simpa using hlt⟩)] at h
    cases h
  refine ⟨?_, ?_, hparties⟩
  · intro text htext
    rcases List.mem_cons.mp htext with rfl | htext
    · exact ⟨hne hmessage, hplain hcontrol⟩
    · rw [List.mem_singleton.mp htext]
      exact ⟨hne hendToEnd, hplain hcontrol'⟩
  · rw [Bool.not_eq_true, Bool.not_eq_false'] at hcurrency
    exact hcurrency

/-- The texts of an instruction are ones that a document carries unchanged: its identifiers and
the names of debtor and creditor hold no character that a document may not, the names no carriage
return, and no pattern sees less than the whole text. -/
structure Carriable (fields : CashLegFields) : Prop where
  identifiers : ∀ text ∈ [fields.messageId, fields.endToEndId], ∀ c ∈ text.toList,
    isXmlChar c = true
  names : ∀ party ∈ [fields.debtor, fields.creditor], ∀ name, party.name = some name →
    ∀ c ∈ name.toList, isXmlChar c = true ∧ c ≠ carriageReturn
  whole : ∀ text ∈ [fields.currency, fields.debtor.bicfi, fields.creditor.bicfi,
    fields.sender.bicfi, fields.receiver.bicfi], text.toList.getLast? ≠ some lineFeed

/-- The texts of a profile are ones that a document carries unchanged. -/
structure DepositoryProfile.Carriable (profile : DepositoryProfile) : Prop where
  transfer : CarriedText profile.fiCreditTransferName
  header : CarriedText profile.businessApplicationHeaderName
  service : ∀ service, profile.businessService = some service → CarriedText service

theorem baseIso20022_carriable : baseIso20022.Carriable where
  transfer := ⟨by decide, by decide⟩
  header := ⟨by decide, by decide⟩
  service := by
    intro service hservice
    cases hservice

/-! ### Texts that are carried -/

/-- A text of name characters is carried. -/
theorem carriedText_of_nameChars {text : String} (hne : text ≠ "")
    (h : ∀ c ∈ text.toList, isNameChar c = true ∨ c ∈ [':', '+', lineFeed]) :
    CarriedText text := by
  refine ⟨hne, fun c hc => ?_⟩
  have hmarks : ∀ d ∈ [':', '+', lineFeed], isXmlChar d = true ∧ d ≠ carriageReturn := by decide
  rcases h c hc with hname | hmark
  · refine ⟨isXmlChar_of_isNameChar hname, ?_⟩
    rintro rfl
    exact absurd hname (by decide)
  · exact hmarks c hmark

theorem isNameChar_of_isDigit {c : Char} (h : c.isDigit = true) : isNameChar c = true := by
  rw [isNameChar, Char.isAlphanum, h, Bool.or_true, Bool.true_or, Bool.true_or, Bool.true_or]

theorem isNameChar_of_isCapitalOrDigit {c : Char} (h : isCapitalOrDigit c = true) :
    isNameChar c = true := by
  simp only [isCapitalOrDigit, isCapital, Bool.or_eq_true, Bool.and_eq_true,
    decide_eq_true_eq] at h
  simp only [isNameChar_eq, Bool.or_eq_true, Bool.and_eq_true, decide_eq_true_eq]
  rcases h with hcapital | hdigit
  · exact .inl (.inl (.inl (.inl (.inl hcapital))))
  · exact .inl (.inl (.inl (.inr hdigit)))

theorem carriedText_isoformat (time : Timestamp) : CarriedText time.isoformat := by
  refine carriedText_of_nameChars time.isoformat_ne_empty fun c hc => ?_
  have hmarks : ∀ d ∈ ['-', 'T', ':', '.', '+'],
      isNameChar d = true ∨ d ∈ [':', '+', lineFeed] := by decide
  rcases Timestamp.mem_isoformat hc with hdigit | hmark
  · exact .inl (isNameChar_of_isDigit hdigit)
  · exact hmarks c hmark

theorem carriedText_bicfi (fi : FinancialInstitution) : CarriedText fi.bicfi := by
  have hpattern := fi.bicfi_matches
  refine carriedText_of_nameChars ?_ fun c hc => ?_
  · intro hempty
    rw [hempty] at hpattern
    cases hpattern
  · rcases beforeFinalNewline_append fi.bicfi with hsame | hfeed
    · rw [hsame] at hc
      exact .inl (isNameChar_of_isCapitalOrDigit (isCapitalOrDigit_of_mem_bicfi hpattern hc))
    · rw [hfeed, List.mem_append] at hc
      rcases hc with hc | hc
      · exact .inl (isNameChar_of_isCapitalOrDigit (isCapitalOrDigit_of_mem_bicfi hpattern hc))
      · right
        rw [List.mem_singleton.mp hc]
        decide

theorem carriedText_amount (instruction : CashLegInstruction) :
    CarriedText (fmtAmount instruction.amount) := by
  obtain ⟨d, hd, hnegative, hcoefficient, -, -⟩ := instruction.amount_digits
  have hdigit : ∀ c ∈ (toString d.coefficient).toList, c.isDigit = true := by
    intro c hc
    rw [Nat.toString_eq_ofList_toDigits, String.toList_ofList] at hc
    exact Nat.isDigit_of_mem_toDigits (by decide) (by decide) hc
  refine carriedText_of_nameChars ?_ fun c hc => ?_
  · intro hempty
    obtain ⟨_, read, -, hread, -⟩ := ofText_fmtAmount instruction
    rw [hempty] at hread
    cases hread
  · rw [hd, fmtAmount_eq hnegative hcoefficient] at hc
    have hplain := plain_pointedDigits hdigit _ c hc
    rw [isPlainCharacter, Bool.or_eq_true, decide_eq_true_eq] at hplain
    left
    rcases hplain with hdigit | rfl
    · exact isNameChar_of_isDigit hdigit
    · decide

section

variable {instruction : CashLegInstruction} {profile : DepositoryProfile} {namespaceUri : String}

theorem Carriable.carriedText (h : Carriable instruction.toCashLegFields) :
    CarriedText instruction.messageId ∧ CarriedText instruction.endToEndId := by
  obtain ⟨hplain, -, -⟩ := instruction.texts
  have htext : ∀ text ∈ [instruction.messageId, instruction.endToEndId], CarriedText text := by
    intro text hmem
    refine ⟨(hplain text hmem).1, fun c hc => ⟨h.identifiers text hmem c hc, ?_⟩⟩
    rintro rfl
    exact (hplain text hmem).2 _ hc (by decide)
  exact ⟨htext _ (by simp), htext _ (by simp)⟩

/-! ## The header -/

/-- What a header says of an instruction: its identifier and its time, and the identifiers of
sender and receiver, whose names are left out. -/
structure HeaderSays (namespaceUri : String) (fields : CashLegFields) (header : XmlElement) :
    Prop where
  messageId : header.textAt namespaceUri ["BizMsgIdr"] = some fields.messageId
  createdAt : ∀ time : Timestamp,
    header.textAt namespaceUri ["CreDt"] = some time.isoformat ↔ time = fields.createdAt
  sender : header.textAt namespaceUri ["Fr", "FIId", "FinInstnId", "BICFI"] =
    some fields.sender.bicfi
  receiver : header.textAt namespaceUri ["To", "FIId", "FinInstnId", "BICFI"] =
    some fields.receiver.bicfi
  unnamed : ∀ party ∈ ["Fr", "To"],
    header.descend namespaceUri [party, "FIId", "FinInstnId", "Nm"] = none

theorem some_isoformat_iff {time other : Timestamp} :
    some other.isoformat = some time.isoformat ↔ time = other := by
  rw [Option.some_inj]
  constructor
  · intro h
    exact (Timestamp.isoformat_injective h).symm
  · rintro rfl
    rfl

/-- What the header's children are. -/
def headerChildren (instruction : CashLegInstruction) (profile : DepositoryProfile) :
    List XmlElement :=
  [headerParty "Fr" instruction.sender, headerParty "To" instruction.receiver,
      .leaf "BizMsgIdr" instruction.messageId, .leaf "MsgDefIdr" profile.fiCreditTransferName] ++
    (profile.businessService.map (XmlElement.leaf "BizSvc")).toList ++
    [.leaf "CreDt" instruction.createdAt.isoformat]

theorem allCarried_header (hprofile : profile.Carriable)
    (h : Carriable instruction.toCashLegFields) :
    AllCarried namespaceUri (headerChildren instruction profile) := by
  have hparty : ∀ {tag : String} (fi : FinancialInstitution) {ts : List XmlElement},
      PlainName tag.toList → AllCarried namespaceUri ts →
        AllCarried namespaceUri (headerParty tag fi :: ts) := by
    intro tag fi ts htag hts
    refine hts.group htag (allCarried_nil.group ⟨by decide, by decide⟩
      (allCarried_nil.group ⟨by decide, by decide⟩
        (allCarried_nil.leaf ⟨by decide, by decide⟩ (carriedText_bicfi fi))))
  have hlast : AllCarried namespaceUri
      ((profile.businessService.map (XmlElement.leaf "BizSvc")).toList ++
        [.leaf "CreDt" instruction.createdAt.isoformat]) := by
    have hcreated : AllCarried namespaceUri [.leaf "CreDt" instruction.createdAt.isoformat] :=
      allCarried_nil.leaf ⟨by decide, by decide⟩ (carriedText_isoformat _)
    rcases hservice : profile.businessService with _ | service
    · exact hcreated
    · exact hcreated.leaf ⟨by decide, by decide⟩ (hprofile.service service hservice)
  exact hparty _ ⟨by decide, by decide⟩ (hparty _ ⟨by decide, by decide⟩
    ((hlast.leaf ⟨by decide, by decide⟩ hprofile.transfer).leaf ⟨by decide, by decide⟩
      h.carriedText.1))

/-- The namespace of a message whose name is carried. -/
theorem messageNamespace_carried {definition : String} (h : CarriedText definition) :
    messageNamespace definition ≠ "" ∧
      ∀ c ∈ (messageNamespace definition).toList, isXmlChar c = true := by
  have hprefix : ("urn:iso:std:iso:20022:tech:xsd:".toList.all isXmlChar) = true := by
    decide +kernel
  have hchars : (messageNamespace definition).toList =
      "urn:iso:std:iso:20022:tech:xsd:".toList ++ definition.toList := String.toList_append
  constructor
  · intro hempty
    rw [hempty] at hchars
    exact h.1 (String.toList_eq_nil_iff.mp (List.append_eq_nil_iff.mp hchars.symm).2)
  · intro c hc
    rw [hchars] at hc
    rcases List.mem_append.mp hc with hc | hc
    · exact List.all_eq_true.mp hprefix c hc
    · exact (h.2 c hc).1

theorem readDocument_carried {definition name : String} {children : List XmlElement}
    (hdefinition : CarriedText definition) (hname : PlainName name.toList)
    (h : AllCarried (messageNamespace definition) children) :
    readDocument (writeDocument (messageNamespace definition)
      (.group (qualified (messageNamespace definition) name) children)) =
        some (inNamespace (messageNamespace definition) (.group name children)) := by
  obtain ⟨hne, hchars⟩ := messageNamespace_carried hdefinition
  exact readDocument_inNamespace hne hname hchars (fun e he => (h e he).plain)
    (fun e he => (h e he).writable) fun e he => (h e he).steady

/-- The header is read back as what it says of the instruction. -/
theorem header_reads (hprofile : profile.Carriable) (h : Carriable instruction.toCashLegFields) :
    ∃ header, readDocument (emitBusinessApplicationHeader instruction profile) = some header ∧
      HeaderSays (messageNamespace profile.businessApplicationHeaderName)
        instruction.toCashLegFields header := by
  have hname : PlainName "AppHdr".toList := ⟨by decide, by decide⟩
  have hread := readDocument_carried hprofile.header hname (allCarried_header hprofile h)
  have hne := (messageNamespace_carried hprofile.header).1
  refine ⟨_, hread, ?_⟩
  constructor
  · rw [textAt_inNamespace hne]
    rfl
  · intro time
    rw [textAt_inNamespace hne]
    have htext : (XmlElement.group "AppHdr" (headerChildren instruction profile)).textAt ""
        ["CreDt"] = some instruction.createdAt.isoformat := by
      rw [headerChildren]
      rcases profile.businessService with _ | service <;> rfl
    rw [htext]
    exact some_isoformat_iff
  · rw [textAt_inNamespace hne]
    rfl
  · rw [textAt_inNamespace hne]
    rfl
  · intro party hparty
    rw [descend_inNamespace hne]
    rcases List.mem_cons.mp hparty with rfl | hparty
    · rfl
    · rw [List.mem_singleton.mp hparty]
      rfl

/-! ## The document -/

/-- What a message says of a party at the end of a path: its identifier, and its name where it has
one. -/
structure PartySays (namespaceUri : String) (path : List String) (fi : FinancialInstitution)
    (document : XmlElement) : Prop where
  bicfi : document.textAt namespaceUri (path ++ ["FinInstnId", "BICFI"]) = some fi.bicfi
  name : document.textAt namespaceUri (path ++ ["FinInstnId", "Nm"]) = fi.name

/-- What a document says of an instruction. -/
structure DocumentSays (namespaceUri : String) (fields : CashLegFields) (document : XmlElement) :
    Prop where
  messageId : document.textAt namespaceUri ["FICdtTrf", "GrpHdr", "MsgId"] =
    some fields.messageId
  endToEndId : document.textAt namespaceUri ["FICdtTrf", "CdtTrfTxInf", "PmtId", "EndToEndId"] =
    some fields.endToEndId
  createdAt : ∀ time : Timestamp,
    document.textAt namespaceUri ["FICdtTrf", "GrpHdr", "CreDtTm"] = some time.isoformat ↔
      time = fields.createdAt
  /-- the text of the amount is that of the same number -/
  amount : ∃ d text read, fields.amount = .finite d ∧
    document.textAt namespaceUri ["FICdtTrf", "CdtTrfTxInf", "IntrBkSttlmAmt"] = some text ∧
      Decimal.ofText text = .ok (.finite read) ∧ read.value = d.value
  currency : (document.descend namespaceUri ["FICdtTrf", "CdtTrfTxInf", "IntrBkSttlmAmt"]).bind
    (XmlElement.attribute? "Ccy") = some fields.currency
  settlementMethod : ∀ method : SettlementMethod,
    document.textAt namespaceUri ["FICdtTrf", "GrpHdr", "SttlmInf", "SttlmMtd"] =
      some method.value ↔ method = fields.settlementMethod
  debtor : PartySays namespaceUri ["FICdtTrf", "CdtTrfTxInf", "Dbtr"] fields.debtor document
  creditor : PartySays namespaceUri ["FICdtTrf", "CdtTrfTxInf", "Cdtr"] fields.creditor document

/-- What the document's children are. -/
def documentChildren (instruction : CashLegInstruction) : List XmlElement :=
  [.group "FICdtTrf"
    [.group "GrpHdr"
      [.leaf "MsgId" instruction.messageId,
       .leaf "CreDtTm" instruction.createdAt.isoformat,
       .leaf "NbOfTxs" "1",
       .group "SttlmInf" [.leaf "SttlmMtd" instruction.settlementMethod.value]],
     .group "CdtTrfTxInf"
      [.group "PmtId" [.leaf "EndToEndId" instruction.endToEndId],
       .element "IntrBkSttlmAmt" [("Ccy", instruction.currency)]
         (some (fmtAmount instruction.amount)) [],
       fiElement "Dbtr" instruction.debtor,
       fiElement "Cdtr" instruction.creditor]]]

theorem SettlementMethod.value_injective {a b : SettlementMethod} (h : a.value = b.value) :
    a = b := by
  cases a <;> cases b <;> first | rfl | exact absurd h (by decide)

theorem carriedText_settlementMethod (method : SettlementMethod) : CarriedText method.value := by
  cases method <;> exact ⟨by decide, by decide⟩

/-- The amount is carried with its currency. -/
theorem carried_amount :
    Carried namespaceUri (.element "IntrBkSttlmAmt" [("Ccy", instruction.currency)]
      (some (fmtAmount instruction.amount)) []) := by
  have hcurrency := instruction.texts.2.1
  refine carried_element ⟨by decide, by decide⟩ ?_ (List.nodup_singleton _) ?_ ?_
  · intro p hp
    have hcode : PlainName "Ccy".toList := ⟨by decide, by decide⟩
    have hother : "Ccy" ≠ "xmlns" := by decide
    rw [List.mem_singleton.mp hp]
    exact ⟨hcode, hother⟩
  · intro p hp c hc
    rw [List.mem_singleton.mp hp] at hc
    rw [isCurrency, Bool.and_eq_true, List.all_eq_true] at hcurrency
    have hcapital : c ∈ beforeFinalNewline instruction.currency → isXmlChar c = true := fun hc =>
      isXmlChar_of_isNameChar (isNameChar_of_isCapitalOrDigit
        (isCapitalOrDigit_of_isCapital (hcurrency.2 c hc)))
    rcases beforeFinalNewline_append instruction.currency with hsame | hfeed
    · exact hcapital (hsame ▸ hc)
    · have hc : c ∈ instruction.currency.toList := hc
      rw [hfeed, List.mem_append] at hc
      rcases hc with hc | hc
      · exact hcapital hc
      · rw [List.mem_singleton.mp hc]
        decide
  · intro held hheld
    rw [← Option.some_inj.mp hheld]
    exact carriedText_amount instruction

theorem allCarried_document (h : Carriable instruction.toCashLegFields) :
    AllCarried namespaceUri (documentChildren instruction) := by
  have hparty : ∀ {tag : String} {fi : FinancialInstitution} {ts : List XmlElement},
      fi ∈ [instruction.debtor, instruction.creditor] → PlainName tag.toList →
        AllCarried namespaceUri ts → AllCarried namespaceUri (fiElement tag fi :: ts) := by
    intro tag fi ts hfi htag hts
    have hname : AllCarried namespaceUri (fi.name.map (XmlElement.leaf "Nm")).toList := by
      rcases hname : fi.name with _ | name
      · exact allCarried_nil
      · exact allCarried_nil.leaf ⟨by decide, by decide⟩
          ⟨fi.name_ne_empty hname, h.names fi hfi name hname⟩
    exact hts.group htag (allCarried_nil.group ⟨by decide, by decide⟩
      (hname.leaf ⟨by decide, by decide⟩ (carriedText_bicfi fi)))
  have hmethod : AllCarried namespaceUri
      [.group "SttlmInf" [.leaf "SttlmMtd" instruction.settlementMethod.value]] :=
    allCarried_nil.group ⟨by decide, by decide⟩
      (allCarried_nil.leaf ⟨by decide, by decide⟩ (carriedText_settlementMethod _))
  have hgroup : AllCarried namespaceUri [.leaf "MsgId" instruction.messageId,
      .leaf "CreDtTm" instruction.createdAt.isoformat, .leaf "NbOfTxs" "1",
      .group "SttlmInf" [.leaf "SttlmMtd" instruction.settlementMethod.value]] :=
    ((hmethod.leaf ⟨by decide, by decide⟩ ⟨by decide, by decide⟩).leaf ⟨by decide, by decide⟩
      (carriedText_isoformat _)).leaf ⟨by decide, by decide⟩ h.carriedText.1
  have hparties : AllCarried namespaceUri
      [fiElement "Dbtr" instruction.debtor, fiElement "Cdtr" instruction.creditor] :=
    hparty (by simp) ⟨by decide, by decide⟩
      (hparty (by simp) ⟨by decide, by decide⟩ allCarried_nil)
  have htransfer : AllCarried namespaceUri
      [.group "PmtId" [.leaf "EndToEndId" instruction.endToEndId],
       .element "IntrBkSttlmAmt" [("Ccy", instruction.currency)]
         (some (fmtAmount instruction.amount)) [],
       fiElement "Dbtr" instruction.debtor, fiElement "Cdtr" instruction.creditor] :=
    (hparties.cons (@carried_amount instruction _) allCarried_nil).group ⟨by decide, by decide⟩
      (allCarried_nil.leaf ⟨by decide, by decide⟩ h.carriedText.2)
  exact allCarried_nil.group ⟨by decide, by decide⟩
    ((allCarried_nil.group ⟨by decide, by decide⟩ htransfer).group ⟨by decide, by decide⟩ hgroup)

theorem textAt_fiElement (tag : String) (fi : FinancialInstitution) :
    (fiElement tag fi).textAt "" ["FinInstnId", "Nm"] = fi.name := by
  rw [fiElement]
  rcases fi.name with _ | name <;> rfl

/-- The document is read back as what it says of the instruction. -/
theorem document_reads (hprofile : profile.Carriable) (h : Carriable instruction.toCashLegFields) :
    ∃ document, readDocument (emitFiCreditTransfer instruction profile) = some document ∧
      DocumentSays (messageNamespace profile.fiCreditTransferName)
        instruction.toCashLegFields document := by
  have hname : PlainName "Document".toList := ⟨by decide, by decide⟩
  have hread := readDocument_carried hprofile.transfer hname (allCarried_document h)
  have hne := (messageNamespace_carried hprofile.transfer).1
  refine ⟨_, hread, ?_⟩
  constructor
  · rw [textAt_inNamespace hne]
    rfl
  · rw [textAt_inNamespace hne]
    rfl
  · intro time
    rw [textAt_inNamespace hne]
    exact some_isoformat_iff
  · obtain ⟨d, read, hd, htext, hvalue⟩ := ofText_fmtAmount instruction
    refine ⟨d, fmtAmount instruction.amount, read, hd, ?_, htext, hvalue⟩
    rw [textAt_inNamespace hne]
    rfl
  · rw [descend_inNamespace hne]
    rfl
  · intro method
    rw [textAt_inNamespace hne]
    constructor
    · intro hmethod
      exact (SettlementMethod.value_injective (Option.some_inj.mp hmethod)).symm
    · rintro rfl
      rfl
  · constructor
    · rw [textAt_inNamespace hne]
      rfl
    · rw [textAt_inNamespace hne]
      exact textAt_fiElement "Dbtr" instruction.debtor
  · constructor
    · rw [textAt_inNamespace hne]
      rfl
    · rw [textAt_inNamespace hne]
      exact textAt_fiElement "Cdtr" instruction.creditor

/-! ## The message pair -/

/-- The identifiers and the currency have the form that their schema asks of a whole text, and
debtor and creditor are different institutions. -/
structure SchemaForm (fields : CashLegFields) : Prop where
  bicfi : ∀ party ∈ [fields.debtor, fields.creditor, fields.sender, fields.receiver],
    isBicfi party.bicfi.toList = true
  currency : isCurrency fields.currency.toList = true
  apart : fields.debtor.bicfi ≠ fields.creditor.bicfi

theorem Carriable.schemaForm (h : Carriable instruction.toCashLegFields) :
    SchemaForm instruction.toCashLegFields := by
  obtain ⟨-, hcurrency, hparties⟩ := instruction.texts
  have hwhole := h.whole
  simp only [List.forall_mem_cons] at hwhole
  obtain ⟨hcode, hdebtor, hcreditor, hsender, hreceiver, -⟩ := hwhole
  refine ⟨?_, ?_, hparties⟩
  · have hform : ∀ {fi : FinancialInstitution}, fi.bicfi.toList.getLast? ≠ some lineFeed →
        isBicfi fi.bicfi.toList = true := by
      intro fi hend
      have hpattern := fi.bicfi_matches
      rwa [beforeFinalNewline_eq hend] at hpattern
    simp only [List.forall_mem_cons]
    exact ⟨hform hdebtor, hform hcreditor, hform hsender, hform hreceiver, List.forall_mem_nil _⟩
  · rwa [beforeFinalNewline_eq hcode] at hcurrency

/-- An instruction whose texts a document carries unchanged is emitted as a header and a document
that are read back as the instruction, in the form the schema asks. The header leaves the names of
sender and receiver out. -/
theorem emit_says (hprofile : profile.Carriable) (h : Carriable instruction.toCashLegFields) :
    (∃ header, readDocument (emitBusinessApplicationHeader instruction profile) = some header ∧
      HeaderSays (messageNamespace profile.businessApplicationHeaderName)
        instruction.toCashLegFields header) ∧
    (∃ document, readDocument (emitFiCreditTransfer instruction profile) = some document ∧
      DocumentSays (messageNamespace profile.fiCreditTransferName)
        instruction.toCashLegFields document) ∧
    SchemaForm instruction.toCashLegFields :=
  ⟨header_reads hprofile h, document_reads hprofile h, h.schemaForm⟩

end

/-! ## Some instructions -/

/-- A transfer between two institutions, sent by a named one. -/
def transferFrom (debtor creditor : FinancialInstitution) : CashLegFields where
  messageId := "MSG-53"
  endToEndId := "E2E-53"
  createdAt := .utc (.of 2026 11 9) 45000000000
  amount := .finite ⟨false, 53125, -2⟩
  currency := "USD"
  debtor := debtor
  creditor := creditor
  settlementMethod := .clearingSystem
  sender := { bicfi := "SNDRUS33", name := some "Sending Bank" }
  receiver := { bicfi := "RCVRUS33" }

def betweenTwo : CashLegInstruction where
  toCashLegFields := transferFrom { bicfi := "DBTRUS33", name := some "Debtor & Sons" }
    { bicfi := "CDTRUS33XXX" }
  valid := by decide +kernel

theorem betweenTwo_carriable : Carriable betweenTwo.toCashLegFields where
  identifiers := by decide +kernel
  names := by
    intro party hparty name hname
    rcases List.mem_cons.mp hparty with rfl | hparty
    · cases hname
      decide +kernel
    · rw [List.mem_singleton.mp hparty] at hname
      cases hname
  whole := by decide +kernel

theorem emit_says_betweenTwo :
    (∃ header, readDocument (emitBusinessApplicationHeader betweenTwo baseIso20022) =
        some header ∧
      HeaderSays (messageNamespace "head.001.001.04") betweenTwo.toCashLegFields header) ∧
    (∃ document, readDocument (emitFiCreditTransfer betweenTwo baseIso20022) = some document ∧
      DocumentSays (messageNamespace "pacs.009.001.13") betweenTwo.toCashLegFields document) ∧
    SchemaForm betweenTwo.toCashLegFields :=
  emit_says baseIso20022_carriable betweenTwo_carriable

/-- A creditor whose identifier is the debtor's and a line feed. -/
def toItself : CashLegInstruction where
  toCashLegFields := transferFrom { bicfi := "DBTRUS33" } { bicfi := "DBTRUS33\n" }
  valid := by decide +kernel

/-- The sender is named, and the header names no one; and an identifier that ends in a line feed
is admitted, which its pattern does not match as a whole and which makes one institution two. -/
theorem emit_says_misses :
    (betweenTwo.sender.name = some "Sending Bank" ∧
      ∃ header, readDocument (emitBusinessApplicationHeader betweenTwo baseIso20022) =
          some header ∧
        header.descend (messageNamespace "head.001.001.04") ["Fr", "FIId", "FinInstnId", "Nm"] =
          none) ∧
    (beforeFinalNewline toItself.creditor.bicfi = toItself.debtor.bicfi.toList ∧
      isBicfi toItself.creditor.bicfi.toList = false) := by
  obtain ⟨header, hread, hprinted⟩ := header_reads baseIso20022_carriable betweenTwo_carriable
  refine ⟨⟨rfl, header, hread, hprinted.unnamed "Fr" List.mem_cons_self⟩, ?_, ?_⟩
  · decide +kernel
  · decide +kernel

end Atreides
