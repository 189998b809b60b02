import Atreides.CorporateActions.Iso20022.Movements
import Atreides.CorporateActions.Iso20022.Opening

/-!
# Reading a movement back

A movement report that is encoded is decoded as the same report, where its identifiers have no
blanks at their ends: with every amount the same number, and every balance as large as the context
of arithmetic holds it. No other release and no other stage reads it.

## Main definitions

* `SameMovement`, `CarriesBalances` — what a message keeps of a movement and of balances
* `Restates` — a report as a message states another

## Main results

* `readMovement_encoded` — what is read of an encoded report
* `movement_round_trip` — an encoded report is decoded, by its own profile alone
-/

namespace Atreides

namespace CorporateActions

namespace Iso20022

open XmlElement XmlText

open CustomerProtection (NonNegativeMoney)

open scoped Characters

theorem kept_directionCode (direction : Direction) : Kept (directionCode direction) := by
  cases direction <;> exact kept_of_visible (by decide) (by decide)

/-! ## Balances -/

section

variable {namespaceUri : String} {value : Option FiniteDecimal} {es : List XmlElement}

/-- A value that is stated is one element, and one that is not is none. -/
theorem stated_eq_ok {build : FiniteDecimal → Outcome XmlElement}
    (h : stated build value = .ok es) :
    (value = none ∧ es = []) ∨ ∃ v e, value = some v ∧ es = [e] ∧ build v = .ok e := by
  rcases value with _ | v
  · cases h
    exact .inl ⟨rfl, rfl⟩
  · rw [stated, Outcome.map_eq_ok] at h
    obtain ⟨e, he, rfl⟩ := h
    exact .inr ⟨v, e, rfl, rfl, he⟩

/-- What the elements of one balance say, and where they stand. -/
structure BalanceElements (namespaceUri tag : String) (eligible : Bool)
    (value : Option FiniteDecimal) (es : List XmlElement) : Prop where
  tagged : ∀ e ∈ es, e.tag = tag
  told : (value = none ∧ es = []) ∨ ∃ v e, value = some v ∧ es = [e] ∧ SaysBalance eligible v e
  carried : AllCarried namespaceUri es

theorem stated_signedBalance (namespaceUri : String) {tag : String} (htag : PlainName tag.toList)
    (h : stated (signedBalance tag) value = .ok es) :
    BalanceElements namespaceUri tag false value es := by
  rcases stated_eq_ok h with ⟨rfl, rfl⟩ | ⟨v, e, rfl, rfl, hbuild⟩
  · exact ⟨fun e he => absurd he List.not_mem_nil, .inl ⟨rfl, rfl⟩, allCarried_nil⟩
  · obtain ⟨hown, htold, hcarried⟩ := signedBalance_element namespaceUri htag hbuild
    refine ⟨?_, .inr ⟨v, e, rfl, rfl, htold⟩, hcarried⟩
    intro e' he'
    rwa [List.mem_singleton.mp he']

theorem stated_eligibleBalance (namespaceUri : String) (h : stated eligibleBalance value = .ok es) :
    BalanceElements namespaceUri "TtlElgblBal" true value es := by
  rcases stated_eq_ok h with ⟨rfl, rfl⟩ | ⟨v, e, rfl, rfl, hbuild⟩
  · exact ⟨fun e he => absurd he List.not_mem_nil, .inl ⟨rfl, rfl⟩, allCarried_nil⟩
  · obtain ⟨hown, htold, hcarried⟩ := eligibleBalance_element namespaceUri hbuild
    refine ⟨?_, .inr ⟨v, e, rfl, rfl, htold⟩, hcarried⟩
    intro e' he'
    rwa [List.mem_singleton.mp he']

/-- Elements of one tag are found under it, and under no other. -/
theorem BalanceElements.filter {tag : String} {eligible : Bool}
    (h : BalanceElements namespaceUri tag eligible value es) (name : String) :
    es.filter (fun e => e.tag = name) = if tag = name then es else [] := by
  split_ifs with hsame
  · rw [List.filter_eq_self]
    intro e he
    rw [h.tagged e he, hsame, decide_eq_true_iff]
  · rw [List.filter_eq_nil_iff]
    intro e he
    rw [h.tagged e he, decide_eq_true_iff]
    exact hsame

/-- A balance is read from its element, and none where there is none. -/
theorem BalanceElements.read {tag : String} {eligible : Bool} (path : List String)
    {account : XmlElement} (h : BalanceElements namespaceUri tag eligible value es)
    (hfind : account.findPath "" path = es.head?) :
    ∃ read, signedAt "" path eligible account = .ok read ∧ Carries value read := by
  rcases h.told with ⟨rfl, rfl⟩ | ⟨v, e, rfl, rfl, text, size, hunit, hposition, hsize, hwritten⟩
  · refine ⟨none, ?_, trivial⟩
    rw [signedAt, hfind]
    rfl
  · obtain ⟨read, hread, hcarried⟩ :=
      signedAt_of_texts hfind hunit hposition hsize hwritten
    exact ⟨some read, hread, hcarried⟩

end

/-- The balances of a report as a message carries them. -/
structure CarriesBalances (before after : MovementBalances) : Prop where
  eligible : Carries before.eligibleBalance after.eligibleBalance
  confirmed : Carries before.confirmedBalance after.confirmedBalance
  delivery : Carries before.pendingDeliveryBalance after.pendingDeliveryBalance
  receipt : Carries before.pendingReceiptBalance after.pendingReceiptBalance
  position : Carries before.settlementPositionBalance after.settlementPositionBalance

/-- An account and its balances, in either message. -/
def accountChildren (account : String) (balances : List XmlElement) : List XmlElement :=
  [.leaf "SfkpgAcct" account, .group "Bal" balances]

theorem find_balance (tag account name : String) (balances : List XmlElement) :
    (XmlElement.group tag (accountChildren account balances)).findPath "" ["Bal", name] =
      (balances.filter fun e => e.tag = name).head? := by
  have hsingle : ∀ es : List XmlElement, es.flatMap (findall "" []) = es := by
    intro es
    induction es with
    | nil => rfl
    | cons e es ih => rw [List.flatMap_cons, ih]; rfl
  have hbalances : (XmlElement.group tag (accountChildren account balances)).findall ""
      ["Bal", name] = (XmlElement.group "Bal" balances).findall "" [name] := by
    have hone : (XmlElement.group tag (accountChildren account balances)).children.filter
        (fun child => child.tag = named "" "Bal") = [.group "Bal" balances] := rfl
    rw [findall, hone, List.flatMap_singleton]
  rw [findPath, hbalances, findall, hsingle]
  rfl

/-- The balances of an account are read as a message carries them. -/
theorem readBalances_elements {namespaceUri : String} (tag account : String)
    {values : MovementBalances} {balances : List XmlElement} (huri : namespaceUri ≠ "")
    (h : balanceElements values = .ok balances) :
    ∃ read, readBalances namespaceUri
        (inNamespace namespaceUri (.group tag (accountChildren account balances))) = .ok read ∧
      CarriesBalances values read ∧ AllCarried namespaceUri balances := by
  simp only [balanceElements, Outcome.bind_eq_ok] at h
  obtain ⟨es₁, h₁, es₂, h₂, es₃, h₃, es₄, h₄, es₅, h₅, h⟩ := h
  cases h
  have hconfirmed := stated_signedBalance namespaceUri
    (by decide) h₁
  have heligible := stated_eligibleBalance namespaceUri h₂
  have hdelivery := stated_signedBalance namespaceUri (by decide) h₃
  have hreceipt := stated_signedBalance namespaceUri (by decide) h₄
  have hposition := stated_signedBalance namespaceUri (by decide) h₅
  have hfind : ∀ name, (XmlElement.group tag
      (accountChildren account (es₁ ++ es₂ ++ es₃ ++ es₄ ++ es₅))).findPath "" ["Bal", name] =
        ((if "ConfdBal" = name then es₁ else []) ++ (if "TtlElgblBal" = name then es₂ else []) ++
          (if "PdgDlvryBal" = name then es₃ else []) ++
          (if "PdgRctBal" = name then es₄ else []) ++
          if "SttlmPosBal" = name then es₅ else []).head? := by
    intro name
    rw [find_balance, List.filter_append, List.filter_append, List.filter_append,
      List.filter_append, hconfirmed.filter, heligible.filter, hdelivery.filter,
      hreceipt.filter, hposition.filter]
  obtain ⟨eligible, hreadE, hcarriesE⟩ := heligible.read ["Bal", "TtlElgblBal"]
    ((hfind _).trans (by simp))
  obtain ⟨confirmed, hreadC, hcarriesC⟩ := hconfirmed.read ["Bal", "ConfdBal"]
    ((hfind _).trans (by simp))
  obtain ⟨delivery, hreadD, hcarriesD⟩ := hdelivery.read ["Bal", "PdgDlvryBal"]
    ((hfind _).trans (by simp))
  obtain ⟨receipt, hreadR, hcarriesR⟩ := hreceipt.read ["Bal", "PdgRctBal"]
    ((hfind _).trans (by simp))
  obtain ⟨position, hreadP, hcarriesP⟩ := hposition.read ["Bal", "SttlmPosBal"]
    ((hfind _).trans (by simp))
  refine ⟨⟨eligible, confirmed, delivery, receipt, position⟩, ?_,
    ⟨hcarriesE, hcarriesC, hcarriesD, hcarriesR, hcarriesP⟩, ?_⟩
  · rw [readBalances, signedAt_within huri, hreadE, Outcome.ok_bind, signedAt_within huri, hreadC,
      Outcome.ok_bind, signedAt_within huri, hreadD, Outcome.ok_bind, signedAt_within huri,
      hreadR, Outcome.ok_bind, signedAt_within huri, hreadP, Outcome.ok_bind]
  · simp only [allCarried_append]
    exact ⟨⟨⟨⟨hconfirmed.carried, heligible.carried⟩, hdelivery.carried⟩, hreceipt.carried⟩,
      hposition.carried⟩

/-! ## Movements -/

/-- What a message keeps of a movement: its kind, its currency or security, and its number. -/
def SameMovement : Movement → Movement → Prop
  | .cash amount currency _, .cash amount' currency' _ =>
    amount'.amount.value = amount.amount.value ∧ currency' = currency
  | .securities security quantity _, .securities security' quantity' _ =>
    security' = security ∧ quantity'.amount.value = quantity.amount.value
  | _, _ => False

section

variable {namespaceUri : String} {report : MovementReport} {moving : XmlElement}

theorem allCarried_movementDate (namespaceUri : String) (report : MovementReport) :
    AllCarried namespaceUri [movementDateElement report] := by
  have hpath : ∀ stage : MovementStage,
      ∀ name ∈ ["DtDtls", choose stage "PmtDt" "PstngDt"], PlainName name.toList := by
    intro stage
    cases stage <;> decide
  rw [movementDateElement]
  exact allCarried_nest (hpath report.stage)
    (allCarried_leaf (by decide) (kept_isoformat report.movementDate).carried)

/-- What an option's element holds besides its movement. -/
def detailChildren (report : MovementReport) (moving : XmlElement) : List XmlElement :=
  [choose report.stage (.leaf "OptnNb" report.optionId)
      (nest ["OptnNb"] (.leaf "Nb" report.optionId)),
    nest ["OptnTp"] (.leaf "Cd" (optionCode report.optionType))] ++
    defaultElements report ++ [moving]

/-- What is said of the movement beside the amount. -/
structure SaysMovement (report : MovementReport) (moving : XmlElement) : Prop where
  side : textAt "" ["CdtDbtInd"] moving = some (stripped (directionCode report.direction))
  date : textAt "" ["DtDtls", choose report.stage "PmtDt" "PstngDt", "Dt"] moving =
    some (stripped report.movementDate.isoformat)

/-- The movement's element is found under its tag, and no other movement beside it. -/
theorem find_moving (report : MovementReport) (moving : XmlElement) (tag own other : String)
    (hown : moving.tag = own) (hne : own ≠ other)
    (hkinds : ∀ name ∈ [own, other], name ∈ ["CshMvmntDtls", "SctiesMvmntDtls"]) :
    (XmlElement.group tag (detailChildren report moving)).findPath "" [own] = some moving ∧
      (XmlElement.group tag (detailChildren report moving)).findPath "" [other] = none := by
  have hrest : ∀ name ∈ ["CshMvmntDtls", "SctiesMvmntDtls"],
      (XmlElement.group tag (detailChildren report moving)).findPath "" [name] =
        if moving.tag = name then some moving else none := by
    intro name hname
    have hothers : ∃ others, detailChildren report moving = others ++ [moving] ∧
        ∀ e ∈ others, e.tag ∉ ["CshMvmntDtls", "SctiesMvmntDtls"] := by
      refine ⟨_, rfl, ?_⟩
      rw [defaultElements]
      rcases report.stage with _ | _ <;>
        simp [choose, nest, XmlElement.leaf, XmlElement.group, XmlElement.tag]
    obtain ⟨others, hchildren, hothers⟩ := hothers
    have hnone : others.filter (fun child => child.tag = named "" name) = [] := by
      rw [List.filter_eq_nil_iff]
      intro e he htag
      apply hothers e he
      rw [of_decide_eq_true htag]
      exact hname
    have hlast : [moving].filter (fun child => child.tag = named "" name) =
        if moving.tag = name then [moving] else [] := by
      rw [List.filter_cons, List.filter_nil]
      exact if_congr (by simp [named]) rfl rfl
    rw [findPath, findall, XmlElement.group, XmlElement.children, hchildren, List.filter_append, hnone,
      hlast]
    split_ifs <;> rfl
  constructor
  · rw [hrest own (hkinds own (by simp)), if_pos hown]
  · rw [hrest other (hkinds other (by simp)), if_neg (hown ▸ hne)]

/-- The element of cash of a report. -/
def cashElement (report : MovementReport) (currency text : String) : XmlElement :=
  .group "CshMvmntDtls"
    [.leaf "CdtDbtInd" (directionCode report.direction),
     nest ["AmtDtls"] (.element (choose report.stage "EntitldAmt" "PstngAmt")
       [("Ccy", currency)] (some text) []),
     movementDateElement report]

/-- The element of securities of a report. -/
def securitiesElement (report : MovementReport) (security text : String) : XmlElement :=
  .group "SctiesMvmntDtls"
    [nest (choose report.stage ["SctyDtls", "FinInstrmId"] ["FinInstrmId"])
       (.leaf "ISIN" security),
     .leaf "CdtDbtInd" (directionCode report.direction),
     nest [choose report.stage "EntitldQty" "PstngQty", "Qty"] (.leaf "Unit" text),
     movementDateElement report]

/-- The amount of cash is read back with its currency. -/
theorem readCash_element (report : MovementReport) {amount : NonNegativeMoney} {currency text : String}
    (huri : namespaceUri ≠ "") (hcode : isCurrencyCode currency = true)
    (hwritten : WrittenNumber text amount.amount.value) :
    ∃ money : NonNegativeMoney, money.amount.value = amount.amount.value ∧
      readCash namespaceUri report.stage
        (inNamespace namespaceUri (cashElement report currency text)) =
          .ok (.cash money currency hcode) := by
  obtain ⟨-, number, hnumber, hparsed⟩ := hwritten
  obtain ⟨money, hmoney, hvalue⟩ := check_of_value hnumber
  refine ⟨money, hvalue, ?_⟩
  have hfind : (cashElement report currency text).findPath ""
      ["AmtDtls", choose report.stage "EntitldAmt" "PstngAmt"] =
        some (.element (choose report.stage "EntitldAmt" "PstngAmt") [("Ccy", currency)]
          (some text) []) := by
    rw [cashElement]
    rcases report.stage with _ | _ <;> rfl
  have hcurrency : cashMovement number currency = .ok (.cash money currency hcode) := by
    rw [cashMovement, hmoney, Outcome.ok_bind, dif_pos hcode]
  have htext : (XmlElement.element (choose report.stage "EntitldAmt" "PstngAmt")
      [("Ccy", currency)] (some text) []).text = some text := rfl
  have hnamed : (XmlElement.element (choose report.stage "EntitldAmt" "PstngAmt")
      [("Ccy", currency)] (some text) []).attribute? "Ccy" = some currency := rfl
  rw [readCash, findPath_inNamespace huri, hfind]
  dsimp only [Option.map_some]
  rw [text_inNamespace, htext, orRefuse, Outcome.ok_bind, hparsed, Outcome.ok_bind,
    attribute?_within, hnamed, Option.getD_some, hcurrency]

/-- The quantity of securities is read back with their identifier. -/
theorem readSecurities_element (report : MovementReport) {quantity : NonNegativeMoney} {security text : String}
    (huri : namespaceUri ≠ "") (hisin : isIsin security = true)
    (hwritten : WrittenNumber text quantity.amount.value) :
    ∃ money : NonNegativeMoney, money.amount.value = quantity.amount.value ∧
      readSecurities namespaceUri report.stage
        (inNamespace namespaceUri (securitiesElement report security text)) =
          .ok (.securities security money hisin) := by
  obtain ⟨hkept, number, hnumber, hparsed⟩ := hwritten
  obtain ⟨money, hmoney, hvalue⟩ := check_of_value hnumber
  refine ⟨money, hvalue, ?_⟩
  have hunit : textAt "" [choose report.stage "EntitldQty" "PstngQty", "Qty", "Unit"]
      (securitiesElement report security text) = some (stripped text) := by
    rw [securitiesElement]
    rcases report.stage with _ | _ <;> rfl
  have hidentifier : textAt ""
      (choose report.stage ["SctyDtls", "FinInstrmId", "ISIN"] ["FinInstrmId", "ISIN"])
      (securitiesElement report security text) = some (stripped security) := by
    rw [securitiesElement]
    rcases report.stage with _ | _ <;> rfl
  have hsecurities : securitiesMovement security number = .ok (.securities security money hisin) := by
    rw [securitiesMovement, dif_pos hisin, hmoney, Outcome.ok_bind]
  rw [readSecurities, textAt_within huri, hunit, hkept.whole, orRefuse, Outcome.ok_bind,
    requiredAt_within huri, requiredAt_of_kept hidentifier (kept_isin hisin), Outcome.ok_bind,
    hparsed, Outcome.ok_bind, hsecurities]

theorem allCarried_cash {currency text : String} (hcode : isCurrencyCode currency = true)
    (htext : CarriedText text) : AllCarried namespaceUri [cashElement report currency text] := by
  have htag : ∀ stage : MovementStage,
      PlainName (choose stage "EntitldAmt" "PstngAmt").toList := by
    intro stage
    cases stage <;> decide
  rw [cashElement]
  refine allCarried_group (by decide) (allCarried_cons.mpr ⟨?_, allCarried_cons.mpr ⟨?_, ?_⟩⟩)
  · exact allCarried_leaf (by decide) (kept_directionCode report.direction).carried
  · exact allCarried_nest (by decide) (allCarried_amount (htag report.stage) hcode htext)
  · exact allCarried_movementDate _ _

theorem allCarried_securities {security text : String} (hisin : isIsin security = true)
    (htext : CarriedText text) :
    AllCarried namespaceUri [securitiesElement report security text] := by
  have hidentifier : ∀ stage : MovementStage,
      ∀ name ∈ choose stage ["SctyDtls", "FinInstrmId"] ["FinInstrmId"],
        PlainName name.toList := by
    intro stage
    cases stage <;> decide
  have hquantity : ∀ stage : MovementStage,
      ∀ name ∈ [choose stage "EntitldQty" "PstngQty", "Qty"], PlainName name.toList := by
    intro stage
    cases stage <;> decide
  rw [securitiesElement]
  refine allCarried_group (by decide) (allCarried_cons.mpr ⟨?_, allCarried_cons.mpr ⟨?_,
    allCarried_cons.mpr ⟨?_, ?_⟩⟩⟩)
  · exact allCarried_nest (hidentifier report.stage)
      (allCarried_leaf (by decide) (kept_isin hisin).carried)
  · exact allCarried_leaf (by decide) (kept_directionCode report.direction).carried
  · exact allCarried_nest (hquantity report.stage) (allCarried_leaf (by decide) htext)
  · exact allCarried_movementDate _ _

/-- The movement of a report is read back from its option's element. -/
theorem movementElement_read (huri : namespaceUri ≠ "") (h : movementElement report = .ok moving)
    (tag : String) :
    (∃ movement, readOneMovement namespaceUri report.stage
        (inNamespace namespaceUri (.group tag (detailChildren report moving))) =
          .ok (movement, inNamespace namespaceUri moving) ∧
      SameMovement report.movement movement) ∧
    SaysMovement report moving ∧ AllCarried namespaceUri [moving] := by
  rcases hmovement : report.movement with ⟨amount, currency, hcode⟩ | ⟨security, quantity, hisin⟩
  · rw [movementElement, hmovement] at h
    dsimp only at h
    rw [Outcome.bind_eq_ok] at h
    obtain ⟨text, htext, h⟩ := h
    have hmoving : moving = cashElement report currency text := (Except.ok.inj h).symm
    subst hmoving
    have hwritten := decimal_written (by decide) htext
    obtain ⟨hcash, hnone⟩ := find_moving report (cashElement report currency text) tag
      "CshMvmntDtls" "SctiesMvmntDtls" rfl (by decide) (by decide)
    obtain ⟨money, hvalue, hread⟩ := readCash_element report huri hcode hwritten
    refine ⟨⟨.cash money currency hcode, ?_, hvalue, rfl⟩, ⟨rfl, ?_⟩,
      allCarried_cash hcode hwritten.1.carried⟩
    · rw [readOneMovement, findPath_inNamespace huri, findPath_inNamespace huri, hcash, hnone]
      dsimp only [Option.map_some, Option.map_none]
      rw [hread]
      rfl
    · rw [cashElement, movementDateElement]
      rcases report.stage with _ | _ <;> rfl
  · rw [movementElement, hmovement] at h
    dsimp only at h
    rw [Outcome.bind_eq_ok] at h
    obtain ⟨text, htext, h⟩ := h
    have hmoving : moving = securitiesElement report security text := (Except.ok.inj h).symm
    subst hmoving
    have hwritten := decimal_written (by decide) htext
    obtain ⟨hsecurities, hnone⟩ := find_moving report (securitiesElement report security text)
      tag "SctiesMvmntDtls" "CshMvmntDtls" rfl (by decide) (by decide)
    obtain ⟨money, hvalue, hread⟩ := readSecurities_element report huri hisin hwritten
    refine ⟨⟨.securities security money hisin, ?_, rfl, hvalue⟩, ⟨?_, ?_⟩,
      allCarried_securities hisin hwritten.1.carried⟩
    · rw [readOneMovement, findPath_inNamespace huri, findPath_inNamespace huri, hsecurities, hnone]
      dsimp only [Option.map_some, Option.map_none]
      rw [hread]
      rfl
    · rw [securitiesElement]
      rcases report.stage with _ | _ <;> rfl
    · rw [securitiesElement, movementDateElement]
      rcases report.stage with _ | _ <;> rfl

end

/-! ## The event, the account and the option -/

section

variable {namespaceUri : String} {report : MovementReport}

/-- What the elements of participation are, where a report fits its stage. -/
structure ParticipationElements (namespaceUri : String) (report : MovementReport)
    (es : List XmlElement) : Prop where
  read : ∀ eventId, readParticipation namespaceUri report.stage
    (inNamespace namespaceUri (eventElement report eventId es)) = .ok report.participation
  code : ∀ eventId, textAt "" ["EvtTp", "Cd"] (eventElement report eventId es) =
    some (stripped (eventCode report.eventType))
  security : ∀ eventId, textAt ""
    (choose report.stage ["UndrlygScty", "FinInstrmId", "ISIN"] ["FinInstrmId", "ISIN"])
    (eventElement report eventId es) = some (stripped report.securityId)
  identifier : ∀ eventId, textAt "" ["CorpActnEvtId"] (eventElement report eventId es) =
    some (stripped eventId)
  carried : AllCarried namespaceUri es

theorem participationElements_read {es : List XmlElement} (huri : namespaceUri ≠ "")
    (hconfirmation : report.stage = .confirmation → report.participation = none)
    (h : participationElements report.stage report.participation = .ok es) :
    ParticipationElements namespaceUri report es := by
  rcases hstage : report.stage with _ | _
  · rcases hparticipation : report.participation with _ | participation
    · rw [hstage, hparticipation] at h
      cases h
    · rw [hstage, hparticipation] at h
      cases h
      constructor
      · intro eventId
        have htext : textAt "" ["MndtryVlntryEvtTp", "Cd"] (eventElement report eventId
            [nest ["MndtryVlntryEvtTp"] (.leaf "Cd" (participationCode participation))]) =
              some (stripped (participationCode participation)) := rfl
        rw [hstage, hparticipation, readParticipation, choose, requiredAt_within huri,
          requiredAt_of_kept htext (kept_participationCode participation), Outcome.ok_bind,
          ofCode, lookup_participations]
        rfl
      · intro eventId
        rfl
      · intro eventId
        rw [eventElement, hstage]
        rfl
      · intro eventId
        rfl
      · exact allCarried_nest (by decide)
          (allCarried_leaf (by decide) (kept_participationCode participation).carried)
  · rw [hstage] at h
    cases h
    constructor
    · intro eventId
      rw [hstage, hconfirmation hstage]
      rfl
    · intro eventId
      rfl
    · intro eventId
      rw [eventElement, hstage]
      rfl
    · intro eventId
      rfl
    · exact allCarried_nil

theorem allCarried_event {es : List XmlElement} (hisin : isIsin report.securityId = true)
    (hevent : CarriedText report.eventId) (h : AllCarried namespaceUri es) :
    AllCarried namespaceUri [eventElement report report.eventId es] := by
  have hpath : ∀ stage : MovementStage,
      ∀ name ∈ choose stage ["UndrlygScty", "FinInstrmId"] ["FinInstrmId"],
        PlainName name.toList := by
    intro stage
    cases stage <;> decide
  rw [eventElement]
  refine allCarried_group (by decide) (allCarried_append.mpr ⟨allCarried_append.mpr
    ⟨allCarried_cons.mpr ⟨?_, ?_⟩, h⟩, ?_⟩)
  · exact allCarried_leaf (by decide) hevent
  · exact allCarried_nest (by decide)
      (allCarried_leaf (by decide) (kept_eventCode report.eventType).carried)
  · exact allCarried_nest (hpath report.stage)
      (allCarried_leaf (by decide) (kept_isin hisin).carried)

/-- Whether the option is the default one is read back. -/
theorem readDefault_detail (huri : namespaceUri ≠ "") (tag : String) (moving : XmlElement)
    (hadvice : report.stage = .preliminaryAdvice → report.defaultOption ≠ none)
    (hconfirmation : report.stage = .confirmation → report.defaultOption = none) :
    readDefault namespaceUri report.stage
      (inNamespace namespaceUri (.group tag (detailChildren report moving))) =
        .ok report.defaultOption := by
  rcases hstage : report.stage with _ | _
  · have htext : textAt "" ["DfltPrcgOrStgInstr", "DfltOptnInd"]
        (.group tag (detailChildren report moving)) = some (stripped
          (if report.defaultOption = some true then "true" else "false")) := by
      rw [detailChildren, defaultElements, hstage]
      rfl
    have hkept : Kept (if report.defaultOption = some true then "true" else "false") := by
      split_ifs
      · exact kept_of_visible (by decide) (by decide)
      · exact kept_of_visible (by decide) (by decide)
    have hside : oneOf (if report.defaultOption = some true then "true" else "false")
        booleanCodes "default" = .ok (report.defaultOption = some true) := by
      split_ifs with hdefault
      · rw [hdefault]
        rfl
      · rw [decide_eq_false hdefault]
        rfl
    rw [readDefault, choose, requiredAt_within huri, requiredAt_of_kept htext hkept,
      Outcome.ok_bind, hside]
    rcases hdefault : report.defaultOption with _ | _ | _
    · exact absurd hdefault (hadvice hstage)
    · rfl
    · rfl
  · rw [hconfirmation hstage]
    rfl

theorem allCarried_detail {tag : String} {moving : XmlElement} (htag : PlainName tag.toList)
    (hnumber : isOptionNumber report.optionId = true) (h : AllCarried namespaceUri [moving]) :
    AllCarried namespaceUri [.group tag (detailChildren report moving)] := by
  have hcarried := (kept_optionNumber hnumber).carried
  rw [detailChildren]
  refine allCarried_group htag (allCarried_append.mpr ⟨allCarried_append.mpr
    ⟨allCarried_cons.mpr ⟨?_, ?_⟩, ?_⟩, h⟩)
  · rcases report.stage with _ | _
    · exact allCarried_leaf (by decide) hcarried
    · exact allCarried_nest (by decide) (allCarried_leaf (by decide) hcarried)
  · exact allCarried_nest (by decide)
      (allCarried_leaf (by decide) (kept_optionCode report.optionType).carried)
  · rw [defaultElements]
    rcases report.stage with _ | _
    · refine allCarried_nest (by decide) (allCarried_leaf (by decide) ?_)
      split_ifs
      · exact (kept_of_visible (by decide) (by decide)).carried
      · exact (kept_of_visible (by decide) (by decide)).carried
    · exact allCarried_nil

end

/-! ## Reports -/

/-- What a valid report satisfies. -/
theorem validate_eq_ok {fields : MovementReportFields} :
    fields.validate = .ok () ↔
      (fields.eventId ≠ "" ∧ isIsin fields.securityId = true ∧ fields.accountId ≠ "" ∧
        isOptionNumber fields.optionId = true ∧ fields.provenance.isFact = true) ∧
      fields.authority.governedEventId = fields.eventId ∧
      (fields.stage = .preliminaryAdvice → fields.participation ≠ none ∧
        fields.defaultOption ≠ none ∧ fields.balances.confirmedBalance = none) ∧
      (fields.stage = .confirmation → fields.participation = none ∧
        fields.defaultOption = none ∧ fields.balances.confirmedBalance ≠ none) := by
  have hnamed : ∀ {text : String}, required text = .ok () ↔ text ≠ "" := Outcome.refuseIf_eq_ok
  simp only [MovementReportFields.validate, MovementReportFields.fitsItsStage,
    Outcome.bind_eq_ok, Outcome.refuseIf_eq_ok, hnamed, exists_const, Bool.not_eq_true',
    Bool.not_eq_false]
  rcases fields.stage with _ | _
  · simp
    tauto
  · simp
    tauto

/-- A report with what a message says of it: other identifiers, balances and movement, on the word
of another. -/
def restated (report : MovementReport) (origin : MovementOrigin) (eventId accountId : String)
    (balances : MovementBalances) (movement : Movement) : MovementReportFields :=
  { report.toMovementReportFields with
    eventId := eventId
    accountId := accountId
    balances := balances
    movement := movement
    provenance := origin.provenance
    source := origin.source
    authority := origin.authority }

/-- A report that was read states what another states, on the word of its origin: the balances as
a message carries them, the movement as the same number of the same kind, all else alike. -/
structure Restates (report : MovementReport) (origin : MovementOrigin) (read : MovementReport) :
    Prop where
  fields : read.toMovementReportFields = restated report origin report.eventId report.accountId
    read.balances read.movement
  balances : CarriesBalances report.balances read.balances
  movement : SameMovement report.movement read.movement

/-- A balance is absent where the one it was carried as is. -/
theorem Carries.none_iff {before after : Option FiniteDecimal} (h : Carries before after) :
    after = none ↔ before = none := by
  rcases before with _ | before
  · rcases after with _ | after
    · exact Iff.rfl
    · exact h.elim
  · rcases after with _ | after
    · exact h.elim
    · simp

theorem movementReport_eq_ok {fields : MovementReportFields} {read : MovementReport} :
    movementReport fields = .ok read ↔
      fields.validate = .ok () ∧ read.toMovementReportFields = fields := by
  rw [movementReport, Outcome.checked_eq_ok]
  constructor
  · rintro ⟨hvalid, rfl⟩
    exact ⟨hvalid, rfl⟩
  · rintro ⟨hvalid, rfl⟩
    exact ⟨hvalid, rfl⟩

section

variable {report : MovementReport} {release : Release} {message : EncodedMessage}
  {library : AdapterLibrary}

/-- What an encoded report is made of. -/
theorem encodeMovement_parts (h : encodeMovement report release = .ok message) :
    ∃ (participation balances : List XmlElement) (moving : XmlElement),
      CarriedText report.eventId ∧ CarriedText report.accountId ∧
      participationElements report.stage report.participation = .ok participation ∧
      balanceElements report.balances = .ok balances ∧ movementElement report = .ok moving ∧
      message = encoded ⟨release, stageFamily report.stage⟩
        (adviceHeader report.stage ++
          [eventElement report report.eventId participation,
           accountElement report.stage report.accountId balances,
           detailElement report moving]) := by
  rw [encodeMovement, Outcome.bind_eq_ok] at h
  obtain ⟨_, -, h⟩ := h
  rw [Outcome.bind_eq_ok] at h
  obtain ⟨eventId, hevent, h⟩ := h
  rw [Outcome.bind_eq_ok] at h
  obtain ⟨participation, hparticipation, h⟩ := h
  rw [Outcome.bind_eq_ok] at h
  obtain ⟨account, haccount, h⟩ := h
  rw [Outcome.bind_eq_ok] at h
  obtain ⟨balances, hbalances, h⟩ := h
  rw [Outcome.bind_eq_ok] at h
  obtain ⟨moving, hmoving, h⟩ := h
  obtain ⟨rfl, heventCarried⟩ := eventIdentifier_carried hevent
  obtain ⟨rfl, haccountCarried⟩ := accountIdentifier_carried haccount
  exact ⟨participation, balances, moving, heventCarried, haccountCarried, hparticipation,
    hbalances, hmoving, (Except.ok.inj h).symm⟩

/-- The elements of an encoded report are carried. -/
theorem allCarried_encoded {namespaceUri : String} {participation balances : List XmlElement}
    {moving : XmlElement} (hevent : CarriedText report.eventId)
    (haccount : CarriedText report.accountId) (hparticipation : AllCarried namespaceUri participation)
    (hbalances : AllCarried namespaceUri balances) (hmoving : AllCarried namespaceUri [moving]) :
    AllCarried namespaceUri (adviceHeader report.stage ++
      [eventElement report report.eventId participation,
       accountElement report.stage report.accountId balances, detailElement report moving]) := by
  obtain ⟨⟨-, hisin, -, hnumber, -⟩, -⟩ := validate_eq_ok.mp report.valid
  have hchildren : AllCarried namespaceUri (accountChildren report.accountId balances) :=
    allCarried_cons.mpr ⟨allCarried_leaf (by decide) haccount,
      allCarried_group (by decide) hbalances⟩
  have hdetailTag : ∀ stage : MovementStage,
      PlainName (choose stage "CorpActnMvmntDtls" "CorpActnConfDtls").toList := by
    intro stage
    cases stage <;> decide
  refine allCarried_append.mpr ⟨?_, allCarried_cons.mpr ⟨?_, allCarried_cons.mpr ⟨?_, ?_⟩⟩⟩
  · rcases report.stage with _ | _
    · refine allCarried_group (by decide) (allCarried_cons.mpr ⟨?_, ?_⟩)
      · exact allCarried_leaf (by decide) (kept_of_visible (by decide) (by decide)).carried
      · exact allCarried_leaf (by decide) (kept_of_visible (by decide) (by decide)).carried
    · exact allCarried_nil
  · exact allCarried_event hisin hevent hparticipation
  · rw [accountElement]
    rcases report.stage with _ | _
    · exact allCarried_nest (by decide) (allCarried_group (by decide) hchildren)
    · exact allCarried_group (by decide) hchildren
  · exact allCarried_detail (hdetailTag report.stage) hnumber hmoving

/-- Where the parts of an encoded report are found. -/
theorem find_parts (root : String) (report : MovementReport) (participation balances : List XmlElement)
    (moving : XmlElement) :
    let message := XmlElement.group root (adviceHeader report.stage ++
      [eventElement report report.eventId participation,
       accountElement report.stage report.accountId balances, detailElement report moving])
    message.findPath "" ["CorpActnGnlInf"] =
        some (eventElement report report.eventId participation) ∧
      message.findPath "" (choose report.stage ["AcctDtls", "AcctsListAndBalDtls"] ["AcctDtls"]) =
        some (.group (choose report.stage "AcctsListAndBalDtls" "AcctDtls")
          (accountChildren report.accountId balances)) ∧
      message.findPath "" [choose report.stage "CorpActnMvmntDtls" "CorpActnConfDtls"] =
        some (.group (choose report.stage "CorpActnMvmntDtls" "CorpActnConfDtls")
          (detailChildren report moving)) := by
  have hdetail : detailElement report moving =
      .group (choose report.stage "CorpActnMvmntDtls" "CorpActnConfDtls")
        (detailChildren report moving) := rfl
  rw [hdetail, eventElement]
  generalize detailChildren report moving = details
  rcases report.stage with _ | _
  · exact ⟨rfl, rfl, rfl⟩
  · exact ⟨rfl, rfl, rfl⟩

/-- What is read of an encoded report: the same report, but for the figures, and for the blanks at
the ends of its identifiers. -/
theorem readMovement_encoded {namespaceUri root : String} (huri : namespaceUri ≠ "")
    {participation balances : List XmlElement} {moving : XmlElement}
    (hparticipation : participationElements report.stage report.participation = .ok participation)
    (hbalances : balanceElements report.balances = .ok balances)
    (hmoving : movementElement report = .ok moving) (origin : MovementOrigin) :
    ∃ (values : MovementBalances) (movement : Movement),
      CarriesBalances report.balances values ∧ SameMovement report.movement movement ∧
      readMovement library namespaceUri report.stage origin (inNamespace namespaceUri
        (.group root (adviceHeader report.stage ++
          [eventElement report report.eventId participation,
           accountElement report.stage report.accountId balances,
           detailElement report moving]))) =
        library.orInvalid "the movement is not valid: " (do
          let eventId ← requiredAt "" ["CorpActnEvtId"]
            (eventElement report report.eventId participation)
          movementReport (restated report origin eventId (stripped report.accountId) values
            movement)) := by
  obtain ⟨⟨-, hisin, -, hnumber, -⟩, -, hadvice, hconfirmation⟩ := validate_eq_ok.mp report.valid
  have hinfo := participationElements_read huri (fun hstage => (hconfirmation hstage).1)
    hparticipation
  have hdefault := readDefault_detail huri (choose report.stage "CorpActnMvmntDtls"
    "CorpActnConfDtls") moving (fun hstage => (hadvice hstage).2.1)
      fun hstage => (hconfirmation hstage).2.1
  obtain ⟨values, hvalues, hcarries, -⟩ := readBalances_elements
    (choose report.stage "AcctsListAndBalDtls" "AcctDtls") report.accountId huri hbalances
  obtain ⟨⟨movement, hmovement, hsame⟩, ⟨hside, hdate⟩, -⟩ := movementElement_read huri hmoving
    (choose report.stage "CorpActnMvmntDtls" "CorpActnConfDtls")
  obtain ⟨hfindInfo, hfindAccount, hfindDetail⟩ :=
    find_parts root report participation balances moving
  refine ⟨values, movement, hcarries, hsame, ?_⟩
  have haccount : textAt "" ["SfkpgAcct"]
      (.group (choose report.stage "AcctsListAndBalDtls" "AcctDtls")
        (accountChildren report.accountId balances)) = some (stripped report.accountId) := rfl
  have hoption : textAt "" (choose report.stage ["OptnNb"] ["OptnNb", "Nb"])
      (.group (choose report.stage "CorpActnMvmntDtls" "CorpActnConfDtls")
        (detailChildren report moving)) = some (stripped report.optionId) := by
    rw [detailChildren]
    rcases report.stage with _ | _ <;> rfl
  have htype : textAt "" ["OptnTp", "Cd"]
      (.group (choose report.stage "CorpActnMvmntDtls" "CorpActnConfDtls")
        (detailChildren report moving)) = some (stripped (optionCode report.optionType)) := by
    rw [detailChildren]
    rcases report.stage with _ | _ <;> rfl
  have hcredit : oneOf (directionCode report.direction) creditCodes "direction" =
      .ok (report.direction = .credit) := by
    rcases report.direction with _ | _ <;> rfl
  have hdirection : (if decide (report.direction = .credit) = true then Direction.credit
      else Direction.debit) = report.direction := by
    rcases report.direction with _ | _ <;> rfl
  have hpair : ∀ a b : XmlElement, (do
      let account ← some a
      let detail ← some b
      some (account, detail)) = some (a, b) := by
    intro a b
    rfl
  rw [readMovement, findPath_inNamespace huri, hfindInfo, Option.map_some, orRefuse, Outcome.ok_bind,
    requiredAt_within huri, requiredAt_of_kept (hinfo.code _) (kept_eventCode _),
    Outcome.ok_bind, ofCode, lookup_eventTypes]
  dsimp only
  rw [Outcome.ok_bind, findPath_inNamespace huri, hfindAccount, Option.map_some,
    findPath_inNamespace huri, hfindDetail, Option.map_some, hpair, orRefuse, Outcome.ok_bind,
    textAt_within huri, haccount, orRefuse, Outcome.ok_bind, hvalues, Outcome.ok_bind, hmovement,
    Outcome.ok_bind, dateAt_within huri, dateAt_of_isoformat hdate, Outcome.ok_bind, orRefuse,
    Outcome.ok_bind, hinfo.read, Outcome.ok_bind, textAt_within huri, hinfo.security,
    (kept_isin hisin).whole, orRefuse, Outcome.ok_bind, requiredAt_within huri]
  simp only [requiredAt_within huri, requiredAt_of_kept hoption (kept_optionNumber hnumber),
    requiredAt_of_kept htype (kept_optionCode _), requiredAt_of_kept hside (kept_directionCode _),
    Outcome.ok_bind, optionTypeOf, ofCode, lookup_optionTypes, hdefault, hcredit, hdirection]
  rfl

/-- An encoded report is a message of carried elements, and what is read of them. -/
theorem encodeMovement_message (h : encodeMovement report release = .ok message)
    (library : AdapterLibrary) (origin : MovementOrigin) :
    ∃ (children : List XmlElement) (info : XmlElement) (values : MovementBalances)
        (movement : Movement),
      message = encoded ⟨release, stageFamily report.stage⟩ children ∧
      AllCarried (MessageProfile.namespaceUri ⟨release, stageFamily report.stage⟩) children ∧
      textAt "" ["CorpActnEvtId"] info = some (stripped report.eventId) ∧
      CarriesBalances report.balances values ∧ SameMovement report.movement movement ∧
      readMovement library (MessageProfile.namespaceUri ⟨release, stageFamily report.stage⟩)
          report.stage origin
          (inNamespace (MessageProfile.namespaceUri ⟨release, stageFamily report.stage⟩)
            (.group (MessageProfile.root ⟨release, stageFamily report.stage⟩) children)) =
        library.orInvalid "the movement is not valid: " (do
          let eventId ← requiredAt "" ["CorpActnEvtId"] info
          movementReport (restated report origin eventId (stripped report.accountId) values
            movement)) := by
  obtain ⟨-, -, -, hconfirmation⟩ := validate_eq_ok.mp report.valid
  obtain ⟨participation, balances, moving, hevent, haccount, hparticipation, hbalances, hmoving,
    hmessage⟩ := encodeMovement_parts h
  have huri := (messageNamespace_carried
    (MessageProfile.messageId_carried ⟨release, stageFamily report.stage⟩)).1
  have hinfo := participationElements_read huri (fun hstage => (hconfirmation hstage).1)
    hparticipation
  obtain ⟨-, -, -, hbalancesCarried⟩ := readBalances_elements "AcctDtls" report.accountId huri
    hbalances
  have hmovingCarried := (movementElement_read huri hmoving "CorpActnConfDtls").2.2
  obtain ⟨values, movement, hcarries, hsame, hread⟩ :=
    readMovement_encoded huri hparticipation hbalances hmoving origin
  exact ⟨_, _, values, movement, hmessage,
    allCarried_encoded hevent haccount hinfo.carried hbalancesCarried hmovingCarried,
    hinfo.identifier _, hcarries, hsame, hread⟩

/-- What is stated with the report's own identifiers is a valid report. -/
theorem restated_valid {origin : MovementOrigin} {values : MovementBalances}
    (movement : Movement) (hfact : origin.provenance.isFact = true)
    (hgoverns : origin.authority.governedEventId = report.eventId)
    (hcarries : CarriesBalances report.balances values) :
    (restated report origin report.eventId report.accountId values movement).validate =
      .ok () := by
  obtain ⟨⟨hnamed, hisin, haccountNamed, hnumber, -⟩, -, hadvice, hconfirmation⟩ :=
    validate_eq_ok.mp report.valid
  rw [validate_eq_ok]
  refine ⟨⟨hnamed, hisin, haccountNamed, hnumber, hfact⟩, hgoverns, ?_, ?_⟩
  · intro hstage
    obtain ⟨hstated, hdefault, hnone⟩ := hadvice hstage
    exact ⟨hstated, hdefault, hcarries.confirmed.none_iff.mpr hnone⟩
  · intro hstage
    obtain ⟨hstated, hdefault, hsome⟩ := hconfirmation hstage
    exact ⟨hstated, hdefault, fun hnone => hsome (hcarries.confirmed.none_iff.mp hnone)⟩

/-- What is read of a report states the report exactly where its identifiers were read as they
are. -/
theorem restates_iff {origin : MovementOrigin} {read : MovementReport} {eventId accountId : String}
    {values : MovementBalances} {movement : Movement}
    (hread : read.toMovementReportFields =
      restated report origin eventId accountId values movement)
    (hcarries : CarriesBalances report.balances values)
    (hsame : SameMovement report.movement movement) :
    Restates report origin read ↔ eventId = report.eventId ∧ accountId = report.accountId := by
  have hvalues : read.balances = values := congrArg MovementReportFields.balances hread
  have hmovement : read.movement = movement := congrArg MovementReportFields.movement hread
  have heventRead : read.eventId = eventId := congrArg MovementReportFields.eventId hread
  have haccountRead : read.accountId = accountId := congrArg MovementReportFields.accountId hread
  constructor
  · intro h
    have hevent := congrArg MovementReportFields.eventId h.fields
    have haccount := congrArg MovementReportFields.accountId h.fields
    exact ⟨heventRead.symm.trans hevent, haccountRead.symm.trans haccount⟩
  · rintro ⟨rfl, rfl⟩
    refine ⟨?_, ?_, ?_⟩
    · rw [hvalues, hmovement, hread]
    · rwa [hvalues]
    · rwa [hmovement]

theorem stageFamily_injective : Function.Injective stageFamily := by
  intro a b h
  cases a <;> cases b <;> first | rfl | exact absurd h (by decide)

/-- A report that is encoded is decoded by its own release and stage as a report that states the
same, exactly where neither of its identifiers has a blank at its ends. Every other release and
stage refuses it: another release as the wrong version, another stage as the wrong message. -/
theorem movement_round_trip (h : encodeMovement report release = .ok message)
    (hreads : library.Reads message.xml) (origin : MovementOrigin)
    (hfact : origin.provenance.isFact = true)
    (hgoverns : origin.authority.governedEventId = report.eventId) :
    ((∃ read, decodeMovement library message.xml release report.stage origin = .ok read ∧
        Restates report origin read) ↔
      stripped report.eventId = report.eventId ∧
        stripped report.accountId = report.accountId) ∧
    ∀ (asked : Release) (stage : MovementStage), (asked, stage) ≠ (release, report.stage) →
      ∃ detail, decodeMovement library message.xml asked stage origin =
        .error (refusal (if stage = report.stage then .wrongVersion else .wrongMessage)
          detail) := by
  obtain ⟨children, info, values, movement, rfl, hcarried, hidentifier, hcarries, hsame, hread⟩ :=
    encodeMovement_message h library origin
  have hsource : ¬ (!origin.provenance.isFact) = true := by
    rw [hfact]
    decide
  constructor
  · rw [decodeMovement, sourceCheck, Outcome.refuseIf_bind hsource]
    dsimp only
    rw [openMessage_encoded hreads (readAs_of_carried hcarried), Outcome.ok_bind, hread]
    constructor
    · rintro ⟨read, hdecoded, hrestates⟩
      rw [orInvalid_eq_ok, Outcome.bind_eq_ok] at hdecoded
      obtain ⟨eventId, hevent, hdecoded⟩ := hdecoded
      obtain ⟨-, rfl⟩ := (requiredAt_eq_ok hidentifier).mp hevent
      exact (restates_iff (movementReport_eq_ok.mp hdecoded).2 hcarries hsame).mp hrestates
    · rintro ⟨hevent, haccount⟩
      have hnamed := (validate_eq_ok.mp report.valid).1.1
      have hvalid := restated_valid movement hfact hgoverns hcarries
      have hrequired : requiredAt "" ["CorpActnEvtId"] info = .ok report.eventId := by
        rw [requiredAt_eq_ok hidentifier, hevent]
        exact ⟨hnamed, rfl⟩
      refine ⟨⟨_, hvalid⟩, ?_, (restates_iff rfl hcarries hsame).mpr ⟨rfl, rfl⟩⟩
      rw [orInvalid_eq_ok, hrequired, Outcome.ok_bind, haccount, movementReport_eq_ok]
      exact ⟨hvalid, rfl⟩
  · intro asked stage hne
    have hother : (⟨asked, stageFamily stage⟩ : MessageProfile) ≠
        ⟨release, stageFamily report.stage⟩ := by
      intro hprofile
      rw [MessageProfile.mk.injEq, stageFamily_injective.eq_iff] at hprofile
      exact hne (Prod.ext hprofile.1 hprofile.2)
    obtain ⟨detail, hrefused⟩ := openMessage_other hother hreads (readAs_of_carried hcarried)
    refine ⟨detail, ?_⟩
    rw [decodeMovement, sourceCheck, Outcome.refuseIf_bind hsource]
    dsimp only
    rw [hrefused, Outcome.error_bind]
    exact congrArg (fun reason => Except.error (refusal reason detail))
      (if_congr stageFamily_injective.eq_iff rfl rfl)

end

/-! ## A confirmation -/

/-- A synthetic depository, and who stands behind its movements. -/
def syntheticDepository (governedEventId : String) (named : required governedEventId = .ok ()) :
    MovementOrigin where
  provenance := .factSynthetic
  source := { sourceId := "SYN-DEPOSITORY" }
  authority :=
    { governedEventId := governedEventId
      authorizingActor := ⟨"OPS-73", .human, "operations", [], true⟩
      authorityRecordUri := "dsor://authority/73"
      provenance := .factSynthetic
      event_named := named }

/-- A dividend of twelve and a half Canadian dollars, paid on a long balance beside a short one. -/
def dividendPaid : MovementReport where
  stage := .confirmation
  eventId := "CA-73/1"
  eventType := .cashDividend
  securityId := "US0378331005"
  accountId := "ACCT 73"
  optionId := "001"
  optionType := .cash
  balances :=
    { confirmedBalance := some ⟨false, 12500, -1⟩
      pendingDeliveryBalance := some ⟨true, 70, 1⟩ }
  movement := .cash ⟨⟨false, 1250, -2⟩, rfl⟩ "CAD"
  direction := .credit
  movementDate := .of 2026 8 17
  provenance := .factSynthetic
  source := { sourceId := "SYN-DEPOSITORY" }
  authority := (syntheticDepository "CA-73/1" rfl).authority
  valid := by decide +kernel

theorem movement_round_trip_dividendPaid :
    ∃ message, encodeMovement dividendPaid .sr2026 = .ok message ∧
      (∃ read, decodeMovement plainLibrary message.xml .sr2026 .confirmation
          (syntheticDepository "CA-73/1" rfl) = .ok read ∧
        Restates dividendPaid (syntheticDepository "CA-73/1" rfl) read) ∧
      (∃ detail, decodeMovement plainLibrary message.xml .sr2025 .confirmation
        (syntheticDepository "CA-73/1" rfl) = .error (refusal .wrongVersion detail)) ∧
      ∃ detail, decodeMovement plainLibrary message.xml .sr2026 .preliminaryAdvice
        (syntheticDepository "CA-73/1" rfl) = .error (refusal .wrongMessage detail) := by
  have hencoded : (encodeMovement dividendPaid .sr2026).toOption.isSome = true := by
    decide +kernel
  rcases h : encodeMovement dividendPaid .sr2026 with error | message
  · rw [h] at hencoded
    cases hencoded
  · obtain ⟨hread, hother⟩ := movement_round_trip h (plainLibrary_reads message.xml)
      (syntheticDepository "CA-73/1" rfl) rfl rfl
    exact ⟨message, rfl, hread.mpr ⟨by decide +kernel, by decide +kernel⟩,
      hother .sr2025 .confirmation (by decide), hother .sr2026 .preliminaryAdvice (by decide)⟩

end Iso20022

end CorporateActions

end Atreides
