import Atreides.CorporateActions.Iso20022.Values
import Atreides.Foundation.Agree
import Atreides.Messaging.XmlLineEnds

/-!
# Opening a message

A message that is written is opened against its own profile and refused against every other. What
it holds is then found by its path, and a balance is read as its size on its side.

## Main definitions

* `Carries` — a balance as a message carries it
* `AdapterLibrary.Reads` — the parser reads a text as what it was written from

## Main results

* `signedAt_of_texts` — a balance is read as its size on its side
* `openMessage_encoded`, `openMessage_other` — which profile opens a message
-/

namespace Atreides

namespace CorporateActions

namespace Iso20022

open XmlElement XmlText

open DecimalContext (ambient)

open scoped Characters

/-! ## Elements that are carried -/

instance decidablePlainName (name : List Char) : Decidable (PlainName name) :=
  inferInstanceAs (Decidable (name ≠ [] ∧ ∀ c ∈ name, isNameChar c = true))

section

variable {namespaceUri : String} {ts us : List XmlElement} {e : XmlElement}

theorem allCarried_append : AllCarried namespaceUri (ts ++ us) ↔
    AllCarried namespaceUri ts ∧ AllCarried namespaceUri us := by
  rw [AllCarried, iterAll_append, List.forall_mem_append]
  exact Iff.rfl

theorem allCarried_cons : AllCarried namespaceUri (e :: ts) ↔
    AllCarried namespaceUri [e] ∧ AllCarried namespaceUri ts := @allCarried_append _ [e] ts

theorem allCarried_leaf {tag text : String} (htag : PlainName tag.toList)
    (htext : CarriedText text) : AllCarried namespaceUri [.leaf tag text] :=
  allCarried_nil.leaf htag htext

theorem allCarried_group {tag : String} (htag : PlainName tag.toList)
    (h : AllCarried namespaceUri ts) : AllCarried namespaceUri [.group tag ts] :=
  allCarried_nil.group htag h

theorem allCarried_nest {path : List String} (hpath : ∀ name ∈ path, PlainName name.toList)
    (h : AllCarried namespaceUri [e]) : AllCarried namespaceUri [nest path e] := by
  induction path with
  | nil => exact h
  | cons name path ih =>
    exact allCarried_group (hpath name List.mem_cons_self)
      (ih fun other hother => hpath other (List.mem_cons_of_mem _ hother))

/-- An amount with its currency. -/
theorem allCarried_amount {tag currency text : String} (htag : PlainName tag.toList)
    (hcode : isCurrencyCode currency = true) (htext : CarriedText text) :
    AllCarried namespaceUri [.element tag [("Ccy", currency)] (some text) []] := by
  refine allCarried_nil.cons (carried_element htag ?_ (List.nodup_singleton _) ?_ ?_)
    allCarried_nil
  · have hname : PlainName "Ccy".toList ∧ "Ccy" ≠ "xmlns" := by decide
    intro p hp
    rw [List.mem_singleton.mp hp]
    exact hname
  · intro p hp
    rw [List.mem_singleton.mp hp]
    exact isXmlChar_of_currency hcode
  · intro held hheld
    rwa [← Option.some_inj.mp hheld]

end

/-! ## Paths -/

section

variable {namespaceUri : String} {path : List String} {t e : XmlElement}

theorem textAt_within (huri : namespaceUri ≠ "") (path : List String) (t : XmlElement) :
    textAt namespaceUri path (inNamespace namespaceUri t) = textAt "" path t := by
  rw [textAt, textAt, findPath_inNamespace huri]
  rcases t.findPath "" path with _ | e
  · rfl
  · rw [Option.map_some, Option.bind_some, Option.bind_some, text_inNamespace]

theorem requiredAt_within (huri : namespaceUri ≠ "") (path : List String) (t : XmlElement) :
    requiredAt namespaceUri path (inNamespace namespaceUri t) = requiredAt "" path t := by
  rw [requiredAt, requiredAt, textAt_within huri]

theorem dateAt_within (huri : namespaceUri ≠ "") (path : List String) (t : XmlElement) :
    dateAt namespaceUri path (inNamespace namespaceUri t) = dateAt "" path t := by
  rw [dateAt, dateAt, textAt_within huri]

theorem signedAt_within (huri : namespaceUri ≠ "") (path : List String) (eligible : Bool)
    (t : XmlElement) :
    signedAt namespaceUri path eligible (inNamespace namespaceUri t) =
      signedAt "" path eligible t := by
  rw [signedAt, signedAt, findPath_inNamespace huri]
  rcases t.findPath "" path with _ | e
  · rfl
  · simp only [Option.map_some, requiredAt_within huri]

theorem attribute?_within (name : String) (t : XmlElement) :
    (inNamespace namespaceUri t).attribute? name = t.attribute? name := by
  rw [attribute?, attribute?, attributes_inNamespace]

theorem requiredAt_of_kept {text : String} (h : textAt "" path t = some (stripped text))
    (hkept : Kept text) : requiredAt "" path t = .ok text := by
  rw [requiredAt, h, hkept.whole]
  exact Outcome.refuseIf_bind hkept.carried.1

/-- What is read as a text that may not be blank is the text without the blanks at its ends. -/
theorem requiredAt_eq_ok {text read : String} (h : textAt "" path t = some (stripped text)) :
    requiredAt "" path t = .ok read ↔ stripped text ≠ "" ∧ stripped text = read := by
  rw [requiredAt, h]
  dsimp only
  rw [Outcome.bind_eq_ok]
  constructor
  · rintro ⟨_, hne, hread⟩
    exact ⟨Outcome.refuseIf_eq_ok.mp hne, Except.ok.inj hread⟩
  · rintro ⟨hne, rfl⟩
    exact ⟨(), Outcome.refuseIf_eq_ok.mpr hne, rfl⟩

theorem dateAt_of_isoformat {date : Date}
    (h : textAt "" path t = some (stripped date.isoformat)) : dateAt "" path t = .ok (some date) := by
  rw [dateAt, h, (kept_isoformat date).whole]
  dsimp only
  rw [parseDate, date.fromisoformat_isoformat]
  rfl

/-! ## Balances -/

/-- A balance as a message carries it: its size as the context of arithmetic holds it, on its
side. It is the same number where the context holds it exactly. -/
structure CarriedBalance (balance read : FiniteDecimal) : Prop where
  size : ∃ size, FiniteDecimal.abs ambient balance = .ok size ∧
    read.value = if balance.lt 0 then -size.value else size.value
  same : read.value = balance.value ↔ ambient.Represents balance.value

/-- Two balances that are both absent, or one as a message carries the other. -/
def Carries : Option FiniteDecimal → Option FiniteDecimal → Prop
  | none, none => True
  | some balance, some read => CarriedBalance balance read
  | _, _ => False

theorem represents_abs_iff {v : ℚ} : ambient.Represents |v| ↔ ambient.Represents v := by
  rcases abs_choice v with h | h
  · rw [h]
  · rw [h, DecimalContext.represents_neg_iff]

/-- What the size of a balance says of it. -/
theorem carriedBalance_of_size {balance size read : FiniteDecimal}
    (hsize : FiniteDecimal.abs ambient balance = .ok size)
    (hread : read.value = if balance.lt 0 then -size.value else size.value) :
    CarriedBalance balance read := by
  refine ⟨⟨size, hsize, hread⟩, ?_⟩
  have hexact : size.value = |balance.value| ↔ ambient.Represents balance.value := by
    rw [← represents_abs_iff, ← FiniteDecimal.abs_exact_iff]
    constructor
    · intro hsame
      exact ⟨size, hsize, hsame⟩
    · rintro ⟨size', hsize', hsame⟩
      cases hsize.symm.trans hsize'
      exact hsame
  rw [← hexact, hread]
  by_cases hshort : balance.lt 0 = true
  · have hneg := hshort
    rw [FiniteDecimal.lt_iff, FiniteDecimal.value_zero] at hneg
    rw [if_pos hshort, abs_of_neg hneg]
    exact neg_eq_iff_eq_neg
  · have hpos := hshort
    rw [FiniteDecimal.lt_iff, FiniteDecimal.value_zero, not_lt] at hpos
    rw [if_neg hshort, abs_of_nonneg hpos]

/-- The side of a balance is read as it was written, and a short one is negated exactly. -/
theorem side_read {balance size : FiniteDecimal} {number : FiniteDecimal}
    (hsize : FiniteDecimal.abs ambient balance = .ok size) (hnumber : number.value = size.value) :
    ∃ read, CarriedBalance balance read ∧
      (oneOf (if balance.lt 0 then "SHOR" else "LONG") shortCodes "position" >>= fun short =>
        if short then some <$> FiniteDecimal.neg ambient number else .ok (some number)) =
          .ok (some read) := by
  have hheld : ambient.Represents number.value := by
    rw [hnumber]
    exact DecimalContext.represents_of_fix hsize
  by_cases hshort : balance.lt 0 = true
  · obtain ⟨read, hneg, hvalue⟩ := FiniteDecimal.neg_exact hheld
    refine ⟨read, carriedBalance_of_size hsize ?_, ?_⟩
    · rw [if_pos hshort, hvalue, hnumber]
    · have hside : oneOf "SHOR" shortCodes "position" = .ok true := rfl
      rw [if_pos hshort, hside, Outcome.ok_bind, if_pos rfl, hneg]
      rfl
  · refine ⟨number, carriedBalance_of_size hsize ?_, ?_⟩
    · rw [if_neg hshort, hnumber]
    · have hside : oneOf "LONG" shortCodes "position" = .ok false := rfl
      rw [if_neg hshort, hside, Outcome.ok_bind, if_neg Bool.false_ne_true]

/-- The texts of a balance that is read. -/
theorem signedAt_of_texts {eligible : Bool} {node : XmlElement} {text : String}
    {balance size : FiniteDecimal} (hfind : t.findPath "" path = some node)
    (hunit : textAt "" ((if eligible then ["Bal", "QtyChc", "SgndQty"] else ["Bal"]) ++
      if eligible then ["Qty", "Unit"] else ["QtyChc", "Qty", "Unit"]) node =
        some (stripped text))
    (hposition : textAt "" ((if eligible then ["Bal", "QtyChc", "SgndQty"] else ["Bal"]) ++
      ["ShrtLngPos"]) node = some (stripped (if balance.lt 0 then "SHOR" else "LONG")))
    (hsize : FiniteDecimal.abs ambient balance = .ok size)
    (hwritten : WrittenNumber text size.value) :
    ∃ read, signedAt "" path eligible t = .ok (some read) ∧ CarriedBalance balance read := by
  obtain ⟨hkept, number, hnumber, hparsed⟩ := hwritten
  obtain ⟨read, hcarried, hside⟩ := side_read hsize hnumber
  refine ⟨read, ?_, hcarried⟩
  have hkeptSide : Kept (if balance.lt 0 then "SHOR" else "LONG") := by
    split_ifs
    · exact kept_of_visible (by decide) (by decide)
    · exact kept_of_visible (by decide) (by decide)
  rw [signedAt, hfind]
  dsimp only
  rw [requiredAt_of_kept hunit hkept, Outcome.ok_bind, hparsed, Outcome.ok_bind,
    requiredAt_of_kept hposition hkeptSide, Outcome.ok_bind]
  exact hside

end

/-- An element that says a balance: its side, and the text of its size. -/
def SaysBalance (eligible : Bool) (balance : FiniteDecimal) (node : XmlElement) : Prop :=
  ∃ (text : String) (size : FiniteDecimal),
    textAt "" ((if eligible then ["Bal", "QtyChc", "SgndQty"] else ["Bal"]) ++
      if eligible then ["Qty", "Unit"] else ["QtyChc", "Qty", "Unit"]) node =
        some (stripped text) ∧
    textAt "" ((if eligible then ["Bal", "QtyChc", "SgndQty"] else ["Bal"]) ++
      ["ShrtLngPos"]) node = some (stripped (if balance.lt 0 then "SHOR" else "LONG")) ∧
    FiniteDecimal.abs ambient balance = .ok size ∧ WrittenNumber text size.value

theorem carriedText_side (balance : FiniteDecimal) :
    CarriedText (if balance.lt 0 then "SHOR" else "LONG") := by
  split_ifs
  · exact (kept_of_visible (by decide) (by decide)).carried
  · exact (kept_of_visible (by decide) (by decide)).carried

/-- The element of a balance says it, under the balance's tag. -/
theorem signedBalance_element (namespaceUri : String) {tag : String} {balance : FiniteDecimal}
    {node : XmlElement} (htag : PlainName tag.toList)
    (h : signedBalance tag balance = .ok node) :
    node.tag = tag ∧ SaysBalance false balance node ∧ AllCarried namespaceUri [node] := by
  rw [signedBalance, Outcome.bind_eq_ok] at h
  obtain ⟨size, hsize, h⟩ := h
  rw [Outcome.bind_eq_ok] at h
  obtain ⟨text, htext, h⟩ := h
  cases h
  have hwritten := decimal_written (by decide) htext
  refine ⟨rfl, ⟨text, size, rfl, rfl, hsize, hwritten⟩, ?_⟩
  refine allCarried_group htag (allCarried_group (by decide) ?_)
  refine allCarried_cons.mpr ⟨allCarried_leaf (by decide) (carriedText_side _), ?_⟩
  exact allCarried_nest (by decide) (allCarried_leaf (by decide) hwritten.1.carried)

/-- So does the element of the eligible balance. -/
theorem eligibleBalance_element (namespaceUri : String) {balance : FiniteDecimal}
    {node : XmlElement} (h : eligibleBalance balance = .ok node) :
    node.tag = "TtlElgblBal" ∧ SaysBalance true balance node ∧
      AllCarried namespaceUri [node] := by
  rw [eligibleBalance, Outcome.bind_eq_ok] at h
  obtain ⟨size, hsize, h⟩ := h
  rw [Outcome.bind_eq_ok] at h
  obtain ⟨text, htext, h⟩ := h
  cases h
  have hwritten := decimal_written (by decide) htext
  refine ⟨rfl, ⟨text, size, rfl, rfl, hsize, hwritten⟩, ?_⟩
  refine allCarried_nest (by decide) (allCarried_group (by decide) ?_)
  refine allCarried_cons.mpr ⟨allCarried_leaf (by decide) (carriedText_side _), ?_⟩
  exact allCarried_nest (by decide) (allCarried_leaf (by decide) hwritten.1.carried)

/-- What was returned was read without an error. -/
theorem orInvalid_eq_ok {α : Type} {library : AdapterLibrary} {what : String} {x : Outcome α}
    {a : α} : library.orInvalid what x = .ok a ↔ x = .ok a := by
  rcases x with error | value
  · cases error <;> simp [AdapterLibrary.orInvalid]
  · exact Iff.rfl

/-! ## Profiles -/

namespace MessageProfile

variable (profile : MessageProfile)

theorem splitTag_document :
    splitTag (qualified profile.namespaceUri "Document") = (profile.namespaceUri, "Document") := by
  obtain ⟨release, family⟩ := profile
  cases release <;> cases family <;> decide +kernel

theorem namespaceUri_prefix : namespacePrefix.isPrefixOf profile.namespaceUri.toList = true := by
  obtain ⟨release, family⟩ := profile
  cases release <;> cases family <;> decide +kernel

theorem namespaceUri_rest :
    String.ofList (profile.namespaceUri.toList.drop namespacePrefix.length) =
      profile.messageId := by
  obtain ⟨release, family⟩ := profile
  cases release <;> cases family <;> decide +kernel

theorem messageId_carried : CarriedText profile.messageId := by
  obtain ⟨release, family⟩ := profile
  cases release <;> cases family <;> exact ⟨by decide, by decide +kernel⟩

theorem root_plain : PlainName profile.root.toList := by
  obtain ⟨release, family⟩ := profile
  cases release <;> cases family <;> exact ⟨by decide, by decide +kernel⟩

/-- The two first parts of a message identifier name its family. -/
theorem familyOf_eq_iff {other : MessageProfile} :
    familyOf profile.messageId = familyOf other.messageId ↔ profile.family = other.family := by
  have hfamily : ∀ p : MessageProfile, familyOf p.messageId = familyOf
      (MessageProfile.messageId ⟨.sr2025, p.family⟩) := by
    rintro ⟨release, family⟩
    cases release <;> cases family <;> decide +kernel
  rw [hfamily profile, hfamily other]
  generalize profile.family = family
  generalize other.family = family'
  cases family <;> cases family' <;> decide +kernel

/-- A message identifier names its profile. -/
theorem messageId_injective {other : MessageProfile} (h : profile.messageId = other.messageId) :
    profile = other := by
  have hfamily : profile.family = other.family :=
    profile.familyOf_eq_iff.mp (congrArg familyOf h)
  obtain ⟨release, family⟩ := profile
  obtain ⟨release', family'⟩ := other
  dsimp only at hfamily
  subst hfamily
  -- of one family, the releases differ in the version
  cases release <;> cases release' <;> cases family <;>
    first | rfl | exact absurd h (by decide +kernel)

end MessageProfile

/-- The library's parser reads a text that was written as the tree it was written from. -/
def AdapterLibrary.Reads (library : AdapterLibrary) (xml : String) : Prop :=
  ∀ document, readDocument xml = some document → library.fromstring xml = .ok document

/-- A parser that reads the documents that are written, and no others. -/
def plainLibrary : AdapterLibrary where
  fromstring xml :=
    match readDocument xml with
    | some document => .ok document
    | none => .error "syntax error"
  errorMessage _ := "Value error"

theorem plainLibrary_reads (xml : String) : plainLibrary.Reads xml := by
  intro document h
  rw [plainLibrary]
  dsimp only
  rw [h]

section

variable {library : AdapterLibrary} {profile : MessageProfile} {children : List XmlElement}

/-- The text of a message is the document of its tree. -/
theorem encoded_xml : (encoded profile children).xml = writeDocument profile.namespaceUri
    (.group (qualified profile.namespaceUri "Document") [.group profile.root children]) := by
  have hhead : "Document".toList.head? ≠ some openBrace := by decide
  rw [encoded, writeDocument, XmlElement.group, declared, documentTree, writeElement,
    writeElement, writtenName_of_head hhead, writtenName_qualified]

/-- What a message is written from, and what it is read as. -/
structure ReadAs (profile : MessageProfile) (children kids : List XmlElement) : Prop where
  writable : AllWritable profile.namespaceUri [.group profile.root children]
  document : readDocument (encoded profile children).xml =
    some (inNamespace profile.namespaceUri (.group "Document" [.group profile.root kids]))

/-- A message is read with its line ends made line feeds. -/
theorem readAs_unix (hwritable : AllWritable profile.namespaceUri children)
    (h : AllCarried profile.namespaceUri (unixAll children)) :
    ReadAs profile children (unixAll children) := by
  have hroot := allWritable_group profile.root_plain hwritable
  refine ⟨hroot, ?_⟩
  have hkids : unixAll [.group profile.root children] =
      [.group profile.root (unixAll children)] := rfl
  have hcarried : AllCarried profile.namespaceUri (unixAll [.group profile.root children]) := by
    rw [hkids]
    exact allCarried_group profile.root_plain h
  rw [encoded_xml, ← hkids]
  exact readDocument_unix profile.messageId_carried ⟨by decide, by decide⟩ hroot hcarried

/-- A message of elements that are carried is read as it was written. -/
theorem readAs_of_carried (h : AllCarried profile.namespaceUri children) :
    ReadAs profile children children := by
  have hsteady : unixAll children = children := unixAll_of_steady _ fun e he => (h e he).steady
  have hread := readAs_unix (allWritable_of_carried h) (hsteady.symm ▸ h)
  rwa [hsteady] at hread

variable {kids : List XmlElement}

theorem undeclared_encoded (h : ReadAs profile children kids) (rest : List Char) :
    ¬ ('<' :: '!' :: rest) <:+: (encoded profile children).xml.toList := by
  rw [encoded, String.toList_ofList]
  refine Undeclared.not_infix (undeclared_document ?_) rest
  intro e he
  rw [documentTree, XmlElement.iter] at he
  rcases List.mem_cons.mp he with rfl | he
  · have hname : PlainName "Document".toList := ⟨by decide, by decide⟩
    have hxmlns : PlainName "xmlns".toList := ⟨by decide, by decide⟩
    refine ⟨?_, ?_, List.nodup_singleton _⟩
    · rw [XmlElement.tag, writtenName_of_head (by decide)]
      exact hname
    · intro p hp
      rw [List.mem_singleton.mp hp]
      exact hxmlns
  · exact (h.writable e he).1

/-- A message is parsed as what it is read as, and its parts are what a profile checks. -/
theorem openMessage_eq (hreads : library.Reads (encoded profile children).xml)
    (h : ReadAs profile children kids) (asked : MessageProfile) :
    openMessage library (encoded profile children).xml asked =
      openDocument asked (inNamespace profile.namespaceUri
        (.group "Document" [.group profile.root kids])) := by
  have hdoctype : "<!DOCTYPE".toList = '<' :: '!' :: "DOCTYPE".toList := rfl
  have hentity : "<!ENTITY".toList = '<' :: '!' :: "ENTITY".toList := rfl
  have hnone : ¬ ("<!DOCTYPE".toList <:+: (encoded profile children).xml.toList ∨
      "<!ENTITY".toList <:+: (encoded profile children).xml.toList) := by
    rw [hdoctype, hentity]
    rintro (hfound | hfound)
    · exact undeclared_encoded h _ hfound
    · exact undeclared_encoded h _ hfound
  rw [openMessage, Outcome.refuseIf_bind hnone, hreads _ h.document]

/-- What is left to check of a document that was written: its profile, and its message element. -/
theorem openDocument_within (asked : MessageProfile) (kids : List XmlElement) :
    openDocument asked (inNamespace profile.namespaceUri (.group "Document" kids)) =
      (checkProfile asked profile.messageId >>= fun _ =>
        orMissing asked
          ((inNamespace profile.namespaceUri (.group "Document" kids)).findPath profile.namespaceUri
            [asked.root])) := by
  have htag : (inNamespace profile.namespaceUri (.group "Document" kids)).tag =
      qualified profile.namespaceUri "Document" := rfl
  have hshape : ¬ ("Document" ≠ "Document" ∨
      namespacePrefix.isPrefixOf profile.namespaceUri.toList = false) := by
    rw [profile.namespaceUri_prefix]
    decide
  rw [openDocument, htag, profile.splitTag_document]
  dsimp only
  rw [Outcome.refuseIf_bind hshape, profile.namespaceUri_rest]

/-- A message is opened against its own profile. -/
theorem openMessage_encoded (hreads : library.Reads (encoded profile children).xml)
    (h : ReadAs profile children kids) :
    openMessage library (encoded profile children).xml profile =
      .ok (inNamespace profile.namespaceUri (.group profile.root kids)) := by
  have hne : profile.namespaceUri ≠ "" :=
    (messageNamespace_carried profile.messageId_carried).1
  have hfind : (XmlElement.group "Document" [.group profile.root kids]).findPath ""
      [profile.root] = some (.group profile.root kids) := by
    have htag : (XmlElement.group profile.root kids).tag = named "" profile.root := rfl
    rw [findPath, findall, XmlElement.group, XmlElement.children, List.filter_cons,
      if_pos (by simpa using htag)]
    rfl
  have hsame : ¬ profile.messageId ≠ profile.messageId := fun hne => hne rfl
  rw [openMessage_eq hreads h, openDocument_within, checkProfile, Outcome.refuseIf_bind hsame,
    findPath_inNamespace hne, hfind]
  rfl

/-- A message is refused against every other profile: of another release as the wrong version, of
another family as the wrong message. -/
theorem openMessage_other {asked : MessageProfile} (hne : asked ≠ profile)
    (hreads : library.Reads (encoded profile children).xml)
    (h : ReadAs profile children kids) :
    ∃ detail, openMessage library (encoded profile children).xml asked =
      .error (refusal (if asked.family = profile.family then .wrongVersion else .wrongMessage)
        detail) := by
  have hother : profile.messageId ≠ asked.messageId := by
    intro hsame
    exact hne (profile.messageId_injective hsame).symm
  have hreason : (if familyOf profile.messageId = familyOf asked.messageId then
      AdapterRefusalReason.wrongVersion else .wrongMessage) =
        if asked.family = profile.family then .wrongVersion else .wrongMessage := by
    exact if_congr (profile.familyOf_eq_iff.trans eq_comm) rfl rfl
  refine ⟨"the message is " ++ profile.messageId ++ "; " ++ asked.release.value ++ " " ++
    asked.family.value ++ " is " ++ asked.messageId, ?_⟩
  rw [openMessage_eq hreads h, openDocument_within, checkProfile, hreason, Outcome.refuseIf,
    if_pos hother, Outcome.error_bind]

end

end Iso20022

end CorporateActions

end Atreides
