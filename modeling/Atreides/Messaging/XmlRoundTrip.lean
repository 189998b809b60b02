import Atreides.Messaging.XmlText
import Mathlib.Data.Option.Basic

/-!
# Reading what was written

What a tree is written as is read back as the tree, with its line ends made line feeds and empty
texts left out, unless a character of it is one that no document holds.

## Main definitions

* `PlainElement` — an element whose names can be read back
* `unix`, `raw` — a tree with line feeds for line ends, and as it is read

## Main results

* `readElement_writeElement` — an element is read back as it was written
* `readDocument_writeDocument` — so is a document, after its line ends
-/

namespace Atreides

namespace XmlText

open scoped Characters

/-! ## Characters that are read back -/

/-- Every character that is written so is read back, wherever it stands. -/
def ReadBack (stop : Char) (escape : Char → List Char) : Prop :=
  ∀ c rest, readChars stop none (escape c ++ rest) =
    (readChars stop none rest).map fun p => (c :: p.1, p.2)

theorem readBack_escapeText : ReadBack '<' escapeText := by
  intro c rest
  rw [escapeText]
  by_cases hamp : c = '&'
  · subst hamp
    rfl
  by_cases hlt : c = '<'
  · subst hlt
    rfl
  by_cases hgt : c = '>'
  · subst hgt
    rfl
  rw [if_neg hamp, if_neg hlt, if_neg hgt, List.singleton_append, readChars, if_neg hlt,
    if_neg hamp]

theorem readBack_escapeAttribute : ReadBack quotationMark escapeAttribute := by
  intro c rest
  rw [escapeAttribute]
  by_cases hamp : c = '&'
  · subst hamp
    rfl
  by_cases hlt : c = '<'
  · subst hlt
    rfl
  by_cases hgt : c = '>'
  · subst hgt
    rfl
  by_cases hquote : c = quotationMark
  · subst hquote
    rfl
  by_cases hreturn : c = carriageReturn
  · subst hreturn
    rfl
  by_cases hfeed : c = lineFeed
  · subst hfeed
    rfl
  by_cases htab : c = tabulator
  · subst htab
    rfl
  rw [if_neg hamp, if_neg hlt, if_neg hgt, if_neg hquote, if_neg hreturn, if_neg hfeed,
    if_neg htab, List.singleton_append, readChars, if_neg hquote, if_neg hamp]

/-- A text is read back up to the character that ends it. -/
theorem ReadBack.readChars {stop : Char} {escape : Char → List Char} (h : ReadBack stop escape)
    (text rest : List Char) :
    readChars stop none (text.flatMap escape ++ stop :: rest) = some (text, stop :: rest) := by
  induction text with
  | nil => rw [List.flatMap_nil, List.nil_append, XmlText.readChars, if_pos rfl]
  | cons c text ih =>
    rw [List.flatMap_cons, List.append_assoc, h, ih]
    rfl

/-- What an attribute is written with neither ends it nor is barred from it. -/
theorem mem_escapeAttribute {c d : Char} (h : d ∈ escapeAttribute c) :
    d ≠ quotationMark ∧ isBarred d = false ∧ d ≠ carriageReturn := by
  rw [escapeAttribute] at h
  split_ifs at h with hamp hlt hgt hquote hreturn hfeed htab
  · revert d
    decide
  · revert d
    decide
  · revert d
    decide
  · revert d
    decide
  · revert d
    decide
  · revert d
    decide
  · revert d
    decide
  · rw [List.mem_singleton] at h
    subst h
    exact ⟨hquote, by simp [isBarred, hlt, hfeed, htab], hreturn⟩

/-! ## Attributes that are read back -/

theorem readValue_written (value : String) (rest : List Char) :
    readValue ('=' :: quotationMark ::
      (value.toList.flatMap escapeAttribute ++ quotationMark :: rest)) = some (value, rest) := by
  have hraw : (value.toList.flatMap escapeAttribute ++ quotationMark :: rest).takeWhile
      (· ≠ quotationMark) = value.toList.flatMap escapeAttribute := by
    refine (takeWhile_dropWhile_append (fun d hd => ?_) (by simp)).1
    obtain ⟨c, -, hc⟩ := List.mem_flatMap.mp hd
    simpa using (mem_escapeAttribute hc).1
  have hbarred : (value.toList.flatMap escapeAttribute).any isBarred = false := by
    rw [List.any_eq_false]
    intro d hd
    obtain ⟨c, -, hc⟩ := List.mem_flatMap.mp hd
    simp [(mem_escapeAttribute hc).2.1]
  rw [readValue, hraw, if_neg (by simp [hbarred]), readBack_escapeAttribute.readChars]
  simp

/-- A name that can be read back. -/
def PlainName (name : List Char) : Prop := name ≠ [] ∧ ∀ c ∈ name, isNameChar c = true

/-- What follows the attributes is no further one. -/
def EndsAttributes (rest : List Char) : Prop :=
  ¬ (rest.head? = some ' ' ∧ (rest.tail.takeWhile isNameChar).isEmpty = false)

/-- Attributes are read back. -/
theorem readAttributes_written {attributes : List (String × String)} {rest : List Char}
    (hnames : ∀ p ∈ attributes, PlainName p.1.toList) (hrest : EndsAttributes rest) :
    ∀ fuel, attributes.length < fuel →
      readAttributes fuel (attributes.flatMap writeAttribute ++ rest) = some (attributes, rest) := by
  induction attributes with
  | nil =>
    intro fuel hfuel
    obtain ⟨fuel, rfl⟩ : ∃ n, fuel = n + 1 := ⟨fuel - 1, by simp at hfuel; omega⟩
    rw [List.flatMap_nil, List.nil_append, readAttributes, if_neg hrest]
  | cons p attributes ih =>
    intro fuel hfuel
    obtain ⟨fuel, rfl⟩ : ∃ n, fuel = n + 1 := ⟨fuel - 1, by simp at hfuel; omega⟩
    obtain ⟨hne, hname⟩ := hnames p (by simp)
    have hchars : (p :: attributes).flatMap writeAttribute ++ rest =
        ' ' :: (p.1.toList ++ '=' :: (quotationMark :: (p.2.toList.flatMap escapeAttribute ++
          quotationMark :: (attributes.flatMap writeAttribute ++ rest)))) := by
      simp [writeAttribute]
    have hequals : ∀ more : List Char, ∀ c, ('=' :: more).head? = some c →
        isNameChar c = false := by
      rintro more c ⟨⟩
      decide
    obtain ⟨htake, hdrop⟩ := takeWhile_dropWhile_append hname
      (hequals (quotationMark :: (p.2.toList.flatMap escapeAttribute ++ quotationMark ::
        (attributes.flatMap writeAttribute ++ rest))))
    rw [hchars, readAttributes, List.tail_cons, htake, hdrop, if_pos, readValue_written,
      Option.bind_some, ih (fun q hq => hnames q (by simp [hq])) fuel (by simpa using hfuel)]
    · simp
    · exact ⟨rfl, by simpa using hne⟩

/-! ## Elements that are read back -/

/-- An element whose names are plain, and whose attributes have different ones. -/
structure PlainElement (namespaceUri : String) (e : XmlElement) : Prop where
  tag : PlainName (writtenName namespaceUri e.tag)
  attributes : ∀ p ∈ e.attributes, PlainName p.1.toList
  nodup : (e.attributes.map Prod.fst).Nodup

/-- An empty text is none. -/
def heldText (text : Option String) : Option String :=
  if text.getD "" = "" then none else text

mutual

/-- The tree as it is read: names as they are written, and no empty texts. -/
def raw (namespaceUri : String) : XmlElement → XmlElement
  | .element tag attributes text children =>
    .element (String.ofList (writtenName namespaceUri tag)) attributes (heldText text)
      (rawAll namespaceUri children)

def rawAll (namespaceUri : String) : List XmlElement → List XmlElement
  | [] => []
  | child :: rest => raw namespaceUri child :: rawAll namespaceUri rest

end

mutual

/-- How far a reader must look to read an element. -/
def weight : XmlElement → ℕ
  | .element _ attributes _ children => attributes.length + 2 + weightAll children

def weightAll : List XmlElement → ℕ
  | [] => 1
  | child :: rest => weight child + weightAll rest + 1

end

theorem after_append (start rest : List Char) : after start (start ++ rest) = some rest := by
  rw [after, if_pos (by simp), List.drop_left]

theorem after_cons (c : Char) (rest : List Char) : after [c] (c :: rest) = some rest :=
  after_append [c] rest

/-- The start of an element is read back. -/
theorem readElement_start {name : List Char} {attributes : List (String × String)}
    {rest : List Char} {c : Char} (hname : PlainName name)
    (hattributes : ∀ p ∈ attributes, PlainName p.1.toList)
    (hnodup : (attributes.map Prod.fst).Nodup) (hrest : EndsAttributes rest)
    (hstart : (attributes.flatMap writeAttribute ++ rest).head? = some c)
    (hc : isNameChar c = false) {fuel : ℕ} (hfuel : attributes.length < fuel) :
    readElement (fuel + 1) ('<' :: (name ++ (attributes.flatMap writeAttribute ++ rest))) =
      if (after " />".toList rest).isSome then
        some (.element (String.ofList name) attributes none [], rest.drop 3)
      else (after ['>'] rest).bind fun rest =>
        (readContent fuel rest).bind (closeElement name attributes) := by
  obtain ⟨hne, hchars⟩ := hname
  obtain ⟨htake, hdrop⟩ := takeWhile_dropWhile_append hchars (fun d hd =>
    Option.some.inj (hstart.symm.trans hd) ▸ hc)
  have hopened := after_append ['<'] (name ++ (attributes.flatMap writeAttribute ++ rest))
  rw [List.singleton_append] at hopened
  rw [readElement, hopened, Option.bind_some, htake, hdrop, if_neg (by simpa using hne),
    readAttributes_written hattributes hrest fuel hfuel, Option.bind_some,
    if_neg (not_not.mpr hnodup)]

/-- Attributes are followed by the end of the start, or begin with a space. -/
theorem head_attributes (attributes : List (String × String)) {rest : List Char} {c : Char}
    (hrest : rest.head? = some c) (hc : isNameChar c = false) :
    ∃ d, (attributes.flatMap writeAttribute ++ rest).head? = some d ∧ isNameChar d = false := by
  rcases attributes with _ | ⟨p, attributes⟩
  · exact ⟨c, by rwa [List.flatMap_nil, List.nil_append], hc⟩
  · exact ⟨' ', rfl, by decide⟩

theorem mem_iter : ∀ (t : XmlElement), t ∈ t.iter
  | .element tag attributes text children => by
    rw [XmlElement.iter]
    exact List.mem_cons_self

/-- An element does not begin as the end of one does. -/
theorem head_writeElement (namespaceUri : String) : ∀ (t : XmlElement) (rest : List Char),
    PlainElement namespaceUri t → ∃ more, writeElement namespaceUri t ++ rest = '<' :: more ∧
      ¬ (after ['<', '/'] ('<' :: more)).isSome = true
  | .element tag attributes text children, rest, h => by
    obtain ⟨hne, hname⟩ := h.tag
    rw [XmlElement.tag] at hne hname
    obtain ⟨c, name, hcons⟩ := List.exists_cons_of_ne_nil hne
    have hc : c ≠ '/' := by
      rintro rfl
      exact absurd (hname '/' (by rw [hcons]; exact List.mem_cons_self)) (by decide)
    rw [writeElement, hcons]
    refine ⟨_, rfl, ?_⟩
    rw [after, if_neg]
    · simp
    · simpa using fun h => hc h.symm

theorem head_writeElements (namespaceUri : String) (ts : List XmlElement) (rest : List Char) :
    ∃ more, writeElements namespaceUri ts ++ '<' :: rest = '<' :: more := by
  rcases ts with _ | ⟨⟨tag, attributes, text, children⟩, ts⟩
  · exact ⟨rest, rfl⟩
  · rw [writeElements, writeElement]
    exact ⟨_, rfl⟩

mutual

/-- An element is read back as it was written. -/
theorem readElement_writeElement (namespaceUri : String) : ∀ (t : XmlElement),
    (∀ e ∈ t.iter, PlainElement namespaceUri e) → ∀ fuel rest, weight t ≤ fuel →
      readElement fuel (writeElement namespaceUri t ++ rest) = some (raw namespaceUri t, rest)
  | .element tag attributes text children => by
    intro h fuel rest hfuel
    obtain ⟨hname, hattributes, hnodup⟩ := h _ (by rw [XmlElement.iter]; exact List.mem_cons_self)
    rw [XmlElement.tag] at hname
    rw [XmlElement.attributes] at hattributes hnodup
    have hchildren : ∀ e ∈ XmlElement.iterAll children, PlainElement namespaceUri e := by
      intro e he
      exact h e (by rw [XmlElement.iter]; exact List.mem_cons_of_mem _ he)
    rw [weight] at hfuel
    obtain ⟨fuel, rfl⟩ : ∃ n, fuel = n + 1 := ⟨fuel - 1, by omega⟩
    rw [writeElement, raw, heldText]
    by_cases hempty : text.getD "" = "" ∧ children.isEmpty = true
    · obtain ⟨d, hd, hplain⟩ := @head_attributes attributes (" />".toList ++ rest) _ rfl
        (by decide)
      rw [if_pos hempty, if_pos hempty.1, List.isEmpty_iff.mp hempty.2, rawAll]
      simp only [List.cons_append, List.append_assoc]
      rw [readElement_start hname hattributes hnodup (by simp [EndsAttributes, isNameChar]) hd
        hplain (by omega), after_append]
      rfl
    · obtain ⟨d, hd, hplain⟩ := @head_attributes attributes ('>' ::
        (writeText (text.getD "").toList ++ (writeElements namespaceUri children ++
          '<' :: '/' :: (writtenName namespaceUri tag ++ ['>'] ++ rest)))) _ rfl (by decide)
      rw [if_neg hempty]
      simp only [List.cons_append, List.append_assoc, List.nil_append] at hd ⊢
      have hnotempty : ¬ (after " />".toList ('>' :: (writeText (text.getD "").toList ++
          (writeElements namespaceUri children ++
            '<' :: '/' :: (writtenName namespaceUri tag ++ '>' :: rest))))).isSome = true := by
        rw [after, if_neg]
        · simp
        · simp [List.isPrefixOf]
      rw [readElement_start hname hattributes hnodup (by simp [EndsAttributes]) hd hplain
        (by omega), if_neg hnotempty, after_cons, Option.bind_some,
        readContent_writeElements namespaceUri children hchildren fuel _ _ (by omega),
        Option.bind_some, closeElement]
      have hclose := after_append ('<' :: '/' :: (writtenName namespaceUri tag ++ ['>'])) rest
      simp only [List.cons_append, List.append_assoc, List.nil_append] at hclose
      rw [hclose, Option.map_some]
      have htext : (if (text.getD "").toList = [] then none
          else some (String.ofList (text.getD "").toList)) =
            if text.getD "" = "" then none else text := by
        rcases text with _ | text
        · rfl
        · rw [Option.getD_some, String.ofList_toList]
          simp only [String.toList_eq_nil_iff]
      rw [htext]

/-- So are elements one after the other, and the text before them. -/
theorem readContent_writeElements (namespaceUri : String) : ∀ (ts : List XmlElement),
    (∀ e ∈ XmlElement.iterAll ts, PlainElement namespaceUri e) → ∀ fuel text rest,
      weightAll ts ≤ fuel →
      readContent fuel (writeText text ++ (writeElements namespaceUri ts ++ '<' :: '/' :: rest)) =
        some (text, rawAll namespaceUri ts, '<' :: '/' :: rest)
  | [] => by
    intro _ fuel text rest hfuel
    rw [weightAll] at hfuel
    obtain ⟨fuel, rfl⟩ : ∃ n, fuel = n + 1 := ⟨fuel - 1, by omega⟩
    rw [readContent, writeElements, List.nil_append, writeText, readBack_escapeText.readChars,
      Option.bind_some, if_pos]
    · rfl
    · rw [show '<' :: '/' :: rest = ['<', '/'] ++ rest from rfl, after_append]
      rfl
  | child :: ts => by
    intro h fuel text rest hfuel
    rw [weightAll] at hfuel
    obtain ⟨fuel, rfl⟩ : ∃ n, fuel = n + 1 := ⟨fuel - 1, by omega⟩
    have hchild : ∀ e ∈ child.iter, PlainElement namespaceUri e := fun e he =>
      h e (by rw [XmlElement.iterAll]; exact List.mem_append_left _ he)
    have hrest : ∀ e ∈ XmlElement.iterAll ts, PlainElement namespaceUri e := fun e he =>
      h e (by rw [XmlElement.iterAll]; exact List.mem_append_right _ he)
    -- the rest is content again, with no text before it
    have hcontent := readContent_writeElements namespaceUri ts hrest fuel [] rest (by omega)
    rw [writeText, List.flatMap_nil, List.nil_append] at hcontent
    obtain ⟨more, hmore, hopens⟩ := head_writeElement namespaceUri child
      (writeElements namespaceUri ts ++ '<' :: '/' :: rest) (hchild _ (mem_iter child))
    rw [readContent, writeElements, List.append_assoc, hmore, writeText,
      readBack_escapeText.readChars, Option.bind_some, if_neg hopens, ← hmore,
      readElement_writeElement namespaceUri child hchild fuel _ (by omega), Option.bind_some,
      hcontent]
    rfl

end

/-! ## Far enough -/

theorem length_le_written (attributes : List (String × String)) :
    attributes.length ≤ (attributes.flatMap writeAttribute).length := by
  induction attributes with
  | nil => exact le_rfl
  | cons p attributes ih =>
    rw [List.flatMap_cons, List.length_append, List.length_cons, writeAttribute, List.length_cons]
    omega

mutual

/-- A reader that looks as far as a text is long reads its element. -/
theorem weight_lt (namespaceUri : String) : ∀ (t : XmlElement),
    (∀ e ∈ t.iter, PlainElement namespaceUri e) → weight t < (writeElement namespaceUri t).length
  | .element tag attributes text children => by
    intro h
    obtain ⟨⟨hne, -⟩, -, -⟩ := h _ (by rw [XmlElement.iter]; exact List.mem_cons_self)
    have hchildren : ∀ e ∈ XmlElement.iterAll children, PlainElement namespaceUri e := by
      intro e he
      exact h e (by rw [XmlElement.iter]; exact List.mem_cons_of_mem _ he)
    have hname : 0 < (writtenName namespaceUri tag).length := List.length_pos_iff.mpr hne
    have hattributes := length_le_written attributes
    have hall := weightAll_le namespaceUri children hchildren
    rw [weight, writeElement]
    by_cases hempty : text.getD "" = "" ∧ children.isEmpty = true
    · rw [if_pos hempty, List.isEmpty_iff.mp hempty.2, weightAll]
      have hend : " />".toList.length = 3 := rfl
      simp only [List.length_cons, List.length_append, hend]
      omega
    · rw [if_neg hempty]
      simp only [List.length_cons, List.length_append, List.length_nil]
      omega

theorem weightAll_le (namespaceUri : String) : ∀ (ts : List XmlElement),
    (∀ e ∈ XmlElement.iterAll ts, PlainElement namespaceUri e) →
      weightAll ts ≤ (writeElements namespaceUri ts).length + 1
  | [] => by
    intro _
    rw [weightAll]
    omega
  | child :: ts => by
    intro h
    have hchild := weight_lt namespaceUri child fun e he =>
      h e (by rw [XmlElement.iterAll]; exact List.mem_append_left _ he)
    have hrest := weightAll_le namespaceUri ts fun e he =>
      h e (by rw [XmlElement.iterAll]; exact List.mem_append_right _ he)
    rw [weightAll, writeElements, List.length_append]
    omega

end

/-! ## Line ends -/

/-- A text without carriage returns keeps its line ends. -/
theorem lineEnds_append {xs : List Char} (rest : List Char) (h : ∀ c ∈ xs, c ≠ carriageReturn) :
    lineEnds false (xs ++ rest) = xs ++ lineEnds false rest := by
  induction xs with
  | nil => rfl
  | cons c xs ih =>
    rw [List.cons_append, lineEnds, if_neg (h c (by simp)), if_neg (by simp),
      ih fun d hd => h d (by simp [hd]), List.cons_append]

/-- A character that is no part of a line end ends whatever was before it. -/
theorem lineEnds_cons {afterReturn : Bool} {c : Char} (rest : List Char)
    (hreturn : c ≠ carriageReturn) (hfeed : c ≠ lineFeed) :
    lineEnds afterReturn (c :: rest) = c :: lineEnds false rest := by
  rw [lineEnds, if_neg hreturn, if_neg (by simp [hfeed])]

theorem mem_escapeText {c d : Char} (hc : c ≠ carriageReturn) (h : d ∈ escapeText c) :
    d ≠ carriageReturn := by
  rw [escapeText] at h
  split_ifs at h
  · revert d
    decide
  · revert d
    decide
  · revert d
    decide
  · rw [List.mem_singleton] at h
    rwa [h]

/-- Line ends are made line feeds as well after a text was written. -/
theorem lineEnds_writeText (text rest : List Char) : ∀ afterReturn : Bool,
    lineEnds afterReturn (writeText text ++ '<' :: rest) =
      writeText (lineEnds afterReturn text) ++ '<' :: lineEnds false rest := by
  induction text with
  | nil =>
    intro afterReturn
    exact lineEnds_cons rest (by decide) (by decide)
  | cons c text ih =>
    intro afterReturn
    rw [writeText, List.flatMap_cons, List.append_assoc]
    rw [writeText] at ih
    by_cases hreturn : c = carriageReturn
    · subst hreturn
      rw [lineEnds, if_pos rfl, writeText, List.flatMap_cons,
        show escapeText carriageReturn = [carriageReturn] from by decide,
        show escapeText lineFeed = [lineFeed] from by decide, List.singleton_append,
        List.singleton_append, lineEnds, if_pos rfl, ih, writeText]
      rfl
    by_cases hfeed : c = lineFeed
    · subst hfeed
      rw [show escapeText lineFeed = [lineFeed] from by decide, List.singleton_append, lineEnds,
        if_neg hreturn, lineEnds, if_neg hreturn]
      cases afterReturn with
      | true =>
        rw [if_pos (by decide), if_pos (by decide), ih, writeText]
      | false =>
        rw [if_neg (by decide), if_neg (by decide), ih, writeText, writeText, List.flatMap_cons]
        rfl
    · have hplain : lineEnds afterReturn (escapeText c ++ (text.flatMap escapeText ++ '<' :: rest)) =
          escapeText c ++ lineEnds false (text.flatMap escapeText ++ '<' :: rest) := by
        rw [escapeText]
        split_ifs
        · cases afterReturn <;> rfl
        · cases afterReturn <;> rfl
        · cases afterReturn <;> rfl
        · exact lineEnds_cons _ hreturn hfeed
      rw [hplain, ih, lineEnds_cons text hreturn hfeed, writeText, writeText, List.flatMap_cons,
        List.append_assoc]

theorem lineEnds_eq_nil {text : List Char} : lineEnds false text = [] ↔ text = [] := by
  rcases text with _ | ⟨c, text⟩
  · exact Iff.rfl
  · rw [lineEnds]
    split_ifs with h
    · simp
    · simp_all
    · simp

mutual

/-- The tree with every line end of a text made a line feed. -/
def unix : XmlElement → XmlElement
  | .element tag attributes text children =>
    .element tag attributes (text.map fun s => String.ofList (lineEnds false s.toList))
      (unixAll children)

def unixAll : List XmlElement → List XmlElement
  | [] => []
  | child :: rest => unix child :: unixAll rest

end

theorem not_return_of_plainName {name : List Char} (h : PlainName name) :
    ∀ c ∈ name, c ≠ carriageReturn := by
  rintro c hc rfl
  exact absurd (h.2 _ hc) (by decide)

/-- An attribute holds no line end as it is. -/
theorem not_return_of_attributes {attributes : List (String × String)}
    (h : ∀ p ∈ attributes, PlainName p.1.toList) :
    ∀ c ∈ attributes.flatMap writeAttribute, c ≠ carriageReturn := by
  intro c hc
  obtain ⟨p, hp, hmem⟩ := List.mem_flatMap.mp hc
  rw [writeAttribute] at hmem
  simp only [List.mem_cons, List.mem_append, List.mem_flatMap, List.not_mem_nil, or_false] at hmem
  obtain rfl | hname | rfl | rfl | ⟨d, -, hd⟩ | rfl := hmem
  · decide
  · exact not_return_of_plainName (h p hp) c hname
  · decide
  · decide
  · exact (mem_escapeAttribute hd).2.2
  · decide

theorem unixText_eq_empty (text : Option String) :
    (text.map fun s => String.ofList (lineEnds false s.toList)).getD "" = "" ↔
      text.getD "" = "" := by
  rcases text with _ | text
  · exact Iff.rfl
  · rw [Option.map_some, Option.getD_some, Option.getD_some, ← String.toList_eq_nil_iff,
      String.toList_ofList, ← String.toList_eq_nil_iff]
    exact lineEnds_eq_nil

theorem unixText_toList (text : Option String) :
    ((text.map fun s => String.ofList (lineEnds false s.toList)).getD "").toList =
      lineEnds false (text.getD "").toList := by
  rcases text with _ | text
  · rfl
  · rw [Option.map_some, Option.getD_some, Option.getD_some, String.toList_ofList]

theorem unixAll_isEmpty (ts : List XmlElement) : (unixAll ts).isEmpty = ts.isEmpty := by
  rcases ts with _ | ⟨t, ts⟩
  · rw [unixAll]
  · rw [unixAll]
    rfl

mutual

/-- Line ends are made line feeds as well after an element was written. -/
theorem lineEnds_writeElement (namespaceUri : String) : ∀ (t : XmlElement),
    (∀ e ∈ t.iter, PlainElement namespaceUri e) → ∀ rest,
      lineEnds false (writeElement namespaceUri t ++ rest) =
        writeElement namespaceUri (unix t) ++ lineEnds false rest
  | .element tag attributes text children => by
    intro h rest
    obtain ⟨hname, hattributes, -⟩ := h _ (by rw [XmlElement.iter]; exact List.mem_cons_self)
    rw [XmlElement.tag] at hname
    rw [XmlElement.attributes] at hattributes
    have hchildren : ∀ e ∈ XmlElement.iterAll children, PlainElement namespaceUri e := by
      intro e he
      exact h e (by rw [XmlElement.iter]; exact List.mem_cons_of_mem _ he)
    have htag := not_return_of_plainName hname
    have hstart := not_return_of_attributes hattributes
    rw [unix, writeElement, writeElement]
    simp only [unixText_eq_empty, unixAll_isEmpty, unixText_toList]
    have hhead : ∀ c ∈ '<' :: writtenName namespaceUri tag ++ attributes.flatMap writeAttribute,
        c ≠ carriageReturn := by
      intro c hc
      simp only [List.mem_append, List.mem_cons] at hc
      obtain (rfl | hc) | hc := hc
      · decide
      · exact htag c hc
      · exact hstart c hc
    by_cases hempty : text.getD "" = "" ∧ children.isEmpty = true
    · rw [if_pos hempty, if_pos hempty, lineEnds_append rest]
      intro c hc
      obtain hc | hc := List.mem_append.mp hc
      · exact hhead c hc
      · exact (by decide : ∀ c ∈ " />".toList, c ≠ carriageReturn) c hc
    · have hclose : ∀ c ∈ '<' :: '/' :: (writtenName namespaceUri tag ++ ['>']),
          c ≠ carriageReturn := by
        intro c hc
        simp only [List.mem_append, List.mem_cons, List.not_mem_nil, or_false] at hc
        obtain rfl | rfl | hc | rfl := hc
        · decide
        · decide
        · exact htag c hc
        · decide
      obtain ⟨more, hmore⟩ := head_writeElements namespaceUri children
        ('/' :: (writtenName namespaceUri tag ++ ['>']) ++ rest)
      have hstarts : lineEnds false ('<' :: more) = '<' :: lineEnds false more :=
        lineEnds_cons more (by decide) (by decide)
      have hinner : lineEnds false (writeElements namespaceUri children ++
          '<' :: ('/' :: (writtenName namespaceUri tag ++ ['>']) ++ rest)) =
          writeElements namespaceUri (unixAll children) ++
            ('<' :: '/' :: (writtenName namespaceUri tag ++ ['>'])) ++ lineEnds false rest := by
        rw [lineEnds_writeElements namespaceUri children hchildren, List.append_assoc,
          ← lineEnds_append rest hclose]
        rfl
      rw [hmore, hstarts] at hinner
      have htext := lineEnds_writeText (text.getD "").toList more false
      rw [← hmore] at htext
      have htail : lineEnds false ('>' :: (writeText (text.getD "").toList ++
          writeElements namespaceUri children ++
            '<' :: '/' :: (writtenName namespaceUri tag ++ ['>'])) ++ rest) =
          '>' :: (writeText (lineEnds false (text.getD "").toList) ++
            writeElements namespaceUri (unixAll children) ++
              '<' :: '/' :: (writtenName namespaceUri tag ++ ['>'])) ++ lineEnds false rest := by
        rw [List.cons_append, lineEnds_cons _ (by decide) (by decide), List.cons_append]
        congr 1
        rw [List.append_assoc, List.append_assoc, List.append_assoc, List.append_assoc,
          ← List.append_assoc (writeElements namespaceUri (unixAll children)), ← hinner]
        exact htext
      rw [if_neg hempty, if_neg hempty, List.append_assoc, lineEnds_append _ hhead, htail]
      simp only [List.append_assoc, List.cons_append]

theorem lineEnds_writeElements (namespaceUri : String) : ∀ (ts : List XmlElement),
    (∀ e ∈ XmlElement.iterAll ts, PlainElement namespaceUri e) → ∀ rest,
      lineEnds false (writeElements namespaceUri ts ++ rest) =
        writeElements namespaceUri (unixAll ts) ++ lineEnds false rest
  | [] => by
    intro _ rest
    rw [writeElements, unixAll, writeElements]
    rfl
  | child :: ts => by
    intro h rest
    rw [writeElements, unixAll, writeElements, List.append_assoc, List.append_assoc,
      lineEnds_writeElement namespaceUri child fun e he =>
        h e (by rw [XmlElement.iterAll]; exact List.mem_append_left _ he),
      lineEnds_writeElements namespaceUri ts fun e he =>
        h e (by rw [XmlElement.iterAll]; exact List.mem_append_right _ he)]

end

mutual

/-- Line ends change no names. -/
theorem plain_unix (namespaceUri : String) : ∀ (t : XmlElement),
    (∀ e ∈ t.iter, PlainElement namespaceUri e) →
      ∀ e ∈ (unix t).iter, PlainElement namespaceUri e
  | .element tag attributes text children => by
    intro h e he
    rw [unix, XmlElement.iter, List.mem_cons] at he
    obtain rfl | he := he
    · have hself := h _ (by rw [XmlElement.iter]; exact List.mem_cons_self)
      exact ⟨hself.tag, hself.attributes, hself.nodup⟩
    · refine plain_unixAll namespaceUri children (fun e he => ?_) e he
      exact h e (by rw [XmlElement.iter]; exact List.mem_cons_of_mem _ he)

theorem plain_unixAll (namespaceUri : String) : ∀ (ts : List XmlElement),
    (∀ e ∈ XmlElement.iterAll ts, PlainElement namespaceUri e) →
      ∀ e ∈ XmlElement.iterAll (unixAll ts), PlainElement namespaceUri e
  | [] => by
    intro _ e he
    rw [unixAll, XmlElement.iterAll] at he
    cases he
  | child :: ts => by
    intro h e he
    rw [unixAll, XmlElement.iterAll, List.mem_append] at he
    obtain he | he := he
    · exact plain_unix namespaceUri child (fun e he =>
        h e (by rw [XmlElement.iterAll]; exact List.mem_append_left _ he)) e he
    · exact plain_unixAll namespaceUri ts (fun e he =>
        h e (by rw [XmlElement.iterAll]; exact List.mem_append_right _ he)) e he

end

/-! ## Documents that are read back -/

/-- An element whose text and attributes a document may hold. -/
structure Writable (e : XmlElement) : Prop where
  text : ∀ c ∈ (e.text.getD "").toList, isXmlChar c = true
  attributes : ∀ p ∈ e.attributes, ∀ c ∈ p.2.toList, isXmlChar c = true

/-- What a character is written with may be held where the character may. -/
theorem all_escapeText (c : Char) : (escapeText c).all isXmlChar = isXmlChar c := by
  rw [escapeText]
  split_ifs with hamp hlt hgt
  · subst hamp
    rfl
  · subst hlt
    rfl
  · subst hgt
    rfl
  · simp

theorem all_escapeAttribute (c : Char) : (escapeAttribute c).all isXmlChar = isXmlChar c := by
  rw [escapeAttribute]
  split_ifs with hamp hlt hgt hquote hreturn hfeed htab
  · subst hamp
    rfl
  · subst hlt
    rfl
  · subst hgt
    rfl
  · subst hquote
    rfl
  · subst hreturn
    rfl
  · subst hfeed
    rfl
  · subst htab
    rfl
  · simp

theorem all_flatMap {escape : Char → List Char} (h : ∀ c, (escape c).all isXmlChar = isXmlChar c)
    (text : List Char) : (text.flatMap escape).all isXmlChar = text.all isXmlChar := by
  induction text with
  | nil => rfl
  | cons c text ih => rw [List.flatMap_cons, List.all_append, h, ih, List.all_cons]

theorem isXmlChar_of_isNameChar {c : Char} (h : isNameChar c = true) : isXmlChar c = true := by
  have hrange : 45 ≤ c.toNat ∧ c.toNat ≤ 122 := by
    simp only [isNameChar_eq, Bool.or_eq_true, Bool.and_eq_true, decide_eq_true_eq, ge_iff_le,
      UInt32.le_iff_toNat_le] at h
    obtain (((((⟨hlow, hhigh⟩ | ⟨hlow, hhigh⟩) | ⟨hlow, hhigh⟩) | rfl) | rfl) | rfl) := h
    · change 65 ≤ c.toNat at hlow
      change c.toNat ≤ 90 at hhigh
      omega
    · change 97 ≤ c.toNat at hlow
      change c.toNat ≤ 122 at hhigh
      omega
    · change 48 ≤ c.toNat at hlow
      change c.toNat ≤ 57 at hhigh
      omega
    · decide
    · decide
    · decide
  have hlow : 32 ≤ c.toNat := by omega
  have hlast : c.toNat ≠ 0xFFFE ∧ c.toNat ≠ 0xFFFF := by omega
  simp [isXmlChar, hlow, hlast]

theorem all_plainName {name : List Char} (h : PlainName name) : name.all isXmlChar = true :=
  List.all_eq_true.mpr fun c hc => isXmlChar_of_isNameChar (h.2 c hc)

theorem all_attributes {attributes : List (String × String)}
    (h : ∀ p ∈ attributes, PlainName p.1.toList) :
    (attributes.flatMap writeAttribute).all isXmlChar = true ↔
      ∀ p ∈ attributes, ∀ c ∈ p.2.toList, isXmlChar c = true := by
  induction attributes with
  | nil => simp
  | cons p attributes ih =>
    rw [List.flatMap_cons, List.all_append, Bool.and_eq_true,
      ih fun q hq => h q (by simp [hq]), List.forall_mem_cons]
    refine and_congr_left' ?_
    rw [writeAttribute]
    simp only [List.all_cons, List.all_append, List.all_nil, Bool.and_true, Bool.and_eq_true,
      all_plainName (h p (by simp)), all_flatMap all_escapeAttribute, List.all_eq_true]
    exact ⟨fun h => h.2.2.2.2.1, fun h => ⟨by decide, trivial, by decide, by decide, h, by decide⟩⟩

mutual

/-- A tree's text holds only what a document may hold exactly where its elements do. -/
theorem all_writeElement (namespaceUri : String) : ∀ (t : XmlElement),
    (∀ e ∈ t.iter, PlainElement namespaceUri e) →
      ((writeElement namespaceUri t).all isXmlChar = true ↔ ∀ e ∈ t.iter, Writable e)
  | .element tag attributes text children => by
    intro h
    obtain ⟨hname, hattributes, -⟩ := h _ (by rw [XmlElement.iter]; exact List.mem_cons_self)
    rw [XmlElement.tag] at hname
    rw [XmlElement.attributes] at hattributes
    have hall := all_writeElements namespaceUri children fun e he =>
      h e (by rw [XmlElement.iter]; exact List.mem_cons_of_mem _ he)
    have htag := all_plainName hname
    have hself : Writable (.element tag attributes text children) ↔
        (∀ c ∈ (text.getD "").toList, isXmlChar c = true) ∧
          ∀ p ∈ attributes, ∀ c ∈ p.2.toList, isXmlChar c = true :=
      ⟨fun h => ⟨h.text, h.attributes⟩, fun h => ⟨h.1, h.2⟩⟩
    rw [writeElement, XmlElement.iter, List.forall_mem_cons, hself, ← hall, List.all_append,
      List.all_append, List.all_cons, htag, Bool.and_true, Bool.and_eq_true, Bool.and_eq_true,
      all_attributes hattributes]
    by_cases hempty : text.getD "" = "" ∧ children.isEmpty = true
    · rw [if_pos hempty, hempty.1, List.isEmpty_iff.mp hempty.2, writeElements]
      have hopen : isXmlChar '<' = true := by decide
      have hend : isXmlChar ' ' = true ∧ isXmlChar '/' = true ∧ isXmlChar '>' = true := by decide
      simp [hopen, hend]
    · rw [if_neg hempty]
      simp only [List.all_cons, List.all_append, List.all_nil, Bool.and_true, Bool.and_eq_true,
        htag, writeText, all_flatMap all_escapeText]
      have hopen : isXmlChar '<' = true := by decide
      have hclose : isXmlChar '>' = true := by decide
      have hslash : isXmlChar '/' = true := by decide
      simp only [hopen, hclose, hslash, true_and, and_true, List.all_eq_true]
      tauto

theorem all_writeElements (namespaceUri : String) : ∀ (ts : List XmlElement),
    (∀ e ∈ XmlElement.iterAll ts, PlainElement namespaceUri e) →
      ((writeElements namespaceUri ts).all isXmlChar = true ↔
        ∀ e ∈ XmlElement.iterAll ts, Writable e)
  | [] => by
    intro _
    rw [writeElements, XmlElement.iterAll]
    simp
  | child :: ts => by
    intro h
    rw [writeElements, XmlElement.iterAll, List.all_append, Bool.and_eq_true,
      all_writeElement namespaceUri child fun e he =>
        h e (by rw [XmlElement.iterAll]; exact List.mem_append_left _ he),
      all_writeElements namespaceUri ts fun e he =>
        h e (by rw [XmlElement.iterAll]; exact List.mem_append_right _ he), List.forall_mem_append]

end

/-- A document whose elements hold only what a document may is read back, with its line ends made
line feeds. -/
theorem readDocument_writeDocument {namespaceUri : String} {root : XmlElement}
    (hplain : ∀ e ∈ (declared namespaceUri root).iter, PlainElement namespaceUri e)
    (hwritable : ∀ e ∈ (declared namespaceUri root).iter, Writable e) :
    readDocument (writeDocument namespaceUri root) =
      some (resolve "" (raw namespaceUri (unix (declared namespaceUri root)))) := by
  have hall : (xmlDeclaration ++ writeElement namespaceUri (declared namespaceUri root)).all
      isXmlChar = true := by
    rw [List.all_append, Bool.and_eq_true]
    exact ⟨by decide, (all_writeElement namespaceUri _ hplain).mpr hwritable⟩
  have hlines : lineEnds false
      (xmlDeclaration ++ writeElement namespaceUri (declared namespaceUri root)) =
        xmlDeclaration ++ writeElement namespaceUri (unix (declared namespaceUri root)) := by
    have hends := lineEnds_writeElement namespaceUri _ hplain []
    rw [List.append_nil, lineEnds, List.append_nil] at hends
    rw [lineEnds_append _ (by decide), hends]
  have hread := readElement_writeElement namespaceUri _ (plain_unix namespaceUri _ hplain) _ []
    (weight_lt namespaceUri _ (plain_unix namespaceUri _ hplain)).le
  rw [List.append_nil] at hread
  rw [readDocument, writeDocument, String.toList_ofList, hall, hlines, after_append]
  simp only [Option.bind_eq_bind, Option.bind_some, hread, guard_true, Option.pure_def]

/-- A document with an element that holds what no document may cannot be read. -/
theorem readDocument_eq_none {namespaceUri : String} {root : XmlElement}
    (hplain : ∀ e ∈ (declared namespaceUri root).iter, PlainElement namespaceUri e)
    (hwritable : ¬ ∀ e ∈ (declared namespaceUri root).iter, Writable e) :
    readDocument (writeDocument namespaceUri root) = none := by
  have hall : ¬ (xmlDeclaration ++ writeElement namespaceUri (declared namespaceUri root)).all
      isXmlChar = true := by
    rw [List.all_append, Bool.and_eq_true]
    exact fun h => hwritable ((all_writeElement namespaceUri _ hplain).mp h.2)
  rw [readDocument, writeDocument, String.toList_ofList]
  simp only [Option.bind_eq_bind, hall, Bool.false_eq_true, guard_false]
  rfl

end XmlText

end Atreides
