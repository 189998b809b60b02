import Mathlib.Data.List.Chain
import Atreides.Messaging.XmlPaths

/-!
# Searching a document

Every element at the end of a path is found, whichever of several elements of one name the path
goes through. A document that is written holds no declaration of a type or an entity.

## Main definitions

* `XmlElement.findall`, `XmlElement.findPath` — the elements at the end of a path
* `Undeclared` — a text in which no declaration begins

## Main results

* `findPath_inNamespace` — a path in a namespace leads to the same element
* `undeclared_document` — no declaration begins in a document that is written
-/

namespace Atreides

/-! ## Paths -/

namespace XmlElement

/-- The elements at the end of a path, in document order. -/
def findall (namespaceUri : String) : List String → XmlElement → List XmlElement
  | [], e => [e]
  | name :: path, e =>
    (e.children.filter fun child => child.tag = XmlText.named namespaceUri name).flatMap
      (findall namespaceUri path)

/-- The first element at the end of a path. -/
def findPath (namespaceUri : String) (path : List String) (e : XmlElement) : Option XmlElement :=
  (e.findall namespaceUri path).head?

end XmlElement

namespace XmlText

open scoped Characters

open XmlElement

variable {namespaceUri : String}

/-- A path in a namespace leads to the same elements. -/
theorem findall_inNamespace (huri : namespaceUri ≠ "") (path : List String) :
    ∀ t : XmlElement, (inNamespace namespaceUri t).findall namespaceUri path =
      (t.findall "" path).map (inNamespace namespaceUri) := by
  induction path with
  | nil =>
    intro t
    rfl
  | cons name path ih =>
    intro t
    obtain ⟨tag, attributes, text, children⟩ := t
    have htag : ∀ child : XmlElement,
        decide ((inNamespace namespaceUri child).tag = named namespaceUri name) =
          decide (child.tag = named "" name) := by
      intro child
      obtain ⟨tag, attributes, text, children⟩ := child
      rw [decide_eq_decide, named, named, if_neg huri, if_pos rfl]
      exact ⟨qualified_injective, congrArg (qualified namespaceUri)⟩
    rw [findall, findall, inNamespace]
    simp only [XmlElement.children, allInNamespace_eq_map, List.filter_map, Function.comp_def,
      htag, List.flatMap_map, List.map_flatMap, ih]

theorem findPath_inNamespace (huri : namespaceUri ≠ "") (path : List String) (t : XmlElement) :
    (inNamespace namespaceUri t).findPath namespaceUri path =
      (t.findPath "" path).map (inNamespace namespaceUri) := by
  rw [findPath, findPath, findall_inNamespace huri, List.head?_map]

/-! ## Declarations -/

/-- No declaration begins in the text. -/
def Undeclared (chars : List Char) : Prop := List.IsChain (fun a b => a = '<' → b ≠ '!') chars

theorem Undeclared.cons {c : Char} {chars : List Char} (h : Undeclared chars)
    (hhead : c = '<' → chars.head? ≠ some '!') : Undeclared (c :: chars) := by
  rcases chars with _ | ⟨d, chars⟩
  · exact List.isChain_singleton c
  · refine List.isChain_cons_cons.mpr ⟨?_, h⟩
    intro hc hd
    exact hhead hc (by rw [hd, List.head?_cons])

theorem Undeclared.next {c : Char} {chars : List Char} (h : Undeclared chars) (hc : c ≠ '<') :
    Undeclared (c :: chars) :=
  h.cons fun hopen => absurd hopen hc

theorem Undeclared.prepend {start chars : List Char} (h : Undeclared chars)
    (hstart : ∀ c ∈ start, c ≠ '<') : Undeclared (start ++ chars) := by
  induction start with
  | nil => exact h
  | cons c start ih =>
    apply (ih fun d hd => hstart d (List.mem_cons_of_mem _ hd)).next
    exact hstart c List.mem_cons_self

/-- A text in which no declaration begins holds none. -/
theorem Undeclared.not_infix {chars : List Char} (h : Undeclared chars) (rest : List Char) :
    ¬ ('<' :: '!' :: rest) <:+: chars := by
  intro hfound
  have hchain : Undeclared ('<' :: '!' :: rest) :=
    List.IsChain.infix h hfound
  exact (List.isChain_cons_cons.mp hchain).1 rfl rfl

theorem ne_of_mem_escapeText {c d : Char} (h : d ∈ escapeText c) : d ≠ '<' := by
  rw [escapeText] at h
  split_ifs at h with hamp hlt hgt
  · revert d
    decide
  · revert d
    decide
  · revert d
    decide
  · rw [List.mem_singleton] at h
    rwa [h]

theorem ne_of_mem_name {name : List Char} (h : PlainName name) : ∀ c ∈ name, c ≠ '<' := by
  rintro c hc rfl
  exact absurd (h.2 _ hc) (by decide)

theorem ne_of_mem_attributes {attributes : List (String × String)}
    (h : ∀ p ∈ attributes, PlainName p.1.toList) :
    ∀ c ∈ attributes.flatMap writeAttribute, c ≠ '<' := by
  intro c hc
  obtain ⟨p, hp, hc⟩ := List.mem_flatMap.mp hc
  have hmarks : ∀ d ∈ [' ', '=', quotationMark], d ≠ '<' := by decide
  rw [writeAttribute] at hc
  rcases List.mem_cons.mp hc with rfl | hc
  · decide
  rcases List.mem_append.mp hc with hc | hc
  · exact ne_of_mem_name (h p hp) c hc
  rcases List.mem_cons.mp hc with rfl | hc
  · decide
  rcases List.mem_cons.mp hc with rfl | hc
  · decide
  rcases List.mem_append.mp hc with hc | hc
  · obtain ⟨d, -, hc⟩ := List.mem_flatMap.mp hc
    rintro rfl
    have hbarred := (mem_escapeAttribute hc).2.1
    exact absurd hbarred (by decide)
  · rw [List.mem_singleton.mp hc]
    decide

mutual

/-- No declaration begins in an element that is written before a text in which none does. -/
theorem undeclared_writeElement : ∀ (t : XmlElement) {rest : List Char},
    (∀ e ∈ t.iter, PlainElement namespaceUri e) → Undeclared rest →
      Undeclared (writeElement namespaceUri t ++ rest)
  | .element tag attributes text children, rest, h, hrest => by
    rw [XmlElement.iter] at h
    have hplain := h _ List.mem_cons_self
    have hname : PlainName (writtenName namespaceUri tag) := hplain.tag
    have hattributes : ∀ c ∈ attributes.flatMap writeAttribute, c ≠ '<' :=
      ne_of_mem_attributes hplain.attributes
    obtain ⟨first, others, hfirst⟩ := List.exists_cons_of_ne_nil hname.1
    have hopened : first ≠ '!' := by
      rintro rfl
      exact absurd (hname.2 '!' (by simp [hfirst])) (by decide)
    have hclosed : Undeclared (writeElements namespaceUri children ++
        ('<' :: '/' :: (writtenName namespaceUri tag ++ '>' :: rest))) := by
      apply undeclared_writeElements children fun e he => h e (List.mem_cons_of_mem _ he)
      have hend := (hrest.next (c := '>') (by decide)).prepend (ne_of_mem_name hname)
      apply (hend.next (c := '/') (by decide)).cons
      intro _
      rw [List.head?_cons]
      decide
    have htail : Undeclared ((if text.getD "" = "" ∧ children.isEmpty = true then " />".toList
        else '>' :: (writeText (text.getD "").toList ++ writeElements namespaceUri children ++
          '<' :: '/' :: (writtenName namespaceUri tag ++ ['>']))) ++ rest) := by
      split_ifs
      · exact hrest.prepend (by decide)
      · have hheld : ∀ c ∈ writeText (text.getD "").toList, c ≠ '<' := by
          intro c hc
          obtain ⟨d, -, hc⟩ := List.mem_flatMap.mp hc
          exact ne_of_mem_escapeText hc
        have hbody := (hclosed.prepend hheld).next (c := '>') (by decide)
        simpa only [List.cons_append, List.append_assoc, List.nil_append] using hbody
    have hnamed := (htail.prepend hattributes).prepend (ne_of_mem_name hname)
    have hwhole := hnamed.cons (c := '<') (by
      intro _
      rw [hfirst, List.cons_append, List.head?_cons]
      exact fun hbang => hopened (Option.some_inj.mp hbang))
    rw [writeElement]
    simpa only [List.cons_append, List.append_assoc] using hwhole

theorem undeclared_writeElements : ∀ (ts : List XmlElement) {rest : List Char},
    (∀ e ∈ XmlElement.iterAll ts, PlainElement namespaceUri e) → Undeclared rest →
      Undeclared (writeElements namespaceUri ts ++ rest)
  | [], rest, _, hrest => by
    rw [writeElements]
    exact hrest
  | t :: ts, rest, h, hrest => by
    rw [XmlElement.iterAll] at h
    rw [writeElements, List.append_assoc]
    exact undeclared_writeElement t (fun e he => h e (List.mem_append_left _ he))
      (undeclared_writeElements ts (fun e he => h e (List.mem_append_right _ he)) hrest)

end

/-- No declaration begins in a document that is written. -/
theorem undeclared_document {t : XmlElement} (h : ∀ e ∈ t.iter, PlainElement namespaceUri e) :
    Undeclared (xmlDeclaration ++ writeElement namespaceUri t) := by
  have helement := undeclared_writeElement t h (List.isChain_nil)
  rw [List.append_nil] at helement
  have hdeclaration : xmlDeclaration = '<' :: '?' :: xmlDeclaration.drop 2 := by decide
  rw [hdeclaration, List.cons_append, List.cons_append]
  have hstart : ∀ c ∈ xmlDeclaration.drop 2, c ≠ '<' := by decide
  apply ((helement.prepend hstart).next (c := '?') (by decide)).cons
  intro _
  rw [List.head?_cons]
  decide

end XmlText

end Atreides
