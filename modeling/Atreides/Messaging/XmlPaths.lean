import Atreides.Messaging.XmlRoundTrip

/-!
# Documents in one namespace

A tree whose root is in a namespace, and whose other names are written without one, is read back
with all its names in the namespace. An element of it is then found by the names on the way to
it, as it was before.

## Main definitions

* `XmlElement.descend` — the element at the end of a path of names
* `inNamespace` — a tree with all its names in a namespace
* `Steady` — an element that writing and reading do not change

## Main results

* `descend_inNamespace` — a path leads to the same element
* `readDocument_inNamespace` — what a document in one namespace is read as
-/

namespace Atreides

/-! ## Paths -/

namespace XmlElement

/-- The first child of a name. -/
def child? (namespaceUri name : String) (e : XmlElement) : Option XmlElement :=
  e.children.find? fun child => child.tag = XmlText.named namespaceUri name

/-- The element at the end of a path, each name that of the first such child. -/
def descend (namespaceUri : String) : List String → XmlElement → Option XmlElement
  | [], e => some e
  | name :: path, e => (e.child? namespaceUri name).bind (descend namespaceUri path)

/-- The text at the end of a path. -/
def textAt (namespaceUri : String) (path : List String) (e : XmlElement) : Option String :=
  (e.descend namespaceUri path).bind text

/-- The value of an attribute. -/
def attribute? (name : String) (e : XmlElement) : Option String :=
  (e.attributes.find? fun p => p.1 = name).map Prod.snd

/-- A name in a namespace determines the name. -/
theorem qualified_injective {namespaceUri a b : String}
    (h : qualified namespaceUri a = qualified namespaceUri b) : a = b := by
  have hchars := congrArg String.toList h
  rw [qualified, qualified, String.toList_append, String.toList_append (t := b)] at hchars
  exact String.toList_injective (List.append_cancel_left hchars)

end XmlElement

namespace XmlText

open scoped Characters

open XmlElement

mutual

/-- The tree with all its names in a namespace. -/
def inNamespace (namespaceUri : String) : XmlElement → XmlElement
  | .element tag attributes text children =>
    .element (qualified namespaceUri tag) attributes text (allInNamespace namespaceUri children)

def allInNamespace (namespaceUri : String) : List XmlElement → List XmlElement
  | [] => []
  | child :: rest => inNamespace namespaceUri child :: allInNamespace namespaceUri rest

end

variable {namespaceUri : String}

theorem allInNamespace_eq_map (namespaceUri : String) (ts : List XmlElement) :
    allInNamespace namespaceUri ts = ts.map (inNamespace namespaceUri) := by
  induction ts with
  | nil => rfl
  | cons t ts ih => rw [allInNamespace, ih, List.map_cons]

@[simp] theorem text_inNamespace (t : XmlElement) : (inNamespace namespaceUri t).text = t.text := by
  cases t
  rfl

@[simp] theorem attributes_inNamespace (t : XmlElement) :
    (inNamespace namespaceUri t).attributes = t.attributes := by
  cases t
  rfl

/-- The first child of a name is the same one, in the namespace. -/
theorem child?_inNamespace (huri : namespaceUri ≠ "") (name : String) (t : XmlElement) :
    (inNamespace namespaceUri t).child? namespaceUri name =
      (t.child? "" name).map (inNamespace namespaceUri) := by
  obtain ⟨tag, attributes, text, children⟩ := t
  have htag : ∀ child : XmlElement,
      decide ((inNamespace namespaceUri child).tag = named namespaceUri name) =
        decide (child.tag = named "" name) := by
    intro child
    obtain ⟨tag, attributes, text, children⟩ := child
    rw [decide_eq_decide, named, named, if_neg huri, if_pos rfl]
    exact ⟨qualified_injective, congrArg (qualified namespaceUri)⟩
  rw [child?, child?, inNamespace]
  simp only [XmlElement.children, allInNamespace_eq_map, List.find?_map, Function.comp_def, htag]

/-- A path leads to the same element, in the namespace. -/
theorem descend_inNamespace (huri : namespaceUri ≠ "") (path : List String) :
    ∀ t : XmlElement, (inNamespace namespaceUri t).descend namespaceUri path =
      (t.descend "" path).map (inNamespace namespaceUri) := by
  induction path with
  | nil =>
    intro t
    rfl
  | cons name path ih =>
    intro t
    rw [descend, descend, child?_inNamespace huri]
    rcases t.child? "" name with _ | child
    · rfl
    · exact ih child

theorem textAt_inNamespace (huri : namespaceUri ≠ "") (path : List String) (t : XmlElement) :
    (inNamespace namespaceUri t).textAt namespaceUri path = t.textAt "" path := by
  rw [textAt, textAt, descend_inNamespace huri]
  rcases t.descend "" path with _ | e
  · rfl
  · exact text_inNamespace e

/-! ## Elements that do not change -/

/-- An element that writing and reading do not change: its name is written without a namespace,
its text has no carriage return and is not empty, and no attribute declares a namespace. -/
structure Steady (e : XmlElement) : Prop where
  tag : e.tag.toList.head? ≠ some openBrace
  text : ∀ text, e.text = some text → text ≠ "" ∧ carriageReturn ∉ text.toList
  attributes : ∀ p ∈ e.attributes, p.1 ≠ "xmlns"

/-- A text without carriage returns has no other line ends. -/
theorem lineEnds_of_not_mem {chars : List Char} (h : carriageReturn ∉ chars) :
    lineEnds false chars = chars := by
  have hends := lineEnds_append [] fun c hc => ne_of_mem_of_not_mem hc h
  rwa [List.append_nil, lineEnds, List.append_nil] at hends

theorem writtenName_of_head {tag : String} (h : tag.toList.head? ≠ some openBrace) :
    writtenName namespaceUri tag = tag.toList := by
  have hstart : ¬ (openBrace :: namespaceUri.toList ++ [closeBrace]).isPrefixOf tag.toList := by
    rcases hchars : tag.toList with _ | ⟨c, chars⟩
    · simp
    · rw [hchars, List.head?_cons, ne_eq, Option.some_inj] at h
      simp [List.isPrefixOf, Ne.symm h]
  rw [writtenName, if_neg hstart]

theorem writtenName_qualified (name : String) :
    writtenName namespaceUri (qualified namespaceUri name) = name.toList := by
  have hchars : (qualified namespaceUri name).toList =
      (openBrace :: namespaceUri.toList ++ [closeBrace]) ++ name.toList := by
    simp [qualified]
  rw [writtenName, hchars, if_pos (by simp), List.drop_left]

/-- No attribute is left out of those that declare no namespace. -/
theorem filter_steady {attributes : List (String × String)}
    (h : ∀ p ∈ attributes, p.1 ≠ "xmlns") :
    (attributes.filter fun p => p.1 ≠ "xmlns") = attributes ∧
      namespaceOf namespaceUri attributes = namespaceUri := by
  constructor
  · rw [List.filter_eq_self]
    intro p hp
    simpa using h p hp
  · rw [namespaceOf, List.find?_eq_none.mpr]
    · rfl
    · intro p hp
      simpa using h p hp

theorem heldText_steady {text : Option String}
    (h : ∀ s, text = some s → s ≠ "" ∧ carriageReturn ∉ s.toList) :
    heldText (text.map fun s => String.ofList (lineEnds false s.toList)) = text := by
  rcases text with _ | s
  · rfl
  · obtain ⟨hne, hreturn⟩ := h s rfl
    rw [Option.map_some, lineEnds_of_not_mem hreturn, String.ofList_toList, heldText,
      Option.getD_some, if_neg hne]

mutual

/-- A tree of steady elements is read in the namespace that holds around it, and otherwise as it
is. -/
theorem resolve_steady (huri : namespaceUri ≠ "") : ∀ (t : XmlElement),
    (∀ e ∈ t.iter, Steady e) →
      resolve namespaceUri (raw namespaceUri (unix t)) = inNamespace namespaceUri t
  | .element tag attributes text children, h => by
    rw [XmlElement.iter] at h
    obtain ⟨htag, htext, hattributes⟩ := h _ List.mem_cons_self
    rw [XmlElement.tag] at htag
    rw [XmlElement.text] at htext
    rw [XmlElement.attributes] at hattributes
    obtain ⟨hfilter, hholds⟩ := @filter_steady namespaceUri _ hattributes
    rw [unix, raw, resolve, inNamespace, writtenName_of_head htag, String.ofList_toList,
      heldText_steady htext, hholds, hfilter, named, if_neg huri,
      resolveAll_steady huri children fun e he => h e (List.mem_cons_of_mem _ he)]

theorem resolveAll_steady (huri : namespaceUri ≠ "") : ∀ (ts : List XmlElement),
    (∀ e ∈ XmlElement.iterAll ts, Steady e) →
      resolveAll namespaceUri (rawAll namespaceUri (unixAll ts)) =
        allInNamespace namespaceUri ts
  | [], _ => by
    rw [unixAll, rawAll, resolveAll, allInNamespace]
  | t :: ts, h => by
    rw [XmlElement.iterAll] at h
    rw [unixAll, rawAll, resolveAll, allInNamespace,
      resolve_steady huri t fun e he => h e (List.mem_append_left _ he),
      resolveAll_steady huri ts fun e he => h e (List.mem_append_right _ he)]

end

/-- A document in one namespace is read with all its names in it, and otherwise as it was
written. -/
theorem readDocument_inNamespace {name : String} {children : List XmlElement}
    (huri : namespaceUri ≠ "") (hname : PlainName name.toList)
    (huriChars : ∀ c ∈ namespaceUri.toList, isXmlChar c = true)
    (hplain : ∀ e ∈ iterAll children, PlainElement namespaceUri e)
    (hwritable : ∀ e ∈ iterAll children, Writable e)
    (hsteady : ∀ e ∈ iterAll children, Steady e) :
    readDocument (writeDocument namespaceUri (.group (qualified namespaceUri name) children)) =
      some (inNamespace namespaceUri (.group name children)) := by
  have hiter : ∀ e ∈ (declared namespaceUri (.group (qualified namespaceUri name) children)).iter,
      e = .element (qualified namespaceUri name) [("xmlns", namespaceUri)] none children ∨
        e ∈ iterAll children := by
    intro e he
    rw [XmlElement.group, declared, XmlElement.iter] at he
    exact List.mem_cons.mp he
  have hunix : declared namespaceUri (.group (qualified namespaceUri name) children) =
      .element (qualified namespaceUri name) [("xmlns", namespaceUri)] none children := rfl
  have hxmlns : PlainName "xmlns".toList := ⟨by decide, by decide⟩
  rw [readDocument_writeDocument, hunix, unix, raw, resolve, writtenName_qualified,
    String.ofList_toList]
  · have hholds : namespaceOf "" [("xmlns", namespaceUri)] = namespaceUri := rfl
    rw [hholds, named, if_neg huri, resolveAll_steady huri children hsteady, XmlElement.group,
      inNamespace]
    rfl
  · intro e he
    rcases hiter e he with rfl | he
    · refine ⟨?_, ?_, ?_⟩
      · rw [XmlElement.tag, writtenName_qualified]
        exact hname
      · intro p hp
        rw [List.mem_singleton.mp hp]
        exact hxmlns
      · exact List.nodup_singleton _
    · exact hplain e he
  · intro e he
    rcases hiter e he with rfl | he
    · constructor
      · intro c hc
        simp [XmlElement.text] at hc
      · intro p hp c hc
        rw [List.mem_singleton.mp hp] at hc
        exact huriChars c hc
    · exact hwritable e he

end XmlText

end Atreides
