import Atreides.Messaging.EmitReading

/-!
# Line ends in a document

A parser makes every line end of a text a line feed. A document whose texts hold other line ends
is therefore read as the document of the same tree with line feeds in their place.

## Main definitions

* `receivedText` — a text as a parser hands it on

## Main results

* `receivedText_eq_self_iff` — a text is handed on as it is where it holds no carriage return
* `readDocument_unix` — a document is read with its line ends made line feeds
-/

namespace Atreides

namespace XmlText

open XmlElement

open scoped Characters

/-- A text as a parser hands it on. -/
def receivedText (text : String) : String := String.ofList (lineEnds false text.toList)

/-- No carriage return is left. -/
theorem carriageReturn_not_mem_lineEnds (afterReturn : Bool) (chars : List Char) :
    carriageReturn ∉ lineEnds afterReturn chars := by
  induction chars generalizing afterReturn with
  | nil =>
    rw [lineEnds]
    exact List.not_mem_nil
  | cons c chars ih =>
    rw [lineEnds]
    split_ifs with hreturn hfeed
    · rw [List.mem_cons, not_or]
      exact ⟨by decide, ih true⟩
    · exact ih false
    · rw [List.mem_cons, not_or]
      exact ⟨Ne.symm hreturn, ih false⟩

/-- Every character that is left was there, or is a line feed. -/
theorem mem_lineEnds {afterReturn : Bool} {chars : List Char} {c : Char}
    (h : c ∈ lineEnds afterReturn chars) : c ∈ chars ∨ c = lineFeed := by
  induction chars generalizing afterReturn with
  | nil =>
    rw [lineEnds] at h
    exact absurd h List.not_mem_nil
  | cons d chars ih =>
    rw [lineEnds] at h
    split_ifs at h with hreturn hfeed
    · rcases List.mem_cons.mp h with rfl | h
      · exact .inr rfl
      · exact (ih h).imp_left (List.mem_cons_of_mem _)
    · exact (ih h).imp_left (List.mem_cons_of_mem _)
    · rcases List.mem_cons.mp h with rfl | h
      · exact .inl List.mem_cons_self
      · exact (ih h).imp_left (List.mem_cons_of_mem _)

theorem receivedText_of_not_mem {text : String} (h : carriageReturn ∉ text.toList) :
    receivedText text = text := by
  rw [receivedText, lineEnds_of_not_mem h, String.ofList_toList]

theorem receivedText_eq_self_iff {text : String} :
    receivedText text = text ↔ carriageReturn ∉ text.toList := by
  constructor
  · intro h
    rw [← h, receivedText, String.toList_ofList]
    exact carriageReturn_not_mem_lineEnds false text.toList
  · exact receivedText_of_not_mem

/-- A text of characters that a document may hold is handed on as one that it carries. -/
theorem carriedText_receivedText {text : String} (hne : text ≠ "")
    (h : ∀ c ∈ text.toList, isXmlChar c = true) : CarriedText (receivedText text) := by
  refine ⟨?_, ?_⟩
  · intro hempty
    have hnil : lineEnds false text.toList = [] := by
      rw [← String.toList_ofList (l := lineEnds false text.toList), ← receivedText, hempty]
      rfl
    exact hne (String.toList_eq_nil_iff.mp (lineEnds_eq_nil.mp hnil))
  · intro c hc
    rw [receivedText, String.toList_ofList] at hc
    refine ⟨?_, ne_of_mem_of_not_mem hc (carriageReturn_not_mem_lineEnds false text.toList)⟩
    rcases mem_lineEnds hc with hmem | rfl
    · exact h c hmem
    · decide

mutual

/-- Line ends change no tree of steady elements. -/
theorem unix_of_steady : ∀ (t : XmlElement), (∀ e ∈ t.iter, Steady e) → unix t = t
  | .element tag attributes text children, h => by
    rw [XmlElement.iter] at h
    have htext := (h _ List.mem_cons_self).text
    rw [XmlElement.text] at htext
    rw [unix, unixAll_of_steady children fun e he => h e (List.mem_cons_of_mem _ he)]
    rcases text with _ | s
    · rfl
    · rw [Option.map_some, lineEnds_of_not_mem (htext s rfl).2, String.ofList_toList]

theorem unixAll_of_steady : ∀ (ts : List XmlElement),
    (∀ e ∈ XmlElement.iterAll ts, Steady e) → unixAll ts = ts
  | [], _ => by rw [unixAll]
  | t :: ts, h => by
    rw [XmlElement.iterAll] at h
    rw [unixAll, unix_of_steady t fun e he => h e (List.mem_append_left _ he),
      unixAll_of_steady ts fun e he => h e (List.mem_append_right _ he)]

end

theorem unixAll_eq_map (ts : List XmlElement) : unixAll ts = ts.map unix := by
  induction ts with
  | nil => rw [unixAll, List.map_nil]
  | cons t ts ih => rw [unixAll, ih, List.map_cons]

section

variable {namespaceUri name : String} {children : List XmlElement}

/-- The elements of some trees may be written. -/
def AllWritable (namespaceUri : String) (ts : List XmlElement) : Prop :=
  ∀ e ∈ iterAll ts, PlainElement namespaceUri e ∧ Writable e

theorem allWritable_of_carried (h : AllCarried namespaceUri children) :
    AllWritable namespaceUri children := by
  intro e he
  exact ⟨(h e he).plain, (h e he).writable⟩

theorem iterAll_append (ts us : List XmlElement) : iterAll (ts ++ us) = iterAll ts ++ iterAll us := by
  induction ts with
  | nil => rw [List.nil_append, iterAll, List.nil_append]
  | cons t ts ih => rw [List.cons_append, iterAll, iterAll, ih, List.append_assoc]

theorem allWritable_append {ts us : List XmlElement} : AllWritable namespaceUri (ts ++ us) ↔
    AllWritable namespaceUri ts ∧ AllWritable namespaceUri us := by
  rw [AllWritable, iterAll_append, List.forall_mem_append]
  exact Iff.rfl

theorem allWritable_cons {e : XmlElement} {ts : List XmlElement} :
    AllWritable namespaceUri (e :: ts) ↔
      AllWritable namespaceUri [e] ∧ AllWritable namespaceUri ts := @allWritable_append _ [e] ts

theorem allWritable_group {tag : String} {ts : List XmlElement} (htag : PlainName tag.toList)
    (h : AllWritable namespaceUri ts) : AllWritable namespaceUri [.group tag ts] := by
  intro e he
  rw [iterAll, iterAll, List.append_nil, XmlElement.group, iter] at he
  rcases List.mem_cons.mp he with rfl | he
  · refine ⟨⟨?_, fun p hp => absurd hp List.not_mem_nil, List.nodup_nil⟩, ?_,
      fun p hp => absurd hp List.not_mem_nil⟩
    · rw [XmlElement.tag, writtenName_of_head (head?_of_plainName htag)]
      exact htag
    · intro c hc
      simp [XmlElement.text] at hc
  · exact h e he

theorem allWritable_leaf {tag text : String} (htag : PlainName tag.toList)
    (htext : ∀ c ∈ text.toList, isXmlChar c = true) :
    AllWritable namespaceUri [.leaf tag text] := by
  intro e he
  rw [iterAll, iterAll, List.append_nil, XmlElement.leaf, iter, iterAll,
    List.mem_singleton] at he
  subst he
  refine ⟨⟨?_, fun p hp => absurd hp List.not_mem_nil, List.nodup_nil⟩, ?_,
    fun p hp => absurd hp List.not_mem_nil⟩
  · rw [XmlElement.tag, writtenName_of_head (head?_of_plainName htag)]
    exact htag
  · rwa [XmlElement.text, Option.getD_some]

/-- What is written is read with its line ends made line feeds. -/
theorem readDocument_unix {definition : String} (hdefinition : CarriedText definition)
    (hname : PlainName name.toList) (hwritable : AllWritable (messageNamespace definition) children)
    (h : AllCarried (messageNamespace definition) (unixAll children)) :
    readDocument (writeDocument (messageNamespace definition)
      (.group (qualified (messageNamespace definition) name) children)) =
        some (inNamespace (messageNamespace definition) (.group name (unixAll children))) := by
  obtain ⟨hne, hchars⟩ := messageNamespace_carried hdefinition
  have hread := readDocument_carried hdefinition hname h
  have hroot : ∀ {kids : List XmlElement}, AllWritable (messageNamespace definition) kids →
      ∀ e ∈ (declared (messageNamespace definition)
        (.group (qualified (messageNamespace definition) name) kids)).iter,
          PlainElement (messageNamespace definition) e ∧ Writable e := by
    intro kids hkids e he
    rw [XmlElement.group, declared, XmlElement.iter] at he
    rcases List.mem_cons.mp he with rfl | he
    · have hxmlns : PlainName "xmlns".toList := ⟨by decide, by decide⟩
      refine ⟨⟨?_, ?_, List.nodup_singleton _⟩, ?_, ?_⟩
      · rw [XmlElement.tag, writtenName_qualified]
        exact hname
      · intro p hp
        rw [List.mem_singleton.mp hp]
        exact hxmlns
      · intro c hc
        simp [XmlElement.text] at hc
      · intro p hp c hc
        rw [List.mem_singleton.mp hp] at hc
        exact hchars c hc
    · exact hkids e he
  have hsteady : unixAll (unixAll children) = unixAll children :=
    unixAll_of_steady _ fun e he => (h e he).steady
  have hsame : unix (declared (messageNamespace definition)
      (.group (qualified (messageNamespace definition) name) children)) =
        unix (declared (messageNamespace definition)
          (.group (qualified (messageNamespace definition) name) (unixAll children))) := by
    rw [XmlElement.group, XmlElement.group, declared, declared, unix, unix, hsteady]
  rw [← hread, readDocument_writeDocument (fun e he => (hroot hwritable e he).1)
    (fun e he => (hroot hwritable e he).2), hsame]
  exact (readDocument_writeDocument (fun e he => (hroot (allWritable_of_carried h) e he).1)
    (fun e he => (hroot (allWritable_of_carried h) e he).2)).symm

end

end XmlText

end Atreides
