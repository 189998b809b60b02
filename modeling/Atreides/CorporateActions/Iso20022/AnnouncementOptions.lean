import Atreides.CorporateActions.Iso20022.Announcements
import Atreides.CorporateActions.Iso20022.Opening

/-!
# Options in an announcement

What the options of an elective event say, and what is read of them one after another. A
description is read with its line ends made line feeds and without the blanks at its ends. Each
option repeats the deadlines of the event, which are found once.

## Main definitions

* `Offers` — an element that says an option
* `readSoFar` — what was read of the options that were seen

## Main results

* `readOption_offered` — what reading one option more comes to
* `foldSteps_offered` — options whose descriptions are whole are read as they were offered
* `whole_of_foldSteps` — options that are read as they were offered have whole descriptions
-/

namespace Atreides

namespace CorporateActions

namespace Iso20022

open XmlElement XmlText

open scoped Characters

/-! ## Descriptions -/

/-- What is read of a text that was written. -/
def receivedWords (text : String) : String := stripped (receivedText text)

theorem mem_dropWhile {p : Char → Bool} {chars : List Char} {c : Char}
    (h : c ∈ chars.dropWhile p) : c ∈ chars := (List.dropWhile_suffix p).subset h

/-- No character is added to a text whose ends are cut off. -/
theorem mem_stripped {text : String} {c : Char} (h : c ∈ (stripped text).toList) :
    c ∈ text.toList := by
  rw [stripped, String.toList_ofList, List.mem_reverse] at h
  exact mem_dropWhile (List.mem_reverse.mp (mem_dropWhile h))

/-- A description is read as it was written where it holds no carriage return and has no blank at
its ends. -/
theorem receivedWords_eq_self_iff {text : String} :
    receivedWords text = text ↔ carriageReturn ∉ text.toList ∧ stripped text = text := by
  rw [receivedWords]
  constructor
  · intro h
    have hnone : carriageReturn ∉ text.toList := by
      intro hmem
      rw [← h] at hmem
      have hreceived := mem_stripped hmem
      rw [receivedText, String.toList_ofList] at hreceived
      exact carriageReturn_not_mem_lineEnds false text.toList hreceived
    rw [receivedText_of_not_mem hnone] at h
    exact ⟨hnone, h⟩
  · rintro ⟨hnone, hwhole⟩
    rw [receivedText_of_not_mem hnone, hwhole]

/-- Every character of a description is one that a document holds. -/
theorem isXmlChar_of_description {text : String} (h : matchesFinx350 text = true) :
    ∀ c ∈ text.toList, isXmlChar c = true := by
  have hmarks : ∀ d ∈ ['/', lineFeed, carriageReturn], isXmlChar d = true := by decide
  intro c hc
  rw [matchesFinx350, Bool.and_eq_true, List.all_eq_true] at h
  have hmember := h.2 c hc
  rw [Bool.or_eq_true, decide_eq_true_iff] at hmember
  rcases hmember with hfinx | hmark
  · rcases visible_or_space (.inl hfinx) with hvisible | rfl
    · exact (of_isVisible hvisible).1
    · decide
  · exact hmarks c hmark

/-! ## Elements of options -/

/-- An element that says an option. -/
structure Offers (event : CorporateActionEvent) (deadline : Date) (option : ElectionOption)
    (e : XmlElement) : Prop where
  numbered : isOptionNumber option.optionId = true
  described : option.description ≠ "" ∧ ∀ c ∈ option.description.toList, isXmlChar c = true
  element : ∃ optionType, option.optionType = some optionType ∧
    e = optionElement event option.optionId option.description optionType deadline

section

variable {event : CorporateActionEvent} {deadline : Date} {option : ElectionOption}
  {e : XmlElement} {namespaceUri : String}

theorem offers_of_electiveOption (hdeadline : event.dates.electionDeadline = some deadline)
    (h : electiveOption event option = .ok e) : Offers event deadline option e := by
  rw [electiveOption, Outcome.bind_eq_ok] at h
  obtain ⟨_, hnumber, h⟩ := h
  rw [Outcome.refuseIf_eq_ok, Bool.not_eq_false] at hnumber
  rcases htype : option.optionType with _ | optionType
  · rw [htype] at h
    cases h
  · rw [htype] at h
    dsimp only at h
    rw [Outcome.bind_eq_ok] at h
    obtain ⟨text, htext, h⟩ := h
    obtain ⟨-, hne, hpattern⟩ := checked_eq_ok htext
    rw [hdeadline] at h
    exact ⟨hnumber, ⟨hne, isXmlChar_of_description hpattern⟩, optionType, htype,
      (Except.ok.inj h).symm⟩

theorem allCarried_optionHead {number code : String} (isDefault : Bool)
    (hnumber : CarriedText number) (hcode : CarriedText code) :
    AllCarried namespaceUri (optionHead number code isDefault) := by
  have hindicator : CarriedText (if isDefault then "true" else "false") := by
    cases isDefault <;> exact (kept_of_visible (by decide) (by decide)).carried
  refine allCarried_cons.mpr ⟨allCarried_leaf (by decide) hnumber, allCarried_cons.mpr ⟨?_, ?_⟩⟩
  · exact allCarried_nest (by decide) (allCarried_leaf (by decide) hcode)
  · exact allCarried_nest (by decide) (allCarried_leaf (by decide) hindicator)

theorem allCarried_dated {path : List String} (hpath : ∀ name ∈ path, PlainName name.toList)
    (date : Option Date) : AllCarried namespaceUri (datedElements path date) := by
  rcases date with _ | date
  · exact allCarried_nil
  · exact allCarried_nest hpath (allCarried_leaf (by decide) (kept_isoformat date).carried)

theorem allCarried_text {text : String} (h : CarriedText text) :
    AllCarried namespaceUri [textElement text] := by
  have hlanguage : CarriedText "en" := (kept_of_visible (by decide) (by decide)).carried
  refine allCarried_nest (by decide) (allCarried_group (by decide) (allCarried_cons.mpr ⟨?_, ?_⟩))
  · exact allCarried_leaf (by decide) hlanguage
  · exact allCarried_leaf (by decide) h

/-- The dates of an option. -/
def optionDates (event : CorporateActionEvent) (deadline : Date) : XmlElement :=
  .group "DtDtls" (datedElements ["PrtctDdln", "Dt"] event.dates.protectDeadline ++
    [nest ["RspnDdln", "Dt"] (.leaf "Dt" deadline.isoformat)])

theorem allCarried_optionDates (event : CorporateActionEvent) (deadline : Date) :
    AllCarried namespaceUri [optionDates event deadline] := by
  refine allCarried_group (by decide) (allCarried_append.mpr ⟨allCarried_dated (by decide) _, ?_⟩)
  exact allCarried_nest (by decide)
    (allCarried_leaf (by decide) (kept_isoformat deadline).carried)

/-- An option may be written whatever its description's line ends are. -/
theorem Offers.writable (h : Offers event deadline option e) : AllWritable namespaceUri [e] := by
  obtain ⟨hnumber, ⟨-, hchars⟩, optionType, -, rfl⟩ := h
  have hlanguage : ∀ c ∈ "en".toList, isXmlChar c = true := by decide
  refine allWritable_group (by decide) (allWritable_append.mpr ⟨?_, allWritable_cons.mpr ⟨?_, ?_⟩⟩)
  · exact allWritable_of_carried (allCarried_optionHead _ (kept_optionNumber hnumber).carried
      (kept_optionCode optionType).carried)
  · exact allWritable_of_carried (allCarried_optionDates event deadline)
  · refine allWritable_group (by decide) (allWritable_group (by decide) ?_)
    exact allWritable_cons.mpr
      ⟨allWritable_leaf (by decide) hlanguage, allWritable_leaf (by decide) hchars⟩

/-- What a parser hands on of an option is the option with its description as it is handed on. -/
theorem unix_optionElement {optionId description : String} {optionType : OptionType}
    (hnumber : isOptionNumber optionId = true) :
    unix (optionElement event optionId description optionType deadline) =
      optionElement event optionId (receivedText description) optionType deadline := by
  have hsteady : ∀ {ts : List XmlElement}, AllCarried "" ts → unixAll ts = ts := by
    intro ts hcarried
    exact unixAll_of_steady ts fun e he => (hcarried e he).steady
  have hhead := hsteady (allCarried_optionHead (some optionId = event.defaultOptionId)
    (kept_optionNumber hnumber).carried (kept_optionCode optionType).carried)
  have hdates := hsteady (allCarried_optionDates event deadline)
  have htext : unixAll [textElement description] = [textElement (receivedText description)] := rfl
  rw [unixAll_eq_map] at hhead hdates htext
  have hkids : unixAll (optionHead optionId (optionCode optionType)
      (some optionId = event.defaultOptionId) ++
        ([optionDates event deadline] ++ [textElement description])) =
      optionHead optionId (optionCode optionType) (some optionId = event.defaultOptionId) ++
        ([optionDates event deadline] ++ [textElement (receivedText description)]) := by
    rw [unixAll_eq_map, List.map_append, List.map_append, hhead, hdates, htext]
  exact congrArg (XmlElement.group "CorpActnOptnDtls") hkids

/-- What is handed on of an option is carried. -/
theorem Offers.carried (h : Offers event deadline option e) : AllCarried namespaceUri [unix e] := by
  obtain ⟨hnumber, ⟨hne, hchars⟩, optionType, -, rfl⟩ := h
  rw [unix_optionElement hnumber]
  refine allCarried_group (by decide) (allCarried_append.mpr ⟨?_, allCarried_cons.mpr ⟨?_, ?_⟩⟩)
  · exact allCarried_optionHead _ (kept_optionNumber hnumber).carried
      (kept_optionCode optionType).carried
  · exact allCarried_optionDates event deadline
  · exact allCarried_text (carriedText_receivedText hne hchars)

/-! ## Reading one option -/

/-- What is read of an option's description. -/
theorem description_read (huri : namespaceUri ≠ "") (event : CorporateActionEvent)
    (optionId description : String) (optionType : OptionType) (deadline : Date) :
    (((inNamespace namespaceUri
      (optionElement event optionId description optionType deadline)).findPath namespaceUri
        ["AddtlInf", "AddtlTxt"]).bind (textAt namespaceUri ["AddtlInf"])).getD "" =
      stripped description := by
  let text : XmlElement := .group "AddtlTxt" [.leaf "Lang" "en", .leaf "AddtlInf" description]
  have hfound : (optionElement event optionId description optionType deadline).findPath ""
      ["AddtlInf", "AddtlTxt"] = some text := rfl
  have hwords : textAt "" ["AddtlInf"] text = some (stripped description) := rfl
  rw [findPath_inNamespace huri, hfound, Option.map_some, Option.bind_some, textAt_within huri,
    hwords, Option.getD_some]

/-- The deadlines of the event are read of each option. -/
theorem deadlines_read (event : CorporateActionEvent) (optionId description : String)
    (optionType : OptionType) (deadline : Date) :
    dateAt "" ["DtDtls", "RspnDdln", "Dt", "Dt"]
        (optionElement event optionId description optionType deadline) = .ok (some deadline) ∧
      dateAt "" ["DtDtls", "PrtctDdln", "Dt", "Dt"]
        (optionElement event optionId description optionType deadline) =
          .ok event.dates.protectDeadline := by
  rcases hprotect : event.dates.protectDeadline with _ | protect
  · refine ⟨dateAt_of_isoformat ?_, ?_⟩
    · rw [optionElement, hprotect]
      rfl
    · rw [optionElement, hprotect]
      rfl
  · refine ⟨dateAt_of_isoformat ?_, dateAt_of_isoformat ?_⟩
    · rw [optionElement, hprotect]
      rfl
    · rw [optionElement, hprotect]
      rfl

/-- What reading one option more comes to: its description is not blank, it is not a second
default option, and it is added to what was read. -/
theorem readOption_offered (huri : namespaceUri ≠ "") (h : Offers event deadline option e)
    (read : OptionsRead) :
    readOption namespaceUri read (inNamespace namespaceUri (unix e)) =
      (Outcome.refuseIf (receivedWords option.description = "")
          (refusal .notRepresentable ("option " ++ option.optionId ++ " states no description"))
        >>= fun _ =>
      announcedOption option.optionId (receivedWords option.description)
          (option.optionType.getD .othr) >>= fun given =>
      Outcome.refuseIf (some option.optionId = event.defaultOptionId ∧ read.defaultOptionId ≠ none)
          (refusal .notRepresentable "more than one default option") >>= fun _ =>
      .ok
        { options := read.options ++ [given]
          defaultOptionId := if some option.optionId = event.defaultOptionId then
            some option.optionId else read.defaultOptionId
          electionDeadlines := noteDeadline (some deadline) read.electionDeadlines
          protectDeadlines := noteDeadline event.dates.protectDeadline read.protectDeadlines }) := by
  obtain ⟨hnumber, -, optionType, htype, rfl⟩ := h
  have hdescription := description_read huri event option.optionId
    (receivedText option.description) optionType deadline
  obtain ⟨helection, hprotect⟩ := deadlines_read event option.optionId
    (receivedText option.description) optionType deadline
  rw [unix_optionElement hnumber, htype, Option.getD_some, receivedWords]
  generalize ht : optionElement event option.optionId (receivedText option.description) optionType
    deadline = t at hdescription helection hprotect ⊢
  have hid : textAt "" ["OptnNb"] t = some (stripped option.optionId) := by
    rw [← ht]
    rfl
  have hcode : textAt "" ["OptnTp", "Cd"] t = some (stripped (optionCode optionType)) := by
    rw [← ht]
    rfl
  have hread : ofCode optionTypes (optionCode optionType) "option type" = .ok optionType := by
    rw [ofCode, lookup_optionTypes]
  have hindicator : textAt "" ["DfltPrcgOrStgInstr", "DfltOptnInd"] t =
      some (stripped (if decide (some option.optionId = event.defaultOptionId) = true then "true"
        else "false")) := by
    rw [← ht]
    rfl
  have hside : ∀ side : Bool, Kept (if side = true then "true" else "false") ∧
      oneOf (if side = true then "true" else "false") booleanCodes "default" = .ok side := by
    intro side
    cases side
    · exact ⟨kept_of_visible (by decide) (by decide), rfl⟩
    · exact ⟨kept_of_visible (by decide) (by decide), rfl⟩
  obtain ⟨hkept, hdefault⟩ := hside (decide (some option.optionId = event.defaultOptionId))
  rw [readOption, requiredAt_within huri, requiredAt_of_kept hid (kept_optionNumber hnumber),
    Outcome.ok_bind]
  dsimp only
  rw [hdescription, requiredAt_within huri, requiredAt_of_kept hcode (kept_optionCode optionType),
    Outcome.ok_bind, optionTypeOf, hread, Outcome.ok_bind, requiredAt_within huri,
    requiredAt_of_kept hindicator hkept, dateAt_within huri, helection, dateAt_within huri, hprotect]
  simp only [Outcome.ok_bind, hdefault]
  simp only [decide_eq_true_iff]

/-- What an option that was read holds. -/
theorem announcedOption_eq_ok {optionId description : String} {optionType : OptionType}
    {given : ElectionOption} : announcedOption optionId description optionType = .ok given ↔
      given.optionId = optionId ∧ given.description = description ∧
        given.optionType = some optionType := by
  simp only [announcedOption, Outcome.bind_eq_ok, nonEmpty_eq_ok]
  constructor
  · rintro ⟨optionId, hid, description, hdescription, h⟩
    cases h
    exact ⟨hid, hdescription, rfl⟩
  · rintro ⟨hid, hdescription, htype⟩
    refine ⟨⟨_, given.option_named⟩, hid, ⟨_, given.described⟩, hdescription, ?_⟩
    rw [Except.ok.injEq, ElectionOption.ext_iff]
    exact ⟨rfl, rfl, htype.symm⟩

/-! ## Reading the options of an event -/

/-- What was read of the options that were seen: the options, the default one where it is among
them, and the deadlines of the event where there was any option to read them of. -/
def readSoFar (event : CorporateActionEvent) (deadline : Date) (seen : List ElectionOption) :
    OptionsRead where
  options := seen
  defaultOptionId := event.defaultOptionId.filter fun id => id ∈ seen.map ElectionOption.optionId
  electionDeadlines := if seen = [] then [] else [some deadline]
  protectDeadlines := if seen = [] then [] else [event.dates.protectDeadline]

/-- A deadline that every option repeats is found once. -/
theorem noteDeadline_again (deadline : Option Date) (seen : List ElectionOption)
    (option : ElectionOption) : noteDeadline deadline (if seen = [] then [] else [deadline]) =
      if seen ++ [option] = [] then [] else [deadline] := by
  have hmore : ¬ seen ++ [option] = [] := List.append_ne_nil_of_right_ne_nil _ (List.cons_ne_nil _ _)
  rw [if_neg hmore]
  by_cases hseen : seen = []
  · rw [if_pos hseen, noteDeadline, if_neg List.not_mem_nil, List.nil_append]
  · rw [if_neg hseen, noteDeadline, if_pos (List.mem_singleton.mpr rfl)]

variable {seen : List ElectionOption}

/-- The default option is found at the option of its number. -/
theorem default_next (event : CorporateActionEvent) (deadline : Date) (hnew : option.optionId ∉ seen.map ElectionOption.optionId) :
    (if some option.optionId = event.defaultOptionId then some option.optionId
      else (readSoFar event deadline seen).defaultOptionId) =
        (readSoFar event deadline (seen ++ [option])).defaultOptionId ∧
      ¬ (some option.optionId = event.defaultOptionId ∧
        (readSoFar event deadline seen).defaultOptionId ≠ none) := by
  have hfound : ∀ (default : String) (ids : List String),
      (some default).filter (fun id => decide (id ∈ ids)) =
        if default ∈ ids then some default else none := by
    intro default ids
    rw [Option.filter_some]
    exact if_congr decide_eq_true_iff rfl rfl
  have hids : (seen ++ [option]).map ElectionOption.optionId =
      seen.map ElectionOption.optionId ++ [option.optionId] := by
    rw [List.map_append, List.map_singleton]
  rcases hdefault : event.defaultOptionId with _ | default
  · simp [readSoFar, hdefault]
  · simp only [readSoFar, hdefault, hids, hfound, Option.some_inj]
    by_cases hsame : option.optionId = default
    · subst hsame
      have hlast : option.optionId ∈ seen.map ElectionOption.optionId ++ [option.optionId] :=
        List.mem_append_right _ (List.mem_singleton.mpr rfl)
      rw [if_pos rfl, if_pos hlast, if_neg hnew]
      exact ⟨rfl, fun hsecond => hsecond.2 rfl⟩
    · have hearlier : default ∈ seen.map ElectionOption.optionId ++ [option.optionId] ↔
          default ∈ seen.map ElectionOption.optionId := by
        rw [List.mem_append, List.mem_singleton]
        exact or_iff_left (Ne.symm hsame)
      rw [if_neg hsame, if_congr hearlier rfl rfl]
      exact ⟨rfl, fun hsecond => hsame hsecond.1⟩

/-- An option whose description is whole is read after others as it was offered. -/
theorem readOption_next (huri : namespaceUri ≠ "") (h : Offers event deadline option e)
    (hwhole : receivedWords option.description = option.description)
    (hnew : option.optionId ∉ seen.map ElectionOption.optionId) :
    readOption namespaceUri (readSoFar event deadline seen) (inNamespace namespaceUri (unix e)) =
      .ok (readSoFar event deadline (seen ++ [option])) := by
  obtain ⟨optionType, htype, -⟩ := h.element
  obtain ⟨hdefault, hfirst⟩ := default_next event deadline hnew
  have hgiven : announcedOption option.optionId option.description optionType = .ok option :=
    announcedOption_eq_ok.mpr ⟨rfl, rfl, htype⟩
  rw [readOption_offered huri h, hwhole, Outcome.refuseIf_bind h.described.1, htype,
    Option.getD_some, hgiven, Outcome.ok_bind, Outcome.refuseIf_bind hfirst, hdefault]
  dsimp only [readSoFar]
  rw [noteDeadline_again, noteDeadline_again]

variable {rest : List ElectionOption} {elements : List XmlElement}

/-- Options whose descriptions are whole are read as they were offered. -/
theorem foldSteps_offered (seen : List ElectionOption) (huri : namespaceUri ≠ "")
    (h : List.Forall₂ (Offers event deadline) rest elements)
    (hwhole : ∀ option ∈ rest, receivedWords option.description = option.description)
    (hids : ((seen ++ rest).map ElectionOption.optionId).Nodup) :
    Outcome.foldSteps (readOption namespaceUri) (readSoFar event deadline seen)
      ((unixAll elements).map (inNamespace namespaceUri)) =
        .ok (readSoFar event deadline (seen ++ rest)) := by
  rw [unixAll_eq_map, List.map_map]
  induction h generalizing seen with
  | nil => rw [List.map_nil, Outcome.foldSteps_nil, List.append_nil]
  | @cons option e rest elements hoffers _ ih =>
    have hnew : option.optionId ∉ seen.map ElectionOption.optionId := by
      rw [List.map_append, List.map_cons] at hids
      exact fun hmem => (List.nodup_append.mp hids).2.2 _ hmem _ List.mem_cons_self rfl
    rw [List.append_cons] at hids ⊢
    rw [List.map_cons, Outcome.foldSteps_cons, Function.comp_apply,
      readOption_next huri hoffers (hwhole option List.mem_cons_self) hnew, Outcome.ok_bind]
    exact ih _ (fun other hother => hwhole other (List.mem_cons_of_mem option hother)) hids

/-- What is read of the descriptions of some options. -/
theorem descriptions_of_foldSteps (huri : namespaceUri ≠ "")
    (h : List.Forall₂ (Offers event deadline) rest elements) {start final : OptionsRead}
    (hread : Outcome.foldSteps (readOption namespaceUri) start
      ((unixAll elements).map (inNamespace namespaceUri)) = .ok final) :
    final.options.map ElectionOption.description =
      start.options.map ElectionOption.description ++
        rest.map fun option => receivedWords option.description := by
  rw [unixAll_eq_map, List.map_map] at hread
  induction h generalizing start with
  | nil =>
    cases hread
    rw [List.map_nil, List.append_nil]
  | @cons option e rest elements hoffers _ ih =>
    rw [List.map_cons, Outcome.foldSteps_cons, Function.comp_apply, readOption_offered huri hoffers,
      Outcome.bind_eq_ok] at hread
    obtain ⟨next, hnext, hread⟩ := hread
    rw [Outcome.bind_eq_ok] at hnext
    obtain ⟨_, -, hnext⟩ := hnext
    rw [Outcome.bind_eq_ok] at hnext
    obtain ⟨given, hgiven, hnext⟩ := hnext
    rw [Outcome.bind_eq_ok] at hnext
    obtain ⟨_, -, hnext⟩ := hnext
    cases hnext
    rw [ih hread, List.map_append, List.map_singleton, List.map_cons,
      (announcedOption_eq_ok.mp hgiven).2.1, List.append_assoc, List.singleton_append]

/-- Options that are read as they were offered have whole descriptions. -/
theorem whole_of_foldSteps (huri : namespaceUri ≠ "")
    (h : List.Forall₂ (Offers event deadline) rest elements) {final : OptionsRead}
    (hread : Outcome.foldSteps (readOption namespaceUri) {}
      ((unixAll elements).map (inNamespace namespaceUri)) = .ok final)
    (hsame : final.options = rest) :
    ∀ option ∈ rest, receivedWords option.description = option.description := by
  have hdescriptions := descriptions_of_foldSteps huri h hread
  rw [hsame, List.map_nil, List.nil_append] at hdescriptions
  exact fun option hmem => (List.map_inj_left.mp hdescriptions option hmem).symm

end

end Iso20022

end CorporateActions

end Atreides
