import Atreides.CorporateActions.Iso20022.AnnouncementOptions
import Atreides.CorporateActions.Iso20022.AnnouncementTerms
import Atreides.CorporateActions.Iso20022.Instructions

/-!
# Announcements read back

An announced event is read back from its announcement as the event it is, on the word of whoever
sent it, where the message can carry it: an identifier and descriptions without idle blanks, and
terms that have room on one option. Every other message of the adapter's is refused.

## Main definitions

* `RestatesEvent` — an event as an announcement states another
* `CarriedWhole` — an event that an announcement carries

## Main results

* `readOptions_iff` — which options and terms are read as they were announced
* `announcement_round_trip` — an encoded event is decoded, by its own release alone
-/

namespace Atreides

namespace CorporateActions

namespace Iso20022

open XmlElement XmlText

open CustomerProtection (NonNegativeMoney)

open scoped Characters

/-! ## Valid events -/

section

variable (event : CorporateActionEvent)

/-- The checks of an event's dates and options, one by one. -/
theorem participation_checks :
    (event.participation.elective = true → event.dates.electionDeadline ≠ none) ∧
    (event.participation.elective = false → event.dates.electionDeadline = none) ∧
    (event.dates.protectDeadline ≠ none → event.participation = .voluntary) ∧
    (event.participation.elective = false →
      event.options = [] ∧ event.defaultOptionId.any (· ≠ "") = false) ∧
    event.optionIds.Nodup ∧ event.defaultOffered = .ok () := by
  have hvalid := event.valid
  simp only [CorporateActionEventFields.validate, CorporateActionEventFields.datesFitParticipation,
    Outcome.bind_eq_ok, Outcome.refuseIf_eq_ok, exists_const, not_and, not_or, not_not,
    Bool.not_eq_true', Bool.not_eq_true] at hvalid
  obtain ⟨_, -, _, -, _, -, helective, hmandatory, hprotect, hoptions, hids, hdefault⟩ := hvalid
  exact ⟨helective, hmandatory, hprotect, hoptions, hids, hdefault⟩

/-- The default option is one of the options. -/
theorem default_offered : event.defaultOptionId.filter (fun id =>
    id ∈ event.options.map ElectionOption.optionId) = event.defaultOptionId := by
  obtain ⟨-, -, -, -, -, hoffered⟩ := participation_checks event
  rw [CorporateActionEventFields.defaultOffered] at hoffered
  rcases hdefault : event.defaultOptionId with _ | default
  · rfl
  · rw [hdefault] at hoffered
    have hmem := not_not.mp (Outcome.refuseIf_eq_ok.mp hoffered)
    rw [Option.filter_some]
    exact if_pos (decide_eq_true hmem)

/-- A mandatory event has no deadlines and no options. -/
theorem mandatory_bare {event : CorporateActionEvent} (h : event.participation.elective = false) :
    event.options = [] ∧ event.defaultOptionId = none ∧ event.dates.electionDeadline = none ∧
      event.dates.protectDeadline = none := by
  obtain ⟨-, hdeadline, hprotect, hoptions, -, -⟩ := participation_checks event
  have hnone := (hoptions h).1
  refine ⟨hnone, ?_, hdeadline h, ?_⟩
  · rw [← default_offered event, hnone, Option.filter_eq_none_iff]
    intro id _
    simp
  · by_contra hstated
    -- a protect deadline is stated for a voluntary event alone
    rw [hprotect hstated] at h
    cases h

/-- An event is valid on the word of another source too, and with other terms. -/
theorem resourced_valid (terms : EventTerms) {origin : AnnouncementOrigin}
    (hfact : origin.provenance.isFact = true) :
    CorporateActionEventFields.validate { event.toCorporateActionEventFields with
      terms := terms
      provenance := origin.provenance
      source := origin.source } = .ok () := by
  have hvalid := event.valid
  rw [CorporateActionEventFields.validate, Outcome.bind_eq_ok] at hvalid ⊢
  obtain ⟨_, hevent, hvalid⟩ := hvalid
  rw [Outcome.bind_eq_ok] at hvalid
  obtain ⟨_, hsecurity, hvalid⟩ := hvalid
  rw [Outcome.bind_eq_ok] at hvalid
  obtain ⟨_, -, hdates⟩ := hvalid
  have hreported : CorporateActionEventFields.aFact { event.toCorporateActionEventFields with
      terms := terms
      provenance := origin.provenance
      source := origin.source } = .ok () := by
    rw [CorporateActionEventFields.aFact, Outcome.refuseIf_eq_ok, hfact]
    decide
  refine ⟨(), hevent, ?_⟩
  rw [Outcome.bind_eq_ok]
  refine ⟨(), hsecurity, ?_⟩
  rw [Outcome.bind_eq_ok]
  exact ⟨(), hreported, hdates⟩

end

/-! ## Messages of events -/

theorem isinIdentifier_eq_ok {value text : String} :
    isinIdentifier value = .ok text ↔ text = value ∧ isIsin value = true := by
  rw [isinIdentifier, Outcome.bind_eq_ok]
  constructor
  · rintro ⟨_, hisin, h⟩
    rw [Outcome.refuseIf_eq_ok, Bool.not_eq_false] at hisin
    exact ⟨(Except.ok.inj h).symm, hisin⟩
  · rintro ⟨rfl, hisin⟩
    refine ⟨(), ?_, rfl⟩
    rw [Outcome.refuseIf_eq_ok, hisin]
    decide

section

variable {event : CorporateActionEvent} {terms : EventTerms} {payable : Date} {option : XmlElement}
  {options : List XmlElement} {namespaceUri : String}

/-- The option of terms in cash is carried. -/
theorem cashOption_carried {cash : NonNegativeMoney}
    (h : cashOption terms cash payable = .ok option) :
    AllCarried namespaceUri [option] ∧ option.tag = "CorpActnOptnDtls" := by
  obtain ⟨currency, text, price, -, hcode, -, -, hwritten, hprice, rfl⟩ := cashOption_parts h
  have hnumber : CarriedText "001" := (kept_of_visible (by decide) (by decide)).carried
  have hcredit : CarriedText "CRDT" := (kept_of_visible (by decide) (by decide)).carried
  have hincome : CarriedText incomeRate := (kept_of_visible (by decide) (by decide)).carried
  have hrate : AllCarried namespaceUri [cashRateElement payable currency text] := by
    refine allCarried_group (by decide) (allCarried_cons.mpr
      ⟨allCarried_leaf (by decide) hcredit, allCarried_cons.mpr ⟨?_, ?_⟩⟩)
    · exact allCarried_nest (by decide)
        (allCarried_leaf (by decide) (kept_isoformat payable).carried)
    · refine allCarried_nest (by decide) (allCarried_group (by decide) (allCarried_cons.mpr
        ⟨?_, allCarried_amount (by decide) hcode hwritten.1.carried⟩))
      exact allCarried_nest (by decide) (allCarried_leaf (by decide) hincome)
  have hinformation : AllCarried namespaceUri
      (price.map fun price => textElement (priceText currency price)).toList := by
    rcases price with _ | price
    · exact allCarried_nil
    · rcases hstated : terms.reinvestmentPricePerShare with _ | stated
      · rw [hstated] at hprice
        exact hprice.elim
      · rw [hstated] at hprice
        exact allCarried_text (priceText_carried hcode hprice.1).1
  refine ⟨allCarried_group (by decide) ?_, rfl⟩
  exact allCarried_append.mpr ⟨allCarried_append.mpr
    ⟨allCarried_optionHead true hnumber (kept_optionCode .cash).carried, hrate⟩, hinformation⟩

/-- The option of terms in securities is carried. -/
theorem ratioOption_carried {security : String} (hsecurity : isIsin security = true)
    (h : ratioOption terms security payable = .ok option) :
    AllCarried namespaceUri [option] ∧ option.tag = "CorpActnOptnDtls" := by
  obtain ⟨tag, first, second, firstText, secondText, -, hratio, hfirst, hsecond, rfl⟩ :=
    ratioOption_parts h
  have hnumber : CarriedText "001" := (kept_of_visible (by decide) (by decide)).carried
  have hcredit : CarriedText "CRDT" := (kept_of_visible (by decide) (by decide)).carried
  have htag : ∀ name ∈ ["RateDtls", tag], PlainName name.toList := by
    rcases ratioOf_eq_ok.mp hratio with ⟨_, -, rfl, -⟩ | ⟨-, -, -, rfl⟩
    · decide
    · decide
  have hmovement : AllCarried namespaceUri
      [ratioElement security payable tag firstText secondText] := by
    refine allCarried_group (by decide) (allCarried_cons.mpr ⟨?_, allCarried_cons.mpr
      ⟨allCarried_leaf (by decide) hcredit, allCarried_cons.mpr ⟨?_, ?_⟩⟩⟩)
    · exact allCarried_nest (by decide) (allCarried_leaf (by decide) (kept_isin hsecurity).carried)
    · exact allCarried_nest (by decide)
        (allCarried_leaf (by decide) (kept_isoformat payable).carried)
    · exact allCarried_nest htag (allCarried_group (by decide) (allCarried_cons.mpr
        ⟨allCarried_leaf (by decide) hfirst.1.carried,
          allCarried_leaf (by decide) hsecond.1.carried⟩))
  refine ⟨allCarried_group (by decide) (allCarried_append.mpr ⟨?_, hmovement⟩), rfl⟩
  exact allCarried_optionHead true hnumber (kept_optionCode .secu).carried

/-- The options of a mandatory event: none where no terms are stated, and one of terms in cash or
in securities. -/
theorem termsOption_parts (h : termsOption event = .ok options) :
    event.terms = .unstated ∧ options = [] ∨
    ∃ payable option, options = [option] ∧
      ((∃ cash, statedCash event.terms = some cash ∧
          cashOption event.terms cash payable = .ok option) ∨
        statedCash event.terms = none ∧
          ratioOption event.terms event.securityId payable = .ok option) := by
  have hsingle : ∀ {x : Outcome XmlElement}, (fun e => [e]) <$> x = .ok options →
      ∃ option, x = .ok option ∧ options = [option] := by
    intro x hx
    rcases x with error | option
    · cases hx
    · exact ⟨option, rfl, (Except.ok.inj hx).symm⟩
  rw [termsOption] at h
  split_ifs at h with hunstated
  · exact .inl ⟨hunstated, (Except.ok.inj h).symm⟩
  · right
    rcases hpayable : event.dates.payableDate with _ | payable
    · rw [hpayable] at h
      cases h
    · rw [hpayable] at h
      rcases hcash : statedCash event.terms with _ | cash
      · rw [hcash] at h
        obtain ⟨option, hoption, rfl⟩ := hsingle h
        exact ⟨payable, option, rfl, .inr ⟨rfl, hoption⟩⟩
      · rw [hcash] at h
        obtain ⟨option, hoption, rfl⟩ := hsingle h
        exact ⟨payable, option, rfl, .inl ⟨cash, rfl, hoption⟩⟩

/-- The options of a mandatory event are carried. -/
theorem termsOption_carried (namespaceUri : String) (hsecurity : isIsin event.securityId = true)
    (h : termsOption event = .ok options) :
    AllCarried namespaceUri options ∧ ∀ e ∈ options, e.tag = "CorpActnOptnDtls" := by
  rcases termsOption_parts h with ⟨-, rfl⟩ | ⟨payable, option, rfl, hparts⟩
  · exact ⟨allCarried_nil, fun e he => absurd he List.not_mem_nil⟩
  · have hone : AllCarried namespaceUri [option] ∧ option.tag = "CorpActnOptnDtls" := by
      rcases hparts with ⟨cash, -, hoption⟩ | ⟨-, hoption⟩
      · exact cashOption_carried hoption
      · exact ratioOption_carried hsecurity hoption
    exact ⟨hone.1, fun e he => List.mem_singleton.mp he ▸ hone.2⟩

/-- What the options of an elective event are written from. -/
theorem electiveOptions_parts (helective : event.participation.elective = true)
    (h : optionElements event = .ok options) :
    event.terms = .unstated ∧ ∃ deadline, event.dates.electionDeadline = some deadline ∧
      event.options ≠ [] ∧ List.Forall₂ (Offers event deadline) event.options options := by
  rw [optionElements, if_pos helective, Outcome.bind_eq_ok] at h
  obtain ⟨_, hterms, h⟩ := h
  rw [Outcome.refuseIf_eq_ok, not_not] at hterms
  rw [Outcome.bind_eq_ok] at h
  obtain ⟨_, hoptions, h⟩ := h
  obtain ⟨deadline, hdeadline⟩ := Option.ne_none_iff_exists'.mp
    ((participation_checks event).1 helective)
  refine ⟨hterms, deadline, hdeadline, Outcome.refuseIf_eq_ok.mp hoptions, ?_⟩
  exact (Outcome.collect_forall h).imp fun _ _ => offers_of_electiveOption hdeadline

/-- The options of an event may be written, and what is handed on of them is carried. -/
theorem options_written (namespaceUri : String) (hsecurity : isIsin event.securityId = true)
    (h : optionElements event = .ok options) :
    AllWritable namespaceUri options ∧ AllCarried namespaceUri (unixAll options) ∧
      ∀ e ∈ unixAll options, e.tag = "CorpActnOptnDtls" := by
  rcases helective : event.participation.elective with _ | _
  · rw [optionElements, helective, if_neg Bool.false_ne_true] at h
    have hcarried := termsOption_carried namespaceUri hsecurity h
    have hsteady : unixAll options = options :=
      unixAll_of_steady options fun e he => (hcarried.1 e he).steady
    rw [hsteady]
    exact ⟨allWritable_of_carried hcarried.1, hcarried⟩
  · obtain ⟨-, deadline, -, -, hoffers⟩ := electiveOptions_parts helective h
    rw [unixAll_eq_map]
    clear h
    revert hoffers
    generalize event.options = offered
    intro hoffers
    induction hoffers with
    | nil =>
      exact ⟨allWritable_of_carried allCarried_nil, allCarried_nil, fun e he =>
        absurd he List.not_mem_nil⟩
    | @cons option e offered options hoffer _ ih =>
      have htag : (unix e).tag = "CorpActnOptnDtls" := by
        obtain ⟨optionType, -, rfl⟩ := hoffer.element
        rw [unix_optionElement hoffer.numbered]
        rfl
      exact ⟨allWritable_cons.mpr ⟨hoffer.writable, ih.1⟩,
        allCarried_cons.mpr ⟨hoffer.carried, ih.2.1⟩, List.forall_mem_cons.mpr ⟨htag, ih.2.2⟩⟩

end

/-! ## Options that are read -/

/-- An event that an announcement carries: its identifier has no blank at its ends, nor has a
description, which holds no carriage return either, and its terms are carried whole. -/
structure CarriedWhole (event : CorporateActionEvent) : Prop where
  identifier : stripped event.eventId = event.eventId
  descriptions : ∀ option ∈ event.options,
    carriageReturn ∉ option.description.toList ∧ stripped option.description = option.description
  terms : CarriesTerms event.eventType event.terms

/-- What was read of an event's options is what the event states. -/
structure OptionsRestate (event : CorporateActionEvent) (terms : EventTerms) (read : OptionsRead) :
    Prop where
  terms : terms.same event.terms = true
  options : read.options = event.options
  default : read.defaultOptionId = event.defaultOptionId
  election : read.electionDeadlines.head?.join = event.dates.electionDeadline
  protect : read.protectDeadlines.head?.join = event.dates.protectDeadline

section

variable {event : CorporateActionEvent} {options : List XmlElement} {namespaceUri : String}

/-- The terms of a mandatory event are read as they were stated exactly where they are carried
whole. -/
theorem mandatory_read (huri : namespaceUri ≠ "") (h : termsOption event = .ok options)
    (hmandatory : event.participation.elective = false) :
    (∃ terms read, readOptions namespaceUri event.eventType event.participation
        (options.map (inNamespace namespaceUri)) = .ok (terms, read) ∧
      OptionsRestate event terms read) ↔ CarriesTerms event.eventType event.terms := by
  obtain ⟨hoptions, hdefault, helection, hprotect⟩ := mandatory_bare hmandatory
  have hrestate : ∀ terms : EventTerms,
      OptionsRestate event terms {} ↔ terms.same event.terms = true := by
    intro terms
    refine ⟨OptionsRestate.terms, fun hsame => ⟨hsame, ?_, ?_, ?_, ?_⟩⟩
    · exact hoptions.symm
    · exact hdefault.symm
    · exact helection.symm
    · exact hprotect.symm
  have hsteps : ∀ option, (∃ terms read, readOptions namespaceUri event.eventType
        event.participation [option] = .ok (terms, read) ∧ OptionsRestate event terms read) ↔
      ∃ terms, (readTerms namespaceUri option >>= termsOfEventType event.eventType) = .ok terms ∧
        terms.same event.terms = true := by
    intro option
    rw [readOptions, hmandatory, if_neg Bool.false_ne_true]
    simp only [Outcome.bind_eq_ok]
    constructor
    · rintro ⟨terms, read, ⟨first, hfirst, second, hsecond, h⟩, hsame⟩
      cases h
      exact ⟨terms, ⟨first, hfirst, hsecond⟩, hsame.terms⟩
    · rintro ⟨terms, ⟨first, hfirst, hsecond⟩, hsame⟩
      exact ⟨terms, {}, ⟨first, hfirst, terms, hsecond, rfl⟩, (hrestate terms).mpr hsame⟩
  rcases termsOption_parts h with ⟨hunstated, rfl⟩ | ⟨payable, option, rfl, hparts⟩
  · have hnone : readOptions namespaceUri event.eventType event.participation [] =
        .ok (.unstated, {}) := by
      rw [readOptions, hmandatory, if_neg Bool.false_ne_true]
    refine iff_of_true ⟨.unstated, {}, hnone, (hrestate .unstated).mpr ?_⟩ ?_
    · rw [hunstated]
      decide
    · rw [hunstated]
      exact carriesTerms_unstated event.eventType
  · rw [List.map_singleton, hsteps]
    rcases hparts with ⟨cash, hcash, hoption⟩ | ⟨hcash, hoption⟩
    · obtain ⟨read, hread, hsame⟩ := termsRead_cash event.eventType huri hcash hoption
      rw [← hsame]
      constructor
      · rintro ⟨terms, hterms, hrestates⟩
        cases hread.symm.trans hterms
        exact hrestates
      · intro hrestates
        exact ⟨read, hread, hrestates⟩
    · exact termsRead_ratio huri hcash hoption

/-- The options of an elective event are read as they were offered exactly where every description
is whole. -/
theorem elective_read (huri : namespaceUri ≠ "") (h : optionElements event = .ok options)
    (helective : event.participation.elective = true) :
    (∃ terms read, readOptions namespaceUri event.eventType event.participation
        ((unixAll options).map (inNamespace namespaceUri)) = .ok (terms, read) ∧
      OptionsRestate event terms read) ↔
    ∀ option ∈ event.options, receivedWords option.description = option.description := by
  obtain ⟨hterms, deadline, hdeadline, hne, hoffers⟩ := electiveOptions_parts helective h
  obtain ⟨-, -, -, -, hids, -⟩ := participation_checks event
  have hstart : readSoFar event deadline [] = {} := by
    rw [readSoFar, if_pos rfl, if_pos rfl]
    refine congrArg (fun default => ({ defaultOptionId := default } : OptionsRead)) ?_
    rw [Option.filter_eq_none_iff]
    intro id _
    simp
  unfold readOptions
  rw [if_pos helective]
  constructor
  · rintro ⟨terms, read, hread, hrestates⟩
    rw [Outcome.bind_eq_ok] at hread
    obtain ⟨read', hsteps, hread⟩ := hread
    rw [Outcome.bind_eq_ok] at hread
    obtain ⟨_, -, hread⟩ := hread
    cases hread
    -- the options that were read carry the descriptions as they were received
    exact whole_of_foldSteps huri hoffers hsteps hrestates.options
  · intro hwhole
    have hsteps := foldSteps_offered [] huri hoffers hwhole hids
    rw [hstart, List.nil_append] at hsteps
    -- every option repeats the event's deadlines, so no second one is found
    have honce : ¬ (1 < (readSoFar event deadline event.options).electionDeadlines.length ∨
        1 < (readSoFar event deadline event.options).protectDeadlines.length) := by
      rw [readSoFar, if_neg hne, if_neg hne, List.length_singleton, List.length_singleton]
      decide
    refine ⟨.unstated, readSoFar event deadline event.options, ?_, ?_, rfl, ?_, ?_, ?_⟩
    · rw [hsteps, Outcome.ok_bind, Outcome.refuseIf_bind honce]
    · rw [hterms]
      decide
    · exact default_offered event
    · rw [readSoFar, if_neg hne, hdeadline]
      rfl
    · rw [readSoFar]
      dsimp only
      rw [if_neg hne]
      rfl

/-- The options and terms of an event are read as they were announced exactly where every
description is whole and the terms are carried whole. -/
theorem readOptions_iff (huri : namespaceUri ≠ "") (hsecurity : isIsin event.securityId = true)
    (h : optionElements event = .ok options) :
    (∃ terms read, readOptions namespaceUri event.eventType event.participation
        ((unixAll options).map (inNamespace namespaceUri)) = .ok (terms, read) ∧
      OptionsRestate event terms read) ↔
    (∀ option ∈ event.options, carriageReturn ∉ option.description.toList ∧
        stripped option.description = option.description) ∧
      CarriesTerms event.eventType event.terms := by
  rcases helective : event.participation.elective with _ | _
  · rw [optionElements, helective, if_neg Bool.false_ne_true] at h
    have hcarried := (termsOption_carried namespaceUri hsecurity h).1
    have hsteady : unixAll options = options :=
      unixAll_of_steady options fun e he => (hcarried e he).steady
    rw [hsteady, mandatory_read huri h helective, (mandatory_bare helective).1]
    exact ⟨fun hterms => ⟨fun option hmem => absurd hmem List.not_mem_nil, hterms⟩, And.right⟩
  · obtain ⟨hterms, -⟩ := electiveOptions_parts helective h
    simp only [elective_read huri h helective, receivedWords_eq_self_iff]
    rw [hterms]
    exact ⟨fun hwhole => ⟨hwhole, carriesTerms_unstated event.eventType⟩, And.left⟩

end

/-! ## Events that are read -/

/-- An event that was read states what another states, on the word of its origin: the same terms
as numbers, and all else alike. -/
structure RestatesEvent (event : CorporateActionEvent) (origin : AnnouncementOrigin)
    (read : CorporateActionEvent) : Prop where
  fields : { read.toCorporateActionEventFields with terms := .unstated } =
    { event.toCorporateActionEventFields with
      terms := .unstated
      provenance := origin.provenance
      source := origin.source }
  terms : read.terms.same event.terms = true

theorem eventDates_eq_ok {fields : EventDatesFields} {dates : EventDates} :
    eventDates fields = .ok dates ↔ dates.toEventDatesFields = fields := by
  rw [eventDates, Outcome.checked_eq_ok]
  constructor
  · rintro ⟨_, rfl⟩
    rfl
  · rintro rfl
    exact ⟨dates.in_order, rfl⟩

theorem corporateActionEvent_eq_ok {fields : CorporateActionEventFields}
    {event : CorporateActionEvent} :
    corporateActionEvent fields = .ok event ↔ event.toCorporateActionEventFields = fields := by
  rw [corporateActionEvent, Outcome.checked_eq_ok]
  constructor
  · rintro ⟨_, rfl⟩
    rfl
  · rintro rfl
    exact ⟨event.valid, rfl⟩

section

variable {event : CorporateActionEvent} {options : List XmlElement} {namespaceUri : String}
  {library : AdapterLibrary} {origin : AnnouncementOrigin}

/-- What an announcement says beside its options is carried. -/
theorem allCarried_announcement (namespaceUri : String) (event : CorporateActionEvent)
    {eventId security : String} (hevent : CarriedText eventId)
    (hsecurity : CarriedText security) :
    AllCarried namespaceUri (announcementElements event eventId security) := by
  have htext : ∀ text ∈ ["NEWM", "COMP", "CONF", "GENR"], CarriedText text := by
    intro text hmem
    refine (kept_of_visible ?_ ?_).carried
    · revert hmem text
      decide
    · revert hmem text
      decide
  refine allCarried_cons.mpr ⟨?_, allCarried_cons.mpr ⟨?_, allCarried_cons.mpr ⟨?_, ?_⟩⟩⟩
  · refine allCarried_group (by decide) (allCarried_cons.mpr
      ⟨allCarried_leaf (by decide) (htext _ (by decide)), allCarried_nest (by decide)
        (allCarried_group (by decide) (allCarried_cons.mpr ⟨?_, ?_⟩))⟩)
    · exact allCarried_leaf (by decide) (htext _ (by decide))
    · exact allCarried_leaf (by decide) (htext _ (by decide))
  · refine allCarried_group (by decide) (allCarried_cons.mpr
      ⟨allCarried_leaf (by decide) hevent, allCarried_cons.mpr ⟨?_, allCarried_cons.mpr ⟨?_, ?_⟩⟩⟩)
    · exact allCarried_nest (by decide)
        (allCarried_leaf (by decide) (kept_eventCode event.eventType).carried)
    · exact allCarried_nest (by decide)
        (allCarried_leaf (by decide) (kept_participationCode event.participation).carried)
    · exact allCarried_nest (by decide) (allCarried_leaf (by decide) hsecurity)
  · exact allCarried_nest (by decide) (allCarried_leaf (by decide) (htext _ (by decide)))
  · refine allCarried_nest (by decide) (allCarried_group (by decide) (allCarried_append.mpr
      ⟨allCarried_append.mpr ⟨?_, allCarried_dated (by decide) _⟩, allCarried_dated (by decide) _⟩))
    exact allCarried_nest (by decide)
      (allCarried_leaf (by decide) (kept_isoformat event.dates.announcementDate).carried)

/-- The dates of an event, as they are found. -/
theorem dates_read (huri : namespaceUri ≠ "") (dates : EventDates) :
    ∃ node, (datesElement dates).findPath "" ["DtDtls"] = some node ∧
      dateAt namespaceUri ["AnncmntDt", "Dt", "Dt"] (inNamespace namespaceUri node) =
        .ok (some dates.announcementDate) ∧
      dateAt namespaceUri ["RcrdDt", "Dt"] (inNamespace namespaceUri node) =
        .ok dates.recordDate ∧
      dateAt namespaceUri ["PmtDt", "Dt"] (inNamespace namespaceUri node) =
        .ok dates.payableDate := by
  refine ⟨.group "DtDtls" ([nest ["AnncmntDt", "Dt"] (.leaf "Dt" dates.announcementDate.isoformat)]
    ++ datedElements ["RcrdDt"] dates.recordDate ++ datedElements ["PmtDt"] dates.payableDate),
    rfl, ?_, ?_, ?_⟩
  · rw [dateAt_within huri]
    exact dateAt_of_isoformat rfl
  · rw [dateAt_within huri]
    rcases dates.recordDate with _ | record
    · rcases dates.payableDate with _ | payable <;> rfl
    · exact dateAt_of_isoformat rfl
  · rw [dateAt_within huri]
    rcases dates.payableDate with _ | payable
    · rcases dates.recordDate with _ | record <;> rfl
    · rcases dates.recordDate with _ | record
      · exact dateAt_of_isoformat rfl
      · exact dateAt_of_isoformat rfl

/-- The event that an encoded announcement is read as, its options and terms as they are read. -/
def readEventFields (event : CorporateActionEvent) (origin : AnnouncementOrigin)
    (dates : EventDates) (terms : EventTerms) (read : OptionsRead) :
    CorporateActionEventFields where
  eventId := stripped event.eventId
  securityId := event.securityId
  eventType := event.eventType
  participation := event.participation
  dates := dates
  terms := terms
  options := read.options
  defaultOptionId := read.defaultOptionId
  provenance := origin.provenance
  source := origin.source

/-- The dates that an encoded announcement is read with, its deadlines as they are read. -/
def readDatesFields (event : CorporateActionEvent) (read : OptionsRead) : EventDatesFields where
  announcementDate := event.dates.announcementDate
  recordDate := event.dates.recordDate
  electionDeadline := read.electionDeadlines.head?.join
  protectDeadline := read.protectDeadlines.head?.join
  payableDate := event.dates.payableDate

/-- What is read of an encoded announcement. -/
theorem readAnnouncement_encoded (library : AdapterLibrary) (origin : AnnouncementOrigin)
    (root : String) (huri : namespaceUri ≠ "")
    (hsecurity : isIsin event.securityId = true)
    (hoptions : ∀ e ∈ options, e.tag = "CorpActnOptnDtls") :
    readAnnouncement library namespaceUri origin (inNamespace namespaceUri (.group root
      (announcementElements event event.eventId event.securityId ++ options))) =
    (readOptions namespaceUri event.eventType event.participation
        (options.map (inNamespace namespaceUri)) >>= fun found =>
      library.orInvalid "the announcement is not a valid event: "
        (Outcome.refuseIf (stripped event.eventId = "")
            (refusal .malformed "CorpActnEvtId is required") >>= fun _ =>
          eventDates (readDatesFields event found.2) >>= fun dates =>
            corporateActionEvent (readEventFields event origin dates found.1 found.2))) := by
  obtain ⟨datesNode, hdates, hannounced, hrecord, hpayable⟩ := dates_read huri event.dates
  generalize ht : XmlElement.group root
    (announcementElements event event.eventId event.securityId ++ options) = t
  have hinfo : t.findPath "" ["CorpActnGnlInf"] =
      some (announcedElement event event.eventId event.securityId) := by
    rw [← ht]
    rfl
  have hdatesFound : t.findPath "" ["CorpActnDtls", "DtDtls"] = some datesNode := by
    rw [← ht, ← hdates]
    rfl
  have hfound : t.findall "" ["CorpActnOptnDtls"] = options := by
    have hkept : options.filter (fun child => child.tag = "CorpActnOptnDtls") = options :=
      List.filter_eq_self.mpr fun e he => decide_eq_true (hoptions e he)
    have hchildren : t.children =
        announcementElements event event.eventId event.securityId ++ options := by
      rw [← ht]
      rfl
    have hothers : (announcementElements event event.eventId event.securityId).filter
        (fun child => child.tag = "CorpActnOptnDtls") = [] := rfl
    have hname : named "" "CorpActnOptnDtls" = "CorpActnOptnDtls" := if_pos rfl
    rw [findall, hname, hchildren, List.filter_append, hothers, hkept, List.nil_append]
    exact List.flatMap_singleton' options
  let info := announcedElement event event.eventId event.securityId
  have hid : textAt "" ["CorpActnEvtId"] info = some (stripped event.eventId) := rfl
  have htype : textAt "" ["EvtTp", "Cd"] info = some (stripped (eventCode event.eventType)) := rfl
  have hpart : textAt "" ["MndtryVlntryEvtTp", "Cd"] info =
      some (stripped (participationCode event.participation)) := rfl
  have hisin : textAt "" ["UndrlygScty", "FinInstrmId", "ISIN"] info =
      some (stripped event.securityId) := rfl
  have hreadType : ofCode eventTypes (eventCode event.eventType) "event type" =
      .ok event.eventType := by
    rw [ofCode, lookup_eventTypes]
  have hreadPart : ofCode participations (participationCode event.participation) "participation" =
      .ok event.participation := by
    rw [ofCode, lookup_participations]
  have hidentifier : requiredAt "" ["CorpActnEvtId"] info =
      (Outcome.refuseIf (stripped event.eventId = "")
        (refusal .malformed "CorpActnEvtId is required") >>= fun _ =>
          .ok (stripped event.eventId)) := by
    rw [requiredAt, hid]
    rfl
  rw [readAnnouncement, findPath_inNamespace huri, hinfo, Option.map_some, orRefuse,
    Outcome.ok_bind, requiredAt_within huri, requiredAt_of_kept htype (kept_eventCode _),
    Outcome.ok_bind, hreadType, Outcome.ok_bind, requiredAt_within huri,
    requiredAt_of_kept hpart (kept_participationCode _), Outcome.ok_bind, hreadPart,
    Outcome.ok_bind, textAt_within huri, hisin, (kept_isin hsecurity).whole, orRefuse,
    Outcome.ok_bind, findPath_inNamespace huri, hdatesFound, Option.map_some]
  simp only [dateIn, hannounced, hrecord, hpayable, orRefuse, Outcome.ok_bind,
    requiredAt_within huri, findall_inNamespace huri, hfound]
  rw [hidentifier]
  simp only [bind_assoc, Outcome.ok_bind]
  rfl

/-- What was built of an encoded announcement states the event exactly where its identifier, its
options and its terms were read as they are. -/
theorem restatesEvent_iff {dates : EventDates} {terms : EventTerms} {found : OptionsRead}
    {read : CorporateActionEvent}
    (hdates : dates.toEventDatesFields = readDatesFields event found)
    (hread : read.toCorporateActionEventFields =
      readEventFields event origin dates terms found) :
    RestatesEvent event origin read ↔
      stripped event.eventId = event.eventId ∧ OptionsRestate event terms found := by
  have hterms : read.terms = terms := congrArg CorporateActionEventFields.terms hread
  constructor
  · rintro ⟨hfields, hsame⟩
    rw [hread] at hfields
    have hdatesSame : dates = event.dates := congrArg CorporateActionEventFields.dates hfields
    rw [hdatesSame] at hdates
    refine ⟨congrArg CorporateActionEventFields.eventId hfields, hterms ▸ hsame, ?_, ?_, ?_, ?_⟩
    · exact congrArg CorporateActionEventFields.options hfields
    · exact congrArg CorporateActionEventFields.defaultOptionId hfields
    · exact (congrArg EventDatesFields.electionDeadline hdates).symm
    · exact (congrArg EventDatesFields.protectDeadline hdates).symm
  · rintro ⟨hidentifier, hrestate⟩
    have hstated : event.dates.toEventDatesFields = readDatesFields event found := by
      rw [readDatesFields, hrestate.election, hrestate.protect]
    have hdatesSame : dates = event.dates :=
      Except.ok.inj ((eventDates_eq_ok.mpr hdates).symm.trans (eventDates_eq_ok.mpr hstated))
    refine ⟨?_, ?_⟩
    · rw [hread, readEventFields, hidentifier, hdatesSame, hrestate.options, hrestate.default]
    · rw [hterms]
      exact hrestate.terms

/-- An event can be built of what an encoded announcement says, where that restates the event. -/
theorem event_of_restate {terms : EventTerms} {found : OptionsRead}
    (hfact : origin.provenance.isFact = true) (hidentifier : stripped event.eventId = event.eventId)
    (h : OptionsRestate event terms found) :
    ∃ read, (eventDates (readDatesFields event found) >>= fun dates =>
        corporateActionEvent (readEventFields event origin dates terms found)) = .ok read ∧
      RestatesEvent event origin read := by
  have hdates : event.dates.toEventDatesFields = readDatesFields event found := by
    rw [readDatesFields, h.election, h.protect]
  have hfields : readEventFields event origin event.dates terms found =
      { event.toCorporateActionEventFields with
        terms := terms
        provenance := origin.provenance
        source := origin.source } := by
    rw [readEventFields, hidentifier, h.options, h.default]
  have hvalid := resourced_valid event terms hfact
  rw [← hfields] at hvalid
  refine ⟨⟨_, hvalid⟩, ?_, (restatesEvent_iff hdates rfl).mpr ⟨hidentifier, h⟩⟩
  rw [eventDates_eq_ok.mpr hdates, Outcome.ok_bind, corporateActionEvent_eq_ok]

variable {release : Release} {message : EncodedMessage}

/-- What an encoded announcement is made of. -/
theorem encodeAnnouncement_parts (h : encodeAnnouncement event release = .ok message) :
    ∃ options, CarriedText event.eventId ∧ isIsin event.securityId = true ∧
      optionElements event = .ok options ∧
      message = encoded ⟨release, .announcement⟩
        (announcementElements event event.eventId event.securityId ++ options) := by
  rw [encodeAnnouncement, Outcome.bind_eq_ok] at h
  obtain ⟨eventId, hevent, h⟩ := h
  rw [Outcome.bind_eq_ok] at h
  obtain ⟨security, hsecurity, h⟩ := h
  rw [Outcome.bind_eq_ok] at h
  obtain ⟨options, hoptions, h⟩ := h
  obtain ⟨rfl, hcarried⟩ := eventIdentifier_carried hevent
  obtain ⟨rfl, hisin⟩ := isinIdentifier_eq_ok.mp hsecurity
  exact ⟨options, hcarried, hisin, hoptions, (Except.ok.inj h).symm⟩

/-- An event that is announced is decoded, by its own release, as an event that states the same,
exactly where the announcement carries it: its identifier has no blank at its ends, no description
has one or holds a carriage return, and its terms are carried whole. It is refused by the other
release as the wrong version, and as the wrong message where a movement or an instruction is asked
for. -/
theorem announcement_round_trip (h : encodeAnnouncement event release = .ok message)
    (hreads : library.Reads message.xml) (origin : AnnouncementOrigin)
    (hfact : origin.provenance.isFact = true) :
    ((∃ read, decodeAnnouncement library message.xml release origin = .ok read ∧
        RestatesEvent event origin read) ↔ CarriedWhole event) ∧
    (∀ asked : Release, asked ≠ release →
      ∃ detail, decodeAnnouncement library message.xml asked origin =
        .error (refusal .wrongVersion detail)) ∧
    (∀ (asked : Release) (stage : MovementStage) (other : MovementOrigin),
      other.provenance.isFact = true →
        ∃ detail, decodeMovement library message.xml asked stage other =
          .error (refusal .wrongMessage detail)) ∧
    ∀ (asked : Release) (against : CorporateActionEvent) (envelope : InstructionEnvelope),
      envelope.provenance.isFact = true →
        ∃ detail, decodeInstruction library message.xml asked against envelope =
          .error (refusal .wrongMessage detail) := by
  obtain ⟨options, hevent, hisin, hoptions, rfl⟩ := encodeAnnouncement_parts h
  have huri : MessageProfile.namespaceUri ⟨release, .announcement⟩ ≠ "" :=
    (messageNamespace_carried (MessageProfile.messageId_carried ⟨release, .announcement⟩)).1
  have hreadAs : ReadAs ⟨release, .announcement⟩
      (announcementElements event event.eventId event.securityId ++ options)
      (announcementElements event event.eventId event.securityId ++ unixAll options) := by
    obtain ⟨hwritable, hcarried, -⟩ := options_written
      (MessageProfile.namespaceUri ⟨release, .announcement⟩) hisin hoptions
    have hhead := allCarried_announcement
      (MessageProfile.namespaceUri ⟨release, .announcement⟩) event hevent (kept_isin hisin).carried
    have hunix : unixAll (announcementElements event event.eventId event.securityId ++ options) =
        announcementElements event event.eventId event.securityId ++ unixAll options := by
      rw [unixAll_eq_map, List.map_append, ← unixAll_eq_map, ← unixAll_eq_map,
        unixAll_of_steady _ fun e he => (hhead e he).steady]
    rw [← hunix]
    refine readAs_unix (allWritable_append.mpr ⟨allWritable_of_carried hhead, hwritable⟩) ?_
    rw [hunix]
    exact allCarried_append.mpr ⟨hhead, hcarried⟩
  have hread := readAnnouncement_encoded library origin
    (MessageProfile.root ⟨release, .announcement⟩) huri hisin
    (options_written "" hisin hoptions).2.2
  have hsource : ¬ (!origin.provenance.isFact) = true := by
    rw [hfact]
    decide
  refine ⟨?_, ?_, ?_, ?_⟩
  · rw [decodeAnnouncement, sourceCheck, Outcome.refuseIf_bind hsource]
    dsimp only
    rw [openMessage_encoded hreads hreadAs, Outcome.ok_bind, hread]
    constructor
    · rintro ⟨read, hdecoded, hrestates⟩
      rw [Outcome.bind_eq_ok] at hdecoded
      obtain ⟨⟨terms, found⟩, hfound, hdecoded⟩ := hdecoded
      rw [orInvalid_eq_ok, Outcome.bind_eq_ok] at hdecoded
      obtain ⟨_, -, hdecoded⟩ := hdecoded
      rw [Outcome.bind_eq_ok] at hdecoded
      obtain ⟨dates, hdates, hbuilt⟩ := hdecoded
      obtain ⟨hidentifier, hrestate⟩ := (restatesEvent_iff (eventDates_eq_ok.mp hdates)
        (corporateActionEvent_eq_ok.mp hbuilt)).mp hrestates
      obtain ⟨hdescriptions, hterms⟩ :=
        (readOptions_iff huri hisin hoptions).mp ⟨terms, found, hfound, hrestate⟩
      exact ⟨hidentifier, hdescriptions, hterms⟩
    · rintro ⟨hidentifier, hdescriptions, hterms⟩
      obtain ⟨terms, found, hfound, hrestate⟩ :=
        (readOptions_iff huri hisin hoptions).mpr ⟨hdescriptions, hterms⟩
      obtain ⟨read, hbuilt, hrestates⟩ := event_of_restate hfact hidentifier hrestate
      have hnamed : ¬ stripped event.eventId = "" := by
        rw [hidentifier]
        exact hevent.1
      refine ⟨read, ?_, hrestates⟩
      rw [hfound, Outcome.ok_bind, orInvalid_eq_ok, Outcome.refuseIf_bind hnamed]
      exact hbuilt
  · intro asked hne
    have hprofile : (⟨asked, .announcement⟩ : MessageProfile) ≠ ⟨release, .announcement⟩ := by
      intro hsame
      exact hne (MessageProfile.mk.inj hsame).1
    obtain ⟨detail, hrefused⟩ := openMessage_other hprofile hreads hreadAs
    refine ⟨detail, ?_⟩
    rw [decodeAnnouncement, sourceCheck, Outcome.refuseIf_bind hsource]
    dsimp only
    rw [hrefused, Outcome.error_bind, if_pos rfl]
  · intro asked stage other hother
    have hfamily : stageFamily stage ≠ .announcement := by
      cases stage <;> decide
    have hprofile : (⟨asked, stageFamily stage⟩ : MessageProfile) ≠
        ⟨release, .announcement⟩ := by
      intro hsame
      exact hfamily (MessageProfile.mk.inj hsame).2
    have hasked : ¬ (!other.provenance.isFact) = true := by
      rw [hother]
      decide
    obtain ⟨detail, hrefused⟩ := openMessage_other hprofile hreads hreadAs
    refine ⟨detail, ?_⟩
    rw [decodeMovement, sourceCheck, Outcome.refuseIf_bind hasked]
    dsimp only
    rw [hrefused, Outcome.error_bind, if_neg hfamily]
  · intro asked against envelope henvelope
    have hfamily : MessageFamily.instruction ≠ .announcement := by decide
    have hprofile : (⟨asked, .instruction⟩ : MessageProfile) ≠ ⟨release, .announcement⟩ := by
      intro hsame
      exact hfamily (MessageProfile.mk.inj hsame).2
    have hasked : ¬ (!envelope.provenance.isFact) = true := by
      rw [henvelope]
      decide
    obtain ⟨detail, hrefused⟩ := openMessage_other hprofile hreads hreadAs
    refine ⟨detail, ?_⟩
    rw [decodeInstruction, sourceCheck, Outcome.refuseIf_bind hasked]
    dsimp only
    rw [hrefused, Outcome.error_bind, if_neg hfamily]

end

/-! ## A tender offer -/

/-- A tender offer that a holder may protect, and may leave alone. -/
def tenderOffered : CorporateActionEvent where
  eventId := "CA 75"
  securityId := "US0000000751"
  eventType := .tenderOffer
  participation := .voluntary
  dates :=
    { announcementDate := Date.of 2026 10 1
      electionDeadline := some (Date.of 2026 10 20)
      protectDeadline := some (Date.of 2026 10 22) }
  options :=
    [{ optionId := "075", description := "cash, at the price offered", optionType := some .cash },
     { optionId := "076", description := "no action", optionType := some .noac }]
  defaultOptionId := some "076"
  provenance := .factSynthetic
  source := { sourceId := "SYN-OFFEROR-75" }

/-- The agent that the announcement is received from. -/
def tenderAgent : AnnouncementOrigin where
  provenance := .factExternal
  source := { sourceId := "AGENT-75" }

theorem announcement_round_trip_tenderOffered :
    ∃ message, encodeAnnouncement tenderOffered .sr2026 = .ok message ∧
      (∃ read, decodeAnnouncement plainLibrary message.xml .sr2026 tenderAgent = .ok read ∧
        RestatesEvent tenderOffered tenderAgent read) ∧
      ∃ detail, decodeAnnouncement plainLibrary message.xml .sr2025 tenderAgent =
        .error (refusal .wrongVersion detail) := by
  have hencoded : (encodeAnnouncement tenderOffered .sr2026).toOption.isSome = true := by
    decide +kernel
  rcases h : encodeAnnouncement tenderOffered .sr2026 with error | message
  · rw [h] at hencoded
    cases hencoded
  · obtain ⟨hread, hrelease, -, -⟩ := announcement_round_trip h (plainLibrary_reads message.xml)
      tenderAgent rfl
    have hcarried : CarriedWhole tenderOffered :=
      ⟨by decide +kernel, by decide +kernel, carriesTerms_unstated .tenderOffer⟩
    exact ⟨message, rfl, hread.mpr hcarried, hrelease .sr2025 (by decide)⟩

end Iso20022

end CorporateActions

end Atreides
