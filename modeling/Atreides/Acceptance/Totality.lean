import Atreides.Acceptance.Service

/-!
# An answer to every obligation

The evaluation of an obligation reads untrusted bytes, a decision of the cash gate and the
results of other domains. Whatever is missing or malformed in them is to be answered with a
record that is no pass and says why. Everything is, but for the amounts of the cash gate's
decision: a net obligation that spells no number raises, and so does a comparison with a
number that cannot be compared.

## Main definitions

* `Carries` — a record carries the most severe of a list of answers, and their reasons
* `SoundDecision` — a decision of the cash gate is sound evidence for an obligation
* `Answers` — the evaluation answers with a record that is true to the predicates
* `Comparable` — the amounts of a decision can be compared, where they are

## Main results

* `answers_iff` — the evaluation answers exactly where the amounts can be compared
* `not_answers_ten` — it raises on a net obligation that is spelled in letters
-/

namespace Atreides

namespace Acceptance

/-! ## What an answer is -/

/-- The place of a disposition: the greater, the more severe. -/
def rank : Disposition → ℕ
  | .pass => 0
  | .hold => 1
  | .indeterminate => 2
  | .block => 3

/-- A record carries the most severe of the answers and, where it is no pass, every reason
that any of them gives. -/
structure Carries (record : FrozenAcceptanceRecord) (results : List PredicateResult) : Prop where
  given : ∃ r ∈ results, r.disposition = record.disposition
  severest : ∀ r ∈ results, rank r.disposition ≤ rank record.disposition
  reasoned : record.disposition ≠ .pass → ∃ r ∈ results, (∃ code ∈ r.reasonCodes, code ≠ "") ∧
    record.dsorRecord =
      .nothingRecorded (String.intercalate ";" (results.flatMap PredicateResult.reasonCodes))

/-- The net obligation of a funding state spells a number that covers an amount. -/
def CoversTotal (snapshot : List (String × String)) (total : Decimal) : Prop :=
  ∃ text net, (Dict.ofPairs snapshot).get? "net_obligation" = some text ∧
    Decimal.ofText text = .ok net ∧ Decimal.lt net total = .ok false

/-- A decision proceeds for this very envelope, on the terms of its cash leg, from a funding
state that covers them. -/
structure SoundDecision (library : Library) (envelope : SettlementObligationEnvelope)
    (c : ObligationCandidate) (decision : CatoCashDecision library.kernel) : Prop where
  proceeds : decision.decision = .proceed
  governs : decision.obligationId = some envelope.obligationId
  current : decision.obligationDigest = some (envelope.digest library.kernel)
  terms : ∃ total currency notional, cashTerms c = some (total, currency) ∧
    decision.evaluatedNotional = some notional ∧ Decimal.eq notional total = .ok true ∧
    decision.evaluatedCurrency = some currency ∧
    CoversTotal decision.fundingStateSnapshot total

/-- The evidence of the cash gate suffices: there is no cash to settle, or a sound decision. -/
def SoundFunding (library : Library) (envelope : SettlementObligationEnvelope)
    (c : ObligationCandidate) (evidence : Evidence library) : Prop :=
  c.deliveryPattern = some library.fop ∨
    ∃ decision, evidence.gateDecision = some decision ∧ SoundDecision library envelope c decision

variable (library : Library) (envelope : SettlementObligationEnvelope) (payload : Bytes)
  (evidence : Evidence library)

/-- A record answers an obligation: bytes that are not the attested ones, and bytes that parse
to nothing, are blocked for that reason; all else carries the answers of the predicates, and
passes only on evidence that is complete and sound. -/
structure AnsweredBy (record : FrozenAcceptanceRecord) : Prop where
  unattested : library.kernel.digestBytes payload ≠ envelope.payloadDigest →
    record.disposition = .block ∧ record.dsorRecord = .nothingRecorded "PAYLOAD_DIGEST_MISMATCH"
  unparsed : library.kernel.digestBytes payload = envelope.payloadDigest →
    library.modelValidateJson payload = none →
    record.disposition = .block ∧ record.dsorRecord = .nothingRecorded "PAYLOAD_INVALID"
  carried : library.kernel.digestBytes payload = envelope.payloadDigest →
    ∀ c, library.modelValidateJson payload = some c →
      ∃ results, predicateResults library envelope c evidence = .ok results ∧
        Carries record results
  sound : record.disposition = .pass → ∃ c, Acceptable library envelope payload evidence c ∧
    SoundFunding library envelope c evidence

/-- The evaluation returns a record that answers the obligation. -/
def Answers (acceptanceId : Uuid) (evaluatedAt : Timestamp) (decidedBy : ActorRef) : Prop :=
  ∃ record, evaluateCandidate library envelope payload acceptanceId evaluatedAt decidedBy
    evidence = .ok record ∧ AnsweredBy library envelope payload evidence record

/-! ## When it is -/

/-- The amounts of a decision can be compared with a total, as far as they are: the notional
does not signal, and where notional and currency agree, a net obligation that is stated spells
a number. -/
structure Comparable (decision : CatoCashDecision library.kernel) (total : Decimal)
    (currency : String) : Prop where
  notional : ∀ notional, decision.evaluatedNotional = some notional →
    notional.isSignaling = false ∧ total.isSignaling = false
  netObligation : ∀ notional, decision.evaluatedNotional = some notional →
    Decimal.eq notional total = .ok true → decision.evaluatedCurrency = some currency →
      ∀ text, (Dict.ofPairs decision.fundingStateSnapshot).get? "net_obligation" = some text →
        ∃ net, Decimal.ofText text = .ok net ∧ net.isNaN = false

/-- A decision that proceeds for an envelope is one whose amounts are compared. -/
structure Compared (c : ObligationCandidate) (decision : CatoCashDecision library.kernel)
    (total : Decimal) (currency : String) : Prop where
  attested : library.kernel.digestBytes payload = envelope.payloadDigest
  parsed : library.modelValidateJson payload = some c
  cash : c.deliveryPattern ≠ some library.fop
  supplied : evidence.gateDecision = some decision
  governs : decision.obligationId = some envelope.obligationId
  current : decision.obligationDigest = some (envelope.digest library.kernel)
  proceeds : decision.decision = .proceed
  terms : cashTerms c = some (total, currency)

/-- The amounts that are compared can be. -/
def Readable : Prop :=
  ∀ c decision total currency,
    Compared library envelope payload evidence c decision total currency →
      Comparable library decision total currency

/-! ## Answers with reasons -/

variable {library} {envelope} {payload} {evidence}
variable {c : ObligationCandidate} {decision : CatoCashDecision library.kernel} {total : Decimal}
  {currency : String} {acceptanceId : Uuid} {evaluatedAt : Timestamp} {decidedBy : ActorRef}
  {results : List PredicateResult} {funded : PredicateResult} {record : FrozenAcceptanceRecord}

/-- Every reason that an answer gives is spelled out. -/
def Spelled (r : PredicateResult) : Prop := ∀ code ∈ r.reasonCodes, code ≠ ""

theorem spelled_passed {name detail : String} : Spelled (passed name detail) :=
  fun _ h => nomatch h

theorem spelled_result {name detail code : String} {disposition : Disposition}
    {codes : List String} (hcode : code ≠ "") (hcodes : ∀ other ∈ codes, other ≠ "") :
    Spelled (result name disposition detail code codes) := by
  intro other hother
  obtain rfl | hmem := List.mem_cons.mp hother
  · exact hcode
  · exact hcodes other hmem

theorem spelled_one {name detail code : String} {disposition : Disposition} (hcode : code ≠ "") :
    Spelled (result name disposition detail code) :=
  spelled_result hcode fun _ h => nomatch h

/-- A text that begins with a stated one is not empty. -/
theorem append_ne_empty {start : String} (h : start ≠ "") (rest : String) : start ++ rest ≠ "" := by
  intro hempty
  apply h
  rw [← String.toList_inj] at hempty ⊢
  rw [String.toList_append] at hempty
  exact (List.append_eq_nil_iff.mp hempty).1

theorem spelled_requiredFields : Spelled (requiredFields library c) := by
  rw [requiredFields]
  cases missingFields library c with
  | nil => exact spelled_passed
  | cons item rest =>
    apply spelled_result (append_ne_empty (by decide) item)
    intro other hother
    obtain ⟨item', -, rfl⟩ := List.mem_map.mp hother
    exact append_ne_empty (by decide) item'

theorem spelled_unknownEnums : Spelled (unknownEnums library c) := by
  rw [unknownEnums]
  cases unknownFields library c with
  | nil => exact spelled_passed
  | cons item rest =>
    apply spelled_result (append_ne_empty (by decide) item)
    intro other hother
    obtain ⟨item', -, rfl⟩ := List.mem_map.mp hother
    exact append_ne_empty (by decide) item'

theorem spelled_legLinkage : Spelled (legLinkage c) := by
  have hunlinked : ∀ code ∈ unlinked c, code ≠ "" := by
    intro code hcode
    simp only [unlinked, List.mem_append, List.mem_ite_nil_left, List.mem_ite_nil_right,
      List.mem_singleton] at hcode
    obtain (⟨-, rfl⟩ | ⟨-, rfl⟩) | ⟨-, rfl⟩ := hcode <;> decide
  rw [legLinkage]
  cases hcodes : unlinked c with
  | nil => exact spelled_passed
  | cons code codes =>
    rw [hcodes] at hunlinked
    exact spelled_result (hunlinked code List.mem_cons_self) fun other hother =>
      hunlinked other (List.mem_cons_of_mem code hother)

theorem spelled_haltPredicate {halt : Option HaltContext} :
    Spelled (haltPredicate library halt) := by
  cases halt with
  | none => exact spelled_passed
  | some halt =>
    rw [haltPredicate]
    split_ifs with hblock
    · exact spelled_one (by decide)
    · exact spelled_passed

theorem spelled_controlOfDelivery {leg : SecuritiesLeg} {delivered : FiniteDecimal}
    {capacity : String} {control : CustomerProtection.ControlResult} :
    Spelled (controlOfDelivery envelope c leg delivered capacity control) := by
  unfold controlOfDelivery
  dsimp only
  split
  · exact spelled_one (by decide)
  · split
    · exact spelled_one (by decide)
    · split_ifs
      · exact spelled_one (by decide)
      · exact spelled_one (by decide)
      · exact spelled_one (by decide)
      · exact spelled_passed

theorem spelled_customerSellControl {control : Option CustomerProtection.ControlResult} :
    Spelled (customerSellControl envelope c control) := by
  unfold customerSellControl
  split
  · exact spelled_passed
  · split
    · exact spelled_passed
    · split
      · split
        · exact spelled_one (by decide)
        · split
          · exact spelled_one (by decide)
          · split
            · exact spelled_one (by decide)
            · split
              · exact spelled_one (by decide)
              · split
                · exact spelled_passed
                · split
                  · exact spelled_one (by decide)
                  · exact spelled_controlOfDelivery
      · exact spelled_one (by decide)

/-! ## The cash gate -/

/-- An answer that a check stands before passes only where the check does not stop it. -/
theorem of_ite_ok_pass {p : Prop} [Decidable p] {name detail code : String}
    {disposition : Disposition} {next : Outcome PredicateResult}
    (h : (if p then .ok (result name disposition detail code) else next) = .ok funded)
    (hpass : funded.disposition = .pass) (hstop : disposition ≠ .pass := by decide) :
    ¬ p ∧ next = .ok funded := by
  by_cases hp : p
  · rw [if_pos hp] at h
    cases h
    exact absurd hpass hstop
  · rw [if_neg hp] at h
    exact ⟨hp, h⟩

/-- A net obligation that covers an amount is stated and is no less. -/
theorem netObligationCovers_pass {snapshot : List (String × String)}
    (h : netObligationCovers snapshot total = .ok funded)
    (hpass : funded.disposition = .pass) :
    CoversTotal snapshot total := by
  rw [netObligationCovers.eq_def] at h
  cases htext : (Dict.ofPairs snapshot).get? "net_obligation" with
  | none =>
    rw [htext] at h
    cases h
    cases hpass
  | some text =>
    rw [htext] at h
    obtain ⟨net, hnet, h⟩ := Outcome.bind_eq_ok.mp h
    obtain ⟨short, hshort, h⟩ := Outcome.bind_eq_ok.mp h
    obtain ⟨hcovered, -⟩ := of_ite_ok_pass h hpass
    exact ⟨text, net, htext, hnet, by rw [hshort, Bool.eq_false_iff.mpr hcovered]⟩

/-- A stated amount that does not differ from a number equals it. -/
theorem eq_of_differs {stated : Option Decimal} (h : differs stated total = .ok false) :
    ∃ notional, stated = some notional ∧ Decimal.eq notional total = .ok true := by
  cases stated with
  | none => cases h
  | some notional =>
    obtain ⟨equal, hequal, hnot⟩ := Outcome.map_eq_ok.mp h
    cases equal with
    | false => cases hnot
    | true => exact ⟨notional, rfl, hequal⟩

/-- A cash gate that passes on a payload with cash rests on a sound decision. -/
theorem soundDecision_of_funded (hcash : c.deliveryPattern ≠ some library.fop)
    (hfunded : Funded library envelope evidence c) :
    ∃ decision, evidence.gateDecision = some decision ∧
      SoundDecision library envelope c decision := by
  obtain ⟨funded, hfunding, hpass⟩ := hfunded
  rw [funding.eq_def, if_neg hcash] at hfunding
  cases hdecision : evidence.gateDecision with
  | none =>
    rw [hdecision] at hfunding
    cases hfunding
    cases hpass
  | some decision =>
    rw [hdecision] at hfunding
    obtain ⟨-, hfunding⟩ := of_ite_ok_pass hfunding hpass
    obtain ⟨hobligation, hfunding⟩ := of_ite_ok_pass hfunding hpass
    obtain ⟨hdigest, hfunding⟩ := of_ite_ok_pass hfunding hpass
    obtain ⟨hproceeds, hfunding⟩ := of_ite_ok_pass hfunding hpass
    cases hterms : cashTerms c with
    | none =>
      rw [hterms] at hfunding
      cases hfunding
      cases hpass
    | some terms =>
      obtain ⟨total, currency⟩ := terms
      rw [hterms] at hfunding
      obtain ⟨different, hdifferent, hfunding⟩ := Outcome.bind_eq_ok.mp hfunding
      obtain ⟨hsame, hfunding⟩ := of_ite_ok_pass hfunding hpass
      obtain ⟨hcurrency, hfunding⟩ := of_ite_ok_pass hfunding hpass
      rw [Bool.not_eq_true] at hsame
      obtain ⟨notional, hnotional, hequal⟩ := eq_of_differs (hsame ▸ hdifferent)
      exact ⟨decision, rfl, not_not.mp hproceeds, not_not.mp hobligation, not_not.mp hdigest,
        total, currency, notional, hterms, hnotional, hequal, not_not.mp hcurrency,
        netObligationCovers_pass hfunding hpass⟩

/-- An answer that a check stands before is given where the check stops it, or where the next
one is. -/
theorem ite_ok_returns_iff {p : Prop} [Decidable p] {r : PredicateResult}
    {next : Outcome PredicateResult} :
    (if p then .ok r else next).Returns ↔ (¬ p → next.Returns) := by
  split_ifs with hp <;> simp [hp]

/-- A net obligation is compared with a number where it is not stated, or spells a number. -/
theorem netObligationCovers_returns_iff {snapshot : List (String × String)}
    (htotal : total.isNaN = false) :
    (netObligationCovers snapshot total).Returns ↔
      ∀ text, (Dict.ofPairs snapshot).get? "net_obligation" = some text →
        ∃ net, Decimal.ofText text = .ok net ∧ net.isNaN = false := by
  rw [netObligationCovers.eq_def]
  cases (Dict.ofPairs snapshot).get? "net_obligation" with
  | none => simp
  | some text =>
    constructor
    · rintro ⟨answer, h⟩ text' ⟨⟩
      obtain ⟨net, hnet, h⟩ := Outcome.bind_eq_ok.mp h
      obtain ⟨short, hshort, -⟩ := Outcome.bind_eq_ok.mp h
      exact ⟨net, hnet, (Decimal.lt_returns_iff.mp ⟨short, hshort⟩).1⟩
    · intro h
      obtain ⟨net, hnet, hnumber⟩ := h text rfl
      obtain ⟨short, hshort⟩ := Decimal.lt_returns_iff.mpr ⟨hnumber, htotal⟩
      simp only [hnet, hshort, Outcome.ok_bind]
      exact ite_ok_returns_iff.mpr fun _ => Outcome.returns_ok _

theorem fundingOfLeg_returns_iff :
    (fundingOfLeg library decision total currency).Returns ↔
      Comparable library decision total currency := by
  rw [fundingOfLeg]
  cases hnotional : decision.evaluatedNotional with
  | none =>
    have hcomparable : Comparable library decision total currency :=
      ⟨by simp [hnotional], by simp [hnotional]⟩
    simp [differs, hcomparable]
  | some notional =>
    cases hequal : Decimal.eq notional total with
    | error e =>
      -- the comparison raises, because one of the two signals
      have hraises : ¬ (Decimal.eq notional total).Returns := by simp [hequal]
      rw [Decimal.eq_returns_iff] at hraises
      constructor
      · rintro ⟨answer, h⟩
        rw [differs, hequal] at h
        cases h
      · intro h
        exact absurd (h.notional notional hnotional) hraises
    | ok equal =>
      have hsignals := Decimal.eq_returns_iff.mp ⟨equal, hequal⟩
      rw [differs, hequal]
      cases equal with
      | false =>
        constructor
        · intro _
          constructor
          · intro notional' hnotional'
            cases hnotional.symm.trans hnotional'
            exact hsignals
          · intro notional' hnotional' hequal'
            cases hnotional.symm.trans hnotional'
            cases hequal.symm.trans hequal'
        · intro _
          exact Outcome.returns_ok _
      | true =>
        have hnumber := Decimal.not_isNaN_of_eq hequal
        change (if decision.evaluatedCurrency ≠ some currency then _ else
          netObligationCovers decision.fundingStateSnapshot total).Returns ↔ _
        rw [ite_ok_returns_iff, not_not, netObligationCovers_returns_iff hnumber]
        constructor
        · intro h
          constructor
          · intro notional' hnotional'
            cases hnotional.symm.trans hnotional'
            exact hsignals
          · intro _ _ _
            exact h
        · intro h
          exact h.netObligation notional hnotional hequal

/-- The predicate on the cash gate answers where the amounts can be compared. -/
theorem funding_returns_iff (hattested : library.kernel.digestBytes payload =
      envelope.payloadDigest) (hparsed : library.modelValidateJson payload = some c) :
    (funding library envelope c (envelope.digest library.kernel) evidence.gateDecision).Returns ↔
      ∀ decision total currency,
        Compared library envelope payload evidence c decision total currency →
          Comparable library decision total currency := by
  constructor
  · intro h decision total currency hcompared
    have hbound : (!decision.bound) ≠ true := by
      simp [CatoCashDecision.bound, hcompared.governs]
    rw [funding.eq_def, if_neg hcompared.cash, hcompared.supplied] at h
    simp only [hcompared.terms, ite_ok_returns_iff] at h
    exact fundingOfLeg_returns_iff.mp (h hbound (not_not.mpr hcompared.governs)
      (not_not.mpr hcompared.current) (not_not.mpr hcompared.proceeds))
  · intro h
    rw [funding.eq_def, ite_ok_returns_iff]
    intro hcash
    cases hdecision : evidence.gateDecision with
    | none => exact Outcome.returns_ok _
    | some decision =>
      simp only [ite_ok_returns_iff]
      intro _ hgoverns hcurrent hproceeds
      cases hterms : cashTerms c with
      | none => exact Outcome.returns_ok _
      | some terms =>
        obtain ⟨total, currency⟩ := terms
        exact fundingOfLeg_returns_iff.mpr (h decision total currency
          ⟨hattested, hparsed, hcash, hdecision, not_not.mp hgoverns, not_not.mp hcurrent,
            not_not.mp hproceeds, hterms⟩)

/-- An answer that a check stands before is spelled out where both are. -/
theorem spelled_of_ite {p : Prop} [Decidable p] {name detail code : String}
    {disposition : Disposition} {next : Outcome PredicateResult} (hcode : code ≠ "")
    (hnext : next = .ok funded → Spelled funded)
    (h : (if p then .ok (result name disposition detail code) else next) = .ok funded) :
    Spelled funded := by
  split_ifs at h
  · cases h
    exact spelled_one hcode
  · exact hnext h

theorem spelled_netObligationCovers {snapshot : List (String × String)}
    (h : netObligationCovers snapshot total = .ok funded) : Spelled funded := by
  rw [netObligationCovers.eq_def] at h
  split at h
  · cases h
    exact spelled_one (by decide)
  · obtain ⟨net, -, h⟩ := Outcome.bind_eq_ok.mp h
    obtain ⟨short, -, h⟩ := Outcome.bind_eq_ok.mp h
    refine spelled_of_ite (by decide) (fun hnext => ?_) h
    cases hnext
    exact spelled_passed

theorem spelled_fundingOfLeg (h : fundingOfLeg library decision total currency = .ok funded) :
    Spelled funded := by
  rw [fundingOfLeg] at h
  obtain ⟨different, -, h⟩ := Outcome.bind_eq_ok.mp h
  refine spelled_of_ite (by decide) (fun h => ?_) h
  exact spelled_of_ite (by decide) spelled_netObligationCovers h

theorem spelled_funding {given : Option (CatoCashDecision library.kernel)} {digest : String}
    (h : funding library envelope c digest given = .ok funded) : Spelled funded := by
  rw [funding.eq_def] at h
  split_ifs at h
  · cases h
    exact spelled_passed
  · cases given with
    | none =>
      cases h
      exact spelled_one (by decide)
    | some decision =>
      refine spelled_of_ite (by decide) (fun h => ?_) h
      refine spelled_of_ite (by decide) (fun h => ?_) h
      refine spelled_of_ite (by decide) (fun h => ?_) h
      refine spelled_of_ite (append_ne_empty (append_ne_empty
        (append_ne_empty (by decide) _) _) _) (fun h => ?_) h
      split at h
      · cases h
        exact spelled_one (by decide)
      · exact spelled_fundingOfLeg h

/-! ## The record of the answers -/

/-- Every answer of the predicates is spelled out, and there are some. -/
theorem spelled_predicateResults
    (h : predicateResults library envelope c evidence = .ok results) :
    results ≠ [] ∧ ∀ r ∈ results, Spelled r := by
  obtain ⟨funded, hfunded, hlist⟩ := Outcome.bind_eq_ok.mp h
  cases hlist
  refine ⟨List.cons_ne_nil _ _, ?_⟩
  simp only [List.forall_mem_cons]
  exact ⟨spelled_requiredFields, spelled_unknownEnums, spelled_legLinkage, spelled_haltPredicate,
    spelled_funding hfunded, spelled_customerSellControl, fun _ h => nomatch h⟩

/-- No answer is more severe than the most severe one. -/
theorem rank_le_mostSevere {r : PredicateResult} (hr : r ∈ results) :
    rank r.disposition ≤ rank (mostSevere results) := by
  have hany : (results.any (·.disposition = r.disposition)) = true :=
    List.any_eq_true.mpr ⟨r, hr, by simp⟩
  rw [mostSevere, severity]
  cases hdisposition : r.disposition with
  | pass => exact Nat.zero_le _
  | block =>
    rw [hdisposition] at hany
    simp [hany]
  | indeterminate =>
    rw [hdisposition] at hany
    by_cases hb : results.any (·.disposition = .block) <;> simp [hany, hb, rank]
  | hold =>
    rw [hdisposition] at hany
    by_cases hb : results.any (·.disposition = .block) <;>
      by_cases hi : results.any (·.disposition = .indeterminate) <;> simp [hany, hb, hi, rank]

/-- The most severe answer is one of the answers. -/
theorem exists_mostSevere (hne : results ≠ []) :
    ∃ r ∈ results, r.disposition = mostSevere results := by
  cases hfound : severity.find? fun level => results.any (·.disposition = level) with
  | some level =>
    have hany := List.find?_some hfound
    obtain ⟨r, hr, hlevel⟩ := List.any_eq_true.mp hany
    refine ⟨r, hr, ?_⟩
    rw [mostSevere, hfound]
    simpa using hlevel
  | none =>
    -- every disposition is among those the search goes through
    obtain ⟨r, hr⟩ := List.exists_mem_of_ne_nil results hne
    have hlisted : r.disposition ∈ severity := by cases r.disposition <;> decide
    have hnone := List.find?_eq_none.mp hfound r.disposition hlisted
    exact absurd (List.any_eq_true.mpr ⟨r, hr, by simp⟩) hnone

/-- Texts of which one is not empty do not join to the empty text. -/
theorem intercalate_ne_empty {codes : List String} (h : ∃ code ∈ codes, code ≠ "") :
    String.intercalate ";" codes ≠ "" := by
  match codes with
  | [] =>
    obtain ⟨code, hcode, -⟩ := h
    cases hcode
  | [only] =>
    obtain ⟨code, hcode, hne⟩ := h
    rw [String.intercalate_singleton]
    rwa [List.mem_singleton.mp hcode] at hne
  | first :: second :: rest =>
    rw [String.intercalate_cons_cons]
    intro hempty
    have hlist := congrArg String.toList hempty
    simp at hlist

/-- The record of the most severe answer carries the answers. -/
theorem carries_frozenRecord (hne : results ≠ []) (hspelled : ∀ r ∈ results, Spelled r) :
    Carries (frozenRecord library envelope (mostSevere results) acceptanceId decidedBy
      (results.flatMap PredicateResult.reasonCodes)) results where
  given := exists_mostSevere hne
  severest r hr := rank_le_mostSevere hr
  reasoned := by
    intro hstopped
    change mostSevere results ≠ .pass at hstopped
    obtain ⟨r, hr, hdisposition⟩ := exists_mostSevere hne
    have hcodes : r.reasonCodes ≠ [] := r.named (hdisposition ▸ hstopped)
    obtain ⟨code, hcode⟩ := List.exists_mem_of_ne_nil _ hcodes
    have hspelt := hspelled r hr code hcode
    refine ⟨r, hr, ⟨code, hcode, hspelt⟩, ?_⟩
    have hjoined := intercalate_ne_empty
      ⟨code, List.mem_flatMap.mpr ⟨r, hr, hcode⟩, hspelt⟩
    simp only [frozenRecord, if_neg hstopped, if_neg hjoined]

/-- A record that is returned answers the obligation. -/
theorem answeredBy_of_ok
    (h : evaluateCandidate library envelope payload acceptanceId evaluatedAt decidedBy evidence =
      .ok record) : AnsweredBy library envelope payload evidence record where
  unattested hdigest := by
    rw [evaluateCandidate.eq_def] at h
    dsimp only at h
    split_ifs at h
    cases h
    exact ⟨rfl, rfl⟩
  unparsed hdigest hparsed := by
    rw [evaluateCandidate.eq_def, hparsed] at h
    dsimp only at h
    rw [if_neg (not_not.mpr hdigest)] at h
    split_ifs at h
    cases h
    exact ⟨rfl, rfl⟩
  carried hdigest c hparsed := by
    rw [evaluateCandidate.eq_def, hparsed] at h
    dsimp only at h
    rw [if_neg (not_not.mpr hdigest)] at h
    split_ifs at h
    obtain ⟨results, hresults, hrecord⟩ := Outcome.bind_eq_ok.mp h
    cases hrecord
    obtain ⟨hne, hspelled⟩ := spelled_predicateResults hresults
    exact ⟨results, hresults, carries_frozenRecord hne hspelled⟩
  sound hpass := by
    obtain ⟨-, c, hacceptable, hfunded⟩ := evaluateCandidate_passes_iff.mp ⟨record, h, hpass⟩
    refine ⟨c, hacceptable, ?_⟩
    by_cases hcash : c.deliveryPattern = some library.fop
    · exact Or.inl hcash
    · exact Or.inr (soundDecision_of_funded hcash hfunded)

/-- The evaluation answers an obligation exactly where the amounts that it compares can be
compared. -/
theorem answers_iff (haware : evaluatedAt.utcOffset ≠ none) :
    Answers library envelope payload evidence acceptanceId evaluatedAt decidedBy ↔
      Readable library envelope payload evidence := by
  constructor
  · rintro ⟨record, hrecord, -⟩ c decision total currency hcompared
    rw [evaluateCandidate.eq_def, hcompared.parsed] at hrecord
    dsimp only at hrecord
    rw [if_neg haware, if_neg (not_not.mpr hcompared.attested)] at hrecord
    obtain ⟨results, hresults, -⟩ := Outcome.bind_eq_ok.mp hrecord
    obtain ⟨funded, hfunded, -⟩ := Outcome.bind_eq_ok.mp hresults
    exact (funding_returns_iff hcompared.attested hcompared.parsed).mp ⟨funded, hfunded⟩
      decision total currency hcompared
  · intro hreadable
    have hreturns : (evaluateCandidate library envelope payload acceptanceId evaluatedAt
        decidedBy evidence).Returns := by
      rw [evaluateCandidate.eq_def]
      dsimp only
      rw [if_neg haware]
      split_ifs with hdigest
      · exact Outcome.returns_ok _
      · cases hparsed : library.modelValidateJson payload with
        | none => exact Outcome.returns_ok _
        | some c =>
          obtain ⟨funded, hfunded⟩ := (funding_returns_iff (not_not.mp hdigest) hparsed).mpr
            (hreadable c)
          have hresults : (predicateResults library envelope c evidence).Returns :=
            ⟨_, Outcome.bind_eq_ok.mpr ⟨funded, hfunded, rfl⟩⟩
          obtain ⟨results, hresults⟩ := hresults
          exact ⟨_, Outcome.bind_eq_ok.mpr ⟨results, hresults, rfl⟩⟩
    obtain ⟨record, hrecord⟩ := hreturns
    exact ⟨record, hrecord, answeredBy_of_ok hrecord⟩

/-! ### A net obligation in letters -/

/-- A payment of ten without securities. -/
def payment : ObligationCandidate where
  sourceManifest := some ⟨[⟨"INVOICE", "inv-3",
    "sha256:" ++ String.ofList (List.replicate 64 '3'), by decide, by decide, by decide⟩]⟩
  cashLeg := some ⟨some 10, some 0, some 10, some "USD", some "2026-10-15", some "CASH-4",
    some "CASH-3", by decide⟩
  participants := [⟨"P-4", "CASH-4", "PAYER", by decide, by decide, by decide⟩,
    ⟨"P-3", "CASH-3", "PAYEE", by decide, by decide, by decide⟩]
  deliveryPattern := some "PAYMENT_ONLY"
  candidatePaths := [⟨"wire-3", "FEDWIRE_FUNDS", "no-securities", "wire", some "PAYMENT_ONLY",
    by decide, by decide, by decide, by decide⟩]
  expectedFinality := [⟨"CASH", "CASH_FINAL", "cash/3", by decide⟩]
  accountCapacityDigest_wellFormed := no_digest
  participantRegistryDigest_wellFormed := no_digest

def paymentDay : Date := .of 2026 10 15

def paymentEnvelope : SettlementObligationEnvelope where
  obligationId := "obl_01M2P20SY00000000000000003"
  payloadDigest := letterDigest [80, 65, 89]
  firmSecuritiesDirection := .receive
  businessDate := paymentDay
  canonicalBytes := List.replicate 64 53

/-- A decision to proceed with the payment, from a funding state that spells its net obligation
as a text. -/
def paymentDecision (netObligation : String) : CatoCashDecision (plainLibrary payment).kernel where
  decision := .proceed
  reasonCode := .cleared
  recommendedRail := some .fedwire
  finalityClass := some .grossFinal
  rationale := "All checks passed."
  checksEvaluated := [("funded", "passed")]
  fundingStateSnapshot := [("net_obligation", netObligation)]
  evaluatedNotional := some 10
  evaluatedCurrency := some "USD"
  obligationId := some "obl_01M2P20SY00000000000000003"
  obligationDigest := some (letterDigest (List.replicate 64 53))
  admitted := rfl

/-- What is supplied with the payment. -/
def paymentEvidence (netObligation : String) : Evidence (plainLibrary payment) :=
  ⟨some (paymentDecision netObligation), none, none⟩

def paymentAcceptanceId : Uuid := ⟨"00000000-0000-4000-8000-0000000000d3", by decide⟩

def paymentDecider : ActorRef := ⟨"act_3", .deterministicService, "acceptance", [], true⟩

theorem answers_iff_payment :
    Answers (plainLibrary payment) paymentEnvelope [80, 65, 89] (paymentEvidence "10.00")
        paymentAcceptanceId (.midnight paymentDay) paymentDecider ↔
      Readable (plainLibrary payment) paymentEnvelope [80, 65, 89] (paymentEvidence "10.00") :=
  answers_iff (by decide)

example : FrozenAcceptanceRecord.disposition <$> evaluateCandidate (plainLibrary payment)
    paymentEnvelope [80, 65, 89] paymentAcceptanceId (.midnight paymentDay) paymentDecider
    (paymentEvidence "10.00") = .ok .pass := rfl

/-- A net obligation that is spelled in letters raises. -/
theorem not_answers_ten :
    (Timestamp.midnight paymentDay).utcOffset ≠ none ∧
      ¬ Answers (plainLibrary payment) paymentEnvelope [80, 65, 89] (paymentEvidence "ten")
        paymentAcceptanceId (.midnight paymentDay) paymentDecider := by
  have hraises : evaluateCandidate (plainLibrary payment) paymentEnvelope [80, 65, 89]
      paymentAcceptanceId (.midnight paymentDay) paymentDecider (paymentEvidence "ten") =
        .error .invalidOperation := rfl
  refine ⟨by decide, ?_⟩
  rintro ⟨record, hrecord, -⟩
  cases hraises.symm.trans hrecord

end Acceptance

end Atreides
