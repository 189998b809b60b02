import Atreides.Messaging.ReadbackAccount

/-!
# The identifiers of a matched entry

A prepared instruction carries a message identifier and an end-to-end identifier, and a status is
recorded under the second alone. Where two instructions share it, the last one stands for both. Where
the report is about a message that was never prepared, nothing is compared with it.

## Main definitions

* `IdentifiersAgree` — what is matched is one instruction, and a disagreement is a break
* `IdentifiersSettled` — the condition on the report and on what was prepared

## Main results

* `identifiersAgree_iff` — exactly when the identifiers of what is matched agree
-/

namespace Atreides

/-- What is matched under an identifier is one prepared instruction, and where the report is about
another message than the one of that instruction, a break says so. -/
def IdentifiersAgree (report : StatusReport) (prepared : List CashLegInstruction)
    (found : ReadbackMatch) : Prop :=
  ∀ entry ∈ report.entries, ∀ e2e ∈ entry.endToEndId, (found.matched.get? e2e).isSome →
    ∃ instruction ∈ prepared, instruction.endToEndId = e2e ∧
      (∀ other ∈ prepared, other.endToEndId = e2e → other = instruction) ∧
      ∀ m ∈ report.originalMessageId, m ≠ instruction.messageId →
        ∃ item ∈ found.breaks, item.code = .identifierDisagreement ∧ item.endToEndId = some e2e

/-- Every identifier that addresses an instruction is that instruction's alone, and the report is
about a message that was prepared, if it is about one. -/
def IdentifiersSettled (report : StatusReport) (prepared : List CashLegInstruction) : Prop :=
  ∀ entry ∈ report.entries, ∀ e2e instruction, entry.endToEndId = some e2e →
    Addresses report prepared e2e instruction →
      (∀ other ∈ prepared, other.endToEndId = e2e → other = instruction) ∧
      ∀ m ∈ report.originalMessageId, ∃ other ∈ prepared, other.messageId = m

section LastWith

variable {α : Type} {key : α → String} {value : String} {items : List α} {item : α}

theorem mem_of_lastWith (h : lastWith key value items = some item) :
    item ∈ items ∧ key item = value := by
  have hmem := List.mem_of_getLast? h
  rw [List.mem_filter, decide_eq_true_eq] at hmem
  exact hmem

theorem lastWith_isSome (hitem : item ∈ items) (hkey : key item = value) :
    ∃ found, lastWith key value items = some found := by
  have hmem : item ∈ items.filter fun item => key item = value := by
    rw [List.mem_filter, decide_eq_true_eq]
    exact ⟨hitem, hkey⟩
  exact ⟨_, List.getLast?_eq_some_getLast (List.ne_nil_of_mem hmem)⟩

end LastWith

section Agreement

variable {report : StatusReport} {prepared : List CashLegInstruction} {entry : StatusEntry}
  {known : Option (Dict String SettlementStatus)} {found : ReadbackMatch} {e2e : String}
  {instruction : CashLegInstruction} {prior : Option SettlementStatus}

/-- Under an identifier that addresses an instruction no break says that identifiers disagree. -/
theorem no_disagreement (hfound : reconcile report prepared known = .ok found)
    (haddresses : Addresses report prepared e2e instruction) :
    ¬ ∃ item ∈ found.breaks, item.code = .identifierDisagreement ∧ item.endToEndId = some e2e := by
  rintro ⟨item, hitem, hcode, hid⟩
  rw [(reconcile_found hfound).2] at hitem
  obtain hitem | hitem := List.mem_append.mp hitem
  · obtain ⟨bad, -, rfl⟩ := List.mem_map.mp hitem
    cases hcode
  · obtain ⟨other, hother, hitem⟩ := List.mem_flatMap.mp hitem
    cases hresolve : resolve report prepared other with
    | error finding =>
      rw [breaksOf_of_error hresolve, List.mem_singleton] at hitem
      have hid' : other.endToEndId = some e2e :=
        (resolve_eq_error hresolve).1.symm.trans (hitem ▸ hid)
      rw [resolve_eq_ok_iff.mpr ⟨hid', haddresses⟩] at hresolve
      cases hresolve
    | ok resolved =>
      have hbreaks := breaksOf_of_ok (known.getD .empty) hresolve fun hbad =>
        reconcile_returns_iff.mp ⟨found, hfound⟩ ⟨other, hother, hbad⟩
      exact (finding_of_mem_entryBreaks hbreaks hitem).2 hcode

/-- What is matched under an identifier is what it addresses. -/
theorem matched_isSome_iff (hfound : reconcile report prepared known = .ok found)
    (hentry : entry ∈ report.entries) (hid : entry.endToEndId = some e2e) :
    (found.matched.get? e2e).isSome ↔ ∃ instruction, Addresses report prepared e2e instruction := by
  rw [(reconcile_found hfound).1]
  constructor
  · intro hsome
    obtain ⟨status, hstatus⟩ := Option.isSome_iff_exists.mp hsome
    obtain ⟨other, -, hpair⟩ := List.mem_filterMap.mp (Dict.mem_of_get?_ofPairs hstatus)
    rw [matchedPair] at hpair
    cases hresolve : resolve report prepared other with
    | error finding =>
      rw [hresolve] at hpair
      cases hpair
    | ok resolved =>
      rw [hresolve] at hpair
      cases hpair
      exact ⟨resolved.2, (resolve_eq_ok_iff.mp hresolve).2⟩
  · rintro ⟨instruction, haddresses⟩
    have hmem : entry ∈ report.entries.filter fun other => other.endToEndId = some e2e := by
      rw [List.mem_filter, decide_eq_true_eq]
      exact ⟨hentry, hid⟩
    rw [get?_matchedPairs haddresses, List.getLast?_eq_some_getLast (List.ne_nil_of_mem hmem)]
    rfl

/-- What is matched is one instruction, and its identifiers agree with the report or a break says
otherwise, exactly where every identifier that addresses an instruction is that instruction's alone
and the report's message is one that was prepared. -/
theorem identifiersAgree_iff (hfound : reconcile report prepared known = .ok found) :
    IdentifiersAgree report prepared found ↔ IdentifiersSettled report prepared := by
  constructor
  · intro hagree entry hentry e2e instruction hid haddresses
    obtain ⟨single, -, -, hsingle, hmessage⟩ := hagree entry hentry e2e hid
      ((matched_isSome_iff hfound hentry hid).mpr ⟨instruction, haddresses⟩)
    obtain ⟨hprepared, hid'⟩ := mem_of_lastWith haddresses.last
    obtain rfl := hsingle instruction hprepared hid'
    refine ⟨hsingle, fun m hm => ?_⟩
    by_contra hunknown
    refine no_disagreement hfound haddresses (hmessage m hm ?_)
    rintro rfl
    exact hunknown ⟨instruction, hprepared, rfl⟩
  · intro hsettled entry hentry e2e hid hmatched
    obtain ⟨instruction, haddresses⟩ := (matched_isSome_iff hfound hentry hid).mp hmatched
    obtain ⟨hsingle, hprepared⟩ := hsettled entry hentry e2e instruction hid haddresses
    obtain ⟨hmem, hid'⟩ := mem_of_lastWith haddresses.last
    refine ⟨instruction, hmem, hid', hsingle, fun m hm hne => ?_⟩
    -- the message was prepared, so the instruction addressed is the one of that message
    obtain ⟨other, hother, hmessage⟩ := hprepared m hm
    obtain ⟨last, hlast⟩ : ∃ last, lastWith (fun i => i.messageId) m prepared = some last :=
      lastWith_isSome hother hmessage
    obtain rfl := haddresses.message m hm last hlast
    exact absurd (mem_of_lastWith hlast).2.symm hne

end Agreement

/-! ### A message that was never prepared, and an identifier that two share -/

/-- A report that the instruction settled, about a message or about none. -/
def settledReport (message : Option String) : StatusReport where
  messageId := "RPT-46"
  createdAt := "2026-10-05T17:00:00Z"
  namespaceUri := "urn:iso:std:iso:20022:tech:xsd:pacs.002.001.14"
  originalMessageId := message
  originalMessageNameId := none
  groupStatusCode := none
  entries := [{ statusCode := "ACSC", status := .settled, endToEndId := some "E2E-1" }]

/-- Another hundred dollars under the same end-to-end identifier. -/
def sameEndToEnd : CashLegInstruction where
  messageId := "MSG-46"
  endToEndId := "E2E-1"
  createdAt := hundredDollars.createdAt
  amount := hundredDollars.amount
  currency := "USD"
  debtor := hundredDollars.debtor
  creditor := hundredDollars.creditor
  settlementMethod := .clearingSystem
  sender := hundredDollars.sender
  receiver := hundredDollars.receiver
  valid := by decide

theorem identifiersAgree_iff_settled : ∃ found,
    reconcile (settledReport (some "MSG-1")) [hundredDollars] none = .ok found ∧
      (IdentifiersAgree (settledReport (some "MSG-1")) [hundredDollars] found ↔
        IdentifiersSettled (settledReport (some "MSG-1")) [hundredDollars]) := by
  obtain ⟨found, h, -⟩ : ∃ found, reconcile (settledReport (some "MSG-1")) [hundredDollars] none =
      .ok found ∧ found.breaks = [] := Outcome.map_eq_ok.mp (by decide +kernel)
  exact ⟨found, h, identifiersAgree_iff h⟩

/-- A settlement is recorded for a message that was never prepared, and for two instructions that
share an identifier. -/
theorem identifiers_not_compared :
    (¬ ∀ (report : StatusReport) (prepared : List CashLegInstruction) (found : ReadbackMatch),
      reconcile report prepared none = .ok found → IdentifiersAgree report prepared found) ∧
    ∃ found, reconcile (settledReport none) [hundredDollars, sameEndToEnd] none = .ok found ∧
      found.matched.get? "E2E-1" = some .settled ∧ found.breaks = [] ∧
        ¬ IdentifiersAgree (settledReport none) [hundredDollars, sameEndToEnd] found := by
  constructor
  · intro hagree
    obtain ⟨found, h, heq⟩ : ∃ found, reconcile (settledReport (some "MSG-9")) [hundredDollars]
        none = .ok found ∧ (found.matched.get? "E2E-1", found.breaks) = (some .settled, []) :=
      Outcome.map_eq_ok.mp (by decide +kernel)
    have hmatched : found.matched.get? "E2E-1" = some .settled := congrArg Prod.fst heq
    have hnone : found.breaks = [] := congrArg Prod.snd heq
    obtain ⟨instruction, hprepared, -, -, hmessage⟩ := hagree _ _ found h _
      List.mem_cons_self "E2E-1" rfl (by rw [hmatched]; rfl)
    rw [List.mem_singleton.mp hprepared] at hmessage
    obtain ⟨item, hitem, -⟩ := hmessage "MSG-9" rfl (by decide)
    rw [hnone] at hitem
    exact absurd hitem List.not_mem_nil
  · obtain ⟨found, h, heq⟩ : ∃ found, reconcile (settledReport none) [hundredDollars, sameEndToEnd]
        none = .ok found ∧ (found.matched.get? "E2E-1", found.breaks) = (some .settled, []) :=
      Outcome.map_eq_ok.mp (by decide +kernel)
    have hmatched : found.matched.get? "E2E-1" = some .settled := congrArg Prod.fst heq
    refine ⟨found, h, hmatched, congrArg Prod.snd heq, fun hagree => ?_⟩
    obtain ⟨instruction, -, -, hsingle, -⟩ := hagree _ List.mem_cons_self "E2E-1" rfl
      (by rw [hmatched]; rfl)
    have hsame : hundredDollars = sameEndToEnd :=
      (hsingle hundredDollars List.mem_cons_self rfl).trans
        (hsingle sameEndToEnd (List.mem_cons_of_mem _ List.mem_cons_self) rfl).symm
    have hids := congrArg (fun i => i.messageId) hsame
    exact absurd hids (by decide)

end Atreides
