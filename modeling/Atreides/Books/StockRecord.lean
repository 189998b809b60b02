import Atreides.Books.Ledger

/-!
# The stock record over a history of postings and verifications

A history posts entries and verifies the stock record in any order. The record is right
after a verification when every issue whose location total differs from its ownership has
one open break with that difference, and no other issue has one. It stays right as long as
no verification meets a difference that changed or cleared since it was recorded, or a
quantity of an issue the books do not know.

## Main definitions

* `Operation`, `after`, `run` — histories
* `RecordsDifferences` — what the record should say right after a verification
* `Steady` — what a verification may meet
* `WellKept` — the invariant of the record

## Main results

* `run_wellKept` — over a steady history the record is well kept and only grows
* `stock_record_over_steady_history` — over a steady history it is right
-/

namespace Atreides

namespace EquitiesBooks

/-! ## Histories -/

/-- One call on the books. -/
inductive Operation
  | post (entry : JournalEntry)
  | verify (observed : Option (Dict String Decimal))

variable (canonicalBytesOf : JournalEntry → List UInt8)

/-- The books a call leaves behind, also when it raises. -/
def after (books : EquitiesBooks) : Operation → EquitiesBooks
  | .post entry =>
    match books.post canonicalBytesOf entry with
    | .ok (books', _) => books'
    | .error _ => books
  | .verify observed => (books.verifyStockRecord observed).1

/-- The books after a history of calls, from books with nothing posted. -/
def run (breakOwner : String) (history : List Operation) : EquitiesBooks :=
  history.foldl (after canonicalBytesOf) (new breakOwner)

theorem run_concat (breakOwner : String) (history : List Operation) (operation : Operation) :
    run canonicalBytesOf breakOwner (history ++ [operation]) =
      after canonicalBytesOf (run canonicalBytesOf breakOwner history) operation := by
  simp [run]

/-! ## What the record should say -/

/-- The issues the books have a line for. -/
def issues (books : EquitiesBooks) : List String :=
  (books.entries.flatMap JournalEntry.lines).filterMap LedgerLine.issue

/-- The issues of an observed mapping. -/
def observedIssues : Option (Dict String Decimal) → List String
  | none => []
  | some locations => locations.keys

/-- The open breaks on record for an issue. -/
def openBreaks (breaks : List StockRecordBreak) (issue : String) : List StockRecordBreak :=
  breaks.filter fun item => item.issue = issue && item.state = "OPEN"

/-- What the books own of an issue. -/
def ownershipOf (sides : Dict RecordSide FiniteDecimal) : ℚ := (sides.getD .ownership 0).value

/-- A difference has one open break that carries it; no difference has none. -/
def Reported (breaks : List StockRecordBreak) (issue : String) (difference : ℚ) : Prop :=
  if difference = 0 then openBreaks breaks issue = []
  else ∃ item, openBreaks breaks issue = [item] ∧ item.difference.value = difference

/-- The difference of every issue, in the books or observed, is on record. -/
def RecordsDifferences (books : EquitiesBooks) (observed : Option (Dict String Decimal)) : Prop :=
  ∃ quantities, books.quantities = .ok quantities ∧
    ∀ issue, issue ∈ books.issues ∨ issue ∈ observedIssues observed →
      ∃ location : FiniteDecimal,
        locationOf observed issue (quantities.getD issue .empty) = .ok (.finite location) ∧
          Reported books.breaks issue
            (ownershipOf (quantities.getD issue .empty) - location.value)

/-- An issue of the books was found in a finite quantity, its difference fits the working
precision, and a break that is open for it already carries that difference. -/
def SteadyIssue (observed : Option (Dict String Decimal)) (breaks : List StockRecordBreak)
    (issue : String) (sides : Dict RecordSide FiniteDecimal) : Prop :=
  ∃ location : FiniteDecimal, locationOf observed issue sides = .ok (.finite location) ∧
    DecimalContext.ambient.Represents (ownershipOf sides - location.value) ∧
      ∀ item, openBreak breaks issue = some item →
        item.difference.value = ownershipOf sides - location.value

/-- What a verification may meet: issues outside the books in no quantity, and issues of
the books whose difference is the one on record, if one is open. -/
structure Steady (books : EquitiesBooks) (observed : Option (Dict String Decimal)) : Prop where
  owner_named : books.breakOwner ≠ ""
  outside : ∀ issue ∉ books.issues, ∃ location : FiniteDecimal,
    locationOf observed issue .empty = .ok (.finite location) ∧ location.value = 0
  inside : ∃ quantities, books.quantities = .ok quantities ∧ ∀ issue ∈ books.issues,
    SteadyIssue observed books.breaks issue (quantities.getD issue .empty)

/-- Every verification of the history is a steady one. -/
def SteadyHistory (breakOwner : String) (history : List Operation) : Prop :=
  ∀ before observed rest, history = before ++ .verify observed :: rest →
    Steady (run canonicalBytesOf breakOwner before) observed

theorem SteadyHistory.append_left {canonicalBytesOf : JournalEntry → List UInt8}
    {breakOwner : String} {xs ys : List Operation}
    (h : SteadyHistory canonicalBytesOf breakOwner (xs ++ ys)) :
    SteadyHistory canonicalBytesOf breakOwner xs := by
  rintro before observed rest rfl
  exact h before observed (rest ++ ys) (by simp)

variable {canonicalBytesOf}

/-! ## The invariant of the record -/

/-- The record of a steady history: open breaks with nonzero differences, one for an issue,
numbered in the order they were recorded. -/
structure WellKept (breaks : List StockRecordBreak) : Prop where
  all_open : ∀ item ∈ breaks, item.state = "OPEN"
  nonzero : ∀ item ∈ breaks, item.difference.value ≠ 0
  one_per_issue : (breaks.map StockRecordBreak.issue).Nodup
  numbered : ∀ n (h : n < breaks.length),
    breaks[n].breakId = nextBreakId (breaks.take n) breaks[n].issue

theorem WellKept.nil : WellKept [] := ⟨by simp, by simp, by simp, by simp⟩

/-- Two breaks of a well kept record with one identifier are one break. -/
theorem WellKept.breakId_injective {breaks : List StockRecordBreak} (h : WellKept breaks)
    {a b : StockRecordBreak} (ha : a ∈ breaks) (hb : b ∈ breaks) (hid : a.breakId = b.breakId) :
    a = b := by
  obtain ⟨m, hm, rfl⟩ := List.getElem_of_mem ha
  obtain ⟨n, hn, rfl⟩ := List.getElem_of_mem hb
  rw [h.numbered m hm, h.numbered n hn] at hid
  have hnumber := number_eq_of_numbered hid
  rw [List.length_take_of_le hm.le, List.length_take_of_le hn.le] at hnumber
  have hmn : m = n := by omega
  subst hmn
  rfl

/-- Recording a difference of an issue with no break keeps the record well. -/
theorem WellKept.concat {breaks : List StockRecordBreak} (h : WellKept breaks)
    {item : StockRecordBreak} (hopen : item.state = "OPEN") (hne : item.difference.value ≠ 0)
    (hnew : ∀ other ∈ breaks, other.issue ≠ item.issue)
    (hid : item.breakId = nextBreakId breaks item.issue) : WellKept (breaks ++ [item]) := by
  refine ⟨?_, ?_, ?_, ?_⟩
  · intro other hother
    rcases List.mem_append.mp hother with hold | hlast
    · exact h.all_open other hold
    · rw [List.mem_singleton.mp hlast]
      exact hopen
  · intro other hother
    rcases List.mem_append.mp hother with hold | hlast
    · exact h.nonzero other hold
    · rw [List.mem_singleton.mp hlast]
      exact hne
  · rw [List.map_append, List.nodup_append]
    refine ⟨h.one_per_issue, by simp, ?_⟩
    rintro issue hissue other hother rfl
    obtain ⟨old, hold, rfl⟩ := List.mem_map.mp hissue
    simp only [List.map_cons, List.map_nil, List.mem_singleton] at hother
    exact hnew old hold hother
  · intro n hn
    rcases Nat.lt_or_ge n breaks.length with hlt | hge
    · rw [List.getElem_append_left hlt, h.numbered n hlt, List.take_append_of_le_length hlt.le]
    · have hlast : n = breaks.length := by
        simp only [List.length_append, List.length_singleton] at hn
        omega
      subst hlast
      simpa using hid

/-- In a well kept record the open break of an issue is its only one. -/
theorem WellKept.openBreaks_eq {breaks : List StockRecordBreak} (h : WellKept breaks)
    (issue : String) : openBreaks breaks issue = (openBreak breaks issue).toList := by
  obtain ⟨-, -, hnodup, -⟩ := h
  induction breaks with
  | nil => rfl
  | cons item rest ih =>
    rw [List.map_cons, List.nodup_cons] at hnodup
    specialize ih hnodup.2
    rw [openBreaks, openBreak, List.filter_cons, List.find?_cons]
    by_cases hitem : (item.issue = issue && item.state = "OPEN") = true
    · rw [hitem, if_pos rfl]
      have hissue : item.issue = issue := by
        simp only [Bool.and_eq_true, decide_eq_true_eq] at hitem
        exact hitem.1
      have hrest : openBreaks rest issue = [] := by
        rw [openBreaks, List.filter_eq_nil_iff]
        intro other hother hopen
        simp only [Bool.and_eq_true, decide_eq_true_eq] at hopen
        exact hnodup.1 (List.mem_map.mpr ⟨other, hother, hopen.1.trans hissue.symm⟩)
      rw [openBreaks] at hrest
      simp [hrest]
    · rw [Bool.not_eq_true] at hitem
      rw [hitem, if_neg (by simp)]
      exact ih

/-! ## One issue -/

theorem openBreaks_append (xs ys : List StockRecordBreak) (issue : String) :
    openBreaks (xs ++ ys) issue = openBreaks xs issue ++ openBreaks ys issue := by
  simp [openBreaks]

theorem openBreak_eq_head? (breaks : List StockRecordBreak) (issue : String) :
    openBreak breaks issue = (openBreaks breaks issue).head? := by
  rw [openBreak, openBreaks, List.head?_filter]

/-- What a check of one issue does to the record of a steady history. -/
structure Checked (issue : String) (difference : ℚ) (breaks breaks' : List StockRecordBreak) :
    Prop where
  wellKept : WellKept breaks'
  grows : breaks <+: breaks'
  reported : Reported breaks' issue difference
  frame : ∀ other, other ≠ issue → openBreaks breaks' other = openBreaks breaks other
  named : ∀ item ∈ breaks', item ∈ breaks ∨ item.issue = issue

/-- A steady issue is checked without an exception, and its difference is then on record. -/
theorem verifyIssue_of_steady {owner : String} (howner : owner ≠ "")
    {observed : Option (Dict String Decimal)} {issue : String}
    {sides : Dict RecordSide FiniteDecimal} {breaks : List StockRecordBreak}
    {location : FiniteDecimal} (hkept : WellKept breaks)
    (hlocation : locationOf observed issue sides = .ok (.finite location))
    (hfits : DecimalContext.ambient.Represents (ownershipOf sides - location.value))
    (hopen : ∀ item, openBreak breaks issue = some item →
      item.difference.value = ownershipOf sides - location.value) :
    ∃ breaks', verifyIssue owner observed issue sides breaks = (breaks', .ok ()) ∧
      Checked issue (ownershipOf sides - location.value) breaks breaks' := by
  obtain ⟨difference, hdifference, hvalue⟩ := FiniteDecimal.sub_exact_iff.mpr hfits
  have hsub : Decimal.sub .ambient (sides.getD .ownership 0) location =
      .ok (.finite difference) := by
    change Decimal.finite <$> FiniteDecimal.sub .ambient _ _ = _
    rw [hdifference]
    rfl
  have hvalue' : difference.value = ownershipOf sides - location.value := hvalue
  rw [← hvalue'] at hopen ⊢
  by_cases hzero : difference.value = 0
  · -- the totals agree, and the record has no break to say otherwise
    have hnone : openBreak breaks issue = none := by
      rcases hbreak : openBreak breaks issue with _ | item
      · rfl
      · have hmem := List.mem_of_find?_eq_some hbreak
        exact absurd ((hopen item hbreak).trans hzero) (hkept.nonzero item hmem)
    have hfalse : (Decimal.finite difference).truthy = false := by
      simpa [Decimal.truthy] using FiniteDecimal.isZero_iff.mpr hzero
    refine ⟨breaks, ?_, hkept, List.prefix_refl _, ?_, fun _ _ => rfl,
      fun item hitem => Or.inl hitem⟩
    · simp [verifyIssue, hlocation, hsub, hfalse]
    · rw [Reported, if_pos hzero, hkept.openBreaks_eq, hnone]
      rfl
  · have htrue : (Decimal.finite difference).truthy = true := by
      rw [Decimal.truthy, Bool.not_eq_true', ← Bool.not_eq_true, FiniteDecimal.isZero_iff]
      exact hzero
    rcases hbreak : openBreak breaks issue with _ | item
    · -- a difference that is not on record is appended to it
      let recorded : StockRecordBreak :=
        { breakId := nextBreakId breaks issue, issue, ownershipQuantity := sides.getD .ownership 0,
          locationQuantity := location, difference, owner, owner_nonempty := howner }
      have hnew : ∀ other ∈ breaks, other.issue ≠ issue := by
        intro other hother hissue
        have hfind := List.find?_eq_none.mp hbreak other hother
        simp [hissue, hkept.all_open other hother] at hfind
      refine ⟨breaks ++ [recorded], ?_, hkept.concat rfl hzero hnew rfl,
        List.prefix_append _ _, ?_, ?_, ?_⟩
      · simp [verifyIssue, hlocation, hsub, htrue, hbreak, buildBreak, howner, recorded]
      · rw [Reported, if_neg hzero, openBreaks_append, hkept.openBreaks_eq, hbreak]
        exact ⟨recorded, by simp [openBreaks, recorded], rfl⟩
      · intro other hother
        rw [openBreaks_append]
        simp [openBreaks, recorded, hother.symm]
      · intro other hother
        rcases List.mem_append.mp hother with hold | hlast
        · exact Or.inl hold
        · rw [List.mem_singleton.mp hlast]
          exact Or.inr rfl
    · -- the difference is on record already
      have hsame : Decimal.eq item.difference difference = .ok true := by
        change Except.ok (item.difference.eq difference) = _
        rw [FiniteDecimal.eq_iff.mpr (hopen item hbreak)]
      refine ⟨breaks, ?_, hkept, List.prefix_refl _, ?_, fun _ _ => rfl,
        fun item hitem => Or.inl hitem⟩
      · simp [verifyIssue, hlocation, hsub, htrue, hbreak, hsame]
      · rw [Reported, if_neg hzero, hkept.openBreaks_eq, hbreak]
        exact ⟨item, rfl, hopen item hbreak⟩

/-! ## All issues -/

theorem SteadyIssue.congr {observed : Option (Dict String Decimal)} {issue : String}
    {sides : Dict RecordSide FiniteDecimal} {breaks breaks' : List StockRecordBreak}
    (h : SteadyIssue observed breaks issue sides)
    (hframe : openBreaks breaks' issue = openBreaks breaks issue) :
    SteadyIssue observed breaks' issue sides := by
  obtain ⟨location, hlocation, hfits, hopen⟩ := h
  refine ⟨location, hlocation, hfits, fun item hitem => hopen item ?_⟩
  rw [openBreak_eq_head?] at hitem ⊢
  rwa [hframe] at hitem

/-- Steady issues are checked in turn without an exception, each leaving the others' breaks
as they are. -/
theorem verifyIssues_of_steady {owner : String} (howner : owner ≠ "")
    {observed : Option (Dict String Decimal)} :
    ∀ {items : List (String × Dict RecordSide FiniteDecimal)} {breaks : List StockRecordBreak},
      (items.map Prod.fst).Nodup → WellKept breaks →
        (∀ item ∈ items, SteadyIssue observed breaks item.1 item.2) →
          ∃ breaks', verifyIssues owner observed items breaks = (breaks', .ok ()) ∧
            WellKept breaks' ∧ breaks <+: breaks' ∧
              (∀ item ∈ items, ∃ location : FiniteDecimal,
                locationOf observed item.1 item.2 = .ok (.finite location) ∧
                  Reported breaks' item.1 (ownershipOf item.2 - location.value)) ∧
                (∀ other ∉ items.map Prod.fst,
                  openBreaks breaks' other = openBreaks breaks other) ∧
                  ∀ item ∈ breaks', item ∈ breaks ∨ item.issue ∈ items.map Prod.fst := by
  intro items
  induction items with
  | nil =>
    intro breaks _ hkept _
    exact ⟨breaks, rfl, hkept, List.prefix_refl _, by simp, fun _ _ => rfl,
      fun item hitem => Or.inl hitem⟩
  | cons head rest ih =>
    obtain ⟨issue, sides⟩ := head
    intro breaks hnodup hkept hsteady
    rw [List.map_cons, List.nodup_cons] at hnodup
    obtain ⟨hnotin, hrest⟩ := hnodup
    obtain ⟨location, hlocation, hfits, hopen⟩ := hsteady (issue, sides) (by simp)
    obtain ⟨middle, hcheck, hchecked⟩ :=
      verifyIssue_of_steady howner hkept hlocation hfits hopen
    have hsteady' : ∀ item ∈ rest, SteadyIssue observed middle item.1 item.2 := by
      intro item hitem
      refine (hsteady item (by simp [hitem])).congr (hchecked.frame item.1 ?_)
      rintro rfl
      exact hnotin (List.mem_map.mpr ⟨item, hitem, rfl⟩)
    obtain ⟨breaks', hloop, hkept', hgrows, hreported, hframe, hnamed⟩ :=
      ih hrest hchecked.wellKept hsteady'
    refine ⟨breaks', ?_, hkept', hchecked.grows.trans hgrows, ?_, ?_, ?_⟩
    · rw [verifyIssues, hcheck]
      exact hloop
    · intro item hitem
      rcases List.mem_cons.mp hitem with rfl | hitem
      · refine ⟨location, hlocation, ?_⟩
        have := hchecked.reported
        rw [Reported] at this ⊢
        rwa [hframe issue hnotin]
      · exact hreported item hitem
    · intro other hother
      rw [List.map_cons, List.mem_cons, not_or] at hother
      rw [hframe other hother.2, hchecked.frame other hother.1]
    · intro item hitem
      rw [List.map_cons, List.mem_cons]
      rcases hnamed item hitem with hmid | hin
      · rcases hchecked.named item hmid with hold | hissue
        · exact Or.inl hold
        · exact Or.inr (Or.inl hissue)
      · exact Or.inr (Or.inr hin)

/-! ## The books' own quantities -/

private theorem mem_keys_of_loop {lines : List LedgerLine} :
    ∀ {d d' : Dict String (Dict RecordSide FiniteDecimal)},
      Outcome.foldSteps (fun result line =>
        match line.issue with
        | some issue => result.addToInner .ambient issue line.recordSide line.quantity
        | none => .ok result) d lines = .ok d' →
          ∀ issue, issue ∈ d'.keys ↔ issue ∈ d.keys ∨
            issue ∈ lines.filterMap LedgerLine.issue := by
  induction lines with
  | nil =>
    intro d d' h issue
    cases h
    simp
  | cons line rest ih =>
    intro d d' h issue
    rw [Outcome.foldSteps_cons, Outcome.bind_eq_ok] at h
    obtain ⟨middle, hstep, hrest⟩ := h
    rw [ih hrest issue, List.filterMap_cons]
    rcases hissue : line.issue with _ | named
    · rw [hissue] at hstep
      cases hstep
      rfl
    · rw [hissue] at hstep
      rw [Dict.keys_addToInner hstep, Dict.mem_noteKey]
      simp only [List.mem_cons]
      tauto

/-- The books hold quantities of exactly the issues they have a line for. -/
theorem mem_keys_quantities {books : EquitiesBooks}
    {quantities : Dict String (Dict RecordSide FiniteDecimal)}
    (h : books.quantities = .ok quantities) {issue : String} :
    issue ∈ quantities.keys ↔ issue ∈ books.issues := by
  rw [mem_keys_of_loop h issue]
  simp [issues]

theorem getD_of_mem_items {κ α : Type} [DecidableEq κ] {d : Dict κ α} {k : κ} {v default : α}
    (h : (k, v) ∈ d.items) : d.getD k default = v := by
  rw [Dict.getD, Dict.get?_eq_some_iff.mpr h]
  rfl

/-! ## One verification -/

/-- A steady verification returns, records every difference and only adds to the record. -/
theorem verifyStockRecord_of_steady {books : EquitiesBooks}
    {observed : Option (Dict String Decimal)} (hkept : WellKept books.breaks)
    (hnamed : ∀ item ∈ books.breaks, item.issue ∈ books.issues) (h : Steady books observed) :
    ∃ breaks, books.verifyStockRecord observed = ({ books with breaks }, .ok breaks) ∧
      WellKept breaks ∧ books.breaks <+: breaks ∧ (∀ item ∈ breaks, item.issue ∈ books.issues) ∧
        RecordsDifferences { books with breaks } observed := by
  obtain ⟨howner, houtside, quantities, hquantities, hinside⟩ := h
  have hsteady : ∀ item ∈ quantities.items,
      SteadyIssue observed books.breaks item.1 item.2 := by
    intro item hitem
    have hkey : item.1 ∈ quantities.keys := List.mem_map_of_mem hitem
    have := hinside item.1 ((mem_keys_quantities hquantities).mp hkey)
    rwa [getD_of_mem_items hitem] at this
  obtain ⟨breaks, hloop, hkept', hgrows, hreported, hframe, hadded⟩ :=
    verifyIssues_of_steady howner quantities.keys_nodup hkept hsteady
  have hissues : ∀ item ∈ breaks, item.issue ∈ books.issues := by
    intro item hitem
    rcases hadded item hitem with hold | hkey
    · exact hnamed item hold
    · exact (mem_keys_quantities hquantities).mp hkey
  refine ⟨breaks, ?_, hkept', hgrows, hissues, quantities, hquantities, ?_⟩
  · rw [verifyStockRecord, hquantities]
    simp [hloop]
  intro issue _
  by_cases hbooks : issue ∈ books.issues
  · have hkey : issue ∈ quantities.keys := (mem_keys_quantities hquantities).mpr hbooks
    obtain ⟨⟨key, sides⟩, hitem, rfl⟩ := List.mem_map.mp hkey
    obtain ⟨location, hlocation, hrep⟩ := hreported _ hitem
    rw [getD_of_mem_items hitem]
    exact ⟨location, hlocation, hrep⟩
  · -- an issue outside the books is owned in no quantity and has no break
    have hkey : issue ∉ quantities.keys := fun hkey =>
      hbooks ((mem_keys_quantities hquantities).mp hkey)
    obtain ⟨location, hlocation, hzero⟩ := houtside issue hbooks
    have hempty : quantities.getD issue .empty = .empty := by
      rw [Dict.getD, Dict.get?_eq_none_iff.mpr hkey]
      rfl
    rw [hempty]
    refine ⟨location, hlocation, ?_⟩
    have hown : ownershipOf .empty = 0 := FiniteDecimal.value_zero
    rw [hown, hzero, sub_zero, Reported, if_pos rfl, openBreaks, List.filter_eq_nil_iff]
    intro item hitem hopen
    simp only [Bool.and_eq_true, decide_eq_true_eq] at hopen
    exact hbooks (hopen.1 ▸ hissues item hitem)

/-! ## Histories -/

/-- A posting leaves the breaks alone and takes no issue away. -/
theorem after_post {books : EquitiesBooks} (entry : JournalEntry) :
    (after canonicalBytesOf books (.post entry)).breaks = books.breaks ∧
      ∀ issue ∈ books.issues, issue ∈ (after canonicalBytesOf books (.post entry)).issues := by
  have hposted : after canonicalBytesOf books (.post entry) = books ∨
      after canonicalBytesOf books (.post entry) = { books with
        entries := books.entries ++ [entry]
        bySource := books.bySource.set entry.sourceEventId entry } := by
    rw [after, post]
    rcases books.bySource.get? entry.sourceEventId with _ | original
    · split_ifs
      · exact Or.inl rfl
      · exact Or.inr rfl
    · exact Or.inl rfl
  rcases hposted with hsame | hposted
  · rw [hsame]
    exact ⟨rfl, fun _ h => h⟩
  · rw [hposted]
    refine ⟨rfl, fun issue hissue => ?_⟩
    rw [issues, List.flatMap_append, List.filterMap_append, List.mem_append]
    exact Or.inl hissue

/-- Over a steady history the record is well kept, and no verification takes from it. -/
theorem run_wellKept {breakOwner : String} {history : List Operation}
    (h : SteadyHistory canonicalBytesOf breakOwner history) :
    WellKept (run canonicalBytesOf breakOwner history).breaks ∧
      ∀ item ∈ (run canonicalBytesOf breakOwner history).breaks,
        item.issue ∈ (run canonicalBytesOf breakOwner history).issues := by
  induction history using List.reverseRecOn with
  | nil => exact ⟨WellKept.nil, by simp [run, new]⟩
  | append_singleton history operation ih =>
    obtain ⟨hkept, hnamed⟩ := ih h.append_left
    rw [run_concat]
    rcases operation with entry | observed
    · obtain ⟨hbreaks, hissues⟩ := @after_post canonicalBytesOf
        (run canonicalBytesOf breakOwner history) entry
      rw [hbreaks]
      exact ⟨hkept, fun item hitem => hissues _ (hnamed item hitem)⟩
    · obtain ⟨breaks, hverify, hkept', -, hissues, -⟩ :=
        verifyStockRecord_of_steady hkept hnamed (h history observed [] rfl)
      rw [after, hverify]
      exact ⟨hkept', hissues⟩

/-- Over a steady history a break that was recorded stays on record. -/
theorem run_breaks_extend {breakOwner : String} {xs ys : List Operation}
    (h : SteadyHistory canonicalBytesOf breakOwner (xs ++ ys)) :
    (run canonicalBytesOf breakOwner xs).breaks <+:
      (run canonicalBytesOf breakOwner (xs ++ ys)).breaks := by
  induction ys using List.reverseRecOn with
  | nil => simp
  | append_singleton ys operation ih =>
    rw [← List.append_assoc] at h ⊢
    refine (ih h.append_left).trans ?_
    rw [run_concat]
    rcases operation with entry | observed
    · rw [(after_post entry).1]
    · obtain ⟨hkept, hnamed⟩ := run_wellKept h.append_left
      obtain ⟨breaks, hverify, -, hgrows, -, -⟩ :=
        verifyStockRecord_of_steady hkept hnamed (h (xs ++ ys) observed [] rfl)
      rw [after, hverify]
      exact hgrows

/-- What the stock record should keep to over a history: right after each verification
every difference has one open break and agreement none, an identifier stands for one break,
and no break leaves the record. -/
structure KeepsStockRecord (canonicalBytesOf : JournalEntry → List UInt8) (breakOwner : String)
    (history : List Operation) : Prop where
  records : ∀ before observed rest, history = before ++ .verify observed :: rest →
    RecordsDifferences (run canonicalBytesOf breakOwner (before ++ [.verify observed])) observed
  identified : ∀ xs ys zs ws, history = xs ++ ys → history = zs ++ ws →
    ∀ a ∈ (run canonicalBytesOf breakOwner xs).breaks,
      ∀ b ∈ (run canonicalBytesOf breakOwner zs).breaks, a.breakId = b.breakId → a = b
  never_removed : ∀ xs ys, history = xs ++ ys →
    (run canonicalBytesOf breakOwner xs).breaks ⊆ (run canonicalBytesOf breakOwner history).breaks

/-- Over a history whose verifications are steady the stock record is kept. -/
theorem stock_record_over_steady_history (canonicalBytesOf : JournalEntry → List UInt8)
    (breakOwner : String) (history : List Operation)
    (h : SteadyHistory canonicalBytesOf breakOwner history) :
    KeepsStockRecord canonicalBytesOf breakOwner history := by
  have hnever : ∀ xs ys, history = xs ++ ys → (run canonicalBytesOf breakOwner xs).breaks ⊆
      (run canonicalBytesOf breakOwner history).breaks := by
    rintro xs ys rfl
    exact (run_breaks_extend h).subset
  refine ⟨?_, ?_, hnever⟩
  · rintro before observed rest rfl
    obtain ⟨hkept, hnamed⟩ := run_wellKept h.append_left
    obtain ⟨breaks, hverify, -, -, -, hrecords⟩ :=
      verifyStockRecord_of_steady hkept hnamed (h before observed rest rfl)
    rw [run_concat, after, hverify]
    exact hrecords
  · intro xs ys zs ws hxs hzs a ha b hb hid
    exact (run_wellKept h).1.breakId_injective (hnever xs ys hxs ha) (hnever zs ws hzs hb) hid

/-! ### A history of one position -/

/-- Ten shares of one issue bought by a customer and held at the depository. -/
def tenShares : JournalEntry where
  entryId := "ENTRY-1"
  sourceEventId := "EVENT-1"
  source := .tradeCapture
  effectiveDate := .of 2026 10 2
  effectiveDateBasis := .tradeDate
  authority := "OPS"
  lines :=
    [{ accountId := "ACCOUNT-1", accountType := .customerCash, recordSide := .ownership,
       issue := some "ISSUE-1", quantity := 10 },
     { accountId := "DEPOSITORY", accountType := .dtc, recordSide := .location,
       issue := some "ISSUE-1", quantity := ⟨true, 10, 0⟩ }]
  posting := ⟨"RECORD-1", ⟨"ACTOR-1", .human, "ops", [], true⟩, .midnight (.of 2026 10 2),
    "EVENT-1", .factSynthetic⟩
  entryId_nonempty := by decide
  sourceEventId_nonempty := by decide
  authority_nonempty := by decide
  two_lines := by decide
  balanced_and_attributable := by decide

/-- The issue was found in the given quantity. -/
def found (quantity : FiniteDecimal) : Option (Dict String Decimal) :=
  some (.ofPairs [("ISSUE-1", .finite quantity)])

/-- What the books then hold of it. -/
def tenSharesQuantities : Dict String (Dict RecordSide FiniteDecimal) :=
  .ofPairs [("ISSUE-1", .ofPairs [(.ownership, 10), (.location, ⟨true, 10, 0⟩)])]

theorem stock_record_over_steady_history_ten_shares :
    KeepsStockRecord (fun _ => []) "OPS" [.post tenShares, .verify none] := by
  refine stock_record_over_steady_history _ _ _ ?_
  intro before observed rest hsplit
  have hbefore : before = [.post tenShares] ∧ observed = none := by
    rcases before with _ | ⟨first, _ | ⟨second, more⟩⟩
    · simp at hsplit
    · simp at hsplit
      exact ⟨by simp [hsplit.1], hsplit.2.1.symm⟩
    · simp at hsplit
  obtain ⟨rfl, rfl⟩ := hbefore
  refine ⟨by decide, fun issue _ => ⟨0, rfl, FiniteDecimal.value_zero⟩,
    tenSharesQuantities, by decide, ?_⟩
  intro issue hissue
  have hname : issue = "ISSUE-1" := by
    revert hissue
    simp [run, after, post, new, issues, tenShares]
  subst hname
  refine ⟨10, by decide, ?_, ?_⟩
  · have hown : ownershipOf (tenSharesQuantities.getD "ISSUE-1" .empty) =
        (10 : FiniteDecimal).value := rfl
    rw [hown, sub_self]
    exact DecimalContext.represents_zero _
  · intro item hitem
    have hnone : openBreak (run (fun _ => []) "OPS" [.post tenShares]).breaks "ISSUE-1" =
        none := by decide
    rw [hnone] at hitem
    cases hitem

/-- A break that cleared stays open: seven shares are found, then all ten. -/
theorem stock_record_not_kept :
    ¬ ∀ canonicalBytesOf breakOwner history,
      KeepsStockRecord canonicalBytesOf breakOwner history := by
  intro h
  have hkeeps := h (fun _ => []) "OPS" [.post tenShares, .verify (found 7), .verify (found 10)]
  obtain ⟨quantities, hquantities, hrecords⟩ :=
    hkeeps.records [.post tenShares, .verify (found 7)] (found 10) [] rfl
  have hbooks : (run (fun _ => []) "OPS" ([.post tenShares, .verify (found 7)] ++
      [.verify (found 10)])).quantities = .ok tenSharesQuantities := by decide
  rw [hbooks] at hquantities
  cases hquantities
  obtain ⟨location, hlocation, hreported⟩ := hrecords "ISSUE-1" (Or.inr (by decide))
  have hten : location = 10 := by
    have hfound : locationOf (found 10) "ISSUE-1" (tenSharesQuantities.getD "ISSUE-1" .empty) =
        .ok (.finite 10) := rfl
    rw [hfound] at hlocation
    cases hlocation
    rfl
  subst hten
  have hzero : ownershipOf (tenSharesQuantities.getD "ISSUE-1" .empty) -
      (10 : FiniteDecimal).value = 0 := sub_self _
  rw [Reported, if_pos hzero] at hreported
  exact absurd hreported (by decide)

end EquitiesBooks

end Atreides
