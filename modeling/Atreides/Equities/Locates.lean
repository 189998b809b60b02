import Atreides.Foundation.Decimal.Values
import Atreides.Foundation.Dict
import Atreides.Foundation.Replay
import Atreides.Foundation.Timestamp

/-!
# Locates

A locate lends a quantity of one issue for a window of time. The inventory hands it out call by
call, and remembers what each locate has given.

## Main definitions

* `LocateRecord`, `LocateDocument` — the locates of a day
* `LocateInventory.consume` — one call
* `Sound` — a call that takes nothing back, comes in time and is counted exactly
* `Conserved` — what a locate lends stays within it

## Main results

* `locate_conserved` — every run of sound calls is conserved
-/

namespace Atreides

inductive LocateSource
  | syntheticEasyToBorrow
  | syntheticLender
  deriving DecidableEq, Repr

structure LocateRecord where
  locateId : String
  source : LocateSource
  locatedAt : Timestamp
  expiresAt : Timestamp
  issue : String
  quantity : FiniteDecimal
  deriving DecidableEq

/-- The locate is named, lends something, and is open for a while. -/
def LocateRecord.check (record : LocateRecord) : Outcome Unit := do
  Outcome.refuseIf (record.locateId = "") (.valueError "string_too_short")
  Outcome.refuseIf (record.issue = "") (.valueError "string_too_short")
  Outcome.refuseIf (record.quantity.le 0) (.valueError "greater_than")
  Outcome.refuseIf (record.locatedAt.utcOffset = none ∨ record.expiresAt.utcOffset = none)
    (.valueError "locate timestamps must be timezone-aware")
  Outcome.refuseIf (record.expiresAt.instant ≤ record.locatedAt.instant)
    (.valueError "locate expiry must follow its timestamp")

structure LocateDocument where
  asOf : Timestamp
  locates : List LocateRecord
  deriving DecidableEq

namespace LocateDocument

def check (document : LocateDocument) : Outcome Unit :=
  Outcome.foldSteps (fun _ record => record.check) () document.locates

/-- The locate of an id: the first one, should the document give the id twice. -/
def record? (document : LocateDocument) (locateId : String) : Option LocateRecord :=
  document.locates.find? fun item => item.locateId = locateId

end LocateDocument

/-- Why a locate was not consumed. -/
inductive LocateRefusal
  | missing
  | issueMismatch
  | expired
  | insufficient
  deriving DecidableEq, Repr

def LocateRefusal.code : LocateRefusal → String
  | .missing => "LOCATE_MISSING"
  | .issueMismatch => "LOCATE_ISSUE_MISMATCH"
  | .expired => "LOCATE_EXPIRED"
  | .insufficient => "LOCATE_INSUFFICIENT"

/-- The arguments of a call. -/
structure Consumption where
  locateId : String
  issue : String
  quantity : Decimal
  time : Timestamp
  deriving DecidableEq

/-- The locates, and what each has given so far. -/
structure LocateInventory where
  document : LocateDocument
  used : Dict String Decimal

namespace LocateInventory

def of (document : LocateDocument) : LocateInventory := ⟨document, .empty⟩

/-- What a locate has given. -/
def usedOf (inventory : LocateInventory) (locateId : String) : Decimal :=
  inventory.used.getD locateId 0

/-- Quantity-limited consumption of a locate. -/
def consume (inventory : LocateInventory) (call : Consumption) :
    Outcome (LocateInventory × Option LocateRefusal) :=
  match inventory.document.record? call.locateId with
  | none => .ok (inventory, some .missing)
  | some record => do
    if record.issue ≠ call.issue then .ok (inventory, some .issueMismatch)
    else if ← record.expiresAt.isBefore call.time then .ok (inventory, some .expired)
    else
      let remaining ← Decimal.sub .ambient record.quantity (inventory.usedOf call.locateId)
      if ← Decimal.lt remaining call.quantity then .ok (inventory, some .insufficient)
      else
        let total ← Decimal.add .ambient (inventory.usedOf call.locateId) call.quantity
        .ok ({ inventory with used := inventory.used.set call.locateId total }, none)

/-- The call was answered without a refusal. -/
def accepts (inventory : LocateInventory) (call : Consumption) : Bool :=
  match inventory.consume call with
  | .ok (_, none) => true
  | _ => false

/-- The calls of a run that were accepted. -/
def accepted : LocateInventory → List Consumption → List Consumption
  | _, [] => []
  | inventory, call :: rest =>
    (if inventory.accepts call then [call] else []) ++ accepted (after consume inventory call) rest

end LocateInventory

/-- What the calls draw from a locate, added up exactly. -/
def drawn (locateId : String) (calls : List Consumption) : ℚ :=
  ((calls.filter fun call => call.locateId = locateId).map fun call => call.quantity.exact).sum

/-! ## One call -/

namespace LocateInventory

variable {inventory next : LocateInventory} {call : Consumption}
  {answer : Option LocateRefusal}

/-- An accepted call draws on the record of its locate. -/
structure Draws (inventory : LocateInventory) (call : Consumption) (record : LocateRecord)
    (remaining total : Decimal) : Prop where
  found : inventory.document.record? call.locateId = some record
  issue : record.issue = call.issue
  current : record.expiresAt.isBefore call.time = .ok false
  left : Decimal.sub .ambient record.quantity (inventory.usedOf call.locateId) = .ok remaining
  enough : Decimal.lt remaining call.quantity = .ok false
  counted : Decimal.add .ambient (inventory.usedOf call.locateId) call.quantity = .ok total

/-- What an answered call can do: it is refused and nothing changes, or it draws. -/
theorem consume_cases (h : inventory.consume call = .ok (next, answer)) :
    (∃ refusal, answer = some refusal ∧ next = inventory) ∨
      (answer = none ∧ ∃ record remaining total, Draws inventory call record remaining total ∧
        next = { inventory with used := inventory.used.set call.locateId total }) := by
  rw [consume] at h
  split at h
  next =>
    cases h
    exact .inl ⟨_, rfl, rfl⟩
  next record hfound =>
    by_cases hissue : record.issue = call.issue
    · rw [if_neg (not_not_intro hissue)] at h
      obtain ⟨expired, hexpired, h⟩ := Outcome.bind_eq_ok.mp h
      cases expired with
      | true =>
        cases h
        exact .inl ⟨_, rfl, rfl⟩
      | false =>
        obtain ⟨remaining, hremaining, h⟩ := Outcome.bind_eq_ok.mp h
        obtain ⟨short, hshort, h⟩ := Outcome.bind_eq_ok.mp h
        cases short with
        | true =>
          cases h
          exact .inl ⟨_, rfl, rfl⟩
        | false =>
          obtain ⟨total, htotal, h⟩ := Outcome.bind_eq_ok.mp h
          cases h
          exact .inr ⟨rfl, record, remaining, total,
            ⟨hfound, hissue, hexpired, hremaining, hshort, htotal⟩, rfl⟩
    · rw [if_pos hissue] at h
      cases h
      exact .inl ⟨_, rfl, rfl⟩

/-- What a call does, answered or not: nothing, or it is accepted and draws. -/
theorem after_consume (inventory : LocateInventory) (call : Consumption) :
    (inventory.accepts call = false ∧ after consume inventory call = inventory) ∨
      (inventory.accepts call = true ∧ ∃ record remaining total,
        Draws inventory call record remaining total ∧
          after consume inventory call =
            { inventory with used := inventory.used.set call.locateId total }) := by
  rw [accepts]
  cases h : inventory.consume call with
  | error e => exact .inl ⟨rfl, by rw [after, h]⟩
  | ok result =>
    obtain ⟨next, answer⟩ := result
    rw [after_of_ok h]
    rcases consume_cases h with ⟨refusal, rfl, hnext⟩ | ⟨rfl, hdraws⟩
    · exact .inl ⟨rfl, hnext⟩
    · exact .inr ⟨rfl, hdraws⟩

theorem document_after (inventory : LocateInventory) (call : Consumption) :
    (after consume inventory call).document = inventory.document := by
  obtain ⟨-, h⟩ | ⟨-, record, remaining, total, -, h⟩ := after_consume inventory call
  · rw [h]
  · rw [h]

/-! ## Sound calls -/

/-- The call takes nothing back, comes in time, and is counted exactly: what is left of the
locate and what it will have given are numbers of the context. -/
structure Counts (inventory : LocateInventory) (call : Consumption) (record : LocateRecord) :
    Prop where
  inTime : record.locatedAt.instant ≤ call.time.instant
  forward : Decimal.lt call.quantity 0 ≠ .ok true
  left : DecimalContext.ambient.Represents
    (record.quantity.value - (inventory.usedOf call.locateId).exact)
  total : ∀ d : FiniteDecimal, call.quantity = .finite d →
    d.value ≤ record.quantity.value - (inventory.usedOf call.locateId).exact →
      DecimalContext.ambient.Represents ((inventory.usedOf call.locateId).exact + d.value)

/-- A call that reaches the count of its locate counts. -/
def Sound (inventory : LocateInventory) (call : Consumption) : Prop :=
  ∀ record, inventory.document.record? call.locateId = some record → record.issue = call.issue →
    record.expiresAt.isBefore call.time = .ok false → Counts inventory call record

/-- Every call of a run is sound where it is made. -/
def SoundRun : LocateInventory → List Consumption → Prop
  | _, [] => True
  | inventory, call :: rest =>
    Sound inventory call ∧ SoundRun (after consume inventory call) rest

/-- The call names the locate's issue, in the window of the locate. -/
structure Entitled (record : LocateRecord) (call : Consumption) : Prop where
  issue : record.issue = call.issue
  aware : call.time.utcOffset.isSome = true
  notBefore : record.locatedAt.instant ≤ call.time.instant
  notAfter : call.time.instant ≤ record.expiresAt.instant

/-- What was drawn of each locate is counted, in quantities that are no less than zero, and stays
within the locate. -/
structure Holds (document : LocateDocument) (inventory : LocateInventory)
    (past : List Consumption) : Prop where
  same : inventory.document = document
  used : ∀ locateId, (inventory.usedOf locateId).HasValue (drawn locateId past)
  within : ∀ locateId record, document.record? locateId = some record →
    drawn locateId past ≤ record.quantity.value
  forward : ∀ call ∈ past, call.quantity.isFinite = true ∧ 0 ≤ call.quantity.exact
  entitled : ∀ call ∈ past, ∃ record, document.record? call.locateId = some record ∧
    Entitled record call

end LocateInventory

/-! ## Records -/

structure LocateRecord.Admitted (record : LocateRecord) : Prop where
  quantity : 0 < record.quantity.value
  aware : record.expiresAt.utcOffset.isSome = true

theorem LocateRecord.admitted_of_check {record : LocateRecord} (h : record.check = .ok ()) :
    record.Admitted := by
  simp only [check, Outcome.bind_eq_ok, Outcome.refuseIf_eq_ok] at h
  obtain ⟨-, -, -, -, -, hquantity, -, haware, -⟩ := h
  constructor
  · rwa [FiniteDecimal.le_iff, FiniteDecimal.value_zero, not_le] at hquantity
  · rw [not_or] at haware
    exact Option.isSome_iff_ne_none.mpr haware.2

theorem LocateDocument.admitted_of_record? {document : LocateDocument} {locateId : String}
    {record : LocateRecord} (hdocument : document.check = .ok ())
    (h : document.record? locateId = some record) : record.Admitted := by
  apply LocateRecord.admitted_of_check
  exact Outcome.foldSteps_unit_eq_ok.mp hdocument record (List.mem_of_find?_eq_some h)

namespace LocateInventory

variable {document : LocateDocument} {inventory : LocateInventory} {past : List Consumption}
  {call : Consumption} {record : LocateRecord} {remaining total : Decimal}

theorem drawn_append (locateId : String) (xs ys : List Consumption) :
    drawn locateId (xs ++ ys) = drawn locateId xs + drawn locateId ys := by
  simp [drawn]

theorem drawn_singleton (locateId : String) (call : Consumption) :
    drawn locateId [call] = if call.locateId = locateId then call.quantity.exact else 0 := by
  by_cases h : call.locateId = locateId <;> simp [drawn, h]

/-- A sound call draws a quantity that is no less than zero and that the locate has left. -/
theorem Draws.quantity (h : Draws inventory call record remaining total)
    (hcounts : Counts inventory call record)
    (hused : (inventory.usedOf call.locateId).HasValue (drawn call.locateId past)) :
    ∃ d : FiniteDecimal, call.quantity = .finite d ∧ 0 ≤ d.value ∧
      d.value ≤ record.quantity.value - drawn call.locateId past ∧
      total.HasValue (drawn call.locateId past + d.value) := by
  have hleft := hcounts.left
  have hforward := hcounts.forward
  have hcounted := hcounts.total
  rw [hused.exact_eq] at hleft hcounted
  have hquantity : Decimal.HasValue record.quantity record.quantity.value := ⟨_, rfl, rfl⟩
  obtain ⟨r, hr, hremaining⟩ := hquantity.sub hused hleft
  cases h.left.symm.trans hr
  have henough := h.enough
  cases hcase : call.quantity with
  | finite d =>
    have hd : Decimal.HasValue (.finite d) d.value := ⟨d, rfl, rfl⟩
    rw [hcase] at henough hforward
    rw [hremaining.lt hd, Except.ok.injEq, decide_eq_false_iff_not, not_lt] at henough
    rw [hd.lt Decimal.HasValue.zero, ne_eq, Except.ok.injEq, decide_eq_true_eq, not_lt] at hforward
    obtain ⟨t, ht, htotal⟩ := hused.add hd (hcounted d hcase henough)
    have hcountedTotal := h.counted
    rw [hcase, ht] at hcountedTotal
    cases hcountedTotal
    exact ⟨d, rfl, hforward, henough, htotal⟩
  | infinite negative =>
    -- what is left is a number, so that the infinity is the one below all numbers
    obtain ⟨x, rfl, -⟩ := hremaining
    rw [hcase] at henough hforward
    cases negative with
    | true => exact absurd rfl hforward
    | false => cases henough
  | nan negative signaling payload =>
    obtain ⟨x, rfl, -⟩ := hremaining
    rw [hcase] at henough
    cases henough

/-- A locate is current until it expires. -/
theorem Draws.entitled (h : Draws inventory call record remaining total)
    (hcounts : Counts inventory call record) (haware : record.expiresAt.utcOffset.isSome = true) :
    Entitled record call := by
  have hcurrent := h.current
  rw [Timestamp.isBefore] at hcurrent
  split at hcurrent
  next hsome =>
    simp only [Except.ok.injEq, decide_eq_false_iff_not, not_lt] at hcurrent
    exact ⟨h.issue, hsome ▸ haware, hcounts.inTime, hcurrent⟩
  next => cases hcurrent

theorem usedOf_set (locateId : String) (amount : Decimal) (locateId' : String) :
    ({ inventory with used := inventory.used.set locateId amount } : LocateInventory).usedOf
      locateId' = if locateId = locateId' then amount else inventory.usedOf locateId' := by
  rw [usedOf, Dict.getD, Dict.get?_set]
  split
  next => rfl
  next => rfl

/-- One sound call keeps the count. -/
theorem Holds.draw (hholds : Holds document inventory past)
    (hdocument : document.check = .ok ())
    (hdraws : Draws inventory call record remaining total)
    (hsound : Sound inventory call) :
    Holds document { inventory with used := inventory.used.set call.locateId total }
      (past ++ [call]) := by
  have hfound : document.record? call.locateId = some record := hholds.same ▸ hdraws.found
  have hcounts := hsound record hdraws.found hdraws.issue hdraws.current
  obtain ⟨d, hquantity, hforward, hleft, htotal⟩ :=
    hdraws.quantity hcounts (hholds.used call.locateId)
  have hexact : call.quantity.exact = d.value := by rw [hquantity]; rfl
  constructor
  case same => exact hholds.same
  case used =>
    intro locateId
    rw [usedOf_set, drawn_append, drawn_singleton, hexact]
    by_cases h : call.locateId = locateId
    · rw [if_pos h, if_pos h, ← h]
      exact htotal
    · rw [if_neg h, if_neg h, add_zero]
      exact hholds.used locateId
  case within =>
    intro locateId other hother
    rw [drawn_append, drawn_singleton, hexact]
    by_cases h : call.locateId = locateId
    · cases (h ▸ hother).symm.trans hfound
      rw [if_pos h, ← h]
      linarith
    · rw [if_neg h, add_zero]
      exact hholds.within locateId other hother
  case forward =>
    intro other hother
    rcases List.mem_append.mp hother with hother | hother
    · exact hholds.forward other hother
    · cases List.mem_singleton.mp hother
      exact ⟨by rw [hquantity]; rfl, hexact ▸ hforward⟩
  case entitled =>
    intro other hother
    rcases List.mem_append.mp hother with hother | hother
    · exact hholds.entitled other hother
    · cases List.mem_singleton.mp hother
      have hadmitted := LocateDocument.admitted_of_record? hdocument hfound
      exact ⟨record, hfound, hdraws.entitled hcounts hadmitted.aware⟩

/-- A run of sound calls keeps the count. -/
theorem Holds.run (hdocument : document.check = .ok ()) {calls : List Consumption} :
    ∀ {inventory : LocateInventory} {past : List Consumption}, Holds document inventory past →
      SoundRun inventory calls →
        Holds document (stepAll consume inventory calls) (past ++ accepted inventory calls) := by
  induction calls with
  | nil =>
    intro inventory past hholds _
    rwa [stepAll_nil, accepted, List.append_nil]
  | cons call rest ih =>
    intro inventory past hholds hsound
    obtain ⟨hcall, hrest⟩ := hsound
    rw [stepAll_cons, accepted, ← List.append_assoc]
    apply ih _ hrest
    rcases after_consume inventory call with ⟨hrefused, hafter⟩ | ⟨haccepted, record, remaining,
      total, hdraws, hafter⟩
    · rw [hrefused, hafter]
      simpa using hholds
    · rw [haccepted, hafter]
      exact hholds.draw hdocument hdraws hcall

theorem Holds.of (hdocument : document.check = .ok ()) : Holds document (of document) [] where
  same := rfl
  used _ := Decimal.HasValue.zero
  within _ _ h := (LocateDocument.admitted_of_record? hdocument h).quantity.le
  forward _ h := absurd h List.not_mem_nil
  entitled _ h := absurd h List.not_mem_nil

theorem accepted_append (xs ys : List Consumption) :
    accepted inventory (xs ++ ys) =
      accepted inventory xs ++ accepted (stepAll consume inventory xs) ys := by
  induction xs generalizing inventory with
  | nil => rfl
  | cons call rest ih =>
    rw [List.cons_append, accepted, ih, accepted, stepAll_cons, List.append_assoc]

end LocateInventory

/-! ## What is lent -/

open LocateInventory in
/-- A run of calls keeps to the locates of a document: what the accepted calls draw of a locate
stays within it and never shrinks, they are entitled to it, and the others change nothing. -/
structure Conserved (document : LocateDocument) (calls : List Consumption) : Prop where
  numbers : ∀ call ∈ accepted (of document) calls, call.quantity.isFinite = true
  within : ∀ locateId record, document.record? locateId = some record →
    drawn locateId (accepted (of document) calls) ≤ record.quantity.value
  grows : ∀ earlier call later, calls = earlier ++ call :: later → ∀ locateId,
    drawn locateId (accepted (of document) earlier) ≤
      drawn locateId (accepted (of document) (earlier ++ [call]))
  entitled : ∀ call ∈ accepted (of document) calls, ∃ record,
    document.record? call.locateId = some record ∧ Entitled record call
  unchanged : ∀ earlier call later, calls = earlier ++ call :: later →
    (stepAll consume (of document) earlier).accepts call = false →
      stepAll consume (of document) (earlier ++ [call]) = stepAll consume (of document) earlier

open LocateInventory in
/-- Sound calls keep to the locates of a document that is admitted. -/
theorem locate_conserved {document : LocateDocument} {calls : List Consumption}
    (hdocument : document.check = .ok ()) (hsound : SoundRun (of document) calls) :
    Conserved document calls := by
  have hholds := Holds.run hdocument (Holds.of hdocument) hsound
  rw [List.nil_append] at hholds
  constructor
  case numbers => exact fun call hcall => (hholds.forward call hcall).1
  case within => exact hholds.within
  case grows =>
    rintro earlier call later rfl locateId
    rw [accepted_append, drawn_append, le_add_iff_nonneg_right]
    apply List.sum_nonneg
    simp only [List.mem_map, List.mem_filter, forall_exists_index, and_imp]
    rintro _ drawing hdrawing - rfl
    -- what the call draws is among what the run draws
    apply (hholds.forward drawing _).2
    rw [List.append_cons, accepted_append, accepted_append]
    exact List.mem_append_left _ (List.mem_append_right _ hdrawing)
  case entitled => exact hholds.entitled
  case unchanged =>
    rintro earlier call later - hrefused
    rw [stepAll_concat]
    rcases after_consume (stepAll consume (of document) earlier) call with ⟨-, hafter⟩ | ⟨h, -⟩
    · exact hafter
    · rw [hrefused] at h
      cases h

/-! ## Whole quantities -/

theorem ambient_represents_int {n : ℤ} (h : |n| < 10 ^ 28) :
    DecimalContext.ambient.Represents n := by
  refine .of_grid ⟨n, (by simp : (n : ℚ) = n * 10 ^ (0 : ℤ))⟩ (by decide) (by decide) ?_
  have hcast : |(n : ℚ)| < 10 ^ 28 := by exact_mod_cast h
  exact hcast

theorem value_whole (n : ℕ) : (⟨false, n, 0⟩ : FiniteDecimal).value = n := by
  simp [FiniteDecimal.value, FiniteDecimal.toInt]

/-- Whole quantities of a locate of few digits count. -/
theorem LocateInventory.counts_of_whole {inventory : LocateInventory} {call : Consumption}
    {record : LocateRecord} {lent used asked : ℕ} (hlent : record.quantity = ⟨false, lent, 0⟩)
    (hused : inventory.usedOf call.locateId = .finite ⟨false, used, 0⟩)
    (hasked : call.quantity = .finite ⟨false, asked, 0⟩) (hwithin : used ≤ lent)
    (hshort : lent < 10 ^ 28) (hinTime : record.locatedAt.instant ≤ call.time.instant) :
    Counts inventory call record := by
  have husedValue : (inventory.usedOf call.locateId).exact = used := by
    rw [hused]
    exact value_whole used
  have hlentValue : record.quantity.value = lent := by rw [hlent, value_whole]
  constructor
  case inTime => exact hinTime
  case forward =>
    have hasks : call.quantity.HasValue asked := ⟨_, hasked, value_whole asked⟩
    rw [hasks.lt Decimal.HasValue.zero, ne_eq, Except.ok.injEq, decide_eq_true_eq, not_lt]
    exact Nat.cast_nonneg asked
  case left =>
    rw [husedValue, hlentValue, ← Nat.cast_sub hwithin]
    have hrepresents := ambient_represents_int (n := ((lent - used : ℕ) : ℤ))
      (by rw [abs_of_nonneg (by positivity)]; omega)
    exact_mod_cast hrepresents
  case total =>
    intro d hd hle
    rw [hasked] at hd
    cases hd
    rw [husedValue, hlentValue, value_whole] at hle
    rw [husedValue, value_whole]
    have hsum : used + asked ≤ lent := by
      have hcast : ((used + asked : ℕ) : ℚ) ≤ lent := by
        push_cast
        linarith
      exact_mod_cast hcast
    have hrepresents := ambient_represents_int (n := ((used + asked : ℕ) : ℤ))
      (by rw [abs_of_nonneg (by positivity)]; omega)
    exact_mod_cast hrepresents

/-! ## A day of locates -/

def lentFrom : Timestamp := .utc (.of 2026 10 19) 50400000000

def lentUntil : Timestamp := .utc (.of 2026 10 19) 75600000000

/-- Ten shares to borrow, from two in the afternoon until nine. -/
def tenToBorrow : LocateRecord where
  locateId := "L1"
  source := .syntheticEasyToBorrow
  locatedAt := lentFrom
  expiresAt := lentUntil
  issue := "ACME"
  quantity := ⟨false, 10, 0⟩

def borrowDay : LocateDocument := ⟨lentFrom, [tenToBorrow]⟩

/-- A call for a quantity of the locate. -/
def borrow (quantity : FiniteDecimal) (time : Timestamp) : Consumption :=
  ⟨"L1", "ACME", .finite quantity, time⟩

/-- Ten shares are taken, given back and taken again. -/
def takenTwice : List Consumption :=
  [borrow ⟨false, 10, 0⟩ lentFrom, borrow ⟨true, 10, 0⟩ lentFrom, borrow ⟨false, 10, 0⟩ lentFrom]

/-- Ten shares are taken fourteen hours before they are located. -/
def takenEarly : List Consumption := [borrow ⟨false, 10, 0⟩ (.midnight (.of 2026 10 19))]

/-- Between two fives, something is taken that twenty-eight digits do not count. -/
def takenFine : List Consumption :=
  [borrow ⟨false, 5, 0⟩ lentFrom, borrow ⟨false, 4, -28⟩ lentFrom, borrow ⟨false, 5, 0⟩ lentFrom]

/-- Four shares are taken, and seven of the six that are left are asked for. -/
def takenInPart : List Consumption :=
  [borrow ⟨false, 4, 0⟩ lentFrom, borrow ⟨false, 7, 0⟩ lentFrom]

theorem borrowDay_check : borrowDay.check = .ok () := by decide +kernel

open LocateInventory in
theorem locate_conserved_counterexample :
    ¬ Conserved borrowDay takenTwice ∧ ¬ Conserved borrowDay takenEarly ∧
      ¬ Conserved borrowDay takenFine := by
  refine ⟨?_, ?_, ?_⟩
  · intro h
    have hgrows := h.grows (takenTwice.take 1) (borrow ⟨true, 10, 0⟩ lentFrom)
      (takenTwice.drop 2) rfl "L1"
    have hfirst : accepted (of borrowDay) (takenTwice.take 1) = takenTwice.take 1 := by
      decide +kernel
    have hboth : accepted (of borrowDay)
        (takenTwice.take 1 ++ [borrow ⟨true, 10, 0⟩ lentFrom]) = takenTwice.take 2 := by
      decide +kernel
    rw [hfirst, hboth] at hgrows
    norm_num [drawn, borrow, takenTwice, Decimal.exact, FiniteDecimal.value,
      FiniteDecimal.toInt] at hgrows
  · intro h
    have haccepted : accepted (of borrowDay) takenEarly = takenEarly := by decide +kernel
    obtain ⟨record, hrecord, hentitled⟩ := h.entitled
      (borrow ⟨false, 10, 0⟩ (.utc (.of 2026 10 19) 0))
      (by rw [haccepted]; exact List.mem_singleton_self _)
    cases hrecord
    exact absurd hentitled.notBefore (by decide +kernel)
  · intro h
    have haccepted : accepted (of borrowDay) takenFine = takenFine := by decide +kernel
    have hwithin := h.within "L1" tenToBorrow rfl
    rw [haccepted] at hwithin
    norm_num [drawn, borrow, takenFine, tenToBorrow, Decimal.exact, FiniteDecimal.value,
      FiniteDecimal.toInt] at hwithin

open LocateInventory in
theorem locate_conserved_in_part : Conserved borrowDay takenInPart := by
  apply locate_conserved borrowDay_check
  have hused : (after consume (of borrowDay) (borrow ⟨false, 4, 0⟩ lentFrom)).usedOf "L1" =
      .finite ⟨false, 4, 0⟩ := by
    decide +kernel
  refine ⟨?_, ?_, trivial⟩
  · rintro record hrecord - -
    cases hrecord
    exact counts_of_whole rfl rfl rfl (Nat.zero_le 10) (by decide) (by decide +kernel)
  · rintro record hrecord - -
    rw [document_after] at hrecord
    cases hrecord
    exact counts_of_whole rfl hused rfl (by decide) (by decide) (by decide +kernel)

end Atreides
