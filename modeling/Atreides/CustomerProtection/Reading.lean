import Atreides.CustomerProtection.Common
import Atreides.Foundation.Ensures

/-!
# Reading rules and collecting findings

A reserve or net capital computation reads rule items and collects what it misses and what it
finds. What it has found only grows. So where nothing is missing at the end, nothing was missing
at any step, and each step returned a known figure.

## Main definitions

* `Findings`, `Reading` — what a computation has found, and a step of one
* `Evidence`, `Findings.has` — how much of what a computation needs was there
* `Assures` — what a step makes known, by how much was there

## Main results

* `Assures.value`, `Assures.present`, `Assures.requireInput` — what reading makes known
* `Assures.both`, `Assures.total` — figures known where what they are made of is
-/

namespace Atreides

open DecimalContext (ambient)

namespace CustomerProtection

/-! ## Steps -/

/-- What a computation has read and found. -/
structure Findings where
  rules : RuleReader
  missingInputs : List String := []
  breaches : List String := []
  reasons : List String := []

/-- A step of a computation. -/
abbrev Reading (α : Type) := Computation Findings α

namespace Reading

/-- Read an item's figure. -/
def value (ruleId : String) : Reading (Option FiniteDecimal) := fun s =>
  let (rules, v) := s.rules.value ruleId
  .ok (v, { s with rules })

/-- Read whether an item is loaded. -/
def present (ruleId : String) : Reading Bool := fun s =>
  let (rules, loaded) := s.rules.present ruleId
  .ok (loaded, { s with rules })

def flag (description : String) : Reading Unit :=
  Computation.update fun s => { s with rules := s.rules.flag description }

def missInput (name : String) : Reading Unit :=
  Computation.update fun s => { s with missingInputs := s.missingInputs ++ [name] }

def breach (text : String) : Reading Unit :=
  Computation.update fun s => { s with breaches := s.breaches ++ [text] }

def reason (text : String) : Reading Unit :=
  Computation.update fun s => { s with reasons := s.reasons ++ [text] }

/-- Note an input that was not supplied. -/
def requireInput {α : Type} (name : String) (supplied : Option α) : Reading Unit :=
  if supplied.isNone then missInput name else pure ()

/-- Note a finding where there is one. -/
def breachIf (found : Bool) (text : String) : Reading Unit :=
  if found then breach text else pure ()

/-- An operation on two figures, unknown where one of them is. -/
def both (op : FiniteDecimal → FiniteDecimal → Outcome FiniteDecimal) :
    Option FiniteDecimal → Option FiniteDecimal → Reading (Option FiniteDecimal)
  | some a, some b => Computation.ofOutcome (some <$> op a b)
  | _, _ => pure none

/-- The sum of figures, unknown where one of them is. -/
def total (values : List (Option FiniteDecimal)) : Reading (Option FiniteDecimal) :=
  if values.any Option.isNone then pure none
  else Computation.ofOutcome (some <$> FiniteDecimal.sum ambient 0 (values.filterMap id))

end Reading

/-! ## How much was there -/

/-- How much of what a computation needs was there: perhaps not all, all the rules, or all the
rules and inputs, with no breach. -/
inductive Evidence
  | any
  | rules
  | complete
  deriving DecidableEq

def Findings.has : Evidence → Findings → Prop
  | .any, _ => True
  | .rules, s => s.rules.missingRules = []
  | .complete, s => s.rules.missingRules = [] ∧ s.missingInputs = [] ∧ s.breaches = []

/-- The computation reads the table. -/
def Findings.Reads (table : RuleTable) (s : Findings) : Prop := s.rules.table = table

/-- The exceptions of figures too large and of dates too late. -/
def Overflows (e : PyError) : Prop := e = .overflow ∨ e = .dateOutOfRange

/-- What a step makes known, by how much of what the computation needs was there. -/
abbrev Assures {α : Type} (table : RuleTable) (x : Reading α) (post : Evidence → α → Prop) :
    Prop :=
  Ensures (Findings.Reads table) Findings.has Overflows x post

/-- The figure an item of the table states. -/
def RuleTable.figure (table : RuleTable) (ruleId : String) : Option FiniteDecimal :=
  (table.get ruleId).bind RuleItem.value

/-- A loaded item of any of the names states a figure. -/
def RuleTable.StatesFigures (table : RuleTable) (ruleIds : List String) : Prop :=
  ∀ ruleId ∈ ruleIds, ∀ item ∈ table.get ruleId, item.value ≠ none

/-! ## What each step makes known -/

namespace Assures

open Reading

variable {table : RuleTable} {ruleId name text : String}

/-- A step that looks an item up: an absent item is missing from then on, and a loaded one leaves
everything found as it was. -/
theorem item {α : Type} {x : Reading α} {g : Option RuleRef → α} {post : Evidence → α → Prop}
    (hx : ∀ s, x s = .ok (g (s.rules.item ruleId).2, { s with rules := (s.rules.item ruleId).1 }))
    (habsent : table.get ruleId = none → post .any (g none))
    (hloaded : ∀ found ref, table.get ruleId = some found → ref.value = found.value →
      ∀ ev, post ev (g (some ref))) : Assures table x post where
  ok s a s' hs h := by
    subst hs
    rw [hx, RuleReader.item] at h
    rcases Option.eq_none_or_eq_some (s.rules.table.get ruleId) with hget | ⟨found, hget⟩
    · rw [hget] at h
      cases h
      have hmissing : Dict.noteKey s.rules.missingRules ruleId ≠ [] :=
        List.ne_nil_of_mem (Dict.mem_noteKey.mpr (Or.inr rfl))
      refine ⟨rfl, fun ev hev => ?_⟩
      cases ev with
      | any => exact ⟨trivial, habsent hget⟩
      | rules => exact absurd hev hmissing
      | complete => exact absurd hev.1 hmissing
    · rw [hget] at h
      cases h
      refine ⟨rfl, fun ev hev => ⟨?_, hloaded found _ hget rfl ev⟩⟩
      cases ev with
      | any => trivial
      | rules => exact hev
      | complete => exact hev
  error s e _ h := by
    rw [hx] at h
    cases h

protected theorem value (hstates : ∀ item ∈ table.get ruleId, item.value ≠ none) :
    Assures table (value ruleId) fun ev v =>
      (ev ≠ .any → v ≠ none) ∧ v = table.figure ruleId := by
  apply item (g := fun ref => ref.bind RuleRef.value) (fun s => rfl)
  · intro hget
    simp [RuleTable.figure, hget]
  · intro found ref hget hvalue ev
    refine ⟨fun _ => ?_, ?_⟩
    · rw [Option.bind_some, hvalue]
      exact hstates found hget
    · rw [Option.bind_some, hvalue, RuleTable.figure, hget, Option.bind_some]

protected theorem present : Assures table (present ruleId) fun ev loaded =>
    (ev ≠ .any → loaded = true) ∧ loaded = (table.get ruleId).isSome := by
  apply item (g := Option.isSome) (fun s => rfl)
  · intro hget
    simp [hget]
  · intro found ref hget _ ev
    simp [hget]

protected theorem missInput : Assures table (missInput name) fun ev _ => ev ≠ .complete := by
  refine Ensures.update (fun _ hs => hs) fun ev s hev => ?_
  cases ev with
  | any => exact ⟨trivial, by simp⟩
  | rules => exact ⟨hev, by simp⟩
  | complete => exact absurd hev.2.1 (by simp)

protected theorem breach : Assures table (breach text) fun ev _ => ev ≠ .complete := by
  refine Ensures.update (fun _ hs => hs) fun ev s hev => ?_
  cases ev with
  | any => exact ⟨trivial, by simp⟩
  | rules => exact ⟨hev, by simp⟩
  | complete => exact absurd hev.2.2 (by simp)

protected theorem reason : Assures table (reason text) fun _ _ => True := by
  refine Ensures.update (fun _ hs => hs) fun ev s hev => ⟨?_, trivial⟩
  cases ev with
  | any => trivial
  | rules => exact hev
  | complete => exact hev

protected theorem flag : Assures table (flag text) fun ev _ => ev = .any := by
  have hmissing : ∀ s : Findings, (s.rules.flag text).missingRules ≠ [] := fun s =>
    List.ne_nil_of_mem (Dict.mem_noteKey.mpr (Or.inr rfl))
  refine Ensures.update (fun _ hs => hs) fun ev s hev => ?_
  cases ev with
  | any => exact ⟨trivial, rfl⟩
  | rules => exact absurd hev (hmissing s)
  | complete => exact absurd hev.1 (hmissing s)

protected theorem requireInput {α : Type} {supplied : Option α} :
    Assures table (requireInput name supplied) fun ev _ => ev = .complete → supplied ≠ none := by
  rw [requireInput]
  split_ifs with h
  · exact Assures.missInput.weaken fun ev _ hev hcomplete => absurd hcomplete hev
  · exact Ensures.pure fun ev _ hnone => h (by simp [hnone])

protected theorem breachIf {found : Bool} :
    Assures table (breachIf found text) fun ev _ => ev = .complete → found = false := by
  rw [breachIf]
  split_ifs with h
  · exact Assures.breach.weaken fun ev _ hev hcomplete => absurd hcomplete hev
  · exact Ensures.pure fun ev _ => by simpa using h

/-- What the first step makes of its value whatever was there, the rest may rely on. -/
theorem bind_of {α β : Type} {x : Reading α} {f : α → Reading β} {post : Evidence → α → Prop}
    {post' : Evidence → β → Prop} (h : Assures table x post)
    (hf : ∀ a, post .any a → Assures table (f a) fun ev b => post ev a → post' ev b) :
    Assures table (x >>= f) post' where
  ok s b s' hs hx := by
    obtain ⟨a, t, hxs, hfa⟩ := Computation.bind_eq_ok.mp hx
    obtain ⟨ht, hhas⟩ := h.ok s a t hs hxs
    obtain ⟨hs', hhas'⟩ := (hf a (hhas .any trivial).2).ok t b s' ht hfa
    refine ⟨hs', fun ev hev => ?_⟩
    obtain ⟨hrest, hb⟩ := hhas' ev hev
    exact ⟨(hhas ev hrest).1, hb (hhas ev hrest).2⟩
  error s e hs hx := by
    obtain hxs | ⟨a, t, hxs, hfa⟩ := Computation.bind_eq_error.mp hx
    · exact h.error s e hs hxs
    · obtain ⟨ht, hhas⟩ := h.ok s a t hs hxs
      exact (hf a (hhas .any trivial).2).error t e ht hfa

/-- An operation that raises nothing but an overflow. -/
def OverflowOnly (op : FiniteDecimal → FiniteDecimal → Outcome FiniteDecimal) : Prop :=
  ∀ a b e, op a b = .error e → e = .overflow

theorem overflowOnly_add : OverflowOnly (FiniteDecimal.add ambient) :=
  fun _ _ _ h => DecimalContext.fix_error h

theorem overflowOnly_sub : OverflowOnly (FiniteDecimal.sub ambient) :=
  fun _ _ _ h => DecimalContext.fix_error h

theorem overflowOnly_mul : OverflowOnly (FiniteDecimal.mul ambient) :=
  fun _ _ _ h => DecimalContext.fix_error h

/-- A step of arithmetic. -/
theorem arithmetic {o : Outcome FiniteDecimal} (h : ∀ e, o = .error e → e = .overflow) :
    Assures table (Computation.ofOutcome o) fun _ v => o = .ok v :=
  Ensures.ofOutcome (fun _ hv _ => hv) fun e he => Or.inl (h e he)

protected theorem both {op : FiniteDecimal → FiniteDecimal → Outcome FiniteDecimal}
    (hop : OverflowOnly op) (a b : Option FiniteDecimal) :
    Assures table (both op a b) fun _ v =>
      (v = none ↔ a = none ∨ b = none) ∧ ∀ x ∈ a, ∀ y ∈ b, ∀ z ∈ v, op x y = .ok z := by
  rcases a with _ | a
  · exact Ensures.pure fun _ => by simp
  rcases b with _ | b
  · exact Ensures.pure fun _ => by simp
  · refine Ensures.ofOutcome (fun v hv _ => ?_) fun e he => ?_
    · obtain ⟨z, hz, rfl⟩ := Outcome.map_eq_ok.mp hv
      simp [hz]
    · rcases h : op a b with e' | z
      · rw [h] at he
        cases he
        exact Or.inl (hop a b _ h)
      · rw [h] at he
        cases he

protected theorem total (values : List (Option FiniteDecimal)) :
    Assures table (total values) fun _ v => (v = none ↔ none ∈ values) ∧
      ∀ z ∈ v, FiniteDecimal.sum ambient 0 (values.filterMap id) = .ok z := by
  rw [total]
  split_ifs with h
  · have hmem : none ∈ values := by simpa using h
    exact Ensures.pure fun _ => by simp [hmem]
  · have hmem : none ∉ values := by simpa using h
    refine Ensures.ofOutcome (fun v hv _ => ?_) fun e he => ?_
    · obtain ⟨z, hz, rfl⟩ := Outcome.map_eq_ok.mp hv
      refine ⟨by simp [hmem], fun w hw => ?_⟩
      cases hw
      exact hz
    · rcases hsum : FiniteDecimal.sum ambient 0 (values.filterMap id) with e' | z
      · rw [hsum] at he
        cases he
        exact Or.inl (FiniteDecimal.sum_error hsum)
      · rw [hsum] at he
        cases he

end Assures

/-! ## Lists matched item by item -/

/-- Each item of a related list has a partner. -/
theorem exists_of_forall₂_mem {α β : Type} {R : α → β → Prop} {xs : List α} {ys : List β}
    (h : List.Forall₂ R xs ys) {y : β} (hy : y ∈ ys) : ∃ x ∈ xs, R x y := by
  induction h with
  | nil => cases hy
  | cons hhead _ ih =>
    rcases List.mem_cons.mp hy with rfl | htail
    · exact ⟨_, List.mem_cons_self, hhead⟩
    · obtain ⟨x, hx, hR⟩ := ih htail
      exact ⟨x, List.mem_cons_of_mem _ hx, hR⟩

end CustomerProtection

end Atreides
