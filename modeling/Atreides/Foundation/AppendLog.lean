import Mathlib.Data.List.Infix
import Mathlib.Data.List.Nodup
import Mathlib.Logic.Relation
import Mathlib.Order.WellFounded

/-!
# Append-only logs

A log grows at its end. What holds of each item and the items before it, when it is
appended, holds for good; and a pointer that names an earlier item can be followed back
until an item has none.

## Main definitions

* `Linked` — every item stands in a relation to the items before it
* `PointsTo` — the pointer of one item names another item of the log
* `Backward` — every pointer names an earlier item
* `LeadsTo` — where following pointers ends

## Main results

* `prefix_foldl` — steps that only append keep what a log held
* `Backward.acc`, `Backward.exists_leadsTo` — following pointers ends
* `LeadsTo.unique` — and ends at one item only
-/

namespace Atreides

variable {α κ σ ρ : Type}

/-! ## Steps that append -/

/-- Where every step keeps what the log held, a run of steps does. -/
theorem prefix_foldl {step : σ → ρ → σ} {log : σ → List α}
    (hstep : ∀ s r, log s <+: log (step s r)) (s : σ) (requests : List ρ) :
    log s <+: log (requests.foldl step s) := by
  induction requests generalizing s with
  | nil => exact List.prefix_refl _
  | cons r rest ih => exact (hstep s r).trans (ih (step s r))

/-! ## Linked logs -/

/-- Every item of a log stands in a relation to the items before it. -/
def Linked (R : List α → α → Prop) (log : List α) : Prop :=
  ∀ before item rest, log = before ++ item :: rest → R before item

section Linked

variable {R : List α → α → Prop} {log : List α}

theorem linked_nil : Linked R [] := by
  intro before item rest h
  simp at h

theorem linked_concat {item : α} : Linked R (log ++ [item]) ↔ Linked R log ∧ R log item := by
  constructor
  · intro h
    refine ⟨?_, h log item [] rfl⟩
    rintro before earlier rest rfl
    exact h before earlier (rest ++ [item]) (by simp)
  · rintro ⟨hlog, hitem⟩ before last rest h
    -- the split is at the new item, or inside the log it was appended to
    rcases List.eq_nil_or_concat rest with rfl | ⟨rest, last', rfl⟩
    · obtain ⟨rfl, hlast⟩ := List.append_inj' h rfl
      cases hlast
      exact hitem
    · rw [List.concat_eq_append, ← List.cons_append, ← List.append_assoc] at h
      exact hlog before last rest (List.append_inj' h rfl).1

end Linked

/-! ## Pointers -/

section Pointers

variable (name : α → κ) (pointer : α → Option κ)

/-- The pointer of one item names another item of the log. -/
def PointsTo (log : List α) (a b : α) : Prop := b ∈ log ∧ pointer a = some (name b)

/-- Every pointer names an item that was appended earlier. -/
def Backward (log : List α) : Prop :=
  Linked (fun before item => ∀ k, pointer item = some k → ∃ b ∈ before, name b = k) log

/-- Following pointers from one item ends at another. -/
def LeadsTo (log : List α) (a b : α) : Prop :=
  Relation.ReflTransGen (PointsTo name pointer log) a b ∧ pointer b = none

variable {name pointer} {log : List α}

/-- In a log where names are unique, a pointer names one item at most. -/
theorem PointsTo.unique (hnames : (log.map name).Nodup) {a b c : α}
    (hb : PointsTo name pointer log a b) (hc : PointsTo name pointer log a c) : b = c := by
  apply List.inj_on_of_nodup_map hnames hb.1 hc.1
  exact Option.some.inj (hb.2.symm.trans hc.2)

/-- Under unique names, a pointer of the item at a position names an earlier position. -/
theorem Backward.earlier (h : Backward name pointer log) (hnames : (log.map name).Nodup)
    {n : ℕ} (hn : n < log.length) {b : α} (hb : PointsTo name pointer log log[n] b) :
    ∃ m, ∃ hm : m < log.length, m < n ∧ log[m] = b := by
  have hsplit : log = log.take n ++ log[n] :: log.drop (n + 1) := by
    rw [List.getElem_cons_drop, List.take_append_drop]
  obtain ⟨c, hc, hname⟩ := h _ _ _ hsplit (name b) hb.2
  obtain ⟨m, hm, hget⟩ := List.getElem_of_mem hc
  rw [List.getElem_take] at hget
  have hlt : m < n ∧ m < log.length := by simpa using hm
  refine ⟨m, hlt.2, hlt.1, ?_⟩
  apply List.inj_on_of_nodup_map hnames (List.getElem_mem hlt.2) hb.1
  rw [hget, hname]

/-- No chain of pointers goes on for ever. -/
theorem Backward.acc (h : Backward name pointer log) (hnames : (log.map name).Nodup) {a : α}
    (ha : a ∈ log) : Acc (fun b a => PointsTo name pointer log a b) a := by
  obtain ⟨n, hn, rfl⟩ := List.getElem_of_mem ha
  induction n using Nat.strong_induction_on with
  | _ n ih =>
    constructor
    intro b hb
    obtain ⟨m, hm, hlt, rfl⟩ := h.earlier hnames hn hb
    exact ih m hlt hm (List.getElem_mem hm)

/-- Following pointers from an item of the log ends at an item of the log. -/
theorem Backward.exists_leadsTo (h : Backward name pointer log) (hnames : (log.map name).Nodup)
    {a : α} (ha : a ∈ log) : ∃ b ∈ log, LeadsTo name pointer log a b := by
  have hacc := h.acc hnames ha
  induction hacc with
  | intro a _ ih =>
    rcases hpointer : pointer a with _ | k
    · exact ⟨a, ha, Relation.ReflTransGen.refl, hpointer⟩
    · obtain ⟨n, hn, rfl⟩ := List.getElem_of_mem ha
      have hsplit : log = log.take n ++ log[n] :: log.drop (n + 1) := by
        rw [List.getElem_cons_drop, List.take_append_drop]
      obtain ⟨c, hc, hname⟩ := h _ _ _ hsplit k hpointer
      have hstep : PointsTo name pointer log log[n] c :=
        ⟨List.mem_of_mem_take hc, by rw [hpointer, hname]⟩
      obtain ⟨b, hb, hpath, hend⟩ := ih c hstep hstep.1
      exact ⟨b, hb, hpath.head hstep, hend⟩

/-- An item with no pointer leads to itself only. -/
theorem eq_of_pointer_eq_none {a b : α} (ha : pointer a = none)
    (hpath : Relation.ReflTransGen (PointsTo name pointer log) a b) : a = b := by
  rcases Relation.ReflTransGen.cases_head hpath with rfl | ⟨c, hstep, -⟩
  · rfl
  · rw [hstep.2] at ha
    cases ha

/-- Following pointers ends at one item only. -/
theorem LeadsTo.unique (hnames : (log.map name).Nodup) {a b c : α}
    (hb : LeadsTo name pointer log a b) (hc : LeadsTo name pointer log a c) : b = c := by
  have hunique : Relator.RightUnique (PointsTo name pointer log) :=
    fun _ _ _ hx hy => hx.unique hnames hy
  have htotal := Relation.ReflTransGen.total_of_right_unique hunique hb.1 hc.1
  rcases htotal with hpath | hpath
  · exact eq_of_pointer_eq_none hb.2 hpath
  · exact (eq_of_pointer_eq_none hc.2 hpath).symm

/-- What one pointer keeps, following pointers keeps. -/
theorem LeadsTo.preserves {β : Type} {f : α → β}
    (hstep : ∀ a b, a ∈ log → PointsTo name pointer log a b → f b = f a) {a b : α} (ha : a ∈ log)
    (h : LeadsTo name pointer log a b) : f b = f a := by
  obtain ⟨hpath, -⟩ := h
  have hkept : b ∈ log ∧ f b = f a := by
    induction hpath with
    | refl => exact ⟨ha, rfl⟩
    | tail _ hlast ih =>
      refine ⟨hlast.1, ?_⟩
      rw [hstep _ _ ih.1 hlast, ih.2]
  exact hkept.2

end Pointers

end Atreides
