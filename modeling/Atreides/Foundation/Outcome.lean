import Mathlib.Data.List.Basic
import Mathlib.Data.List.Perm.Basic

/-!
# Outcomes of code that can raise

A call either returns a value or lets an exception escape. The exceptions are the
built-in ones the modelled code can reach: the decimal signals that are trapped by
default, failed lookups, dates beyond the calendar and explicit refusals, and those the
program declares itself. Sequencing is `Except`'s bind; the lemmas here invert a returned
result into the results of its steps.
-/

/-- An exception that escapes a call. -/
inductive PyError
  | valueError (message : String)
  | keyError (key : String)
  | attributeError (name : String)
  | typeError (message : String)
  | runtimeError (message : String)
  | assertionError (message : String)
  | invalidOperation
  | divisionByZero
  | overflow
  | dateOutOfRange
  /-- an exception class of the program's own -/
  | refused (error message : String)
  deriving DecidableEq, Repr

/-- What a call leaves behind: a value, or the exception that escaped. -/
abbrev Outcome (α : Type) := Except PyError α

namespace Outcome

variable {α β σ : Type}

/-- The call returned, whatever it returned. -/
def Returns (x : Outcome α) : Prop := ∃ a, x = .ok a

@[simp] theorem returns_ok (a : α) : Returns (.ok a : Outcome α) := ⟨a, rfl⟩

@[simp] theorem returns_pure (a : α) : Returns (pure a : Outcome α) := ⟨a, rfl⟩

@[simp] theorem not_returns_error (e : PyError) : ¬ Returns (.error e : Outcome α) := by
  rintro ⟨a, h⟩
  cases h

/-- A sequence of calls returns exactly when its steps do. -/
theorem bind_eq_ok {x : Outcome α} {f : α → Outcome β} {b : β} :
    (x >>= f) = .ok b ↔ ∃ a, x = .ok a ∧ f a = .ok b := by
  cases x with
  | error e => simp [bind, Except.bind]
  | ok a => simp [bind, Except.bind]

/-- A sequence of calls raises where one of its steps does. -/
theorem bind_eq_error {x : Outcome α} {f : α → Outcome β} {e : PyError} :
    (x >>= f) = .error e ↔ x = .error e ∨ ∃ a, x = .ok a ∧ f a = .error e := by
  cases x with
  | error e' => simp [bind, Except.bind]
  | ok a => simp [bind, Except.bind]

@[simp] theorem ok_bind (a : α) (f : α → Outcome β) : ((.ok a : Outcome α) >>= f) = f a := rfl

@[simp] theorem error_bind (e : PyError) (f : α → Outcome β) :
    ((.error e : Outcome α) >>= f) = .error e := rfl

@[simp] theorem pure_eq_ok (a : α) : (pure a : Outcome α) = .ok a := rfl

@[simp] theorem throw_eq_error (e : PyError) : (throw e : Outcome α) = .error e := rfl

theorem map_eq_ok {x : Outcome α} {f : α → β} {b : β} :
    f <$> x = .ok b ↔ ∃ a, x = .ok a ∧ f a = b := by
  cases x <;> simp [Functor.map, Except.map]

/-- Two calls leave the same readings exactly when they return them alike. -/
theorem toOption_map_eq_iff {γ : Type} {x : Outcome α} {y : Outcome β} {f : α → γ} {g : β → γ} :
    x.toOption.map f = y.toOption.map g ↔
      ∀ c, (∃ a, x = .ok a ∧ f a = c) ↔ ∃ b, y = .ok b ∧ g b = c := by
  rw [Option.ext_iff]
  apply forall_congr'
  intro c
  cases x <;> cases y <;> simp [Except.toOption]

theorem toOption_map_eq_some_iff {x : Outcome α} {f : α → β} {b : β} :
    x.toOption.map f = some b ↔ ∃ a, x = .ok a ∧ f a = b := by
  cases x <;> simp [Except.toOption]

/-- A guard: the exception where it fails. -/
def refuseIf (p : Prop) [Decidable p] (e : PyError) : Outcome Unit := if p then .error e else .ok ()

@[simp] theorem refuseIf_eq_ok {p : Prop} [Decidable p] {e : PyError} {u : Unit} :
    refuseIf p e = .ok u ↔ ¬ p := by
  rw [refuseIf]
  split_ifs with h <;> simp [h]

theorem refuseIf_eq_error {p : Prop} [Decidable p] {e e' : PyError} :
    refuseIf p e = .error e' ↔ p ∧ e = e' := by
  rw [refuseIf]
  split_ifs with h <;> simp [h]

/-- What follows a guard that holds is what is left. -/
theorem refuseIf_bind {p : Prop} [Decidable p] {e : PyError} {f : Unit → Outcome β} (h : ¬ p) :
    (refuseIf p e >>= f) = f () := by
  rw [refuseIf, if_neg h]
  rfl

/-- A value built once a check has passed, which the value keeps; the exception of the check
otherwise. -/
def checked (x : Outcome Unit) (build : x = .ok () → α) : Outcome α :=
  match x, build with
  | .error e, _ => .error e
  | .ok (), build => .ok (build rfl)

theorem checked_eq_ok {x : Outcome Unit} {build : x = .ok () → α} {a : α} :
    checked x build = .ok a ↔ ∃ h, build h = a := by
  cases x with
  | error e => simp [checked]
  | ok u => simp [checked]

/-! ## Loops

A loop over a list threads its accumulator through one step per element. -/

/-- Run `step` over the list, from the left. -/
def foldSteps (step : σ → α → Outcome σ) : σ → List α → Outcome σ
  | s, [] => .ok s
  | s, a :: rest => do
    let s' ← step s a
    foldSteps step s' rest

@[simp] theorem foldSteps_nil (step : σ → α → Outcome σ) (s : σ) :
    foldSteps step s [] = .ok s := rfl

theorem foldSteps_cons (step : σ → α → Outcome σ) (s : σ) (a : α) (rest : List α) :
    foldSteps step s (a :: rest) = (step s a >>= fun s' => foldSteps step s' rest) := rfl

/-- Steps that agree on the elements of a list lead to the same end. -/
theorem foldSteps_congr {step step' : σ → α → Outcome σ} {xs : List α}
    (h : ∀ s, ∀ a ∈ xs, step s a = step' s a) (s : σ) :
    foldSteps step s xs = foldSteps step' s xs := by
  induction xs generalizing s with
  | nil => rfl
  | cons a xs ih =>
    rw [foldSteps_cons, foldSteps_cons, h s a List.mem_cons_self]
    congr 1
    funext s'
    exact ih (fun s b hb => h s b (List.mem_cons_of_mem a hb)) s'

theorem foldSteps_append (step : σ → α → Outcome σ) (s : σ) (xs ys : List α) :
    foldSteps step s (xs ++ ys) =
      (foldSteps step s xs >>= fun s' => foldSteps step s' ys) := by
  induction xs generalizing s with
  | nil => rfl
  | cons a xs ih =>
    simp only [List.cons_append, foldSteps_cons]
    cases step s a with
    | error e => rfl
    | ok s' => exact ih s'

/-- What the step of every element preserves, a returning loop preserves. -/
theorem foldSteps_preserves_of_mem {step : σ → α → Outcome σ} (I : σ → Prop) :
    ∀ {xs : List α}, (∀ a ∈ xs, ∀ s s', I s → step s a = .ok s' → I s') →
      ∀ {s s' : σ}, I s → foldSteps step s xs = .ok s' → I s' := by
  intro xs
  induction xs with
  | nil =>
    intro _ s s' hs h
    cases h
    exact hs
  | cons a xs ih =>
    intro hstep s s' hs h
    rw [foldSteps_cons, bind_eq_ok] at h
    obtain ⟨t, ht, hrest⟩ := h
    have hlater : ∀ b ∈ xs, ∀ s s', I s → step s b = .ok s' → I s' :=
      fun b hb => hstep b (List.mem_cons_of_mem a hb)
    exact ih hlater (hstep a List.mem_cons_self s t hs ht) hrest

/-- What every step preserves, a returning loop preserves. -/
theorem foldSteps_preserves {step : σ → α → Outcome σ} (I : σ → Prop)
    (hstep : ∀ s a s', I s → step s a = .ok s' → I s') {xs : List α} {s s' : σ} (hs : I s)
    (h : foldSteps step s xs = .ok s') : I s' :=
  foldSteps_preserves_of_mem I (fun a _ s s' => hstep s a s') hs h

/-- Where every step keeps two states related, so do two runs that return. -/
theorem foldSteps_related {step : σ → α → Outcome σ} {R : σ → σ → Prop}
    (hstep : ∀ s t a s' t', R s t → step s a = .ok s' → step t a = .ok t' → R s' t') :
    ∀ {xs : List α} {s t s' t' : σ}, R s t → foldSteps step s xs = .ok s' →
      foldSteps step t xs = .ok t' → R s' t' := by
  intro xs
  induction xs with
  | nil =>
    intro s t s' t' hst hs ht
    cases hs
    cases ht
    exact hst
  | cons a xs ih =>
    intro s t s' t' hst hs ht
    rw [foldSteps_cons, bind_eq_ok] at hs ht
    obtain ⟨u, hu, hs⟩ := hs
    obtain ⟨v, hv, ht⟩ := ht
    exact ih (hstep s t a u v hst hu hv) hs ht

/-- One more step among others leaves the end related, where it leaves its own state related. -/
theorem foldSteps_insert {step : σ → α → Outcome σ} {R : σ → σ → Prop} {I : σ → Prop}
    (hinvariant : ∀ s a s', I s → step s a = .ok s' → I s')
    (hstep : ∀ s t a s' t', R s t → step s a = .ok s' → step t a = .ok t' → R s' t') {x : α}
    (hx : ∀ s s', I s → step s x = .ok s' → R s s') {before after : List α} {s t t' : σ}
    (hs : I s) (h : foldSteps step s (before ++ after) = .ok t)
    (h' : foldSteps step s (before ++ x :: after) = .ok t') : R t t' := by
  rw [foldSteps_append, bind_eq_ok] at h h'
  obtain ⟨u, hu, h⟩ := h
  obtain ⟨u', hu', h'⟩ := h'
  rw [hu] at hu'
  cases hu'
  rw [foldSteps_cons, bind_eq_ok] at h'
  obtain ⟨v, hv, h'⟩ := h'
  exact foldSteps_related hstep (hx u v (foldSteps_preserves I hinvariant hs hu) hv) h h'

/-- Checking every element returns where every check does. -/
theorem foldSteps_unit_eq_ok {f : α → Outcome Unit} {xs : List α} :
    foldSteps (fun _ a => f a) () xs = .ok () ↔ ∀ a ∈ xs, f a = .ok () := by
  induction xs with
  | nil => simp
  | cons a xs ih =>
    rw [foldSteps_cons, bind_eq_ok, List.forall_mem_cons, ← ih]
    exact ⟨fun ⟨(), ha, hrest⟩ => ⟨ha, hrest⟩, fun ⟨ha, hrest⟩ => ⟨(), ha, hrest⟩⟩

theorem exists_of_foldSteps_unit_error {f : α → Outcome Unit} {xs : List α} {e : PyError}
    (h : foldSteps (fun _ a => f a) () xs = .error e) : ∃ a ∈ xs, f a = .error e := by
  induction xs with
  | nil => cases h
  | cons a xs ih =>
    rw [foldSteps_cons, bind_eq_error] at h
    obtain h | ⟨_, -, h⟩ := h
    · exact ⟨a, List.mem_cons_self, h⟩
    · obtain ⟨b, hb, herror⟩ := ih h
      exact ⟨b, List.mem_cons_of_mem a hb, herror⟩

/-- Run a call on every element and collect what each returned, in order. -/
def collect (f : α → Outcome β) : List α → Outcome (List β)
  | [] => .ok []
  | a :: rest => do
    let b ← f a
    let bs ← collect f rest
    .ok (b :: bs)

@[simp] theorem collect_nil (f : α → Outcome β) : collect f [] = .ok [] := rfl

theorem collect_cons_eq_ok {f : α → Outcome β} {a : α} {rest : List α} {bs : List β} :
    collect f (a :: rest) = .ok bs ↔
      ∃ b bs', f a = .ok b ∧ collect f rest = .ok bs' ∧ bs = b :: bs' := by
  simp only [collect, bind_eq_ok]
  constructor
  · rintro ⟨b, hb, bs', hbs', h⟩
    cases h
    exact ⟨b, bs', hb, hbs', rfl⟩
  · rintro ⟨b, bs', hb, hbs', rfl⟩
    exact ⟨b, hb, bs', hbs', rfl⟩

theorem collect_append_eq_ok {f : α → Outcome β} {xs ys : List α} {bs : List β} :
    collect f (xs ++ ys) = .ok bs ↔
      ∃ cs ds, collect f xs = .ok cs ∧ collect f ys = .ok ds ∧ bs = cs ++ ds := by
  induction xs generalizing bs with
  | nil => simp
  | cons x xs ih =>
    rw [List.cons_append, collect_cons_eq_ok]
    constructor
    · rintro ⟨b, bs', hb, hrest, rfl⟩
      obtain ⟨cs, ds, hcs, hds, rfl⟩ := ih.mp hrest
      exact ⟨b :: cs, ds, collect_cons_eq_ok.mpr ⟨b, cs, hb, hcs, rfl⟩, hds, rfl⟩
    · rintro ⟨cs, ds, hcs, hds, rfl⟩
      obtain ⟨b, cs', hb, hcs', rfl⟩ := collect_cons_eq_ok.mp hcs
      exact ⟨b, cs' ++ ds, hb, ih.mpr ⟨cs', ds, hcs', hds, rfl⟩, rfl⟩

/-- What a returning collection holds of each element. -/
theorem mem_of_collect {f : α → Outcome β} {xs : List α} {bs : List β}
    (h : collect f xs = .ok bs) {a : α} (ha : a ∈ xs) : ∃ b ∈ bs, f a = .ok b := by
  induction xs generalizing bs with
  | nil => cases ha
  | cons x xs ih =>
    obtain ⟨b, bs', hb, hbs', rfl⟩ := collect_cons_eq_ok.mp h
    rcases List.mem_cons.mp ha with rfl | htail
    · exact ⟨b, List.mem_cons_self, hb⟩
    · obtain ⟨c, hc, hfc⟩ := ih hbs' htail
      exact ⟨c, List.mem_cons_of_mem b hc, hfc⟩

/-- What a returning collection holds was returned for an element. -/
theorem exists_of_mem_collect {f : α → Outcome β} {xs : List α} {bs : List β}
    (h : collect f xs = .ok bs) {b : β} (hb : b ∈ bs) : ∃ a ∈ xs, f a = .ok b := by
  induction xs generalizing bs with
  | nil =>
    cases h
    cases hb
  | cons x xs ih =>
    obtain ⟨c, bs', hc, hbs', rfl⟩ := collect_cons_eq_ok.mp h
    rcases List.mem_cons.mp hb with rfl | htail
    · exact ⟨x, List.mem_cons_self, hc⟩
    · obtain ⟨a, ha, hfa⟩ := ih hbs' htail
      exact ⟨a, List.mem_cons_of_mem x ha, hfa⟩

/-- A collection returns items with a property where every call returns one. -/
theorem collect_forall_iff {f : α → Outcome β} {P : β → Prop} {xs : List α} :
    (∃ bs, collect f xs = .ok bs ∧ ∀ b ∈ bs, P b) ↔ ∀ a ∈ xs, ∃ b, f a = .ok b ∧ P b := by
  constructor
  · rintro ⟨bs, hcollect, hall⟩ a ha
    obtain ⟨b, hb, hfa⟩ := mem_of_collect hcollect ha
    exact ⟨b, hfa, hall b hb⟩
  · induction xs with
    | nil => exact fun _ => ⟨[], rfl, by simp⟩
    | cons a xs ih =>
      intro hall
      obtain ⟨b, hfa, hb⟩ := hall a List.mem_cons_self
      obtain ⟨bs, hcollect, hbs⟩ := ih fun c hc => hall c (List.mem_cons_of_mem a hc)
      refine ⟨b :: bs, collect_cons_eq_ok.mpr ⟨b, bs, hfa, hcollect, rfl⟩, ?_⟩
      exact List.forall_mem_cons.mpr ⟨hb, hbs⟩

/-- A returning collection holds what each call returned, in order. -/
theorem collect_forall {f : α → Outcome β} {xs : List α} {bs : List β}
    (h : collect f xs = .ok bs) : List.Forall₂ (fun a b => f a = .ok b) xs bs := by
  induction xs generalizing bs with
  | nil =>
    cases h
    exact List.Forall₂.nil
  | cons a xs ih =>
    obtain ⟨b, bs', hb, hbs', rfl⟩ := collect_cons_eq_ok.mp h
    exact List.Forall₂.cons hb (ih hbs')

/-- Where every call that returns is matched by another, a collection is matched item by item. -/
theorem collect_related {f g : α → Outcome β} {R : β → β → Prop} {xs : List α}
    (hcalls : ∀ a ∈ xs, ∀ b, f a = .ok b → ∃ c, g a = .ok c ∧ R b c) :
    ∀ {bs : List β}, collect f xs = .ok bs → ∃ cs, collect g xs = .ok cs ∧
      List.Forall₂ R bs cs := by
  induction xs with
  | nil =>
    intro bs h
    cases h
    exact ⟨[], rfl, List.Forall₂.nil⟩
  | cons a xs ih =>
    intro bs h
    obtain ⟨b, bs, hfa, hcollect, rfl⟩ := collect_cons_eq_ok.mp h
    obtain ⟨c, hga, hR⟩ := hcalls a List.mem_cons_self b hfa
    obtain ⟨cs, hcs, hrest⟩ := ih (fun d hd => hcalls d (List.mem_cons_of_mem a hd)) hcollect
    exact ⟨c :: cs, collect_cons_eq_ok.mpr ⟨c, cs, hga, hcs, rfl⟩, List.Forall₂.cons hR hrest⟩

/-- A collection of the same elements in another order holds the same items in another order. -/
theorem collect_perm {f : α → Outcome β} {xs ys : List α} (h : xs.Perm ys) :
    ∀ {bs : List β}, collect f xs = .ok bs → ∃ cs, collect f ys = .ok cs ∧ bs.Perm cs := by
  induction h with
  | nil => exact fun hbs => ⟨_, hbs, List.Perm.refl _⟩
  | cons a _ ih =>
    intro bs hbs
    obtain ⟨b, bs, hb, hrest, rfl⟩ := collect_cons_eq_ok.mp hbs
    obtain ⟨cs, hcs, hperm⟩ := ih hrest
    exact ⟨b :: cs, collect_cons_eq_ok.mpr ⟨b, cs, hb, hcs, rfl⟩, hperm.cons b⟩
  | swap a a' xs =>
    intro bs hbs
    obtain ⟨b', tail, hb', htail, rfl⟩ := collect_cons_eq_ok.mp hbs
    obtain ⟨b, bs, hb, hrest, rfl⟩ := collect_cons_eq_ok.mp htail
    refine ⟨b :: b' :: bs, ?_, List.Perm.swap b b' bs⟩
    apply collect_cons_eq_ok.mpr ⟨b, b' :: bs, hb, ?_, rfl⟩
    exact collect_cons_eq_ok.mpr ⟨b', bs, hb', hrest, rfl⟩
  | trans _ _ ih ih' =>
    intro bs hbs
    obtain ⟨cs, hcs, hperm⟩ := ih hbs
    obtain ⟨ds, hds, hperm'⟩ := ih' hcs
    exact ⟨ds, hds, hperm.trans hperm'⟩

/-- Calls that all return leave what each returned. -/
theorem collect_ok (g : α → β) (xs : List α) :
    collect (fun a => .ok (g a)) xs = .ok (xs.map g) := by
  induction xs with
  | nil => rfl
  | cons a xs ih =>
    rw [collect, ih]
    rfl

/-- Two collections agree when the calls agree on every element. -/
theorem collect_congr {f g : α → Outcome β} {xs : List α} (h : ∀ a ∈ xs, f a = g a) :
    collect f xs = collect g xs := by
  induction xs with
  | nil => rfl
  | cons a xs ih =>
    simp only [collect, h a (by simp), ih fun b hb => h b (by simp [hb])]

end Outcome

/-! ## Lists related element by element -/

section Related

variable {α β γ : Type} {R : α → β → Prop} {S : β → γ → Prop} {T : α → γ → Prop}

/-- Two relations element by element, one after the other. -/
theorem List.Forall₂.comp (h : ∀ a b c, R a b → S b c → T a c) {xs : List α} {ys : List β} :
    ∀ {zs : List γ}, List.Forall₂ R xs ys → List.Forall₂ S ys zs → List.Forall₂ T xs zs := by
  intro zs hR
  induction hR generalizing zs with
  | nil =>
    intro hS
    cases hS
    exact List.Forall₂.nil
  | cons hab _ ih =>
    intro hS
    cases hS with
    | cons hbc hrest => exact List.Forall₂.cons (h _ _ _ hab hbc) (ih hrest)

/-- Every first element has its partner. -/
theorem List.Forall₂.exists_of_mem_left {xs : List α} {ys : List β} (hR : List.Forall₂ R xs ys)
    {a : α} (ha : a ∈ xs) : ∃ b ∈ ys, R a b := by
  induction hR with
  | nil => cases ha
  | @cons x y xs ys hxy _ ih =>
    obtain rfl | hrest := List.mem_cons.mp ha
    · exact ⟨y, List.mem_cons_self, hxy⟩
    · obtain ⟨b, hb, hab⟩ := ih hrest
      exact ⟨b, List.mem_cons_of_mem y hb, hab⟩

/-- Where the first elements are names and occur once, one name picks one partner. -/
theorem List.Forall₂.filter_name [DecidableEq α] {name : β → α}
    (hname : ∀ a b, R a b → name b = a) {xs : List α} {ys : List β} (hR : List.Forall₂ R xs ys)
    (hnodup : xs.Nodup) (a : α) :
    (a ∈ xs ∧ ∃ b, R a b ∧ ys.filter (fun y => name y = a) = [b]) ∨
      (a ∉ xs ∧ ys.filter (fun y => name y = a) = []) := by
  induction hR with
  | nil => exact Or.inr ⟨List.not_mem_nil, rfl⟩
  | @cons x y xs ys hxy hrest ih =>
    obtain ⟨hx, hxs⟩ := List.nodup_cons.mp hnodup
    have hy := hname x y hxy
    by_cases hxa : x = a
    · subst hxa
      rcases ih hxs with ⟨hmem, -⟩ | ⟨-, hnone⟩
      · exact absurd hmem hx
      · exact Or.inl ⟨List.mem_cons_self, y, hxy, by simp [hy, hnone]⟩
    · have hskip : (y :: ys).filter (fun y => name y = a) = ys.filter (fun y => name y = a) := by
        simp [hy, hxa]
      rw [hskip]
      rcases ih hxs with ⟨hmem, b, hb, hone⟩ | ⟨hnot, hnone⟩
      · exact Or.inl ⟨List.mem_cons_of_mem x hmem, b, hb, hone⟩
      · exact Or.inr ⟨by simp [hnot, Ne.symm hxa], hnone⟩

end Related
