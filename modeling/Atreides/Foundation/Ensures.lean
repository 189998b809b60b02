import Atreides.Foundation.Outcome

/-!
# What a computation with a state ensures

A computation reads and changes a state, and returns or raises. Some properties of the state
only ever get lost, such as that nothing was found wrong so far: where the state left behind
still has one, the state before had it, and the value returned is as good as the property
makes it. Computations are put together by the rule for a sequence.

## Main definitions

* `Computation` — a computation with a state
* `Ensures` — what holds of the value under each property of the state left behind

## Main results

* `Ensures.bind`, `Ensures.collect` — a sequence, and a loop over a list
-/

namespace Atreides

/-- A computation with a state, which it loses where it raises. -/
abbrev Computation (σ α : Type) := StateT σ Outcome α

namespace Computation

variable {σ α β : Type}

/-- A step without effect on the state. -/
def ofOutcome (x : Outcome α) : Computation σ α := fun s => (·, s) <$> x

/-- A step that only changes the state. -/
def update (f : σ → σ) : Computation σ Unit := fun s => .ok ((), f s)

/-- Run a computation on every element and collect what each returned, in order. -/
def collect (f : α → Computation σ β) : List α → Computation σ (List β)
  | [] => pure []
  | a :: rest => do
    let b ← f a
    let bs ← collect f rest
    pure (b :: bs)

theorem bind_eq_ok {x : Computation σ α} {f : α → Computation σ β} {s s' : σ} {b : β} :
    (x >>= f) s = .ok (b, s') ↔ ∃ a t, x s = .ok (a, t) ∧ f a t = .ok (b, s') := by
  change (x s >>= fun p => f p.1 p.2) = .ok (b, s') ↔ _
  rw [Outcome.bind_eq_ok]
  exact Prod.exists

theorem bind_eq_error {x : Computation σ α} {f : α → Computation σ β} {s : σ} {e : PyError} :
    (x >>= f) s = .error e ↔
      x s = .error e ∨ ∃ a t, x s = .ok (a, t) ∧ f a t = .error e := by
  change (x s >>= fun p => f p.1 p.2) = .error e ↔ _
  rw [Outcome.bind_eq_error]
  exact or_congr_right Prod.exists

end Computation

/-- From a state with the invariant the computation leaves one with it, raises nothing but what
is allowed, and where the state left behind has a property, so had the one before, and the value
is as that property makes it. -/
structure Ensures {σ ι α : Type} (inv : σ → Prop) (has : ι → σ → Prop) (allowed : PyError → Prop)
    (x : Computation σ α) (post : ι → α → Prop) : Prop where
  ok : ∀ s a s', inv s → x s = .ok (a, s') →
    inv s' ∧ ∀ i, has i s' → has i s ∧ post i a
  error : ∀ s e, inv s → x s = .error e → allowed e

namespace Ensures

variable {σ ι α β : Type} {inv : σ → Prop} {has : ι → σ → Prop} {allowed : PyError → Prop}
  {x : Computation σ α} {post post' : ι → α → Prop} {a : α}

theorem weaken (h : Ensures inv has allowed x post) (hpost : ∀ i a, post i a → post' i a) :
    Ensures inv has allowed x post' where
  ok s a s' hs hx := by
    obtain ⟨hinv, hhas⟩ := h.ok s a s' hs hx
    exact ⟨hinv, fun i hi => ⟨(hhas i hi).1, hpost i a (hhas i hi).2⟩⟩
  error := h.error

protected theorem pure (h : ∀ i, post i a) : Ensures inv has allowed (pure a) post where
  ok s b s' hs hx := by
    cases hx
    exact ⟨hs, fun i hi => ⟨hi, h i⟩⟩
  error s e _ hx := by cases hx

/-- What the first step makes of its value, the rest may use. -/
protected theorem bind {f : α → Computation σ β} {post' : ι → β → Prop}
    (h : Ensures inv has allowed x post)
    (hf : ∀ a, Ensures inv has allowed (f a) fun i b => post i a → post' i b) :
    Ensures inv has allowed (x >>= f) post' where
  ok s b s' hs hx := by
    obtain ⟨a, t, hxs, hfa⟩ := Computation.bind_eq_ok.mp hx
    obtain ⟨ht, hhas⟩ := h.ok s a t hs hxs
    obtain ⟨hs', hhas'⟩ := (hf a).ok t b s' ht hfa
    refine ⟨hs', fun i hi => ?_⟩
    obtain ⟨hti, hb⟩ := hhas' i hi
    obtain ⟨hsi, ha⟩ := hhas i hti
    exact ⟨hsi, hb ha⟩
  error s e hs hx := by
    obtain hxs | ⟨a, t, hxs, hfa⟩ := Computation.bind_eq_error.mp hx
    · exact h.error s e hs hxs
    · exact (hf a).error t e (h.ok s a t hs hxs).1 hfa

theorem ofOutcome {o : Outcome α} (hok : ∀ a, o = .ok a → ∀ i, post i a)
    (herror : ∀ e, o = .error e → allowed e) :
    Ensures inv has allowed (Computation.ofOutcome o) post where
  ok s a s' hs hx := by
    obtain ⟨b, hb, hpair⟩ := Outcome.map_eq_ok.mp hx
    cases hpair
    exact ⟨hs, fun i hi => ⟨hi, hok a hb i⟩⟩
  error s e _ hx := by
    cases o with
    | ok a => cases hx
    | error e' =>
      cases hx
      exact herror e rfl

theorem update {f : σ → σ} {post : ι → Unit → Prop} (hinv : ∀ s, inv s → inv (f s))
    (hhas : ∀ i s, has i (f s) → has i s ∧ post i ()) :
    Ensures inv has allowed (Computation.update f) post where
  ok s a s' hs hx := by
    cases hx
    exact ⟨hinv s hs, fun i hi => hhas i s hi⟩
  error s e _ hx := by cases hx

/-- What a step makes of each value, a loop makes of all. -/
theorem collect {R : ι → α → β → Prop} {f : α → Computation σ β} {xs : List α}
    (h : ∀ a ∈ xs, Ensures inv has allowed (f a) fun i b => R i a b) :
    Ensures inv has allowed (Computation.collect f xs) fun i bs => List.Forall₂ (R i) xs bs := by
  induction xs with
  | nil => exact Ensures.pure fun i => List.Forall₂.nil
  | cons a xs ih =>
    refine Ensures.bind (h a List.mem_cons_self) fun b => ?_
    refine Ensures.bind (ih fun c hc => h c (List.mem_cons_of_mem a hc)) fun bs => ?_
    exact Ensures.pure fun i hbs hb => List.Forall₂.cons hb hbs

end Ensures

end Atreides
