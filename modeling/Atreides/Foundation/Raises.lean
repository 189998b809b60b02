import Atreides.Foundation.Outcome

/-!
# The exceptions a call may raise

A call raises nothing but some exceptions where its steps do, and so does a loop where each of its
steps does, from whatever it has come to.

## Main definitions

* `Outcome.RaisesOnly` — nothing but the allowed exceptions escapes

## Main results

* `RaisesOnly.bind`, `RaisesOnly.foldSteps`, `RaisesOnly.collect` — sequences and loops
-/

namespace Outcome

variable {α β σ : Type} {allowed : PyError → Prop}

/-- Nothing but the allowed exceptions escapes. -/
def RaisesOnly (allowed : PyError → Prop) (x : Outcome α) : Prop :=
  ∀ e, x = .error e → allowed e

namespace RaisesOnly

variable {x : Outcome α} {f : α → Outcome β}

protected theorem ok (a : α) : RaisesOnly allowed (.ok a : Outcome α) := by
  intro e h
  cases h

protected theorem error {e : PyError} (h : allowed e) :
    RaisesOnly allowed (.error e : Outcome α) := by
  intro e' h'
  cases h'
  exact h

theorem mono {allowed' : PyError → Prop} (h : RaisesOnly allowed x)
    (hle : ∀ e, allowed e → allowed' e) : RaisesOnly allowed' x :=
  fun e he => hle e (h e he)

/-- The second call is made only with what the first returned. -/
protected theorem bind (h : RaisesOnly allowed x) (hf : ∀ a, x = .ok a → RaisesOnly allowed (f a)) :
    RaisesOnly allowed (x >>= f) := by
  intro e he
  rcases bind_eq_error.mp he with hx | ⟨a, ha, hfa⟩
  · exact h e hx
  · exact hf a ha e hfa

protected theorem map {g : α → β} (h : RaisesOnly allowed x) : RaisesOnly allowed (g <$> x) := by
  intro e he
  cases x with
  | ok a => cases he
  | error e' =>
    cases he
    exact h e rfl

theorem of_map {g : α → β} (h : RaisesOnly allowed (g <$> x)) : RaisesOnly allowed x := by
  intro e he
  apply h e
  rw [he]
  rfl

protected theorem refuseIf {p : Prop} [Decidable p] {e : PyError} (h : p → allowed e) :
    RaisesOnly allowed (refuseIf p e) := by
  intro e' he
  obtain ⟨hp, rfl⟩ := refuseIf_eq_error.mp he
  exact h hp

/-- A loop raises what one of its steps does. -/
protected theorem foldSteps {step : σ → α → Outcome σ} {xs : List α}
    (h : ∀ s, ∀ a ∈ xs, RaisesOnly allowed (step s a)) (s : σ) :
    RaisesOnly allowed (foldSteps step s xs) := by
  induction xs generalizing s with
  | nil => exact RaisesOnly.ok s
  | cons a xs ih =>
    rw [foldSteps_cons]
    apply RaisesOnly.bind (h s a List.mem_cons_self)
    intro s' _
    exact ih (fun t b hb => h t b (List.mem_cons_of_mem a hb)) s'

protected theorem collect {f : α → Outcome β} {xs : List α}
    (h : ∀ a ∈ xs, RaisesOnly allowed (f a)) : RaisesOnly allowed (collect f xs) := by
  induction xs with
  | nil => exact RaisesOnly.ok []
  | cons a xs ih =>
    apply RaisesOnly.bind (h a List.mem_cons_self)
    intro b _
    apply RaisesOnly.bind (ih fun c hc => h c (List.mem_cons_of_mem a hc))
    intro bs _
    exact RaisesOnly.ok (b :: bs)

end RaisesOnly

end Outcome
