import Atreides.Foundation.Outcome

/-!
# Calls with effects

A call of an object with a state reads the state, changes it, and returns or raises. An
exception that escapes leaves the state as the call had it by then. A call is transactional
where that is the state it started from: it is enough that the call only reads before the
step that can both change the state and raise, and cannot raise after it.

## Main definitions

* `Effect` — a call on a state
* `Effect.ReadOnly`, `Effect.Transactional`, `Effect.NeverRaises` — what a call can do
* `Effect.ofOutcome`, `Effect.ofStep`, `Effect.refuseIf`, `Effect.within` — a computation, a step,
  a guard, and a call on a part of the state
* `Effect.leaves`, `Effect.leavesAll` — the state a call leaves, and a list of calls

## Main results

* `bind_eq_ok` — what a sequence of calls that returned did
* `Transactional.of_readOnly_bind`, `Transactional.bind` — the order of effects that makes a
  sequence transactional
-/

/-- A call on a state. -/
abbrev Effect (σ α : Type) := EStateM PyError σ α

namespace Effect

variable {σ τ α β : Type}

/-- A computation that does not touch the state. -/
def ofOutcome (x : Outcome α) : Effect σ α := fun s =>
  match x with
  | .ok a => .ok a s
  | .error e => .error e s

/-- A call on a part of the state. -/
def within (part : σ → τ) (put : τ → σ → σ) (x : Effect τ α) : Effect σ α := fun s =>
  match x (part s) with
  | .ok a t => .ok a (put t s)
  | .error e t => .error e (put t s)

/-- A call given by where it leads. Where that raises, the state is the one it was. -/
def ofStep (step : σ → Outcome (σ × α)) : Effect σ α := fun s =>
  match step s with
  | .ok (s', a) => .ok a s'
  | .error e => .error e s

/-- Raise where the call may not go on. -/
def refuseIf (p : Prop) [Decidable p] (e : PyError) : Effect σ Unit :=
  if p then throw e else pure ()

/-! ## Results -/

theorem bind_of_ok {x : Effect σ α} {s t : σ} {a : α} (f : α → Effect σ β)
    (h : x s = .ok a t) : (x >>= f) s = f a t := by
  simp only [bind, EStateM.bind, h]

theorem bind_of_error {x : Effect σ α} {s t : σ} {e : PyError} (f : α → Effect σ β)
    (h : x s = .error e t) : (x >>= f) s = .error e t := by
  simp only [bind, EStateM.bind, h]

/-- A sequence returns exactly when its steps do, one from the state the other left. -/
theorem bind_eq_ok {x : Effect σ α} {f : α → Effect σ β} {s s' : σ} {b : β} :
    (x >>= f) s = .ok b s' ↔ ∃ a t, x s = .ok a t ∧ f a t = .ok b s' := by
  rcases h : x s with ⟨a, t⟩ | ⟨e', t⟩
  · simp [bind_of_ok f h]
  · simp [bind_of_error f h]

/-- A sequence raises where its first step does, or its second from the state left to it. -/
theorem bind_eq_error {x : Effect σ α} {f : α → Effect σ β} {s s' : σ} {e : PyError} :
    (x >>= f) s = .error e s' ↔
      x s = .error e s' ∨ ∃ a t, x s = .ok a t ∧ f a t = .error e s' := by
  rcases h : x s with ⟨a, t⟩ | ⟨e', t⟩
  · simp [bind_of_ok f h]
  · simp [bind_of_error f h]

@[simp] theorem pure_eq_ok {a b : α} {s s' : σ} :
    (pure a : Effect σ α) s = .ok b s' ↔ a = b ∧ s = s' := by
  change EStateM.Result.ok a s = _ ↔ _
  simp

@[simp] theorem throw_ne_ok {e : PyError} {b : α} {s s' : σ} :
    (throw e : Effect σ α) s ≠ .ok b s' := by
  change EStateM.Result.error e s ≠ _
  exact nofun

@[simp] theorem get_eq_ok {a s s' : σ} :
    (get : Effect σ σ) s = .ok a s' ↔ s = a ∧ s = s' := by
  change EStateM.Result.ok s s = _ ↔ _
  simp

@[simp] theorem modify_eq_ok {f : σ → σ} {u : PUnit} {s s' : σ} :
    (modify f : Effect σ PUnit) s = .ok u s' ↔ f s = s' := by
  change EStateM.Result.ok PUnit.unit (f s) = _ ↔ _
  simp

@[simp] theorem ofOutcome_eq_ok {x : Outcome α} {a : α} {s s' : σ} :
    (ofOutcome x : Effect σ α) s = .ok a s' ↔ x = .ok a ∧ s = s' := by
  rcases x with e | b
  · simp [ofOutcome]
  · simp [ofOutcome]

@[simp] theorem refuseIf_eq_ok {p : Prop} [Decidable p] {e : PyError} {u : Unit} {s s' : σ} :
    (refuseIf p e : Effect σ Unit) s = .ok u s' ↔ ¬ p ∧ s = s' := by
  rw [refuseIf]
  by_cases h : p
  · simp [h]
  · simp [h]

theorem ofStep_eq_ok {step : σ → Outcome (σ × α)} {a : α} {s s' : σ} :
    ofStep step s = .ok a s' ↔ step s = .ok (s', a) := by
  rw [ofStep]
  rcases step s with e | ⟨t, b⟩
  · simp
  · simp [and_comm]

theorem within_eq_ok {part : σ → τ} {put : τ → σ → σ} {x : Effect τ α} {a : α} {s s' : σ} :
    within part put x s = .ok a s' ↔ ∃ t, x (part s) = .ok a t ∧ put t s = s' := by
  rw [within]
  rcases x (part s) with ⟨b, t⟩ | ⟨e, t⟩
  · simp [and_assoc]
  · simp

/-! ## What a call leaves -/

/-- The state a call leaves, whether it returns or raises. -/
def leaves (x : Effect σ α) (s : σ) : σ :=
  match x s with
  | .ok _ s' => s'
  | .error _ s' => s'

@[simp] theorem leaves_pure (a : α) (s : σ) : (pure a : Effect σ α).leaves s = s := rfl

@[simp] theorem leaves_throw (e : PyError) (s : σ) : (throw e : Effect σ α).leaves s = s := rfl

@[simp] theorem leaves_modify (f : σ → σ) (s : σ) : (modify f : Effect σ PUnit).leaves s = f s :=
  rfl

theorem get_bind (f : σ → Effect σ β) (s : σ) : ((get : Effect σ σ) >>= f) s = f s s := rfl

theorem leaves_get_bind (f : σ → Effect σ β) (s : σ) :
    ((get : Effect σ σ) >>= f).leaves s = (f s).leaves s := rfl

theorem leaves_bind_of_ok {x : Effect σ α} {s t : σ} {a : α} (f : α → Effect σ β)
    (h : x s = .ok a t) : (x >>= f).leaves s = (f a).leaves t := by
  rw [leaves, bind_of_ok f h]
  rfl

theorem leaves_bind_of_error {x : Effect σ α} {s t : σ} {e : PyError} (f : α → Effect σ β)
    (h : x s = .error e t) : (x >>= f).leaves s = t := by
  rw [leaves, bind_of_error f h]

theorem leaves_of_ok {x : Effect σ α} {s s' : σ} {a : α} (h : x s = .ok a s') :
    x.leaves s = s' := by
  rw [leaves, h]

/-- The state a list of calls leaves, one after the other. -/
def leavesAll {ρ : Type} (call : ρ → Effect σ α) (s : σ) (requests : List ρ) : σ :=
  requests.foldl (fun s r => (call r).leaves s) s

section LeavesAll

variable {ρ : Type} {call : ρ → Effect σ α}

@[simp] theorem leavesAll_nil (s : σ) : leavesAll call s [] = s := rfl

theorem leavesAll_append (s : σ) (before rest : List ρ) :
    leavesAll call s (before ++ rest) = leavesAll call (leavesAll call s before) rest :=
  List.foldl_append

theorem leavesAll_concat (s : σ) (before : List ρ) (r : ρ) :
    leavesAll call s (before ++ [r]) = (call r).leaves (leavesAll call s before) := by
  rw [leavesAll_append]
  rfl

/-- What every call keeps, a list of calls keeps. -/
theorem leavesAll_preserves {I : σ → Prop} (hstep : ∀ s r, I s → I ((call r).leaves s)) {s : σ}
    (hs : I s) (requests : List ρ) : I (leavesAll call s requests) := by
  induction requests generalizing s with
  | nil => exact hs
  | cons r rest ih => exact ih (hstep s r hs)

/-- A relation that each call bears to the state it leaves, a list of calls bears. -/
theorem leavesAll_rel {R : σ → σ → Prop} (hrefl : ∀ s, R s s)
    (htrans : ∀ s t u, R s t → R t u → R s u) (hstep : ∀ s r, R s ((call r).leaves s)) (s : σ)
    (requests : List ρ) : R s (leavesAll call s requests) := by
  induction requests generalizing s with
  | nil => exact hrefl s
  | cons r rest ih => exact htrans _ _ _ (hstep s r) (ih _)

end LeavesAll

/-! ## Calls that only read -/

/-- The call leaves the state as it found it. -/
def ReadOnly (x : Effect σ α) : Prop := ∀ s,
  (∀ a s', x s = .ok a s' → s' = s) ∧ ∀ e s', x s = .error e s' → s' = s

/-- The call leaves the state as it found it where it raises. -/
def Transactional (x : Effect σ α) : Prop := ∀ s e s', x s = .error e s' → s' = s

/-- The call returns. -/
def NeverRaises (x : Effect σ α) : Prop := ∀ s e s', x s ≠ .error e s'

namespace ReadOnly

theorem of_pure (a : α) : ReadOnly (pure a : Effect σ α) := by
  intro s
  refine ⟨?_, ?_⟩
  · rintro b s' h
    cases h
    rfl
  · rintro e s' h
    cases h

theorem of_throw (e : PyError) : ReadOnly (throw e : Effect σ α) := by
  intro s
  refine ⟨?_, ?_⟩
  · rintro b s' h
    cases h
  · rintro e' s' h
    cases h
    rfl

theorem of_get : ReadOnly (get : Effect σ σ) := by
  intro s
  refine ⟨?_, ?_⟩
  · rintro b s' h
    cases h
    rfl
  · rintro e s' h
    cases h

theorem of_outcome (x : Outcome α) : ReadOnly (ofOutcome x : Effect σ α) := by
  intro s
  rcases x with e | a
  · refine ⟨nofun, ?_⟩
    rintro e' s' h
    cases h
    rfl
  · refine ⟨?_, nofun⟩
    rintro b s' h
    cases h
    rfl

theorem bind {x : Effect σ α} {f : α → Effect σ β} (hx : ReadOnly x)
    (hf : ∀ a, ReadOnly (f a)) : ReadOnly (x >>= f) := by
  intro s
  refine ⟨?_, ?_⟩
  · intro b s' h
    obtain ⟨a, t, hfirst, hsecond⟩ := bind_eq_ok.mp h
    rw [((hf a) t).1 b s' hsecond, (hx s).1 a t hfirst]
  · intro e s' h
    rcases bind_eq_error.mp h with hfirst | ⟨a, t, hfirst, hsecond⟩
    · exact (hx s).2 e s' hfirst
    · rw [((hf a) t).2 e s' hsecond, (hx s).1 a t hfirst]

theorem ite {p : Prop} [Decidable p] {x y : Effect σ α} (hx : ReadOnly x) (hy : ReadOnly y) :
    ReadOnly (if p then x else y) := by
  split_ifs
  · exact hx
  · exact hy

theorem refuseIf (p : Prop) [Decidable p] (e : PyError) :
    ReadOnly (Effect.refuseIf p e : Effect σ Unit) := ite (of_throw e) (of_pure ())

theorem leaves_eq {x : Effect σ α} (hx : ReadOnly x) (s : σ) : x.leaves s = s := by
  rw [leaves]
  rcases h : x s with ⟨a, s'⟩ | ⟨e, s'⟩
  · exact (hx s).1 a s' h
  · exact (hx s).2 e s' h

/-- What only reads may come after a call. -/
theorem leaves_bind {x : Effect σ α} {f : α → Effect σ β} (hf : ∀ a, ReadOnly (f a)) (s : σ) :
    (x >>= f).leaves s = x.leaves s := by
  rcases h : x s with ⟨a, t⟩ | ⟨e, t⟩
  · rw [leaves_bind_of_ok f h, (hf a).leaves_eq, leaves, h]
  · rw [leaves_bind_of_error f h, leaves, h]

end ReadOnly

/-! ## Transactional calls -/

theorem neverRaises_pure (a : α) : NeverRaises (pure a : Effect σ α) := by
  intro s e s' h
  cases h

theorem neverRaises_modify (f : σ → σ) : NeverRaises (modify f : Effect σ PUnit) := by
  intro s e s' h
  cases h

theorem NeverRaises.bind {x : Effect σ α} {f : α → Effect σ β} (hx : NeverRaises x)
    (hf : ∀ a, NeverRaises (f a)) : NeverRaises (x >>= f) := by
  intro s e s' h
  rcases bind_eq_error.mp h with hfirst | ⟨a, t, -, hsecond⟩
  · exact hx s e s' hfirst
  · exact hf a t e s' hsecond

theorem NeverRaises.transactional {x : Effect σ α} (h : NeverRaises x) : Transactional x :=
  fun s e s' hraised => absurd hraised (h s e s')

theorem ReadOnly.transactional {x : Effect σ α} (h : ReadOnly x) : Transactional x :=
  fun s => (h s).2

namespace Transactional

theorem of_step (step : σ → Outcome (σ × α)) : Transactional (ofStep step) := by
  intro s e s' h
  rw [ofStep] at h
  rcases hstep : step s with e' | ⟨t, a⟩
  · rw [hstep] at h
    cases h
    rfl
  · rw [hstep] at h
    cases h

/-- What only reads may come before a transactional call. -/
theorem of_readOnly_bind {x : Effect σ α} {f : α → Effect σ β} (hx : ReadOnly x)
    (hf : ∀ a, Transactional (f a)) : Transactional (x >>= f) := by
  intro s e s' h
  rcases bind_eq_error.mp h with hfirst | ⟨a, t, hfirst, hsecond⟩
  · exact (hx s).2 e s' hfirst
  · rw [hf a t e s' hsecond, (hx s).1 a t hfirst]

/-- What never raises may come after a transactional call. -/
theorem bind {x : Effect σ α} {f : α → Effect σ β} (hx : Transactional x)
    (hf : ∀ a, NeverRaises (f a)) : Transactional (x >>= f) := by
  intro s e s' h
  rcases bind_eq_error.mp h with hfirst | ⟨a, t, -, hsecond⟩
  · exact hx s e s' hfirst
  · exact absurd hsecond (hf a t e s')

/-- A call on a part of the state, which is put back as it was found. -/
theorem within {part : σ → τ} {put : τ → σ → σ} {x : Effect τ α} (hx : Transactional x)
    (hput : ∀ s, put (part s) s = s) : Transactional (Effect.within part put x) := by
  intro s e s' h
  rw [Effect.within] at h
  rcases hresult : x (part s) with ⟨a, t⟩ | ⟨e', t⟩
  · rw [hresult] at h
    cases h
  · rw [hresult] at h
    cases h
    rw [hx _ _ _ hresult, hput]

/-- A transactional call returned, or left the state as it was. -/
theorem leaves_cases {x : Effect σ α} (hx : Transactional x) (s : σ) :
    (∃ a, x s = .ok a (x.leaves s)) ∨ (∃ e, x s = .error e s) ∧ x.leaves s = s := by
  rcases h : x s with ⟨a, t⟩ | ⟨e, t⟩
  · left
    exact ⟨a, by rw [leaves_of_ok h]⟩
  · right
    obtain rfl := hx s e t h
    refine ⟨⟨e, rfl⟩, ?_⟩
    rw [leaves, h]

end Transactional

end Effect
