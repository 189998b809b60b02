import Mathlib.Data.List.Nodup
import Atreides.Foundation.Outcome
import Atreides.Foundation.SortedSet

/-!
# Journals that rebuild a state

A machine answers a request with an entry and a new state, or raises, and the state keeps the
entries it was reached by. A journal is replayed by asking the machine again, entry by
entry: each entry has to stand at its place and to be what its request is answered with now.

## Main definitions

* `stepAll`, `answers` — where a list of requests leads, and what it is answered with
* `replay` — a journal asked again
* `Journaling` — the entries of a machine, their places and their comparison fit together

## Main results

* `Journaling.replay_eq_ok_iff` — exactly the journals of runs replay, to where the run led
* `insertionSort_ok_iff_of_perm` — a journal sorted by its places is one journal in any order
-/

namespace Atreides

section Replay

variable {σ ρ ε κ : Type}

/-! ## Runs -/

variable (step : σ → ρ → Outcome (σ × ε))

/-- The state after one request. A request that raises changes nothing. -/
def after (s : σ) (r : ρ) : σ :=
  match step s r with
  | .ok (s', _) => s'
  | .error _ => s

/-- Where the requests lead. -/
def stepAll (s : σ) (requests : List ρ) : σ := requests.foldl (after step) s

/-- What one request is answered with. One that raises has no answer. -/
def answer (s : σ) (r : ρ) : List ε :=
  match step s r with
  | .ok (_, e) => [e]
  | .error _ => []

/-- What the requests are answered with. -/
def answers : σ → List ρ → List ε
  | _, [] => []
  | s, r :: rest => answer step s r ++ answers (after step s r) rest

variable {step} {s s' : σ}

@[simp] theorem stepAll_nil : stepAll step s [] = s := rfl

@[simp] theorem stepAll_cons (r : ρ) (rest : List ρ) :
    stepAll step s (r :: rest) = stepAll step (after step s r) rest := rfl

theorem stepAll_concat (requests : List ρ) (r : ρ) :
    stepAll step s (requests ++ [r]) = after step (stepAll step s requests) r := by
  simp [stepAll]

theorem after_of_ok {r : ρ} {e : ε} (h : step s r = .ok (s', e)) : after step s r = s' := by
  rw [after, h]

theorem answer_of_ok {r : ρ} {e : ε} (h : step s r = .ok (s', e)) : answer step s r = [e] := by
  rw [answer, h]

/-- What an answered request keeps, any request keeps. -/
theorem after_preserves {I : σ → Prop}
    (hstep : ∀ s r s' e, I s → step s r = .ok (s', e) → I s') (hs : I s) (r : ρ) :
    I (after step s r) := by
  rw [after]
  split
  next s' e h => exact hstep s r s' e hs h
  next => exact hs

/-- What holds at the start and is kept by every answered request holds after a run. -/
theorem stepAll_preserves {I : σ → Prop}
    (hstep : ∀ s r s' e, I s → step s r = .ok (s', e) → I s') (hs : I s) (requests : List ρ) :
    I (stepAll step s requests) := by
  induction requests generalizing s with
  | nil => exact hs
  | cons r rest ih =>
    apply ih
    exact after_preserves hstep hs r

/-- Where every answered request appends what its answer shows, a run appends what its answers
show. -/
theorem trace_stepAll {log : σ → List κ} {shown : ε → List κ}
    (hlog : ∀ s r s' e, step s r = .ok (s', e) → log s' = log s ++ shown e)
    (requests : List ρ) :
    log (stepAll step s requests) = log s ++ (answers step s requests).flatMap shown := by
  induction requests generalizing s with
  | nil => simp [answers]
  | cons r rest ih =>
    have hone : log (after step s r) = log s ++ (answer step s r).flatMap shown := by
      rw [after, answer]
      split
      next s' e h => simp [hlog s r s' e h]
      next => simp
    rw [stepAll_cons, ih, hone, answers, List.flatMap_append, List.append_assoc]

/-- Where every answered request appends its answer, a run appends its answers. -/
theorem log_stepAll {log : σ → List ε}
    (hlog : ∀ s r s' e, step s r = .ok (s', e) → log s' = log s ++ [e]) (requests : List ρ) :
    log (stepAll step s requests) = log s ++ answers step s requests := by
  rw [trace_stepAll hlog, List.flatMap_singleton']

/-! ## Replaying -/

/-- Replay a journal from the position `n`: each entry is checked at its position, its request
is asked again, and the answer is compared with the entry. -/
def replay (check : ℕ → ε → Outcome Unit) (step : σ → ρ → Outcome (σ × ε)) (requestOf : ε → ρ)
    (compare : ε → ε → Outcome Unit) : ℕ → σ → List ε → Outcome σ
  | _, s, [] => .ok s
  | n, s, recorded :: rest => do
    check n recorded
    let (s', recomputed) ← step s (requestOf recorded)
    compare recomputed recorded
    replay check step requestOf compare (n + 1) s' rest

/-- The entries of a machine carry their requests, stand at their places, and are told apart.
`I` holds of the states the machine is in. -/
structure Journaling (I : σ → Prop) (log : σ → List ε) (check : ℕ → ε → Outcome Unit)
    (step : σ → ρ → Outcome (σ × ε)) (requestOf : ε → ρ) (compare : ε → ε → Outcome Unit) :
    Prop where
  keeps : ∀ s r s' e, I s → step s r = .ok (s', e) → I s'
  logs : ∀ s r s' e, step s r = .ok (s', e) → log s' = log s ++ [e]
  carries : ∀ s r s' e, step s r = .ok (s', e) → requestOf e = r
  placed : ∀ s r s' e, I s → step s r = .ok (s', e) → check (log s).length e = .ok ()
  recognised : ∀ s recorded s' e, step s (requestOf recorded) = .ok (s', e) →
    (compare e recorded = .ok () ↔ e = recorded)

variable {I : σ → Prop} {log : σ → List ε} {check : ℕ → ε → Outcome Unit} {requestOf : ε → ρ}
  {compare : ε → ε → Outcome Unit}

theorem replay_cons_eq_ok {n : ℕ} {recorded : ε} {rest : List ε} :
    replay check step requestOf compare n s (recorded :: rest) = .ok s' ↔
      check n recorded = .ok () ∧ ∃ t e, step s (requestOf recorded) = .ok (t, e) ∧
        compare e recorded = .ok () ∧
          replay check step requestOf compare (n + 1) t rest = .ok s' := by
  simp only [replay, Outcome.bind_eq_ok]
  constructor
  · rintro ⟨⟨⟩, hcheck, ⟨t, e⟩, hstep, ⟨⟩, hcompare, hrest⟩
    exact ⟨hcheck, t, e, hstep, hcompare, hrest⟩
  · rintro ⟨hcheck, t, e, hstep, hcompare, hrest⟩
    exact ⟨(), hcheck, (t, e), hstep, (), hcompare, hrest⟩

namespace Journaling

variable (h : Journaling I log check step requestOf compare)
include h

/-- A journal that replays was answered by a run, to the state the run led to. -/
theorem exists_run {entries : List ε} :
    ∀ {n : ℕ} {s : σ}, replay check step requestOf compare n s entries = .ok s' →
      ∃ requests, stepAll step s requests = s' ∧ answers step s requests = entries := by
  induction entries with
  | nil =>
    intro n s hreplay
    cases hreplay
    exact ⟨[], rfl, rfl⟩
  | cons recorded rest ih =>
    intro n s hreplay
    obtain ⟨-, t, e, hstep, hcompare, hrest⟩ := replay_cons_eq_ok.mp hreplay
    have hrecorded := (h.recognised s recorded t e hstep).mp hcompare
    obtain ⟨requests, hrun, hanswers⟩ := ih hrest
    -- the first request is the one the entry carries
    refine ⟨requestOf recorded :: requests, ?_, ?_⟩
    · rw [stepAll_cons, after_of_ok hstep, hrun]
    · rw [answers, after_of_ok hstep, answer_of_ok hstep, hanswers, hrecorded,
        List.singleton_append]

/-- The answers of a run replay. -/
theorem replay_answers (requests : List ρ) :
    ∀ {s : σ}, I s → replay check step requestOf compare (log s).length s
      (answers step s requests) = .ok (stepAll step s requests) := by
  induction requests with
  | nil => exact fun _ => rfl
  | cons r rest ih =>
    intro s hs
    rcases hstep : step s r with error | ⟨t, e⟩
    · -- a request that raised left no entry, and the state it was made in
      have hsame : after step s r = s := by rw [after, hstep]
      have hnone : answer step s r = [] := by rw [answer, hstep]
      rw [answers, stepAll_cons, hsame, hnone, List.nil_append]
      exact ih hs
    · have hasked : step s (requestOf e) = .ok (t, e) := by rw [h.carries s r t e hstep, hstep]
      have hlength : (log s).length + 1 = (log t).length := by simp [h.logs s r t e hstep]
      rw [answers, stepAll_cons, after_of_ok hstep, answer_of_ok hstep, List.singleton_append]
      apply replay_cons_eq_ok.mpr
      refine ⟨h.placed s r t e hs hstep, t, e, hasked, ?_, ?_⟩
      · exact (h.recognised s e t e hasked).mpr rfl
      · rw [hlength]
        exact ih (h.keeps s r t e hs hstep)

/-- Exactly the journals of runs replay, and to the state the run led to. -/
theorem replay_eq_ok_iff (hs : I s) (hempty : log s = []) {entries : List ε} :
    replay check step requestOf compare 0 s entries = .ok s' ↔
      ∃ requests, stepAll step s requests = s' ∧ log s' = entries := by
  have hlog : ∀ requests, log (stepAll step s requests) = answers step s requests := by
    intro requests
    rw [log_stepAll h.logs, hempty, List.nil_append]
  constructor
  · intro hreplay
    obtain ⟨requests, rfl, hanswers⟩ := h.exists_run hreplay
    exact ⟨requests, rfl, (hlog requests).trans hanswers⟩
  · rintro ⟨requests, rfl, rfl⟩
    have hreplay := h.replay_answers requests hs
    rw [hempty] at hreplay
    rw [hlog]
    exact hreplay

end Journaling

/-- Where each entry states its position, a journal that replays states them in order. -/
theorem positions_of_replay {position : ε → ℕ}
    (hposition : ∀ n e, check n e = .ok () → position e = n) {entries : List ε} :
    ∀ {n : ℕ} {s : σ}, replay check step requestOf compare n s entries = .ok s' →
      entries.map position = List.range' n entries.length := by
  induction entries with
  | nil => exact fun _ => rfl
  | cons recorded rest ih =>
    intro n s hreplay
    obtain ⟨hcheck, t, e, -, -, hrest⟩ := replay_cons_eq_ok.mp hreplay
    rw [List.map_cons, List.length_cons, List.range'_succ, hposition n recorded hcheck, ih hrest]

/-- What every failed check, request and comparison raises, a failed replay raises. -/
theorem replay_raises {P : PyError → Prop}
    (hcheck : ∀ n e error, check n e = .error error → P error)
    (hstep : ∀ s r error, step s r = .error error → P error)
    (hcompare : ∀ a b error, compare a b = .error error → P error) {entries : List ε} :
    ∀ {n : ℕ} {s : σ} {error : PyError},
      replay check step requestOf compare n s entries = .error error → P error := by
  induction entries with
  | nil =>
    intro n s error h
    cases h
  | cons recorded rest ih =>
    intro n s error h
    rw [replay, Outcome.bind_eq_error] at h
    rcases h with hplace | ⟨-, -, h⟩
    · exact hcheck _ _ _ hplace
    rcases Outcome.bind_eq_error.mp h with hasked | ⟨⟨t, e⟩, -, h⟩
    · exact hstep _ _ _ hasked
    rcases Outcome.bind_eq_error.mp h with hanswer | ⟨-, -, hrest⟩
    · exact hcompare _ _ _ hanswer
    · exact ih hrest

/-! ## Journals in any order -/

/-- What is computed from a sorted list, and only where the keys occur once, does not depend on
the order the list came in. -/
theorem insertionSort_ok_iff_of_perm {γ : Type} {key : κ → ℕ} {f : List κ → Outcome γ}
    (hkeys : ∀ zs result, f zs = .ok result → (zs.map key).Nodup) {xs ys : List κ}
    (h : xs.Perm ys) (result : γ) :
    f (xs.insertionSort (key · ≤ key ·)) = .ok result ↔
      f (ys.insertionSort (key · ≤ key ·)) = .ok result := by
  have hkeysOf : ∀ zs : List κ, f (zs.insertionSort (key · ≤ key ·)) = .ok result →
      (zs.map key).Nodup := by
    intro zs hzs
    have hperm := (List.perm_insertionSort (key · ≤ key ·) zs).map key
    exact hperm.nodup_iff.mp (hkeys _ _ hzs)
  constructor
  · intro hx
    rw [← insertionSort_eq_of_perm h (hkeysOf xs hx)]
    exact hx
  · intro hy
    rw [← insertionSort_eq_of_perm h.symm (hkeysOf ys hy)]
    exact hy

/-- Items that state their positions are sorted into the order of the positions. -/
theorem insertionSort_of_positions {key : κ → ℕ} {xs ys : List κ} (h : xs.Perm ys)
    (hpositions : ys.map key = List.range' 0 ys.length) :
    xs.insertionSort (key · ≤ key ·) = ys := by
  have hnodup : (ys.map key).Nodup := by
    rw [hpositions]
    exact List.nodup_range'
  have hordered : ys.Pairwise (key · ≤ key ·) := by
    apply List.pairwise_map.mp
    rw [hpositions]
    exact List.pairwise_le_range'
  rw [insertionSort_eq_of_perm h ((h.map key).nodup_iff.mpr hnodup)]
  exact List.Pairwise.insertionSort_eq hordered

end Replay

end Atreides
