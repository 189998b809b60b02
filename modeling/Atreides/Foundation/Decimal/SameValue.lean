import Atreides.Foundation.Decimal.Exact

/-!
# Decimals of the same value

Two decimals are found equal where they are one number or one infinity. A NaN is not equal to
itself; apart from that, being equal is an equivalence.

## Main results

* `Decimal.Same.symm`, `Decimal.Same.trans` — having the same value goes both ways and passes along
* `pairwise_concat_iff` — a list grows related by looking at its last item only
-/

namespace Decimal

/-- Two decimals are found equal. -/
def Same (a b : Decimal) : Prop := a.eq b = .ok true

instance (a b : Decimal) : Decidable (Same a b) := inferInstanceAs (Decidable (_ = _))

theorem same_finite {a b : FiniteDecimal} : Same (finite a) (finite b) ↔ a.value = b.value := by
  rw [← FiniteDecimal.eq_iff]
  exact ⟨Except.ok.inj, congrArg _⟩

theorem same_infinite {a b : Bool} : Same (infinite a) (infinite b) ↔ a = b := by
  rw [← beq_iff_eq]
  exact ⟨Except.ok.inj, congrArg _⟩

/-- What is the same as something is finite as it is, or infinite as it is. -/
theorem Same.cases {a b : Decimal} (h : Same a b) :
    (∃ x y : FiniteDecimal, a = finite x ∧ b = finite y ∧ x.value = y.value) ∨
      ∃ negative, a = infinite negative ∧ b = infinite negative := by
  cases a with
  | finite x =>
    cases b with
    | finite y => exact Or.inl ⟨x, y, rfl, rfl, same_finite.mp h⟩
    | infinite _ => cases h
    | nan _ signaling _ => cases signaling <;> cases h
  | infinite x =>
    cases b with
    | finite _ => cases h
    | infinite y =>
      obtain rfl := same_infinite.mp h
      exact Or.inr ⟨x, rfl, rfl⟩
    | nan _ signaling _ => cases signaling <;> cases h
  | nan _ signaling _ =>
    cases signaling
    · rcases b with _ | _ | ⟨_, _ | _, _⟩ <;> cases h
    · cases h

theorem Same.symm {a b : Decimal} (h : Same a b) : Same b a := by
  obtain ⟨x, y, rfl, rfl, hvalue⟩ | ⟨negative, rfl, rfl⟩ := h.cases
  · exact same_finite.mpr hvalue.symm
  · exact h

theorem Same.trans {a b c : Decimal} (h : Same a b) (h' : Same b c) : Same a c := by
  obtain ⟨x, y, rfl, rfl, hvalue⟩ | ⟨negative, rfl, rfl⟩ := h.cases
  · obtain ⟨y', z, hy, rfl, hvalue'⟩ | ⟨negative, hy, -⟩ := h'.cases
    · cases hy
      exact same_finite.mpr (hvalue.trans hvalue')
    · cases hy
  · exact h'

end Decimal

/-! ## Lists of one value -/

/-- In a list whose neighbours are related, one more item keeps the list related just where it is
related to the last. -/
theorem pairwise_concat_iff {α : Type} {R : α → α → Prop}
    (htrans : ∀ a b c, R a b → R b c → R a c) {xs : List α} {x : α} :
    (xs ++ [x]).Pairwise R ↔ xs.Pairwise R ∧ ∀ last, xs.getLast? = some last → R last x := by
  rw [List.pairwise_append]
  constructor
  · rintro ⟨hxs, -, hx⟩
    exact ⟨hxs, fun last hlast => hx last (List.mem_of_getLast? hlast) x List.mem_cons_self⟩
  · rintro ⟨hxs, hx⟩
    refine ⟨hxs, List.pairwise_singleton R x, ?_⟩
    intro a ha b hb
    obtain rfl := List.mem_singleton.mp hb
    induction xs using List.reverseRecOn with
    | nil => cases ha
    | append_singleton front last _ =>
      have hlast : R last b := hx last List.getLast?_concat
      obtain hfront | hend := List.mem_append.mp ha
      · exact htrans a last b ((List.pairwise_append.mp hxs).2.2 a hfront last List.mem_cons_self) hlast
      · rw [List.mem_singleton.mp hend]
        exact hlast
