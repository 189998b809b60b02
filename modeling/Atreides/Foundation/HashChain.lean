import Atreides.Foundation.AppendLog

/-!
# Hash chains

Each item of a log names the digest of the item before it. A digest at the end of one chain that
occurs in another pins everything before it: the first chain is the beginning of the second, unless
two different items, one of each chain, have one digest.

## Main definitions

* `Chained` — every item names the digest of the item before it
* `Collide` — two different items, one of each log, with one digest

## Main results

* `Chained.eq_or_collide` — chains that end in one digest are one chain
* `Chained.prefix_or_collide` — a chain is pinned by the digest at its end
-/

namespace Atreides

variable {γ δ : Type} (digest : γ → δ) (prior : γ → Option δ)

/-- Every item names the digest of the item before it, and the first names none. -/
def Chained (log : List γ) : Prop :=
  Linked (fun before item => prior item = before.getLast?.map digest) log

/-- Two different items, one of each log, have one digest. -/
def Collide (xs ys : List γ) : Prop := ∃ x ∈ xs, ∃ y ∈ ys, x ≠ y ∧ digest x = digest y

section Chained

variable {digest prior} {xs ys : List γ} {x y : γ}

theorem chained_nil : Chained digest prior [] := linked_nil

theorem chained_concat : Chained digest prior (xs ++ [x]) ↔
    Chained digest prior xs ∧ prior x = xs.getLast?.map digest := linked_concat

/-- The beginning of a chain is a chain. -/
theorem Chained.of_prefix (hbegins : xs <+: ys) (h : Chained digest prior ys) :
    Chained digest prior xs := by
  obtain ⟨rest, rfl⟩ := hbegins
  intro before item later hsplit
  apply h before item (later ++ rest)
  rw [hsplit, List.append_assoc, List.cons_append]

theorem Collide.mono {xs' ys' : List γ} (hxs : xs ⊆ xs') (hys : ys ⊆ ys')
    (h : Collide digest xs ys) : Collide digest xs' ys' := by
  obtain ⟨x, hx, y, hy, hne, hdigest⟩ := h
  exact ⟨x, hxs hx, y, hys hy, hne, hdigest⟩

/-- Chains that end in one digest are one chain, unless an item of one collides with an item of
the other. -/
theorem Chained.eq_or_collide (hxs : Chained digest prior xs) (hys : Chained digest prior ys)
    (hend : xs.getLast?.map digest = ys.getLast?.map digest) :
    xs = ys ∨ Collide digest xs ys := by
  induction xs using List.reverseRecOn generalizing ys with
  | nil =>
    left
    rcases List.eq_nil_or_concat ys with rfl | ⟨ys, y, rfl⟩
    · rfl
    · simp at hend
  | append_singleton xs x ih =>
    rcases List.eq_nil_or_concat ys with rfl | ⟨ys, y, rfl⟩
    · simp at hend
    rw [List.concat_eq_append] at hys hend ⊢
    obtain ⟨hxsBefore, hx⟩ := chained_concat.mp hxs
    obtain ⟨hysBefore, hy⟩ := chained_concat.mp hys
    have hdigest : digest x = digest y := by simpa using hend
    by_cases hxy : x = y
    · -- the same last item names the same digest before it
      subst hxy
      have hbefore : xs.getLast?.map digest = ys.getLast?.map digest := hx.symm.trans hy
      rcases ih hxsBefore hysBefore hbefore with rfl | hcollide
      · exact Or.inl rfl
      · exact Or.inr (hcollide.mono (List.subset_append_left _ _) (List.subset_append_left _ _))
    · exact Or.inr ⟨x, by simp, y, by simp, hxy, hdigest⟩

/-- Where the digest at the end of one chain occurs in another, the first is the beginning of the
second, unless an item of one collides with an item of the other. -/
theorem Chained.prefix_or_collide (hxs : Chained digest prior xs) (hys : Chained digest prior ys)
    (hy : y ∈ ys) (hend : xs.getLast?.map digest = some (digest y)) :
    xs <+: ys ∨ Collide digest xs ys := by
  obtain ⟨before, after, rfl⟩ := List.append_of_mem hy
  have hbegins : before ++ [y] <+: before ++ y :: after := ⟨after, by simp⟩
  have hpinned : xs.getLast?.map digest = (before ++ [y]).getLast?.map digest := by
    rw [hend, List.getLast?_concat]
    rfl
  rcases hxs.eq_or_collide (hys.of_prefix hbegins) hpinned with rfl | hcollide
  · exact Or.inl hbegins
  · exact Or.inr (hcollide.mono (List.Subset.refl _) hbegins.subset)

end Chained

end Atreides
