import Mathlib.Data.List.Perm.Basic
import Atreides.Foundation.Dict

/-!
# Groups

The elements of a list by key, in a dictionary that remembers the order in which the keys first
appeared. Each group holds its elements in the order they came, and the groups together hold
every element of the list once.

## Main definitions

* `Dict.groupBy` — the elements of a list by key

## Main results

* `mem_keys_groupBy`, `getD_groupBy`, `mem_values_groupBy` — the keys and the groups
* `perm_groups`, `filter_groups` — groups put one after the other
-/

section Groups

variable {α κ : Type} [DecidableEq κ]

namespace Dict

/-- Put one element at the end of its group. -/
def push (groups : Dict κ (List α)) (k : κ) (x : α) : Dict κ (List α) :=
  groups.set k (groups.getD k [] ++ [x])

/-- The elements of a list by key. -/
def groupBy (key : α → κ) (xs : List α) : Dict κ (List α) :=
  xs.foldl (fun groups x => groups.push (key x) x) .empty

variable {key : α → κ}

theorem groupBy_concat (xs : List α) (x : α) :
    groupBy key (xs ++ [x]) = (groupBy key xs).push (key x) x := by
  simp [groupBy, List.foldl_append]

/-- The keys are those of the elements. -/
theorem mem_keys_groupBy {xs : List α} {k : κ} :
    k ∈ (groupBy key xs).keys ↔ ∃ x ∈ xs, key x = k := by
  induction xs using List.reverseRecOn with
  | nil => simp [groupBy]
  | append_singleton xs x ih =>
    rw [groupBy_concat, push, mem_keys_set, ih]
    constructor
    · rintro (rfl | ⟨y, hy, rfl⟩)
      · exact ⟨x, by simp, rfl⟩
      · exact ⟨y, by simp [hy], rfl⟩
    · rintro ⟨y, hy, rfl⟩
      rcases List.mem_append.mp hy with hy | hy
      · exact Or.inr ⟨y, hy, rfl⟩
      · rw [List.mem_singleton.mp hy]
        exact Or.inl rfl

/-- The group of a key holds its elements, in order. -/
theorem getD_groupBy (xs : List α) (k : κ) :
    (groupBy key xs).getD k [] = xs.filter fun x => key x = k := by
  induction xs using List.reverseRecOn with
  | nil => rfl
  | append_singleton xs x ih =>
    rw [groupBy_concat, push, getD, get?_set, List.filter_append]
    by_cases h : key x = k
    · subst h
      simp [ih]
    · rw [if_neg h, ← getD, ih]
      simp [h]

/-- The groups are those of the elements. -/
theorem mem_values_groupBy {xs group : List α} : group ∈ (groupBy key xs).values ↔
    ∃ x ∈ xs, group = xs.filter fun y => key y = key x := by
  rw [mem_values]
  constructor
  · intro h
    obtain ⟨k, hk⟩ := h
    have hmem : k ∈ (groupBy key xs).keys := by
      rw [← get?_isSome_iff, hk]
      rfl
    obtain ⟨x, hx, rfl⟩ := mem_keys_groupBy.mp hmem
    have hgroup := @getD_groupBy _ _ _ key xs (key x)
    rw [getD, hk] at hgroup
    exact ⟨x, hx, hgroup⟩
  · intro h
    obtain ⟨x, hx, rfl⟩ := h
    have hmem : key x ∈ (groupBy key xs).keys := mem_keys_groupBy.mpr ⟨x, hx, rfl⟩
    obtain ⟨group, hgroup⟩ := Option.isSome_iff_exists.mp (get?_isSome_iff.mpr hmem)
    have hsame := @getD_groupBy _ _ _ key xs (key x)
    rw [getD, hgroup] at hsame
    refine ⟨key x, ?_⟩
    rw [hgroup]
    exact congrArg some hsame

end Dict

variable {key : α → κ} {g : κ → List α}

/-- Orders of the groups under each key, one after the other, are an order of the whole. -/
theorem perm_groups :
    ∀ {ks : List κ} {xs : List α}, ks.Nodup → (∀ x ∈ xs, key x ∈ ks) →
      (∀ k ∈ ks, (g k).Perm (xs.filter fun x => key x = k)) → (ks.flatMap g).Perm xs := by
  intro ks
  induction ks with
  | nil =>
    intro xs _ hkeys _
    rw [List.eq_nil_iff_forall_not_mem.mpr fun x hx => List.not_mem_nil (hkeys x hx)]
    exact List.Perm.refl _
  | cons k ks ih =>
    intro xs hnodup hkeys hg
    obtain ⟨hk, hks⟩ := List.nodup_cons.mp hnodup
    have hrest : (ks.flatMap g).Perm (xs.filter fun x => !decide (key x = k)) := by
      refine ih hks (fun x hx => ?_) fun k' hk' => ?_
      · obtain ⟨hmem, hne⟩ := List.mem_filter.mp hx
        exact (List.mem_cons.mp (hkeys x hmem)).resolve_left (by simpa using hne)
      · rw [List.filter_filter]
        refine (hg k' (List.mem_cons_of_mem k hk')).trans (List.Perm.of_eq ?_)
        refine List.filter_congr fun x _ => ?_
        by_cases hx : key x = k'
        · have : k' ≠ k := fun heq => hk (heq ▸ hk')
          simp [hx, this]
        · simp [hx]
    rw [List.flatMap_cons]
    exact ((hg k List.mem_cons_self).append hrest).trans (List.filter_append_perm _ xs)

/-- The part under one key of groups put one after the other. -/
theorem filter_groups {k : κ} (hg : ∀ k', ∀ x ∈ g k', key x = k') :
    ∀ {ks : List κ}, ks.Nodup →
      ((ks.flatMap g).filter fun x => key x = k) = if k ∈ ks then g k else [] := by
  intro ks
  induction ks with
  | nil => simp
  | cons k' ks ih =>
    intro hnodup
    obtain ⟨hk', hks⟩ := List.nodup_cons.mp hnodup
    rw [List.flatMap_cons, List.filter_append, ih hks]
    by_cases hkk : k' = k
    · subst hkk
      have hall : ((g k').filter fun x => key x = k') = g k' := by
        rw [List.filter_eq_self]
        intro x hx
        simpa using hg k' x hx
      simp [hall, hk']
    · have hnone : ((g k').filter fun x => key x = k) = [] := by
        rw [List.filter_eq_nil_iff]
        intro x hx
        simpa [hg k' x hx] using hkk
      simp [hnone, Ne.symm hkk]

end Groups
