import Mathlib.Data.List.Dedup
import Mathlib.Data.List.Sort

/-!
# Sorted lists and sets

A list in order, with or without its repetitions. Sorted as a list, what it is does not depend
on the order its items came in; sorted as a set, it depends only on which items occur.

## Main results

* `insertionSort_eq_of_perm` — under a key that occurs once, sorting forgets the order
* `filter_insertionSort` — sorting keeps the order of what a filter keeps
* `insertionSort_order_free_iff` — sorting forgets the order exactly where the key tells the items
  apart
* `sorted_congr` — lists of the same items, as often, are one list when sorted
* `mem_sortedSet`, `sortedSet_nodup`, `sortedSet_pairwise` — the items, once each, in order
* `sortedSet_congr` — lists with the same items have one sorted set
-/

namespace Atreides

variable {α : Type} [LinearOrder α] {xs ys : List α} {a : α}

/-- The items of a list in order. -/
def sorted (xs : List α) : List α := xs.insertionSort (· ≤ ·)

theorem sorted_perm (xs : List α) : (sorted xs).Perm xs := List.perm_insertionSort _ _

@[simp] theorem mem_sorted : a ∈ sorted xs ↔ a ∈ xs := (sorted_perm xs).mem_iff

/-- Lists of the same items, as often, are one list when sorted. -/
theorem sorted_congr (h : xs.Perm ys) : sorted xs = sorted ys := by
  have hperm : (sorted xs).Perm (sorted ys) :=
    (sorted_perm xs).trans (h.trans (sorted_perm ys).symm)
  apply List.Perm.eq_of_pairwise ?_ (List.pairwise_insertionSort _ _)
    (List.pairwise_insertionSort _ _) hperm
  intro a b _ _ hab hba
  exact le_antisymm hab hba

/-- Under a key that occurs once, sorting forgets the order the list came in. -/
theorem insertionSort_eq_of_perm {β : Type} {key : β → α} {xs ys : List β} (h : xs.Perm ys)
    (hkeys : (xs.map key).Nodup) :
    xs.insertionSort (key · ≤ key ·) = ys.insertionSort (key · ≤ key ·) := by
  have htrans : IsTrans β (key · ≤ key ·) := ⟨fun _ _ _ => le_trans⟩
  have htotal : Std.Total (fun a b : β => key a ≤ key b) := ⟨fun a b => le_total (key a) (key b)⟩
  have hsorted : (xs.insertionSort (key · ≤ key ·)).Perm (ys.insertionSort (key · ≤ key ·)) :=
    (List.perm_insertionSort _ xs).trans (h.trans (List.perm_insertionSort _ ys).symm)
  apply List.Perm.eq_of_pairwise ?_ (List.pairwise_insertionSort _ xs)
    (List.pairwise_insertionSort _ ys) hsorted
  -- two items of one list with the same key are one item
  intro a b ha hb hab hba
  apply List.inj_on_of_nodup_map hkeys
  · exact (List.perm_insertionSort _ xs).subset ha
  · exact h.symm.subset ((List.perm_insertionSort _ ys).subset hb)
  · exact le_antisymm hab hba

section Stable

variable {β : Type} {r : β → β → Prop} [DecidableRel r]

/-- Putting an item into a sorted list, and keeping some of the items. -/
theorem filter_orderedInsert (htrans : ∀ a b c, r a b → r b c → r a c) (p : β → Bool) (a : β) :
    ∀ {xs : List β}, xs.Pairwise r → (xs.orderedInsert r a).filter p =
      if p a then (xs.filter p).orderedInsert r a else xs.filter p := by
  intro xs
  induction xs with
  | nil =>
    intro _
    cases hp : p a <;> simp [hp]
  | cons b xs ih =>
    intro hsorted
    obtain ⟨hb, hxs⟩ := List.pairwise_cons.mp hsorted
    rw [List.orderedInsert_cons]
    split_ifs with hab ha ha
    · -- the item goes to the front, also of what is kept
      rw [List.filter_cons_of_pos ha]
      cases hkept : (b :: xs).filter p with
      | nil => rfl
      | cons c rest =>
        have hc : c ∈ (b :: xs).filter p := by rw [hkept]; exact List.mem_cons_self
        have hac : r a c := by
          obtain rfl | hmem := List.mem_cons.mp (List.mem_filter.mp hc).1
          · exact hab
          · exact htrans a b c hab (hb c hmem)
        rw [List.orderedInsert_cons, if_pos hac]
    · rw [List.filter_cons_of_neg ha]
    · have hrest := ih hxs
      rw [if_pos ha] at hrest
      cases hp : p b
      · rw [List.filter_cons_of_neg (by simp [hp]), List.filter_cons_of_neg (by simp [hp]), hrest]
      · rw [List.filter_cons_of_pos hp, List.filter_cons_of_pos hp, List.orderedInsert_cons,
          if_neg hab, hrest]
    · have hrest := ih hxs
      rw [if_neg ha] at hrest
      rw [List.filter_cons, List.filter_cons, hrest]

/-- Sorting keeps the order of what a filter keeps. -/
theorem filter_insertionSort (htrans : ∀ a b c, r a b → r b c → r a c)
    (htotal : ∀ a b, r a b ∨ r b a) (p : β → Bool) (xs : List β) :
    (xs.insertionSort r).filter p = (xs.filter p).insertionSort r := by
  have : IsTrans β r := ⟨htrans⟩
  have : Std.Total r := ⟨htotal⟩
  induction xs with
  | nil => rfl
  | cons a xs ih =>
    rw [List.insertionSort_cons, filter_orderedInsert htrans p a (List.pairwise_insertionSort r xs),
      ih]
    cases hp : p a
    · rw [if_neg (by simp), List.filter_cons_of_neg (by simp [hp])]
    · rw [if_pos rfl, List.filter_cons_of_pos hp, List.insertionSort_cons]

/-- Sorting by a key forgets the order the list came in exactly where the key tells its items
apart. -/
theorem insertionSort_order_free_iff {γ : Type} {key : γ → α} {xs : List γ} :
    (∀ ys, xs.Perm ys →
      ys.insertionSort (key · ≤ key ·) = xs.insertionSort (key · ≤ key ·)) ↔
      ∀ a ∈ xs, ∀ b ∈ xs, key a = key b → a = b := by
  classical
  have htrans : IsTrans γ (key · ≤ key ·) := ⟨fun _ _ _ => le_trans⟩
  have htotal : Std.Total (fun a b : γ => key a ≤ key b) := ⟨fun a b => le_total (key a) (key b)⟩
  constructor
  · intro h a ha b hb hkey
    by_contra hne
    have hb' : b ∈ xs.erase a := (List.mem_erase_of_ne (Ne.symm hne)).mpr hb
    have hperm : xs.Perm (a :: b :: (xs.erase a).erase b) :=
      (List.perm_cons_erase ha).trans ((List.perm_cons_erase hb').cons a)
    -- the items of the key stay in the order they came in, and the two can come in either
    have hkept : ∀ c d rest, key c = key a → key d = key a →
        ((c :: d :: rest).insertionSort (key · ≤ key ·)).filter (key · = key a) =
          c :: d :: rest.filter (key · = key a) := by
      intro c d rest hc hd
      have htrans' : ∀ x y z, key x ≤ key y → key y ≤ key z → key x ≤ key z :=
        fun _ _ _ => le_trans
      have htotal' : ∀ x y, key x ≤ key y ∨ key y ≤ key x := fun x y => le_total (key x) (key y)
      rw [filter_insertionSort htrans' htotal', List.filter_cons_of_pos (by simpa using hc),
        List.filter_cons_of_pos (by simpa using hd)]
      apply List.Pairwise.insertionSort_eq
      apply List.pairwise_of_forall_mem_list
      intro e he f hf
      have hsame : ∀ g ∈ c :: d :: rest.filter (key · = key a), key g = key a := by
        intro g hg
        obtain rfl | rfl | hg := by simpa only [List.mem_cons] using hg
        · exact hc
        · exact hd
        · simpa using (List.mem_filter.mp hg).2
      exact le_of_eq ((hsame e he).trans (hsame f hf).symm)
    have hswap := (h _ hperm).trans (h _ (hperm.trans (List.Perm.swap b a _))).symm
    have hfilter := congrArg (List.filter (key · = key a)) hswap
    rw [hkept a b _ rfl hkey.symm, hkept b a _ hkey.symm rfl] at hfilter
    exact hne (List.cons.inj hfilter).1
  · intro h ys hperm
    have hsorted : (ys.insertionSort (key · ≤ key ·)).Perm (xs.insertionSort (key · ≤ key ·)) :=
      (List.perm_insertionSort _ ys).trans (hperm.symm.trans (List.perm_insertionSort _ xs).symm)
    apply List.Perm.eq_of_pairwise ?_ (List.pairwise_insertionSort _ ys)
      (List.pairwise_insertionSort _ xs) hsorted
    intro a b ha hb hab hba
    apply h
    · exact hperm.symm.subset ((List.perm_insertionSort _ ys).subset ha)
    · exact (List.perm_insertionSort _ xs).subset hb
    · exact le_antisymm hab hba

/-- Sorting a list with one more item leaves the others in their order. -/
theorem exists_insertionSort_insert (htrans : ∀ a b c, r a b → r b c → r a c)
    (htotal : ∀ a b, r a b ∨ r b a) (x : β) (before after : List β) :
    ∃ low high, (before ++ x :: after).insertionSort r = low ++ x :: high ∧
      (before ++ after).insertionSort r = low ++ high := by
  have : IsTrans β r := ⟨htrans⟩
  have : Std.Total r := ⟨htotal⟩
  induction before with
  | nil =>
    refine ⟨(after.insertionSort r).takeWhile fun b => ¬ r x b,
      (after.insertionSort r).dropWhile fun b => ¬ r x b, ?_, ?_⟩
    · rw [List.nil_append, List.insertionSort_cons, List.orderedInsert_eq_take_drop]
    · rw [List.nil_append, List.takeWhile_append_dropWhile]
  | cons a before ih =>
    obtain ⟨low, high, hwith, hwithout⟩ := ih
    have hsorted := List.pairwise_insertionSort r (before ++ x :: after)
    rw [hwith] at hsorted
    rw [List.cons_append, List.cons_append, List.insertionSort_cons, List.insertionSort_cons, hwith,
      hwithout]
    clear hwith hwithout
    -- the item goes where it goes without the other one
    induction low with
    | nil =>
      obtain ⟨hx, -⟩ := List.pairwise_cons.mp hsorted
      by_cases hax : r a x
      · refine ⟨[a], high, ?_, ?_⟩
        · rw [List.nil_append, List.orderedInsert_cons, if_pos hax]
          rfl
        · cases high with
          | nil => rfl
          | cons b high =>
            have hab := htrans a x b hax (hx b List.mem_cons_self)
            rw [List.nil_append, List.orderedInsert_cons, if_pos hab]
            rfl
      · refine ⟨[], high.orderedInsert r a, ?_, rfl⟩
        rw [List.nil_append, List.orderedInsert_cons, if_neg hax]
        rfl
    | cons b low ih =>
      by_cases hab : r a b
      · refine ⟨a :: b :: low, high, ?_, ?_⟩
        · rw [List.cons_append, List.orderedInsert_cons, if_pos hab]
          rfl
        · rw [List.cons_append, List.orderedInsert_cons, if_pos hab]
          rfl
      · obtain ⟨low', high', hwith, hwithout⟩ := ih (List.pairwise_cons.mp hsorted).2
        refine ⟨b :: low', high', ?_, ?_⟩
        · rw [List.cons_append, List.orderedInsert_cons, if_neg hab, hwith]
          rfl
        · rw [List.cons_append, List.orderedInsert_cons, if_neg hab, hwithout]
          rfl

end Stable

/-- The items of a list, each once and in order. -/
def sortedSet (xs : List α) : List α := xs.dedup.insertionSort (· ≤ ·)

@[simp] theorem mem_sortedSet : a ∈ sortedSet xs ↔ a ∈ xs := by simp [sortedSet]

@[simp] theorem sortedSet_nil : sortedSet ([] : List α) = [] := rfl

theorem sortedSet_nodup (xs : List α) : (sortedSet xs).Nodup := by
  rw [sortedSet, (List.perm_insertionSort _ _).nodup_iff]
  exact List.nodup_dedup xs

theorem sortedSet_pairwise (xs : List α) : (sortedSet xs).Pairwise (· ≤ ·) :=
  List.pairwise_insertionSort _ _

/-- Lists with the same items have one sorted set. -/
theorem sortedSet_congr (h : ∀ a, a ∈ xs ↔ a ∈ ys) : sortedSet xs = sortedSet ys := by
  apply sorted_congr
  apply (List.perm_ext_iff_of_nodup (List.nodup_dedup xs) (List.nodup_dedup ys)).mpr
  intro a
  rw [List.mem_dedup, List.mem_dedup, h]

@[simp] theorem sortedSet_eq_nil : sortedSet xs = [] ↔ xs = [] := by
  constructor
  · intro h
    apply List.eq_nil_iff_forall_not_mem.mpr
    intro a ha
    have hmem := mem_sortedSet.mpr ha
    rw [h] at hmem
    cases hmem
  · rintro rfl
    rfl

end Atreides
