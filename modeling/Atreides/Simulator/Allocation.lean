import Mathlib.Algebra.Order.BigOperators.Group.List
import Mathlib.Algebra.Order.Floor.Ring
import Mathlib.Data.List.Sort
import Mathlib.Data.Rat.Floor
import Mathlib.Tactic.LinearCombination
import Mathlib.Tactic.Linarith
import Atreides.Foundation.Outcome

/-!
# Allocation by largest remainder

A fill is shared among accounts by weight. Every account is given the whole part of its quota, and
what is left goes share by share to the accounts with the largest remainders, the earlier account
first where two are equal.

## Main definitions

* `allocateLargestRemainder` — the shares of the accounts
* `quota` — what an account would get if shares could be divided

## Main results

* `allocated` — the shares add up, and each is its quota rounded down or up, in the order of the
  weights and of the accounts
-/

namespace Atreides

namespace Simulator

/-! ## The first of a ranking -/

/-- Give one more to each account of a list. -/
def giveEach (shares : List ℤ) (accounts : List ℕ) : List ℤ :=
  accounts.foldl (fun shares i => shares.modify i (· + 1)) shares

/-- An account has one more for each time it is in the list. -/
theorem giveEach_getElem? (accounts : List ℕ) (k : ℕ) : ∀ shares : List ℤ,
    (giveEach shares accounts)[k]? = shares[k]?.map (· + (accounts.count k : ℤ)) := by
  induction accounts with
  | nil =>
    intro shares
    simp [giveEach]
  | cons i accounts ih =>
    intro shares
    have hrest := ih (shares.modify i (· + 1))
    rw [giveEach] at hrest
    rw [giveEach, List.foldl_cons, hrest, List.getElem?_modify, List.count_cons]
    rcases shares[k]? with _ | share
    · rfl
    · rw [Option.map_eq_map, Option.map_some, Option.map_some, Option.map_some]
      by_cases hik : i = k
      · subst hik
        rw [if_pos rfl, if_pos (beq_self_eq_true i)]
        push_cast
        ring_nf
      · rw [if_neg hik, if_neg (by simpa using hik), Nat.add_zero]

theorem length_giveEach (accounts : List ℕ) : ∀ shares : List ℤ,
    (giveEach shares accounts).length = shares.length := by
  induction accounts with
  | nil =>
    intro shares
    rfl
  | cons i accounts ih =>
    intro shares
    exact (ih _).trans (List.length_modify _ _ _)

/-- Giving one more to each of some accounts gives as many more as there are. -/
theorem sum_giveEach {accounts : List ℕ} : ∀ {shares : List ℤ},
    (∀ i ∈ accounts, i < shares.length) →
      (giveEach shares accounts).sum = shares.sum + accounts.length := by
  induction accounts with
  | nil =>
    intro shares _
    simp [giveEach]
  | cons i accounts ih =>
    intro shares h
    have hi := h i List.mem_cons_self
    have hrest := @ih (shares.modify i (· + 1)) fun j hj => by
      rw [List.length_modify]
      exact h j (List.mem_cons_of_mem _ hj)
    have hone : (shares.modify i (· + 1)).sum = shares.sum + 1 := by
      rw [List.modify_eq_take_cons_drop hi, List.sum_append, List.sum_cons]
      have hsplit := congrArg List.sum (List.take_append_drop i shares)
      rw [List.drop_eq_getElem_cons hi, List.sum_append, List.sum_cons] at hsplit
      omega
    rw [giveEach] at hrest
    rw [giveEach, List.foldl_cons, hrest, hone, List.length_cons]
    push_cast
    ring

/-- Of two members of a ranking, the one that does not come after the other is among the first
where the other is. -/
theorem mem_take_of_not_after {α : Type} {before : α → α → Prop} {ranking : List α} {count : ℕ}
    {a b : α} (hranking : ranking.Pairwise before) (ha : a ∈ ranking)
    (hb : b ∈ ranking.take count) (hnot : ¬ before b a) : a ∈ ranking.take count := by
  rw [← List.take_append_drop count ranking] at hranking ha
  rcases List.mem_append.mp ha with ha | ha
  · exact ha
  · exact absurd ((List.pairwise_append.mp hranking).2.2 b hb a ha) hnot

/-! ## Shares -/

section

variable (quantity : ℤ) (weights : List ℤ)

/-- What is left of an account's quota, in parts of the total weight. -/
def quotaRemainder (i : ℕ) : ℤ := quantity * weights.getD i 0 % weights.sum

/-- An account with more left comes first, and of two with the same the earlier one. -/
def RanksBefore (i j : ℕ) : Prop :=
  quotaRemainder quantity weights j < quotaRemainder quantity weights i ∨
    quotaRemainder quantity weights j = quotaRemainder quantity weights i ∧ i ≤ j

instance : DecidableRel (RanksBefore quantity weights) := fun _ _ =>
  inferInstanceAs (Decidable (_ ∨ _))

/-- The accounts in the order in which they are given what is left. -/
def ranks : List ℕ := (List.range weights.length).insertionSort (RanksBefore quantity weights)

/-- The whole parts of the accounts' quotas. -/
def floors : List ℤ := weights.map fun weight => quantity * weight / weights.sum

/-- Allocate every share once; the stable account order breaks equal remainders. -/
def allocateLargestRemainder : Outcome (List ℤ) :=
  if quantity < 0 ∨ weights = [] ∨ ∃ weight ∈ weights, weight ≤ 0 then
    .error (.valueError "quantity and positive account weights are required")
  else
    let remainder := quantity - (floors quantity weights).sum
    .ok (giveEach (floors quantity weights) ((ranks quantity weights).take remainder.toNat))

/-- What an account would get if shares could be divided. -/
def quota (weight : ℤ) : ℚ := quantity * weight / weights.sum

end

variable {quantity : ℤ} {weights : List ℤ}

/-! ## Ranks -/

instance : Std.Total (RanksBefore quantity weights) where
  total i j := by
    simp only [RanksBefore]
    omega

instance : IsTrans ℕ (RanksBefore quantity weights) where
  trans i j k hij hjk := by
    simp only [RanksBefore] at *
    omega

theorem ranks_perm : (ranks quantity weights).Perm (List.range weights.length) :=
  List.perm_insertionSort _ _

theorem ranks_pairwise : (ranks quantity weights).Pairwise (RanksBefore quantity weights) :=
  List.pairwise_insertionSort _ _

theorem mem_ranks {i : ℕ} : i ∈ ranks quantity weights ↔ i < weights.length := by
  rw [ranks_perm.mem_iff, List.mem_range]

theorem ranks_nodup : (ranks quantity weights).Nodup :=
  ranks_perm.nodup_iff.mpr List.nodup_range

/-! ## Whole parts -/

/-- The whole parts and the remainders make up the quantity. -/
theorem floors_add_remainders (total : ℤ) (ws : List ℤ) :
    (ws.map fun w => quantity * w / total).sum * total +
      (ws.map fun w => quantity * w % total).sum = quantity * ws.sum := by
  induction ws with
  | nil => simp
  | cons w ws ih =>
    have hw := Int.ediv_mul_add_emod (quantity * w) total
    simp only [List.map_cons, List.sum_cons]
    linear_combination ih + hw

/-- Remainders are not negative, and each is less than the total. -/
theorem remainders_lt {total : ℤ} (htotal : 0 < total) (ws : List ℤ) :
    0 ≤ (ws.map fun w => quantity * w % total).sum ∧
      (ws.map fun w => quantity * w % total).sum ≤ ws.length * (total - 1) := by
  induction ws with
  | nil => simp
  | cons w ws ih =>
    have hlow := Int.emod_nonneg (quantity * w) htotal.ne'
    have hhigh := Int.emod_lt_of_pos (quantity * w) htotal
    simp only [List.map_cons, List.sum_cons, List.length_cons]
    push_cast
    constructor
    · omega
    · linarith [ih.2]

/-- What is left after the whole parts is at most one share for each account. -/
theorem remainder_bounds (htotal : 0 < weights.sum) :
    0 ≤ quantity - (floors quantity weights).sum ∧
      quantity - (floors quantity weights).sum ≤ weights.length := by
  have hsum := @floors_add_remainders quantity weights.sum weights
  obtain ⟨hlow, hhigh⟩ := @remainders_lt quantity _ htotal weights
  rw [floors]
  constructor
  · by_contra hneg
    nlinarith
  · by_contra hmany
    have hn : (0 : ℤ) ≤ weights.length := Int.natCast_nonneg _
    nlinarith

/-! ## The allocation -/

/-- The accounts that are given one share more. -/
def givenMore (quantity : ℤ) (weights : List ℤ) : List ℕ :=
  (ranks quantity weights).take (quantity - (floors quantity weights).sum).toNat

theorem givenMore_nodup : (givenMore quantity weights).Nodup :=
  (List.take_sublist _ _).nodup ranks_nodup

/-- An account's share is the whole part of its quota, and one more where it is given more. -/
theorem giveEach_floors {i : ℕ} {weight : ℤ} (hweight : weights[i]? = some weight) :
    (giveEach (floors quantity weights) (givenMore quantity weights))[i]? =
      some (quantity * weight / weights.sum +
        if i ∈ givenMore quantity weights then 1 else 0) := by
  rw [giveEach_getElem?, floors, List.getElem?_map, hweight, Option.map_some, Option.map_some]
  by_cases hi : i ∈ givenMore quantity weights
  · rw [if_pos hi, List.count_eq_one_of_mem givenMore_nodup hi, Nat.cast_one]
  · rw [if_neg hi, List.count_eq_zero_of_not_mem hi, Nat.cast_zero]

/-- No account is given more while one that ranks before it is not. -/
theorem mem_givenMore_of_not_after {i j : ℕ} (hi : i < weights.length)
    (hj : j ∈ givenMore quantity weights) (hnot : ¬ RanksBefore quantity weights j i) :
    i ∈ givenMore quantity weights :=
  mem_take_of_not_after ranks_pairwise (mem_ranks.mpr hi) hj hnot

/-- Every whole share is given. -/
theorem sum_allocated (htotal : 0 < weights.sum) :
    (giveEach (floors quantity weights) (givenMore quantity weights)).sum = quantity := by
  obtain ⟨hlow, hhigh⟩ := @remainder_bounds quantity _ htotal
  have hlength : (givenMore quantity weights).length =
      (quantity - (floors quantity weights).sum).toNat := by
    rw [givenMore, List.length_take, ranks_perm.length_eq, List.length_range]
    omega
  rw [sum_giveEach, hlength]
  · omega
  · intro i hi
    rw [floors, List.length_map]
    exact mem_ranks.mp (List.mem_of_mem_take hi)

/-- A quota is rounded down to its whole part. -/
theorem floor_quota (htotal : 0 < weights.sum) (weight : ℤ) :
    ⌊quota quantity weights weight⌋ = quantity * weight / weights.sum := by
  have hcast : quota quantity weights weight =
      ((quantity * weight : ℤ) : ℚ) / ((weights.sum.toNat : ℕ) : ℚ) := by
    have hnat : ((weights.sum.toNat : ℕ) : ℚ) = (weights.sum : ℚ) := by
      rw [← Int.cast_natCast, Int.toNat_of_nonneg htotal.le]
    rw [hnat, quota, Int.cast_mul]
  rw [hcast, Rat.floor_intCast_div_natCast, Int.toNat_of_nonneg htotal.le]

/-- Of nothing, no account is given more. -/
theorem pos_of_mem_givenMore (hquantity : 0 ≤ quantity) {i : ℕ}
    (hi : i ∈ givenMore quantity weights) : 0 < quantity := by
  rcases hquantity.lt_or_eq with hpos | rfl
  · exact hpos
  · have hfloors : (floors 0 weights).sum = 0 := by
      rw [floors]
      simp
    rw [givenMore, hfloors] at hi
    simp at hi

/-- Where an account is given more and another is not, the other has no larger remainder, and is
not the earlier one of two with the same. -/
theorem ranksBefore_of_givenMore {i j : ℕ} (hi : i < weights.length)
    (hj : j ∈ givenMore quantity weights) (hnot : i ∉ givenMore quantity weights) :
    RanksBefore quantity weights j i := by
  by_contra hbefore
  exact hnot (mem_givenMore_of_not_after hi hj hbefore)

/-- Of two accounts, the heavier one does not get less, nor the earlier of two of one weight. -/
theorem share_le_share (hquantity : 0 ≤ quantity) (htotal : 0 < weights.sum) {i j : ℕ}
    {weight weight' : ℤ} (hi : weights[i]? = some weight) (hj : weights[j]? = some weight')
    (h : weight' < weight ∨ weight' = weight ∧ i < j) :
    (quantity * weight' / weights.sum + if j ∈ givenMore quantity weights then 1 else 0) ≤
      quantity * weight / weights.sum + if i ∈ givenMore quantity weights then 1 else 0 := by
  have hfloors : quantity * weight' / weights.sum ≤ quantity * weight / weights.sum :=
    Int.ediv_le_ediv htotal
      (mul_le_mul_of_nonneg_left (h.elim le_of_lt fun h => h.1.le) hquantity)
  by_cases hmore : j ∈ givenMore quantity weights
  · by_cases hmore' : i ∈ givenMore quantity weights
    · rw [if_pos hmore, if_pos hmore']
      omega
    · have hbefore := ranksBefore_of_givenMore (List.getElem?_eq_some_iff.mp hi).1 hmore hmore'
      simp only [RanksBefore, quotaRemainder, List.getD_eq_getElem?_getD, hi, hj,
        Option.getD_some] at hbefore
      have hdiv := Int.ediv_mul_add_emod (quantity * weight) weights.sum
      have hdiv' := Int.ediv_mul_add_emod (quantity * weight') weights.sum
      have hne : quantity * weight' / weights.sum ≠ quantity * weight / weights.sum := by
        intro heq
        rw [heq] at hdiv'
        rcases h with hlighter | ⟨rfl, hearlier⟩
        · -- with equal whole parts the heavier one would have more left
          have hstrict := mul_lt_mul_of_pos_left hlighter (pos_of_mem_givenMore hquantity hmore)
          omega
        · omega
      rw [if_pos hmore, if_neg hmore']
      omega
  · rw [if_neg hmore]
    split_ifs
    · omega
    · omega

/-! ## Main result -/

/-- Shares of a quantity that are fair to the weights. -/
structure FairShares (quantity : ℤ) (weights shares : List ℤ) : Prop where
  length : shares.length = weights.length
  sum : shares.sum = quantity
  floor_or_succ : ∀ (i : ℕ) (weight share : ℤ), weights[i]? = some weight →
    shares[i]? = some share → share = ⌊quota quantity weights weight⌋ ∨
      share = ⌊quota quantity weights weight⌋ + 1
  heavier : ∀ (i j : ℕ) (weight weight' share share' : ℤ), weights[i]? = some weight →
    shares[i]? = some share → weights[j]? = some weight' → shares[j]? = some share' →
      weight' < weight → share' ≤ share
  earlier : ∀ (i j : ℕ) (weight share share' : ℤ), weights[i]? = some weight →
    shares[i]? = some share → weights[j]? = some weight → shares[j]? = some share' →
      i < j → share' ≤ share

/-- For every quantity and all positive weights the allocation is fair: the shares add up, each is
the floor of its quota or one more, a larger weight never gets less, and of two equal weights the
earlier one does not. -/
theorem allocated (quantity : ℤ) (weights : List ℤ) (hquantity : 0 ≤ quantity)
    (hsome : weights ≠ []) (hpositive : ∀ weight ∈ weights, 0 < weight) :
    ∃ shares, allocateLargestRemainder quantity weights = .ok shares ∧
      FairShares quantity weights shares := by
  have htotal : 0 < weights.sum := List.sum_pos _ hpositive hsome
  have haccepted : ¬ (quantity < 0 ∨ weights = [] ∨ ∃ weight ∈ weights, weight ≤ 0) := by
    rintro (hneg | hnone | ⟨weight, hmem, hle⟩)
    · omega
    · exact hsome hnone
    · exact absurd (hpositive weight hmem) (not_lt.mpr hle)
  have hshare : ∀ {i : ℕ} {weight share : ℤ}, weights[i]? = some weight →
      (giveEach (floors quantity weights) (givenMore quantity weights))[i]? = some share →
        share = quantity * weight / weights.sum +
          if i ∈ givenMore quantity weights then 1 else 0 := by
    intro i weight share hweight hshare
    rw [giveEach_floors hweight] at hshare
    exact (Option.some.inj hshare).symm
  refine ⟨giveEach (floors quantity weights) (givenMore quantity weights), ?_, ?_,
    sum_allocated htotal, ?_, ?_, ?_⟩
  · rw [allocateLargestRemainder, if_neg haccepted]
    rfl
  · rw [length_giveEach, floors, List.length_map]
  · intro i weight share hweight hi
    rw [hshare hweight hi, floor_quota htotal]
    split_ifs
    · exact .inr rfl
    · exact .inl (add_zero _)
  · intro i j weight weight' share share' hweight hi hweight' hj hlighter
    rw [hshare hweight hi, hshare hweight' hj]
    exact share_le_share hquantity htotal hweight hweight' (.inl hlighter)
  · intro i j weight share share' hweight hi hweight' hj hearlier
    rw [hshare hweight hi, hshare hweight' hj]
    exact share_le_share hquantity htotal hweight hweight' (.inr ⟨rfl, hearlier⟩)

theorem allocated_ten : ∃ shares, allocateLargestRemainder 10 [3, 1, 1, 2] = .ok shares ∧
    FairShares 10 [3, 1, 1, 2] shares :=
  allocated 10 [3, 1, 1, 2] (by decide) (by decide) (by decide)

example : allocateLargestRemainder 10 [3, 1, 1, 2] = .ok [4, 2, 1, 3] := by decide

end Simulator

end Atreides
