import Atreides.Foundation.RunningTotals

/-!
# The lowest point of timed flows

Amounts that land at instants are added up one by one. The running sum after all the flows of an
instant is the level of that instant; between two flows of
one instant the sum may be lower, by what leaves at that instant at most. So the lowest running sum lies
between the least level and the least level with only the outflows of an instant.

## Main definitions

* `lowest` — the lowest running sum
* `landed`, `landedBefore`, `leaving` — what has landed by an instant, before it, and what leaves
  at it

## Main results

* `le_lowest_iff` — the lowest running sum is the greatest lower bound of the running sums
* `lowest_le_landed` — the level of every instant is a running sum of sorted flows
* `exists_instant_of_prefix` — a running sum of sorted flows lies above the outflows of an instant
* `lowest_le_leaving` — with outflows first, they are reached
* `exists_level_of_prefix` — with inflows first, a running sum lies above a level
-/

section Lowest

variable {K : Type*} [AddCommMonoid K] [LinearOrder K] {b start : K} {xs ys : List K}

/-- The lowest running sum, the start included. -/
def lowest (start : K) : List K → K
  | [] => start
  | x :: xs => min start (lowest (start + x) xs)

@[simp] theorem lowest_nil (start : K) : lowest start [] = start := rfl

theorem lowest_cons (start x : K) (xs : List K) :
    lowest start (x :: xs) = min start (lowest (start + x) xs) := rfl

/-- The lowest running sum is the greatest lower bound of the running sums. -/
theorem le_lowest_iff : b ≤ lowest start xs ↔ ∀ ys, ys <+: xs → b ≤ start + ys.sum := by
  induction xs generalizing start with
  | nil => simp
  | cons x xs ih =>
    rw [lowest_cons, le_min_iff, ih]
    constructor
    · rintro ⟨hstart, hrest⟩ ys hys
      cases ys with
      | nil => simpa using hstart
      | cons y ys =>
        obtain ⟨rfl, hys'⟩ := List.cons_prefix_cons.mp hys
        rw [List.sum_cons, ← add_assoc]
        exact hrest ys hys'
    · intro h
      refine ⟨by simpa using h [] List.nil_prefix, fun ys hys => ?_⟩
      have := h (x :: ys) (List.cons_prefix_cons.mpr ⟨rfl, hys⟩)
      rwa [List.sum_cons, ← add_assoc] at this

theorem lowest_le (h : ys <+: xs) : lowest start xs ≤ start + ys.sum :=
  le_lowest_iff.mp le_rfl ys h

/-- The lowest running sum is one of them. -/
theorem exists_prefix_lowest (start : K) (xs : List K) :
    ∃ ys, ys <+: xs ∧ lowest start xs = start + ys.sum := by
  induction xs generalizing start with
  | nil => exact ⟨[], List.prefix_rfl, by simp⟩
  | cons x xs ih =>
    rw [lowest_cons]
    obtain hle | hle := le_total start (lowest (start + x) xs)
    · exact ⟨[], List.nil_prefix, by simp [hle]⟩
    · obtain ⟨ys, hys, heq⟩ := ih (start + x)
      refine ⟨x :: ys, List.cons_prefix_cons.mpr ⟨rfl, hys⟩, ?_⟩
      rw [min_eq_right hle, heq, List.sum_cons, ← add_assoc]

end Lowest

/-! ## Sorted lists -/

section Sorted

variable {α : Type*} {r : α → α → Prop} {p : α → Bool} {xs : List α}

/-- What a sorted list holds below a bound comes first. -/
theorem filter_prefix_of_pairwise (hsorted : xs.Pairwise r)
    (hdown : ∀ a b, r a b → p b = true → p a = true) : xs.filter p <+: xs := by
  induction xs with
  | nil => simp
  | cons a xs ih =>
    obtain ⟨ha, hrest⟩ := List.pairwise_cons.mp hsorted
    cases hp : p a with
    | true =>
      rw [List.filter_cons_of_pos hp]
      exact List.cons_prefix_cons.mpr ⟨rfl, ih hrest⟩
    | false =>
      -- nothing after it is below the bound either
      have hnone : xs.filter p = [] := by
        rw [List.filter_eq_nil_iff]
        intro b hb hpb
        rw [hdown a b (ha b hb) hpb] at hp
        cases hp
      rw [List.filter_cons_of_neg (by simp [hp]), hnone]
      exact List.nil_prefix

end Sorted

/-! ## Timed flows -/

section Timed

variable {T K : Type*} [LinearOrder T] [CommRing K] [LinearOrder K]
variable {flows ys : List (T × K)} {t : T}

/-- What has landed by an instant. -/
def landed (flows : List (T × K)) (t : T) : K :=
  ((flows.filter fun f => f.1 ≤ t).map Prod.snd).sum

/-- What has landed before an instant. -/
def landedBefore (flows : List (T × K)) (t : T) : K :=
  ((flows.filter fun f => f.1 < t).map Prod.snd).sum

/-- What leaves at an instant. -/
def leaving (flows : List (T × K)) (t : T) : K :=
  outflow ((flows.filter fun f => f.1 = t).map Prod.snd)

omit [LinearOrder K] in
theorem landed_perm {flows' : List (T × K)} (h : flows.Perm flows') :
    landed flows t = landed flows' t := ((h.filter _).map _).sum_eq

omit [LinearOrder K] in
theorem landedBefore_perm {flows' : List (T × K)} (h : flows.Perm flows') :
    landedBefore flows t = landedBefore flows' t := ((h.filter _).map _).sum_eq

theorem leaving_perm {flows' : List (T × K)} (h : flows.Perm flows') :
    leaving flows t = leaving flows' t := outflow_perm ((h.filter _).map _)

/-- The level of an instant is a running sum. -/
theorem lowest_le_landed (hsorted : flows.Pairwise fun a b => a.1 ≤ b.1) (start : K) (t : T) :
    lowest start (flows.map Prod.snd) ≤ start + landed flows t := by
  apply lowest_le
  apply List.IsPrefix.map
  apply filter_prefix_of_pairwise hsorted
  intro a b hab hb
  simp only [decide_eq_true_eq] at hb ⊢
  exact hab.trans hb

variable [IsStrictOrderedRing K]

/-- A running sum of sorted flows ends within an instant, above what leaves there. -/
theorem exists_instant_of_prefix (hsorted : flows.Pairwise fun a b => a.1 ≤ b.1)
    (hys : ys <+: flows) (hne : ys ≠ []) :
    ∃ f ∈ flows, landedBefore flows f.1 + leaving flows f.1 ≤ (ys.map Prod.snd).sum := by
  obtain ⟨rest, rfl⟩ := hys
  obtain rfl | ⟨zs, f, rfl⟩ := List.eq_nil_or_concat ys
  · exact absurd rfl hne
  rw [List.concat_eq_append] at hsorted ⊢
  set ys := zs ++ [f] with hys
  have hmem : f ∈ ys := List.mem_append_right zs List.mem_cons_self
  refine ⟨f, List.mem_append_left rest hmem, ?_⟩
  obtain ⟨hsortedYs, -, hrest⟩ := List.pairwise_append.mp hsorted
  have hle : ∀ g ∈ ys, g.1 ≤ f.1 := by
    intro g hg
    obtain hg | hg := List.mem_append.mp hg
    · exact (List.pairwise_append.mp hsortedYs).2.2 g hg f List.mem_cons_self
    · rw [List.mem_singleton.mp hg]
  -- what has landed before the last instant is all among these flows
  have hbefore : landedBefore (ys ++ rest) f.1 = landedBefore ys f.1 := by
    have hnone : rest.filter (fun g => g.1 < f.1) = [] := by
      rw [List.filter_eq_nil_iff]
      intro g hg
      simpa using hrest f hmem g hg
    rw [landedBefore, List.filter_append, hnone, List.append_nil]
    rfl
  have hsplit : (ys.map Prod.snd).sum =
      landedBefore ys f.1 + ((ys.filter fun g => g.1 = f.1).map Prod.snd).sum := by
    have hperm := (List.filter_append_perm (fun g : T × K => g.1 < f.1) ys).map Prod.snd
    rw [← hperm.sum_eq, List.map_append, List.sum_append, landedBefore]
    congr 3
    apply List.filter_congr
    intro g hg
    rw [← Bool.coe_iff_coe]
    simp only [Bool.not_eq_true', decide_eq_false_iff_not, not_lt, decide_eq_true_eq]
    exact ⟨fun h => le_antisymm (hle g hg) h, fun h => h.ge⟩
  have hsub : ((ys.filter fun g => g.1 = f.1).map Prod.snd).Sublist
      (((ys ++ rest).filter fun g => g.1 = f.1).map Prod.snd) :=
    ((List.sublist_append_left ys rest).filter _).map _
  rw [hbefore, hsplit]
  gcongr
  exact (sum_between_flows hsub).1

/-! ### The order within an instant -/

omit [LinearOrder K] [IsStrictOrderedRing K] in
/-- What has landed before an instant is nothing, or the level of an earlier one. -/
theorem landedBefore_eq_landed (hsorted : flows.Pairwise fun a b => a.1 ≤ b.1) (t : T) :
    landedBefore flows t = 0 ∨ ∃ f ∈ flows, landedBefore flows t = landed flows f.1 := by
  obtain hnil | ⟨zs, f, hzs⟩ := List.eq_nil_or_concat (flows.filter fun f => f.1 < t)
  · left
    rw [landedBefore, hnil]
    rfl
  · right
    -- the last of the flows before the instant
    rw [List.concat_eq_append] at hzs
    have hf : f ∈ flows.filter fun f => f.1 < t := by simp [hzs]
    refine ⟨f, List.mem_of_mem_filter hf, ?_⟩
    have hlt : f.1 < t := by simpa using (List.mem_filter.mp hf).2
    have hpairwise := hsorted.filter fun f => f.1 < t
    rw [hzs] at hpairwise
    rw [landedBefore, landed]
    congr 2
    apply List.filter_congr
    intro g hg
    rw [← Bool.coe_iff_coe, decide_eq_true_eq, decide_eq_true_eq]
    constructor
    · intro hgt
      have hmem : g ∈ zs ++ [f] := by
        rw [← hzs]
        simpa using ⟨hg, hgt⟩
      obtain hmem | hmem := List.mem_append.mp hmem
      · exact (List.pairwise_append.mp hpairwise).2.2 g hmem f List.mem_cons_self
      · rw [List.mem_singleton.mp hmem]
    · intro hle
      exact hle.trans_lt hlt

omit [IsStrictOrderedRing K] in
/-- With the outflows of each instant first, the lowest running sum is as low as they take it. -/
theorem lowest_le_leaving (hsorted : flows.Pairwise fun a b => a.1 ≤ b.1)
    (houtflows : flows.Pairwise fun a b => a.1 = b.1 → b.2 < 0 → a.2 < 0) (start : K) (t : T) :
    lowest start (flows.map Prod.snd) ≤ start + (landedBefore flows t + leaving flows t) := by
  let p : T × K → Bool := fun f => f.1 < t || (f.1 = t && f.2 < 0)
  have hinitial : flows.filter p <+: flows := by
    apply filter_prefix_of_pairwise (hsorted.and houtflows)
    rintro a b ⟨hle, hout⟩ hb
    simp only [p, Bool.or_eq_true, Bool.and_eq_true, decide_eq_true_eq] at hb ⊢
    obtain hlt | ⟨heq, hneg⟩ := hb
    · exact .inl (hle.trans_lt hlt)
    · obtain hlt | heq' := hle.lt_or_eq
      · exact .inl (hlt.trans_eq heq)
      · exact .inr ⟨heq'.trans heq, hout heq' hneg⟩
  have hsum : ((flows.filter p).map Prod.snd).sum = landedBefore flows t + leaving flows t := by
    have hperm := (List.filter_append_perm (fun f : T × K => f.1 < t) (flows.filter p)).map Prod.snd
    rw [← hperm.sum_eq, List.map_append, List.sum_append, landedBefore, leaving, outflow,
      List.filter_filter, List.filter_filter, List.filter_map, List.filter_filter]
    congr 3 <;> apply List.filter_congr <;> intro f _ <;> rw [← Bool.coe_iff_coe] <;>
      simp only [p, Bool.or_eq_true, Bool.and_eq_true, Bool.not_eq_true', decide_eq_true_eq,
        decide_eq_false_iff_not, Function.comp_apply]
    · tauto
    · constructor
      · rintro ⟨hnot, hlt | ⟨heq, hneg⟩⟩
        · exact absurd hlt hnot
        · exact ⟨hneg, heq⟩
      · rintro ⟨hneg, heq⟩
        exact ⟨heq.not_lt, .inr ⟨heq, hneg⟩⟩
  rw [← hsum]
  exact lowest_le (hinitial.map _)

/-- With the inflows of each instant first, a running sum lies above the level before its instant
or after it. -/
theorem exists_level_of_prefix (hsorted : flows.Pairwise fun a b => a.1 ≤ b.1)
    (hinflows : flows.Pairwise fun a b => a.1 = b.1 → a.2 < 0 → b.2 < 0)
    (hys : ys <+: flows) (hne : ys ≠ []) :
    ∃ f ∈ flows, landedBefore flows f.1 ≤ (ys.map Prod.snd).sum ∨
      landed flows f.1 ≤ (ys.map Prod.snd).sum := by
  obtain ⟨rest, rfl⟩ := hys
  obtain rfl | ⟨zs, f, rfl⟩ := List.eq_nil_or_concat ys
  · exact absurd rfl hne
  rw [List.concat_eq_append] at hsorted hinflows ⊢
  set ys := zs ++ [f] with hys
  have hmem : f ∈ ys := List.mem_append_right zs List.mem_cons_self
  refine ⟨f, List.mem_append_left rest hmem, ?_⟩
  obtain ⟨hsortedYs, -, hrest⟩ := List.pairwise_append.mp hsorted
  obtain ⟨hinflowsYs, -, hinflowsRest⟩ := List.pairwise_append.mp hinflows
  have hle : ∀ g ∈ ys, g.1 ≤ f.1 := by
    intro g hg
    obtain hg | hg := List.mem_append.mp hg
    · exact (List.pairwise_append.mp hsortedYs).2.2 g hg f List.mem_cons_self
    · rw [List.mem_singleton.mp hg]
  have hsum : ∀ (l : List (T × K)) (p : T × K → Bool), (l.map Prod.snd).sum =
      ((l.filter p).map Prod.snd).sum + ((l.filter fun g => !p g).map Prod.snd).sum := by
    intro l p
    rw [← ((List.filter_append_perm p l).map Prod.snd).sum_eq, List.map_append, List.sum_append]
  obtain hneg | hpos := lt_or_ge f.2 0
  · -- the inflows of the instant have all landed, and what is still to come leaves
    right
    have hlater : ((rest.filter fun g => g.1 ≤ f.1).map Prod.snd).sum ≤ 0 := by
      have hnoInflow : inflow ((rest.filter fun g => g.1 ≤ f.1).map Prod.snd) = 0 := by
        rw [inflow, List.filter_eq_nil_iff.mpr, List.sum_nil]
        intro x hx
        obtain ⟨g, hg, rfl⟩ := List.mem_map.mp hx
        obtain ⟨hgrest, hgle⟩ := List.mem_filter.mp hg
        have heq : f.1 = g.1 := le_antisymm (hrest f hmem g hgrest) (by simpa using hgle)
        simpa using (hinflowsRest f hmem g hgrest heq hneg).le
      exact (sum_between_flows (List.Sublist.refl _)).2.trans hnoInflow.le
    have hall : ys.filter (fun g => g.1 ≤ f.1) = ys := by
      rw [List.filter_eq_self]
      intro g hg
      simpa using hle g hg
    rw [landed, List.filter_append, hall, List.map_append, List.sum_append]
    linarith
  · -- what has landed of the instant so far is inflows
    left
    have hnone : rest.filter (fun g => g.1 < f.1) = [] := by
      rw [List.filter_eq_nil_iff]
      intro g hg
      simpa using hrest f hmem g hg
    have hinstant : 0 ≤ ((ys.filter fun g => !decide (g.1 < f.1)).map Prod.snd).sum := by
      apply List.sum_nonneg
      intro x hx
      obtain ⟨g, hg, rfl⟩ := List.mem_map.mp hx
      obtain ⟨hgys, hgle⟩ := List.mem_filter.mp hg
      have heq : g.1 = f.1 := le_antisymm (hle g hgys) (by simpa using hgle)
      by_contra hneg
      obtain hgzs | hgf := List.mem_append.mp hgys
      · exact absurd ((List.pairwise_append.mp hinflowsYs).2.2 g hgzs f List.mem_cons_self heq
          (not_le.mp hneg)) (not_lt.mpr hpos)
      · rw [List.mem_singleton.mp hgf] at hneg
        exact hneg hpos
    rw [landedBefore, List.filter_append, hnone, List.append_nil,
      hsum ys fun g => decide (g.1 < f.1)]
    linarith

end Timed
