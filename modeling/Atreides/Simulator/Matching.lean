import Mathlib.Algebra.BigOperators.Group.List.Basic
import Mathlib.Tactic.Linarith
import Atreides.Simulator.Market

/-!
# What an execution takes

An execution fills a queue from its front. What it takes of each order, what it leaves of the
queue, and what it prints.

## Main definitions

* `fillsOf` — what an execution takes of each order in turn
* `Matched` — a queue, what is taken of it and what is left of it

## Main results

* `ends_matchQueue` — the loop of an execution takes and prints just these fills
* `printId_inj` — a print's id says its number and its order
-/

namespace Atreides

namespace Simulator

/-! ## What an execution takes -/

/-- What an execution takes of each order in turn. -/
def fillsOf : ℤ → List Resting → List Resting
  | _, [] => []
  | remaining, (order, openQuantity) :: rest =>
    if remaining = 0 then []
    else
      (order, min openQuantity remaining) ::
        if openQuantity - min openQuantity remaining = 0 then
          fillsOf (remaining - min openQuantity remaining) rest
        else []

/-- What is open of some orders altogether. -/
def openTotal (queue : List Resting) : ℤ := (queue.map Prod.snd).sum

/-- What was taken of an order altogether. -/
def filledOf (fills : List Resting) (orderId : String) : ℤ :=
  openTotal (fills.filter fun fill => fill.1.orderId = orderId)

/-- The fills that are printed: those of orders, not of size ahead of them. -/
def printedFills (fills : List Resting) : List Resting := fills.filter fun fill => !fill.1.isAhead

theorem openTotal_append (xs ys : List Resting) :
    openTotal (xs ++ ys) = openTotal xs + openTotal ys := by
  rw [openTotal, List.map_append, List.sum_append]
  rfl

theorem filledOf_append (xs ys : List Resting) (orderId : String) :
    filledOf (xs ++ ys) orderId = filledOf xs orderId + filledOf ys orderId := by
  rw [filledOf, List.filter_append, openTotal_append]
  rfl

/-- Nothing was taken of an order that no fill is of. -/
theorem filledOf_eq_zero {fills : List Resting} {orderId : String}
    (h : ∀ fill ∈ fills, fill.1.orderId ≠ orderId) : filledOf fills orderId = 0 := by
  rw [filledOf, List.filter_eq_nil_iff.mpr]
  · rfl
  · intro fill hfill
    simpa using h fill hfill

/-- What is taken of a queue and what is left of it: the orders in front are filled, and at most
the next one is filled in part. Only size ahead is ever given more. -/
inductive Matched : List Resting → List Resting → List Resting → Prop
  | whole (full tail : List Resting) : Matched (full ++ tail) full tail
  | part (full tail : List Resting) (order : Order) (openQuantity taken : ℤ)
      (hopen : taken < openQuantity) (hne : taken ≠ 0)
      (hpos : order.isAhead = false → 0 < taken) :
      Matched (full ++ (order, openQuantity) :: tail) (full ++ [(order, taken)])
        ((order, openQuantity - taken) :: tail)

/-- One order more in front is filled. -/
theorem Matched.cons {queue fills left : List Resting} (h : Matched queue fills left)
    (entry : Resting) : Matched (entry :: queue) (entry :: fills) left := by
  cases h with
  | whole => exact .whole (entry :: fills) left
  | part full tail order openQuantity taken hopen hne hpos =>
    exact .part (entry :: full) tail order openQuantity taken hopen hne hpos

/-- What is taken is what the queue loses. -/
theorem Matched.total {queue fills left : List Resting} (h : Matched queue fills left) :
    openTotal fills = openTotal queue - openTotal left := by
  cases h with
  | whole =>
    rw [openTotal_append]
    ring
  | part full tail order openQuantity taken =>
    rw [openTotal_append, openTotal_append]
    simp only [openTotal, List.map_cons, List.map_nil, List.sum_cons, List.sum_nil]
    ring

/-- What a print says of its order. -/
def Print.says (print : Print) : String × String × String × ℤ :=
  (print.printId, print.orderId, print.issue, print.quantity)

/-- What the print of a fill says. -/
def sayOf (numbered : Resting × ℕ) : String × String × String × ℤ :=
  (printId numbered.2 numbered.1.1.orderId, numbered.1.1.orderId, numbered.1.1.issue,
    numbered.1.2)

/-- The report time of an execution is one there is. -/
def Execution.Reportable (call : Execution) : Prop :=
  (plusSeconds call.matchedAt call.reportDelay).Returns

/-- A fill of an order is printed. -/
theorem Execution.print_eq_ok {call : Execution} (hreport : call.Reportable) (number : ℕ)
    (order : Order) {filled : ℤ} (hfilled : 0 < filled) :
    ∃ print, call.print number order filled = .ok print ∧
      print.says = sayOf ((order, filled), number) := by
  obtain ⟨reportedAt, hreported⟩ := hreport
  rw [Execution.print, hreported]
  refine ⟨_, dif_pos hfilled, rfl⟩

/-- An order is reached by an execution of so much: it rests at the price, and less is open of the
orders before it. -/
def Reaches (quantity : ℤ) (queue : List Resting) (order : Order) : Prop :=
  ∃ front openQuantity rest, queue = front ++ (order, openQuantity) :: rest ∧
    openTotal front < quantity

/-- Where the loop of an execution ends. -/
structure Ends (call : Execution) (remaining : ℤ) (printed : ℕ) (queue : List Resting) : Prop where
  refused : (matchQueue call remaining printed queue).refused = none
  matched : Matched queue (fillsOf remaining queue) (matchQueue call remaining printed queue).queue
  taken : openTotal (fillsOf remaining queue) =
    remaining - (matchQueue call remaining printed queue).remaining
  prints : (matchQueue call remaining printed queue).prints.map Print.says =
    ((printedFills (fillsOf remaining queue)).zipIdx printed).map sayOf

/-- An execution takes from the front of the queue and prints what it takes. A quantity below zero
is taken of size ahead alone. -/
theorem ends_matchQueue {call : Execution} {queue : List Resting} :
    ∀ {remaining : ℤ} {printed : ℕ}, (∀ entry ∈ queue, 0 < entry.2) →
      (∀ order, order.isAhead = false → Reaches remaining queue order → call.Reportable) →
      (remaining < 0 → ∀ entry, queue.head? = some entry → entry.1.isAhead = true) →
      Ends call remaining printed queue := by
  induction queue with
  | nil =>
    intro remaining printed _ _ _
    refine ⟨rfl, .whole [] [], ?_, rfl⟩
    rw [matchQueue, fillsOf]
    simp [openTotal]
  | cons entry queue ih =>
    intro remaining printed hopen hreport hnegative
    obtain ⟨order, openQuantity⟩ := entry
    have hpos : 0 < openQuantity := hopen (order, openQuantity) List.mem_cons_self
    by_cases hnone : remaining = 0
    · subst hnone
      have hmatch : matchQueue call 0 printed ((order, openQuantity) :: queue) =
          ⟨(order, openQuantity) :: queue, 0, [], none⟩ := by
        rw [matchQueue, if_pos rfl]
      have hfills : fillsOf 0 ((order, openQuantity) :: queue) = [] := by
        rw [fillsOf, if_pos rfl]
      refine ⟨?_, ?_, ?_, ?_⟩
      · rw [hmatch]
      · rw [hmatch, hfills]
        exact .whole [] _
      · rw [hmatch, hfills]
        rfl
      · rw [hmatch, hfills]
        rfl
    -- what the order adds to the prints
    have hprint : ∃ prints, (if order.isAhead then .ok [] else
        (call.print printed order (min openQuantity remaining)).map ([·])) = .ok prints ∧
          prints.map Print.says =
            ((printedFills [(order, min openQuantity remaining)]).zipIdx printed).map sayOf ∧
          prints.length =
            (printedFills [(order, min openQuantity remaining)]).length := by
      by_cases hahead : order.isAhead = true
      · refine ⟨[], if_pos hahead, ?_⟩
        rw [printedFills, List.filter_cons_of_neg (by simp [hahead])]
        exact ⟨rfl, rfl⟩
      · have hfilled : 0 < min openQuantity remaining := by
          have hquantity : ¬ remaining < 0 := fun hlt => hahead (hnegative hlt _ rfl)
          omega
        have hreached : Reaches remaining ((order, openQuantity) :: queue) order := by
          refine ⟨[], openQuantity, queue, rfl, ?_⟩
          change (0 : ℤ) < remaining
          omega
        obtain ⟨print, hprint, hprinted⟩ := call.print_eq_ok
          (hreport order (by simpa using hahead) hreached) printed order hfilled
        refine ⟨[print], ?_, ?_⟩
        · rw [if_neg hahead, hprint]
          rfl
        · rw [printedFills, List.filter_cons_of_pos (by simp [hahead])]
          exact ⟨congrArg ([·]) hprinted, rfl⟩
    obtain ⟨prints, hprints, hprinted, hlength⟩ := hprint
    by_cases hwhole : openQuantity - min openQuantity remaining = 0
    · -- the order is filled, and the rest of the queue is next
      have hfilled : min openQuantity remaining = openQuantity := by omega
      have hlater : 0 ≤ remaining - openQuantity := by omega
      have hfurther : ∀ other, Reaches (remaining - openQuantity) queue other →
          Reaches remaining ((order, openQuantity) :: queue) other := by
        intro other hreached
        obtain ⟨front, itsOpen, rest, rfl, hlt⟩ := hreached
        refine ⟨(order, openQuantity) :: front, itsOpen, rest, rfl, ?_⟩
        simp only [openTotal, List.map_cons, List.sum_cons] at hlt ⊢
        omega
      have hrest : Ends call (remaining - openQuantity) (printed + prints.length) queue :=
        ih (fun entry hentry => hopen entry (List.mem_cons_of_mem _ hentry))
          (fun other hahead hreached => hreport other hahead (hfurther other hreached))
          (fun hlt => absurd hlt (not_lt.mpr hlater))
      have hmatch : matchQueue call remaining printed ((order, openQuantity) :: queue) =
          { matchQueue call (remaining - openQuantity) (printed + prints.length) queue with
            prints := prints ++ (matchQueue call (remaining - openQuantity)
              (printed + prints.length) queue).prints } := by
        rw [matchQueue, if_neg hnone]
        simp only [hprints]
        rw [if_pos hwhole, hfilled]
      have hfills : fillsOf remaining ((order, openQuantity) :: queue) =
          (order, openQuantity) :: fillsOf (remaining - openQuantity) queue := by
        rw [fillsOf, if_neg hnone, if_pos hwhole, hfilled]
      rw [hfilled] at hprinted hlength
      refine ⟨?_, ?_, ?_, ?_⟩
      · rw [hmatch]
        exact hrest.refused
      · rw [hmatch, hfills]
        exact hrest.matched.cons _
      · rw [hmatch, hfills]
        have htaken := hrest.taken
        simp only [openTotal, List.map_cons, List.sum_cons] at htaken ⊢
        omega
      · have hsplit : printedFills
            ((order, openQuantity) :: fillsOf (remaining - openQuantity) queue) =
            printedFills [(order, openQuantity)] ++
              printedFills (fillsOf (remaining - openQuantity) queue) := by
          rw [printedFills, printedFills, printedFills, ← List.filter_append]
          rfl
        rw [hmatch, hfills, hsplit, List.zipIdx_append, List.map_append, List.map_append, hprinted,
          hrest.prints, hlength, Nat.add_comm]
    · -- what is left of the order has used up the quantity
      have hfilled : min openQuantity remaining = remaining := by omega
      have hmatch : matchQueue call remaining printed ((order, openQuantity) :: queue) =
          ⟨(order, openQuantity - remaining) :: queue, 0, prints, none⟩ := by
        rw [matchQueue, if_neg hnone]
        simp only [hprints]
        rw [if_neg hwhole, hfilled, sub_self]
      have hfills : fillsOf remaining ((order, openQuantity) :: queue) = [(order, remaining)] := by
        rw [fillsOf, if_neg hnone, if_neg hwhole, hfilled]
      rw [hfilled] at hprinted
      refine ⟨?_, ?_, ?_, ?_⟩
      · rw [hmatch]
      · rw [hmatch, hfills]
        refine .part [] queue order openQuantity remaining (by omega) hnone fun hahead => ?_
        by_contra hle
        have hlt : remaining < 0 := by omega
        rw [hnegative hlt _ rfl] at hahead
        cases hahead
      · rw [hmatch, hfills]
        simp [openTotal]
      · rw [hmatch, hfills]
        exact hprinted

/-! ## What becomes of an order -/

/-- What is taken is taken of orders that rest. -/
theorem Matched.mem {queue fills left : List Resting} (h : Matched queue fills left) :
    (∀ fill ∈ fills, fill.1 ∈ queue.map Prod.fst) ∧ (left.map Prod.fst).Sublist
      (queue.map Prod.fst) := by
  cases h with
  | whole =>
    rw [List.map_append]
    exact ⟨fun fill hfill => List.mem_append_left _ (List.mem_map_of_mem hfill),
      List.sublist_append_right _ _⟩
  | part full tail order openQuantity taken hopen hne hpos =>
    rw [List.map_append, List.map_cons, List.map_cons]
    refine ⟨fun fill hfill => ?_, List.sublist_append_right _ _⟩
    rcases List.mem_append.mp hfill with hfill | hfill
    · exact List.mem_append_left _ (List.mem_map_of_mem hfill)
    · rw [List.mem_singleton.mp hfill]
      simp

/-- What is taken before a fill is what was open of the orders before it. -/
theorem Matched.split {queue fills left : List Resting} (h : Matched queue fills left)
    {before after : List Resting} {fill : Resting} (hfills : fills = before ++ fill :: after) :
    ∃ openQuantity rest, queue = before ++ (fill.1, openQuantity) :: rest := by
  cases h with
  | whole =>
    refine ⟨fill.2, after ++ left, ?_⟩
    rw [hfills, List.append_assoc, List.cons_append]
  | part full tail order openQuantity taken hopen hne hpos =>
    rcases after.eq_nil_or_concat with rfl | ⟨between, last, rfl⟩
    · obtain ⟨rfl, hlast⟩ := List.append_inj' hfills rfl
      obtain rfl := List.singleton_inj.mp hlast
      exact ⟨openQuantity, tail, rfl⟩
    · have hshift : full ++ [(order, taken)] = (before ++ fill :: between) ++ [last] := by
        rw [hfills, List.concat_eq_append, List.append_assoc, List.cons_append]
      obtain ⟨rfl, -⟩ := List.append_inj' hshift rfl
      refine ⟨fill.2, between ++ (order, openQuantity) :: tail, ?_⟩
      rw [List.append_assoc, List.cons_append]

/-- Less is open of the orders before one that is given something than the quantity. -/
theorem openTotal_lt_of_fillsOf {queue : List Resting} : ∀ {remaining : ℤ}
    {before after : List Resting} {fill : Resting}, (∀ entry ∈ queue, 0 < entry.2) →
      fillsOf remaining queue = before ++ fill :: after → 0 < fill.2 →
        openTotal before < remaining := by
  induction queue with
  | nil =>
    intro remaining before after fill _ h
    rw [fillsOf] at h
    exact absurd (congrArg List.length h) (by simp)
  | cons entry queue ih =>
    intro remaining before after fill hopen h hfill
    obtain ⟨order, openQuantity⟩ := entry
    have hpos : 0 < openQuantity := hopen (order, openQuantity) List.mem_cons_self
    rw [fillsOf] at h
    split_ifs at h with hnone hwhole
    · exact absurd (congrArg List.length h) (by simp)
    · rcases before with _ | ⟨first, before⟩
      · have hpositive : 0 < remaining := by omega
        simpa [openTotal] using hpositive
      · obtain ⟨rfl, hrest⟩ := List.cons.inj h
        have hlater := ih (fun entry hentry => hopen entry (List.mem_cons_of_mem _ hentry))
          hrest hfill
        simp only [openTotal, List.map_cons, List.sum_cons] at hlater ⊢
        omega
    · rcases before with _ | ⟨first, before⟩
      · obtain ⟨hfirst, -⟩ := List.cons.inj h
        rw [← hfirst] at hfill
        have hpositive : 0 < remaining := by
          simp only at hfill
          omega
        simpa [openTotal] using hpositive
      · obtain ⟨-, hrest⟩ := List.cons.inj h
        exact absurd (congrArg List.length hrest) (by simp)

/-- Where no order comes twice, what was taken of one is what its fill says. -/
theorem filledOf_of_mem {fills : List Resting} {fill : Resting}
    (hnodup : (fills.map fun fill => fill.1.orderId).Nodup) (h : fill ∈ fills) :
    filledOf fills fill.1.orderId = fill.2 := by
  obtain ⟨before, after, rfl⟩ := List.append_of_mem h
  rw [List.map_append, List.map_cons, List.nodup_middle, List.nodup_cons, ← List.map_append]
    at hnodup
  have hrest : ∀ {other}, other ∈ before ++ after → other.1.orderId ≠ fill.1.orderId := by
    intro other hother hid
    refine hnodup.1 ?_
    rw [← hid]
    exact List.mem_map_of_mem hother
  have hcons : filledOf (fill :: after) fill.1.orderId =
      fill.2 + filledOf after fill.1.orderId := by
    rw [filledOf, List.filter_cons_of_pos (by simp)]
    rfl
  rw [filledOf_append, hcons,
    filledOf_eq_zero fun other hother => hrest (List.mem_append_left _ hother),
    filledOf_eq_zero fun other hother => hrest (List.mem_append_right _ hother)]
  ring

/-- Fills come in the order of the queue. -/
theorem Matched.ids {queue fills left : List Resting} (h : Matched queue fills left) :
    (fills.map fun fill => fill.1.orderId).Sublist (queue.map fun entry => entry.1.orderId) := by
  cases h with
  | whole =>
    rw [List.map_append]
    exact List.sublist_append_left _ _
  | part full tail order openQuantity taken hopen hne hpos =>
    rw [List.map_append, List.map_append, List.map_cons, List.map_cons]
    exact (List.Sublist.refl _).append ((List.nil_sublist _).cons_cons _)

/-- Each order of a queue is filled, left as it is, or given a part of what is open. -/
theorem Matched.cases_of_mem {queue fills left : List Resting} (h : Matched queue fills left)
    (hnodup : (queue.map fun entry => entry.1.orderId).Nodup) {entry : Resting}
    (hentry : entry ∈ queue) :
    filledOf fills entry.1.orderId = entry.2 ∧ entry.1 ∉ left.map Prod.fst ∨
      filledOf fills entry.1.orderId = 0 ∧ entry ∈ left ∨
      ∃ taken, filledOf fills entry.1.orderId = taken ∧ taken < entry.2 ∧
        left.head? = some (entry.1, entry.2 - taken) := by
  have hids := h.ids.nodup hnodup
  cases h with
  | whole =>
    rw [List.map_append, List.nodup_append] at hnodup
    rcases List.mem_append.mp hentry with hentry | hentry
    · refine .inl ⟨filledOf_of_mem hids hentry, fun hleft => ?_⟩
      obtain ⟨other, hother, hfst⟩ := List.mem_map.mp hleft
      exact hnodup.2.2 _ (List.mem_map_of_mem hentry) _ (List.mem_map_of_mem hother)
        (by rw [hfst])
    · refine .inr (.inl ⟨filledOf_eq_zero fun fill hfill hid => ?_, hentry⟩)
      exact hnodup.2.2 _ (List.mem_map_of_mem hfill) _ (List.mem_map_of_mem hentry) hid
  | part full tail order openQuantity taken hopen hne hpos =>
    rw [List.map_append, List.map_cons, List.nodup_append, List.nodup_cons] at hnodup
    obtain ⟨-, ⟨hnot, -⟩, hdisjoint⟩ := hnodup
    rcases List.mem_append.mp hentry with hentry | hentry
    · refine .inl ⟨filledOf_of_mem hids (List.mem_append_left _ hentry), fun hleft => ?_⟩
      rw [List.map_cons, List.mem_cons] at hleft
      rcases hleft with hfst | hleft
      · exact hdisjoint _ (List.mem_map_of_mem hentry) _ List.mem_cons_self (by rw [hfst])
      · obtain ⟨other, hother, hfst⟩ := List.mem_map.mp hleft
        exact hdisjoint _ (List.mem_map_of_mem hentry) _
          (List.mem_cons_of_mem _ (List.mem_map_of_mem hother)) (by rw [hfst])
    · rcases List.mem_cons.mp hentry with rfl | hentry
      · refine .inr (.inr ⟨taken, ?_, hopen, rfl⟩)
        exact filledOf_of_mem hids (show (order, taken) ∈ full ++ [(order, taken)] by simp)
      · refine .inr (.inl ⟨filledOf_eq_zero fun fill hfill hid => ?_,
          List.mem_cons_of_mem _ hentry⟩)
        rcases List.mem_append.mp hfill with hfill | hfill
        · exact hdisjoint _ (List.mem_map_of_mem hfill) _
            (List.mem_cons_of_mem _ (List.mem_map_of_mem hentry)) hid
        · rw [List.mem_singleton.mp hfill] at hid
          exact hnot (hid ▸ List.mem_map_of_mem (f := fun entry : Resting => entry.1.orderId)
            hentry)

/-- Of an order that is left, what was open is what is open and what was taken of it; only the
first that is left was given a part. -/
theorem Matched.of_mem_left {queue fills left : List Resting} (h : Matched queue fills left)
    (hnodup : (queue.map fun entry => entry.1.orderId).Nodup)
    (hopen : ∀ entry ∈ queue, 0 < entry.2) {entry : Resting} (hentry : entry ∈ left) :
    0 < entry.2 ∧ (entry ∈ queue ∧ filledOf fills entry.1.orderId = 0 ∨
      left.head? = some entry ∧
        (entry.1, entry.2 + filledOf fills entry.1.orderId) ∈ queue) := by
  have hids := h.ids.nodup hnodup
  cases h with
  | whole =>
    rw [List.map_append, List.nodup_append] at hnodup
    refine ⟨hopen entry (List.mem_append_right _ hentry), .inl ⟨List.mem_append_right _ hentry,
      filledOf_eq_zero fun fill hfill hid => ?_⟩⟩
    exact hnodup.2.2 _ (List.mem_map_of_mem hfill) _ (List.mem_map_of_mem hentry) hid
  | part full tail order openQuantity taken htaken hne hpos =>
    rcases List.mem_cons.mp hentry with rfl | hentry
    · have hfilled := filledOf_of_mem hids (show (order, taken) ∈ full ++ [(order, taken)] by simp)
      refine ⟨by omega, .inr ⟨rfl, ?_⟩⟩
      rw [hfilled, sub_add_cancel]
      simp
    · have hmem : entry ∈ full ++ (order, openQuantity) :: tail :=
        List.mem_append_right _ (List.mem_cons_of_mem _ hentry)
      rw [List.map_append, List.map_cons, List.nodup_append, List.nodup_cons] at hnodup
      obtain ⟨-, ⟨hnot, -⟩, hdisjoint⟩ := hnodup
      refine ⟨hopen entry hmem, .inl ⟨hmem, filledOf_eq_zero fun fill hfill hid => ?_⟩⟩
      rcases List.mem_append.mp hfill with hfill | hfill
      · exact hdisjoint _ (List.mem_map_of_mem hfill) _
          (List.mem_cons_of_mem _ (List.mem_map_of_mem hentry)) hid
      · rw [List.mem_singleton.mp hfill] at hid
        exact hnot (hid ▸ List.mem_map_of_mem (f := fun entry : Resting => entry.1.orderId) hentry)

/-- Of an order of the queue no more is taken than is open, and all of it where the order is left
no more. -/
theorem Matched.of_mem_queue {queue fills left : List Resting} (h : Matched queue fills left)
    (hnodup : (queue.map fun entry => entry.1.orderId).Nodup)
    (hopen : ∀ entry ∈ queue, 0 < entry.2) {entry : Resting} (hentry : entry ∈ queue) :
    filledOf fills entry.1.orderId ≤ entry.2 ∧
      (entry.1 ∉ left.map Prod.fst → filledOf fills entry.1.orderId = entry.2) := by
  obtain ⟨hwhole, -⟩ | ⟨hnone, hleft⟩ | ⟨taken, htaken, hlt, hhead⟩ :=
    h.cases_of_mem hnodup hentry
  · exact ⟨hwhole.le, fun _ => hwhole⟩
  · rw [hnone]
    exact ⟨(hopen entry hentry).le, fun hnot => absurd (List.mem_map_of_mem hleft) hnot⟩
  · rw [htaken]
    have hleft : (entry.1, entry.2 - taken) ∈ left := List.mem_of_mem_head? hhead
    exact ⟨hlt.le, fun hnot => absurd (List.mem_map_of_mem (f := Prod.fst) hleft) hnot⟩

/-- The head of a queue, where it is left, is the first that is left. -/
theorem Matched.head?_of_left {queue fills left : List Resting} (h : Matched queue fills left)
    (hnodup : (queue.map fun entry => entry.1.orderId).Nodup) {entry : Resting}
    (hhead : queue.head? = some entry) (hentry : entry ∈ left) : left.head? = some entry := by
  have hfirst : ∀ front back : List Resting, queue = front ++ back → front ≠ [] →
      ∀ other ∈ back, other.1.orderId ≠ entry.1.orderId := by
    rintro front back rfl hne other hother hid
    obtain ⟨first, front, rfl⟩ := List.exists_cons_of_ne_nil hne
    rw [List.cons_append, List.head?_cons, Option.some_inj] at hhead
    subst hhead
    rw [List.cons_append, List.map_cons, List.nodup_cons] at hnodup
    refine hnodup.1 (List.mem_map.mpr ⟨other, List.mem_append_right _ hother, hid⟩)
  cases h with
  | whole =>
    rcases List.eq_nil_or_concat fills with rfl | ⟨_, _, rfl⟩
    · exact hhead
    · exact absurd rfl (hfirst _ _ rfl (by simp) entry hentry)
  | part full tail order openQuantity taken hopen hne hpos =>
    rcases full with _ | ⟨first, full⟩
    · rw [List.nil_append, List.head?_cons, Option.some_inj] at hhead
      subst hhead
      rcases List.mem_cons.mp hentry with heq | hentry
      · have htaken := (Prod.mk.inj heq).2
        omega
      · exact absurd rfl (hfirst [(order, openQuantity)] tail rfl (by simp) _ hentry)
    · rcases List.mem_cons.mp hentry with rfl | hentry
      · exact absurd rfl (hfirst (first :: full) _ rfl (by simp) (order, openQuantity)
          List.mem_cons_self)
      · exact absurd rfl (hfirst (first :: full) _ rfl (by simp) entry
          (List.mem_cons_of_mem _ hentry))

theorem Matched.positive {queue fills left : List Resting} (h : Matched queue fills left)
    (hopen : ∀ entry ∈ queue, 0 < entry.2) :
    ∀ fill ∈ fills, fill.1.isAhead = false → 0 < fill.2 := by
  intro fill hfill hahead
  cases h with
  | whole => exact hopen fill (List.mem_append_left _ hfill)
  | part full tail order openQuantity taken htaken hne hpos =>
    rcases List.mem_append.mp hfill with hfill | hfill
    · exact hopen fill (List.mem_append_left _ hfill)
    · rw [List.mem_singleton.mp hfill] at hahead ⊢
      exact hpos hahead

/-! ## What is printed -/

/-- A print's id says its number and its order. -/
theorem printId_inj {number other : ℕ} {orderId otherId : String}
    (h : printId number orderId = printId other otherId) : number = other ∧ orderId = otherId := by
  have hchars := congrArg String.toList h
  simp only [printId, String.toList_append, List.append_assoc] at hchars
  have hrest := List.append_cancel_left hchars
  have hdigits : ∀ n : ℕ, ∀ c ∈ (toString n).toList, c.isDigit = true := by
    intro n c hc
    rw [Nat.toString_eq_ofList_toDigits, String.toList_ofList] at hc
    exact Nat.isDigit_of_mem_toDigits (by decide) (by decide) hc
  obtain ⟨hnumber, hid⟩ := parts_eq_of_append (hdigits number) (hdigits other)
    (by intro c hc; cases hc; rfl) (by intro c hc; cases hc; rfl) hrest
  refine ⟨?_, String.toList_inj.mp (List.append_cancel_left hid)⟩
  rw [Nat.toString_eq_ofList_toDigits, Nat.toString_eq_ofList_toDigits, String.toList_ofList,
    String.toList_ofList] at hnumber
  rw [← Nat.ofDigitChars_ten_toDigits (n := number), hnumber, Nat.ofDigitChars_ten_toDigits]

/-- The prints of an execution and what they say. -/
theorem exists_fill_of_print {fills : List Resting} {prints : List Print}
    (hprinted : prints.map Print.says = ((printedFills fills).zipIdx 0).map sayOf) {print : Print}
    (hprint : print ∈ prints) :
    ∃ fill number, (fill, number) ∈ (printedFills fills).zipIdx 0 ∧
      print.printId = printId number fill.1.orderId ∧ print.orderId = fill.1.orderId ∧
        print.issue = fill.1.issue := by
  have hmem := List.mem_map_of_mem (f := Print.says) hprint
  rw [hprinted] at hmem
  obtain ⟨⟨fill, number⟩, hfill, hsame⟩ := List.mem_map.mp hmem
  simp only [sayOf, Print.says, Prod.mk.injEq] at hsame
  exact ⟨fill, number, hfill, hsame.1.symm, hsame.2.1.symm, hsame.2.2.1.symm⟩

/-- An order of which something is printed is reached. -/
theorem Ends.reaches {call : Execution} {queue : List Resting}
    (hends : Ends call call.quantity 0 queue) (hopen : ∀ entry ∈ queue, 0 < entry.2)
    {before after : List Resting} {fill : Resting} (hahead : fill.1.isAhead = false)
    (hfills : fillsOf call.quantity queue = before ++ fill :: after) :
    openTotal before < call.quantity ∧ Reaches call.quantity queue fill.1 := by
  have hmem : fill ∈ fillsOf call.quantity queue := by
    rw [hfills]
    simp
  have hlt := openTotal_lt_of_fillsOf hopen hfills (hends.matched.positive hopen fill hmem hahead)
  obtain ⟨openQuantity, rest, hqueue⟩ := hends.matched.split hfills
  exact ⟨hlt, before, openQuantity, rest, hqueue, hlt⟩

end Simulator

end Atreides
