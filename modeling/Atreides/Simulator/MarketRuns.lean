import Atreides.Simulator.Matching

/-!
# Runs of a price-time market

What holds of every run of calls on a book in which no two orders have one id, no order of a halted
issue is reached, and no order that was printed first in a call heads the queue of another.

## Main definitions

* `Tape` — a book, the orders that came to rest, and the executions so far
* `Meets` — the condition on a call
* `Orderly` — what a run has to keep

## Main results

* `orderly_of_reached` — every run whose calls meet the condition is orderly
-/

namespace Atreides

namespace Simulator

open PriceTimeBook (incoming)

/-! ## Runs -/

/-- An execution that returned: the issues halted at that moment, the queue before and after, what
was taken of it, what of the quantity remained, and the prints. -/
structure Executed where
  call : Execution
  halted : List String
  before : List Resting
  after : List Resting
  fills : List Resting
  remaining : ℤ
  prints : List Print

/-- A book, the orders that came to rest in it, and the executions so far. -/
structure Tape where
  book : PriceTimeBook
  arrivals : List Order
  executions : List Executed

namespace Tape

def start : Tape := ⟨.empty, [], []⟩

/-- What was taken of the orders so far. -/
def fills (tape : Tape) : List Resting := tape.executions.flatMap Executed.fills

/-- The prints so far. -/
def prints (tape : Tape) : List Print := tape.executions.flatMap Executed.prints

end Tape

inductive Action
  | rest (order : Order) (sizeAhead : ℤ)
  | execute (call : Execution)
  | halt (issue : String) (cancelResting : Bool)

/-- One call. A call that raises comes to nothing but what it leaves of the book. -/
def advance (tape : Tape) : Action → Tape
  | .rest order sizeAhead =>
    match tape.book.rest order sizeAhead with
    | .ok book => { tape with book, arrivals := tape.arrivals ++ incoming order sizeAhead }
    | .error _ => tape
  | .execute call =>
    let queue := tape.book.resting call.price.value
    let done := matchQueue call call.quantity 0 queue
    match tape.book.execute call with
    | (book, .ok prints) =>
      { tape with
        book
        executions := tape.executions ++ [⟨call, tape.book.halted, queue, done.queue,
          fillsOf call.quantity queue, done.remaining, prints⟩] }
    | (book, .error _) => { tape with book }
  | .halt issue cancelResting => { tape with book := tape.book.halt issue cancelResting }

/-- The condition on a call. An order that comes to rest has an id of its own; an execution can be
reported where it reaches an order, reaches none of a halted issue, and finds at the head of the
queue none that was printed first in an execution before. -/
def Meets (tape : Tape) : Action → Prop
  | .rest order sizeAhead =>
    order.issue ∉ tape.book.halted → 0 ≤ sizeAhead →
      ∀ o ∈ incoming order sizeAhead, o.orderId ∉ tape.arrivals.map Order.orderId
  | .execute call =>
    (∀ order, order.isAhead = false →
        Reaches call.quantity (tape.book.resting call.price.value) order →
          call.Reportable ∧ order.issue ∉ tape.book.halted) ∧
      ∀ entry, (tape.book.resting call.price.value).head? = some entry →
        entry.1.isAhead = false → 0 < call.quantity →
          printId 0 entry.1.orderId ∉ tape.prints.map Print.printId
  | .halt _ _ => True

/-- The tapes of the runs whose calls all meet the condition. -/
inductive Reached : Tape → Prop
  | start : Reached .start
  | step {tape : Tape} {action : Action} (h : Reached tape) (hmeets : Meets tape action) :
      Reached (advance tape action)

/-- One order came to rest before another. -/
def Earlier (arrivals : List Order) (earlier later : Order) : Prop :=
  [earlier, later].Sublist arrivals

/-- What is reported of a run. -/
structure Reported (tape : Tape) : Prop where
  /-- prints are what is taken of orders, in the order in which it is taken -/
  printed : tape.prints.map (fun print => (print.orderId, print.issue, print.quantity)) =
    (printedFills tape.fills).map fun fill => (fill.1.orderId, fill.1.issue, fill.2)
  /-- of an order something is taken only after every earlier one of its issue and price is
  filled -/
  priority : ∀ before fill after, tape.fills = before ++ fill :: after → ∀ earlier,
    Earlier tape.arrivals earlier fill.1 → earlier.issue = fill.1.issue →
      earlier.limitPrice.value = fill.1.limitPrice.value →
        filledOf before earlier.orderId = earlier.quantity
  /-- what is executed is what the queue loses -/
  removed : ∀ executed ∈ tape.executions,
    openTotal executed.fills = executed.call.quantity - executed.remaining ∧
      openTotal executed.fills = openTotal executed.before - openTotal executed.after
  /-- no print is of an issue that is halted at that moment -/
  barred : ∀ executed ∈ tape.executions, ∀ print ∈ executed.prints,
    print.issue ∉ executed.halted
  distinct : (tape.prints.map Print.printId).Nodup
  named : ∀ print ∈ tape.prints, ∃ number, print.printId = printId number print.orderId

/-- What a run has to keep: the prints of an order never total more than its quantity, and what is
reported is in order. -/
structure Orderly (tape : Tape) : Prop extends Reported tape where
  total : ∀ order ∈ tape.arrivals,
    ((tape.prints.filter fun print => print.orderId = order.orderId).map Print.quantity).sum ≤
      order.quantity

/-! ## What every call keeps -/

/-- How the book stands to what came to rest in it and what was taken of it. -/
structure Kept (tape : Tape) : Prop where
  ids : (tape.arrivals.map Order.orderId).Nodup
  queued : ∀ price, ((tape.book.resting price).map Prod.fst).Sublist
    (tape.arrivals.filter fun order => order.limitPrice.value = price)
  opened : ∀ price, ∀ entry ∈ tape.book.resting price,
    0 < entry.2 ∧ entry.2 = entry.1.quantity - filledOf tape.fills entry.1.orderId
  /-- only the head of a queue is filled in part -/
  touched : ∀ price, ∀ entry ∈ tape.book.resting price, entry.2 ≠ entry.1.quantity →
    (tape.book.resting price).head? = some entry
  /-- an order that rests no more is filled, or all of its issue is cancelled -/
  gone : ∀ order ∈ tape.arrivals,
    order ∉ (tape.book.resting order.limitPrice.value).map Prod.fst →
      filledOf tape.fills order.orderId = order.quantity ∨
        order.issue ∈ tape.book.halted ∧
          ∀ entry ∈ tape.book.resting order.limitPrice.value, entry.1.issue ≠ order.issue
  bounded : ∀ order ∈ tape.arrivals, filledOf tape.fills order.orderId ≤ order.quantity
  known : ∀ fill ∈ tape.fills, fill.1 ∈ tape.arrivals
  positive : ∀ fill ∈ tape.fills, fill.1.isAhead = false → 0 < fill.2

theorem kept_start : Kept .start where
  ids := List.nodup_nil
  queued _ := List.nil_sublist _
  opened _ _ h := absurd h List.not_mem_nil
  touched _ _ h := absurd h List.not_mem_nil
  gone _ h := absurd h List.not_mem_nil
  bounded _ h := absurd h List.not_mem_nil
  known _ h := absurd h List.not_mem_nil
  positive _ h := absurd h List.not_mem_nil

theorem reported_start : Reported .start where
  printed := rfl
  priority before fill after h := by
    exact absurd (congrArg List.length h) (by simp [Tape.fills, Tape.start])
  removed _ h := absurd h List.not_mem_nil
  barred _ h := absurd h List.not_mem_nil
  distinct := List.nodup_nil
  named _ h := absurd h List.not_mem_nil

section

variable {tape : Tape}

/-- An id names one order. -/
theorem Kept.eq_of_orderId (hkept : Kept tape) {order other : Order} (h : order ∈ tape.arrivals)
    (h' : other ∈ tape.arrivals) (hid : order.orderId = other.orderId) : order = other :=
  List.inj_on_of_nodup_map hkept.ids h h' hid

/-- What rests at a price came to rest, at that price. -/
theorem Kept.mem_arrivals (hkept : Kept tape) {price : ℚ} {entry : Resting}
    (h : entry ∈ tape.book.resting price) :
    entry.1 ∈ tape.arrivals ∧ entry.1.limitPrice.value = price := by
  have hmem := (hkept.queued price).subset (List.mem_map_of_mem h)
  obtain ⟨hmem, hprice⟩ := List.mem_filter.mp hmem
  exact ⟨hmem, by simpa using hprice⟩

/-- No order rests twice. -/
theorem Kept.queue_nodup (hkept : Kept tape) (price : ℚ) :
    ((tape.book.resting price).map fun entry => entry.1.orderId).Nodup := by
  have hsub := (hkept.queued price).trans (List.filter_sublist (p := fun order =>
    decide (order.limitPrice.value = price)) (l := tape.arrivals))
  have hids := (hsub.map Order.orderId).nodup hkept.ids
  rwa [List.map_map] at hids

/-- What was not taken of a queue was taken of none that rests elsewhere. -/
theorem Kept.filledOf_elsewhere (hkept : Kept tape) {price : ℚ} {fills : List Resting}
    (hfills : ∀ fill ∈ fills, fill.1 ∈ (tape.book.resting price).map Prod.fst) {order : Order}
    (horder : order ∈ tape.arrivals)
    (hnot : order ∉ (tape.book.resting price).map Prod.fst) :
    filledOf fills order.orderId = 0 := by
  apply filledOf_eq_zero
  intro fill hfill hid
  obtain ⟨entry, hentry, hfst⟩ := List.mem_map.mp (hfills fill hfill)
  have hsame := hkept.eq_of_orderId (hfst ▸ (hkept.mem_arrivals hentry).1) horder hid
  exact hnot (hsame ▸ hfills fill hfill)

/-! ## Coming to rest -/

theorem incoming_ids (order : Order) (sizeAhead : ℤ) :
    ((incoming order sizeAhead).map Order.orderId).Nodup := by
  rw [incoming]
  split_ifs with h
  · have hne : aheadMark ++ order.orderId ≠ order.orderId := by
      intro heq
      have hlength := congrArg String.length heq
      rw [String.length_append] at hlength
      have hmark : aheadMark.length = 6 := rfl
      omega
    simpa [Order.ahead] using hne
  · simp

theorem mem_incoming {order o : Order} {sizeAhead : ℤ} (h : o ∈ incoming order sizeAhead) :
    o.issue = order.issue ∧ o.limitPrice = order.limitPrice := by
  rw [incoming] at h
  split_ifs at h with hahead
  · rcases List.mem_cons.mp h with rfl | h
    · exact ⟨rfl, rfl⟩
    · rw [List.mem_singleton.mp h]
      exact ⟨rfl, rfl⟩
  · rw [List.mem_singleton.mp h]
    exact ⟨rfl, rfl⟩

/-- An order that comes to rest under an id of its own. -/
theorem kept_rest (hkept : Kept tape) {order : Order} {sizeAhead : ℤ} {book : PriceTimeBook}
    (hmeets : ∀ o ∈ incoming order sizeAhead, o.orderId ∉ tape.arrivals.map Order.orderId)
    (h : tape.book.rest order sizeAhead = .ok book) :
    Kept { tape with book, arrivals := tape.arrivals ++ incoming order sizeAhead } := by
  rw [PriceTimeBook.rest] at h
  split_ifs at h with hhalted hsize
  cases h
  have hfresh : ∀ o ∈ incoming order sizeAhead, filledOf tape.fills o.orderId = 0 := by
    intro o ho
    apply filledOf_eq_zero
    intro fill hfill hid
    exact hmeets o ho (List.mem_map.mpr ⟨fill.1, hkept.known fill hfill, hid⟩)
  have hfst : ((incoming order sizeAhead).map fun o => (o, o.quantity)).map Prod.fst =
      incoming order sizeAhead := by
    rw [List.map_map]
    exact List.map_id _
  refine ⟨?_, ?_, ?_, ?_, ?_, ?_, fun fill hfill => List.mem_append_left _ (hkept.known fill hfill),
    hkept.positive⟩
  · rw [List.map_append, List.nodup_append]
    refine ⟨hkept.ids, incoming_ids order sizeAhead, ?_⟩
    rintro _ hid _ hid' rfl
    obtain ⟨o, ho, rfl⟩ := List.mem_map.mp hid'
    exact hmeets o ho hid
  · intro price
    simp only [PriceTimeBook.setQueue, List.filter_append]
    by_cases hprice : price = order.limitPrice.value
    · have hall : (incoming order sizeAhead).filter
          (fun o => decide (o.limitPrice.value = price)) = incoming order sizeAhead := by
        rw [List.filter_eq_self]
        intro o ho
        simp [(mem_incoming ho).2, hprice]
      rw [if_pos hprice, List.map_append, hfst, hall, ← hprice]
      exact (hkept.queued price).append (List.Sublist.refl _)
    · rw [if_neg hprice]
      exact (hkept.queued price).trans (List.sublist_append_left _ _)
  · intro price entry hentry
    simp only [PriceTimeBook.setQueue] at hentry
    split_ifs at hentry with hprice
    · rcases List.mem_append.mp hentry with hentry | hentry
      · exact hkept.opened _ entry hentry
      · obtain ⟨o, ho, rfl⟩ := List.mem_map.mp hentry
        refine ⟨o.quantity_pos, ?_⟩
        have hnone := hfresh o ho
        rw [Tape.fills] at hnone ⊢
        rw [hnone, sub_zero]
    · exact hkept.opened _ entry hentry
  · intro price entry hentry htouched
    simp only [PriceTimeBook.setQueue] at hentry ⊢
    split_ifs at hentry ⊢ with hprice
    · rcases List.mem_append.mp hentry with hentry | hentry
      · rw [List.head?_append, hkept.touched _ entry hentry htouched]
        rfl
      · obtain ⟨o, -, rfl⟩ := List.mem_map.mp hentry
        exact absurd rfl htouched
    · exact hkept.touched _ entry hentry htouched
  · intro o ho hnot
    simp only [PriceTimeBook.setQueue] at hnot ⊢
    rcases List.mem_append.mp ho with ho | ho
    · by_cases hprice : o.limitPrice.value = order.limitPrice.value
      · rw [if_pos hprice, List.map_append, List.mem_append, not_or, ← hprice] at hnot
        rw [if_pos hprice]
        rcases hkept.gone o ho hnot.1 with hfilled | ⟨hbarred, hcancelled⟩
        · exact .inl hfilled
        · refine .inr ⟨hbarred, fun entry hentry => ?_⟩
          rcases List.mem_append.mp hentry with hentry | hentry
          · exact hcancelled entry (hprice ▸ hentry)
          · obtain ⟨new, hnew, rfl⟩ := List.mem_map.mp hentry
            intro hissue
            rw [(mem_incoming hnew).1] at hissue
            exact hhalted (hissue ▸ hbarred)
      · rw [if_neg hprice] at hnot ⊢
        exact hkept.gone o ho hnot
    · rw [if_pos (by rw [(mem_incoming ho).2]), List.map_append, hfst] at hnot
      exact absurd (List.mem_append_right _ ho) hnot
  · intro o ho
    rcases List.mem_append.mp ho with ho | ho
    · exact hkept.bounded o ho
    · have hnone := hfresh o ho
      rw [Tape.fills] at hnone ⊢
      rw [hnone]
      exact o.quantity_pos.le

/-- Of two orders that came to rest, which is the earlier does not depend on later ones. -/
theorem earlier_of_append {xs ys : List Order} {earlier later : Order}
    (h : Earlier (xs ++ ys) earlier later) (hlater : later ∈ xs)
    (hnodup : (xs ++ ys).Nodup) : Earlier xs earlier later := by
  obtain ⟨front, back, hsplit, hfront, hback⟩ := List.sublist_append_iff.mp h
  rcases back.eq_nil_or_concat with rfl | ⟨rest, last, rfl⟩
  · rw [List.append_nil] at hsplit
    rw [Earlier, hsplit]
    exact hfront
  · -- the later one would come again
    have hlast : last = later := by
      have := congrArg List.getLast? hsplit
      simpa using this.symm
    have hmem : later ∈ ys := hback.subset (by simp [hlast])
    exact absurd rfl ((List.nodup_append.mp hnodup).2.2 later hlater later hmem)

theorem reported_rest (hkept : Kept tape) (hreported : Reported tape) {order : Order}
    {sizeAhead : ℤ} {book : PriceTimeBook}
    (hnext : Kept { tape with book, arrivals := tape.arrivals ++ incoming order sizeAhead }) :
    Reported { tape with book, arrivals := tape.arrivals ++ incoming order sizeAhead } := by
  refine ⟨hreported.printed, ?_, hreported.removed, hreported.barred, hreported.distinct,
    hreported.named⟩
  intro before fill after hfills earlier hearlier
  have hmem : fill ∈ tape.fills := by
    change tape.fills = _ at hfills
    rw [hfills]
    simp
  exact hreported.priority before fill after hfills earlier
    (earlier_of_append hearlier (hkept.known fill hmem) (List.Nodup.of_map _ hnext.ids))

/-! ## Halting -/

theorem kept_halt (hkept : Kept tape) (issue : String) (cancelResting : Bool) :
    Kept { tape with book := tape.book.halt issue cancelResting } := by
  have hhalted : ∀ {other}, other ∈ tape.book.halted →
      other ∈ (tape.book.halt issue cancelResting).halted := fun h => List.mem_insert_of_mem h
  have hsub : ∀ price, ((tape.book.halt issue cancelResting).resting price).Sublist
      (tape.book.resting price) := by
    intro price
    simp only [PriceTimeBook.halt]
    split_ifs
    · exact List.filter_sublist
    · exact List.Sublist.refl _
  refine ⟨hkept.ids, fun price => ((hsub price).map _).trans (hkept.queued price),
    fun price entry h => hkept.opened price entry ((hsub price).subset h), ?_, ?_, hkept.bounded,
    hkept.known, hkept.positive⟩
  · intro price entry hentry htouched
    have hhead := hkept.touched price entry ((hsub price).subset hentry) htouched
    simp only [PriceTimeBook.halt] at hentry ⊢
    split_ifs at hentry ⊢ with hcancel
    · obtain ⟨rest, hqueue⟩ := List.head?_eq_some_iff.mp hhead
      rw [hqueue, List.filter_cons, if_pos (List.mem_filter.mp hentry).2]
      rfl
    · exact hhead
  · intro order horder hnot
    by_cases hrests : order ∈ (tape.book.resting order.limitPrice.value).map Prod.fst
    · -- it is cancelled by this call
      obtain ⟨entry, hentry, rfl⟩ := List.mem_map.mp hrests
      simp only [PriceTimeBook.halt] at hnot ⊢
      split_ifs at hnot ⊢ with hcancel
      · have hissue : entry.1.issue = issue := by
          by_contra hother
          refine hnot (List.mem_map.mpr ⟨entry, List.mem_filter.mpr ⟨hentry, ?_⟩, rfl⟩)
          simpa using hother
        refine .inr ⟨by simp [hissue], fun other hother => ?_⟩
        rw [hissue]
        simpa using (List.mem_filter.mp hother).2
      · exact absurd hrests hnot
    · rcases hkept.gone order horder hrests with hfilled | ⟨hbarred, hcancelled⟩
      · exact .inl hfilled
      · exact .inr ⟨hhalted hbarred, fun entry h => hcancelled entry ((hsub _).subset h)⟩

/-! ## Executing -/

/-- The tape after an execution that returned. -/
def Tape.executed (tape : Tape) (call : Execution) (prints : List Print) : Tape :=
  let queue := tape.book.resting call.price.value
  let done := matchQueue call call.quantity 0 queue
  { tape with
    book := tape.book.setQueue call.price.value done.queue
    executions := tape.executions ++ [⟨call, tape.book.halted, queue, done.queue,
      fillsOf call.quantity queue, done.remaining, prints⟩] }

theorem Tape.fills_executed (tape : Tape) (call : Execution) (prints : List Print) :
    (tape.executed call prints).fills =
      tape.fills ++ fillsOf call.quantity (tape.book.resting call.price.value) := by
  simp [Tape.executed, Tape.fills]

theorem Tape.prints_executed (tape : Tape) (call : Execution) (prints : List Print) :
    (tape.executed call prints).prints = tape.prints ++ prints := by
  simp [Tape.executed, Tape.prints]

/-- An execution leaves other queues, and changes the one of its price as it takes of it. -/
theorem resting_executed (tape : Tape) (call : Execution) (prints : List Print) (price : ℚ) :
    (tape.executed call prints).book.resting price =
      if price = call.price.value then
        (matchQueue call call.quantity 0 (tape.book.resting call.price.value)).queue
      else tape.book.resting price := rfl

theorem kept_executed (hkept : Kept tape) {call : Execution} {prints : List Print}
    (hends : Ends call call.quantity 0 (tape.book.resting call.price.value)) :
    Kept (tape.executed call prints) := by
  have hresting := resting_executed tape call prints
  have hfills := tape.fills_executed call prints
  have hqueue := hkept.queue_nodup call.price.value
  obtain ⟨-, hmatched, -, -⟩ := hends
  generalize (matchQueue call call.quantity 0 (tape.book.resting call.price.value)).queue = left
    at hresting hmatched
  generalize fillsOf call.quantity (tape.book.resting call.price.value) = fills at hfills hmatched
  have hopen : ∀ entry ∈ tape.book.resting call.price.value, 0 < entry.2 := fun entry hentry =>
    (hkept.opened _ entry hentry).1
  have hmem : ∀ fill ∈ fills, fill.1 ∈ tape.arrivals := by
    intro fill hfill
    obtain ⟨entry, hentry, hfst⟩ := List.mem_map.mp (hmatched.mem.1 fill hfill)
    exact hfst ▸ (hkept.mem_arrivals hentry).1
  -- what was taken of an order that rests elsewhere, or no more, is as it was
  have hsame : ∀ {order : Order}, order ∈ tape.arrivals →
      order ∉ (tape.book.resting call.price.value).map Prod.fst →
        filledOf (tape.executed call prints).fills order.orderId =
          filledOf tape.fills order.orderId := by
    intro order horder hnot
    rw [hfills, filledOf_append, hkept.filledOf_elsewhere hmatched.mem.1 horder hnot, add_zero]
  have helsewhere : ∀ {price : ℚ} {entry : Resting}, price ≠ call.price.value →
      entry ∈ tape.book.resting price →
        entry.1 ∉ (tape.book.resting call.price.value).map Prod.fst := by
    intro price entry hprice hentry hthere
    obtain ⟨other, hother, hfst⟩ := List.mem_map.mp hthere
    refine hprice ?_
    rw [← (hkept.mem_arrivals hentry).2, ← hfst, (hkept.mem_arrivals hother).2]
  refine ⟨hkept.ids, ?_, ?_, ?_, ?_, ?_, ?_, ?_⟩
  · intro price
    rw [hresting]
    split_ifs with hprice
    · rw [hprice]
      exact hmatched.mem.2.trans (hkept.queued call.price.value)
    · exact hkept.queued price
  · intro price entry hentry
    rw [hresting] at hentry
    split_ifs at hentry with hprice
    · obtain ⟨hpos, ⟨hthere, hnone⟩ | ⟨-, hthere⟩⟩ := hmatched.of_mem_left hqueue hopen hentry
      · refine ⟨hpos, ?_⟩
        rw [hfills, filledOf_append, hnone, add_zero]
        exact (hkept.opened _ entry hthere).2
      · have hbefore := (hkept.opened _ _ hthere).2
        refine ⟨hpos, ?_⟩
        rw [hfills, filledOf_append]
        simp only at hbefore
        omega
    · rw [hsame (hkept.mem_arrivals hentry).1 (helsewhere hprice hentry)]
      exact hkept.opened price entry hentry
  · intro price entry hentry htouched
    rw [hresting] at hentry ⊢
    split_ifs at hentry ⊢ with hprice
    · obtain ⟨-, ⟨hthere, hnone⟩ | ⟨hhead, -⟩⟩ := hmatched.of_mem_left hqueue hopen hentry
      · -- only the head was touched before, and it was not left as it was unless nothing was taken
        have hhead := hkept.touched _ entry hthere htouched
        exact hmatched.head?_of_left hqueue hhead hentry
      · exact hhead
    · exact hkept.touched price entry hentry htouched
  · intro order horder hnot
    rw [hresting] at hnot
    have hbarred : ∀ {other : String}, other ∈ tape.book.halted →
        other ∈ (tape.executed call prints).book.halted := id
    by_cases hrests : order ∈ (tape.book.resting order.limitPrice.value).map Prod.fst
    · by_cases hprice : order.limitPrice.value = call.price.value
      · rw [if_pos hprice] at hnot
        obtain ⟨entry, hentry, rfl⟩ := List.mem_map.mp hrests
        rw [hprice] at hentry
        have hwhole := (hmatched.of_mem_queue hqueue hopen hentry).2 hnot
        left
        rw [hfills, filledOf_append, hwhole, (hkept.opened _ entry hentry).2]
        ring
      · rw [if_neg hprice] at hnot
        exact absurd hrests hnot
    · have hnowhere : order ∉ (tape.book.resting call.price.value).map Prod.fst := by
        intro hthere
        obtain ⟨entry, hentry, rfl⟩ := List.mem_map.mp hthere
        rw [(hkept.mem_arrivals hentry).2] at hrests
        exact hrests hthere
      rcases hkept.gone order horder hrests with hfilled | ⟨hhalted, hcancelled⟩
      · left
        rw [hsame horder hnowhere, hfilled]
      · refine .inr ⟨hbarred hhalted, fun entry hentry => ?_⟩
        rw [hresting] at hentry
        split_ifs at hentry with hprice
        · have hsub := hmatched.mem.2.subset (List.mem_map_of_mem (f := Prod.fst) hentry)
          obtain ⟨other, hother, hfst⟩ := List.mem_map.mp hsub
          rw [← hfst]
          exact hcancelled other (hprice ▸ hother)
        · exact hcancelled entry hentry
  · intro order horder
    by_cases hrests : order ∈ (tape.book.resting call.price.value).map Prod.fst
    · obtain ⟨entry, hentry, rfl⟩ := List.mem_map.mp hrests
      have hopened := (hkept.opened _ entry hentry).2
      have htaken := (hmatched.of_mem_queue hqueue hopen hentry).1
      rw [hfills, filledOf_append]
      omega
    · rw [hsame horder hrests]
      exact hkept.bounded order horder
  · intro fill hfill
    rw [hfills] at hfill
    exact (List.mem_append.mp hfill).elim (hkept.known fill) (hmem fill)
  · intro fill hfill
    rw [hfills] at hfill
    exact (List.mem_append.mp hfill).elim (hkept.positive fill) (hmatched.positive hopen fill)

/-- Two orders of a queue come in the order in which they came to rest. -/
theorem Kept.not_earlier (hkept : Kept tape) {price : ℚ} {before rest : List Resting}
    {order : Order} {openQuantity : ℤ}
    (hqueue : tape.book.resting price = before ++ (order, openQuantity) :: rest) {earlier : Order}
    (hearlier : Earlier tape.arrivals earlier order) : earlier ∉ rest.map Prod.fst := by
  intro hrest
  have hnodup : tape.arrivals.Nodup := List.Nodup.of_map _ hkept.ids
  have hlater : [order, earlier].Sublist tape.arrivals := by
    refine List.Sublist.trans ?_ ((hkept.queued price).trans List.filter_sublist)
    rw [hqueue, List.map_append, List.map_cons]
    refine List.Sublist.trans ?_ (List.sublist_append_right _ _)
    exact (List.singleton_sublist.mpr hrest).cons_cons order
  -- two orders that each come before the other would come twice
  obtain ⟨front, back, hsplit, hfront, hback⟩ := List.cons_sublist_iff.mp hearlier
  rw [hsplit, List.nodup_append] at hnodup
  rw [hsplit] at hlater
  have hback := List.singleton_sublist.mp hback
  obtain ⟨left, right, hpair, hleft, hright⟩ := List.sublist_append_iff.mp hlater
  rcases left with _ | ⟨first, left⟩
  · have hmem : earlier ∈ back := hright.subset (by rw [← List.nil_append right, ← hpair]; simp)
    exact hnodup.2.2 earlier hfront earlier hmem rfl
  · have hfirst : first = order := (List.cons.inj hpair).1.symm
    have hmem : order ∈ front := hleft.subset (by rw [hfirst]; simp)
    exact hnodup.2.2 order hmem order hback rfl

/-- Of an order something is taken only after every earlier one of its issue and price is filled,
in the executions before and in this one. -/
theorem priority_executed (hkept : Kept tape) (hreported : Reported tape) {price : ℚ}
    {fills left : List Resting} (hmatched : Matched (tape.book.resting price) fills left)
    {before after : List Resting} {fill : Resting}
    (hfills : tape.fills ++ fills = before ++ fill :: after) {earlier : Order}
    (hearlier : Earlier tape.arrivals earlier fill.1) (hissue : earlier.issue = fill.1.issue)
    (hprice : earlier.limitPrice.value = fill.1.limitPrice.value) :
    filledOf before earlier.orderId = earlier.quantity := by
  have hcame : earlier ∈ tape.arrivals := hearlier.subset (by simp)
  have hnew : ∀ more, fills = more ++ fill :: after →
      filledOf (tape.fills ++ more) earlier.orderId = earlier.quantity := by
    intro more hmore
    obtain ⟨openQuantity, rest, hqueue⟩ := hmatched.split hmore
    have hthere : (fill.1, openQuantity) ∈ tape.book.resting price := by
      rw [hqueue]
      simp
    have hat : earlier.limitPrice.value = price := hprice.trans (hkept.mem_arrivals hthere).2
    have hqueued : ∀ entry ∈ more, entry ∈ tape.book.resting price := by
      intro entry hentry
      rw [hqueue]
      exact List.mem_append_left _ hentry
    rw [filledOf_append]
    by_cases hrests : earlier ∈ (tape.book.resting price).map Prod.fst
    · obtain ⟨entry, hentry, rfl⟩ := List.mem_map.mp hrests
      have hfront : entry ∈ more := by
        rw [hqueue] at hentry
        rcases List.mem_append.mp hentry with hentry | hentry
        · exact hentry
        rcases List.mem_cons.mp hentry with hsame | hentry
        · have hpair := hearlier.nodup (List.Nodup.of_map _ hkept.ids)
          rw [hsame] at hpair
          simp at hpair
        · exact absurd (List.mem_map_of_mem hentry) (hkept.not_earlier hqueue hearlier)
      have hnodup : (more.map fun entry => entry.1.orderId).Nodup := by
        have hall := hkept.queue_nodup price
        rw [hqueue, List.map_append] at hall
        exact (List.nodup_append.mp hall).1
      rw [filledOf_of_mem hnodup hfront, (hkept.opened price entry hentry).2]
      ring
    · have hnone : filledOf more earlier.orderId = 0 :=
        hkept.filledOf_elsewhere (fun entry hentry => List.mem_map_of_mem (hqueued entry hentry))
          hcame hrests
      rw [hnone, add_zero]
      rw [← hat] at hrests
      rcases hkept.gone earlier hcame hrests with hfilled | ⟨-, hcancelled⟩
      · exact hfilled
      · exact absurd hissue.symm (hcancelled (fill.1, openQuantity) (hat ▸ hthere))
  obtain ⟨more, rfl, hmore⟩ | ⟨more, hbefore, hmore⟩ := List.append_eq_append_iff.mp hfills
  · exact hnew more hmore
  · rcases more with _ | ⟨first, more⟩
    · have hall := hnew [] hmore.symm
      rwa [hbefore, List.append_nil, List.append_nil] at hall
    · obtain ⟨rfl, -⟩ := List.cons.inj hmore
      exact hreported.priority before fill more hbefore earlier hearlier hissue hprice

/-! ## What is printed -/

/-- Of an order that was printed something was taken. -/
theorem filledOf_pos_of_print (hkept : Kept tape) (hreported : Reported tape) {print : Print}
    (hprint : print ∈ tape.prints) {order : Order}
    (hid : print.orderId = order.orderId) : 0 < filledOf tape.fills order.orderId := by
  have hmem := List.mem_map_of_mem
    (f := fun print : Print => (print.orderId, print.issue, print.quantity)) hprint
  rw [hreported.printed] at hmem
  obtain ⟨fill, hfill, hsame⟩ := List.mem_map.mp hmem
  obtain ⟨hfill, hreal⟩ := List.mem_filter.mp hfill
  have hfillId : fill.1.orderId = order.orderId := by
    rw [← hid]
    exact (Prod.mk.inj hsame).1
  have hpositive : ∀ other ∈ tape.fills, other.1.orderId = order.orderId → 0 < other.2 := by
    intro other hother hsameId
    have hsameOrder := hkept.eq_of_orderId (hkept.known other hother) (hkept.known fill hfill)
      (hsameId.trans hfillId.symm)
    refine hkept.positive other hother ?_
    rw [hsameOrder]
    simpa using hreal
  rw [filledOf, openTotal]
  refine List.sum_pos _ ?_ ?_
  · intro quantity hquantity
    obtain ⟨other, hother, rfl⟩ := List.mem_map.mp hquantity
    obtain ⟨hother, hsameId⟩ := List.mem_filter.mp hother
    exact hpositive other hother (by simpa using hsameId)
  · rw [ne_eq, List.map_eq_nil_iff, List.filter_eq_nil_iff]
    intro hnone
    exact hnone fill hfill (by simpa using hfillId)

/-- An order that was printed and is printed again heads the queue, and is printed as number
zero. -/
theorem first_of_printed_again (hkept : Kept tape) (hreported : Reported tape) {call : Execution}
    (hends : Ends call call.quantity 0 (tape.book.resting call.price.value)) {print : Print}
    (hprint : print ∈ tape.prints) {fill : Resting} {number : ℕ}
    (hfill : (fill, number) ∈
      (printedFills (fillsOf call.quantity (tape.book.resting call.price.value))).zipIdx 0)
    (hid : print.orderId = fill.1.orderId) :
    number = 0 ∧ 0 < call.quantity ∧ ∃ entry,
      (tape.book.resting call.price.value).head? = some entry ∧ entry.1 = fill.1 ∧
        entry.1.isAhead = false := by
  obtain ⟨hmem, hreal⟩ := List.mem_filter.mp (List.fst_mem_of_mem_zipIdx hfill)
  have hahead : fill.1.isAhead = false := by simpa using hreal
  obtain ⟨before, after, hfills⟩ := List.append_of_mem hmem
  obtain ⟨openQuantity, rest, hqueue⟩ := hends.matched.split hfills
  have hopen : ∀ entry ∈ tape.book.resting call.price.value, 0 < entry.2 := fun entry hentry =>
    (hkept.opened _ entry hentry).1
  have hentry : (fill.1, openQuantity) ∈ tape.book.resting call.price.value := by
    rw [hqueue]
    simp
  have htaken := filledOf_pos_of_print hkept hreported hprint hid
  have htouched : openQuantity ≠ fill.1.quantity := by
    have hopened := (hkept.opened _ _ hentry).2
    simp only at hopened htaken
    omega
  have hhead := hkept.touched _ _ hentry htouched
  -- the head of the queue is the first that is given anything
  have hfront : before = [] := by
    rcases before with _ | ⟨first, before⟩
    · rfl
    · rw [hqueue, List.cons_append, List.head?_cons, Option.some_inj] at hhead
      have hnodup := hkept.queue_nodup call.price.value
      rw [hqueue, List.cons_append, List.map_cons, List.nodup_cons, hhead] at hnodup
      exact absurd (List.mem_map.mpr ⟨(fill.1, openQuantity), by simp, rfl⟩) hnodup.1
  have hnumber : number = 0 := by
    have hnodup := (hends.matched.ids.nodup (hkept.queue_nodup call.price.value)).of_map
    rw [hfills, hfront, List.nil_append] at hfill hnodup
    rw [printedFills, List.filter_cons_of_pos (by simp [hahead]), List.zipIdx_cons] at hfill
    rcases List.mem_cons.mp hfill with hsame | hlater
    · exact (Prod.mk.inj hsame).2
    · have hagain := (List.mem_filter.mp (List.fst_mem_of_mem_zipIdx hlater)).1
      exact absurd hagain (List.nodup_cons.mp hnodup).1
  have hpositive := (hends.reaches hopen hahead hfills).1
  rw [hfront] at hpositive
  exact ⟨hnumber, hpositive, _, hhead, rfl, hahead⟩

theorem reported_executed (hkept : Kept tape) (hreported : Reported tape) {call : Execution}
    (hmeets : Meets tape (.execute call))
    (hends : Ends call call.quantity 0 (tape.book.resting call.price.value)) :
    Reported (tape.executed call
      (matchQueue call call.quantity 0 (tape.book.resting call.price.value)).prints) := by
  have hfills := tape.fills_executed call
    (matchQueue call call.quantity 0 (tape.book.resting call.price.value)).prints
  have hprints := tape.prints_executed call
    (matchQueue call call.quantity 0 (tape.book.resting call.price.value)).prints
  have hprinted := hends.prints
  have hopen : ∀ entry ∈ tape.book.resting call.price.value, 0 < entry.2 := fun entry hentry =>
    (hkept.opened _ entry hentry).1
  obtain ⟨hreached, hhead⟩ := hmeets
  refine ⟨?_, ?_, ?_, ?_, ?_, ?_⟩
  · have hnew := congrArg (List.map fun said : String × String × String × ℤ => said.2) hprinted
    have hnumbered := List.zipIdx_map_fst 0
      (printedFills (fillsOf call.quantity (tape.book.resting call.price.value)))
    rw [hprints, hfills, printedFills, List.filter_append, List.map_append, List.map_append,
      hreported.printed]
    refine congrArg _ ?_
    rw [List.map_map, List.map_map] at hnew
    refine hnew.trans ?_
    change _ = (printedFills _).map _
    conv_rhs => rw [← hnumbered, List.map_map]
    rfl
  · intro before fill after hall earlier hearlier hissue hprice
    rw [hfills] at hall
    exact priority_executed hkept hreported hends.matched hall hearlier hissue hprice
  · intro executed hexecuted
    rcases List.mem_append.mp hexecuted with hexecuted | hexecuted
    · exact hreported.removed executed hexecuted
    · rw [List.mem_singleton.mp hexecuted]
      exact ⟨hends.taken, hends.matched.total⟩
  · intro executed hexecuted print hprint
    rcases List.mem_append.mp hexecuted with hexecuted | hexecuted
    · exact hreported.barred executed hexecuted print hprint
    · rw [List.mem_singleton.mp hexecuted] at hprint ⊢
      obtain ⟨fill, number, hfill, -, -, hissue⟩ := exists_fill_of_print hprinted hprint
      obtain ⟨hmem, hreal⟩ := List.mem_filter.mp (List.fst_mem_of_mem_zipIdx hfill)
      have hahead : fill.1.isAhead = false := by simpa using hreal
      obtain ⟨before, after, hsplit⟩ := List.append_of_mem hmem
      rw [hissue]
      exact (hreached fill.1 hahead (hends.reaches hopen hahead hsplit).2).2
  · rw [hprints, List.map_append, List.nodup_append]
    refine ⟨hreported.distinct, ?_, ?_⟩
    · -- the ids of one execution differ in their numbers
      have hids : (matchQueue call call.quantity 0
          (tape.book.resting call.price.value)).prints.map Print.printId =
          ((printedFills (fillsOf call.quantity
            (tape.book.resting call.price.value))).zipIdx 0).map fun numbered =>
              printId numbered.2 numbered.1.1.orderId := by
        have hfirst := congrArg (List.map Prod.fst) hprinted
        rw [List.map_map, List.map_map] at hfirst
        exact hfirst
      rw [hids]
      have hnumbers : (((printedFills (fillsOf call.quantity
          (tape.book.resting call.price.value))).zipIdx 0).map Prod.snd).Nodup := by
        rw [List.zipIdx_map_snd]
        exact List.nodup_range'
      refine List.Nodup.map_on ?_ hnumbers.of_map
      intro one hone other hother hsame
      exact List.inj_on_of_nodup_map hnumbers hone hother (printId_inj hsame).1
    · intro old hold new hnew hsame
      obtain ⟨print, hprint, rfl⟩ := List.mem_map.mp hold
      obtain ⟨later, hlater, rfl⟩ := List.mem_map.mp hnew
      obtain ⟨fill, number, hfill, hid, -, -⟩ := exists_fill_of_print hprinted hlater
      obtain ⟨before, hnamed⟩ := hreported.named print hprint
      have horder : print.orderId = fill.1.orderId :=
        (printId_inj (hnamed.symm.trans (hsame.trans hid))).2
      obtain ⟨rfl, hquantity, entry, hfirst, hentry, hahead⟩ :=
        first_of_printed_again hkept hreported hends hprint hfill horder
      refine hhead entry hfirst hahead hquantity ?_
      rw [hentry, ← hid, ← hsame]
      exact List.mem_map_of_mem hprint
  · intro print hprint
    rw [hprints] at hprint
    rcases List.mem_append.mp hprint with hprint | hprint
    · exact hreported.named print hprint
    · obtain ⟨fill, number, -, hid, horder, -⟩ := exists_fill_of_print hprinted hprint
      exact ⟨number, by rw [hid, horder]⟩

/-- An execution that is refused leaves the book as it is. -/
theorem advance_execute (hkept : Kept tape) {call : Execution}
    (hmeets : Meets tape (.execute call)) :
    advance tape (.execute call) = tape ∨
      Ends call call.quantity 0 (tape.book.resting call.price.value) ∧
        advance tape (.execute call) = tape.executed call
          (matchQueue call call.quantity 0 (tape.book.resting call.price.value)).prints := by
  have hopen : ∀ entry ∈ tape.book.resting call.price.value, 0 < entry.2 := fun entry hentry =>
    (hkept.opened _ entry hentry).1
  by_cases hnegative : call.quantity < 0 → ∀ entry,
      (tape.book.resting call.price.value).head? = some entry → entry.1.isAhead = true
  · have hends : Ends call call.quantity 0 (tape.book.resting call.price.value) :=
      ends_matchQueue hopen (fun order hahead h => (hmeets.1 order hahead h).1) hnegative
    refine .inr ⟨hends, ?_⟩
    simp only [advance, PriceTimeBook.execute, hends.refused]
    rfl
  · -- a quantity below zero is no print of the order that heads the queue
    push Not at hnegative
    obtain ⟨hquantity, ⟨order, openQuantity⟩, hhead, hahead⟩ := hnegative
    obtain ⟨rest, hqueue⟩ := List.head?_eq_some_iff.mp hhead
    have hpos : 0 < openQuantity := hopen (order, openQuantity) (by simp [hqueue])
    have hprint : ∃ e, call.print 0 order (min openQuantity call.quantity) = .error e := by
      rw [Execution.print]
      cases plusSeconds call.matchedAt call.reportDelay with
      | error e => exact ⟨e, rfl⟩
      | ok reportedAt => exact ⟨_, dif_neg (by omega)⟩
    obtain ⟨e, hrefused⟩ := hprint
    have hmatch : matchQueue call call.quantity 0 (tape.book.resting call.price.value) =
        ⟨tape.book.resting call.price.value, call.quantity, [], some e⟩ := by
      rw [hqueue, matchQueue, if_neg (by omega)]
      simp only [hrefused]
      rw [if_neg hahead]
      rfl
    have hbook : tape.book.setQueue call.price.value (tape.book.resting call.price.value) =
        tape.book := by
      have hsame : (fun other : ℚ => if other = call.price.value then
          tape.book.resting call.price.value else tape.book.resting other) =
          tape.book.resting := by
        funext other
        split_ifs with h
        · rw [h]
        · rfl
      rw [PriceTimeBook.setQueue, hsame]
    left
    simp only [advance, PriceTimeBook.execute, hmatch, hbook]

/-- One call that meets the condition keeps what a run keeps. -/
theorem kept_reported_advance (hkept : Kept tape) (hreported : Reported tape) {action : Action}
    (hmeets : Meets tape action) :
    Kept (advance tape action) ∧ Reported (advance tape action) := by
  cases action with
  | rest order sizeAhead =>
    rw [advance]
    cases hrest : tape.book.rest order sizeAhead with
    | error e => exact ⟨hkept, hreported⟩
    | ok book =>
      have hfresh : ∀ o ∈ incoming order sizeAhead,
          o.orderId ∉ tape.arrivals.map Order.orderId := by
        rw [PriceTimeBook.rest] at hrest
        split_ifs at hrest with hhalted hsize
        exact hmeets hhalted (not_lt.mp hsize)
      have hnext := kept_rest hkept hfresh hrest
      exact ⟨hnext, reported_rest hkept hreported hnext⟩
  | execute call =>
    rcases advance_execute hkept hmeets with hsame | ⟨hends, hexecuted⟩
    · rw [hsame]
      exact ⟨hkept, hreported⟩
    · rw [hexecuted]
      exact ⟨kept_executed hkept hends, reported_executed hkept hreported hmeets hends⟩
  | halt issue cancelResting =>
    refine ⟨kept_halt hkept issue cancelResting, ?_⟩
    exact ⟨hreported.printed, hreported.priority, hreported.removed, hreported.barred,
      hreported.distinct, hreported.named⟩

/-- The prints of an order total what was taken of it, and nothing where it is size ahead. -/
theorem total_le (hkept : Kept tape) (hreported : Reported tape) {order : Order}
    (horder : order ∈ tape.arrivals) :
    ((tape.prints.filter fun print => print.orderId = order.orderId).map Print.quantity).sum ≤
      order.quantity := by
  have hprinted := congrArg (fun said : List (String × String × ℤ) =>
    (said.filter fun said => said.1 = order.orderId).map fun said => said.2.2) hreported.printed
  simp only [List.filter_map, List.map_map] at hprinted
  have hquantities : (tape.prints.filter fun print => print.orderId = order.orderId).map
      Print.quantity = ((printedFills tape.fills).filter
        fun fill => fill.1.orderId = order.orderId).map Prod.snd := hprinted
  rw [hquantities]
  have hsame : ∀ fill ∈ tape.fills, fill.1.orderId = order.orderId → fill.1 = order :=
    fun fill hfill hid => hkept.eq_of_orderId (hkept.known fill hfill) horder hid
  by_cases hahead : order.isAhead = true
  · have hnone : (printedFills tape.fills).filter (fun fill => fill.1.orderId = order.orderId) =
        [] := by
      rw [List.filter_eq_nil_iff]
      intro fill hfill hid
      obtain ⟨hmem, hreal⟩ := List.mem_filter.mp hfill
      rw [hsame fill hmem (by simpa using hid), hahead] at hreal
      cases hreal
    rw [hnone]
    exact order.quantity_pos.le
  · have hall : (printedFills tape.fills).filter (fun fill => fill.1.orderId = order.orderId) =
        tape.fills.filter fun fill => fill.1.orderId = order.orderId := by
      rw [printedFills, List.filter_filter]
      apply List.filter_congr
      intro fill hfill
      by_cases hid : fill.1.orderId = order.orderId
      · rw [hsame fill hfill hid]
        simpa using hahead
      · simp [hid]
    rw [hall]
    exact hkept.bounded order horder

theorem kept_reported_of_reached (h : Reached tape) : Kept tape ∧ Reported tape := by
  induction h with
  | start => exact ⟨kept_start, reported_start⟩
  | step _ hmeets ih => exact kept_reported_advance ih.1 ih.2 hmeets

/-- Every run whose calls meet the condition is orderly: no order is printed beyond its quantity or
before an earlier one of its issue and price is filled, what is executed is what the book loses,
nothing is printed of a halted issue, and no print id comes twice. -/
theorem orderly_of_reached (h : Reached tape) : Orderly tape := by
  obtain ⟨hkept, hreported⟩ := kept_reported_of_reached h
  exact ⟨hreported, fun order horder => total_le hkept hreported horder⟩

end

/-! ## Some runs -/

/-- An order of ten, and the calls that execute so much of it. -/
def ofTen : Order where
  orderId := "ORDER-63"
  issue := "ISSUE-63"
  quantity := 10
  limitPrice := ⟨false, 63, 0⟩
  quantity_pos := by norm_num

def executing (quantity : ℤ) : Execution where
  price := ⟨false, 63, 0⟩
  quantity := quantity
  matchedAt := .utc (.of 2026 6 3) 37800000000

/-- The order rests behind five, and eight are executed: three of them are its own. -/
theorem orderly_of_reached_ten :
    Orderly (advance (advance .start (.rest ofTen 5)) (.execute (executing 8))) := by
  refine orderly_of_reached (.step (.step .start ?_) ?_)
  · intro _ _ o _ hid
    cases hid
  · refine ⟨fun order _ _ => ⟨⟨_, rfl⟩, List.not_mem_nil⟩, ?_⟩
    intro entry _ _ _ hid
    cases hid

/-- An order that is executed in two calls is printed under one id twice; an order that a halt
leaves at rest is printed while its issue is halted. -/
theorem orderly_of_reached_misses :
    ¬ Orderly ([.rest ofTen 0, .execute (executing 4), .execute (executing 6)].foldl advance
        .start) ∧
      ¬ Orderly ([.rest ofTen 0, .halt "ISSUE-63" false, .execute (executing 10)].foldl advance
        .start) := by
  constructor
  · intro h
    have hdistinct := h.distinct
    revert hdistinct
    decide +kernel
  · intro h
    have hbarred := h.barred
    revert hbarred
    decide +kernel

end Simulator

end Atreides
