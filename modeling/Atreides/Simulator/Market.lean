import Mathlib.Data.Rat.Defs
import Atreides.Foundation.Decimal.Exact
import Atreides.Foundation.Timestamp

/-!
# A price-time market

One synthetic venue. Orders rest at their price in the order in which they come, the orders of all
issues of one price in one queue; an execution at a price fills the queue from its front and
prints what it fills. A halt bars an issue, and may cancel what rests of it.

## Main definitions

* `Order`, `Print` — what rests, and what is reported
* `PriceTimeBook.rest`, `PriceTimeBook.execute`, `PriceTimeBook.halt` — the calls
* `matchQueue` — the loop of an execution
-/

namespace Atreides

namespace Simulator

/-! ## Orders and prints -/

structure Order where
  orderId : String
  issue : String
  quantity : ℤ
  limitPrice : FiniteDecimal
  quantity_pos : 0 < quantity
  deriving DecidableEq

structure Print where
  printId : String
  orderId : String
  issue : String
  quantity : ℤ
  price : FiniteDecimal
  matchedAt : Timestamp
  reportedAt : Timestamp
  quantity_pos : 0 < quantity
  deriving DecidableEq

/-- What the id of size ahead of an order begins with. -/
def aheadMark : String := "AHEAD-"

/-- The size that rests ahead of an order, as an order of its own. -/
def Order.ahead (order : Order) (size : ℤ) (h : 0 < size) : Order :=
  { order with orderId := aheadMark ++ order.orderId, quantity := size, quantity_pos := h }

/-- The order stands for size ahead, which is not printed. -/
def Order.isAhead (order : Order) : Bool := aheadMark.toList.isPrefixOf order.orderId.toList

/-- The time so many seconds later. -/
def plusSeconds (time : Timestamp) (seconds : ℤ) : Outcome Timestamp := do
  let moved : ℤ := time.microsecondOfDay + seconds * 1000000
  let date ← time.date.addDays (moved / microsecondsPerDay)
  .ok ⟨date, (moved % microsecondsPerDay).toNat, time.utcOffset, by
    have hlow := Int.emod_nonneg moved (b := microsecondsPerDay) (by decide)
    have hhigh := Int.emod_lt_of_pos moved (b := microsecondsPerDay) (by decide)
    omega⟩

/-! ## The book -/

/-- An order in a queue, and what of it is open. -/
abbrev Resting : Type := Order × ℤ

/-- The queues by price, prices of one number being one price, and the issues halted. -/
structure PriceTimeBook where
  resting : ℚ → List Resting
  halted : List String

namespace PriceTimeBook

/-- A book in which nothing rests. -/
def empty : PriceTimeBook := ⟨fun _ => [], []⟩

/-- The book with another queue at a price. -/
def setQueue (book : PriceTimeBook) (price : ℚ) (queue : List Resting) : PriceTimeBook :=
  { book with resting := fun other => if other = price then queue else book.resting other }

/-- What an order brings to its queue: the size ahead of it, where there is any, and itself. -/
def incoming (order : Order) (sizeAhead : ℤ) : List Order :=
  (if h : 0 < sizeAhead then [order.ahead sizeAhead h] else []) ++ [order]

def rest (book : PriceTimeBook) (order : Order) (sizeAhead : ℤ) : Outcome PriceTimeBook :=
  if order.issue ∈ book.halted then
    .error (.valueError "market access refused: declared synthetic halt")
  else if sizeAhead < 0 then .error (.valueError "size ahead cannot be negative")
  else
    .ok (book.setQueue order.limitPrice.value (book.resting order.limitPrice.value ++
      (incoming order sizeAhead).map fun o => (o, o.quantity)))

def halt (book : PriceTimeBook) (issue : String) (cancelResting : Bool) : PriceTimeBook where
  resting price :=
    if cancelResting then (book.resting price).filter fun entry => entry.1.issue ≠ issue
    else book.resting price
  halted := book.halted.insert issue

end PriceTimeBook

/-! ## Executing -/

/-- The arguments of an execution. -/
structure Execution where
  price : FiniteDecimal
  quantity : ℤ
  matchedAt : Timestamp
  reportDelay : ℤ := 0
  executionPrice : Option FiniteDecimal := none
  deriving DecidableEq

/-- The id of a print: its number among the prints of its call, and the order's id. -/
def printId (number : ℕ) (orderId : String) : String :=
  "P-" ++ toString number ++ "-" ++ orderId

/-- The print of a fill. -/
def Execution.print (call : Execution) (number : ℕ) (order : Order) (filled : ℤ) :
    Outcome Print := do
  let reportedAt ← plusSeconds call.matchedAt call.reportDelay
  if h : 0 < filled then
    .ok {
      printId := printId number order.orderId
      orderId := order.orderId
      issue := order.issue
      quantity := filled
      price := call.executionPrice.getD call.price
      matchedAt := call.matchedAt
      reportedAt
      quantity_pos := h }
  else .error (.valueError "greater_than")

/-- Where the loop of an execution ends: the queue, the quantity that remains, the prints, and
the exception, where one escapes. -/
structure Matching where
  queue : List Resting
  remaining : ℤ
  prints : List Print
  refused : Option PyError

/-- Fill a queue from its front. -/
def matchQueue (call : Execution) : ℤ → ℕ → List Resting → Matching
  | remaining, _, [] => ⟨[], remaining, [], none⟩
  | remaining, printed, (order, openQuantity) :: rest =>
    if remaining = 0 then ⟨(order, openQuantity) :: rest, remaining, [], none⟩
    else
      let filled := min openQuantity remaining
      let print := if order.isAhead then .ok [] else (call.print printed order filled).map ([·])
      match print with
      | .error e => ⟨(order, openQuantity) :: rest, remaining, [], some e⟩
      | .ok prints =>
        if openQuantity - filled = 0 then
          let later := matchQueue call (remaining - filled) (printed + prints.length) rest
          { later with prints := prints ++ later.prints }
        -- what is left open has used up the quantity
        else ⟨(order, openQuantity - filled) :: rest, remaining - filled, prints, none⟩

/-- Execute a quantity at a price. What an exception leaves of the queue stays. -/
def PriceTimeBook.execute (book : PriceTimeBook) (call : Execution) :
    PriceTimeBook × Outcome (List Print) :=
  let done := matchQueue call call.quantity 0 (book.resting call.price.value)
  (book.setQueue call.price.value done.queue,
    match done.refused with
    | some e => .error e
    | none => .ok done.prints)

end Simulator

end Atreides
