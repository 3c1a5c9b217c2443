import Agenda.PriorityQueue
/-!
# A drain in progress

* `Draining` — a queue from which items are pulled one by one.  Whoever drains a queue may stop at
  any time; what has not been pulled is still in it.
* `Draining.next`, `Draining.sizeHint` — the next item, and how many are still to come.
* `Draining.pulls` — some pulls in turn, whether anything comes or not.
* `chunks` — drains of one queue that are each given up after some pulls.
-/

set_option autoImplicit false

namespace Agenda.PriorityQueue

variable {V P C : Type}

/-- A queue that is being drained. -/
structure Draining (V P C : Type) where
  queue : PriorityQueue V P C

/-- Starts to drain a queue; nothing leaves it before it is pulled. -/
def drainSorted (q : PriorityQueue V P C) : Draining V P C := ⟨q⟩

/-- What a pull comes to: the bounds that were promised before it, and the item that came. -/
structure Pull (V P : Type) where
  hint : Nat × Option Nat
  item? : Option (Item V P)
  deriving DecidableEq

/-- The items that came. -/
def Pull.items (pulled : List (Pull V P)) : List (Item V P) := pulled.filterMap Pull.item?

namespace Draining

/-- Pulls an item. -/
def next (d : Draining V P C) : Inquiry P (Option (Item V P) × Draining V P C) := do
  let (item?, rest) ← d.queue.pop
  return (item?, ⟨rest⟩)

/-- The least and the greatest number of items that may still come. -/
def sizeHint (d : Draining V P C) : Nat × Option Nat := (d.queue.size, some d.queue.size)

/-- Pulls a number of times. -/
def pulls (d : Draining V P C) : Nat → Inquiry P (List (Pull V P) × Draining V P C)
  | 0 => return ([], d)
  | times + 1 => do
    let (item?, d') ← d.next
    let (later, last) ← d'.pulls times
    return (⟨d.sizeHint, item?⟩ :: later, last)

end Draining

/-- Drains a queue several times, each time with a number of pulls, and lists what came each time. -/
def chunks (q : PriorityQueue V P C) :
    List Nat → Inquiry P (List (List (Item V P)) × PriorityQueue V P C)
  | [] => return ([], q)
  | times :: later => do
    let (pulled, d) ← q.drainSorted.pulls times
    let (rest, last) ← d.queue.chunks later
    return (Pull.items pulled :: rest, last)

end Agenda.PriorityQueue
