import Agenda.PriorityQueue.Operation
/-!
# Where a queue comes from

* `Origin` — every way to make a queue, as data.  Some ways fix the order of the queue, the others
  are given one.
* `Origin.make`, `Origin.start` — the queue itself, or the fault that prevents it; `start` lets the
  order of the queue answer for itself.
* `Reached` — a queue that was made in some way and has carried out some requests since.

An order is just a value; what it stands for is the ranking that a function of orders gives it.
-/

set_option autoImplicit false

namespace Agenda.PriorityQueue

variable {V P C : Type}

/-- A way to make a queue that keeps an order of some type. -/
inductive Origin (V P : Type) : Type → Type 1 where
  /-- Least first, from items. -/
  | ofItems (items : List (Item V P)) : Origin V P QueueOrder
  /-- Least first, without items. -/
  | empty : Origin V P QueueOrder
  /-- Least first, without items, with slots reserved for items of a given size. -/
  | withCapacity (itemSize : Nat) (slots : UInt64) : Origin V P QueueOrder
  /-- From items of a given size, as the settings say. -/
  | ofSettings (itemSize : Nat) (items : List (Item V P)) (settings : Settings) :
      Origin V P QueueOrder
  /-- From items, in an order of the client's own. -/
  | withOrder {C : Type} (items : List (Item V P)) (order : C) : Origin V P C
  /-- Without items, in an order of the client's own. -/
  | emptyWithOrder {C : Type} (order : C) : Origin V P C

namespace Origin

/-- The items that a queue starts with. -/
def items : Origin V P C → List (Item V P)
  | ofItems items | ofSettings _ items _ | withOrder items _ => items
  | empty | withCapacity _ _ | emptyWithOrder _ => []

/-- The order that a queue keeps. -/
def order : Origin V P C → C
  | ofItems _ | empty | withCapacity _ _ => .min
  | ofSettings _ _ settings => settings.order
  | withOrder _ order | emptyWithOrder order => order

/-- The bytes that have to be reserved beforehand. -/
def storage : Origin V P C → Nat
  | withCapacity itemSize slots => Settings.storage itemSize 0 slots
  | ofSettings itemSize items settings =>
    Settings.storage itemSize items.length settings.initialCapacity
  | ofItems _ | empty | withOrder _ _ | emptyWithOrder _ => 0

/-- Makes the queue. -/
def make : Origin V P C → Except Fault (Inquiry P (PriorityQueue V P C))
  | ofItems items => .ok (PriorityQueue.ofItems items)
  | empty => .ok (return PriorityQueue.empty)
  | withCapacity itemSize slots => (PriorityQueue.withCapacity itemSize slots).map pure
  | ofSettings itemSize items settings => PriorityQueue.ofSettings itemSize items settings
  | withOrder items order => .ok (PriorityQueue.withOrder items order)
  | emptyWithOrder order => .ok (return PriorityQueue.emptyWithOrder order)

/-- The queue that is made when its own order answers. -/
def start (rank : C → Ranking P) (origin : Origin V P C) : Except Fault (PriorityQueue V P C) :=
  origin.make.map fun build => build.answer (rank origin.order).precedes

end Origin

/-- A queue that was made somehow and has carried out some requests since, its own order answering
throughout. -/
def Reached (rank : C → Ranking P) (q : PriorityQueue V P C) : Prop :=
  ∃ (origin : Origin V P C) (ops : List (Operation V P)) (start : PriorityQueue V P C),
    origin.start rank = .ok start ∧ ((start.run ops).answer (rank origin.order).precedes).2 = q

end Agenda.PriorityQueue
