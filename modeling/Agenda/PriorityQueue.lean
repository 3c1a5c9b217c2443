import Agenda.Heap
import Agenda.Settings
/-!
# Priority queues

* `PriorityQueue` — items in heap order together with the order they are kept in.
* The constructors `ofItems`, `empty`, `withCapacity`, `ofSettings`, `withOrder`, `emptyWithOrder`.
* `insert`, `extend`, `pop`, `remove`, `peek`, `drain`, `sorted`, `clear`, `check`.

What changes or inspects the heap is an `Inquiry`: who supplies the answers decides whether a run is
plain, recorded or interrupted.  The order itself is carried along and never read here.
-/

set_option autoImplicit false

namespace Agenda

/-- Items in heap order, and the order they are kept in. -/
structure PriorityQueue (V P C : Type) where
  items : Array (Item V P)
  order : C

namespace PriorityQueue

variable {V P C : Type}

/-! ## Construction -/

/-- A queue without items. -/
def emptyWithOrder (order : C) : PriorityQueue V P C := ⟨#[], order⟩

/-- The queue of some items in a given order. -/
def withOrder (items : List (Item V P)) (order : C) : Inquiry P (PriorityQueue V P C) := do
  return ⟨← Heap.build items.toArray, order⟩

/-- The least-first queue without items. -/
def empty : PriorityQueue V P QueueOrder := emptyWithOrder .min

/-- The least-first queue of some items. -/
def ofItems (items : List (Item V P)) : Inquiry P (PriorityQueue V P QueueOrder) :=
  withOrder items .min

/-- The least-first queue without items, with slots reserved for items of a given size in bytes. -/
def withCapacity (itemSize : Nat) (slots : UInt64) :
    Except Fault (PriorityQueue V P QueueOrder) := do
  Settings.reserve itemSize 0 slots
  return empty

/-- The queue of some items, of a given size in bytes each, in the order of the settings.  The slots
that are still missing are reserved before the items are put into heap order. -/
def ofSettings (itemSize : Nat) (items : List (Item V P)) (settings : Settings) :
    Except Fault (Inquiry P (PriorityQueue V P QueueOrder)) := do
  Settings.reserve itemSize items.length settings.initialCapacity
  return withOrder items settings.order

/-! ## Inspection -/

/-- The number of items. -/
def size (q : PriorityQueue V P C) : Nat := q.items.size

/-- Whether there are no items. -/
def isEmpty (q : PriorityQueue V P C) : Bool := q.items.isEmpty

/-- The item that leaves next. -/
def peek (q : PriorityQueue V P C) : Option (Item V P) := q.items[0]?

/-- Whether no item precedes its parent. -/
def check (q : PriorityQueue V P C) : Inquiry P Bool := Heap.check q.items

/-! ## Change -/

/-- Adds an item. -/
def insert (q : PriorityQueue V P C) (x : Item V P) : Inquiry P (PriorityQueue V P C) := do
  return { q with items := ← Heap.insert q.items x }

/-- Adds a value under a priority. -/
def push (q : PriorityQueue V P C) (value : V) (priority : P) : Inquiry P (PriorityQueue V P C) :=
  q.insert ⟨value, priority⟩

/-- Adds items one by one. -/
def extend (q : PriorityQueue V P C) : List (Item V P) → Inquiry P (PriorityQueue V P C)
  | [] => return q
  | x :: xs => do (← q.insert x).extend xs

/-- Takes the first-ranked item, if there is one. -/
def pop (q : PriorityQueue V P C) : Inquiry P (Option (Item V P) × PriorityQueue V P C) := do
  match ← Heap.pop q.items with
  | some (x, rest) => return (some x, { q with items := rest })
  | none => return (none, q)

/-- Takes the first-ranked item; a queue without items refuses and stays as it is. -/
def remove (q : PriorityQueue V P C) :
    Inquiry P (Except Refusal (Item V P) × PriorityQueue V P C) := do
  match ← q.pop with
  | (some x, rest) => return (.ok x, rest)
  | (none, rest) =>
    Inquiry.report .removeOnEmpty
    return (.error .empty, rest)

/-- Takes items in order of rank, at most as many as the limit, and lists them after those taken
before. -/
def drainOnto (taken : Array (Item V P)) (q : PriorityQueue V P C) :
    Nat → Inquiry P (List (Item V P) × PriorityQueue V P C)
  | 0 => return (taken.toList, q)
  | limit + 1 => do
    match ← q.pop with
    | (some x, rest) => rest.drainOnto (taken.push x) limit
    | (none, rest) => return (taken.toList, rest)

/-- Takes items in order of rank: as many as the limit, or all of them. -/
def drain (q : PriorityQueue V P C) (limit : Option Nat) :
    Inquiry P (List (Item V P) × PriorityQueue V P C) :=
  q.drainOnto #[] (limit.getD q.size)

/-- All items in order of rank; the queue itself is left as it is. -/
def sorted (q : PriorityQueue V P C) : Inquiry P (List (Item V P)) := do
  return (← q.drain none).1

/-- Drops every item. -/
def clear (q : PriorityQueue V P C) : PriorityQueue V P C := { q with items := #[] }

end PriorityQueue

end Agenda
