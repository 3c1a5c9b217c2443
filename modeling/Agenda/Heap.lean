import Agenda.Inquiry
import Agenda.Item
/-!
# Heaps in arrays

An array is read as a complete binary tree: the children of slot `i` are the slots `2 * i + 1` and
`2 * i + 2`, its parent is slot `(i - 1) / 2`.

* `Heap.siftUp` — lets an item rise along its ancestors while it precedes them.
* `Heap.siftDown` — lets an item sink below the first-ranked child while that child precedes it.
* `Heap.build`, `Heap.insert`, `Heap.pop` — the three repairs, each by one of the two.
* `Heap.check` — looks for an item that precedes its parent.
* `Heap.IsHeap`, `Heap.Ancestor` — the property itself, and the slots above a slot.

The sifts work on vectors of a fixed length with slots below that length, so no slot outside the
array can be read or exchanged, whatever the ranking answers; they end because the slot falls
towards the root or rises towards the length.
-/

set_option autoImplicit false

namespace Agenda.Heap

variable {V P : Type} {n : Nat}

/-! ## The tree -/

/-- The parent of a slot other than the root. -/
def parent (i : Nat) : Nat := (i - 1) / 2

/-- The left child of a slot. -/
def left (i : Nat) : Nat := 2 * i + 1

/-- The right child of a slot. -/
def right (i : Nat) : Nat := 2 * i + 2

theorem parent_lt {i : Nat} (h : 0 < i) : parent i < i := by
  unfold parent; omega

theorem parent_le (i : Nat) : parent i ≤ i := by
  unfold parent; omega

theorem lt_left (i : Nat) : i < left i := by
  unfold left; omega

theorem lt_right (i : Nat) : i < right i := by
  unfold right; omega

@[simp] theorem parent_left (i : Nat) : parent (left i) = i := by
  unfold parent left; omega

@[simp] theorem parent_right (i : Nat) : parent (right i) = i := by
  unfold parent right; omega

/-- The parent among the slots of an array; the root stays where it is. -/
def up (i : Fin n) : Fin n := ⟨parent i, Nat.lt_of_le_of_lt (parent_le i) i.isLt⟩

/-- The first slot lies above the second: one or more steps to the parent lead to it. -/
inductive Ancestor : Nat → Nat → Prop where
  | parent {i : Nat} : 0 < i → Ancestor (Heap.parent i) i
  | above {a i : Nat} : 0 < i → Ancestor a (Heap.parent i) → Ancestor a i

/-- No item precedes the item of its parent slot. -/
def IsHeap (precedes : P → P → Bool) (items : Array (Item V P)) : Prop :=
  ∀ i : Fin items.size, 0 < i.val → precedes items[i].priority items[up i].priority = false

/-! ## Sifting -/

/-- Asks whether the item of one slot precedes the item of another. -/
def ask (items : Vector (Item V P) n) (i j : Fin n) : Inquiry P Bool :=
  Inquiry.precedes items[i].priority items[j].priority

/-- The item at slot `i` rises: while it precedes its parent, the two change places. -/
def siftUp (items : Vector (Item V P) n) (i : Fin n) : Inquiry P (Vector (Item V P) n) :=
  if h : 0 < i.val then do
    if ← ask items i (up i) then siftUp (items.swap i (up i)) (up i) else return items
  else return items
termination_by i.val
decreasing_by exact parent_lt h

/-- The child of slot `i` that goes first: the right one only if it is there and precedes the left
one. -/
def firstChild (items : Vector (Item V P) n) (i : Nat) (hl : left i < n) :
    Inquiry P { c : Fin n // i < c.val } :=
  if hr : right i < n then do
    if ← ask items ⟨right i, hr⟩ ⟨left i, hl⟩ then return ⟨⟨right i, hr⟩, lt_right i⟩
    else return ⟨⟨left i, hl⟩, lt_left i⟩
  else return ⟨⟨left i, hl⟩, lt_left i⟩

/-- The item at slot `i` sinks: while its first-ranked child precedes it, the two change places. -/
def siftDown (items : Vector (Item V P) n) (i : Fin n) : Inquiry P (Vector (Item V P) n) :=
  if hl : left i < n then do
    let ⟨child, below⟩ ← firstChild items i hl
    if ← ask items child i then siftDown (items.swap i child) child else return items
  else return items
termination_by n - i.val
decreasing_by omega

/-- Sifts down every slot below `k`, the last of them first. -/
def siftDownBelow (items : Vector (Item V P) n) :
    (k : Nat) → k ≤ n → Inquiry P (Vector (Item V P) n)
  | 0, _ => return items
  | k + 1, h => do siftDownBelow (← siftDown items ⟨k, h⟩) k (Nat.le_of_lt h)

/-! ## The repairs -/

/-- Puts an arbitrary array into heap order: every slot that has a child is sifted down, from the
last one to the root. -/
def build (items : Array (Item V P)) : Inquiry P (Array (Item V P)) :=
  if items.size < 2 then return items
  else do
    Inquiry.report (.heapifying items.size)
    return (← siftDownBelow items.toVector (items.size / 2) (Nat.div_le_self _ _)).toArray

/-- Adds an item as the last leaf and lets it rise. -/
def insert (items : Array (Item V P)) (x : Item V P) : Inquiry P (Array (Item V P)) := do
  let risen ← siftUp (items.push x).toVector ⟨items.size, by simp⟩
  Inquiry.report (.inserted (items.size + 1))
  return risen.toArray

/-- Lets the root of an array sink; an array without items has none. -/
def settle (items : Array (Item V P)) : Inquiry P (Array (Item V P)) :=
  if h : 0 < items.size then do return (← siftDown items.toVector ⟨0, h⟩).toArray
  else return items

/-- Takes the root, moves the last leaf into its place and lets that sink.  An array without items
has nothing to give. -/
def pop (items : Array (Item V P)) : Inquiry P (Option (Item V P × Array (Item V P))) :=
  if h : 0 < items.size then do
    let root := items[0]
    let rest ← settle (items.swap 0 (items.size - 1)).pop
    Inquiry.report (.removed rest.size)
    return some (root, rest)
  else return none

/-- Whether no item from slot `i` on precedes its parent; stops at the first that does. -/
def checkFrom (items : Vector (Item V P) n) (i : Nat) : Inquiry P Bool :=
  if h : i < n then do
    if ← ask items ⟨i, h⟩ (up ⟨i, h⟩) then return false else checkFrom items (i + 1)
  else return true
termination_by n - i

/-- Whether no item precedes its parent. -/
def check (items : Array (Item V P)) : Inquiry P Bool :=
  checkFrom items.toVector 1

end Agenda.Heap
