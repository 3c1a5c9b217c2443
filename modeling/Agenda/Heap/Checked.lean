import Agenda.Heap
/-!
# Heaps on words

The heap operations once more, as a machine carries them out: slots are words of 64 bits, loops may
go on as long as they like, and nothing but a check at run time keeps them from reading beyond the
array, from leaving the range of a word, or from going on for ever.

* `Mishap` — what such a check finds.
* `Checked` — an operation that a mishap ends.
* `Checked.add`, `Checked.mul`, `Checked.sub`, `Checked.get`, `Checked.exchange` — the checks.
* `Checked.build`, `Checked.insert`, `Checked.pop`, `Checked.check`, `Checked.drain` — the
  operations.  No loop of theirs may take more turns than a limit.
-/

set_option autoImplicit false

namespace Agenda.Heap

/-- Why a machine stops an operation half-way. -/
inductive Mishap where
  /-- A sum or a product is greater than every word. -/
  | overflow
  /-- A difference is less than zero. -/
  | underflow
  /-- A slot is not one of the array. -/
  | outOfBounds
  /-- A loop has used up its turns. -/
  | exhausted
  deriving DecidableEq

/-- An operation that a mishap ends. -/
abbrev Checked (P α : Type) := ExceptT Mishap (Inquiry P) α

namespace Checked

variable {V P α : Type}

/-- An operation that does nothing to be checked. -/
def ofInquiry (t : Inquiry P α) : Checked P α := ExceptT.lift t

/-! ## Checks -/

def add (a b : UInt64) : Checked P UInt64 :=
  if a.toNat + b.toNat < UInt64.size then return a + b else throw .overflow

def mul (a b : UInt64) : Checked P UInt64 :=
  if a.toNat * b.toNat < UInt64.size then return a * b else throw .overflow

def sub (a b : UInt64) : Checked P UInt64 :=
  if b ≤ a then return a - b else throw .underflow

/-- Items that take up storage are fewer than 2^63. -/
def sizeLimit : Nat := 0x8000000000000000

/-- The number of items as a word. -/
def length (items : Array (Item V P)) : UInt64 := UInt64.ofNat items.size

def get (items : Array (Item V P)) (i : UInt64) : Checked P (Item V P) :=
  if h : i.toNat < items.size then return items[i.toNat] else throw .outOfBounds

def exchange (items : Array (Item V P)) (i j : UInt64) : Checked P (Array (Item V P)) :=
  if h : i.toNat < items.size ∧ j.toNat < items.size then
    return items.swap i.toNat j.toNat h.1 h.2
  else throw .outOfBounds

/-- Asks whether the item of one slot precedes the item of another. -/
def precedes (items : Array (Item V P)) (i j : UInt64) : Checked P Bool := do
  let x ← get items i
  let y ← get items j
  ofInquiry (Inquiry.precedes x.priority y.priority)

/-- The parent of a slot; asking for that of the root is an underflow. -/
def parent (i : UInt64) : Checked P UInt64 := do
  return (← sub i 1) / 2

/-! ## Sifting -/

/-- The item at a slot rises. -/
def siftUp (items : Array (Item V P)) (index : UInt64) : Nat → Checked P (Array (Item V P))
  | 0 => throw .exhausted
  | turns + 1 =>
    if 0 < index then do
      let up ← parent index
      if ← precedes items index up then siftUp (← exchange items index up) up turns
      else return items
    else return items

/-- The child that goes first; there may be no right one. -/
def firstChild (items : Array (Item V P)) (len left right : UInt64) : Checked P UInt64 :=
  if right < len then do
    if ← precedes items right left then return right else return left
  else return left

/-- The item at a slot sinks, in an array of a known length. -/
def siftDown (items : Array (Item V P)) (len index : UInt64) :
    Nat → Checked P (Array (Item V P))
  | 0 => throw .exhausted
  | turns + 1 => do
    let left ← add (← mul 2 index) 1
    if len ≤ left then return items
    else
      let right ← add left 1
      let child ← firstChild items len left right
      if ← precedes items child index then
        siftDown (← exchange items index child) len child turns
      else return items

/-- Sifts down every slot below `k`, the last of them first. -/
def siftDownBelow (limit : Nat) (items : Array (Item V P)) (k : UInt64) :
    Nat → Checked P (Array (Item V P))
  | 0 => throw .exhausted
  | turns + 1 =>
    if 0 < k then do
      let last ← sub k 1
      siftDownBelow limit (← siftDown items (length items) last limit) last turns
    else return items

/-! ## The operations -/

variable (limit : Nat)

/-- Puts an arbitrary array into heap order. -/
def build (items : Array (Item V P)) : Checked P (Array (Item V P)) :=
  if length items < 2 then return items
  else do
    ofInquiry (Inquiry.report (.heapifying items.size))
    siftDownBelow limit items (length items / 2) limit

/-- Adds an item as the last leaf and lets it rise. -/
def insert (items : Array (Item V P)) (x : Item V P) : Checked P (Array (Item V P)) := do
  let grown := items.push x
  let last ← sub (length grown) 1
  let risen ← siftUp grown last limit
  ofInquiry (Inquiry.report (.inserted risen.size))
  return risen

/-- Lets the root of an array sink, if it has one. -/
def settle (items : Array (Item V P)) : Checked P (Array (Item V P)) :=
  if items.isEmpty then return items else siftDown items (length items) 0 limit

/-- Takes the root, moves the last leaf into its place and lets that sink. -/
def pop (items : Array (Item V P)) : Checked P (Option (Item V P × Array (Item V P))) :=
  if items.isEmpty then return none
  else do
    let root ← get items 0
    let last ← sub (length items) 1
    let rest ← settle limit (← exchange items 0 last).pop
    ofInquiry (Inquiry.report (.removed rest.size))
    return some (root, rest)

/-- Whether no item from slot `i` on precedes its parent. -/
def checkFrom (items : Array (Item V P)) (i : UInt64) : Nat → Checked P Bool
  | 0 => throw .exhausted
  | turns + 1 =>
    if i < length items then do
      if ← precedes items i (← parent i) then return false
      else checkFrom items (← add i 1) turns
    else return true

/-- Whether no item precedes its parent. -/
def check (items : Array (Item V P)) : Checked P Bool := checkFrom items 1 limit

/-- Pops until there is nothing left to pop. -/
def drain (items : Array (Item V P)) : Nat → Checked P (List (Item V P))
  | 0 => throw .exhausted
  | turns + 1 => do
    match ← pop limit items with
    | some (x, rest) => return x :: (← drain rest turns)
    | none => return []

end Checked

end Agenda.Heap
