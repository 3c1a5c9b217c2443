import Agenda.PriorityQueue
/-!
# Operations on a queue, as data

* `Operation` — every request a client can make of a queue it owns.
* `Reply` — what comes back.
* `perform`, `run` — one request, and a sequence of them, against a queue.
-/

set_option autoImplicit false

namespace Agenda.PriorityQueue

variable {V P C : Type}

/-- A request of a queue. -/
inductive Operation (V P : Type) where
  | insert (x : Item V P)
  | push (value : V) (priority : P)
  | extend (xs : List (Item V P))
  | pop
  | remove
  | peek
  | size
  | isEmpty
  | check
  | clear
  /-- Takes as many items as the limit, or all of them. -/
  | drain (limit : Option Nat)
  | sorted

/-- What a queue replies. -/
inductive Reply (V P : Type) where
  | done
  | count (n : Nat)
  | flag (b : Bool)
  | item? (x : Option (Item V P))
  | removal (x : Except Refusal (Item V P))
  | items (xs : List (Item V P))
  /-- A drain tells how many items it could still have given, before and after. -/
  | drained (before : Nat) (xs : List (Item V P)) (after : Nat)

/-- Carries out one request. -/
def perform (q : PriorityQueue V P C) :
    Operation V P → Inquiry P (Reply V P × PriorityQueue V P C)
  | .insert x => do return (.done, ← q.insert x)
  | .push value priority => do return (.done, ← q.push value priority)
  | .extend xs => do return (.done, ← q.extend xs)
  | .pop => do
    let (x, q') ← q.pop
    return (.item? x, q')
  | .remove => do
    let (x, q') ← q.remove
    return (.removal x, q')
  | .peek => return (.item? q.peek, q)
  | .size => return (.count q.size, q)
  | .isEmpty => return (.flag q.isEmpty, q)
  | .check => do return (.flag (← q.check), q)
  | .clear => return (.done, q.clear)
  | .drain limit => do
    let (xs, q') ← q.drain limit
    return (.drained q.size xs q'.size, q')
  | .sorted => do return (.items (← q.sorted), q)

/-- Carries out requests in turn. -/
def run (q : PriorityQueue V P C) :
    List (Operation V P) → Inquiry P (List (Reply V P) × PriorityQueue V P C)
  | [] => return ([], q)
  | op :: ops => do
    let (reply, q') ← q.perform op
    let (replies, q'') ← q'.run ops
    return (reply :: replies, q'')

end Agenda.PriorityQueue
