import Agenda.PriorityQueue
/-!
# A queue behind one lock

Clients reach one queue through any number of handles.  Every request takes the lock for its whole
duration, so requests never overlap and a run is a sequence of them.

* `LockedQueue` — the queue while the lock is sound; nothing but the poison once it is not.
* `LockedQueue.inquire` — what one request does while it has the lock.
* `LockedQueue.perform` — one request under a judge.  A judge that breaks down in the middle of a
  request leaves the lock poisoned, for every handle and for good.
* `LockedQueue.run` — any interleaving of the requests of the handles.
-/

set_option autoImplicit false

namespace Agenda

/-- What the lock guards.  Once the lock is poisoned nothing behind it can be reached. -/
inductive Lock (V P C : Type) where
  | sound (queue : PriorityQueue V P C)
  | poisoned

/-- A lock and the number of handles given out so far; handles are numbered from zero. -/
structure LockedQueue (V P C : Type) where
  lock : Lock V P C
  handles : Nat

namespace LockedQueue

variable {V P C : Type}

/-- A request made through a handle. -/
inductive Request (V P : Type) where
  | insert (x : Item V P)
  | remove
  | peek
  | drain
  | size
  | isEmpty
  /-- Asks for a further handle to the same queue. -/
  | clone
  /-- Gives the handle back. -/
  | drop

/-- What a handle gets back. -/
inductive Response (V P : Type) where
  | done
  | refused (refusal : Refusal)
  | item (x : Item V P)
  | item? (x : Option (Item V P))
  | items (xs : List (Item V P))
  | count (n : Nat)
  | flag (b : Bool)
  /-- A further handle, by its number. -/
  | handle (index : Nat)
  /-- The request itself broke off. -/
  | brokeOff (fault : Fault)

/-- The refusal of a poisoned lock. -/
def poisonedRefusal : Refusal := .lockPoisoned "poisoned lock: another task failed inside"

/-- Puts a queue behind a lock and gives out its first handle. -/
def ofQueue (q : PriorityQueue V P C) : LockedQueue V P C := ⟨.sound q, 1⟩

/-- The number of items, as far as a handle can tell. -/
def size (s : LockedQueue V P C) : Nat :=
  match s.lock with
  | .sound q => q.size
  | .poisoned => 0

/-- The next item, as far as a handle can tell. -/
def peek (s : LockedQueue V P C) : Option (Item V P) :=
  match s.lock with
  | .sound q => q.peek
  | .poisoned => none

/-- Works on the queue with the lock held; a poisoned lock cannot be taken. -/
def holding (s : LockedQueue V P C)
    (work : PriorityQueue V P C → Inquiry P (Response V P × PriorityQueue V P C)) :
    Inquiry P (Response V P × LockedQueue V P C) :=
  match s.lock with
  | .poisoned => return (.refused poisonedRefusal, s)
  | .sound q => do
    let (response, q') ← work q
    return (response, { s with lock := .sound q' })

/-- What a request does while it has the lock; it does not matter through which handle it comes. -/
def inquire (s : LockedQueue V P C) :
    Request V P → Inquiry P (Response V P × LockedQueue V P C)
  | .insert x => s.holding fun q => do return (.done, ← q.insert x)
  | .remove => s.holding fun q => do
    match ← q.remove with
    | (.ok x, q') => return (.item x, q')
    | (.error refusal, q') => return (.refused refusal, q')
  | .drain => s.holding fun q => do
    let (xs, q') ← q.drain none
    return (.items xs, q')
  | .peek => return (.item? s.peek, s)
  | .size => return (.count s.size, s)
  | .isEmpty => return (.flag (s.size == 0), s)
  | .clone => return (.handle s.handles, { s with handles := s.handles + 1 })
  | .drop => return (.done, s)

/-- Carries out one request.  If the judge breaks down in the middle, the request has no other
answer and the lock stays poisoned. -/
def perform (judge : Judge P) (s : LockedQueue V P C) (request : Request V P) :
    Response V P × LockedQueue V P C :=
  match (s.inquire request).attempt judge with
  | .ok outcome => outcome
  | .error fault => (.brokeOff fault, { s with lock := .poisoned })

/-- A request and the handle it comes through. -/
structure Call (V P : Type) where
  handle : Nat
  request : Request V P

/-- An interleaving of calls, in the order in which they get the lock. -/
def run (judge : Judge P) (s : LockedQueue V P C) :
    List (Call V P) → List (Response V P) × LockedQueue V P C
  | [] => ([], s)
  | call :: calls =>
    let (response, s') := s.perform judge call.request
    let (responses, s'') := s'.run judge calls
    (response :: responses, s'')

end LockedQueue

end Agenda
