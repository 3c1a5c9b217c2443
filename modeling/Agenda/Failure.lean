/-!
# Failures

Two kinds are kept apart.

* `Refusal` — an answer: the queue has nothing to give, or its lock can no longer be taken.
* `Fault` — no answer at all: the operation broke off half-way, because the storage asked for
  cannot exist or because the ranking itself broke down.
-/

set_option autoImplicit false

namespace Agenda

/-- Why a queue declines a request. -/
inductive Refusal where
  /-- A removal found no item. -/
  | empty
  /-- An earlier operation broke off while it held the lock. -/
  | lockPoisoned (reason : String)
  deriving DecidableEq

/-- The text of a refusal. -/
def Refusal.message : Refusal → String
  | .empty => "priority queue is empty"
  | .lockPoisoned reason => "lock poisoned: " ++ reason

/-- Why an operation broke off without an answer. -/
inductive Fault where
  /-- More bytes were asked for than any storage can have. -/
  | capacityOverflow
  /-- The ranking broke down on two priorities, leaving this message. -/
  | ranking (reason : String)
  deriving DecidableEq

/-- The text of a fault. -/
def Fault.message : Fault → String
  | .capacityOverflow => "capacity overflow"
  | .ranking reason => reason

end Agenda
