import Agenda.PriorityQueue.Operation
/-!
# What a queue has been through

* `Entry` — a request as it was carried out, between the queue before and the queue after.
* `history` — carries out requests in turn and keeps an entry of each.  It is a `run` of which more
  is kept than the replies (`run_eq_history`).
-/

set_option autoImplicit false

namespace Agenda.PriorityQueue

variable {V P C : Type}

/-- A request as it was carried out. -/
structure Entry (V P C : Type) where
  before : PriorityQueue V P C
  operation : Operation V P
  reply : Reply V P
  after : PriorityQueue V P C

/-- Carries out requests in turn and keeps an entry of each, beside the queue in the end. -/
def history (q : PriorityQueue V P C) :
    List (Operation V P) → Inquiry P (List (Entry V P C) × PriorityQueue V P C)
  | [] => return ([], q)
  | op :: ops => do
    let (reply, q') ← q.perform op
    let (entries, last) ← q'.history ops
    return (⟨q, op, reply, q'⟩ :: entries, last)

theorem run_eq_history (q : PriorityQueue V P C) (ops : List (Operation V P)) :
    q.run ops = do
      let (entries, last) ← q.history ops
      return (entries.map Entry.reply, last) := by
  induction ops generalizing q with
  | nil => rfl
  | cons op ops ih => simp only [run, history, ih, bind_assoc, pure_bind, List.map_cons]

end Agenda.PriorityQueue
