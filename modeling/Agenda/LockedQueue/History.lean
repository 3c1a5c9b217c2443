import Agenda.LockedQueue
import Agenda.PriorityQueue.Operation
/-!
# What a locked queue has been through

* `Turn` — a call while it has the lock, between the locked queue before and after.
* `history` — carries out an interleaving of calls and keeps a turn of each.  It is a `run` of which
  more is kept than the responses (`run_eq_history`).
* `Request.operation?`, `Response.ofReply` — the same request of a queue without a lock, and its
  reply as a handle passes it on.
* `Request.alone` — what a handle responds by itself, with no queue to turn to.
-/

set_option autoImplicit false

namespace Agenda.LockedQueue

variable {V P C : Type}

deriving instance DecidableEq for Response

/-! ## Handles and the queue -/

/-- The request that the queue is given.  To give out handles and to take them back it is not
needed. -/
def Request.operation? : Request V P → Option (PriorityQueue.Operation V P)
  | .insert x => some (.insert x)
  | .remove => some .remove
  | .peek => some .peek
  | .drain => some (.drain none)
  | .size => some .size
  | .isEmpty => some .isEmpty
  | .clone => none
  | .drop => none

/-- The reply of the queue, as a handle passes it on. -/
def Response.ofReply : PriorityQueue.Reply V P → Response V P
  | .done => .done
  | .count n => .count n
  | .flag b => .flag b
  | .item? x => .item? x
  | .removal (.ok x) => .item x
  | .removal (.error refusal) => .refused refusal
  | .items xs => .items xs
  | .drained _ xs _ => .items xs

/-- What a handle responds by itself: to give out a handle it has to know how many there are, and
whoever asks for the queue is refused or told that there is nothing. -/
def Request.alone (handles : Nat) : Request V P → Response V P
  | .insert _ => .refused poisonedRefusal
  | .remove => .refused poisonedRefusal
  | .peek => .item? none
  | .drain => .refused poisonedRefusal
  | .size => .count 0
  | .isEmpty => .flag true
  | .clone => .handle handles
  | .drop => .done

/-- The number of handles given out once a request has been carried out. -/
def Request.handlesAfter (handles : Nat) : Request V P → Nat
  | .clone => handles + 1
  | _ => handles

/-! ## Histories -/

/-- A call as it was carried out. -/
structure Turn (V P C : Type) where
  call : Call V P
  before : LockedQueue V P C
  response : Response V P
  after : LockedQueue V P C

/-- Carries out calls in turn and keeps what became of each. -/
def history (judge : Judge P) (s : LockedQueue V P C) : List (Call V P) → List (Turn V P C)
  | [] => []
  | call :: calls =>
    let (response, s') := s.perform judge call.request
    ⟨call, s, response, s'⟩ :: s'.history judge calls

section

variable {judge : Judge P} {s s' : LockedQueue V P C} {call : Call V P} {response : Response V P}

theorem history_cons (h : s.perform judge call.request = (response, s')) (calls : List (Call V P)) :
    s.history judge (call :: calls) = ⟨call, s, response, s'⟩ :: s'.history judge calls := by
  rw [history, h]

theorem run_cons (h : s.perform judge call.request = (response, s')) (calls : List (Call V P)) :
    s.run judge (call :: calls) =
      (response :: (s'.run judge calls).1, (s'.run judge calls).2) := by
  rw [run, h]

end

theorem map_call_history (judge : Judge P) (s : LockedQueue V P C) (calls : List (Call V P)) :
    (s.history judge calls).map Turn.call = calls := by
  induction calls generalizing s with
  | nil => rfl
  | cons call calls ih => rw [history_cons rfl, List.map_cons, ih]

theorem run_eq_history (judge : Judge P) (s : LockedQueue V P C) (calls : List (Call V P)) :
    (s.run judge calls).1 = (s.history judge calls).map Turn.response := by
  induction calls generalizing s with
  | nil => rfl
  | cons call calls ih => rw [history_cons rfl, run_cons rfl, List.map_cons, ih]

/-- It does not matter through which handles the requests come. -/
theorem run_congr (judge : Judge P) (s : LockedQueue V P C) {calls others : List (Call V P)}
    (h : others.map Call.request = calls.map Call.request) :
    s.run judge others = s.run judge calls := by
  induction calls generalizing s others with
  | nil =>
    obtain rfl : others = [] := List.map_eq_nil_iff.1 h
    rfl
  | cons call calls ih =>
    obtain ⟨other, others, rfl, hrequest, hrest⟩ := List.map_eq_cons_iff.1 h
    rw [run_cons rfl, run_cons rfl, hrequest, ih _ hrest]

end Agenda.LockedQueue
