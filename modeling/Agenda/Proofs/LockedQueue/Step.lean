import Agenda.LockedQueue.History
import Agenda.Proofs.Inquiry
/-!
# One step of a locked queue

* `inquire_sound`, `inquire_poisoned` — what a request does on either side of the lock: it is passed
  on to the queue, or the handle responds by itself and nothing is asked.
* `Step`, `perform_step` — the three things that a request can come to.
* `Turn.put`, `Turn.BrokeDown` — what the judge is asked in a turn, and whether it breaks down on it.
* `Breaks`, `Barred` — the turn that poisons the lock, and those that find it poisoned.
* `history_poisoned` — once the lock is poisoned, all handles respond by themselves for good.
-/

set_option autoImplicit false

namespace Agenda.LockedQueue

open PriorityQueue (Operation Reply)

variable {V P C : Type} {judge : Judge P} {s s' : LockedQueue V P C} {request : Request V P}
  {response : Response V P}

/-! ## Requests as inquiries -/

/-- **With a sound lock a request is a request of the queue**, and its reply is passed on. -/
theorem inquire_sound (q : PriorityQueue V P C) (n : Nat) {op : Operation V P}
    (hop : request.operation? = some op) :
    (⟨.sound q, n⟩ : LockedQueue V P C).inquire request = do
      let (reply, q') ← q.perform op
      return (.ofReply reply, ⟨.sound q', n⟩) := by
  cases request with
  | insert x => cases hop; simp [inquire, holding, PriorityQueue.perform, Response.ofReply]
  | remove =>
    cases hop
    simp only [inquire, holding, PriorityQueue.perform, bind_assoc, pure_bind]
    refine congrArg _ (funext fun r => ?_)
    obtain ⟨x | refusal, q'⟩ := r <;> rfl
  | peek => cases hop; rfl
  | drain => cases hop; simp [inquire, holding, PriorityQueue.perform, Response.ofReply]
  | size => cases hop; rfl
  | isEmpty => cases hop; rfl
  | clone => cases hop
  | drop => cases hop

/-- To give out handles and to take them back, the queue is not needed. -/
theorem inquire_alone (s : LockedQueue V P C) (hop : request.operation? = none) :
    s.inquire request =
      return (request.alone s.handles, { s with handles := request.handlesAfter s.handles }) := by
  cases request with
  | clone => rfl
  | drop => rfl
  | insert x => cases hop
  | remove => cases hop
  | peek => cases hop
  | drain => cases hop
  | size => cases hop
  | isEmpty => cases hop

/-- **With a poisoned lock a handle responds by itself**, and nothing is asked. -/
theorem inquire_poisoned (n : Nat) (request : Request V P) :
    (⟨.poisoned, n⟩ : LockedQueue V P C).inquire request =
      return (request.alone n, ⟨.poisoned, request.handlesAfter n⟩) := by
  cases request <;> rfl

/-! ## Steps -/

/-- What a request can come to. -/
inductive Step (judge : Judge P) :
    LockedQueue V P C → Request V P → Response V P → LockedQueue V P C → Prop where
  /-- The queue carries it out. -/
  | serve {q q' : PriorityQueue V P C} {request : Request V P} {op : Operation V P}
      {reply : Reply V P} (n : Nat) :
    request.operation? = some op → (q.perform op).attempt judge = .ok (reply, q') →
    Step judge ⟨.sound q, n⟩ request (.ofReply reply) ⟨.sound q', n⟩
  /-- The judge breaks down while the queue is at it. -/
  | breakDown {q : PriorityQueue V P C} {request : Request V P} {op : Operation V P} {fault : Fault}
      (n : Nat) :
    request.operation? = some op → (q.perform op).attempt judge = .error fault →
    Step judge ⟨.sound q, n⟩ request (.brokeOff fault) ⟨.poisoned, n⟩
  /-- The queue cannot be reached or is not needed. -/
  | alone {request : Request V P} (lock : Lock V P C) (n : Nat) :
    lock = .poisoned ∨ request.operation? = none →
    Step judge ⟨lock, n⟩ request (request.alone n) ⟨lock, request.handlesAfter n⟩

theorem perform_step (h : s.perform judge request = (response, s')) :
    Step judge s request response s' := by
  obtain ⟨lock, n⟩ := s
  unfold perform at h
  cases lock with
  | poisoned =>
    rw [inquire_poisoned] at h
    cases h
    exact .alone .poisoned n (.inl rfl)
  | sound q =>
    cases hop : request.operation? with
    | none =>
      rw [inquire_alone _ hop] at h
      cases h
      exact .alone (.sound q) n (.inr hop)
    | some op =>
      rw [inquire_sound q n hop, Inquiry.attempt_bind] at h
      cases hattempt : (q.perform op).attempt judge with
      | ok outcome =>
        rw [hattempt] at h
        cases h
        exact .serve n hop hattempt
      | error fault =>
        rw [hattempt] at h
        cases h
        exact .breakDown n hop hattempt

/-! ## Turns -/

/-- The pairs that are put to the judge in a turn. -/
def Turn.put (judge : Judge P) (turn : Turn V P C) : List (P × P) :=
  (turn.before.inquire turn.call.request).put judge

/-- The judge breaks down on one of the pairs that are put to it in a turn. -/
def Turn.BrokeDown (judge : Judge P) (turn : Turn V P C) : Prop :=
  (turn.before.inquire turn.call.request).BreaksDown judge

theorem not_brokeDown_of_put {turn : Turn V P C} (h : turn.put judge = []) :
    ¬ turn.BrokeDown judge := by
  rintro ⟨pair, hpair, -⟩
  rw [show (turn.before.inquire turn.call.request).put judge = [] from h] at hpair
  cases hpair

section

variable {q : PriorityQueue V P C} {n : Nat} {call : Call V P} {op : Operation V P}

/-- A turn breaks down if the queue does while it carries out the request. -/
theorem brokeDown_iff (hop : call.request.operation? = some op) :
    (⟨call, ⟨.sound q, n⟩, response, s'⟩ : Turn V P C).BrokeDown judge ↔
      ∃ fault, (q.perform op).attempt judge = .error fault := by
  unfold Turn.BrokeDown
  rw [Inquiry.breaksDown_iff, inquire_sound q n hop, Inquiry.attempt_bind]
  cases (q.perform op).attempt judge with
  | ok outcome => exact ⟨nofun, nofun⟩
  | error fault => exact ⟨fun _ => ⟨fault, rfl⟩, fun _ => ⟨fault, rfl⟩⟩

theorem put_alone {lock : Lock V P C} (h : lock = .poisoned ∨ call.request.operation? = none) :
    (⟨call, ⟨lock, n⟩, response, s'⟩ : Turn V P C).put judge = [] := by
  unfold Turn.put
  rcases h with rfl | hop
  · rw [inquire_poisoned, Inquiry.put_pure]
  · rw [inquire_alone _ hop, Inquiry.put_pure]

end

/-! ## Breaking off -/

/-- The judge breaks down while a request moves items, and the lock is poisoned. -/
structure Breaks (judge : Judge P) (q : PriorityQueue V P C) (turn : Turn V P C) : Prop where
  before : turn.before.lock = .sound q
  moves : (∃ x, turn.call.request = .insert x) ∨ turn.call.request = .remove ∨
    turn.call.request = .drain
  brokeDown : turn.BrokeDown judge
  response : ∃ fault, turn.response = .brokeOff fault
  after : turn.after.lock = .poisoned

theorem breaks_of_error {q : PriorityQueue V P C} {call : Call V P} {op : Operation V P}
    {fault : Fault} (n : Nat) (hop : call.request.operation? = some op)
    (h : (q.perform op).attempt judge = .error fault) :
    Breaks judge q ⟨call, ⟨.sound q, n⟩, .brokeOff fault, ⟨.poisoned, n⟩⟩ := by
  refine ⟨rfl, ?_, (brokeDown_iff hop).2 ⟨fault, h⟩, ⟨fault, rfl⟩, rfl⟩
  obtain ⟨handle, request⟩ := call
  cases request with
  | insert x => exact .inl ⟨x, rfl⟩
  | remove => exact .inr (.inl rfl)
  | drain => exact .inr (.inr rfl)
  -- nothing is asked, so nothing can break down
  | peek => cases hop; cases h
  | size => cases hop; cases h
  | isEmpty => cases hop; cases h
  | clone => cases hop
  | drop => cases hop

/-! ## The poisoned lock -/

/-- A handle finds the lock poisoned and responds by itself; the judge is not asked. -/
structure Barred (judge : Judge P) (turn : Turn V P C) : Prop where
  before : turn.before.lock = .poisoned
  response : turn.response = turn.call.request.alone turn.before.handles
  put : turn.put judge = []
  after : turn.after.lock = .poisoned

/-- **Poison is for good.**  Through no handle does a request reach the queue any more. -/
theorem history_poisoned (judge : Judge P) (hs : s.lock = .poisoned) (calls : List (Call V P)) :
    (s.run judge calls).2.lock = .poisoned ∧ ∀ turn ∈ s.history judge calls, Barred judge turn := by
  induction calls generalizing s with
  | nil => exact ⟨hs, List.forall_mem_nil _⟩
  | cons call calls ih =>
    obtain ⟨lock, n⟩ := s
    obtain rfl : lock = .poisoned := hs
    have hperform : (⟨.poisoned, n⟩ : LockedQueue V P C).perform judge call.request =
        (call.request.alone n, ⟨.poisoned, call.request.handlesAfter n⟩) := by
      rw [perform, inquire_poisoned]; rfl
    obtain ⟨hlast, hall⟩ := ih (s := ⟨.poisoned, call.request.handlesAfter n⟩) rfl
    rw [history_cons hperform, run_cons hperform]
    exact ⟨hlast, List.forall_mem_cons.2 ⟨⟨rfl, rfl, put_alone (.inl rfl), rfl⟩, hall⟩⟩

end Agenda.LockedQueue
