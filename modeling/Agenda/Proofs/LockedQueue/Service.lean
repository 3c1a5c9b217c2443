import Agenda.PriorityQueue.Origin
import Agenda.Proofs.LockedQueue.Step
import Agenda.Proofs.PriorityQueue.Conservation
import Agenda.Proofs.PriorityQueue.Refinement
/-!
# A locked queue is one queue

As long as the judge does not break down, clients that share a queue through any number of handles
see one queue that is given their requests in the order in which they get the lock.

* `Turn.inserted`, `Turn.handedOut` — the items that a turn moves.
* `Serves` — turns in which one queue carries out what it is asked.
* `Course`, `history_course` — a locked queue serves until a request breaks down in it, and from then
  on the lock is poisoned.
* `Serves.sequential`, `Serves.balance`, `Serves.drains` — what clients see of a queue that serves.
* `calm_run_serves` — all of this for an interleaving without a breakdown.
-/

set_option autoImplicit false

namespace Agenda.LockedQueue

open PriorityQueue (Operation Reply Reached)

variable {V P C : Type} {judge : Judge P} {who : P → P → Bool} {q q' last : PriorityQueue V P C}
  {turns : List (Turn V P C)}

/-! ## What a turn moves -/

/-- The items that come in. -/
def Turn.inserted (turn : Turn V P C) : Multiset (Item V P) :=
  match turn.call.request, turn.response with
  | .insert x, .done => {x}
  | _, _ => 0

/-- The items that go out to the client. -/
def Turn.handedOut (turn : Turn V P C) : Multiset (Item V P) :=
  match turn.call.request, turn.response with
  | .remove, .item x => {x}
  | .drain, .items xs => xs
  | _, _ => 0

/-- A handle that responds by itself moves nothing. -/
theorem moves_nothing (turn : Turn V P C) {n : Nat}
    (h : turn.response = turn.call.request.alone n) : turn.inserted = 0 ∧ turn.handedOut = 0 := by
  obtain ⟨⟨handle, request⟩, s, response, s'⟩ := turn
  obtain rfl : response = request.alone n := h
  cases request <;> exact ⟨rfl, rfl⟩

/-! ## Service -/

/-- One queue carries out the requests of the turns; those that do not need it leave it alone. -/
inductive Serves (judge : Judge P) :
    PriorityQueue V P C → List (Turn V P C) → PriorityQueue V P C → Prop where
  | rest (q : PriorityQueue V P C) : Serves judge q [] q
  | serve {q q' last : PriorityQueue V P C} {call : Call V P} {op : Operation V P}
      {reply : Reply V P} {turns : List (Turn V P C)} (n : Nat) :
    call.request.operation? = some op → (q.perform op).attempt judge = .ok (reply, q') →
    Serves judge q' turns last →
    Serves judge q (⟨call, ⟨.sound q, n⟩, .ofReply reply, ⟨.sound q', n⟩⟩ :: turns) last
  | alone {q last : PriorityQueue V P C} {call : Call V P} {turns : List (Turn V P C)} (n : Nat) :
    call.request.operation? = none → Serves judge q turns last →
    Serves judge q (⟨call, ⟨.sound q, n⟩, call.request.alone n,
      ⟨.sound q, call.request.handlesAfter n⟩⟩ :: turns) last

/-- A locked queue serves to the end, or until a turn breaks off; what follows that turn starts from
the poisoned lock. -/
def Course (judge : Judge P) (q : PriorityQueue V P C) (turns : List (Turn V P C))
    (after : LockedQueue V P C) : Prop :=
  (∃ last n, after = ⟨.sound last, n⟩ ∧ Serves judge q turns last) ∨
  ∃ calm p broken later, turns = calm ++ broken :: broken.after.history judge later ∧
    after = (broken.after.run judge later).2 ∧ Serves judge q calm p ∧ Breaks judge p broken

/-- A turn in which the queue serves can be put before any course. -/
theorem Course.cons {turn : Turn V P C} {after : LockedQueue V P C}
    (extend : ∀ turns last, Serves judge q' turns last → Serves judge q (turn :: turns) last)
    (h : Course judge q' turns after) : Course judge q (turn :: turns) after := by
  rcases h with ⟨last, n, hafter, hserves⟩ |
    ⟨calm, p, broken, later, hturns, hafter, hserves, hbreaks⟩
  · exact .inl ⟨last, n, hafter, extend turns last hserves⟩
  · exact .inr ⟨turn :: calm, p, broken, later, congrArg _ hturns, hafter, extend calm p hserves,
      hbreaks⟩

/-- **A locked queue serves until a request breaks down in it**, and then no more. -/
theorem history_course (judge : Judge P) {s : LockedQueue V P C} (hs : s.lock = .sound q)
    (calls : List (Call V P)) :
    Course judge q (s.history judge calls) (s.run judge calls).2 := by
  induction calls generalizing s q with
  | nil => exact .inl ⟨q, s.handles, by rw [← hs]; rfl, .rest q⟩
  | cons call calls ih =>
    obtain ⟨response, s', hperform⟩ :
      ∃ response s', s.perform judge call.request = (response, s') := ⟨_, _, rfl⟩
    rw [history_cons hperform, run_cons hperform]
    cases perform_step hperform with
    | serve n hop hattempt =>
      cases hs
      exact (ih rfl).cons fun turns last => .serve n hop hattempt
    | breakDown n hop hattempt =>
      cases hs
      exact .inr ⟨[], q, _, calls, rfl, rfl, .rest q, breaks_of_error n hop hattempt⟩
    | alone lock n halone =>
      cases hs
      have hop : call.request.operation? = none := halone.resolve_left nofun
      exact (ih rfl).cons fun turns last => .alone n hop

/-! ## What clients see -/

/-- Nothing breaks down while a queue serves. -/
theorem Serves.calm (h : Serves judge q turns last) :
    ∀ turn ∈ turns, ¬ turn.BrokeDown judge ∧ turn.after.lock ≠ .poisoned := by
  induction h with
  | rest q => exact List.forall_mem_nil _
  | serve n hop hattempt hserves ih =>
    refine List.forall_mem_cons.2 ⟨⟨?_, nofun⟩, ih⟩
    rw [brokeDown_iff hop, hattempt]
    exact nofun
  | alone n hop hserves ih =>
    exact List.forall_mem_cons.2 ⟨⟨not_brokeDown_of_put (put_alone (.inr hop)), nofun⟩, ih⟩

/-- The responses of some turns are the replies of one queue that is given their requests in the same
order; where the queue is not needed, they are those of the handle alone. -/
def Sequential (judge : Judge P) (q : PriorityQueue V P C) (turns : List (Turn V P C))
    (last : PriorityQueue V P C) : Prop :=
  ∃ replies,
    (q.run (turns.filterMap fun turn => turn.call.request.operation?)).attempt judge =
      .ok (replies, last) ∧
    (turns.filter fun turn => turn.call.request.operation?.isSome).map Turn.response =
      replies.map Response.ofReply ∧
    ∀ turn ∈ turns, turn.call.request.operation? = none →
      turn.response = turn.call.request.alone turn.before.handles

theorem Serves.sequential (h : Serves judge q turns last) : Sequential judge q turns last := by
  induction h with
  | rest q => exact ⟨[], rfl, rfl, List.forall_mem_nil _⟩
  | @serve q q' last call op reply turns n hop hattempt hserves ih =>
    obtain ⟨replies, hrun, hresponses, halone⟩ := ih
    refine ⟨reply :: replies, ?_, ?_, List.forall_mem_cons.2 ⟨fun hnone => ?_, halone⟩⟩
    · simp only [List.filterMap_cons, hop, PriorityQueue.run, Inquiry.attempt_bind, hattempt]
      show (Inquiry.attempt judge (q'.run _) >>= _) = _
      rw [hrun]
      rfl
    · rw [List.filter_cons_of_pos (by simp [hop]), List.map_cons, hresponses, List.map_cons]
    · cases hop.symm.trans hnone
  | alone n hop hserves ih =>
    obtain ⟨replies, hrun, hresponses, halone⟩ := ih
    refine ⟨replies, ?_, ?_, List.forall_mem_cons.2 ⟨fun _ => rfl, halone⟩⟩
    · simp only [List.filterMap_cons, hop, hrun]
    · rw [List.filter_cons_of_neg (by simp [hop]), hresponses]

/-- What comes in goes out or is still there. -/
theorem balance_of_perform (s s' : LockedQueue V P C) {call : Call V P} {op : Operation V P}
    {reply : Reply V P} (hop : call.request.operation? = some op)
    (h : (q.perform op).attempt judge = .ok (reply, q')) :
    let turn : Turn V P C := ⟨call, s, .ofReply reply, s'⟩
    q.bag + turn.inserted = turn.handedOut + q'.bag := by
  obtain ⟨handle, request⟩ := call
  have hbalance := ((PriorityQueue.perform_accounts q op).attempt h).balance
  have hkept : (⟨q, op, reply, q'⟩ : PriorityQueue.Entry V P C).discarded = 0 := by
    cases request <;> cases hop <;> rfl
  rw [hkept, add_zero] at hbalance
  cases request with
  | insert x =>
    cases hop
    have hdone : (q.perform (.insert x)).Always fun r => r.1 = .done := by
      rw [PriorityQueue.perform, Inquiry.always_bind]
      exact Inquiry.always_of_forall _ fun _ => rfl
    obtain rfl : reply = .done := hdone.attempt h
    exact hbalance
  | remove =>
    cases hop
    rcases reply with _ | _ | _ | _ | ⟨_ | _⟩ | _ | _ <;> exact hbalance
  | drain =>
    cases hop
    have hdrained : (q.perform (.drain none)).Always fun r => ∃ k xs l, r.1 = .drained k xs l := by
      rw [PriorityQueue.perform, Inquiry.always_bind]
      exact Inquiry.always_of_forall _ fun _ => ⟨_, _, _, rfl⟩
    obtain ⟨k, xs, l, rfl⟩ := hdrained.attempt h
    exact hbalance
  | peek => cases hop; cases h; exact hbalance
  | size => cases hop; cases h; exact hbalance
  | isEmpty => cases hop; cases h; exact hbalance
  | clone => cases hop
  | drop => cases hop

theorem Serves.balance (h : Serves judge q turns last) :
    q.bag + (turns.map Turn.inserted).sum = (turns.map Turn.handedOut).sum + last.bag := by
  induction h with
  | rest q => simp
  | @serve q q' last call op reply turns n hop hattempt hserves ih =>
    have hturn := balance_of_perform ⟨.sound q, n⟩ ⟨.sound q', n⟩ hop hattempt
    rw [List.map_cons, List.sum_cons, List.map_cons, List.sum_cons, ← add_assoc, hturn, add_assoc,
      ih, add_assoc]
  | @alone q last call turns n hop hserves ih =>
    obtain ⟨hin, hout⟩ := moves_nothing ⟨call, ⟨.sound q, n⟩, call.request.alone n,
      ⟨.sound q, call.request.handlesAfter n⟩⟩ rfl
    rw [List.map_cons, List.sum_cons, hin, zero_add, List.map_cons, List.sum_cons, hout, zero_add,
      ih]

/-- **Each drain hands out all that there is, in order**, and leaves the queue empty. -/
theorem Serves.drains (h : Serves judge q turns last) (hjudge : judge.AnswersAs who)
    (hwho : StrictWeak who) (hheap : Heap.IsHeap who q.items) :
    ∀ turn ∈ turns, turn.call.request = .drain → ∃ p xs, turn.before.lock = .sound p ∧
      turn.response = .items xs ∧ turn.after.lock = .sound p.clear ∧ (xs : Multiset _) = p.bag ∧
      xs.Pairwise fun x y => who y.priority x.priority = false := by
  induction h with
  | rest q => exact List.forall_mem_nil _
  | @serve q q' last call op reply turns n hop hattempt hserves ih =>
    obtain ⟨-, hkeeps⟩ :=
      PriorityQueue.step_of_attempt hwho hwho.lenient hjudge hheap hattempt
    refine List.forall_mem_cons.2 ⟨fun hdrain => ?_, ih (hkeeps.isHeap hheap)⟩
    have hanswer := Inquiry.attempt_answer hjudge hattempt
    obtain rfl : op = .drain none := by
      rw [show call.request = .drain from hdrain] at hop
      cases hop; rfl
    obtain ⟨xs, hxs, hdrains⟩ := PriorityQueue.drain_all hwho hwho.lenient hheap
    rw [PriorityQueue.perform, Inquiry.answer_bind, hxs] at hanswer
    cases hanswer
    refine ⟨q, xs, rfl, rfl, rfl, ?_, hdrains.pairwise⟩
    rw [hdrains.split, add_zero]
  | alone n hop hserves ih =>
    refine List.forall_mem_cons.2 ⟨fun hdrain => ?_, ih hheap⟩
    rw [show Call.request _ = .drain from hdrain] at hop
    cases hop

/-- **A locked queue is one queue**, as long as the judge does not break down.  Whatever queue is put
behind the lock and in whatever order the calls of any number of handles get it, the responses are
the replies of that queue to the same requests in the same order, whichever handles they come
through; what comes in goes out to some client or is still there; and if the judge speaks for a
strict weak order, each drain hands out all that there is, in order, and leaves nothing behind. -/
theorem calm_run_serves (judge : Judge P) (q : PriorityQueue V P C) (calls : List (Call V P))
    (hcalm : ∀ turn ∈ (ofQueue q).history judge calls, ¬ turn.BrokeDown judge) :
    let turns := (ofQueue q).history judge calls
    ∃ last n, (ofQueue q).run judge calls = (turns.map Turn.response, ⟨.sound last, n⟩) ∧
      turns.map Turn.call = calls ∧ Sequential judge q turns last ∧
      (∀ others, others.map Call.request = calls.map Call.request →
        (ofQueue q).run judge others = (ofQueue q).run judge calls) ∧
      q.bag + (turns.map Turn.inserted).sum = (turns.map Turn.handedOut).sum + last.bag ∧
      ∀ rank : C → Ranking P, Reached rank q → judge.AnswersAs (rank q.order).precedes →
        StrictWeak (rank q.order).precedes → ∀ turn ∈ turns, turn.call.request = .drain →
          ∃ p xs, turn.before.lock = .sound p ∧ turn.response = .items xs ∧
            turn.after.lock = .sound p.clear ∧ (xs : Multiset _) = p.bag ∧
            xs.Pairwise fun x y => (rank q.order).precedes y.priority x.priority = false := by
  intro turns
  rcases history_course (s := ofQueue q) judge rfl calls with ⟨last, n, hrun, hserves⟩ |
    ⟨calm, p, broken, later, hhistory, -, -, hbreaks⟩
  · refine ⟨last, n, ?_, map_call_history judge _ calls, hserves.sequential, fun others hothers =>
      run_congr judge _ hothers, hserves.balance, fun rank hq hjudge h => ?_⟩
    · rw [← hrun, ← run_eq_history]
    · exact hserves.drains hjudge h (hq.isHeap h h.lenient)
  · have hmem : broken ∈ (ofQueue q).history judge calls := by
      rw [hhistory]
      exact List.mem_append_right _ List.mem_cons_self
    exact absurd hbreaks.brokeDown (hcalm broken hmem)

/-- Three handles share a greatest-first queue; one of them is given back before the queue is drained
through another. -/
theorem calm_run_serves_three_handles :
    let rank : QueueOrder → Ranking Int64 := QueueOrder.ranking
    let who := (rank .max).precedes
    let calls : List (Call Nat Int64) := [⟨0, .clone⟩, ⟨1, .insert ⟨2, 7⟩⟩, ⟨1, .clone⟩, ⟨2, .remove⟩,
      ⟨0, .drop⟩, ⟨2, .insert ⟨3, 8⟩⟩, ⟨1, .size⟩, ⟨2, .drain⟩, ⟨1, .remove⟩]
    ∃ q : PriorityQueue Nat Int64 QueueOrder, Reached rank q ∧ StrictWeak (rank q.order).precedes ∧
      (Judge.total who).AnswersAs (rank q.order).precedes ∧
      (∀ turn ∈ (ofQueue q).history (Judge.total who) calls, ¬ turn.BrokeDown (Judge.total who)) ∧
      ((ofQueue q).run (Judge.total who) calls).1 = [.handle 1, .done, .handle 2, .item ⟨1, 9⟩, .done,
        .done, .count 3, .items [⟨3, 8⟩, ⟨2, 7⟩, ⟨0, 4⟩], .refused .empty] ∧
      (∃ last, Sequential (Judge.total who) q ((ofQueue q).history (Judge.total who) calls) last) ∧
      ∀ turn ∈ (ofQueue q).history (Judge.total who) calls, turn.call.request = .drain →
        ∃ p xs, turn.before.lock = .sound p ∧ turn.response = .items xs ∧
          turn.after.lock = .sound p.clear ∧ (xs : Multiset _) = p.bag ∧
          xs.Pairwise fun x y => who y.priority x.priority = false := by
  intro rank who calls
  let q : PriorityQueue Nat Int64 QueueOrder :=
    (PriorityQueue.withOrder [⟨0, 4⟩, ⟨1, 9⟩] .max).answer who
  have hq : Reached rank q := ⟨.withOrder [⟨0, 4⟩, ⟨1, 9⟩] .max, [], q, rfl, rfl⟩
  have horder : q.order = .max := by decide +kernel
  have hwho : (rank q.order).precedes = who := by rw [horder]
  have h : StrictWeak (rank q.order).precedes := QueueOrder.strictWeak _
  have hjudge : (Judge.total who).AnswersAs (rank q.order).precedes :=
    hwho ▸ Judge.total_answersAs who
  have hcalm : ∀ turn ∈ (ofQueue q).history (Judge.total who) calls,
      ¬ turn.BrokeDown (Judge.total who) := by
    rintro turn - ⟨pair, -, fault, hfault⟩
    cases hfault
  obtain ⟨last, n, -, -, hsequential, -, -, hdrains⟩ :=
    calm_run_serves (Judge.total who) q calls hcalm
  refine ⟨q, hq, h, hjudge, hcalm, ?_, ⟨last, hsequential⟩, ?_⟩
  · decide +kernel
  · exact hwho ▸ hdrains rank hq hjudge h

end Agenda.LockedQueue
