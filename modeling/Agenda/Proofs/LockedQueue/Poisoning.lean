import Agenda.Proofs.LockedQueue.Service
/-!
# What a breakdown does to a locked queue

The judge may break down on some pairs of priorities.  Which request it breaks down in depends on the
pairs that the sifts come to put to it: an item on which it always breaks down can lie at the root of
a queue unnoticed, as long as no other item is compared with it.

* `breakdown_poisons` — an interleaving of calls consists of turns in which the queue serves, of one
  that breaks down, if any does, and of turns that find the lock poisoned.
-/

set_option autoImplicit false

namespace Agenda.LockedQueue

variable {V P C : Type} {judge : Judge P}

theorem Barred.not_brokeDown {turn : Turn V P C} (h : Barred judge turn) :
    ¬ turn.BrokeDown judge :=
  not_brokeDown_of_put h.put

theorem Barred.handedOut {turn : Turn V P C} (h : Barred judge turn) : turn.handedOut = 0 :=
  (moves_nothing turn h.response).2

/-- **Only a breakdown poisons the lock, and the poison is for good.**  Whatever queue is put behind
the lock, whatever the judge breaks down on and in whatever order the calls of any number of handles
get the lock: as long as the judge does not break down the lock stays sound and the responses are
the replies of the queue to the same requests.  The first turn in which it breaks down inserts,
removes or drains; it breaks off and leaves the lock poisoned.  From then on every handle responds by
itself, whenever it was given out: nothing is handed out and the judge is never asked again, so that
it cannot break down a second time. -/
theorem breakdown_poisons (judge : Judge P) (q : PriorityQueue V P C) (calls : List (Call V P)) :
    let turns := (ofQueue q).history judge calls
    let after := ((ofQueue q).run judge calls).2
    ((ofQueue q).run judge calls).1 = turns.map Turn.response ∧ turns.map Turn.call = calls ∧
    ((∃ last, after.lock = .sound last ∧ Sequential judge q turns last ∧
        ∀ turn ∈ turns, ¬ turn.BrokeDown judge ∧ turn.after.lock ≠ .poisoned) ∨
      ∃ calm p broken barred, turns = calm ++ broken :: barred ∧ after.lock = .poisoned ∧
        Sequential judge q calm p ∧
        (∀ turn ∈ calm, ¬ turn.BrokeDown judge ∧ turn.after.lock ≠ .poisoned) ∧
        Breaks judge p broken ∧
        ∀ turn ∈ barred, Barred judge turn ∧ turn.handedOut = 0 ∧ ¬ turn.BrokeDown judge) := by
  intro turns after
  refine ⟨run_eq_history judge _ calls, map_call_history judge _ calls, ?_⟩
  rcases history_course (s := ofQueue q) judge rfl calls with ⟨last, n, hrun, hserves⟩ |
    ⟨calm, p, broken, later, hhistory, hrun, hserves, hbreaks⟩
  · exact .inl ⟨last, congrArg LockedQueue.lock hrun, hserves.sequential, hserves.calm⟩
  · obtain ⟨hlast, hbarred⟩ := history_poisoned judge hbreaks.after later
    refine .inr ⟨calm, p, broken, _, hhistory, ?_, hserves.sequential, hserves.calm, hbreaks,
      fun turn hturn => ?_⟩
    · rw [← hlast, ← hrun]
    · have hturn := hbarred turn hturn
      exact ⟨hturn, hturn.handedOut, hturn.not_brokeDown⟩

/-- The judge breaks down on 13, which is noticed once a second item comes in. -/
example :
    let judge : Judge Nat := fun a b =>
      if a = 13 ∨ b = 13 then .error (.ranking "unlucky") else .ok (decide (a < b))
    let q : PriorityQueue Nat Nat Unit := ⟨#[⟨0, 13⟩], ()⟩
    let calls : List (Call Nat Nat) := [⟨0, .peek⟩, ⟨0, .clone⟩, ⟨1, .insert ⟨1, 5⟩⟩, ⟨0, .remove⟩,
      ⟨1, .peek⟩, ⟨0, .size⟩, ⟨1, .clone⟩, ⟨2, .isEmpty⟩, ⟨2, .drain⟩, ⟨2, .insert ⟨1, 5⟩⟩]
    ((ofQueue q).run judge calls).1 = [.item? (some ⟨0, 13⟩), .handle 1,
      .brokeOff (.ranking "unlucky"), .refused poisonedRefusal, .item? none, .count 0, .handle 2,
      .flag true, .refused poisonedRefusal, .refused poisonedRefusal] := by
  decide +kernel

end Agenda.LockedQueue
