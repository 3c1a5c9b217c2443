import Agenda.Proofs.Bag.Movement
import Agenda.Proofs.LockedQueue.Service
/-!
# An inversion needs an insertion

An item can be handed out after one that it precedes, but only if it was not there in time.

* `Entry.moves`, `history_moves` — the moves of the requests of one client.
* `Turn.moves`, `Serves.moves` — the moves of the calls of many clients.
* `stamped` — these moves with the handles that they were made through.
* `inversion_needs_insertion` — both are in order but for items that come in too late; while no item
  comes in, all clients together and each client by itself are served in order.
-/

set_option autoImplicit false

namespace Agenda

variable {V P C : Type} {lt who : P → P → Bool} {judge : Judge P} {q last : PriorityQueue V P C}

namespace PriorityQueue

/-! ## One client -/

/-- The moves that a request stands for. -/
def Entry.moves (e : Entry V P C) : List (Move V P) := movesOf e.operation e.reply

/-- The moves of all requests are moves that the bag of items allows. -/
theorem history_moves (h : StrictWeak lt) (hwho : Lenient lt who) (hheap : Heap.IsHeap lt q.items)
    (ops : List (Operation V P)) :
    ∃ entries last, (q.history ops).answer who = (entries, last) ∧
      Bag.Moves lt q.bag (entries.flatMap Entry.moves) last.bag := by
  induction ops generalizing q with
  | nil => exact ⟨[], q, rfl, .stay q.bag⟩
  | cons op ops ih =>
    obtain ⟨reply, q', hperform, hstep, hkeeps⟩ := perform_step h hwho hheap op
    obtain ⟨entries, last, hhistory, hmoves⟩ := ih (hkeeps.isHeap hheap)
    refine ⟨⟨q, op, reply, q'⟩ :: entries, last, by simp [history, hperform, hhistory], ?_⟩
    rw [List.flatMap_cons]
    exact hstep.moves.append hmoves

end PriorityQueue

namespace LockedQueue

open PriorityQueue (Operation Reply Reached)

variable {turns : List (Turn V P C)}

/-! ## Many clients -/

/-- The moves that a turn stands for. -/
def Turn.moves (turn : Turn V P C) : List (Move V P) :=
  match turn.call.request, turn.response with
  | .insert x, .done => [.came x]
  | .remove, .item x => [.went x]
  | .drain, .items xs => xs.map .went
  | _, _ => []

/-- The moves of some turns, each with the handle that it was made through. -/
def stamped (turns : List (Turn V P C)) : List (Nat × Move V P) :=
  turns.flatMap fun turn => turn.moves.map fun move => (turn.call.handle, move)

/-- The moves that one client makes through its handle. -/
def ofHandle (handle : Nat) (moves : List (Nat × Move V P)) : List (Move V P) :=
  (moves.filter fun move => move.1 == handle).map Prod.snd

theorem ofHandle_sublist (handle : Nat) (moves : List (Nat × Move V P)) :
    (ofHandle handle moves).Sublist (moves.map Prod.snd) :=
  List.filter_sublist.map Prod.snd

theorem map_snd_stamped (turns : List (Turn V P C)) :
    (stamped turns).map Prod.snd = turns.flatMap Turn.moves := by
  simp [stamped, List.map_flatMap, Function.comp_def]

/-- The moves of a turn in which the queue serves are those of its request. -/
theorem moves_of_step (s s' : LockedQueue V P C) {call : Call V P} {op : Operation V P}
    {reply : Reply V P} {bag bag' : Multiset (Item V P)}
    (hop : call.request.operation? = some op) (hstep : Bag.Step lt bag op reply bag') :
    (⟨call, s, .ofReply reply, s'⟩ : Turn V P C).moves = movesOf op reply := by
  obtain ⟨handle, request⟩ := call
  cases request with
  | insert x => cases hop; cases hstep; rfl
  | remove => cases hop; cases hstep <;> rfl
  | peek => cases hop; cases hstep <;> rfl
  | drain => cases hop; cases hstep; rfl
  | size => cases hop; cases hstep; rfl
  | isEmpty => cases hop; cases hstep; rfl
  | clone => cases hop
  | drop => cases hop

/-- A handle that responds by itself moves nothing. -/
theorem moves_alone {turn : Turn V P C} {n : Nat}
    (h : turn.response = turn.call.request.alone n) : turn.moves = [] := by
  obtain ⟨⟨handle, request⟩, s, response, s'⟩ := turn
  obtain rfl : response = request.alone n := h
  cases request <;> rfl

/-- A turn that breaks off moves nothing. -/
theorem moves_brokeOff {turn : Turn V P C} {fault : Fault} (h : turn.response = .brokeOff fault) :
    turn.moves = [] := by
  obtain ⟨⟨handle, request⟩, s, response, s'⟩ := turn
  obtain rfl : response = .brokeOff fault := h
  cases request <;> rfl

/-- While a queue serves, its turns are moves that the bag of its items allows. -/
theorem Serves.moves (h : Serves judge q turns last) (hjudge : judge.AnswersAs who)
    (hwho : StrictWeak who) (hheap : Heap.IsHeap who q.items) :
    Bag.Moves who q.bag (turns.flatMap Turn.moves) last.bag := by
  induction h with
  | rest q => exact .stay q.bag
  | serve n hop hattempt _ ih =>
    obtain ⟨hstep, hkeeps⟩ :=
      PriorityQueue.step_of_attempt hwho hwho.lenient hjudge hheap hattempt
    rw [List.flatMap_cons, moves_of_step _ _ hop hstep]
    exact hstep.moves.append (ih (hkeeps.isHeap hheap))
  | alone n _ _ ih =>
    rw [List.flatMap_cons, moves_alone rfl, List.nil_append]
    exact ih hheap

/-- After a breakdown nothing moves any more, so all turns of a locked queue are moves that the bag
of its items allows. -/
theorem history_moves (hjudge : judge.AnswersAs who) (hwho : StrictWeak who)
    (hheap : Heap.IsHeap who q.items) (calls : List (Call V P)) :
    ∃ last, Bag.Moves who q.bag (((ofQueue q).history judge calls).flatMap Turn.moves) last := by
  rcases history_course (s := ofQueue q) judge rfl calls with ⟨last, n, -, hserves⟩ |
    ⟨calm, p, broken, later, hhistory, -, hserves, hbreaks⟩
  · exact ⟨last.bag, hserves.moves hjudge hwho hheap⟩
  · obtain ⟨fault, hfault⟩ := hbreaks.response
    have hlater : (broken.after.history judge later).flatMap Turn.moves = [] :=
      List.flatMap_eq_nil_iff.2 fun turn hturn =>
        moves_alone ((history_poisoned judge hbreaks.after later).2 turn hturn).response
    refine ⟨p.bag, ?_⟩
    rw [hhistory, List.flatMap_append, List.flatMap_cons, moves_brokeOff hfault, hlater,
      List.append_nil, List.append_nil]
    exact hserves.moves hjudge hwho hheap

/-! ## Inversions -/

/-- **An inversion needs an insertion.**  A queue has been through anything and is put to requests of
one client, or behind a lock and to calls of any number of clients in any order; its ranking is a
strict weak order.  If an item is handed out after one that it precedes, through the same handle or
another, by single removals or in the midst of a drain, then it came in between the two.  Hence in
any stretch in which no item comes in, all clients together are served in order, and so is each
client by itself. -/
theorem inversion_needs_insertion (rank : C → Ranking P) (hq : Reached rank q)
    (h : StrictWeak (rank q.order).precedes) :
    let who := (rank q.order).precedes
    (∀ ops, InOrder who (((q.history ops).answer who).1.flatMap PriorityQueue.Entry.moves)) ∧
    ∀ judge : Judge P, judge.AnswersAs who → ∀ calls,
      let moves := stamped ((ofQueue q).history judge calls)
      InOrder who (moves.map Prod.snd) ∧
      ∀ before stretch after, moves = before ++ (stretch ++ after) →
        (∀ move ∈ stretch, ∀ x, move.2 ≠ .came x) → ∀ handle,
          (Move.taken (ofHandle handle stretch)).Pairwise
            fun x y => who y.priority x.priority = false := by
  intro who
  have hheap := hq.isHeap h h.lenient
  constructor
  · intro ops
    obtain ⟨entries, last, hhistory, hmoves⟩ :=
      PriorityQueue.history_moves h h.lenient hheap ops
    rw [hhistory]
    exact hmoves.inOrder
  · intro judge hjudge calls moves
    obtain ⟨last, hmoves⟩ := history_moves hjudge h hheap calls
    rw [← map_snd_stamped] at hmoves
    refine ⟨hmoves.inOrder, fun before stretch after hsplit hnone handle => ?_⟩
    have hsorted : (Move.taken (stretch.map Prod.snd)).Pairwise (Item.Leads who) := by
      refine hmoves.inOrder.sorted (before.map Prod.snd) _ (after.map Prod.snd) ?_ fun x hx => ?_
      · rw [← List.map_append, ← List.map_append]
        exact congrArg (List.map Prod.snd) hsplit
      · obtain ⟨move, hmove, hcame⟩ := List.mem_map.1 hx
        exact hnone move hmove x hcame
    exact hsorted.sublist ((ofHandle_sublist handle stretch).filterMap _)

/-- Through two handles: an item that precedes the first one handed out comes in too late, and goes
out afterwards. -/
theorem inversion_needs_insertion_two_handles :
    let rank : QueueOrder → Ranking Int64 := QueueOrder.ranking
    let who := (rank .min).precedes
    let calls : List (Call Nat Int64) :=
      [⟨0, .clone⟩, ⟨1, .remove⟩, ⟨0, .insert ⟨7, 1⟩⟩, ⟨0, .remove⟩, ⟨1, .drain⟩]
    ∃ q : PriorityQueue Nat Int64 QueueOrder, Reached rank q ∧
      StrictWeak (rank q.order).precedes ∧ (Judge.total who).AnswersAs (rank q.order).precedes ∧
      (stamped ((ofQueue q).history (Judge.total who) calls)).map Prod.snd =
        [.went ⟨1, 3⟩, .came ⟨7, 1⟩, .went ⟨7, 1⟩, .went ⟨2, 4⟩, .went ⟨0, 5⟩] ∧
      InOrder (rank q.order).precedes
        ((stamped ((ofQueue q).history (Judge.total who) calls)).map Prod.snd) := by
  intro rank who calls
  let items : List (Item Nat Int64) := [⟨0, 5⟩, ⟨1, 3⟩, ⟨2, 4⟩]
  let q : PriorityQueue Nat Int64 QueueOrder := (PriorityQueue.withOrder items .min).answer who
  have hq : Reached rank q := ⟨.withOrder items .min, [], q, rfl, rfl⟩
  have horder : q.order = .min := by decide +kernel
  have hwho : (rank q.order).precedes = who := by rw [horder]
  have h : StrictWeak (rank q.order).precedes := QueueOrder.strictWeak _
  have hjudge : (Judge.total who).AnswersAs (rank q.order).precedes :=
    hwho ▸ Judge.total_answersAs who
  have hinOrder := ((inversion_needs_insertion rank hq h).2 (Judge.total who) hjudge calls).1
  refine ⟨q, hq, h, hjudge, ?_, hinOrder⟩
  decide +kernel

end LockedQueue

end Agenda
