import Agenda.Proofs.PriorityQueue.Step
/-!
# A queue is a bag of its items

Both results hold for every way to make a queue, all items and all sequences of requests, under any
ranking that is a strict weak order.

* `run_refines_bag` — the replies of a queue are those of the bag of its items.
* `reached_isHeap` — whatever a queue has been through, its items are stored as a heap, and its
  check says so.
-/

set_option autoImplicit false

namespace Agenda.PriorityQueue

variable {V P C : Type} {lt : P → P → Bool} {q : PriorityQueue V P C}

/-! ## Queues that have been through something -/

/-- A queue starts with its items and then follows the bag of them. -/
theorem start_run {rank : C → Ranking P} {origin : Origin V P C} (h : StrictWeak lt)
    (hwho : Lenient lt (rank origin.order).precedes) {start : PriorityQueue V P C}
    (hstart : origin.start rank = .ok start) (ops : List (Operation V P)) :
    ∃ replies q, (start.run ops).answer (rank origin.order).precedes = (replies, q) ∧
      q.order = origin.order ∧ Bag.Run lt origin.items ops replies q.bag ∧
      Heap.IsHeap lt q.items := by
  rcases Origin.make_cases h hwho origin with ⟨hmake, -⟩ | ⟨build, hmake, -, horder, hbag, hheap⟩
  · rw [Origin.start, hmake] at hstart
    cases hstart
  · rw [Origin.start, hmake] at hstart
    cases hstart
    obtain ⟨replies, q, hrun, hsteps, hkeeps⟩ := run_steps h hwho hheap ops
    exact ⟨replies, q, hrun, hkeeps.order.trans horder, hbag ▸ hsteps, hkeeps.isHeap hheap⟩

/-- A queue never changes its order. -/
theorem start_run_order {rank : C → Ranking P} {origin : Origin V P C}
    {start : PriorityQueue V P C} (hstart : origin.start rank = .ok start)
    (ops : List (Operation V P)) :
    ((start.run ops).answer (rank origin.order).precedes).2.order = origin.order := by
  obtain ⟨replies, q, hrun, horder, -⟩ :=
    start_run indifferent_strictWeak (indifferent_lenient _) hstart ops
  rw [hrun]
  exact horder

/-- Heap order survives all that a queue can go through. -/
theorem Reached.isHeap {rank : C → Ranking P} (hq : Reached rank q) (h : StrictWeak lt)
    (hwho : Lenient lt (rank q.order).precedes) : Heap.IsHeap lt q.items := by
  obtain ⟨origin, ops, start, hstart, rfl⟩ := hq
  rw [start_run_order hstart ops] at hwho
  obtain ⟨replies, q, hrun, -, -, hheap⟩ := start_run h hwho hstart ops
  rw [hrun]
  exact hheap

/-! ## Refinement -/

/-- **A queue is a bag of its items.**  Every way to make a queue gives one with the items at hand,
unless more bytes are to be reserved than any storage has.  From there on its replies to any requests
are replies that the bag of its items allows, under the ranking that its order stands for.  In every
state it comes to, it shows the item that a pop takes next, and a removal that finds no item leaves
it exactly as it is. -/
theorem run_refines_bag (rank : C → Ranking P) (origin : Origin V P C)
    (h : StrictWeak (rank origin.order).precedes) (ops : List (Operation V P)) :
    let who := (rank origin.order).precedes
    match origin.start rank with
    | .error fault => fault = .capacityOverflow ∧ Settings.byteLimit ≤ origin.storage
    | .ok start =>
      origin.storage < Settings.byteLimit ∧
      ∃ replies q, (start.run ops).answer who = (replies, q) ∧ q.order = origin.order ∧
        Bag.Run who origin.items ops replies q.bag ∧
        (q.perform .peek).answer who = (.item? (q.pop.answer who).1, q) ∧
        (q.bag = 0 → (q.perform .remove).answer who = (.removal (.error .empty), q)) := by
  intro who
  rcases Origin.make_cases h h.lenient origin with ⟨hmake, hfull⟩ | ⟨build, hmake, hroom, -⟩
  · rw [Origin.start, hmake]
    exact ⟨rfl, hfull⟩
  · have hstart : origin.start rank = .ok (build.answer who) := by rw [Origin.start, hmake]; rfl
    obtain ⟨replies, q, hrun, horder, hsteps, hheap⟩ := start_run h h.lenient hstart ops
    rw [hstart]
    refine ⟨hroom, replies, q, hrun, horder, hsteps, ?_⟩
    rcases pop_cases h h.lenient q with ⟨-, hpeek, hpop⟩ | ⟨x, q', hpop, hpeek, hbag, -⟩
    · refine ⟨?_, fun _ => ?_⟩
      · rw [hpop, ← hpeek]; rfl
      · simp [perform, remove, who, hpop]
    · refine ⟨?_, fun hzero => ?_⟩
      · rw [hpop, ← hpeek]; rfl
      · rw [hbag] at hzero
        exact absurd hzero (Multiset.cons_ne_zero)

/-- A greatest-first queue with ties, put to requests of most kinds. -/
theorem run_refines_bag_greatest_first :
    let rank : QueueOrder → Ranking Int64 := QueueOrder.ranking
    let origin : Origin Nat Int64 QueueOrder := .ofSettings 16 [⟨0, 5⟩, ⟨1, 7⟩, ⟨2, 5⟩] ⟨8, .max⟩
    let ops : List (Operation Nat Int64) := [.push 3 7, .pop, .peek, .extend [⟨4, -1⟩, ⟨5, 9⟩],
      .remove, .size, .isEmpty, .drain (some 1)]
    StrictWeak (rank origin.order).precedes ∧
      ∃ start replies q, origin.start rank = .ok start ∧
        (start.run ops).answer (rank origin.order).precedes = (replies, q) ∧
        q.items.toList = [⟨0, 5⟩, ⟨4, -1⟩, ⟨2, 5⟩] ∧
        Bag.Run (rank origin.order).precedes origin.items ops replies q.bag := by
  intro rank origin ops
  have h : StrictWeak (rank origin.order).precedes := QueueOrder.strictWeak .max
  obtain ⟨-, replies, q, hrun, -, hsteps, -⟩ := run_refines_bag rank origin h ops
  refine ⟨h, _, replies, q, rfl, hrun, ?_, hsteps⟩
  rw [← show _ = q from congrArg Prod.snd hrun]
  decide +kernel

/-! ## Representation -/

/-- **Whatever a queue has been through, its items are stored as a heap**, and its check says
so. -/
theorem reached_isHeap (rank : C → Ranking P) (hq : Reached rank q)
    (h : StrictWeak (rank q.order).precedes) :
    Heap.IsHeap (rank q.order).precedes q.items ∧
      q.check.answer (rank q.order).precedes = true := by
  have hheap := hq.isHeap h h.lenient
  exact ⟨hheap, Heap.check_eq_true.2 hheap⟩

/-- A queue by the last digit that is drained half-way and refused a removal before it is filled
again. -/
theorem reached_isHeap_by_last_digit :
    let rank : Unit → Ranking Nat := fun _ => { compare := fun a b => compare (a % 10) (b % 10) }
    ∃ q : PriorityQueue Nat Nat Unit, Reached rank q ∧ StrictWeak (rank q.order).precedes ∧
      q.items.toList = [⟨4, 21⟩, ⟨3, 42⟩, ⟨5, 62⟩] ∧
      Heap.IsHeap (rank q.order).precedes q.items ∧
      q.check.answer (rank q.order).precedes = true := by
  intro rank
  let origin : Origin Nat Nat Unit := .withOrder [⟨0, 17⟩, ⟨1, 33⟩] ()
  let ops : List (Operation Nat Nat) := [.insert ⟨2, 40⟩, .drain (some 2), .remove, .remove,
    .extend [⟨3, 42⟩], .push 4 21, .insert ⟨5, 62⟩]
  have h : StrictWeak (rank ()).precedes := by
    have hmod : Std.TransCmp fun a b : Nat => compare (a % 10) (b % 10) :=
      inferInstanceAs (Std.TransCmp (compareOn fun n : Nat => n % 10))
    exact StrictWeak.ofCompare _
  have hq : Reached rank _ := ⟨origin, ops, _, rfl, rfl⟩
  refine ⟨_, hq, h, ?_, reached_isHeap rank hq h⟩
  decide +kernel

end Agenda.PriorityQueue
