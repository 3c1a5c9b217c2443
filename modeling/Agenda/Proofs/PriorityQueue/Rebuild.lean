import Agenda.Proofs.PriorityQueue.Refinement
/-!
# Building a queue again

The slots of a queue can be read out in order, and a queue can be built of what was read.

* `withOrder_eq_self`, `withOrder_again` — a queue built of a heap stores it slot by slot; hence
  building twice is building once.
* `rebuilds_heaps_only` — these are all the arrays that building leaves as they are, and every queue
  is the one built of its own slots, whatever it has been through.
-/

set_option autoImplicit false

namespace Agenda.PriorityQueue

variable {V P C : Type} {who : P → P → Bool} {q : PriorityQueue V P C}

theorem answer_withOrder (items : List (Item V P)) (order : C) :
    (withOrder items order).answer who = ⟨(Heap.build items.toArray).answer who, order⟩ := by
  rw [withOrder, Inquiry.answer_bind]
  rfl

/-- A queue whose items are stored as a heap is the one built of its slots. -/
theorem withOrder_eq_self (hheap : Heap.IsHeap who q.items) :
    (withOrder q.items.toList q.order).answer who = q := by
  rw [answer_withOrder, Array.toArray_toList, Heap.build_eq_self hheap]

/-- A queue built of some items is built of its own slots, too. -/
theorem withOrder_again (h : StrictWeak who) (items : List (Item V P)) (order : C) :
    let built := (withOrder items order).answer who
    (withOrder built.items.toList order).answer who = built := by
  intro built
  obtain ⟨horder, -, hheap⟩ := withOrder_starts h h.lenient items order
  have hself := withOrder_eq_self hheap
  rwa [horder] at hself

/-- **Building leaves heaps as they are, and nothing else.**  Whatever the ranking, a queue built of
items that lie in heap order stores them slot by slot as they are.  Under a strict weak order no other
items are left in their slots; building twice is building once; and a queue that has been through
anything is the very queue that is built of its slots. -/
theorem rebuilds_heaps_only (rank : C → Ranking P) (order : C) (items : List (Item V P)) :
    let who := (rank order).precedes
    let built := (withOrder items order).answer who
    (Heap.IsHeap who items.toArray → built = ⟨items.toArray, order⟩) ∧
      (StrictWeak who →
        (built.items = items.toArray ↔ Heap.IsHeap who items.toArray) ∧
        (withOrder built.items.toList order).answer who = built ∧
        ∀ q : PriorityQueue V P C, Reached rank q → q.order = order →
          (withOrder q.items.toList order).answer who = q) := by
  intro who built
  have hbuilt : built = ⟨(Heap.build items.toArray).answer who, order⟩ :=
    answer_withOrder items order
  refine ⟨fun hheap => ?_, fun h => ⟨?_, withOrder_again h items order, ?_⟩⟩
  · rw [hbuilt, Heap.build_eq_self hheap]
  · rw [hbuilt]
    exact Heap.build_eq_self_iff h
  · rintro q hq rfl
    exact withOrder_eq_self (hq.isHeap h h.lenient)

/-- A ranking that goes round in a circle, with a heap of which the last item precedes the root; and
a queue with ties that was filled, drained in part and filled again. -/
theorem rebuilds_heaps_only_circle_and_ties :
    let beats : Unit → Ranking (Fin 3) := fun _ =>
      { compare := fun a b => if a + 1 = b then .lt else if a = b then .eq else .gt }
    let circle : List (Item Nat (Fin 3)) := [⟨0, 0⟩, ⟨1, 1⟩, ⟨2, 0⟩, ⟨3, 2⟩]
    let least : QueueOrder → Ranking Int64 := QueueOrder.ranking
    let who := (least .min).precedes
    let items : List (Item Nat Int64) := [⟨0, 4⟩, ⟨1, 2⟩, ⟨2, 4⟩]
    let ops : List (Operation Nat Int64) := [.extend [⟨3, 2⟩, ⟨4, 9⟩, ⟨5, 4⟩], .drain (some 2),
      .insert ⟨6, 4⟩]
    let start := (withOrder items QueueOrder.min).answer who
    let q := ((start.run ops).answer who).2
    (beats ()).precedes 2 0 = true ∧ Heap.IsHeap (beats ()).precedes circle.toArray ∧
      (withOrder circle ()).answer (beats ()).precedes = ⟨circle.toArray, ()⟩ ∧
      StrictWeak who ∧ Reached least q ∧ q.order = .min ∧
      start.items.toList = [⟨1, 2⟩, ⟨0, 4⟩, ⟨2, 4⟩] ∧ ¬ Heap.IsHeap who items.toArray ∧
      q.items.toList = [⟨5, 4⟩, ⟨0, 4⟩, ⟨2, 4⟩, ⟨4, 9⟩, ⟨6, 4⟩] ∧
      (withOrder q.items.toList .min).answer who = q := by
  intro beats circle least who items ops start q
  have hcircle : Heap.IsHeap (beats ()).precedes circle.toArray :=
    Heap.check_eq_true.1 (by decide +kernel)
  have h : StrictWeak who := QueueOrder.strictWeak .min
  have hq : Reached least q := ⟨.withOrder items .min, ops, start, rfl, rfl⟩
  have horder : q.order = .min := by decide +kernel
  obtain ⟨hiff, -, hagain⟩ := (rebuilds_heaps_only least .min items).2 h
  refine ⟨by decide, hcircle, (rebuilds_heaps_only beats () circle).1 hcircle, h, hq, horder, ?_,
    ?_, ?_, hagain q hq horder⟩
  · decide +kernel
  · rw [← hiff]
    decide +kernel
  · decide +kernel

end Agenda.PriorityQueue
