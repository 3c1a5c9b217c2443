import Agenda.Proofs.Heap.Questions
import Agenda.Proofs.PriorityQueue.Conservation
/-!
# How much a queue asks

Nothing in this module depends on an order: the bounds hold along every course that the answers can
send a queue on, even where they contradict each other.

* `mostAsked_pop_le`, `mostAsked_drainOnto_le` — a pop, and pops one after the other of a queue that
  only gets smaller.
* `asks_at_most` — building asks less than twice for every item, inserting once and popping twice
  for every level, and sorting as much as popping every item.
-/

set_option autoImplicit false

namespace Agenda.PriorityQueue

variable {V P C : Type}

theorem mostAsked_withOrder_le (items : List (Item V P)) (order : C) :
    (withOrder items order).mostAsked ≤ 2 * (items.length - 1) :=
  Nat.le_trans (Inquiry.mostAsked_bind_pure_le _ _) (Heap.mostAsked_build_le items.toArray)

theorem mostAsked_insert_le (q : PriorityQueue V P C) (x : Item V P) :
    (q.insert x).mostAsked ≤ (q.size + 1).log2 :=
  Nat.le_trans (Inquiry.mostAsked_bind_pure_le _ _) (Heap.mostAsked_insert_le q.items x)

theorem mostAsked_pop_le (q : PriorityQueue V P C) :
    q.pop.mostAsked ≤ 2 * (q.size - 1).log2 := by
  unfold pop
  refine Nat.le_trans (Inquiry.mostAsked_bind_le (m := 0) ?_) (Heap.mostAsked_pop_le q.items)
  apply Inquiry.always_of_forall
  intro popped
  cases popped with
  | none => exact Nat.le_refl 0
  | some taken => exact Nat.le_refl 0

/-- Every pop asks about a queue that is no larger than the first. -/
theorem mostAsked_drainOnto_le (q : PriorityQueue V P C) (taken : Array (Item V P)) (limit : Nat)
    {m : Nat} (hm : q.size ≤ m) : (q.drainOnto taken limit).mostAsked ≤ limit * (2 * m.log2) := by
  induction limit generalizing q taken with
  | zero => exact Nat.zero_le _
  | succ limit ih =>
    have hpop : q.pop.mostAsked ≤ 2 * m.log2 :=
      calc q.pop.mostAsked ≤ 2 * (q.size - 1).log2 := mostAsked_pop_le q
        _ ≤ 2 * m.log2 := Nat.mul_le_mul_left 2 (Heap.log2_le_log2 (by omega))
    have hturn : (q.drainOnto taken (limit + 1)).mostAsked ≤
        q.pop.mostAsked + limit * (2 * m.log2) := by
      unfold drainOnto
      apply Inquiry.mostAsked_bind_le
      refine (size_pop q).mono fun r hr => ?_
      obtain ⟨item?, rest⟩ := r
      have hrest : rest.size = q.size - 1 := hr.1
      cases item? with
      | some x =>
        apply ih
        omega
      | none => exact Nat.zero_le _
    rw [Nat.succ_mul]
    omega

theorem mostAsked_sorted_le (q : PriorityQueue V P C) :
    q.sorted.mostAsked ≤ 2 * q.size * q.size.log2 :=
  calc q.sorted.mostAsked ≤ (q.drain none).mostAsked := Inquiry.mostAsked_bind_pure_le _ _
    _ ≤ q.size * (2 * q.size.log2) := mostAsked_drainOnto_le q #[] q.size (Nat.le_refl _)
    _ = 2 * q.size * q.size.log2 := by rw [← Nat.mul_assoc, Nat.mul_comm q.size 2]

/-- **How much a queue asks**, whatever it is answered.  Building it from `n` items asks about
`2 * (n - 1)` pairs at most; inserting into a queue of `n` items asks at most once for each level
that `n + 1` items fill, and a pop at most twice for each level of what is left; with one item or
none, it asks nothing.  Taking out all items in order asks as much as a pop for each of them. -/
theorem asks_at_most (q : PriorityQueue V P C) (items : List (Item V P)) (order : C)
    (x : Item V P) :
    (withOrder items order).AsksAtMost (2 * (items.length - 1)) ∧
      (q.insert x).AsksAtMost (q.size + 1).log2 ∧
      q.pop.AsksAtMost (if 2 ≤ q.size then 2 * (q.size - 1).log2 else 0) ∧
      q.sorted.AsksAtMost (2 * q.size * q.size.log2) := by
  refine ⟨.of_mostAsked (mostAsked_withOrder_le items order),
    .of_mostAsked (mostAsked_insert_le q x), .of_mostAsked ?_,
    .of_mostAsked (mostAsked_sorted_le q)⟩
  have hpop := mostAsked_pop_le q
  split
  · exact hpop
  · rename_i hsmall
    -- one item is the last one, and it leaves nothing to put in order
    rwa [show q.size - 1 = 0 by omega, Nat.log2_zero, Nat.mul_zero] at hpop

/-- Among seven items an insertion can be sent up three levels, and a pop that leaves seven down two
of them: the bounds are met. -/
example :
    let q (n : Nat) : PriorityQueue Unit Nat Unit := ⟨(Array.range n).map (⟨(), ·⟩), ()⟩
    ((q 7).insert ⟨(), 0⟩).mostAsked = 3 ∧ (q 8).pop.mostAsked = 4 := by
  decide +kernel

end Agenda.PriorityQueue
