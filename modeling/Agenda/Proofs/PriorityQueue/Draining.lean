import Agenda.PriorityQueue.Draining
import Agenda.Proofs.PriorityQueue.Conservation
import Agenda.Proofs.PriorityQueue.Refinement
/-!
# A queue drained in part

A drain in progress goes along the list that a full drain of the queue hands out.  This much does
not depend on an order: the answers may follow any rule.

* `drain_eq_pulls` — a drain up to some limit is as many pulls; one that comes to nothing leaves no
  trace.
* `outgoing`, `outgoing_pop` — the list that a full drain hands out; a pop takes its head.
* `pulled_eq`, `outgoing_leftAfter` — hence pulls take items from its front and leave the others.
* `answer_chunks` — and so do several drains after one another.
* `GivenUp`, `drains_in_part` — what is promised when a drain of a queue that has been through
  anything is given up after some pulls.
-/

set_option autoImplicit false

namespace Agenda.PriorityQueue

variable {V P C : Type} {who : P → P → Bool} {q : PriorityQueue V P C}

/-! ## Pulls -/

/-- What some pulls come to. -/
def pulled (who : P → P → Bool) (q : PriorityQueue V P C) (times : Nat) : List (Pull V P) :=
  ((q.drainSorted.pulls times).answer who).1

/-- The queue after some pulls. -/
def leftAfter (who : P → P → Bool) (q : PriorityQueue V P C) (times : Nat) :
    PriorityQueue V P C :=
  ((q.drainSorted.pulls times).answer who).2.queue

theorem pulled_succ (who : P → P → Bool) (q : PriorityQueue V P C) (times : Nat) :
    pulled who q (times + 1) =
      ⟨(q.size, some q.size), (q.pop.answer who).1⟩ ::
        pulled who (q.pop.answer who).2 times := by
  simp [pulled, Draining.pulls, Draining.next, drainSorted, Draining.sizeHint]

theorem leftAfter_succ (who : P → P → Bool) (q : PriorityQueue V P C) (times : Nat) :
    leftAfter who q (times + 1) = leftAfter who (q.pop.answer who).2 times := by
  simp [leftAfter, Draining.pulls, Draining.next, drainSorted]

/-- A pop of an empty queue neither asks nor reports anything. -/
theorem pop_of_empty (hempty : q.items = #[]) : q.pop = return (none, q) := by
  obtain ⟨items, order⟩ := q
  obtain rfl : items = #[] := hempty
  rfl

theorem pulls_of_empty (hempty : q.items = #[]) (times : Nat) :
    q.drainSorted.pulls times =
      return (List.replicate times ⟨(0, some 0), none⟩, q.drainSorted) := by
  induction times with
  | zero => rfl
  | succ times ih =>
    have hnext : q.drainSorted.next = return (none, q.drainSorted) := by
      rw [Draining.next, drainSorted, pop_of_empty hempty]
      rfl
    have hhint : q.drainSorted.sizeHint = (0, some 0) := by
      rw [Draining.sizeHint, drainSorted, size, hempty]
      rfl
    simp only [Draining.pulls, hnext, pure_bind, ih, hhint, List.replicate_succ]

theorem drainOnto_eq_pulls (q : PriorityQueue V P C) (taken : Array (Item V P)) (limit : Nat) :
    q.drainOnto taken limit = do
      let (pulled, d) ← q.drainSorted.pulls limit
      return (taken.toList ++ Pull.items pulled, d.queue) := by
  induction limit generalizing q taken with
  | zero =>
    rw [drainOnto, Draining.pulls, pure_bind]
    simp [Pull.items, drainSorted]
  | succ limit ih =>
    simp only [drainOnto, Draining.pulls, Draining.next, drainSorted, bind_assoc, pure_bind]
    apply Inquiry.Always.bind_congr
    refine (pop_contents q).mono fun r hr => ?_
    obtain ⟨item?, rest⟩ := r
    cases item? with
    | some x =>
      simp only [ih rest (taken.push x), drainSorted]
      simp [Pull.items]
    | none =>
      have hrest : rest.bag = 0 := (hr.1.trans (zero_add rest.bag)).symm.trans (hr.2 rfl)
      have hpulls := pulls_of_empty (bag_eq_zero.1 hrest) limit
      rw [drainSorted] at hpulls
      simp [hpulls, Pull.items]

/-- **A drain is a number of pulls**: what it lists is what came, and the queue goes on with what is
left. -/
theorem drain_eq_pulls (q : PriorityQueue V P C) (limit : Option Nat) :
    q.drain limit = do
      let (pulled, d) ← q.drainSorted.pulls (limit.getD q.size)
      return (Pull.items pulled, d.queue) := by
  rw [drain, drainOnto_eq_pulls]
  rfl

/-! ## The list that goes out -/

/-- The items that a full drain of a queue hands out, in order. -/
def outgoing (who : P → P → Bool) (q : PriorityQueue V P C) : List (Item V P) :=
  ((q.drain none).answer who).1

theorem length_outgoing (who : P → P → Bool) (q : PriorityQueue V P C) :
    (outgoing who q).length = q.size := by
  have hlength := ((drain_contents q none).answer who).2
  rw [Option.getD_none, min_self] at hlength
  exact hlength

theorem outgoing_eq_items_pulled (who : P → P → Bool) (q : PriorityQueue V P C) :
    outgoing who q = Pull.items (pulled who q q.size) := by
  rw [outgoing, drain_eq_pulls, Inquiry.answer_bind]
  rfl

/-- **A pop takes the head of the list** and leaves the tail. -/
theorem outgoing_pop (who : P → P → Bool) (q : PriorityQueue V P C) :
    (q.pop.answer who).1 = (outgoing who q).head? ∧
      outgoing who (q.pop.answer who).2 = (outgoing who q).tail := by
  obtain ⟨hrest, hnone⟩ := (size_pop q).answer who
  rw [outgoing_eq_items_pulled who q]
  cases hsize : q.size with
  | zero =>
    have hnil : outgoing who (q.pop.answer who).2 = [] := by
      rw [← List.length_eq_zero_iff, length_outgoing, hrest, hsize]
    rw [hnil]
    exact ⟨hnone.2 hsize, rfl⟩
  | succ m =>
    obtain ⟨x, hx⟩ := Option.ne_none_iff_exists'.1 (mt hnone.1 (by omega))
    have hm : (q.pop.answer who).2.size = m := by omega
    rw [outgoing_eq_items_pulled, hm, pulled_succ, hx]
    exact ⟨rfl, rfl⟩

/-! ## Stopping -/

theorem answer_drain (who : P → P → Bool) (q : PriorityQueue V P C) (times : Nat) :
    (q.drain (some times)).answer who =
      (Pull.items (pulled who q times), leftAfter who q times) := by
  rw [drain_eq_pulls, Inquiry.answer_bind]
  rfl

/-- A full drain goes on where the pulls stopped. -/
theorem outgoing_leftAfter (who : P → P → Bool) (q : PriorityQueue V P C) (times : Nat) :
    outgoing who (leftAfter who q times) = (outgoing who q).drop times := by
  induction times generalizing q with
  | zero => rfl
  | succ times ih => rw [leftAfter_succ, ih, (outgoing_pop who q).2, List.drop_tail]

/-- **Pulls go along the list.**  Before each of them, the hint is the number of items left. -/
theorem pulled_eq (who : P → P → Bool) (q : PriorityQueue V P C) (times : Nat) :
    pulled who q times =
      (List.range times).map fun i => ⟨(q.size - i, some (q.size - i)), (outgoing who q)[i]?⟩ := by
  induction times generalizing q with
  | zero => rfl
  | succ times ih =>
    obtain ⟨hhead, htail⟩ := outgoing_pop who q
    have hsize : ∀ i, (q.pop.answer who).2.size - i = q.size - (i + 1) := by
      intro i
      rw [← length_outgoing who, htail, List.length_tail, length_outgoing]
      omega
    rw [pulled_succ, ih, hhead, htail, List.range_succ_eq_map, List.map_cons, List.map_map]
    simp [hsize, List.head?_eq_getElem?, Function.comp_def]

theorem map_getElem?_range {α : Type} (xs : List α) (k : Nat) :
    (List.range k).map (fun i => xs[i]?) =
      (xs.take k).map some ++ List.replicate (k - xs.length) none := by
  induction k generalizing xs with
  | zero => simp
  | succ k ih =>
    rw [List.range_succ_eq_map, List.map_cons, List.map_map]
    cases xs with
    | nil => simp [Function.comp_def, List.replicate_succ]
    | cons x xs => simpa [Function.comp_def] using ih xs

/-- **First the items of a full drain come, then nothing any more.** -/
theorem map_item?_pulled (who : P → P → Bool) (q : PriorityQueue V P C) (times : Nat) :
    (pulled who q times).map Pull.item? =
      ((outgoing who q).take times).map some ++ List.replicate (times - q.size) none := by
  rw [pulled_eq, List.map_map, ← length_outgoing who q]
  exact map_getElem?_range (outgoing who q) times

theorem items_pulled (who : P → P → Bool) (q : PriorityQueue V P C) (times : Nat) :
    Pull.items (pulled who q times) = (outgoing who q).take times := by
  have hitems : Pull.items (pulled who q times) =
      ((pulled who q times).map Pull.item?).filterMap id := by
    rw [List.filterMap_map, Pull.items]
    rfl
  rw [hitems, map_item?_pulled, List.filterMap_append, List.filterMap_map]
  simp

/-- The items that several drains hand out are those that one drain hands out. -/
theorem answer_chunks (who : P → P → Bool) (q : PriorityQueue V P C) (times : List Nat) :
    ((q.chunks times).answer who).1.flatten = (outgoing who q).take times.sum ∧
      outgoing who ((q.chunks times).answer who).2 = (outgoing who q).drop times.sum := by
  induction times generalizing q with
  | nil => exact ⟨rfl, rfl⟩
  | cons first later ih =>
    have hchunks : (q.chunks (first :: later)).answer who =
        (Pull.items (pulled who q first) ::
          (((leftAfter who q first).chunks later).answer who).1,
          (((leftAfter who q first).chunks later).answer who).2) := by
      simp [chunks, pulled, leftAfter]
    obtain ⟨htaken, hleft⟩ := ih (leftAfter who q first)
    rw [outgoing_leftAfter] at htaken hleft
    rw [hchunks, List.sum_cons]
    constructor
    · rw [List.flatten_cons, htaken, items_pulled, List.take_add]
    · rw [hleft, List.drop_drop]

/-! ## Promises -/

/-- What is promised when a drain is given up after some pulls. -/
structure GivenUp (who : P → P → Bool) (q : PriorityQueue V P C) (times : Nat) : Prop where
  /-- The items that came are the first ones of a full drain. -/
  front : Pull.items (pulled who q times) = (outgoing who q).take times
  count : (Pull.items (pulled who q times)).length = min times q.size
  /-- They came in order, and nothing that is left precedes any of them. -/
  inOrder : (Pull.items (pulled who q times)).Pairwise (Item.Leads who)
  leads : ∀ x ∈ Pull.items (pulled who q times), ∀ y ∈ (leftAfter who q times).items,
    who y.priority x.priority = false
  /-- The queue keeps all other items, as a heap. -/
  kept : q.bag = Pull.items (pulled who q times) + (leftAfter who q times).bag
  order : (leftAfter who q times).order = q.order
  isHeap : Heap.IsHeap who (leftAfter who q times).items
  check : (leftAfter who q times).check.answer who = true
  /-- A full drain goes on where this one stopped. -/
  goesOn : outgoing who (leftAfter who q times) = (outgoing who q).drop times
  /-- Before each pull, the hint was the number of items that a full drain would have handed out
  from there. -/
  hints : (pulled who q times).map Pull.hint = (List.range times).map fun i =>
    ((outgoing who (leftAfter who q i)).length, some (outgoing who (leftAfter who q i)).length)
  /-- Once a pull comes to nothing, so does every later one. -/
  fused : (pulled who q times).map Pull.item? =
    ((outgoing who q).take times).map some ++ List.replicate (times - q.size) none

/-- **A drain may be given up at any time.**  It has then handed out the first-ranked items, in the
order of a full drain, and told before each pull how many were still to come; the queue keeps the
others as a heap, and another drain goes on with them.  So drains after one another, each given up
at some time, hand out together what one drain hands out. -/
theorem drains_in_part (rank : C → Ranking P) (hq : Reached rank q)
    (h : StrictWeak (rank q.order).precedes) :
    let who := (rank q.order).precedes
    (∀ times, GivenUp who q times) ∧
      ∀ times : List Nat,
        ((q.chunks times).answer who).1.flatten = (outgoing who q).take times.sum ∧
          outgoing who ((q.chunks times).answer who).2 = (outgoing who q).drop times.sum ∧
          (q.size ≤ times.sum → ((q.chunks times).answer who).1.flatten = outgoing who q) := by
  intro who
  have hheap : Heap.IsHeap who q.items := hq.isHeap h h.lenient
  constructor
  · intro times
    obtain ⟨xs, left, hdrain, hdrains, hlength, hkeeps⟩ :=
      drain_drains h h.lenient hheap (some times)
    obtain ⟨rfl, rfl⟩ := Prod.mk.inj ((answer_drain who q times).symm.trans hdrain)
    have hleft : Heap.IsHeap who (leftAfter who q times).items := hkeeps.isHeap hheap
    exact {
      front := items_pulled who q times
      count := by rwa [← size_eq_card] at hlength
      inOrder := hdrains.pairwise
      leads := fun x hx y hy => hdrains.leads hx (Heap.mem_bag.2 hy)
      kept := hdrains.split
      order := hkeeps.order
      isHeap := hleft
      check := Heap.check_eq_true.2 hleft
      goesOn := outgoing_leftAfter who q times
      hints := by
        rw [pulled_eq, List.map_map]
        refine List.map_congr_left fun i _ => ?_
        rw [outgoing_leftAfter, List.length_drop, length_outgoing]
        rfl
      fused := map_item?_pulled who q times }
  · intro times
    obtain ⟨htaken, hleft⟩ := answer_chunks who q times
    refine ⟨htaken, hleft, fun hall => ?_⟩
    rw [htaken, List.take_of_length_le]
    rw [length_outgoing]
    exact hall

/-- Two of three items that are left of four tie.  A fourth pull comes to nothing; a drain that is
given up after the first one leaves two items to the drains after it. -/
theorem drains_in_part_of_three :
    let rank : QueueOrder → Ranking Int64 := QueueOrder.ranking
    let who := (rank .max).precedes
    ∃ q : PriorityQueue Nat Int64 QueueOrder, Reached rank q ∧
      StrictWeak (rank q.order).precedes ∧
      pulled who q 4 = [⟨(3, some 3), some ⟨3, 4⟩⟩, ⟨(2, some 2), some ⟨0, 4⟩⟩,
        ⟨(1, some 1), some ⟨2, 1⟩⟩, ⟨(0, some 0), none⟩] ∧
      (leftAfter who q 1).items.toList = [⟨0, 4⟩, ⟨2, 1⟩] ∧
      ((q.chunks [1, 0, 5]).answer who).1 = [[⟨3, 4⟩], [], [⟨0, 4⟩, ⟨2, 1⟩]] ∧
      GivenUp who q 1 ∧
      ((q.chunks [1, 0, 5]).answer who).1.flatten = outgoing who q := by
  intro rank who
  let origin : Origin Nat Int64 QueueOrder := .withOrder [⟨0, 4⟩, ⟨1, 9⟩, ⟨2, 1⟩, ⟨3, 4⟩] .max
  let q : PriorityQueue Nat Int64 QueueOrder :=
    (((withOrder origin.items .max).answer who).run [.pop] |>.answer who).2
  have hwho : (rank q.order).precedes = who := by
    rw [show q.order = .max by decide +kernel]
  have hq : Reached rank q := ⟨origin, [.pop], _, rfl, rfl⟩
  have h : StrictWeak (rank q.order).precedes := QueueOrder.strictWeak _
  obtain ⟨hgivenUp, hchunks⟩ := drains_in_part rank hq h
  have hall := (hchunks [1, 0, 5]).2.2 (by decide +kernel)
  rw [hwho] at hgivenUp hall
  refine ⟨q, hq, h, ?_, ?_, ?_, hgivenUp 1, hall⟩
  · decide +kernel
  · decide +kernel
  · decide +kernel

end Agenda.PriorityQueue
