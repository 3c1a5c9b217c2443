import Agenda.Proofs.PriorityQueue.Step
/-!
# What a check sees

A check compares every item with the one in its parent slot, and with no other.

* `check_iff_isHeap` — it answers whether the items are stored as a heap, whatever the ranking.
* `exists_peek_leads` — in a heap there is no item that precedes the one that the queue shows.
* `check_sees_all_ancestors` — hence, under a strict weak order, a check finds out about all pairs
  of items of which one lies above the other, and about the item that is shown.
-/

set_option autoImplicit false

namespace Agenda.PriorityQueue

variable {V P C : Type} {who : P → P → Bool} {q : PriorityQueue V P C}

theorem check_iff_isHeap : q.check.answer who = true ↔ Heap.IsHeap who q.items :=
  Heap.check_eq_true

/-- Where there is an item, a heap shows one that it does not precede. -/
theorem exists_peek_leads (h : StrictWeak who) (hheap : Heap.IsHeap who q.items) {y : Item V P}
    (hy : y ∈ q.items) : ∃ x, q.peek = some x ∧ Item.Leads who x y := by
  have hpos : 0 < q.items.size := Array.size_pos_of_mem hy
  exact ⟨q.items[0], Array.getElem?_eq_getElem hpos, hheap.root_leads h hpos hy⟩

/-- **A check of neighbours is a check of all pairs on a way to the root.**  Under a strict weak
order it answers yes if no item precedes one that lies above it, however far, and only then.  Where
it answers yes, no item precedes the one that the queue shows. -/
theorem check_sees_all_ancestors (h : StrictWeak who) (q : PriorityQueue V P C) :
    (q.check.answer who = true ↔
      ∀ i a : Fin q.items.size, Heap.Ancestor a i →
        who q.items[i].priority q.items[a].priority = false) ∧
    (q.check.answer who = true →
      ∀ y ∈ q.items, ∃ x, q.peek = some x ∧ who y.priority x.priority = false) := by
  constructor
  · rw [check_iff_isHeap, Heap.isHeap_iff_ordered]
    exact Heap.ordered_iff_leads_below h
  · intro hyes y hy
    exact exists_peek_leads h (check_iff_isHeap.1 hyes) hy

/-- Priorities that are ranked by their tens.  In the first queue all items on the way from the last
slot but one to the root tie; in the second one the last item ties with the root, but it precedes
the item between them. -/
theorem check_sees_all_ancestors_across_ties :
    let who : Nat → Nat → Bool := fun a b => compare (a / 10) (b / 10) == .lt
    let q : PriorityQueue String Nat Unit :=
      ⟨#[⟨"a", 12⟩, ⟨"b", 15⟩, ⟨"c", 31⟩, ⟨"d", 27⟩, ⟨"e", 10⟩, ⟨"f", 30⟩], ()⟩
    let r : PriorityQueue String Nat Unit := ⟨#[⟨"a", 12⟩, ⟨"b", 25⟩, ⟨"c", 31⟩, ⟨"d", 10⟩], ()⟩
    StrictWeak who ∧ q.check.answer who = true ∧
      (∀ i a : Fin q.items.size, Heap.Ancestor a i →
        who q.items[i].priority q.items[a].priority = false) ∧
      (∀ y ∈ q.items, ∃ x, q.peek = some x ∧ who y.priority x.priority = false) ∧
      r.check.answer who = false ∧
      ¬ ∀ i a : Fin r.items.size, Heap.Ancestor a i →
        who r.items[i].priority r.items[a].priority = false := by
  intro who q r
  have h : StrictWeak who := by
    have htens : Std.TransCmp fun a b : Nat => compare (a / 10) (b / 10) :=
      inferInstanceAs (Std.TransCmp (compareOn fun n : Nat => n / 10))
    exact StrictWeak.ofCompare _
  have hyes : q.check.answer who = true := by decide +kernel
  have hno : r.check.answer who = false := by decide +kernel
  obtain ⟨hq, hshown⟩ := check_sees_all_ancestors h q
  obtain ⟨hr, -⟩ := check_sees_all_ancestors h r
  refine ⟨h, hyes, hq.1 hyes, hshown hyes, hno, ?_⟩
  rw [← hr, hno]
  exact Bool.false_ne_true

end Agenda.PriorityQueue
