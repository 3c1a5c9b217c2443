import Agenda.Proofs.PriorityQueue.Refinement
/-!
# Queues sort

* `reached_sorts` — emptying a queue sorts its items, even if its ranking answers ties in any way
  it likes.
* `drains_agree` — what comes out of a queue depends on its items and not on how they came to be in
  it: two queues of the same items are emptied alike, but for ties.
-/

set_option autoImplicit false

namespace Agenda.PriorityQueue

variable {V P C : Type} {lt : P → P → Bool} {q q₁ q₂ : PriorityQueue V P C}

/-- A queue that has been through anything can be emptied as its bag can. -/
theorem Reached.drains {rank : C → Ranking P} (hq : Reached rank q) (h : StrictWeak lt)
    (hwho : Lenient lt (rank q.order).precedes) :
    ∃ xs, (q.drain none).answer (rank q.order).precedes = (xs, q.clear) ∧
      Bag.Drains lt q.bag xs 0 :=
  drain_all h hwho (hq.isHeap h hwho)

/-- **Emptying a queue sorts its items.**  The ranking may answer ties either way: that decides
where tied items come out, and whether they count as stored in heap order, but they never come out
before an item that is less or after one that is greater. -/
theorem reached_sorts (rank : C → Ranking P) (hq : Reached rank q) (h : StrictWeak lt)
    (hwho : Lenient lt (rank q.order).precedes) :
    let who := (rank q.order).precedes
    let xs := q.sorted.answer who
    (q.drain none).answer who = (xs, q.clear) ∧ xs.Perm q.items.toList ∧
      xs.Pairwise fun x y => lt y.priority x.priority = false := by
  intro who xs
  obtain ⟨ys, hdrain, hdrains⟩ := hq.drains h hwho
  have hxs : xs = ys := by simp [xs, who, sorted, hdrain]
  rw [hxs]
  exact ⟨hdrain, hdrains.perm rfl, hdrains.pairwise⟩

/-- Ranked by "at most", items that tie change places all the time, and the check of the queue
fails. -/
theorem reached_sorts_at_most :
    let rank : Unit → Ranking Int64 := fun _ =>
      { compare, precedes := fun a b => (compare a b).isLE }
    let lt : Int64 → Int64 → Bool := fun a b => compare a b == .lt
    ∃ q : PriorityQueue Nat Int64 Unit, Reached rank q ∧ StrictWeak lt ∧
      Lenient lt (rank q.order).precedes ∧ q.check.answer (rank q.order).precedes = false ∧
      q.sorted.answer (rank q.order).precedes = [⟨4, 2⟩, ⟨2, 2⟩, ⟨0, 2⟩, ⟨3, 3⟩] ∧
      (q.sorted.answer (rank q.order).precedes).Pairwise
        fun x y => lt y.priority x.priority = false := by
  intro rank lt
  let origin : Origin Nat Int64 Unit := .withOrder [⟨0, 2⟩, ⟨1, 1⟩, ⟨2, 2⟩] ()
  let ops : List (Operation Nat Int64) := [.extend [⟨3, 3⟩], .pop, .insert ⟨4, 2⟩]
  have h : StrictWeak lt := StrictWeak.ofCompare _
  have hwho : Lenient lt (rank ()).precedes := isLE_lenient _
  have hq : Reached rank _ := ⟨origin, ops, _, rfl, rfl⟩
  refine ⟨_, hq, h, hwho, ?_, ?_, (reached_sorts rank hq h hwho).2.2⟩
  · decide +kernel
  · decide +kernel

/-- **Two queues of the same items are emptied alike**, whatever each of them has been through: all
their items come out, at every place items that tie, and the very same items where no two different
ones tie.  Under the two orders of a lawfully ordered type the priorities are equal at every
place. -/
theorem drains_agree (rank : C → Ranking P) (hq₁ : Reached rank q₁) (hq₂ : Reached rank q₂)
    (horder : q₁.order = q₂.order) (h : StrictWeak (rank q₁.order).precedes)
    (hbag : q₁.bag = q₂.bag) :
    let who := (rank q₁.order).precedes
    let xs := ((q₁.drain none).answer who).1
    let ys := ((q₂.drain none).answer who).1
    (xs : Multiset (Item V P)) = q₁.bag ∧ xs.length = ys.length ∧
      List.Forall₂ (fun x y => Tied who x.priority y.priority) xs ys ∧
      (∀ (_ : Ord P) (_ : Std.TransOrd P) (_ : Std.LawfulEqOrd P) (order : QueueOrder),
        who = order.ranking.precedes → xs.map Item.priority = ys.map Item.priority) ∧
      ((∀ x ∈ q₁.bag, ∀ y ∈ q₁.bag, Tied who x.priority y.priority → x = y) → xs = ys) := by
  intro who
  obtain ⟨xs, hxs, hdrains₁⟩ := hq₁.drains h h.lenient
  have h₂ : StrictWeak (rank q₂.order).precedes := horder ▸ h
  obtain ⟨ys, hys, hdrains₂⟩ := hq₂.drains h₂ h₂.lenient
  rw [← horder] at hys hdrains₂
  rw [← hbag] at hdrains₂
  rw [hxs, hys]
  have htied := hdrains₁.tied h hdrains₂
  refine ⟨?_, htied.length_eq, htied, ?_, hdrains₁.unique hdrains₂⟩
  · rw [hdrains₁.split, Multiset.add_zero]
  · intro _ _ _ order hwho
    rw [← List.forall₂_eq_eq_eq, List.forall₂_map_left_iff, List.forall₂_map_right_iff]
    refine htied.imp fun x y hxy => ?_
    exact QueueOrder.eq_of_tied order (hwho ▸ hxy)

/-- Built at once, and inserted one by one among items that leave again: the items lie in different
slots and come out alike. -/
theorem drains_agree_two_paths :
    let rank : QueueOrder → Ranking Int64 := QueueOrder.ranking
    let who := (rank .max).precedes
    ∃ q₁ q₂ : PriorityQueue Nat Int64 QueueOrder, Reached rank q₁ ∧ Reached rank q₂ ∧
      q₁.order = q₂.order ∧ StrictWeak (rank q₁.order).precedes ∧ q₁.bag = q₂.bag ∧
      q₁.items ≠ q₂.items ∧
      ((q₁.drain none).answer who).1 = [⟨1, 9⟩, ⟨3, 4⟩, ⟨0, 4⟩, ⟨2, 1⟩] ∧
      ((q₂.drain none).answer who).1 = [⟨1, 9⟩, ⟨0, 4⟩, ⟨3, 4⟩, ⟨2, 1⟩] ∧
      List.Forall₂ (fun x y => Tied who x.priority y.priority)
        ((q₁.drain none).answer who).1 ((q₂.drain none).answer who).1 := by
  intro rank who
  let items : List (Item Nat Int64) := [⟨0, 4⟩, ⟨1, 9⟩, ⟨2, 1⟩, ⟨3, 4⟩]
  let ops : List (Operation Nat Int64) := [.push 7 8, .clear, .extend [⟨2, 1⟩, ⟨5, 12⟩, ⟨3, 4⟩],
    .push 1 9, .remove, .insert ⟨0, 4⟩]
  let q₁ : PriorityQueue Nat Int64 QueueOrder := (withOrder items .max).answer who
  let q₂ : PriorityQueue Nat Int64 QueueOrder := (((emptyWithOrder .max).run ops).answer who).2
  have hwho : (rank q₁.order).precedes = who := by
    rw [show q₁.order = .max by decide +kernel]
  have horder : q₁.order = q₂.order := by decide +kernel
  have hbag : q₁.bag = q₂.bag := by decide +kernel
  have h : StrictWeak (rank q₁.order).precedes := QueueOrder.strictWeak _
  have hq₁ : Reached rank q₁ := ⟨.withOrder items .max, [], q₁, rfl, rfl⟩
  have hq₂ : Reached rank q₂ := ⟨.emptyWithOrder .max, ops, emptyWithOrder .max, rfl, rfl⟩
  have hagree := (drains_agree rank hq₁ hq₂ horder h hbag).2.2.1
  refine ⟨q₁, q₂, hq₁, hq₂, horder, h, hbag, ?_, ?_, ?_, hwho ▸ hagree⟩
  · decide +kernel
  · decide +kernel
  · decide +kernel

end Agenda.PriorityQueue
