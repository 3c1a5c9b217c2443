import Agenda.PriorityQueue.Origin
import Agenda.Proofs.Bag
import Agenda.Proofs.Heap.Repair
/-!
# Queues as bags

Each request of a queue is a step of the bag of its items.

* `PriorityQueue.bag` — the items of a queue, in no order.
* `Keeps` — an operation keeps the order of a queue and leaves a heap if it finds one.
* `insert_contents`, `extend_contents` — what is added, whatever is answered.
* `insert_keeps`, `pop_cases`, `drain_drains`, … — one lemma for each operation.
* `perform_step`, `step_of_attempt`, `run_steps` — every request is a step of the bag, every sequence
  of them a run.
* `Origin.make_eq`, `Origin.make_cases` — every way to make a queue builds a heap of its items, or
  fails because too many slots were asked for.

Throughout, `who` answers and `lt` is what the promise is about.  The former only has to be lenient
towards the latter, so that the lemmas also say what happens when ties are answered in any way.
-/

set_option autoImplicit false

namespace Agenda.PriorityQueue

variable {V P C : Type} {lt who : P → P → Bool} {q q' q'' : PriorityQueue V P C}

/-- The items of a queue, in no order. -/
def bag (q : PriorityQueue V P C) : Multiset (Item V P) := Heap.bag q.items

theorem size_eq_card (q : PriorityQueue V P C) : q.size = q.bag.card := (Heap.card_bag q.items).symm

theorem bag_eq_zero : q.bag = 0 ↔ q.items = #[] := by
  rw [← Multiset.card_eq_zero, ← size_eq_card]
  exact Array.size_eq_zero_iff

/-- What every operation does: it keeps the order, and where it finds a heap it leaves one. -/
structure Keeps (lt : P → P → Bool) (q q' : PriorityQueue V P C) : Prop where
  order : q'.order = q.order
  isHeap : Heap.IsHeap lt q.items → Heap.IsHeap lt q'.items

theorem Keeps.refl (lt : P → P → Bool) (q : PriorityQueue V P C) : Keeps lt q q := ⟨rfl, id⟩

theorem Keeps.trans (h : Keeps lt q q') (h' : Keeps lt q' q'') : Keeps lt q q'' :=
  ⟨h'.order.trans h.order, fun hheap => h'.isHeap (h.isHeap hheap)⟩

/-! ## Adding -/

theorem answer_insert (q : PriorityQueue V P C) (x : Item V P) :
    (q.insert x).answer who = { q with items := (Heap.insert q.items x).answer who } := by
  simp [insert]

theorem insert_contents (q : PriorityQueue V P C) (x : Item V P) :
    (q.insert x).Always fun q' => q'.bag = x ::ₘ q.bag := by
  rw [insert, Inquiry.always_bind]
  exact Heap.insert_contents q.items x

theorem bag_insert (who : P → P → Bool) (q : PriorityQueue V P C) (x : Item V P) :
    ((q.insert x).answer who).bag = x ::ₘ q.bag :=
  (insert_contents q x).answer who

theorem insert_keeps (h : StrictWeak lt) (hwho : Lenient lt who) (q : PriorityQueue V P C)
    (x : Item V P) : Keeps lt q ((q.insert x).answer who) := by
  rw [answer_insert]
  exact ⟨rfl, fun hheap => Heap.insert_isHeap h hwho hheap x⟩

theorem extend_contents (q : PriorityQueue V P C) (xs : List (Item V P)) :
    (q.extend xs).Always fun q' => q'.bag = xs + q.bag := by
  induction xs generalizing q with
  | nil => simp [extend]
  | cons x xs ih =>
    rw [extend, Inquiry.always_bind]
    refine (insert_contents q x).mono fun grown hgrown => ?_
    refine (ih grown).mono fun q' hq' => ?_
    rw [hq', hgrown, Multiset.add_cons, ← Multiset.cons_coe, Multiset.cons_add]

theorem bag_extend (who : P → P → Bool) (q : PriorityQueue V P C) (xs : List (Item V P)) :
    ((q.extend xs).answer who).bag = xs + q.bag :=
  (extend_contents q xs).answer who

theorem extend_keeps (h : StrictWeak lt) (hwho : Lenient lt who) (q : PriorityQueue V P C)
    (xs : List (Item V P)) : Keeps lt q ((q.extend xs).answer who) := by
  induction xs generalizing q with
  | nil => exact .refl lt q
  | cons x xs ih =>
    rw [extend, Inquiry.answer_bind]
    exact (insert_keeps h hwho q x).trans (ih _)

/-! ## Taking -/

/-- A pop takes nothing from an empty queue, and from any other the item that it shows. -/
theorem pop_cases (h : StrictWeak lt) (hwho : Lenient lt who) (q : PriorityQueue V P C) :
    (q.bag = 0 ∧ q.peek = none ∧ q.pop.answer who = (none, q)) ∨
    ∃ x q', q.pop.answer who = (some x, q') ∧ q.peek = some x ∧ q.bag = x ::ₘ q'.bag ∧
      Keeps lt q q' := by
  rw [pop, Inquiry.answer_bind]
  cases hpop : (Heap.pop q.items).answer who with
  | none =>
    have hitems := Heap.eq_empty_of_pop hpop
    exact .inl ⟨bag_eq_zero.2 hitems, by simp [peek, hitems], rfl⟩
  | some taken =>
    obtain ⟨x, rest⟩ := taken
    obtain ⟨hroot, hbag⟩ := Heap.bag_pop hpop
    exact .inr ⟨x, { q with items := rest }, rfl, hroot, hbag, rfl, fun hheap =>
      Heap.pop_isHeap h hwho hheap hpop⟩

/-- No item of a heap precedes the one that the queue shows. -/
theorem peek_first (h : StrictWeak lt) (hheap : Heap.IsHeap lt q.items) {x : Item V P}
    (hx : q.peek = some x) : Bag.First lt q.bag x := by
  obtain ⟨hpos, rfl⟩ := Array.getElem?_eq_some_iff.1 hx
  exact ⟨Heap.mem_bag.2 (Array.getElem_mem hpos), fun y hy =>
    hheap.root_leads h hpos (Heap.mem_bag.1 hy)⟩

theorem takes_of_pop (h : StrictWeak lt) (hheap : Heap.IsHeap lt q.items) {x : Item V P}
    (hx : q.peek = some x) (hbag : q.bag = x ::ₘ q'.bag) : Bag.Takes lt q.bag x q'.bag :=
  ⟨hbag, (peek_first h hheap hx).leads⟩

theorem drainOnto_drains (h : StrictWeak lt) (hwho : Lenient lt who)
    (hheap : Heap.IsHeap lt q.items) (taken : Array (Item V P)) (limit : Nat) :
    ∃ xs q', (q.drainOnto taken limit).answer who = (taken.toList ++ xs, q') ∧
      Bag.Drains lt q.bag xs q'.bag ∧ xs.length = min limit q.bag.card ∧ Keeps lt q q' := by
  induction limit generalizing q taken with
  | zero => exact ⟨[], q, by simp [drainOnto], .stop q.bag, by simp, .refl lt q⟩
  | succ limit ih =>
    rw [drainOnto, Inquiry.answer_bind]
    rcases pop_cases h hwho q with ⟨hzero, -, hpop⟩ | ⟨x, q', hpop, hpeek, hbag, hkeeps⟩
    · rw [hpop]
      exact ⟨[], q, by simp, .stop q.bag, by simp [hzero], .refl lt q⟩
    · rw [hpop]
      obtain ⟨xs, last, hdrain, hdrains, hlength, hkeeps'⟩ :=
        ih (hkeeps.isHeap hheap) (taken.push x)
      refine ⟨x :: xs, last, ?_, ?_, ?_, hkeeps.trans hkeeps'⟩
      · rw [hdrain]; simp
      · exact .take (takes_of_pop h hheap hpeek hbag) hdrains
      · rw [hbag, Multiset.card_cons, List.length_cons, hlength]; omega

theorem drain_drains (h : StrictWeak lt) (hwho : Lenient lt who)
    (hheap : Heap.IsHeap lt q.items) (limit : Option Nat) :
    ∃ xs q', (q.drain limit).answer who = (xs, q') ∧ Bag.Drains lt q.bag xs q'.bag ∧
      xs.length = min (limit.getD q.bag.card) q.bag.card ∧ Keeps lt q q' := by
  rw [← size_eq_card]
  obtain ⟨xs, q', hdrain, hrest⟩ := drainOnto_drains h hwho hheap #[] (limit.getD q.size)
  rw [← size_eq_card] at hrest
  exact ⟨xs, q', hdrain, hrest⟩

/-- **A drain without a limit empties a queue.** -/
theorem drain_all (h : StrictWeak lt) (hwho : Lenient lt who) (hheap : Heap.IsHeap lt q.items) :
    ∃ xs, (q.drain none).answer who = (xs, q.clear) ∧ Bag.Drains lt q.bag xs 0 := by
  obtain ⟨xs, q', hdrain, hdrains, hlength, hkeeps⟩ := drain_drains h hwho hheap none
  have hzero : q'.bag = 0 := by
    rw [Option.getD_none, min_self] at hlength
    have hcard := hdrains.card
    rw [← Multiset.card_eq_zero]
    omega
  have hclear : q' = q.clear := by
    obtain ⟨items, order⟩ := q'
    obtain rfl : items = #[] := bag_eq_zero.1 hzero
    obtain rfl : order = q.order := hkeeps.order
    rfl
  exact ⟨xs, hclear ▸ hdrain, hzero ▸ hdrains⟩

theorem clear_keeps (lt : P → P → Bool) (q : PriorityQueue V P C) : Keeps lt q q.clear :=
  ⟨rfl, fun _ i => absurd i.isLt (Nat.not_lt_zero _)⟩

/-! ## Requests -/

/-- **Every request is a step of the bag.** -/
theorem perform_step (h : StrictWeak lt) (hwho : Lenient lt who) (hheap : Heap.IsHeap lt q.items)
    (op : Operation V P) :
    ∃ reply q', (q.perform op).answer who = (reply, q') ∧ Bag.Step lt q.bag op reply q'.bag ∧
      Keeps lt q q' := by
  cases op with
  | insert x =>
    refine ⟨.done, _, by simp [perform], ?_, insert_keeps h hwho q x⟩
    rw [bag_insert]
    exact .insert q.bag x
  | push value priority =>
    refine ⟨.done, _, by simp [perform, push], ?_, insert_keeps h hwho q ⟨value, priority⟩⟩
    rw [bag_insert]
    exact .push q.bag value priority
  | extend xs =>
    refine ⟨.done, _, by simp [perform], ?_, extend_keeps h hwho q xs⟩
    rw [bag_extend]
    exact .extend q.bag xs
  | pop =>
    rcases pop_cases h hwho q with ⟨hzero, -, hpop⟩ | ⟨x, q', hpop, hpeek, hbag, hkeeps⟩
    · exact ⟨.item? none, q, by simp [perform, hpop], hzero ▸ .popEmpty, .refl lt q⟩
    · exact ⟨.item? (some x), q', by simp [perform, hpop],
        .pop (takes_of_pop h hheap hpeek hbag), hkeeps⟩
  | remove =>
    rcases pop_cases h hwho q with ⟨hzero, -, hpop⟩ | ⟨x, q', hpop, hpeek, hbag, hkeeps⟩
    · exact ⟨.removal (.error .empty), q, by simp [perform, remove, hpop],
        hzero ▸ .removeEmpty, .refl lt q⟩
    · exact ⟨.removal (.ok x), q', by simp [perform, remove, hpop],
        .remove (takes_of_pop h hheap hpeek hbag), hkeeps⟩
  | peek =>
    refine ⟨.item? q.peek, q, rfl, ?_, .refl lt q⟩
    rcases pop_cases h hwho q with ⟨hzero, hpeek, -⟩ | ⟨x, q', -, hpeek, -⟩
    · rw [hpeek, hzero]
      exact .peekEmpty
    · rw [hpeek]
      exact .peek (peek_first h hheap hpeek)
  | size =>
    refine ⟨.count q.size, q, rfl, ?_, .refl lt q⟩
    rw [size_eq_card]
    exact .size q.bag
  | isEmpty =>
    refine ⟨.flag q.isEmpty, q, rfl, .isEmpty ?_, .refl lt q⟩
    rw [bag_eq_zero]
    exact Array.isEmpty_iff
  | check =>
    exact ⟨.flag (q.check.answer who), q, by simp [perform], .check q.bag _, .refl lt q⟩
  | clear => exact ⟨.done, q.clear, rfl, .clear q.bag, clear_keeps lt q⟩
  | drain limit =>
    obtain ⟨xs, q', hdrain, hdrains, hlength, hkeeps⟩ := drain_drains h hwho hheap limit
    refine ⟨.drained q.size xs q'.size, q', by simp [perform, hdrain], ?_, hkeeps⟩
    rw [size_eq_card, size_eq_card]
    exact .drain limit hdrains hlength
  | sorted =>
    obtain ⟨xs, hdrain, hdrains⟩ := drain_all h hwho hheap
    exact ⟨.items xs, q, by simp [perform, sorted, hdrain], .sorted hdrains, .refl lt q⟩

/-- What a judge lets through is a step of the bag, too. -/
theorem step_of_attempt {judge : Judge P} (h : StrictWeak lt) (hwho : Lenient lt who)
    (hjudge : judge.AnswersAs who) (hheap : Heap.IsHeap lt q.items) {op : Operation V P}
    {reply : Reply V P} (hattempt : (q.perform op).attempt judge = .ok (reply, q')) :
    Bag.Step lt q.bag op reply q'.bag ∧ Keeps lt q q' := by
  have hanswer := Inquiry.attempt_answer hjudge hattempt
  obtain ⟨reply', last, hperform, hstep, hkeeps⟩ := perform_step h hwho hheap op
  obtain ⟨rfl, rfl⟩ : reply' = reply ∧ last = q' := Prod.mk.inj (hperform.symm.trans hanswer)
  exact ⟨hstep, hkeeps⟩

/-- **Every sequence of requests is a run of the bag.** -/
theorem run_steps (h : StrictWeak lt) (hwho : Lenient lt who) (hheap : Heap.IsHeap lt q.items)
    (ops : List (Operation V P)) :
    ∃ replies q', (q.run ops).answer who = (replies, q') ∧ Bag.Run lt q.bag ops replies q'.bag ∧
      Keeps lt q q' := by
  induction ops generalizing q with
  | nil => exact ⟨[], q, rfl, .nil q.bag, .refl lt q⟩
  | cons op ops ih =>
    obtain ⟨reply, q', hperform, hstep, hkeeps⟩ := perform_step h hwho hheap op
    obtain ⟨replies, last, hrun, hsteps, hkeeps'⟩ := ih (hkeeps.isHeap hheap)
    exact ⟨reply :: replies, last, by simp [run, hperform, hrun], .cons hstep hsteps,
      hkeeps.trans hkeeps'⟩

/-! ## Origins -/

/-- **All queues are made in the same way**, of their items and in their order, unless there is more
to reserve than storage can have. -/
theorem Origin.make_eq (origin : Origin V P C) :
    (origin.make = .error .capacityOverflow ∧ Settings.byteLimit ≤ origin.storage) ∨
    (origin.make = .ok (PriorityQueue.withOrder origin.items origin.order) ∧
      origin.storage < Settings.byteLimit) := by
  have hfree : 0 < Settings.byteLimit := by decide
  cases origin with
  | ofItems items => exact .inr ⟨rfl, hfree⟩
  | empty => exact .inr ⟨rfl, hfree⟩
  | withCapacity itemSize slots =>
    rcases Nat.lt_or_ge (Settings.storage itemSize 0 slots) Settings.byteLimit with hroom | hfull
    · refine .inr ⟨?_, hroom⟩
      rw [make, PriorityQueue.withCapacity, Settings.reserve_of_lt hroom]
      rfl
    · refine .inl ⟨?_, hfull⟩
      rw [make, PriorityQueue.withCapacity, Settings.reserve_of_le hfull]
      rfl
  | ofSettings itemSize items settings =>
    rcases Nat.lt_or_ge (Settings.storage itemSize items.length settings.initialCapacity)
      Settings.byteLimit with hroom | hfull
    · refine .inr ⟨?_, hroom⟩
      rw [make, PriorityQueue.ofSettings, Settings.reserve_of_lt hroom]
      rfl
    · refine .inl ⟨?_, hfull⟩
      rw [make, PriorityQueue.ofSettings, Settings.reserve_of_le hfull]
      rfl
  | withOrder items order => exact .inr ⟨rfl, hfree⟩
  | emptyWithOrder order => exact .inr ⟨rfl, hfree⟩

theorem withOrder_contents (items : List (Item V P)) (order : C) :
    (withOrder items order).Always fun q => q.bag = items := by
  rw [withOrder, Inquiry.always_bind]
  exact Heap.build_contents items.toArray

theorem withOrder_starts (h : StrictWeak lt) (hwho : Lenient lt who) (items : List (Item V P))
    (order : C) :
    ((withOrder items order).answer who).order = order ∧
      ((withOrder items order).answer who).bag = items ∧
      Heap.IsHeap lt ((withOrder items order).answer who).items := by
  refine ⟨?_, (withOrder_contents items order).answer who, ?_⟩
  · rw [withOrder, Inquiry.answer_bind]; rfl
  · rw [withOrder, Inquiry.answer_bind]
    exact Heap.build_isHeap h hwho items.toArray

/-- **A queue starts with its items, as a heap**, unless there is more to reserve than storage can
have. -/
theorem Origin.make_cases (h : StrictWeak lt) (hwho : Lenient lt who) (origin : Origin V P C) :
    (origin.make = .error .capacityOverflow ∧ Settings.byteLimit ≤ origin.storage) ∨
    ∃ build, origin.make = .ok build ∧ origin.storage < Settings.byteLimit ∧
      (build.answer who).order = origin.order ∧ (build.answer who).bag = origin.items ∧
      Heap.IsHeap lt (build.answer who).items := by
  rcases origin.make_eq with hfull | ⟨hmake, hroom⟩
  · exact .inl hfull
  · exact .inr ⟨_, hmake, hroom, withOrder_starts h hwho origin.items origin.order⟩

end Agenda.PriorityQueue
