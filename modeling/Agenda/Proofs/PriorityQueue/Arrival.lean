import Agenda.Proofs.Line
import Agenda.Proofs.PriorityQueue.Step
/-!
# Ties in the order of arrival

A heap moves tied items about, so a queue promises nothing about their order.  A client that numbers
its items as they come in has no ties left, and its queue serves them as a line would.

* `Line.Numbered` — items whose sequence numbers increase.
* `Numbered.next?_of_takes`, `Numbered.serve_of_drains` — what a bag of numbered items allows to be
  taken is what a line of them serves.
* `Numbered.perform_of_step` — hence the replies that such a bag allows are those of the line.
* `perform_in_line`, `run_in_line` — the queue of a line replies to requests as the line does, and is
  the queue of what the line comes to.
* `serves_as_line` — so does every queue that starts least first with numbered items, and draining it
  sorts them stably by their keys alone.
-/

set_option autoImplicit false

namespace Agenda

open PriorityQueue (Operation Reply)

variable {V K S : Type} [Ord K] [Ord S]

instance [Std.TransOrd K] [Std.TransOrd S] : Std.TransOrd (Sequenced K S) :=
  inferInstanceAs (Std.TransCmp (compareLex (compareOn Sequenced.key) (compareOn Sequenced.sequence)))

/-- Least first among keys with a sequence number. -/
def Sequenced.precedes : Sequenced K S → Sequenced K S → Bool :=
  (QueueOrder.min.ranking : Ranking (Sequenced K S)).precedes

theorem Sequenced.strictWeak [Std.TransOrd K] [Std.TransOrd S] :
    StrictWeak (Sequenced.precedes (K := K) (S := S)) :=
  QueueOrder.strictWeak .min

/-! ## Numbered lines -/

namespace Line

variable {line : Line V K S} {x y : Item V (Sequenced K S)} {xs : List (Item V (Sequenced K S))}
  {rest : Multiset (Item V (Sequenced K S))}

/-- The sequence numbers increase from each item to all that come later. -/
def Numbered (line : Line V K S) : Prop :=
  line.Pairwise fun x y => compare x.priority.sequence y.priority.sequence = .lt

instance (line : Line V K S) : Decidable (Numbered line) :=
  inferInstanceAs (Decidable (List.Pairwise _ line))

/-- Nothing goes before a leading item: no lesser key, and no lesser number with the same key. -/
theorem leads_iff : Item.Leads Sequenced.precedes x y ↔
    (compare y.priority.key x.priority.key).then
      (compare y.priority.sequence x.priority.sequence) ≠ .lt := by
  simp [Item.Leads, Sequenced.precedes, QueueOrder.ranking, compare]

/-- An item that leads one with a lesser number has a lesser key. -/
theorem not_keyLE_of_leads (hlead : Item.Leads Sequenced.precedes x y)
    (hyx : compare y.priority.sequence x.priority.sequence = .lt) : keyLE y x = false := by
  rw [leads_iff, hyx] at hlead
  unfold keyLE
  cases hkey : compare y.priority.key x.priority.key with
  | lt | eq =>
    rw [hkey] at hlead
    exact absurd rfl hlead
  | gt => rfl

variable [Std.TransOrd K]

/-- A leading item has at most the key of any other. -/
theorem keyLE_of_leads (hlead : Item.Leads Sequenced.precedes x y) : keyLE x y = true := by
  rw [leads_iff] at hlead
  unfold keyLE
  rw [Std.OrientedOrd.eq_swap (a := x.priority.key)]
  cases hkey : compare y.priority.key x.priority.key with
  | lt =>
    rw [hkey] at hlead
    exact absurd rfl hlead
  | eq => rfl
  | gt => rfl

/-- **What leads all others in a bag of numbered items is what a line of them serves next.** -/
theorem Numbered.next?_of_first (hnum : Numbered line)
    (h : Bag.First Sequenced.precedes line x) : line.next? = some x := by
  obtain ⟨front, back, rfl⟩ := List.append_of_mem (Multiset.mem_coe.1 h.mem)
  refine next?_eq_some_iff.2 ⟨front, back, rfl, fun y hy => ?_, fun y hy => ?_⟩
  · have hyx := (List.pairwise_append.1 hnum).2.2 y hy x List.mem_cons_self
    exact not_keyLE_of_leads (h.leads y (by simp [hy])) hyx
  · exact keyLE_of_leads (h.leads y (by simp [hy]))

theorem Numbered.next?_of_takes (hnum : Numbered line)
    (h : Bag.Takes Sequenced.precedes line x rest) : line.next? = some x ∧ rest = line.rest := by
  have hmem : x ∈ (line : Multiset (Item V (Sequenced K S))) := by
    rw [h.split]
    exact Multiset.mem_cons_self x rest
  have hnext := hnum.next?_of_first ⟨hmem, h.leads⟩
  refine ⟨hnext, ?_⟩
  rw [← Multiset.cons_inj_right x, ← h.split, Multiset.cons_coe]
  exact Multiset.coe_eq_coe.2 (perm_of_next? hnext)

/-- Taking items one after the other serves the line. -/
theorem Numbered.serve_of_drains (hnum : Numbered line)
    (h : Bag.Drains Sequenced.precedes line xs rest) {limit : Nat}
    (hlength : xs.length = min limit line.length) :
    (line.serve limit).1 = xs ∧ rest = (line.serve limit).2 := by
  generalize hbag : (line : Multiset (Item V (Sequenced K S))) = bag at h
  induction h generalizing line limit with
  | stop bag =>
    have : limit = 0 ∨ line = [] := by
      rw [← List.length_eq_zero_iff]
      simp only [List.length_nil] at hlength
      omega
    rcases this with rfl | rfl
    · exact ⟨rfl, hbag.symm⟩
    · cases limit <;> exact ⟨rfl, hbag.symm⟩
  | @take bag rest last x xs htake hdrains ih =>
    subst hbag
    obtain ⟨hnext, rfl⟩ := hnum.next?_of_takes htake
    have hcard := congrArg Multiset.card htake.split
    simp only [Multiset.coe_card, Multiset.card_cons, List.length_cons] at hcard hlength
    obtain ⟨limit, rfl⟩ : ∃ n, limit = n + 1 := Nat.exists_eq_add_one.2 (by omega)
    have hlength' : xs.length = min limit line.rest.length := by omega
    obtain ⟨hserve, hrest⟩ := ih (hnum.sublist (rest_sublist line)) hlength' rfl
    simp only [serve, hnext]
    exact ⟨congrArg _ hserve, hrest⟩

theorem Numbered.sorted_of_drains (hnum : Numbered line)
    (h : Bag.Drains Sequenced.precedes line xs 0) : line.sorted = xs := by
  have hlength : xs.length = min line.length line.length := by
    simpa using h.card.symm
  rw [← (hnum.serve_of_drains h hlength).1, serve_all]

/-- **The reply that a bag of numbered items allows is that of their line**, and the bag is that of
the line afterwards.  What a check says is not a matter of the bag. -/
theorem Numbered.perform_of_step (hnum : Numbered line) {op : Operation V (Sequenced K S)}
    {reply : Reply V (Sequenced K S)} (hop : op ≠ .check)
    (h : Bag.Step Sequenced.precedes line op reply rest) :
    (line.perform op).1 = reply ∧ rest = (line.perform op).2 := by
  generalize hbag : (line : Multiset (Item V (Sequenced K S))) = bag at h
  cases h with
  | insert | push =>
    subst hbag
    exact ⟨rfl, Multiset.coe_eq_coe.2 (List.perm_append_singleton _ line).symm⟩
  | extend =>
    subst hbag
    exact ⟨rfl, Multiset.coe_eq_coe.2 List.perm_append_comm⟩
  | pop htakes =>
    subst hbag
    obtain ⟨hnext, hrest⟩ := hnum.next?_of_takes htakes
    exact ⟨congrArg Reply.item? hnext, hrest⟩
  | remove htakes =>
    subst hbag
    obtain ⟨hnext, hrest⟩ := hnum.next?_of_takes htakes
    exact ⟨by simp [perform, hnext], hrest⟩
  | peek hfirst =>
    subst hbag
    exact ⟨congrArg Reply.item? (hnum.next?_of_first hfirst), rfl⟩
  | popEmpty | removeEmpty | peekEmpty =>
    obtain rfl := (Multiset.coe_eq_zero line).1 hbag
    exact ⟨rfl, rfl⟩
  | size =>
    subst hbag
    exact ⟨rfl, rfl⟩
  | isEmpty hempty =>
    subst hbag
    refine ⟨congrArg Reply.flag (Bool.eq_iff_iff.2 ?_), rfl⟩
    rw [hempty, Multiset.coe_eq_zero, List.isEmpty_iff]
  | check => exact absurd rfl hop
  | clear => exact ⟨rfl, rfl⟩
  | @drain _ _ xs limit hdrains hlength =>
    subst hbag
    obtain ⟨hserve, hrest⟩ := hnum.serve_of_drains hdrains hlength
    refine ⟨?_, hrest⟩
    rw [hrest, Multiset.coe_card, Multiset.coe_card, ← hserve]
    rfl
  | sorted hdrains =>
    subst hbag
    exact ⟨congrArg Reply.items (hnum.sorted_of_drains hdrains), rfl⟩

end Line

/-! ## Queues of numbered lines -/

namespace PriorityQueue

open Line (Numbered)

variable {C : Type} [Std.TransOrd K] [Std.TransOrd S] {line : Line V K S}
  {q : PriorityQueue V (Sequenced K S) C}

/-- **The queue of a line replies as the line does**, and is the queue of what the line comes to. -/
theorem perform_in_line (hnum : Numbered line) (hheap : Heap.IsHeap Sequenced.precedes q.items)
    (hbag : q.bag = line) (op : Operation V (Sequenced K S)) :
    ∃ q', (q.perform op).answer Sequenced.precedes = ((line.perform op).1, q') ∧
      q'.bag = (line.perform op).2 ∧ Keeps Sequenced.precedes q q' := by
  by_cases hop : op = .check
  · -- a bag leaves open what the check says; that of a heap says yes
    subst hop
    have hcheck : q.check.answer Sequenced.precedes = true := Heap.check_eq_true.2 hheap
    exact ⟨q, by simp [perform, Line.perform, hcheck], hbag, .refl _ q⟩
  · obtain ⟨reply, q', hperform, hstep, hkeeps⟩ :=
      perform_step Sequenced.strictWeak Sequenced.strictWeak.lenient hheap op
    rw [hbag] at hstep
    obtain ⟨hreply, hrest⟩ := hnum.perform_of_step hop hstep
    exact ⟨q', by rw [hperform, hreply], hrest, hkeeps⟩

/-- The numbers of all that come in increase, so those in the line always do. -/
theorem run_in_line {ops : List (Operation V (Sequenced K S))}
    (hnum : Numbered (line ++ ops.flatMap Operation.arrivals))
    (hheap : Heap.IsHeap Sequenced.precedes q.items) (hbag : q.bag = line) :
    ∃ q', (q.run ops).answer Sequenced.precedes = ((line.run ops).1, q') ∧
      q'.bag = (line.run ops).2 ∧ Numbered (line.run ops).2 ∧
      Heap.IsHeap Sequenced.precedes q'.items := by
  induction ops generalizing q line with
  | nil =>
    rw [List.flatMap_nil, List.append_nil] at hnum
    exact ⟨q, rfl, hbag, hnum, hheap⟩
  | cons op ops ih =>
    rw [List.flatMap_cons, ← List.append_assoc] at hnum
    have hnow : Numbered line :=
      hnum.sublist ((List.sublist_append_left line _).trans (List.sublist_append_left _ _))
    have hlater : Numbered ((line.perform op).2 ++ ops.flatMap Operation.arrivals) :=
      hnum.sublist ((line.perform_sublist op).append_right _)
    obtain ⟨q', hperform, hbag', hkeeps⟩ := perform_in_line hnow hheap hbag op
    obtain ⟨last, hrun, hlast⟩ := ih hlater (hkeeps.isHeap hheap) hbag'
    refine ⟨last, ?_, hlast⟩
    simp [run, Line.run, hperform, hrun]

/-- **Numbered items are served as a line serves them.**  Let a queue start least first, and let the
sequence numbers increase from each item to all that come in later.  Then its replies to any requests
are those of a line in which items wait in the order of their arrival: every removal hands out the
earliest of those present that have the least key.  Its items in the end are those in the line, and
draining it gives them sorted stably by their keys. -/
theorem serves_as_line (origin : Origin V (Sequenced K S) QueueOrder) (horder : origin.order = .min)
    (ops : List (Operation V (Sequenced K S)))
    (hnum : Numbered (origin.items ++ ops.flatMap Operation.arrivals)) :
    let who := (QueueOrder.min.ranking : Ranking (Sequenced K S)).precedes
    match origin.start QueueOrder.ranking with
    | .error fault => fault = .capacityOverflow ∧ Settings.byteLimit ≤ origin.storage
    | .ok start =>
      let replies := (Line.run origin.items ops).1
      let line := (Line.run origin.items ops).2
      ∃ q, (start.run ops).answer who = (replies, q) ∧ q.bag = line ∧
        (q.drain none).answer who = (line.mergeSort Line.keyLE, q.clear) := by
  intro who
  have h : StrictWeak who := Sequenced.strictWeak
  rcases Origin.make_cases h h.lenient origin with
    ⟨hmake, hfull⟩ | ⟨build, hmake, -, -, hbag, hheap⟩
  · rw [Origin.start, hmake]
    exact ⟨rfl, hfull⟩
  · have hstart : origin.start QueueOrder.ranking = .ok (build.answer who) := by
      rw [Origin.start, hmake, horder]
      rfl
    rw [hstart]
    obtain ⟨q, hrun, hlast, hnumbered, hlastHeap⟩ := run_in_line hnum hheap hbag
    refine ⟨q, hrun, hlast, ?_⟩
    obtain ⟨xs, hdrain, hdrains⟩ := drain_all h h.lenient hlastHeap
    rw [hlast] at hdrains
    rw [hdrain, ← hnumbered.sorted_of_drains hdrains]
    rfl

/-- Items that tie, some of them before and some after others have left.  The queue comes to store the
last of them in another order than that in which they came. -/
theorem serves_as_line_with_ties :
    let who := (QueueOrder.min.ranking : Ranking (Sequenced Int64)).precedes
    let origin : Origin Nat (Sequenced Int64) QueueOrder :=
      .ofItems [⟨0, ⟨2, 0⟩⟩, ⟨1, ⟨1, 1⟩⟩, ⟨2, ⟨2, 2⟩⟩, ⟨3, ⟨1, 5⟩⟩]
    let ops : List (Operation Nat (Sequenced Int64)) := [.pop, .push 4 ⟨2, 6⟩, .remove,
      .extend [⟨5, ⟨2, 7⟩⟩, ⟨6, ⟨1, 9⟩⟩], .drain (some 2), .insert ⟨7, ⟨1, 10⟩⟩]
    origin.order = .min ∧ Numbered (origin.items ++ ops.flatMap Operation.arrivals) ∧
      ∃ start replies q, origin.start QueueOrder.ranking = .ok start ∧
        (start.run ops).answer who = (replies, q) ∧
        q.items.toList = [⟨7, ⟨1, 10⟩⟩, ⟨2, ⟨2, 2⟩⟩, ⟨5, ⟨2, 7⟩⟩, ⟨4, ⟨2, 6⟩⟩] ∧
        (q.drain none).answer who =
          ([⟨7, ⟨1, 10⟩⟩, ⟨2, ⟨2, 2⟩⟩, ⟨4, ⟨2, 6⟩⟩, ⟨5, ⟨2, 7⟩⟩], q.clear) := by
  intro who origin ops
  have hnum : Numbered (origin.items ++ ops.flatMap Operation.arrivals) := by decide +kernel
  obtain ⟨q, hrun, -, hdrain⟩ := serves_as_line origin rfl ops hnum
  refine ⟨rfl, hnum, _, _, q, rfl, hrun, ?_, hdrain.trans (congrArg (·, q.clear) ?_)⟩
  · rw [← show _ = q from congrArg Prod.snd hrun]
    decide +kernel
  · refine (Line.sorted_eq_insertionSort _).trans ?_
    decide +kernel

end PriorityQueue

end Agenda
