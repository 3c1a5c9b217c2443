import Agenda.PriorityQueue.History
import Agenda.Proofs.Heap.Relabel
import Agenda.Proofs.PriorityQueue.Step
/-!
# Greatest first is least first, mirrored

* `PriorityQueue.relabel` — a queue of the same items under other priorities.  Whatever is done to it
  is what is done to the queue itself, relabelled (`perform_relabel`, `history_relabel`).
* `precedes_mirror` — a map that reverses an order turns "greatest first" into "least first".
* `greatest_first_mirrors_least_first` — hence the two queues keep their items in the same slots,
  reply alike and ask about the same pairs, whatever they go through.
-/

set_option autoImplicit false

namespace Agenda.PriorityQueue

variable {V P Q C C' : Type}

/-- The same items under other priorities, in an order of any kind. -/
def relabel (f : P → Q) (order : C') (q : PriorityQueue V P C) : PriorityQueue V Q C' :=
  ⟨q.items.map (Item.relabel f), order⟩

/-- The same request with other priorities. -/
def Operation.relabel (f : P → Q) : Operation V P → Operation V Q
  | .insert x => .insert (x.relabel f)
  | .push value priority => .push value (f priority)
  | .extend xs => .extend (xs.map (Item.relabel f))
  | .pop => .pop
  | .remove => .remove
  | .peek => .peek
  | .size => .size
  | .isEmpty => .isEmpty
  | .check => .check
  | .clear => .clear
  | .drain limit => .drain limit
  | .sorted => .sorted

/-- The same reply with other priorities. -/
def Reply.relabel (f : P → Q) : Reply V P → Reply V Q
  | .done => .done
  | .count n => .count n
  | .flag b => .flag b
  | .item? x => .item? (x.map (Item.relabel f))
  | .removal x => .removal (x.map (Item.relabel f))
  | .items xs => .items (xs.map (Item.relabel f))
  | .drained before xs after => .drained before (xs.map (Item.relabel f)) after

/-- The same entry with other priorities. -/
def Entry.relabel (f : P → Q) (order : C') (e : Entry V P C) : Entry V Q C' :=
  ⟨e.before.relabel f order, e.operation.relabel f, e.reply.relabel f, e.after.relabel f order⟩

variable (f : P → Q) (order : C') (q : PriorityQueue V P C)

/-! ## Operations -/

theorem withOrder_relabel (items : List (Item V P)) (own : C) :
    withOrder (items.map (Item.relabel f)) order =
      PriorityQueue.relabel f order <$> (withOrder items own).relabel f := by
  have hbuild := Heap.build_relabel f items.toArray
  rw [List.map_toArray] at hbuild
  simp [withOrder, hbuild, PriorityQueue.relabel]

@[simp] theorem size_relabel : (q.relabel f order).size = q.size := Array.size_map

@[simp] theorem isEmpty_relabel : (q.relabel f order).isEmpty = q.isEmpty := by
  simp [isEmpty, relabel, Array.isEmpty]

@[simp] theorem peek_relabel :
    (q.relabel f order).peek = q.peek.map (Item.relabel f) := by
  simp [peek, relabel]

@[simp] theorem clear_relabel : (q.relabel f order).clear = q.clear.relabel f order := by
  simp [clear, relabel]

theorem check_relabel : (q.relabel f order).check = q.check.relabel f :=
  Heap.check_relabel f q.items

theorem insert_relabel (x : Item V P) :
    (q.relabel f order).insert (x.relabel f) =
      PriorityQueue.relabel f order <$> (q.insert x).relabel f := by
  have hinsert := Heap.insert_relabel f q.items x
  simp [insert, relabel, hinsert]

theorem extend_relabel (xs : List (Item V P)) :
    (q.relabel f order).extend (xs.map (Item.relabel f)) =
      PriorityQueue.relabel f order <$> (q.extend xs).relabel f := by
  induction xs generalizing q with
  | nil => simp [extend]
  | cons x xs ih => simp [extend, insert_relabel, ih]

theorem pop_relabel :
    (q.relabel f order).pop =
      Prod.map (Option.map (Item.relabel f)) (PriorityQueue.relabel f order) <$>
        q.pop.relabel f := by
  have hpop := Heap.pop_relabel f q.items
  rw [pop, pop, relabel, hpop, bind_map_left, Inquiry.relabel_bind, map_bind]
  refine bind_congr fun taken => ?_
  cases taken with
  | none => rfl
  | some taken => rfl

theorem remove_relabel :
    (q.relabel f order).remove =
      Prod.map (Except.map (Item.relabel f)) (PriorityQueue.relabel f order) <$>
        q.remove.relabel f := by
  rw [remove, remove, pop_relabel, bind_map_left, Inquiry.relabel_bind, map_bind]
  refine bind_congr fun taken => ?_
  obtain ⟨x, rest⟩ := taken
  cases x with
  | none => rfl
  | some x => rfl

theorem drainOnto_relabel (taken : Array (Item V P)) (limit : Nat) :
    (q.relabel f order).drainOnto (taken.map (Item.relabel f)) limit =
      Prod.map (List.map (Item.relabel f)) (PriorityQueue.relabel f order) <$>
        (q.drainOnto taken limit).relabel f := by
  induction limit generalizing q taken with
  | zero => simp [drainOnto]
  | succ limit ih =>
    rw [drainOnto, drainOnto, pop_relabel, bind_map_left, Inquiry.relabel_bind, map_bind]
    refine bind_congr fun next => ?_
    obtain ⟨x, rest⟩ := next
    cases x with
    | none => simp
    | some x => simpa using ih rest (taken.push x)

theorem drain_relabel (limit : Option Nat) :
    (q.relabel f order).drain limit =
      Prod.map (List.map (Item.relabel f)) (PriorityQueue.relabel f order) <$>
        (q.drain limit).relabel f := by
  have hdrain := drainOnto_relabel f order q #[] (limit.getD q.size)
  rw [Array.map_empty] at hdrain
  rw [drain, drain, size_relabel]
  exact hdrain

theorem sorted_relabel :
    (q.relabel f order).sorted = List.map (Item.relabel f) <$> q.sorted.relabel f := by
  simp [sorted, drain_relabel]

/-! ## Requests -/

/-- **A request of a relabelled queue is the request itself, relabelled.** -/
theorem perform_relabel (op : Operation V P) :
    (q.relabel f order).perform (op.relabel f) =
      Prod.map (Reply.relabel f) (PriorityQueue.relabel f order) <$>
        (q.perform op).relabel f := by
  cases op with
  | insert x => simp [Operation.relabel, perform, insert_relabel, Reply.relabel]
  | push value priority =>
    have hinsert := insert_relabel f order q ⟨value, priority⟩
    simp only [Item.relabel] at hinsert
    simp [Operation.relabel, perform, push, hinsert, Reply.relabel]
  | extend xs => simp [Operation.relabel, perform, extend_relabel, Reply.relabel]
  | pop => simp [Operation.relabel, perform, pop_relabel, Reply.relabel]
  | remove => simp [Operation.relabel, perform, remove_relabel, Reply.relabel]
  | peek => simp [Operation.relabel, perform, Reply.relabel]
  | size => simp [Operation.relabel, perform, Reply.relabel]
  | isEmpty => simp [Operation.relabel, perform, Reply.relabel]
  | check => simp [Operation.relabel, perform, check_relabel, Reply.relabel]
  | clear => simp [Operation.relabel, perform, Reply.relabel]
  | drain limit => simp [Operation.relabel, perform, drain_relabel, Reply.relabel]
  | sorted => simp [Operation.relabel, perform, sorted_relabel, Reply.relabel]

/-- **So are requests in turn**, one after the other. -/
theorem history_relabel (ops : List (Operation V P)) :
    (q.relabel f order).history (ops.map (Operation.relabel f)) =
      Prod.map (List.map (Entry.relabel f order)) (PriorityQueue.relabel f order) <$>
        (q.history ops).relabel f := by
  induction ops generalizing q with
  | nil => simp [history]
  | cons op ops ih => simp [history, perform_relabel, ih, Entry.relabel]

/-! ## The two orders -/

section Orders

variable [Ord P] [Std.OrientedOrd P] [Ord Q] [Std.LawfulEqOrd Q] {f}

theorem compare_mirror_of_lt (hrev : ∀ a b, (compare a b).isLE → (compare (f b) (f a)).isLE)
    (hinj : Function.Injective f) {a b : P} (hab : compare a b = .lt) :
    compare (f b) (f a) = .lt := by
  have hle : (compare (f b) (f a)).isLE := hrev a b (by rw [hab]; rfl)
  cases hfba : compare (f b) (f a) with
  | lt => rfl
  | eq =>
    -- the map would have made a tie of two priorities
    obtain rfl : b = a := hinj (Std.LawfulEqOrd.eq_of_compare hfba)
    rw [Std.compare_self] at hab
    cases hab
  | gt =>
    rw [hfba] at hle
    cases hle

/-- **An injective map that reverses an order reverses all comparisons**, those that tie included. -/
theorem compare_mirror [Std.OrientedOrd Q]
    (hrev : ∀ a b, (compare a b).isLE → (compare (f b) (f a)).isLE)
    (hinj : Function.Injective f) (a b : P) : compare (f a) (f b) = compare b a := by
  cases hba : compare b a with
  | lt => exact compare_mirror_of_lt hrev hinj hba
  | eq =>
    have hab : compare a b = .eq := Std.OrientedCmp.eq_symm hba
    have hle : (compare (f a) (f b)).isLE := hrev b a (by rw [hba]; rfl)
    have hge : (compare (f b) (f a)).isLE := hrev a b (by rw [hab]; rfl)
    exact Std.OrientedCmp.isLE_antisymm hle hge
  | gt =>
    have hab : compare a b = .lt := Std.OrientedCmp.lt_of_gt hba
    exact Std.OrientedCmp.gt_of_lt (compare_mirror_of_lt hrev hinj hab)

/-- Seen through such a map, "least first" answers as "greatest first" does. -/
theorem precedes_mirror [Std.OrientedOrd Q]
    (hrev : ∀ a b, (compare a b).isLE → (compare (f b) (f a)).isLE)
    (hinj : Function.Injective f) :
    (fun a b => (QueueOrder.min.ranking : Ranking Q).precedes (f a) (f b)) =
      (QueueOrder.max.ranking : Ranking P).precedes := by
  funext a b
  show (compare (f a) (f b) == .lt) = (compare b a == .lt)
  rw [compare_mirror hrev hinj]

end Orders

/-! ## Mirrored queues -/

/-- **A greatest-first queue is a least-first queue, mirrored.**  Let a map reverse the order of the
priorities and keep different ones apart.  Build a greatest-first queue of some items, and a
least-first queue of the same items under the mirrored priorities; then make the same requests of
both.  From the start and after every request the two keep corresponding items in the same slots, ties
included; they give corresponding replies; and all along they ask about corresponding pairs, in the
same order. -/
theorem greatest_first_mirrors_least_first [Ord P] [Std.TransOrd P] [Ord Q] [Std.TransOrd Q]
    [Std.LawfulEqOrd Q] (f : P → Q)
    (hrev : ∀ a b, (compare a b).isLE → (compare (f b) (f a)).isLE)
    (hinj : Function.Injective f) (items : List (Item V P)) (ops : List (Operation V P)) :
    let greatest := (QueueOrder.max.ranking : Ranking P).precedes
    let least := (QueueOrder.min.ranking : Ranking Q).precedes
    let build := withOrder items QueueOrder.max
    let build' := withOrder (items.map (Item.relabel f)) QueueOrder.min
    let start := build.answer greatest
    let start' := build'.answer least
    let course := start.history ops
    let course' := start'.history (ops.map (Operation.relabel f))
    let entries := (course.answer greatest).1
    let entries' := (course'.answer least).1
    start'.items = start.items.map (Item.relabel f) ∧
      entries'.map (fun e => e.after.items) =
        entries.map (fun e => e.after.items.map (Item.relabel f)) ∧
      entries'.map (fun e => e.reply) = entries.map (fun e => e.reply.relabel f) ∧
      build'.asked least = (build.asked greatest).map (Prod.map f f) ∧
      course'.asked least = (course.asked greatest).map (Prod.map f f) := by
  intro greatest least build build' start start' course course' entries entries'
  have hwho : (fun a b => least (f a) (f b)) = greatest := precedes_mirror hrev hinj
  have hbuild : build' = PriorityQueue.relabel f QueueOrder.min <$> build.relabel f :=
    withOrder_relabel f QueueOrder.min items QueueOrder.max
  have hstart : start' = start.relabel f QueueOrder.min := by
    simp only [start', start, hbuild, Inquiry.answer_map, Inquiry.answer_relabel, hwho]
  have hcourse : course' = Prod.map (List.map (Entry.relabel f QueueOrder.min))
      (PriorityQueue.relabel f QueueOrder.min) <$> course.relabel f := by
    simp only [course', hstart]
    exact history_relabel f QueueOrder.min start ops
  have hentries : entries' = entries.map (Entry.relabel f QueueOrder.min) := by
    simp only [entries', entries, hcourse, Inquiry.answer_map, Inquiry.answer_relabel, hwho,
      Prod.map_fst]
  refine ⟨?_, ?_, ?_, ?_, ?_⟩
  · rw [hstart]
    rfl
  · rw [hentries, List.map_map]
    rfl
  · rw [hentries, List.map_map]
    rfl
  · rw [hbuild, Inquiry.asked_map, Inquiry.asked_relabel, hwho]
  · rw [hcourse, Inquiry.asked_map, Inquiry.asked_relabel, hwho]

/-! ## Signed words by their complement -/

theorem toInt_complement (p : Int64) : (~~~p).toInt = -1 - p.toInt := by
  have hlower : -0x8000000000000000 ≤ p.toInt := p.minValue_le_toInt
  have hupper : p.toInt ≤ 0x7FFFFFFFFFFFFFFF := p.toInt_le
  rw [Int64.toInt_not, Int.bmod_eq_of_le (by omega) (by omega)]
  omega

theorem complement_reverses (a b : Int64) (h : (compare a b).isLE) :
    (compare (~~~b) (~~~a)).isLE := by
  rw [Std.isLE_compare, Int64.le_iff_toInt_le] at h ⊢
  rw [toInt_complement, toInt_complement]
  omega

theorem complement_injective : Function.Injective fun p : Int64 => ~~~p := by
  intro a b h
  have hab := congrArg Int64.toInt h
  simp only [toInt_complement] at hab
  exact Int64.toInt_inj.1 (by omega)

/-- Signed words and their complements, with ties and the least of them all; the items are followed
slot by slot. -/
theorem greatest_first_mirrors_least_first_complement :
    let f : Int64 → Int64 := fun p => ~~~p
    let least := (QueueOrder.min.ranking : Ranking Int64).precedes
    let items : List (Item Nat Int64) := [⟨0, 2⟩, ⟨1, 5⟩, ⟨2, 2⟩, ⟨3, 5⟩]
    let ops : List (Operation Nat Int64) := [.remove, .extend [⟨4, 5⟩, ⟨5, Int64.minValue⟩],
      .drain (some 2), .clear, .pop]
    let start' := (withOrder (items.map (Item.relabel f)) QueueOrder.min).answer least
    let entries' := ((start'.history (ops.map (Operation.relabel f))).answer least).1
    (∀ a b, (compare a b).isLE → (compare (f b) (f a)).isLE) ∧ Function.Injective f ∧
      start'.items = #[⟨1, -6⟩, ⟨3, -6⟩, ⟨2, -3⟩, ⟨0, -3⟩] ∧
      entries'.map (fun e => e.after.items) = [#[⟨3, -6⟩, ⟨0, -3⟩, ⟨2, -3⟩],
        #[⟨3, -6⟩, ⟨4, -6⟩, ⟨2, -3⟩, ⟨0, -3⟩, ⟨5, Int64.maxValue⟩],
        #[⟨0, -3⟩, ⟨5, Int64.maxValue⟩, ⟨2, -3⟩], #[], #[]] := by
  intro f least items ops start' entries'
  obtain ⟨hstart, harrays, -⟩ := greatest_first_mirrors_least_first f complement_reverses
    complement_injective items ops
  refine ⟨complement_reverses, complement_injective, hstart.trans ?_, harrays.trans ?_⟩
  · decide +kernel
  · decide +kernel

end Agenda.PriorityQueue
