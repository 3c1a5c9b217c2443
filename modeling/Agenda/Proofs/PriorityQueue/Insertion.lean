import Agenda.Proofs.Heap.Path
import Agenda.Proofs.Heap.Repair
import Agenda.Proofs.PriorityQueue.Step
import Mathlib.Data.Set.Card
import Mathlib.Order.Interval.Finset.Nat
/-!
# Where a new item goes

An insertion touches nothing but the way from the new slot to the root.

* `Heap.Outranks` — a new item precedes the one that lies in a slot.
* `Heap.rises` — the number of slots that it rises: along its way it passes items until it comes to
  one that it does not precede (`isGreatest_rises`).
* `Heap.insert_moves` — what an insertion does to every slot, whatever the ranking.
* `Outranks.below`, `rises_eq_ncard` — in a heap the items that it precedes are those that it passes.
* `insert_shifts_way` — all of this for a queue.
-/

set_option autoImplicit false

namespace Agenda.Heap

variable {V P : Type} {n : Nat} {who : P → P → Bool}

/-- An item precedes the one that lies in a slot. -/
def Outranks (who : P → P → Bool) (items : Array (Item V P)) (x : Item V P) (s : Nat) : Prop :=
  ∃ y, items[s]? = some y ∧ who x.priority y.priority = true

/-- The number of slots that a new item rises. -/
def rises (who : P → P → Bool) (items : Array (Item V P)) (x : Item V P) : Nat :=
  (passed who (items.push x).toVector x.priority (leaf items x)).length

/-! ## Slots on the way -/

theorem getElem?_toArray (v : Vector (Item V P) n) (s : Fin n) :
    v.toArray[s.val]? = some (v.get s) :=
  Array.getElem?_eq_getElem (v.size_toArray.symm ▸ s.isLt)

theorem get_push_leaf (items : Array (Item V P)) (x : Item V P) :
    (items.push x).toVector.get (leaf items x) = x :=
  Array.getElem_push_eq

theorem getElem?_of_push {items : Array (Item V P)} {x : Item V P} {s : Fin (items.push x).size}
    (hs : s.val < items.size) : items[s.val]? = some ((items.push x).toVector.get s) := by
  rw [get_push hs]
  exact Array.getElem?_eq_getElem hs

/-- The steps from the new leaf to the root lead to slots of the array as it was. -/
theorem iterate_up_leaf_lt {items : Array (Item V P)} {x : Item V P} {l : Nat} (hl : 1 ≤ l)
    (hle : l ≤ depth items.size) : (up^[l] (leaf items x)).val < items.size := by
  rw [iterate_up_val]
  exact ancestor_lt (ancestor_iff_iterate.2 ⟨l, hl, hle, rfl⟩)

theorem outranks_iff {items : Array (Item V P)} {x : Item V P} {l : Nat} (hl : 1 ≤ l)
    (hle : l ≤ depth items.size) :
    Outranks who items x (parent^[l] items.size) ↔
      who x.priority ((items.push x).toVector.get (up^[l] (leaf items x))).priority = true := by
  have hslot : (up^[l] (leaf items x)).val = parent^[l] items.size := iterate_up_val _ l
  have hold := getElem?_of_push (iterate_up_leaf_lt (x := x) hl hle)
  rw [hslot] at hold
  unfold Outranks
  rw [hold]
  constructor
  · rintro ⟨y, hy, hask⟩
    obtain rfl := Option.some.inj hy
    exact hask
  · exact fun hask => ⟨_, rfl, hask⟩

/-! ## Whatever the ranking -/

/-- **A new item rises as far as it precedes the items on its way**, one after the other. -/
theorem isGreatest_rises (who : P → P → Bool) (items : Array (Item V P)) (x : Item V P) :
    IsGreatest {m | m ≤ depth items.size ∧
      ∀ l, 1 ≤ l → l ≤ m → Outranks who items x (parent^[l] items.size)} (rises who items x) := by
  have hclimb : Climb who (items.push x).toVector x.priority (leaf items x)
    (passed who (items.push x).toVector x.priority (leaf items x)) := passed_climb _ _ _ _
  have hdepth : rises who items x ≤ depth items.size := hclimb.le_depth
  constructor
  · refine ⟨hdepth, fun l hl hle => ?_⟩
    rw [outranks_iff hl (Nat.le_trans hle hdepth)]
    obtain ⟨m, rfl⟩ := Nat.exists_eq_add_of_le' hl
    exact hclimb.precedes m hle
  · rintro m ⟨hm, hall⟩
    apply Nat.le_of_not_lt
    intro hlt
    -- the item after the last one that is passed would have been passed, too
    have hask := hall (rises who items x + 1) (Nat.le_add_left 1 _) hlt
    rw [outranks_iff (Nat.le_add_left 1 _) (Nat.le_trans hlt hm)] at hask
    have hrest := hclimb.rests (Nat.lt_of_lt_of_le hlt hm)
    exact Bool.false_ne_true (hrest.symm.trans hask)

/-- **What an insertion does to every slot**: the items that are passed move down their way by one
step each, the new one takes the slot of the last of them, and no other slot changes. -/
theorem insert_moves (who : P → P → Bool) (items : Array (Item V P)) (x : Item V P) :
    let grown := (insert items x).answer who
    let j := rises who items x
    grown.size = items.size + 1 ∧
      (∀ m < j, grown[parent^[m] items.size]? = items[parent^[m + 1] items.size]?) ∧
      grown[parent^[j] items.size]? = some x ∧
      ∀ s < items.size, (∀ m ≤ j, s ≠ parent^[m] items.size) → grown[s]? = items[s]? := by
  intro grown j
  have hdepth : j ≤ depth items.size := (isGreatest_rises who items x).1.1
  have hway : ∀ m, (up^[m] (leaf items x)).val = parent^[m] items.size := iterate_up_val _
  have hmoves := siftUp_moves who (items.push x).toVector (leaf items x)
  rw [get_push_leaf] at hmoves
  obtain ⟨hsteps, hlast, hothers⟩ := hmoves
  have hgrown : grown = ((siftUp (items.push x).toVector (leaf items x)).answer who).toArray :=
    answer_insert items x
  rw [hgrown]
  refine ⟨?_, fun m hm => ?_, ?_, fun s hs hoff => ?_⟩
  · rw [Vector.size_toArray, Array.size_push]
  · rw [← hway m, ← hway (m + 1), getElem?_toArray,
      getElem?_of_push (iterate_up_leaf_lt (Nat.le_add_left 1 m) (Nat.le_trans hm hdepth)),
      hsteps m hm]
  · rw [← hway j, getElem?_toArray]
    exact congrArg some hlast
  · let slot : Fin (items.push x).size := ⟨s, Nat.lt_trans hs (size_lt_push items x)⟩
    have hkeep := hothers slot fun m hm heq => hoff m hm (by rw [← hway m, ← heq])
    exact (getElem?_toArray _ slot).trans ((congrArg some hkeep).trans
      (getElem?_of_push (s := slot) hs).symm)

/-! ## In a heap -/

/-- In a heap, whoever precedes an item precedes all items below it. -/
theorem Outranks.below (h : StrictWeak who) {items : Array (Item V P)} (hh : IsHeap who items)
    {x : Item V P} {a i : Nat} (hx : Outranks who items x a) (hai : Ancestor a i)
    (hi : i < items.size) : Outranks who items x i := by
  obtain ⟨y, hy, hask⟩ := hx
  obtain ⟨ha, rfl⟩ := Array.getElem?_eq_some_iff.1 hy
  have hleads : Item.Leads who items[a] items[i] :=
    (isHeap_iff_ordered.1 hh).leads_below h hai ha hi
  refine ⟨items[i], Array.getElem?_eq_getElem hi, ?_⟩
  cases hbelow : who x.priority items[i].priority with
  | true => rfl
  | false => exact absurd ((h.not_trans hleads hbelow).symm.trans hask) Bool.false_ne_true

/-- In a heap, an item passes all items on its way that it precedes, and no others. -/
theorem outranks_iff_le_rises (h : StrictWeak who) {items : Array (Item V P)}
    (hh : IsHeap who items) (x : Item V P) {m : Nat} (hm : 1 ≤ m) (hle : m ≤ depth items.size) :
    Outranks who items x (parent^[m] items.size) ↔ m ≤ rises who items x := by
  obtain ⟨⟨-, hpassed⟩, hgreatest⟩ := isGreatest_rises who items x
  constructor
  · intro hx
    apply hgreatest
    refine ⟨hle, fun l hl hlm => ?_⟩
    rcases Nat.eq_or_lt_of_le hlm with rfl | hlt
    · exact hx
    · have hbound : parent^[l] items.size < items.size :=
        ancestor_lt (ancestor_iff_iterate.2 ⟨l, hl, by omega, rfl⟩)
      exact hx.below h hh (ancestor_iterate hlt hle) hbound
  · exact hpassed m hm

/-- **In a heap, an item rises by the number of items above its slot that it precedes.** -/
theorem rises_eq_ncard (h : StrictWeak who) {items : Array (Item V P)} (hh : IsHeap who items)
    (x : Item V P) :
    rises who items x = {a | Ancestor a items.size ∧ Outranks who items x a}.ncard := by
  have hdepth := (isGreatest_rises who items x).1.1
  have hway : {a | Ancestor a items.size ∧ Outranks who items x a} =
      (fun m => parent^[m] items.size) '' (Finset.Icc 1 (rises who items x) : Set Nat) := by
    ext a
    simp only [Set.mem_ofPred_eq, Set.mem_image, Finset.mem_coe, Finset.mem_Icc]
    rw [ancestor_iff_iterate]
    constructor
    · rintro ⟨⟨m, hm, hle, rfl⟩, hx⟩
      exact ⟨m, ⟨hm, (outranks_iff_le_rises h hh x hm hle).1 hx⟩, rfl⟩
    · rintro ⟨m, ⟨hm, hle⟩, rfl⟩
      have hmd := Nat.le_trans hle hdepth
      exact ⟨⟨m, hm, hmd, rfl⟩, (outranks_iff_le_rises h hh x hm hmd).2 hle⟩
  have hinj : Set.InjOn (fun m => parent^[m] items.size)
      (Finset.Icc 1 (rises who items x) : Set Nat) := by
    intro l hl m hm heq
    have hl' := (Finset.mem_Icc.1 (Finset.mem_coe.1 hl)).2
    have hm' := (Finset.mem_Icc.1 (Finset.mem_coe.1 hm)).2
    exact iterate_parent_injOn (Nat.le_trans hl' hdepth) (Nat.le_trans hm' hdepth) heq
  rw [hway, hinj.ncard_image, Set.ncard_coe_finset, Nat.card_Icc, Nat.add_sub_cancel]

end Agenda.Heap

namespace Agenda.PriorityQueue

variable {V P C : Type}

/-- **A new item moves nothing but the items that it passes on its way to the root.**  Let `c` be the
way from the new slot to the root, of `k` steps, and `j` the greatest number such that the item
precedes all of the first `j` items on it, the new slot not counted.  Whatever the ranking, these
items move one step back, the new item takes the slot of the last of them, and all other slots are as
they were.  In a heap under a strict weak order, `j` is the number of all items above the new slot that
the new one precedes, so those that it ties with stay above it. -/
theorem insert_shifts_way (who : P → P → Bool) (q : PriorityQueue V P C) (x : Item V P) :
    let n := q.size
    let c := fun m => Heap.parent^[m] n
    let k := Heap.depth n
    let grown := (q.insert x).answer who
    c k = 0 ∧ (∀ m < k, 0 < c m) ∧
      ∃ j, IsGreatest {m | m ≤ k ∧ ∀ l, 1 ≤ l → l ≤ m → Heap.Outranks who q.items x (c l)} j ∧
        grown.order = q.order ∧ grown.size = n + 1 ∧
        (∀ m < j, grown.items[c m]? = q.items[c (m + 1)]?) ∧
        grown.items[c j]? = some x ∧
        (∀ s < n, (∀ m ≤ j, s ≠ c m) → grown.items[s]? = q.items[s]?) ∧
        (∀ m, j < m → m ≤ k → grown.items[c m]? = q.items[c m]?) ∧
        (StrictWeak who → Heap.IsHeap who q.items →
          j = {a | Heap.Ancestor a n ∧ Heap.Outranks who q.items x a}.ncard ∧
          ∀ a y, Heap.Ancestor a n → q.items[a]? = some y → Tied who x.priority y.priority →
            Heap.Ancestor a (c j)) := by
  intro n c k grown
  have hgrown : grown = { q with items := (Heap.insert q.items x).answer who } :=
    answer_insert q x
  have hgreatest := Heap.isGreatest_rises who q.items x
  obtain ⟨hsize, hsteps, hlast, hothers⟩ := Heap.insert_moves who q.items x
  rw [hgrown]
  refine ⟨Heap.iterate_parent_depth n, fun m hm => Heap.iterate_parent_pos hm,
    Heap.rises who q.items x, hgreatest, rfl, hsize, hsteps, hlast, hothers, fun m hm hmk => ?_,
    fun h hh => ?_⟩
  · have hbelow : c m < n :=
      Heap.ancestor_lt (Heap.ancestor_iff_iterate.2 ⟨m, Nat.one_le_of_lt hm, hmk, rfl⟩)
    apply hothers (c m) hbelow
    intro l hl heq
    have hlm : m = l := Heap.iterate_parent_injOn hmk (by omega) heq
    omega
  refine ⟨Heap.rises_eq_ncard h hh x, fun a y ha hy htied => ?_⟩
  obtain ⟨m, hm, hle, rfl⟩ := Heap.ancestor_iff_iterate.1 ha
  apply Heap.ancestor_iterate _ hle
  apply Nat.lt_of_not_le
  intro hpassed
  obtain ⟨y', hy', hask⟩ := hgreatest.1.2 m hm hpassed
  obtain rfl : y = y' := Option.some.inj (hy.symm.trans hy')
  exact Bool.false_ne_true (htied.1.symm.trans hask)

/-- A new item above whose slot there are three others: it passes the first of them and ties with the
second. -/
theorem insert_shifts_way_below_tie :
    let who : Nat → Nat → Bool := fun a b => compare a b == .lt
    let q : PriorityQueue Nat Nat Unit :=
      ⟨#[⟨0, 1⟩, ⟨1, 3⟩, ⟨2, 2⟩, ⟨3, 5⟩, ⟨4, 4⟩, ⟨5, 6⟩, ⟨6, 7⟩], ()⟩
    let x : Item Nat Nat := ⟨7, 3⟩
    let grown := (q.insert x).answer who
    StrictWeak who ∧ Heap.IsHeap who q.items ∧
      {a | Heap.Ancestor a 7 ∧ Heap.Outranks who q.items x a}.ncard = 1 ∧
      Tied who x.priority 3 ∧ Heap.Ancestor 1 3 ∧
      grown.items[3]? = some x ∧ grown.items[7]? = some ⟨3, 5⟩ := by
  intro who q x grown
  have h : StrictWeak who := StrictWeak.ofCompare _
  have hh : Heap.IsHeap who q.items := Heap.check_eq_true.1 (by decide +kernel)
  obtain ⟨-, -, j, hgreatest, -, -, hsteps, hlast, -, -, hheap⟩ := insert_shifts_way who q x
  obtain ⟨hcount, hties⟩ := hheap h hh
  have hone : IsGreatest {m | m ≤ Heap.depth 7 ∧ ∀ l, 1 ≤ l → l ≤ m →
      Heap.Outranks who q.items x (Heap.parent^[l] 7)} 1 := by
    constructor
    · refine ⟨by decide, fun l hl hle => ?_⟩
      obtain rfl : l = 1 := Nat.le_antisymm hle hl
      exact ⟨⟨3, 5⟩, rfl, rfl⟩
    · rintro m ⟨-, hall⟩
      apply Nat.le_of_not_lt
      intro hm
      obtain ⟨y, hy, hask⟩ := hall 2 (by decide) hm
      obtain rfl : ⟨1, 3⟩ = y := Option.some.inj hy
      cases hask
  obtain rfl : j = 1 := hgreatest.unique hone
  have hseven : q.size = 7 := rfl
  have hthree : Heap.parent^[1] 7 = 3 := by decide
  simp only [hseven, hthree] at hsteps hlast hties
  have htied : Tied who x.priority 3 := ⟨rfl, rfl⟩
  have habove : Heap.Ancestor 1 7 := Heap.ancestor_iff_iterate.2 ⟨2, by decide, by decide, rfl⟩
  exact ⟨h, hh, hcount.symm, htied, hties 1 ⟨1, 3⟩ habove rfl htied, hlast,
    hsteps 0 Nat.one_pos⟩

end Agenda.PriorityQueue
