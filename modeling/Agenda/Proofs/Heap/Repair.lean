import Agenda.Proofs.Heap.Sift
import Mathlib.Data.Multiset.AddSub
/-!
# Building, inserting, popping

Each repair of a heap is stated twice: what becomes of its items, whatever is answered, and what
becomes of heap order, under answers that are lenient towards the order.

* `bag` — the items of an array as a multiset.
* `build_contents`, `insert_contents`, `pop_contents` — no repair loses or doubles an item.
* `build_isHeap`, `insert_isHeap`, `pop_isHeap` — every repair leaves a heap.
* `build_eq_self`, `build_eq_self_iff` — building changes nothing about a heap, and about nothing
  else.
* `answer_pop` — what a pop hands out is the root.
* `check_eq_true` — the check of an array is the heap property.
-/

set_option autoImplicit false

namespace Agenda.Heap

variable {V P : Type} {n : Nat} {lt who : P → P → Bool}

/-- The items of an array, in no order. -/
def bag (items : Array (Item V P)) : Multiset (Item V P) := items.toList

@[simp] theorem card_bag (items : Array (Item V P)) : (bag items).card = items.size := by
  simp [bag]

@[simp] theorem mem_bag {items : Array (Item V P)} {x : Item V P} : x ∈ bag items ↔ x ∈ items := by
  simp [bag]

theorem bag_push (items : Array (Item V P)) (x : Item V P) :
    bag (items.push x) = x ::ₘ bag items := by
  simp only [bag, Array.toList_push, Multiset.cons_coe, Multiset.coe_eq_coe]
  exact List.perm_append_singleton x items.toList

theorem bag_toArray_eq {v w : Vector (Item V P) n} (h : v.Perm w) :
    bag v.toArray = bag w.toArray :=
  Multiset.coe_eq_coe.2 h.toList

/-! ## Building -/

theorem answer_build_small {items : Array (Item V P)} (h : items.size < 2) :
    (build items).answer who = items := by
  rw [build, if_pos h]; rfl

theorem answer_build {items : Array (Item V P)} (h : ¬ items.size < 2) :
    (build items).answer who =
      ((siftDownBelow items.toVector (items.size / 2) (Nat.div_le_self _ _)).answer who).toArray := by
  rw [build, if_neg h]; simp

theorem build_contents (items : Array (Item V P)) :
    (build items).Always fun built => bag built = bag items := by
  unfold build
  split
  · rfl
  · rw [Inquiry.always_bind, Inquiry.always_report, Inquiry.always_bind]
    exact (siftDownBelow_shuffles items.toVector _ _).mono fun sunk h => bag_toArray_eq h

/-- No slot from the middle of an array on has a child. -/
theorem ordered_from_half (items : Vector (Item V P) n) :
    Ordered lt (fun i => n / 2 ≤ i) items := by
  intro j hj hhalf
  have hval : (up j).val = parent j := rfl
  have := j.isLt
  unfold parent at hval
  omega

/-- Heap order from the slot after `k` on is all that slot `k` needs to sink. -/
theorem sinking_from {items : Vector (Item V P) n} {k : Nat} (hk : k < n)
    (ho : Ordered lt (fun i => k + 1 ≤ i) items) :
    Sinking lt (fun i => k ≤ i) items ⟨k, hk⟩ := by
  constructor
  · intro j hj hkj hne
    have hne' : (up j).val ≠ k := fun heq => hne (Fin.ext heq)
    exact ho j hj (by omega)
  · intro j _ _ hk0 hkup
    have : parent k < k := parent_lt hk0
    exact absurd hkup (Nat.not_le.2 this)

/-- **Building makes a heap of any array.** -/
theorem build_isHeap (h : StrictWeak lt) (hwho : Lenient lt who) (items : Array (Item V P)) :
    IsHeap lt ((build items).answer who) := by
  by_cases hsize : items.size < 2
  · rw [answer_build_small hsize]
    intro i hi
    have := i.isLt
    omega
  · rw [answer_build hsize, isHeap_toArray]
    -- after the turn of slot `k`, heap order holds from `k` on
    have hloop := siftDownBelow_rule who
      (fun (v : Vector (Item V P) items.size) k => Ordered lt (fun i => k ≤ i) v)
      (fun v k hk ho => siftDown_ordered h hwho (Downward.from k) (sinking_from hk ho))
      items.toVector (items.size / 2) (Nat.div_le_self _ _) (ordered_from_half items.toVector)
    exact fun j hj _ => hloop j hj (Nat.zero_le _)

/-- **Building leaves a heap as it is**, whatever the ranking: no item of it ever sinks. -/
theorem build_eq_self {items : Array (Item V P)} (hh : IsHeap who items) :
    (build items).answer who = items := by
  by_cases hsize : items.size < 2
  · exact answer_build_small hsize
  · have hstay : ∀ (v : Vector (Item V P) items.size) k (hk : k < items.size),
        v = items.toVector → (siftDown v ⟨k, hk⟩).answer who = items.toVector := by
      rintro v k hk rfl
      apply siftDown_eq_self
      intro j hj hup
      rw [← hup]
      exact hh j hj
    have hloop := siftDownBelow_rule who (fun v _ => v = items.toVector) hstay items.toVector
      (items.size / 2) (Nat.div_le_self _ _) rfl
    rw [answer_build hsize, hloop]

/-- Under a strict weak order it leaves nothing else as it is. -/
theorem build_eq_self_iff (h : StrictWeak who) {items : Array (Item V P)} :
    (build items).answer who = items ↔ IsHeap who items := by
  constructor
  · intro hbuild
    have hheap := build_isHeap h h.lenient items
    rwa [hbuild] at hheap
  · exact build_eq_self

/-! ## Inserting -/

theorem size_lt_push (items : Array (Item V P)) (x : Item V P) :
    items.size < (items.push x).size := by
  rw [Array.size_push]; exact Nat.lt_succ_self items.size

/-- The slot that a new item is put in. -/
def leaf (items : Array (Item V P)) (x : Item V P) : Fin (items.push x).size :=
  ⟨items.size, size_lt_push items x⟩

theorem answer_insert (items : Array (Item V P)) (x : Item V P) :
    (insert items x).answer who =
      ((siftUp (items.push x).toVector (leaf items x)).answer who).toArray := by
  simp [insert, leaf]

theorem insert_contents (items : Array (Item V P)) (x : Item V P) :
    (insert items x).Always fun grown => bag grown = x ::ₘ bag items := by
  unfold insert
  rw [Inquiry.always_bind]
  refine (siftUp_shuffles (items.push x).toVector (leaf items x)).mono fun risen h => ?_
  rw [Inquiry.always_bind, Inquiry.always_report, Inquiry.always_pure, ← bag_push]
  exact bag_toArray_eq h

theorem get_push {items : Array (Item V P)} {x : Item V P} {j : Fin (items.push x).size}
    (hj : j.val < items.size) : (items.push x).toVector.get j = items[j.val] :=
  Array.getElem_push_lt hj

/-- A heap with one leaf more is in heap order but for that leaf. -/
theorem rising_push {items : Array (Item V P)} (hh : IsHeap lt items) (x : Item V P) :
    Rising lt (items.push x).toVector (leaf items x) := by
  have hsize : (items.push x).size = items.size + 1 := Array.size_push x
  constructor
  · intro j hj hjn
    have hne : j.val ≠ items.size := fun heq => hjn (Fin.ext heq)
    have hlt : j.val < items.size := by have := j.isLt; omega
    rw [get_push hlt, get_push (Nat.lt_trans (up_lt hj) hlt)]
    exact hh ⟨j, hlt⟩ hj
  · intro j hj hjn
    have hup : (up j).val = items.size := congrArg Fin.val hjn
    have hlt : (up j).val < j.val := up_lt hj
    have := j.isLt
    omega

/-- **Inserting keeps a heap a heap.** -/
theorem insert_isHeap (h : StrictWeak lt) (hwho : Lenient lt who) {items : Array (Item V P)}
    (hh : IsHeap lt items) (x : Item V P) : IsHeap lt ((insert items x).answer who) := by
  rw [answer_insert, isHeap_toArray]
  exact siftUp_ordered h hwho (rising_push hh x)

/-! ## Popping -/

theorem settle_contents (items : Array (Item V P)) :
    (settle items).Always fun settled => bag settled = bag items := by
  unfold settle
  split
  · rename_i h
    rw [Inquiry.always_bind]
    exact (siftDown_shuffles items.toVector ⟨0, h⟩).mono fun sunk hsunk => bag_toArray_eq hsunk
  · rfl

theorem settle_isHeap (h : StrictWeak lt) (hwho : Lenient lt who) {items : Array (Item V P)}
    (hs : ∀ hpos : 0 < items.size, Sinking lt (fun _ => True) items.toVector ⟨0, hpos⟩) :
    IsHeap lt ((settle items).answer who) := by
  unfold settle
  split
  · rename_i hpos
    rw [Inquiry.answer_bind]
    exact isHeap_toArray.2 (siftDown_ordered h hwho Downward.all (hs hpos))
  · rename_i hpos
    intro i
    exact absurd (Nat.zero_lt_of_lt i.isLt) hpos

theorem settle_toArray (items : Vector (Item V P) n) :
    settle items.toArray =
      if h : 0 < n then (fun sunk => sunk.toArray) <$> siftDown items ⟨0, h⟩
      else pure items.toArray := by
  obtain ⟨items, rfl⟩ := items
  rfl

/-- An array whose last leaf has taken the place of its root. -/
def uproot (items : Array (Item V P)) (h : 0 < items.size) : Array (Item V P) :=
  (items.swap 0 (items.size - 1) h (Nat.sub_one_lt_of_lt h)).pop

@[simp] theorem size_uproot {items : Array (Item V P)} (h : 0 < items.size) :
    (uproot items h).size = items.size - 1 := by
  simp [uproot]

theorem getElem_uproot {items : Array (Item V P)} (h : 0 < items.size) {i : Nat} (h0 : i ≠ 0)
    (hi : i < (uproot items h).size) (hi' : i < items.size) : (uproot items h)[i] = items[i] := by
  have hlast : i ≠ items.size - 1 := by rw [size_uproot] at hi; omega
  simp only [uproot, Array.getElem_pop]
  exact Array.getElem_swap_of_ne h0 hlast

theorem getElem?_uproot {items : Array (Item V P)} (h : 0 < items.size) {s : Nat}
    (hs : s < items.size - 1) :
    (uproot items h)[s]? = if s = 0 then items[items.size - 1]? else items[s]? := by
  have hlast : s ≠ items.size - 1 := Nat.ne_of_lt hs
  have hslot : s < (uproot items h).size := by rwa [size_uproot]
  rw [Array.getElem?_eq_getElem hslot]
  split
  · rename_i h0
    subst h0
    rw [Array.getElem?_eq_getElem (Nat.sub_one_lt_of_lt h)]
    simp [uproot]
  · rename_i h0
    have hlt : s < items.size := by omega
    rw [getElem_uproot h h0 hslot hlt, Array.getElem?_eq_getElem hlt]

theorem bag_uproot {items : Array (Item V P)} (h : 0 < items.size) :
    items[0] ::ₘ bag (uproot items h) = bag items := by
  have hlast : (items.swap 0 (items.size - 1)).pop.push items[0] =
      items.swap 0 (items.size - 1) := by
    apply Array.ext
    · simp; omega
    · intro i hi hi'
      rw [Array.size_swap] at hi'
      by_cases hlt : i < items.size - 1
      · simp [Array.getElem_push, hlt]
      · obtain rfl : i = items.size - 1 := by omega
        simp [Array.getElem_push]
  rw [← bag_push, uproot, hlast]
  exact Multiset.coe_eq_coe.2 (Array.swap_perm _ _).toList

theorem answer_pop_empty {items : Array (Item V P)} (h : ¬ 0 < items.size) :
    (pop items).answer who = none := by
  rw [pop, dif_neg h]; rfl

theorem answer_pop {items : Array (Item V P)} (h : 0 < items.size) :
    (pop items).answer who = some (items[0], (settle (uproot items h)).answer who) := by
  rw [pop, dif_pos h]; simp [uproot]

/-- A heap whose last leaf has taken the place of its root is in heap order but for the root. -/
theorem sinking_uproot {items : Array (Item V P)} (hh : IsHeap lt items) (h : 0 < items.size)
    (hpos : 0 < (uproot items h).size) :
    Sinking lt (fun _ => True) (uproot items h).toVector ⟨0, hpos⟩ := by
  have hsize := size_uproot h
  constructor
  · intro j hj _ hup
    have hup0 : (up j).val ≠ 0 := fun heq => hup (Fin.ext heq)
    have hlt : j.val < items.size := by have := j.isLt; omega
    have hold := hh ⟨j, hlt⟩ hj
    have hj' := getElem_uproot h (Nat.ne_of_gt hj) j.isLt hlt
    have hup' := getElem_uproot h hup0 (up j).isLt (Nat.lt_trans (up_lt hj) hlt)
    show Item.Leads lt (uproot items h)[(up j).val] (uproot items h)[j.val]
    rw [hj', hup']
    exact hold
  · intro j _ _ h0
    exact absurd h0 (Nat.lt_irrefl 0)

/-- **What a pop leaves of a heap is a heap.** -/
theorem pop_isHeap (h : StrictWeak lt) (hwho : Lenient lt who) {items rest : Array (Item V P)}
    {x : Item V P} (hh : IsHeap lt items) (hpop : (pop items).answer who = some (x, rest)) :
    IsHeap lt rest := by
  by_cases hpos : 0 < items.size
  · rw [answer_pop hpos] at hpop
    cases hpop
    exact settle_isHeap h hwho (sinking_uproot hh hpos)
  · rw [answer_pop_empty hpos] at hpop
    cases hpop

/-- What becomes of an array when it is popped: an empty one has nothing to give, any other gives
its root and keeps the other items. -/
def Popped (items : Array (Item V P)) : Option (Item V P × Array (Item V P)) → Prop
  | none => items = #[]
  | some (x, rest) => items[0]? = some x ∧ bag items = x ::ₘ bag rest

/-- **A pop takes one item, the root, and leaves the others.** -/
theorem pop_contents (items : Array (Item V P)) : (pop items).Always (Popped items) := by
  unfold pop
  split
  · rename_i hpos
    rw [Inquiry.always_bind]
    refine (settle_contents (uproot items hpos)).mono fun rest hrest => ?_
    rw [Inquiry.always_bind, Inquiry.always_report, Inquiry.always_pure]
    refine ⟨Array.getElem?_eq_getElem hpos, ?_⟩
    rw [hrest, bag_uproot hpos]
  · rename_i hpos
    exact Array.size_eq_zero_iff.1 (Nat.eq_zero_of_not_pos hpos)

theorem bag_pop {items rest : Array (Item V P)} {x : Item V P}
    (hpop : (pop items).answer who = some (x, rest)) :
    items[0]? = some x ∧ bag items = x ::ₘ bag rest := by
  have hpopped := (pop_contents items).answer who
  rw [hpop] at hpopped
  exact hpopped

theorem eq_empty_of_pop {items : Array (Item V P)} (hpop : (pop items).answer who = none) :
    items = #[] := by
  have hpopped := (pop_contents items).answer who
  rw [hpop] at hpopped
  exact hpopped

/-! ## Checking -/

theorem checkFrom_eq_true {items : Vector (Item V P) n} {i : Nat} :
    (checkFrom items i).answer who = true ↔
      ∀ j : Fin n, i ≤ j.val → precedesAt who items j (up j) = false := by
  induction i using checkFrom.induct (n := n) with
  | case1 i hi ih =>
    rw [checkFrom, dif_pos hi, Inquiry.answer_bind, answer_ask]
    cases hask : precedesAt who items ⟨i, hi⟩ (up ⟨i, hi⟩) with
    | true =>
      simp only [if_pos, Inquiry.answer_pure, Bool.false_eq_true, false_iff]
      intro hall
      rw [hall ⟨i, hi⟩ (Nat.le_refl i)] at hask
      cases hask
    | false =>
      simp only [Bool.false_eq_true, if_false]
      rw [ih]
      constructor
      · intro hall j hj
        rcases Nat.eq_or_lt_of_le hj with heq | hlt
        · obtain rfl : ⟨i, hi⟩ = j := Fin.ext heq
          exact hask
        · exact hall j hlt
      · exact fun hall j hj => hall j (Nat.le_of_succ_le hj)
  | case2 i hi =>
    rw [checkFrom, dif_neg hi]
    simp only [Inquiry.answer_pure, true_iff]
    intro j hj
    exact absurd (Nat.lt_of_le_of_lt hj j.isLt) hi

/-- **A check answers whether the array is a heap.** -/
theorem check_eq_true {items : Array (Item V P)} :
    (check items).answer who = true ↔ IsHeap who items :=
  checkFrom_eq_true

end Agenda.Heap
