import Agenda.Proofs.Heap.Depth
import Agenda.Proofs.Heap.Repair
import Mathlib.Algebra.BigOperators.Group.Finset.Basic
import Mathlib.Algebra.Order.BigOperators.Group.Finset
/-!
# How much a heap asks

Every turn of a sift asks at most two questions and leads one level on, so what matters is how many
levels there are.

* `height` — the number of levels below a slot.  The heights of all slots add up to less than the
  number of slots (`sum_height_le`).
* `mostAsked_siftUp_le`, `mostAsked_siftDown_le` — a sift asks once for every level above its slot,
  or twice for every level below it.
* `mostAsked_build_le`, `mostAsked_insert_le`, `mostAsked_pop_le` — hence building asks less than
  twice for every item, and the other repairs as often as there are levels, or twice as often.
-/

set_option autoImplicit false

namespace Agenda.Heap

variable {V P : Type} {n : Nat}

/-! ## Levels -/

/-- The number of levels below a slot, in an array of some size. -/
def height (n i : Nat) : Nat := (n / (i + 1)).log2

theorem height_root (n : Nat) : height n 0 = n.log2 := by
  rw [height, Nat.div_one]

theorem log2_le_log2 {m n : Nat} (h : m ≤ n) : m.log2 ≤ n.log2 := by
  rw [Nat.log2_eq_log_two, Nat.log2_eq_log_two]
  exact Nat.log_mono_right h

/-- There is a level less below a child than below its parent. -/
theorem height_succ_le {j : Nat} (hj : 0 < j) (hjn : j < n) :
    height n j + 1 ≤ height n (parent j) := by
  have hchild : (parent j + 1) * 2 ≤ j + 1 := by unfold parent; omega
  have hfits : (parent j + 1) * 2 ≤ n := by omega
  have htwo : 2 ≤ n / (parent j + 1) := (Nat.le_div_iff_mul_le (Nat.succ_pos _)).2 (by omega)
  have hhalf : n / (j + 1) ≤ n / (parent j + 1) / 2 := by
    rw [Nat.div_div_eq_div_mul]
    exact Nat.div_le_div_left hchild (by omega)
  unfold height
  rw [Nat.log2_def (n / (parent j + 1)), if_pos htwo]
  exact Nat.succ_le_succ (log2_le_log2 hhalf)

/-- A slot of the first half has a level more below it than in an array of half the size. -/
theorem height_of_lt_half {i : Nat} (hi : i < n / 2) : height n i = height (n / 2) i + 1 := by
  have htwo : 2 ≤ n / (i + 1) := (Nat.le_div_iff_mul_le (Nat.succ_pos i)).2 (by omega)
  unfold height
  rw [Nat.log2_def, if_pos htwo, Nat.div_div_eq_div_mul, Nat.div_div_eq_div_mul, Nat.mul_comm]

/-- There is nothing below the slots of the second half. -/
theorem height_of_half_le {i : Nat} (hi : n / 2 ≤ i) : height n i = 0 := by
  have hone : n / (i + 1) < 2 := (Nat.div_lt_iff_lt_mul (Nat.succ_pos i)).2 (by omega)
  unfold height
  rw [Nat.log2_def, if_neg (by omega)]

/-- **The heights of all slots add up to less than the number of slots.** -/
theorem sum_height_le (n : Nat) : ∑ i ∈ Finset.range n, height n i ≤ n - 1 := by
  induction n using Nat.strongRecOn with
  | ind n ih =>
    rcases Nat.lt_or_ge n 2 with hsmall | htwo
    · have hzero : ∀ i ∈ Finset.range n, height n i = 0 := by
        intro i _
        apply height_of_half_le
        omega
      rw [Finset.sum_eq_zero hzero]
      exact Nat.zero_le _
    · have hhalf : Finset.range (n / 2) ⊆ Finset.range n :=
        Finset.range_subset_range.2 (Nat.div_le_self n 2)
      have hbelow := ih (n / 2) (by omega)
      calc ∑ i ∈ Finset.range n, height n i
          = ∑ i ∈ Finset.range (n / 2), height n i := by
            refine (Finset.sum_subset hhalf fun i _ hi => ?_).symm
            exact height_of_half_le (Nat.le_of_not_lt fun hlt => hi (Finset.mem_range.2 hlt))
        _ = ∑ i ∈ Finset.range (n / 2), (height (n / 2) i + 1) :=
            Finset.sum_congr rfl fun i hi => height_of_lt_half (Finset.mem_range.1 hi)
        _ = ∑ i ∈ Finset.range (n / 2), height (n / 2) i + n / 2 := by
            rw [Finset.sum_add_distrib, Finset.sum_const_nat fun _ _ => rfl, Finset.card_range,
              Nat.mul_one]
        _ ≤ n - 1 := by omega

/-! ## Sifts -/

/-- One question for every level above the slot. -/
theorem mostAsked_siftUp_le (items : Vector (Item V P) n) (i : Fin n) :
    (siftUp items i).mostAsked ≤ depth i := by
  induction items, i using siftUp.induct with
  | case1 items i hi ih =>
    have hdepth : depth i = 1 + depth (up i) := by
      rw [depth_eq_succ hi, Nat.add_comm]
      rfl
    rw [siftUp, dif_pos hi, hdepth]
    apply Inquiry.mostAsked_bind_le
    rw [always_ask]
    intro yes
    cases yes with
    | true => exact ih
    | false => exact Nat.zero_le _
  | case2 items i hi =>
    rw [siftUp, dif_neg hi]
    exact Nat.zero_le _

theorem mostAsked_firstChild_le (items : Vector (Item V P) n) (i : Nat) (hl : left i < n) :
    (firstChild items i hl).mostAsked ≤ 1 := by
  unfold firstChild
  split
  · show _ ≤ 1 + 0
    apply Inquiry.mostAsked_bind_le
    rw [always_ask]
    intro yes
    cases yes with
    | true => exact Nat.le_refl 0
    | false => exact Nat.le_refl 0
  · exact Nat.zero_le 1

/-- Two questions for every level below the slot. -/
theorem mostAsked_siftDown_le (items : Vector (Item V P) n) (i : Fin n) :
    (siftDown items i).mostAsked ≤ 2 * height n i := by
  induction items, i using siftDown.induct with
  | case1 items i hl ih =>
    have hone : 1 ≤ height n i := by
      have hlevel := height_succ_le (Nat.zero_lt_of_lt (lt_left i.val)) hl
      rw [parent_left] at hlevel
      omega
    have hturn : (siftDown items i).mostAsked ≤
        (firstChild items i hl).mostAsked + (1 + (2 * height n i - 2)) := by
      rw [siftDown, dif_pos hl]
      apply Inquiry.mostAsked_bind_le
      refine (firstChild_isChild items i hl).mono fun child hchild => ?_
      have hlevel := height_succ_le (Nat.zero_lt_of_lt child.property) child.val.isLt
      rw [(isChild_iff.1 hchild).2] at hlevel
      apply Inquiry.mostAsked_bind_le
      rw [always_ask]
      intro yes
      cases yes with
      | true =>
        have hrest := ih child.val child.property
        simp only [if_true]
        omega
      | false => exact Nat.zero_le _
    have hfirst := mostAsked_firstChild_le items i hl
    omega
  | case2 items i hl =>
    rw [siftDown, dif_neg hl]
    exact Nat.zero_le _

theorem mostAsked_siftDownBelow_le (items : Vector (Item V P) n) (k : Nat) (hk : k ≤ n) :
    (siftDownBelow items k hk).mostAsked ≤ 2 * ∑ i ∈ Finset.range k, height n i := by
  induction k generalizing items with
  | zero => exact Nat.zero_le _
  | succ k ih =>
    rw [siftDownBelow, Finset.sum_range_succ]
    have hlast : (siftDown items ⟨k, hk⟩).mostAsked ≤ 2 * height n k :=
      mostAsked_siftDown_le items ⟨k, hk⟩
    have hrest : (siftDown items ⟨k, hk⟩).Always fun sunk =>
        (siftDownBelow sunk k (Nat.le_of_lt hk)).mostAsked ≤
          2 * ∑ i ∈ Finset.range k, height n i :=
      Inquiry.always_of_forall _ fun sunk => ih sunk (Nat.le_of_lt hk)
    have hboth := Inquiry.mostAsked_bind_le hrest
    omega

/-! ## The repairs -/

/-- **Building asks less than twice for every item.** -/
theorem mostAsked_build_le (items : Array (Item V P)) :
    (build items).mostAsked ≤ 2 * (items.size - 1) := by
  unfold build
  split
  · exact Nat.zero_le _
  · have hhalf : Finset.range (items.size / 2) ⊆ Finset.range items.size :=
      Finset.range_subset_range.2 (Nat.div_le_self _ _)
    have hsifts : (siftDownBelow items.toVector (items.size / 2) (Nat.div_le_self _ _)).mostAsked ≤
        2 * (items.size - 1) :=
      calc _ ≤ 2 * ∑ i ∈ Finset.range (items.size / 2), height items.size i :=
            mostAsked_siftDownBelow_le _ _ _
        _ ≤ 2 * ∑ i ∈ Finset.range items.size, height items.size i :=
            Nat.mul_le_mul_left 2 (Finset.sum_le_sum_of_subset hhalf)
        _ ≤ 2 * (items.size - 1) := Nat.mul_le_mul_left 2 (sum_height_le items.size)
    exact Nat.le_trans (Inquiry.mostAsked_bind_pure_le _ _) hsifts

/-- **Inserting asks no more than once for every level.** -/
theorem mostAsked_insert_le (items : Array (Item V P)) (x : Item V P) :
    (insert items x).mostAsked ≤ (items.size + 1).log2 :=
  calc (insert items x).mostAsked
      ≤ (siftUp (items.push x).toVector (leaf items x)).mostAsked + 0 :=
        Inquiry.mostAsked_bind_le (Inquiry.always_of_forall _ fun _ => Nat.le_refl 0)
    _ ≤ (items.size + 1).log2 := mostAsked_siftUp_le _ _

theorem mostAsked_settle_le (items : Array (Item V P)) :
    (settle items).mostAsked ≤ 2 * items.size.log2 := by
  unfold settle
  split
  · rename_i hpos
    have hsift := mostAsked_siftDown_le items.toVector ⟨0, hpos⟩
    rw [height_root] at hsift
    exact Nat.le_trans (Inquiry.mostAsked_bind_pure_le _ _) hsift
  · exact Nat.zero_le _

/-- **Popping asks no more than twice for every level** that is left. -/
theorem mostAsked_pop_le (items : Array (Item V P)) :
    (pop items).mostAsked ≤ 2 * (items.size - 1).log2 := by
  unfold pop
  split
  · rename_i hpos
    have hsettle := mostAsked_settle_le (uproot items hpos)
    rw [size_uproot] at hsettle
    have hrest : (settle (uproot items hpos)).Always fun rest =>
        (do
          Inquiry.report (.removed rest.size)
          return some (items[0], rest) : Inquiry P _).mostAsked ≤ 0 :=
      Inquiry.always_of_forall _ fun _ => Nat.le_refl 0
    exact Nat.le_trans (Inquiry.mostAsked_bind_le hrest) hsettle
  · exact Nat.zero_le _

end Agenda.Heap
