import Agenda.Proofs.Heap.Order
import Mathlib.Data.Nat.Log
import Mathlib.Logic.Function.Iterate
/-!
# Depth

* `Heap.depth` — the number of slots above a slot: as many steps to the parent lead to the root, and
  no fewer (`iterate_parent_depth`, `iterate_parent_pos`).
* `ancestor_iff_iterate` — the slots above a slot are those that these steps lead to, each of them
  once (`iterate_parent_injOn`).
-/

set_option autoImplicit false

namespace Agenda.Heap

/-- The number of slots above a slot. -/
def depth (i : Nat) : Nat := (i + 1).log2

@[simp] theorem depth_zero : depth 0 = 0 := rfl

/-- A slot lies one step deeper than its parent. -/
theorem depth_eq_succ {i : Nat} (hi : 0 < i) : depth i = depth (parent i) + 1 := by
  have hhalf : (i + 1) / 2 = parent i + 1 := by unfold parent; omega
  have htwo : 2 ≤ i + 1 := by omega
  unfold depth
  rw [Nat.log2_def, if_pos htwo, hhalf]

theorem depth_eq_zero_iff {i : Nat} : depth i = 0 ↔ i = 0 := by
  constructor
  · intro h
    rcases Nat.eq_zero_or_pos i with h0 | hpos
    · exact h0
    · rw [depth_eq_succ hpos] at h
      cases h
  · rintro rfl
    exact depth_zero

/-! ## The way to the root -/

/-- Every step to the parent takes one off the depth, until there is none left. -/
theorem depth_iterate_parent (i m : Nat) : depth (parent^[m] i) = depth i - m := by
  induction m with
  | zero => rfl
  | succ m ih =>
    rw [Function.iterate_succ_apply']
    rcases Nat.eq_zero_or_pos (parent^[m] i) with h0 | hpos
    · rw [h0] at ih ⊢
      rw [depth_zero] at ih
      show 0 = _
      omega
    · rw [depth_eq_succ hpos] at ih
      omega

theorem iterate_parent_depth (i : Nat) : parent^[depth i] i = 0 := by
  rw [← depth_eq_zero_iff, depth_iterate_parent, Nat.sub_self]

theorem iterate_parent_pos {i m : Nat} (hm : m < depth i) : 0 < parent^[m] i := by
  apply Nat.pos_of_ne_zero
  intro h0
  have hdepth := depth_iterate_parent i m
  rw [h0, depth_zero] at hdepth
  omega

/-- The way to the root does not come to a slot twice. -/
theorem iterate_parent_injOn {i l m : Nat} (hl : l ≤ depth i) (hm : m ≤ depth i)
    (h : parent^[l] i = parent^[m] i) : l = m := by
  have hdepth := depth_iterate_parent i l
  rw [h, depth_iterate_parent] at hdepth
  omega

/-- **The slots above a slot are those on the way to the root.** -/
theorem ancestor_iff_iterate {a i : Nat} :
    Ancestor a i ↔ ∃ m, 1 ≤ m ∧ m ≤ depth i ∧ parent^[m] i = a := by
  constructor
  · intro h
    induction h with
    | @parent i hi =>
      have hdepth := depth_eq_succ hi
      exact ⟨1, by omega, by omega, rfl⟩
    | @above a i hi _ ih =>
      obtain ⟨m, hm, hle, rfl⟩ := ih
      have hdepth := depth_eq_succ hi
      exact ⟨m + 1, by omega, by omega, rfl⟩
  · rintro ⟨m, hm, hle, rfl⟩
    induction m generalizing i with
    | zero => omega
    | succ m ih =>
      have hi : 0 < i := iterate_parent_pos (m := 0) (by omega)
      rw [depth_eq_succ hi] at hle
      rcases Nat.eq_zero_or_pos m with rfl | hpos
      · exact .parent hi
      · exact .above hi (ih hpos (by omega))

/-- Of two slots on the way to the root, the one that is come to later lies above the other. -/
theorem ancestor_iterate {i l m : Nat} (hlm : l < m) (hm : m ≤ depth i) :
    Ancestor (parent^[m] i) (parent^[l] i) := by
  rw [ancestor_iff_iterate]
  refine ⟨m - l, by omega, ?_, ?_⟩
  · rw [depth_iterate_parent]
    omega
  · rw [← Function.iterate_add_apply, Nat.sub_add_cancel (Nat.le_of_lt hlm)]

end Agenda.Heap
