import Agenda.Proofs.Heap.Depth
import Agenda.Proofs.Heap.Sift
/-!
# Paths of sifted items

A sift moves the items of one path of slots and leaves all others where they are.

* `shiftAlong` — the items of a path move one slot back along it, and the first of them goes to its
  end.  What this does to every slot of the array is said once for all paths
  (`get_shiftAlong_step`, `get_shiftAlong_last`, `get_shiftAlong_of_notMem`).
* `passed` — the slots above a slot whose items an item passes when it rises.
* `siftUp_eq_shiftAlong`, `siftUp_moves` — rising is a shift along these slots, whatever the ranking.
-/

set_option autoImplicit false

namespace Agenda.Heap

variable {V P : Type} {n : Nat} {who : P → P → Bool}

/-! ## Shifts -/

/-- The items of the path from a slot along a list of others move one slot back along it; the first
of them goes to the end of the path. -/
def shiftAlong : Vector (Item V P) n → Fin n → List (Fin n) → Vector (Item V P) n
  | items, _, [] => items
  | items, i, j :: path => shiftAlong (exchange items i j) j path

/-- Slots off the path keep their items. -/
theorem get_shiftAlong_of_notMem {items : Vector (Item V P) n} {i s : Fin n} {path : List (Fin n)}
    (hi : s ≠ i) (hs : s ∉ path) : (shiftAlong items i path).get s = items.get s := by
  induction path generalizing items i with
  | nil => rfl
  | cons j path ih =>
    obtain ⟨hj, hrest⟩ := List.ne_and_not_mem_of_not_mem_cons hs
    calc (shiftAlong (exchange items i j) j path).get s
        = (exchange items i j).get s := ih hj hrest
      _ = items.get s := exchange_other items hi hj

/-- The first item goes to the end of the path. -/
theorem get_shiftAlong_last {items : Vector (Item V P) n} {i s : Fin n} {path : List (Fin n)}
    (hs : (i :: path)[path.length]? = some s) :
    (shiftAlong items i path).get s = items.get i := by
  induction path generalizing items i with
  | nil =>
    obtain rfl : i = s := Option.some.inj hs
    rfl
  | cons j path ih =>
    calc (shiftAlong (exchange items i j) j path).get s
        = (exchange items i j).get j := ih hs
      _ = items.get i := exchange_right items i j

/-- Every other slot of the path gets the item of the slot after it. -/
theorem get_shiftAlong_step {items : Vector (Item V P) n} {i s t : Fin n} {path : List (Fin n)}
    (hnodup : (i :: path).Nodup) {m : Nat} (hs : (i :: path)[m]? = some s)
    (ht : path[m]? = some t) : (shiftAlong items i path).get s = items.get t := by
  induction path generalizing items i m with
  | nil => cases ht
  | cons j path ih =>
    obtain ⟨hi, hrest⟩ := List.nodup_cons.1 hnodup
    obtain ⟨hij, hipath⟩ := List.ne_and_not_mem_of_not_mem_cons hi
    cases m with
    | zero =>
      obtain rfl : i = s := Option.some.inj hs
      obtain rfl : j = t := Option.some.inj ht
      calc (shiftAlong (exchange items i j) j path).get i
          = (exchange items i j).get i := get_shiftAlong_of_notMem hij hipath
        _ = items.get j := exchange_left items i j
    | succ m =>
      -- the slot after next is none of the two that were exchanged
      have htpath : t ∈ path := List.mem_of_getElem? ht
      have hti : t ≠ i := fun heq => hipath (heq ▸ htpath)
      have htj : t ≠ j := fun heq => (List.nodup_cons.1 hrest).1 (heq ▸ htpath)
      calc (shiftAlong (exchange items i j) j path).get s
          = (exchange items i j).get t := ih hrest hs ht
        _ = items.get t := exchange_other items hti htj

/-! ## The slots that an item passes -/

/-- The slots above a slot, as far as their items are passed by one of the given priority that rises
from there. -/
def passed (who : P → P → Bool) (items : Vector (Item V P) n) (priority : P) (i : Fin n) :
    List (Fin n) :=
  if 0 < i.val ∧ who priority (items.get (up i)).priority = true then
    up i :: passed who items priority (up i)
  else []
termination_by i.val
decreasing_by exact parent_lt (And.left ‹_›)

theorem iterate_up_val (i : Fin n) (m : Nat) : (up^[m] i).val = parent^[m] i.val := by
  induction m with
  | zero => rfl
  | succ m ih =>
    rw [Function.iterate_succ_apply', Function.iterate_succ_apply', ← ih]
    rfl

theorem mem_passed_lt {items : Vector (Item V P) n} {priority : P} {i s : Fin n}
    (hs : s ∈ passed who items priority i) : s < i := by
  induction i using passed.induct who items priority with
  | case1 i hask ih =>
    rw [passed, if_pos hask] at hs
    rcases List.mem_cons.1 hs with rfl | hs
    · exact up_lt hask.1
    · exact Fin.lt_trans (ih hs) (up_lt hask.1)
  | case2 i hask =>
    rw [passed, if_neg hask] at hs
    cases hs

theorem nodup_passed (who : P → P → Bool) (items : Vector (Item V P) n) (priority : P)
    (i : Fin n) : (i :: passed who items priority i).Nodup := by
  induction i using passed.induct who items priority with
  | case1 i hask ih =>
    refine List.nodup_cons.2 ⟨fun hmem => Nat.lt_irrefl i (mem_passed_lt hmem), ?_⟩
    rw [passed, if_pos hask]
    exact ih
  | case2 i hask =>
    rw [passed, if_neg hask]
    exact List.nodup_cons.2 ⟨List.not_mem_nil, List.nodup_nil⟩

/-- Only items above the slot are looked at. -/
theorem passed_congr {items items' : Vector (Item V P) n} {priority : P} {i : Fin n}
    (h : ∀ s < i, items.get s = items'.get s) :
    passed who items priority i = passed who items' priority i := by
  induction i using passed.induct who items priority with
  | case1 i hask ih =>
    have hup := h (up i) (up_lt hask.1)
    have hrest := ih fun s hs => h s (Fin.lt_trans hs (up_lt hask.1))
    rw [passed.eq_def who items, passed.eq_def who items', ← hup, if_pos hask, if_pos hask, hrest]
  | case2 i hask =>
    rw [passed.eq_def who items, passed.eq_def who items', if_neg hask, if_neg]
    rintro ⟨hi, hask'⟩
    rw [← h (up i) (up_lt hi)] at hask'
    exact hask ⟨hi, hask'⟩

/-- The slots that are passed are the first ones on the way to the root, and they end before the first
one whose item is not preceded. -/
structure Climb (who : P → P → Bool) (items : Vector (Item V P) n) (priority : P) (i : Fin n)
    (path : List (Fin n)) : Prop where
  le_depth : path.length ≤ depth i
  on_way : ∀ m < path.length, path[m]? = some (up^[m + 1] i)
  precedes : ∀ m < path.length, who priority (items.get (up^[m + 1] i)).priority = true
  rests : path.length < depth i →
    who priority (items.get (up^[path.length + 1] i)).priority = false

theorem passed_climb (who : P → P → Bool) (items : Vector (Item V P) n) (priority : P)
    (i : Fin n) : Climb who items priority i (passed who items priority i) := by
  induction i using passed.induct who items priority with
  | case1 i hask ih =>
    have hdepth : depth i = depth (up i) + 1 := depth_eq_succ hask.1
    rw [passed, if_pos hask]
    constructor
    · rw [List.length_cons, hdepth]
      exact Nat.succ_le_succ ih.le_depth
    · intro m hm
      cases m with
      | zero => rfl
      | succ m => exact ih.on_way m (Nat.lt_of_succ_lt_succ hm)
    · intro m hm
      cases m with
      | zero => exact hask.2
      | succ m => exact ih.precedes m (Nat.lt_of_succ_lt_succ hm)
    · intro hlt
      rw [List.length_cons, hdepth] at hlt
      exact ih.rests (Nat.lt_of_succ_lt_succ hlt)
  | case2 i hask =>
    rw [passed, if_neg hask]
    constructor
    · exact Nat.zero_le _
    · intro m hm
      exact absurd hm (Nat.not_lt_zero m)
    · intro m hm
      exact absurd hm (Nat.not_lt_zero m)
    · intro hlt
      have hi : 0 < i.val := iterate_parent_pos hlt
      exact Bool.eq_false_iff.2 fun hyes => hask ⟨hi, hyes⟩

/-! ## Rising -/

/-- **An item rises along the slots that it passes**: their items move down by one step each. -/
theorem siftUp_eq_shiftAlong (items : Vector (Item V P) n) (i : Fin n) :
    (siftUp items i).answer who =
      shiftAlong items i (passed who items (items.get i).priority i) := by
  induction items, i using siftUp.induct with
  | case1 items i hi ih =>
    rw [answer_siftUp who items i hi, passed]
    cases hask : precedesAt who items i (up i) with
    | true =>
      -- above the parent nothing has changed, so the item passes what it would have passed
      have hsame : passed who (exchange items i (up i)) (items.get i).priority (up i) =
          passed who items (items.get i).priority (up i) := by
        apply passed_congr
        intro s hs
        exact exchange_other items (Fin.ne_of_lt (Fin.lt_trans hs (up_lt hi))) (Fin.ne_of_lt hs)
      have hmoved : (exchange items i (up i)).get (up i) = items.get i :=
        exchange_right items i (up i)
      have hpass : 0 < i.val ∧ who (items.get i).priority (items.get (up i)).priority = true :=
        ⟨hi, hask⟩
      rw [if_pos hpass]
      show (siftUp (exchange items i (up i)) (up i)).answer who =
        shiftAlong (exchange items i (up i)) (up i)
          (passed who items (items.get i).priority (up i))
      rw [← hsame, ← hmoved]
      exact ih
    | false =>
      have hstop : ¬ (0 < i.val ∧
          who (items.get i).priority (items.get (up i)).priority = true) := fun h =>
        Bool.false_ne_true (hask.symm.trans h.2)
      rw [if_neg hstop]
      rfl
  | case2 items i hi =>
    rw [siftUp, dif_neg hi, passed, if_neg fun h => hi h.1]
    rfl

/-- Rising slot by slot: each slot that is left gets the item of its parent, the last slot that is
reached gets the item that rises, and no other slot changes. -/
theorem siftUp_moves (who : P → P → Bool) (items : Vector (Item V P) n) (i : Fin n) :
    let risen := (siftUp items i).answer who
    let j := (passed who items (items.get i).priority i).length
    (∀ m < j, risen.get (up^[m] i) = items.get (up^[m + 1] i)) ∧
      risen.get (up^[j] i) = items.get i ∧
      ∀ s, (∀ m ≤ j, s ≠ up^[m] i) → risen.get s = items.get s := by
  intro risen j
  have hclimb := passed_climb who items (items.get i).priority i
  have hnodup := nodup_passed who items (items.get i).priority i
  have hpath : ∀ m ≤ j, (i :: passed who items (items.get i).priority i)[m]? = some (up^[m] i) := by
    intro m hm
    cases m with
    | zero => rfl
    | succ m => exact hclimb.on_way m hm
  have hrisen : risen = shiftAlong items i (passed who items (items.get i).priority i) :=
    siftUp_eq_shiftAlong items i
  rw [hrisen]
  refine ⟨fun m hm => ?_, ?_, fun s hs => ?_⟩
  · exact get_shiftAlong_step hnodup (hpath m (Nat.le_of_lt hm)) (hclimb.on_way m hm)
  · exact get_shiftAlong_last (hpath j (Nat.le_refl j))
  · apply get_shiftAlong_of_notMem
    · exact hs 0 (Nat.zero_le j)
    · intro hmem
      obtain ⟨m, hm⟩ := List.mem_iff_getElem?.1 hmem
      have hlt : m < j := (List.getElem?_eq_some_iff.1 hm).1
      rw [hclimb.on_way m hlt] at hm
      exact hs (m + 1) hlt (Option.some.inj hm).symm

end Agenda.Heap
