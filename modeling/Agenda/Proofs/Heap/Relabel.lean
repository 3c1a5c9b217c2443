import Agenda.Proofs.Heap.Repair
/-!
# Other priorities for the same items

A heap reads priorities only to ask about them, so it does not matter what they are as long as the
answers are the same.

* `Item.relabel`, `Inquiry.relabel` — an item filed under another priority, and an inquiry that asks
  about other priorities.
* `Inquiry.answer_relabel`, `asked_relabel` — relabelled questions are answered as the ranking answers
  for the new priorities; they are asked in the same order.
* `siftUp_relabel`, `siftDown_relabel`, `build_relabel`, `insert_relabel`, `pop_relabel`,
  `check_relabel` — every heap operation on relabelled items is the same operation, relabelled.
-/

set_option autoImplicit false

namespace Agenda

variable {V P Q α β : Type} {n : Nat}

/-! ## Items and inquiries -/

/-- Files the value of an item under another priority. -/
def Item.relabel (f : P → Q) (x : Item V P) : Item V Q := ⟨x.value, f x.priority⟩

namespace Inquiry

/-- Asks the same questions about other priorities. -/
def relabel (f : P → Q) : Inquiry P α → Inquiry Q α
  | done x => done x
  | ask a b next => ask (f a) (f b) fun yes => (next yes).relabel f
  | note e next => note e (next.relabel f)

section Rules

variable (f : P → Q)

@[simp] theorem relabel_pure (x : α) : (pure x : Inquiry P α).relabel f = pure x := rfl

@[simp] theorem relabel_precedes (a b : P) :
    (precedes a b).relabel f = precedes (f a) (f b) := rfl

@[simp] theorem relabel_report (e : Event) :
    (report e : Inquiry P Unit).relabel f = report e := rfl

@[simp] theorem relabel_bind (t : Inquiry P α) (g : α → Inquiry P β) :
    (t >>= g).relabel f = t.relabel f >>= fun x => (g x).relabel f := by
  show (t.bind g).relabel f = (t.relabel f).bind fun x => (g x).relabel f
  induction t with
  | done x => rfl
  | ask a b next ih => exact congrArg (ask (f a) (f b)) (funext ih)
  | note e next ih => exact congrArg (note e) ih

@[simp] theorem relabel_map (g : α → β) (t : Inquiry P α) :
    (g <$> t).relabel f = g <$> t.relabel f := by
  rw [← bind_pure_comp, relabel_bind, ← bind_pure_comp]
  rfl

/-- **Relabelled questions are answered for the new priorities.** -/
theorem answer_relabel (who : Q → Q → Bool) (t : Inquiry P α) :
    (t.relabel f).answer who = t.answer fun a b => who (f a) (f b) := by
  induction t with
  | done x => rfl
  | ask a b next ih => exact ih _
  | note e next ih => exact ih

/-- **The same questions are asked**, in the same order and about the new priorities. -/
theorem asked_relabel (who : Q → Q → Bool) (t : Inquiry P α) :
    (t.relabel f).asked who = (t.asked fun a b => who (f a) (f b)).map (Prod.map f f) := by
  induction t with
  | done x => rfl
  | ask a b next ih => exact congrArg ((f a, f b) :: ·) (ih _)
  | note e next ih => exact ih

end Rules

end Inquiry

/-! ## Heaps -/

namespace Heap

variable (f : P → Q)

theorem ask_relabel (items : Vector (Item V P) n) (i j : Fin n) :
    ask (items.map (Item.relabel f)) i j = (ask items i j).relabel f := by
  simp [ask, Item.relabel]

theorem swap_relabel (items : Vector (Item V P) n) (i j : Nat) (hi : i < n) (hj : j < n) :
    (items.map (Item.relabel f)).swap i j hi hj = (items.swap i j hi hj).map (Item.relabel f) := by
  ext k hk
  simp only [Vector.getElem_map, Vector.getElem_swap]
  split
  · rfl
  · split
    · rfl
    · rfl

theorem siftUp_relabel (items : Vector (Item V P) n) (i : Fin n) :
    siftUp (items.map (Item.relabel f)) i =
      Vector.map (Item.relabel f) <$> (siftUp items i).relabel f := by
  induction items, i using siftUp.induct with
  | case1 items i hi ih =>
    rw [siftUp.eq_def items i, siftUp.eq_def (items.map _) i, dif_pos hi, dif_pos hi, ask_relabel,
      Inquiry.relabel_bind, map_bind]
    refine bind_congr fun yes => ?_
    cases yes with
    | true => simpa [swap_relabel] using ih
    | false => simp
  | case2 items i hi =>
    rw [siftUp.eq_def items i, siftUp.eq_def (items.map _) i, dif_neg hi, dif_neg hi]
    simp

theorem firstChild_relabel (items : Vector (Item V P) n) (i : Nat) (hl : left i < n) :
    firstChild (items.map (Item.relabel f)) i hl = (firstChild items i hl).relabel f := by
  unfold firstChild
  split
  · rw [ask_relabel, Inquiry.relabel_bind]
    refine bind_congr fun yes => ?_
    cases yes with
    | true => simp
    | false => simp
  · simp

theorem siftDown_relabel (items : Vector (Item V P) n) (i : Fin n) :
    siftDown (items.map (Item.relabel f)) i =
      Vector.map (Item.relabel f) <$> (siftDown items i).relabel f := by
  induction items, i using siftDown.induct with
  | case1 items i hl ih =>
    rw [siftDown.eq_def items i, siftDown.eq_def (items.map _) i, dif_pos hl, dif_pos hl,
      firstChild_relabel, Inquiry.relabel_bind, map_bind]
    refine bind_congr fun first => ?_
    obtain ⟨child, below⟩ := first
    dsimp only
    rw [ask_relabel, Inquiry.relabel_bind, map_bind]
    refine bind_congr fun yes => ?_
    cases yes with
    | true => simpa [swap_relabel] using ih child below
    | false => simp
  | case2 items i hl =>
    rw [siftDown.eq_def items i, siftDown.eq_def (items.map _) i, dif_neg hl, dif_neg hl]
    simp

theorem siftDownBelow_relabel (items : Vector (Item V P) n) (k : Nat) (hk : k ≤ n) :
    siftDownBelow (items.map (Item.relabel f)) k hk =
      Vector.map (Item.relabel f) <$> (siftDownBelow items k hk).relabel f := by
  induction k generalizing items with
  | zero => simp [siftDownBelow]
  | succ k ih =>
    rw [siftDownBelow, siftDownBelow, siftDown_relabel, Inquiry.relabel_bind, map_bind,
      bind_map_left]
    refine bind_congr fun sunk => ?_
    exact ih sunk (Nat.le_of_lt hk)

theorem checkFrom_relabel (items : Vector (Item V P) n) (i : Nat) :
    checkFrom (items.map (Item.relabel f)) i = (checkFrom items i).relabel f := by
  induction i using checkFrom.induct (n := n) with
  | case1 i hi ih =>
    rw [checkFrom.eq_def items i, checkFrom.eq_def (items.map _) i, dif_pos hi, dif_pos hi,
      ask_relabel, Inquiry.relabel_bind]
    refine bind_congr fun yes => ?_
    cases yes with
    | true => simp
    | false => simpa using ih
  | case2 i hi =>
    rw [checkFrom.eq_def items i, checkFrom.eq_def (items.map _) i, dif_neg hi, dif_neg hi]
    simp

/-! ## The repairs -/

theorem build_toArray (items : Vector (Item V P) n) :
    build items.toArray =
      if n < 2 then pure items.toArray
      else do
        Inquiry.report (.heapifying n)
        return (← siftDownBelow items (n / 2) (Nat.div_le_self n 2)).toArray := by
  obtain ⟨items, rfl⟩ := items
  rfl

theorem build_relabel (items : Array (Item V P)) :
    build (items.map (Item.relabel f)) =
      Array.map (Item.relabel f) <$> (build items).relabel f := by
  have hold := build_toArray items.toVector
  have hnew := build_toArray (items.toVector.map (Item.relabel f))
  rw [Vector.toArray_map] at hnew
  rw [show items = items.toVector.toArray from rfl, hold, hnew]
  split
  · simp
  · rw [siftDownBelow_relabel]
    simp

/-- An item is inserted by letting it rise in the array that it was added to. -/
theorem insert_eq {items : Array (Item V P)} {x : Item V P} {grown : Vector (Item V P) n}
    (hgrown : items.push x = grown.toArray) (hleaf : items.size < n) :
    insert items x = do
      let risen ← siftUp grown ⟨items.size, hleaf⟩
      Inquiry.report (.inserted (items.size + 1))
      return risen.toArray := by
  obtain ⟨grown, rfl⟩ := grown
  obtain rfl : items.push x = grown := hgrown
  rfl

theorem insert_relabel (items : Array (Item V P)) (x : Item V P) :
    insert (items.map (Item.relabel f)) (x.relabel f) =
      Array.map (Item.relabel f) <$> (insert items x).relabel f := by
  let grown := (items.push x).toVector
  have hleaf : items.size < (items.push x).size := size_lt_push items x
  have hold := insert_eq (show items.push x = grown.toArray from rfl) hleaf
  have hsize : (items.map (Item.relabel f)).size = items.size := Array.size_map
  have hgrown : (items.map (Item.relabel f)).push (x.relabel f) =
      (grown.map (Item.relabel f)).toArray := by simp [grown]
  have hnew := insert_eq hgrown (hsize.trans_lt hleaf)
  rw [hold, hnew]
  simp only [hsize]
  rw [siftUp_relabel]
  simp

theorem settle_relabel (items : Array (Item V P)) :
    settle (items.map (Item.relabel f)) =
      Array.map (Item.relabel f) <$> (settle items).relabel f := by
  have hold := settle_toArray items.toVector
  have hnew := settle_toArray (items.toVector.map (Item.relabel f))
  rw [Vector.toArray_map] at hnew
  rw [show items = items.toVector.toArray from rfl, hold, hnew]
  split
  · rw [siftDown_relabel]
    simp
  · simp

theorem uproot_relabel {items : Array (Item V P)} (h : 0 < items.size)
    (h' : 0 < (items.map (Item.relabel f)).size) :
    uproot (items.map (Item.relabel f)) h' = (uproot items h).map (Item.relabel f) := by
  apply Array.ext
  · simp
  · intro i hi hi'
    simp only [uproot, Array.getElem_pop, Array.getElem_map, Array.getElem_swap, Array.size_map]
    split
    · rfl
    · split
      · rfl
      · rfl

theorem pop_eq_uproot {items : Array (Item V P)} (h : 0 < items.size) :
    pop items = do
      let rest ← settle (uproot items h)
      Inquiry.report (.removed rest.size)
      return some (items[0], rest) := by
  rw [pop, dif_pos h]
  rfl

theorem pop_relabel (items : Array (Item V P)) :
    pop (items.map (Item.relabel f)) =
      Option.map (Prod.map (Item.relabel f) (Array.map (Item.relabel f))) <$>
        (pop items).relabel f := by
  have hsize : (items.map (Item.relabel f)).size = items.size := Array.size_map
  by_cases h : 0 < items.size
  · have h' : 0 < (items.map (Item.relabel f)).size := hsize ▸ h
    rw [pop_eq_uproot h, pop_eq_uproot h', uproot_relabel f h h', settle_relabel]
    simp
  · have h' : ¬ 0 < (items.map (Item.relabel f)).size := hsize ▸ h
    rw [pop, pop, dif_neg h, dif_neg h']
    simp

theorem check_toArray (items : Vector (Item V P) n) :
    check items.toArray = checkFrom items 1 := by
  obtain ⟨items, rfl⟩ := items
  rfl

theorem check_relabel (items : Array (Item V P)) :
    check (items.map (Item.relabel f)) = (check items).relabel f := by
  have hold := check_toArray items.toVector
  have hnew := check_toArray (items.toVector.map (Item.relabel f))
  rw [Vector.toArray_map, checkFrom_relabel, ← hold] at hnew
  exact hnew

end Heap

end Agenda
