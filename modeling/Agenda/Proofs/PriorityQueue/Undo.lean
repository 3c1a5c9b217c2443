import Agenda.Proofs.PriorityQueue.Insertion
/-!
# Insertions undone

An item that precedes all others rises from the new slot to the root, and the pop that follows takes
it off again.

* `Heap.Untied` — no two items of an array tie.
* `Heap.Raised` — the item of a slot lies a number of steps above it, and the items that it has passed
  lie one step below their slots.
* `Raised.chosen_eq` — in a heap without ties the item goes back the way it came, and at the end of
  the way nothing has changed (`siftDown_raised`).
* `raised_uproot_insert` — this is what a pop finds after such an insertion, but for the new item.
* `pop_undoes_insert` — hence **inserting an item that precedes all others and popping leaves a queue
  as it was**, slot by slot.
-/

set_option autoImplicit false

namespace Agenda.Heap

variable {V P : Type} {n m : Nat} {who : P → P → Bool} {items v : Vector (Item V P) n} {i : Fin n}

/-! ## Heaps without ties -/

/-- No two items tie. -/
def Untied (who : P → P → Bool) (items : Vector (Item V P) n) : Prop :=
  ∀ s t : Fin n, s ≠ t → ¬ Tied who (items.get s).priority (items.get t).priority

/-- In a heap without ties, every item precedes all items below it. -/
theorem Untied.precedes_below (hties : Untied who items) (h : StrictWeak who)
    (ho : Ordered who (fun _ => True) items) {a s : Fin n} (has : Ancestor a s) :
    precedesAt who items a s = true := by
  have hleads : who (items.get s).priority (items.get a).priority = false :=
    ho.leads_below h has a.isLt s.isLt
  have hne : a ≠ s := Fin.ne_of_lt (ancestor_lt has)
  cases hask : precedesAt who items a s with
  | true => rfl
  | false => exact absurd ⟨hask, hleads⟩ (hties a s hne)

/-! ## The way back -/

theorem iterate_up_succ (i : Fin n) (m : Nat) : up (up^[m] i) = up^[m + 1] i :=
  (Function.iterate_succ_apply' up m i).symm

theorem iterate_up_injOn {l : Nat} (hl : l ≤ depth i) (hm : m ≤ depth i)
    (h : up^[l] i = up^[m] i) : l = m := by
  apply iterate_parent_injOn hl hm
  rw [← iterate_up_val, ← iterate_up_val, h]

theorem iterate_up_pos (h : m < depth i) : 0 < (up^[m] i).val := by
  rw [iterate_up_val]
  exact iterate_parent_pos h

/-- The item of a slot lies so many steps above it; the items on the way lie one step below their
slots, and all others lie where they did. -/
structure Raised (items v : Vector (Item V P) n) (i : Fin n) (m : Nat) : Prop where
  le_depth : m ≤ depth i
  steps : ∀ l < m, v.get (up^[l] i) = items.get (up^[l + 1] i)
  top : v.get (up^[m] i) = items.get i
  others : ∀ s, (∀ l ≤ m, s ≠ up^[l] i) → v.get s = items.get s

theorem Raised.eq_self (hr : Raised items v i 0) : v = items := by
  apply Vector.ext
  intro s hs
  show v.get ⟨s, hs⟩ = items.get ⟨s, hs⟩
  by_cases hsi : ⟨s, hs⟩ = i
  · rw [hsi]
    exact hr.top
  · apply hr.others
    intro l hl
    obtain rfl : l = 0 := Nat.le_zero.1 hl
    exact hsi

/-- An exchange with the last item that was passed is a step back. -/
theorem Raised.lower (hr : Raised items v i (m + 1)) :
    Raised items (exchange v (up^[m + 1] i) (up^[m] i)) i m := by
  have hdepth := hr.le_depth
  refine ⟨by omega, fun l hl => ?_, ?_, fun s hs => ?_⟩
  · have htop : up^[l] i ≠ up^[m + 1] i := fun heq => by
      have := iterate_up_injOn (by omega) (by omega) heq
      omega
    have hnext : up^[l] i ≠ up^[m] i := fun heq => by
      have := iterate_up_injOn (by omega) (by omega) heq
      omega
    rw [exchange_other v htop hnext]
    exact hr.steps l (Nat.lt_succ_of_lt hl)
  · rw [exchange_right]
    exact hr.top
  · by_cases htop : s = up^[m + 1] i
    · rw [htop, exchange_left]
      exact hr.steps m (Nat.lt_succ_self m)
    · rw [exchange_other v htop (hs m (Nat.le_refl m))]
      apply hr.others
      intro l hl
      rcases Nat.eq_or_lt_of_le hl with rfl | hlt
      · exact htop
      · exact hs l (Nat.le_of_lt_succ hlt)

/-- The children of the slot that was reached are the one that was left last, which now holds the item
from above, and one whose item that item precedes.  So the way down is the way up. -/
theorem Raised.chosen_eq (h : StrictWeak who) (ho : Ordered who (fun _ => True) items)
    (hties : Untied who items) (hr : Raised items v i (m + 1)) (hl : left (up^[m + 1] i) < n) :
    chosen who v (up^[m + 1] i) hl = up^[m] i := by
  have hdepth := hr.le_depth
  have hup : up (up^[m] i) = up^[m + 1] i := iterate_up_succ i m
  have hpos : 0 < (up^[m] i).val := iterate_up_pos hdepth
  have hleft : v.get (up^[m] i) = items.get (up^[m + 1] i) := hr.steps m (Nat.lt_succ_self m)
  by_contra hne
  let s := chosen who v (up^[m + 1] i) hl
  have hsup : up s = up^[m + 1] i := up_chosen who v _ hl
  have hspos : 0 < s.val := Nat.zero_lt_of_lt (lt_chosen who v _ hl)
  have hsame : v.get s = items.get s := by
    apply hr.others
    intro l hlm heq
    rcases Nat.eq_or_lt_of_le hlm with rfl | hlt
    · exact up_ne hspos (hsup.trans heq.symm)
    · rw [heq, iterate_up_succ] at hsup
      have hlm' : l + 1 = m + 1 := iterate_up_injOn (by omega) hdepth hsup
      obtain rfl : l = m := Nat.succ.inj hlm'
      exact hne heq
  have hbelow : precedesAt who items (up^[m + 1] i) s = true :=
    hties.precedes_below h ho (hsup ▸ .parent hspos)
  have hleads : who (v.get (up^[m] i)).priority (v.get s).priority = false :=
    chosen_leads h h.lenient v hl hpos hup
  rw [hleft, hsame] at hleads
  exact Bool.false_ne_true (hleads.symm.trans hbelow)

/-- **In a heap without ties, a raised item sinks back into its slot**, and all others go back into
theirs. -/
theorem siftDown_raised (h : StrictWeak who) (ho : Ordered who (fun _ => True) items)
    (hties : Untied who items) (hr : Raised items v i m) :
    (siftDown v (up^[m] i)).answer who = items := by
  induction m generalizing v with
  | zero =>
    obtain rfl := hr.eq_self
    apply siftDown_eq_self
    rintro j hj rfl
    exact ho j hj trivial
  | succ m ih =>
    have hdepth := hr.le_depth
    have hpos : 0 < (up^[m] i).val := iterate_up_pos hdepth
    have hl : left (up^[m + 1] i) < n := left_lt hpos (iterate_up_succ i m)
    -- the item from above precedes the one that has to go back
    have hask : precedesAt who v (up^[m] i) (up^[m + 1] i) = true := by
      have hbelow : precedesAt who items (up^[m + 1] i) i = true := by
        apply hties.precedes_below h ho
        rw [iterate_up_val, ancestor_iff_iterate]
        exact ⟨m + 1, Nat.le_add_left 1 m, hdepth, rfl⟩
      unfold precedesAt at hbelow ⊢
      rwa [hr.steps m (Nat.lt_succ_self m), hr.top]
    rw [answer_siftDown who v _ hl, hr.chosen_eq h ho hties hl, hask]
    exact ih hr.lower

/-! ## Popping a new item -/

theorem get_eq_of_getElem? {k : Nat} {w : Vector (Item V P) k} {s : Fin n} {t : Fin k}
    (h : v.toArray[s.val]? = w.toArray[t.val]?) : v.get s = w.get t := by
  rw [getElem?_toArray, getElem?_toArray] at h
  exact Option.some.inj h

/-- An item that precedes all others rises all the way to the root. -/
theorem rises_eq_depth {items : Array (Item V P)} {x : Item V P}
    (hx : ∀ y ∈ items, who x.priority y.priority = true) :
    rises who items x = depth items.size := by
  obtain ⟨⟨hdepth, -⟩, hgreatest⟩ := isGreatest_rises who items x
  apply Nat.le_antisymm hdepth
  apply hgreatest
  refine ⟨Nat.le_refl _, fun l hl hle => ?_⟩
  have hlt : parent^[l] items.size < items.size :=
    ancestor_lt (ancestor_iff_iterate.2 ⟨l, hl, hle, rfl⟩)
  exact ⟨items[parent^[l] items.size], Array.getElem?_eq_getElem hlt, hx _ (Array.getElem_mem hlt)⟩

/-- **Once the new item is off the root**, the item above the new slot is raised to the root, and the
others are where the insertion has left them. -/
theorem raised_uproot_insert {items : Array (Item V P)} {x : Item V P} (hpos : 0 < items.size)
    (hx : ∀ y ∈ items, who x.priority y.priority = true)
    (hgrown : 0 < ((insert items x).answer who).size)
    {rest : Vector (Item V P) items.size}
    (hrest : rest.toArray = uproot ((insert items x).answer who) hgrown) :
    Raised items.toVector rest ⟨parent items.size, parent_lt hpos⟩ (depth (parent items.size)) := by
  have hmoves := insert_moves who items x
  rw [rises_eq_depth hx, depth_eq_succ hpos] at hmoves
  obtain ⟨hsize, hsteps, -, hothers⟩ := hmoves
  have hslot : ∀ s < items.size, rest.toArray[s]? =
      if s = 0 then ((insert items x).answer who)[items.size]?
      else ((insert items x).answer who)[s]? := by
    intro s hs
    rw [hrest, getElem?_uproot hgrown (by omega), hsize, Nat.add_sub_cancel]
  have hway : ∀ l, (up^[l] (⟨parent items.size, parent_lt hpos⟩ : Fin items.size)).val =
      parent^[l + 1] items.size := fun l => iterate_up_val _ l
  refine ⟨Nat.le_refl _, fun l hl => ?_, ?_, fun s hs => ?_⟩
  · have hne : parent^[l + 1] items.size ≠ 0 :=
      Nat.ne_of_gt (iterate_parent_pos (i := parent items.size) hl)
    apply get_eq_of_getElem?
    rw [hslot _ (Fin.isLt _), hway, hway, if_neg hne]
    exact hsteps (l + 1) (Nat.succ_lt_succ hl)
  · have hzero : parent^[depth (parent items.size) + 1] items.size = 0 :=
      iterate_parent_depth (parent items.size)
    apply get_eq_of_getElem?
    rw [hslot _ (Fin.isLt _), hway, if_pos hzero]
    exact hsteps 0 (Nat.succ_pos _)
  · have hoff : ∀ l ≤ depth (parent items.size) + 1, s.val ≠ parent^[l] items.size := by
      intro l hl heq
      cases l with
      | zero => exact Nat.ne_of_lt s.isLt heq
      | succ l => exact hs l (Nat.le_of_succ_le_succ hl) (Fin.ext (heq.trans (hway l).symm))
    have hzero : s.val ≠ 0 := by
      intro h0
      apply hoff (depth (parent items.size) + 1) (Nat.le_refl _)
      rw [h0]
      exact (iterate_parent_depth (parent items.size)).symm
    apply get_eq_of_getElem?
    rw [hslot _ s.isLt, if_neg hzero]
    exact hothers s s.isLt hoff

/-- **A pop takes back an insertion**, in a heap without ties whose items the new one precedes. -/
theorem pop_insert (h : StrictWeak who) {items : Array (Item V P)} (hh : IsHeap who items)
    (hties : Untied who items.toVector) {x : Item V P}
    (hx : ∀ y ∈ items, who x.priority y.priority = true) :
    (pop ((insert items x).answer who)).answer who = some (x, items) := by
  obtain ⟨hsize, -, hroot, -⟩ := insert_moves who items x
  rw [rises_eq_depth hx, iterate_parent_depth] at hroot
  have hgrown : 0 < ((insert items x).answer who).size := hsize ▸ Nat.succ_pos _
  have hfirst : ((insert items x).answer who)[0] = x :=
    Option.some.inj ((Array.getElem?_eq_getElem hgrown).symm.trans hroot)
  have hrest : (uproot ((insert items x).answer who) hgrown).size = items.size := by
    rw [size_uproot, hsize, Nat.add_sub_cancel]
  let rest : Vector (Item V P) items.size := ⟨_, hrest⟩
  have hsettle : (settle rest.toArray).answer who = items := by
    rw [settle_toArray]
    split
    · rename_i hpos
      have ho : Ordered who (fun _ => True) items.toVector := isHeap_iff_ordered.1 hh
      have hraised : Raised items.toVector rest ⟨parent items.size, parent_lt hpos⟩
          (depth (parent items.size)) := raised_uproot_insert hpos hx hgrown rfl
      have hsunk := siftDown_raised h ho hties hraised
      have hroot : up^[depth (parent items.size)]
          (⟨parent items.size, parent_lt hpos⟩ : Fin items.size) = ⟨0, hpos⟩ := by
        apply Fin.ext
        rw [iterate_up_val]
        exact iterate_parent_depth (parent items.size)
      rw [hroot] at hsunk
      rw [Inquiry.answer_map, hsunk]
    · rename_i hpos
      have hempty : items.size = 0 := Nat.eq_zero_of_not_pos hpos
      have hnothing : rest.toArray = #[] := Array.size_eq_zero_iff.1 (hrest.trans hempty)
      exact hnothing.trans (Array.size_eq_zero_iff.1 hempty).symm
  rw [answer_pop hgrown, hfirst]
  exact congrArg (fun settled => some (x, settled)) hsettle

end Agenda.Heap

namespace Agenda.PriorityQueue

variable {V P C : Type}

/-- **Inserting an item that precedes all others and popping undo each other.**  Under a strict weak
order, a queue whose items form a heap without ties hands out the new item and is then as it was
before, slot by slot. -/
theorem pop_undoes_insert {who : P → P → Bool} (h : StrictWeak who) (q : PriorityQueue V P C)
    (hheap : (q.check).answer who = true) (hties : Heap.Untied who q.items.toVector)
    (x : Item V P) (hx : ∀ y ∈ q.items, who x.priority y.priority = true) :
    (q.insert x >>= fun grown => grown.pop).answer who = (some x, q) := by
  have hpop := Heap.pop_insert h (Heap.check_eq_true.1 hheap) hties hx
  rw [Inquiry.answer_bind, answer_insert, pop, Inquiry.answer_bind, hpop]
  rfl

/-- A new least item in a heap of five: it comes to the root past two others, and the way back leads
along a right child and a left one. -/
theorem pop_undoes_insert_two_levels :
    let who := (QueueOrder.min.ranking : Ranking Int64).precedes
    let q : PriorityQueue String Int64 Unit :=
      ⟨#[⟨"a", 1⟩, ⟨"b", 4⟩, ⟨"c", 2⟩, ⟨"d", 9⟩, ⟨"e", 7⟩], ()⟩
    let x : Item String Int64 := ⟨"first", Int64.minValue⟩
    StrictWeak who ∧ (q.check).answer who = true ∧ Heap.Untied who q.items.toVector ∧
      (∀ y ∈ q.items, who x.priority y.priority = true) ∧
      ((q.insert x).answer who).items.toList =
        [⟨"first", Int64.minValue⟩, ⟨"b", 4⟩, ⟨"a", 1⟩, ⟨"d", 9⟩, ⟨"e", 7⟩, ⟨"c", 2⟩] ∧
      (q.insert x >>= fun grown => grown.pop).answer who = (some x, q) := by
  intro who q x
  have h : StrictWeak who := QueueOrder.strictWeak .min
  have hheap : (q.check).answer who = true := by decide +kernel
  have hties : Heap.Untied who q.items.toVector := by
    unfold Heap.Untied Tied
    decide +kernel
  have hx : ∀ y ∈ q.items, who x.priority y.priority = true := by decide +kernel
  exact ⟨h, hheap, hties, hx, by decide +kernel, pop_undoes_insert h q hheap hties x hx⟩

end Agenda.PriorityQueue
