import Agenda.Heap
import Agenda.Proofs.Ranking
/-!
# Heap order

* `Heap.IsChild` — the slots right below a slot; where there is one, there is the left one
  (`left_lt`).
* `Heap.Ordered` — heap order of the slots whose parent lies in some region.  Over all slots it is
  `Heap.IsHeap` (`isHeap_toArray`, `isHeap_iff_ordered`).
* `Ordered.leads_within`, `Ordered.leads_below` — heap order between a slot and its parent carries
  over to all ancestors, in a region that goes on downwards and over all slots.
* `ordered_iff_leads_below` — so heap order means that no item precedes one above it.
* `IsHeap.root_leads` — every slot but the root has the root among its ancestors (`Ancestor.root`);
  hence no item of a heap precedes the root.
-/

set_option autoImplicit false

namespace Agenda.Heap

variable {V P : Type} {n : Nat} {lt : P → P → Bool}

/-! ## The tree -/

theorem eq_left_or_right {j : Nat} (hj : 0 < j) : j = left (parent j) ∨ j = right (parent j) := by
  unfold left right parent; omega

theorem up_lt {j : Fin n} (hj : 0 < j.val) : up j < j := parent_lt hj

theorem up_ne {j : Fin n} (hj : 0 < j.val) : up j ≠ j := Fin.ne_of_lt (up_lt hj)

/-- A slot that has a child has a left one. -/
theorem left_lt {i j : Fin n} (hj : 0 < j.val) (hji : up j = i) : left i < n := by
  have hval : parent j = i.val := congrArg Fin.val hji
  have hside := eq_left_or_right hj
  rw [hval] at hside
  unfold left right at *
  omega

/-- One slot lies right below another. -/
def IsChild (c i : Nat) : Prop := c = left i ∨ c = right i

instance (c i : Nat) : Decidable (IsChild c i) :=
  inferInstanceAs (Decidable (c = left i ∨ c = right i))

theorem isChild_iff {c i : Nat} : IsChild c i ↔ 0 < c ∧ parent c = i := by
  unfold IsChild left right parent; omega

theorem lt_of_isChild {c i : Nat} (h : IsChild c i) : i < c := by
  obtain ⟨hc, rfl⟩ := isChild_iff.1 h
  exact parent_lt hc

theorem ancestor_lt {a i : Nat} (h : Ancestor a i) : a < i := by
  induction h with
  | parent hi => exact parent_lt hi
  | above hi _ ih => exact Nat.lt_trans ih (parent_lt hi)

theorem Ancestor.root {i : Nat} (hi : 0 < i) : Ancestor 0 i := by
  induction i using Nat.strongRecOn with
  | ind i ih =>
    rcases Nat.eq_zero_or_pos (Heap.parent i) with hp | hp
    · rw [← hp]; exact .parent hi
    · exact .above hi (ih _ (parent_lt hi) hp)

/-! ## Order over a region -/

/-- No item precedes its parent, as far as the parent lies in a region. -/
def Ordered (lt : P → P → Bool) (region : Nat → Prop) (items : Vector (Item V P) n) : Prop :=
  ∀ j : Fin n, 0 < j.val → region (up j) → Item.Leads lt (items.get (up j)) (items.get j)

/-- A region that contains the children of its slots. -/
def Downward (region : Nat → Prop) : Prop := ∀ j, 0 < j → region (parent j) → region j

theorem Downward.all : Downward fun _ => True := fun _ _ _ => trivial

theorem Downward.from (k : Nat) : Downward fun i => k ≤ i :=
  fun j _ h => Nat.le_trans h (parent_le j)

theorem isHeap_toArray {items : Vector (Item V P) n} :
    IsHeap lt items.toArray ↔ Ordered lt (fun _ => True) items := by
  obtain ⟨items, rfl⟩ := items
  exact ⟨fun h j hj _ => h j hj, fun h j hj => h j hj trivial⟩

theorem isHeap_iff_ordered {items : Array (Item V P)} :
    IsHeap lt items ↔ Ordered lt (fun _ => True) items.toVector :=
  @isHeap_toArray V P items.size lt items.toVector

/-- What a region contains, it contains with all that lies below. -/
theorem Downward.below {region : Nat → Prop} (hreg : Downward region) {a i : Nat}
    (hai : Ancestor a i) (ha : region a) : region i := by
  induction hai with
  | parent hpos => exact hreg _ hpos ha
  | above hpos _ ih => exact hreg _ hpos (ih ha)

/-- In a region that is in heap order, no item precedes one above it. -/
theorem Ordered.leads_within (h : StrictWeak lt) {region : Nat → Prop} (hreg : Downward region)
    {items : Vector (Item V P) n} (ho : Ordered lt region items) {a i : Nat} (hai : Ancestor a i)
    (hra : region a) (ha : a < n) (hi : i < n) : Item.Leads lt items[a] items[i] := by
  induction hai with
  | parent hpos => exact ho ⟨_, hi⟩ hpos hra
  | above hpos hap ih =>
    have hp := Nat.lt_of_le_of_lt (parent_le _) hi
    exact (ih hra ha hp).trans h (ho ⟨_, hi⟩ hpos (hreg.below hap hra))

theorem Ordered.leads_below (h : StrictWeak lt) {items : Vector (Item V P) n}
    (ho : Ordered lt (fun _ => True) items) {a i : Nat} (hai : Ancestor a i) (ha : a < n)
    (hi : i < n) : Item.Leads lt items[a] items[i] :=
  ho.leads_within h Downward.all hai trivial ha hi

/-- **Order between every slot and its parent is order between every slot and all slots above
it.** -/
theorem ordered_iff_leads_below (h : StrictWeak lt) {items : Vector (Item V P) n} :
    Ordered lt (fun _ => True) items ↔
      ∀ i a : Fin n, Ancestor a i → Item.Leads lt (items.get a) (items.get i) := by
  constructor
  · intro ho i a hai
    exact ho.leads_below h hai a.isLt i.isLt
  · intro hall i hi _
    exact hall i (up i) (.parent hi)

/-- **No item of a heap precedes the root.** -/
theorem IsHeap.root_leads (h : StrictWeak lt) {items : Array (Item V P)} (hh : IsHeap lt items)
    (hpos : 0 < items.size) {x : Item V P} (hx : x ∈ items) : Item.Leads lt items[0] x := by
  obtain ⟨i, hi, rfl⟩ := Array.mem_iff_getElem.1 hx
  rcases Nat.eq_zero_or_pos i with rfl | hi0
  · exact Item.Leads.refl h _
  · exact (isHeap_iff_ordered.1 hh).leads_below h (Ancestor.root hi0) hpos hi

end Agenda.Heap
