import Agenda.Proofs.Heap.Path
import Mathlib.Data.List.Chain
/-!
# Subtrees

An item sinks within the subtree of its slot, and nothing else in the array changes.

* `Heap.InSubtree` — a slot and all slots below it: those whose way to the root leads through it
  (`inSubtree_iff_iterate`).
* `siftDown_shifts` — whatever is answered, sinking is a shift along a path of children.
* `Descent` — what such a shift does to every slot of the array (`descent_shiftAlong`); the path
  does not leave the subtree (`Descent.inSubtree`).
* `sinking_subtree` — order below the children of the slot is all that its item needs to sink.
* `siftDown_repairs_subtree` — what becomes of the array and of the order of the subtree.
-/

set_option autoImplicit false

namespace Agenda.Heap

variable {V P : Type} {n : Nat} {who : P → P → Bool}

/-! ## Slots below a slot -/

/-- A slot belongs to the subtree of another: it is that one or lies below it. -/
def InSubtree (s j : Nat) : Prop := j = s ∨ Ancestor s j

theorem InSubtree.refl (s : Nat) : InSubtree s s := .inl rfl

theorem InSubtree.le {s j : Nat} (h : InSubtree s j) : s ≤ j := by
  rcases h with rfl | hbelow
  · exact Nat.le_refl j
  · exact Nat.le_of_lt (ancestor_lt hbelow)

theorem InSubtree.downward (s : Nat) : Downward (InSubtree s) := by
  rintro j hj (hp | hbelow)
  · exact .inr (hp ▸ .parent hj)
  · exact .inr (.above hj hbelow)

theorem InSubtree.child {s d c : Nat} (h : InSubtree s d) (hc : IsChild c d) : InSubtree s c := by
  obtain ⟨hpos, rfl⟩ := isChild_iff.1 hc
  exact InSubtree.downward s c hpos h

/-- A slot lies below another if its parent belongs to the subtree of that one. -/
theorem ancestor_iff {s j : Nat} : Ancestor s j ↔ 0 < j ∧ InSubtree s (parent j) := by
  constructor
  · intro h
    cases h with
    | parent hj => exact ⟨hj, .refl _⟩
    | above hj habove => exact ⟨hj, .inr habove⟩
  · rintro ⟨hj, hp⟩
    exact (InSubtree.downward s j hj hp).resolve_left fun heq =>
      Nat.not_le_of_lt (parent_lt hj) (heq ▸ hp.le)

/-- The subtree of a slot is made of the slots from which the way to the root leads through it. -/
theorem inSubtree_iff_iterate {s j : Nat} :
    InSubtree s j ↔ ∃ m < depth j + 1, parent^[m] j = s := by
  unfold InSubtree
  rw [ancestor_iff_iterate]
  constructor
  · rintro (rfl | ⟨m, -, hm, hs⟩)
    · exact ⟨0, Nat.succ_pos _, rfl⟩
    · exact ⟨m, Nat.lt_succ_of_le hm, hs⟩
  · rintro ⟨m, hm, hs⟩
    rcases Nat.eq_zero_or_pos m with rfl | hpos
    · exact .inl hs
    · exact .inr ⟨m, hpos, Nat.le_of_lt_succ hm, hs⟩

instance (s j : Nat) : Decidable (InSubtree s j) := decidable_of_iff _ inSubtree_iff_iterate.symm

/-! ## The path of an item that sinks -/

/-- A way down: every slot is a child of the one before it. -/
def WayDown (slots : List (Fin n)) : Prop := slots.IsChain fun d c : Fin n => IsChild c d

/-- **An item sinks along a path of children**, whatever is answered: their items move up by one
step each. -/
theorem siftDown_shifts (items : Vector (Item V P) n) (s : Fin n) :
    (siftDown items s).Always fun sunk =>
      ∃ path, WayDown (s :: path) ∧ sunk = shiftAlong items s path := by
  induction items, s using siftDown.induct with
  | case1 items s hl ih =>
    rw [siftDown, dif_pos hl, Inquiry.always_bind]
    refine (firstChild_isChild items s hl).mono fun child hchild => ?_
    rw [Inquiry.always_bind, always_ask]
    intro yes
    cases yes with
    | true =>
      refine (ih child.val child.property).mono fun sunk hsunk => ?_
      obtain ⟨path, hway, rfl⟩ := hsunk
      exact ⟨child.val :: path, List.IsChain.cons_cons hchild hway, rfl⟩
    | false => exact ⟨[], List.IsChain.singleton s, rfl⟩
  | case2 items s hl =>
    rw [siftDown, dif_neg hl]
    exact ⟨[], List.IsChain.singleton s, rfl⟩

/-- What becomes of an array when the item of a slot goes down a path: every slot of the path gets
the item of the one after it, the last one gets the item that goes down, and no other slot changes. -/
structure Descent (items sunk : Vector (Item V P) n) (s : Fin n) (path : List (Fin n)) : Prop where
  way : WayDown (s :: path)
  steps : ∀ (i : Nat) (d c : Fin n), (s :: path)[i]? = some d → (s :: path)[i + 1]? = some c →
    sunk.get d = items.get c
  last : sunk.get ((s :: path).getLast (List.cons_ne_nil s path)) = items.get s
  others : ∀ t, t ∉ s :: path → sunk.get t = items.get t

theorem descent_shiftAlong (items : Vector (Item V P) n) {s : Fin n} {path : List (Fin n)}
    (hway : WayDown (s :: path)) :
    Descent items (shiftAlong items s path) s path := by
  have hrising : (s :: path).Pairwise (· < ·) :=
    List.isChain_iff_pairwise.1 (List.IsChain.imp (fun _ _ hc => lt_of_isChild hc) hway)
  have hnodup : (s :: path).Nodup := hrising.imp Fin.ne_of_lt
  refine ⟨hway, fun i d c hd hc => get_shiftAlong_step hnodup hd hc, ?_, fun t ht => ?_⟩
  · apply get_shiftAlong_last
    rw [List.getLast_eq_getElem]
    exact List.getElem?_eq_getElem _
  · obtain ⟨hs, hpath⟩ := List.ne_and_not_mem_of_not_mem_cons ht
    exact get_shiftAlong_of_notMem hs hpath

/-- The path does not leave the subtree. -/
theorem Descent.inSubtree {items sunk : Vector (Item V P) n} {s : Fin n} {path : List (Fin n)}
    (h : Descent items sunk s path) {t : Fin n} (ht : t ∈ s :: path) : InSubtree s t := by
  rcases List.mem_cons.1 ht with rfl | hmem
  · exact .refl t
  · exact List.IsChain.cons_induction (fun d : Fin n => InSubtree s d) path h.way
      (fun _ _ hc hd => hd.child hc) (.refl s) t hmem

/-! ## The order of the subtree -/

/-- Order below the children of a slot is all that its item needs to sink. -/
theorem sinking_subtree {items : Vector (Item V P) n} {s : Fin n}
    (hbelow : ∀ j : Fin n, InSubtree s j → j ≠ s → ¬ IsChild j s →
      precedesAt who items j (up j) = false) : Sinking who (InSubtree s) items s := by
  constructor
  · intro j hj hup hne
    apply hbelow j (InSubtree.downward s j hj hup)
    · rintro rfl
      exact Nat.not_le_of_lt (up_lt hj) hup.le
    · intro hchild
      exact hne (Fin.ext (isChild_iff.1 hchild).2)
  · intro j _ _ hs hup
    exact absurd hup.le (Nat.not_le_of_lt (up_lt hs))

/-- **Sinking repairs a subtree and touches nothing else.**  Whatever is answered, the item of a
slot goes down a path of children, whose items move up by one step each; all other slots are as they
were, those outside the subtree of the slot in particular.  Under a strict weak order, where no item
of the subtree precedes its parent, apart from the item of the slot itself and those of its children,
no item of the subtree precedes its parent afterwards, apart from the root of the subtree; and none
of them precedes that root. -/
theorem siftDown_repairs_subtree (items : Vector (Item V P) n) (s : Fin n) :
    ((siftDown items s).Always fun sunk =>
      (∃ path, Descent items sunk s path) ∧
        ∀ t : Fin n, ¬ InSubtree s t → sunk.get t = items.get t) ∧
    ∀ who : P → P → Bool, StrictWeak who →
      (∀ j : Fin n, InSubtree s j → j ≠ s → ¬ IsChild j s →
        precedesAt who items j (up j) = false) →
      let sunk := (siftDown items s).answer who
      (∀ j : Fin n, InSubtree s j → j ≠ s → precedesAt who sunk j (up j) = false) ∧
        ∀ j : Fin n, InSubtree s j → precedesAt who sunk j s = false := by
  constructor
  · refine (siftDown_shifts items s).mono fun sunk hsunk => ?_
    obtain ⟨path, hway, rfl⟩ := hsunk
    have hdescent := descent_shiftAlong items hway
    exact ⟨⟨path, hdescent⟩, fun t ht => hdescent.others t fun hmem => ht (hdescent.inSubtree hmem)⟩
  · intro who h hbelow sunk
    -- the subtree goes on downwards, so it can be put in order on its own
    have ho : Ordered who (InSubtree s) sunk :=
      siftDown_ordered h h.lenient (InSubtree.downward s) (sinking_subtree hbelow)
    refine ⟨fun j hj hne => ?_, fun j hj => ?_⟩
    · have hanc : Ancestor s j := hj.resolve_left fun heq => hne (Fin.ext heq)
      obtain ⟨hpos, hup⟩ := ancestor_iff.1 hanc
      exact ho j hpos hup
    · rcases hj with heq | hanc
      · obtain rfl : j = s := Fin.ext heq
        exact h.irrefl _
      · exact ho.leads_within h (InSubtree.downward s) hanc (.refl s) s.isLt j.isLt

/-- The left child of the root sinks two levels, to the only child of a slot at the end of the
array.  The root and the other half of the array are in no order. -/
theorem siftDown_repairs_subtree_of_left_child :
    let who := (QueueOrder.min.ranking : Ranking Nat).precedes
    let items : Vector (Item Nat Nat) 10 := #v[⟨0, 50⟩, ⟨1, 40⟩, ⟨2, 7⟩, ⟨3, 20⟩, ⟨4, 10⟩, ⟨5, 3⟩,
      ⟨6, 9⟩, ⟨7, 25⟩, ⟨8, 20⟩, ⟨9, 15⟩]
    let sunk := (siftDown items 1).answer who
    StrictWeak who ∧
      (∀ j : Fin 10, InSubtree 1 j → j ≠ 1 → ¬ IsChild j 1 →
        precedesAt who items j (up j) = false) ∧
      sunk.toList.map Item.priority = [50, 10, 7, 20, 15, 3, 9, 25, 20, 40] ∧
      (∃ path, Descent items sunk 1 path) ∧
      (∀ t : Fin 10, ¬ InSubtree 1 t → sunk.get t = items.get t) ∧
      (∀ j : Fin 10, InSubtree 1 j → j ≠ 1 → precedesAt who sunk j (up j) = false) ∧
      ∀ j : Fin 10, InSubtree 1 j → precedesAt who sunk j 1 = false := by
  intro who items sunk
  have h : StrictWeak who := QueueOrder.strictWeak .min
  have hbelow : ∀ j : Fin 10, InSubtree 1 j → j ≠ 1 → ¬ IsChild j 1 →
      precedesAt who items j (up j) = false := by decide +kernel
  obtain ⟨halways, horder⟩ := siftDown_repairs_subtree items 1
  obtain ⟨hpath, hframe⟩ := halways.answer who
  obtain ⟨hparents, hroot⟩ := horder who h hbelow
  exact ⟨h, hbelow, by decide +kernel, hpath, hframe, hparents, hroot⟩

end Agenda.Heap
