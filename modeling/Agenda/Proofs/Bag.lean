import Agenda.PriorityQueue.Operation
import Agenda.Proofs.Ranking
import Mathlib.Data.Multiset.AddSub
import Mathlib.Order.Antisymmetrization
/-!
# What a bag of items allows

A client need not know how a queue stores its items: all that matters is the bag of them.

* `Bag.Takes`, `Bag.Drains` — taking one item that no other precedes, once and repeatedly.
* `Bag.Step`, `Bag.Run` — the replies that a bag allows to requests, and the bag afterwards.  Which
  of several tied items is taken is left open.
* `Drains.split`, `Drains.pairwise`, `Drains.leads` — what is taken is a part of the bag, in order,
  and nothing that stays behind precedes it.
* `Drains.tied` — two ways to empty a bag agree at every place but for ties.
-/

set_option autoImplicit false

namespace Agenda.Bag

open PriorityQueue

variable {V P : Type} {lt : P → P → Bool} {bag rest : Multiset (Item V P)} {xs : List (Item V P)}

/-- Some item of the bag that no item of it precedes. -/
structure First (lt : P → P → Bool) (bag : Multiset (Item V P)) (x : Item V P) : Prop where
  mem : x ∈ bag
  leads : ∀ y ∈ bag, Item.Leads lt x y

/-- Takes one copy of an item that no item of the bag precedes. -/
structure Takes (lt : P → P → Bool) (bag : Multiset (Item V P)) (x : Item V P)
    (rest : Multiset (Item V P)) : Prop where
  split : bag = x ::ₘ rest
  leads : ∀ y ∈ bag, Item.Leads lt x y

/-- Takes items one after the other. -/
inductive Drains (lt : P → P → Bool) :
    Multiset (Item V P) → List (Item V P) → Multiset (Item V P) → Prop where
  | stop (bag : Multiset (Item V P)) : Drains lt bag [] bag
  | take {bag rest last : Multiset (Item V P)} {x : Item V P} {xs : List (Item V P)} :
    Takes lt bag x rest → Drains lt rest xs last → Drains lt bag (x :: xs) last

/-- What a bag allows as the reply to a request, and what it holds afterwards. -/
inductive Step (lt : P → P → Bool) :
    Multiset (Item V P) → Operation V P → Reply V P → Multiset (Item V P) → Prop where
  | insert (bag : Multiset (Item V P)) (x : Item V P) :
    Step lt bag (.insert x) .done (x ::ₘ bag)
  | push (bag : Multiset (Item V P)) (value : V) (priority : P) :
    Step lt bag (.push value priority) .done (⟨value, priority⟩ ::ₘ bag)
  | extend (bag : Multiset (Item V P)) (xs : List (Item V P)) :
    Step lt bag (.extend xs) .done (xs + bag)
  | pop {bag rest : Multiset (Item V P)} {x : Item V P} :
    Takes lt bag x rest → Step lt bag .pop (.item? (some x)) rest
  | popEmpty : Step lt 0 .pop (.item? none) 0
  | remove {bag rest : Multiset (Item V P)} {x : Item V P} :
    Takes lt bag x rest → Step lt bag .remove (.removal (.ok x)) rest
  | removeEmpty : Step lt 0 .remove (.removal (.error .empty)) 0
  | peek {bag : Multiset (Item V P)} {x : Item V P} :
    First lt bag x → Step lt bag .peek (.item? (some x)) bag
  | peekEmpty : Step lt 0 .peek (.item? none) 0
  | size (bag : Multiset (Item V P)) : Step lt bag .size (.count bag.card) bag
  | isEmpty {bag : Multiset (Item V P)} {b : Bool} :
    (b = true ↔ bag = 0) → Step lt bag .isEmpty (.flag b) bag
  /-- How its items are stored is not a matter of the bag. -/
  | check (bag : Multiset (Item V P)) (b : Bool) : Step lt bag .check (.flag b) bag
  | clear (bag : Multiset (Item V P)) : Step lt bag .clear .done 0
  /-- A drain takes as many items as its limit, if there are that many. -/
  | drain {bag rest : Multiset (Item V P)} {xs : List (Item V P)} (limit : Option Nat) :
    Drains lt bag xs rest → xs.length = min (limit.getD bag.card) bag.card →
    Step lt bag (.drain limit) (.drained bag.card xs rest.card) rest
  | sorted {bag : Multiset (Item V P)} {xs : List (Item V P)} :
    Drains lt bag xs 0 → Step lt bag .sorted (.items xs) bag

/-- The replies that a bag allows to requests in turn, and what it holds in the end. -/
inductive Run (lt : P → P → Bool) : Multiset (Item V P) → List (Operation V P) →
    List (Reply V P) → Multiset (Item V P) → Prop where
  | nil (bag : Multiset (Item V P)) : Run lt bag [] [] bag
  | cons {bag bag' last : Multiset (Item V P)} {op : Operation V P} {reply : Reply V P}
      {ops : List (Operation V P)} {replies : List (Reply V P)} :
    Step lt bag op reply bag' → Run lt bag' ops replies last →
    Run lt bag (op :: ops) (reply :: replies) last

/-! ## Draining -/

theorem Drains.split (h : Drains lt bag xs rest) : bag = xs + rest := by
  induction h with
  | stop bag => simp
  | take htake _ ih => rw [htake.split, ih, ← Multiset.cons_coe, Multiset.cons_add]

theorem Drains.card (h : Drains lt bag xs rest) : bag.card = xs.length + rest.card := by
  rw [h.split, Multiset.card_add, Multiset.coe_card]

theorem Drains.mem {x : Item V P} (h : Drains lt bag xs rest) (hx : x ∈ xs) : x ∈ bag := by
  rw [h.split]
  exact Multiset.mem_add.2 (.inl (Multiset.mem_coe.2 hx))

theorem Drains.perm (h : Drains lt bag xs 0) {ys : List (Item V P)} (hbag : bag = ys) :
    xs.Perm ys := by
  rw [← Multiset.coe_eq_coe, ← hbag, h.split, Multiset.add_zero]

/-- **Items are taken in order**: none precedes one that was taken before it. -/
theorem Drains.pairwise (h : Drains lt bag xs rest) : xs.Pairwise (Item.Leads lt) := by
  induction h with
  | stop _ => exact .nil
  | take htake hdrain ih =>
    refine List.pairwise_cons.2 ⟨fun y hy => ?_, ih⟩
    exact htake.leads y (htake.split ▸ Multiset.mem_cons_of_mem (hdrain.mem hy))

/-- **No item that stays behind precedes one that was taken.** -/
theorem Drains.leads (h : Drains lt bag xs rest) {x y : Item V P} (hx : x ∈ xs) (hy : y ∈ rest) :
    Item.Leads lt x y := by
  induction h with
  | stop _ => cases hx
  | take htake hdrain ih =>
    rcases List.mem_cons.1 hx with rfl | hx
    · refine htake.leads y (htake.split ▸ Multiset.mem_cons_of_mem ?_)
      rw [hdrain.split]
      exact Multiset.mem_add.2 (.inr hy)
    · exact ih hx hy

/-! ## Ties -/

/-- "Does not follow" as a preorder; what it cannot tell apart is tied. -/
abbrev notAfter (h : StrictWeak lt) : Preorder P where
  le a b := lt b a = false
  le_refl := h.irrefl
  le_trans _ _ _ := h.not_trans

/-- Two sorted lists of the same items agree at every place, but for ties. -/
theorem forall₂_tied (h : StrictWeak lt) {ys : List (Item V P)} (hperm : xs.Perm ys)
    (hxs : xs.Pairwise (Item.Leads lt)) (hys : ys.Pairwise (Item.Leads lt)) :
    List.Forall₂ (fun x y => Tied lt x.priority y.priority) xs ys := by
  -- where ties are made equalities, a sorted list is unique
  let _ : Preorder P := notAfter h
  let level (x : Item V P) : Antisymmetrization P (· ≤ ·) := toAntisymmetrization _ x.priority
  have hsorted : ∀ zs : List (Item V P), zs.Pairwise (Item.Leads lt) →
      (zs.map level).Pairwise (· ≤ ·) := fun zs hzs =>
    List.pairwise_map.2 (hzs.imp fun hle => toAntisymmetrization_le_toAntisymmetrization_iff.2 hle)
  have heq : xs.map level = ys.map level :=
    (hperm.map level).eq_of_pairwise (fun _ _ _ _ => le_antisymm) (hsorted xs hxs) (hsorted ys hys)
  rw [← List.forall₂_eq_eq_eq, List.forall₂_map_left_iff, List.forall₂_map_right_iff] at heq
  exact heq.imp fun x y hxy =>
    ⟨toAntisymmetrization_le_toAntisymmetrization_iff.1 hxy.ge,
      toAntisymmetrization_le_toAntisymmetrization_iff.1 hxy.le⟩

theorem Drains.perm_drains {ys : List (Item V P)} (hxs : Drains lt bag xs 0)
    (hys : Drains lt bag ys 0) : xs.Perm ys :=
  hxs.perm (by rw [hys.split, Multiset.add_zero])

/-- **Two ways to empty a bag agree at every place**, but for ties. -/
theorem Drains.tied (h : StrictWeak lt) {ys : List (Item V P)} (hxs : Drains lt bag xs 0)
    (hys : Drains lt bag ys 0) :
    List.Forall₂ (fun x y => Tied lt x.priority y.priority) xs ys :=
  forall₂_tied h (hxs.perm_drains hys) hxs.pairwise hys.pairwise

/-- **A bag without ties between different items can be emptied in one way only.** -/
theorem Drains.unique {ys : List (Item V P)} (hxs : Drains lt bag xs 0) (hys : Drains lt bag ys 0)
    (hties : ∀ x ∈ bag, ∀ y ∈ bag, Tied lt x.priority y.priority → x = y) : xs = ys := by
  refine (hxs.perm_drains hys).eq_of_pairwise (fun x y hx hy hxy hyx => ?_) hxs.pairwise
    hys.pairwise
  exact hties x (hxs.mem hx) y (hys.mem hy) (Item.tied_of_leads hxy hyx)

end Agenda.Bag
