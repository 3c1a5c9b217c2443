import Agenda.Proofs.Heap.Order
import Agenda.Proofs.Inquiry
/-!
# Sifting

The answer of a sift depends on the ranking alone, so it is treated as a loop of exchanges.

* `siftUp_rule`, `siftDown_rule`, `siftDownBelow_rule` — what every turn of a loop keeps holds at
  its end.
* `siftUp_shuffles`, `siftDown_shuffles` — whatever is answered, the items only change places.
* `Rising`, `Sinking` — heap order but for one slot, whose children and parent are in order with
  each other.  Exchanges keep it (`Rising.exchange`, `Sinking.exchange`) and the end of the loop
  closes the gap (`Rising.close`, `Sinking.close`).
* `siftUp_ordered`, `siftDown_ordered` — hence both sifts restore heap order, as long as the
  answers are lenient towards the order.
-/

set_option autoImplicit false

namespace Agenda.Heap

variable {V P : Type} {n : Nat} {lt who : P → P → Bool}

/-! ## Questions and exchanges -/

/-- What a ranking answers for the items of two slots. -/
def precedesAt (who : P → P → Bool) (items : Vector (Item V P) n) (i j : Fin n) : Bool :=
  who (items.get i).priority (items.get j).priority

@[simp] theorem answer_ask (items : Vector (Item V P) n) (i j : Fin n) :
    (ask items i j).answer who = precedesAt who items i j := rfl

@[simp] theorem always_ask (items : Vector (Item V P) n) (i j : Fin n) (holds : Bool → Prop) :
    (ask items i j).Always holds ↔ ∀ yes, holds yes := Iff.rfl

/-- The items of two slots change places. -/
def exchange (items : Vector (Item V P) n) (i j : Fin n) : Vector (Item V P) n :=
  items.swap i j i.isLt j.isLt

@[simp] theorem exchange_left (items : Vector (Item V P) n) (i j : Fin n) :
    (exchange items i j).get i = items.get j :=
  Vector.getElem_swap_left i.isLt j.isLt

@[simp] theorem exchange_right (items : Vector (Item V P) n) (i j : Fin n) :
    (exchange items i j).get j = items.get i :=
  Vector.getElem_swap_right i.isLt j.isLt

theorem exchange_other (items : Vector (Item V P) n) {i j k : Fin n} (hi : k ≠ i) (hj : k ≠ j) :
    (exchange items i j).get k = items.get k :=
  Vector.getElem_swap_of_ne (Fin.val_ne_of_ne hi) (Fin.val_ne_of_ne hj)

theorem exchange_perm (items : Vector (Item V P) n) (i j : Fin n) :
    (exchange items i j).Perm items :=
  Vector.swap_perm i.isLt j.isLt

/-! ## The first child -/

/-- Whatever is answered, the first child of a slot is one of its children. -/
theorem firstChild_isChild (items : Vector (Item V P) n) (i : Nat) (hl : left i < n) :
    (firstChild items i hl).Always fun child => IsChild child.val.val i := by
  unfold firstChild
  split
  · rw [Inquiry.always_bind, always_ask]
    intro yes
    cases yes with
    | true => exact .inr rfl
    | false => exact .inl rfl
  · exact .inl rfl

/-- The child that `firstChild` settles on. -/
def chosen (who : P → P → Bool) (items : Vector (Item V P) n) (i : Fin n) (hl : left i < n) :
    Fin n :=
  ((firstChild items i hl).answer who).val

theorem chosen_cases (who : P → P → Bool) (items : Vector (Item V P) n) (i : Fin n)
    (hl : left i < n) :
    (∃ hr : right i < n, chosen who items i hl = ⟨right i, hr⟩ ∧
      precedesAt who items ⟨right i, hr⟩ ⟨left i, hl⟩ = true) ∨
    (chosen who items i hl = ⟨left i, hl⟩ ∧
      ∀ hr : right i < n, precedesAt who items ⟨right i, hr⟩ ⟨left i, hl⟩ = false) := by
  unfold chosen firstChild
  split
  · rename_i hr
    cases hask : precedesAt who items ⟨right i, hr⟩ ⟨left i, hl⟩ with
    | true => exact .inl ⟨hr, by simp [hask], hask⟩
    | false => exact .inr ⟨by simp [hask], fun _ => hask⟩
  · rename_i hr
    exact .inr ⟨rfl, fun h => absurd h hr⟩

theorem lt_chosen (who : P → P → Bool) (items : Vector (Item V P) n) (i : Fin n)
    (hl : left i < n) : i < chosen who items i hl :=
  ((firstChild items i hl).answer who).property

theorem up_chosen (who : P → P → Bool) (items : Vector (Item V P) n) (i : Fin n)
    (hl : left i < n) : up (chosen who items i hl) = i := by
  have hchild : IsChild (chosen who items i hl).val i := (firstChild_isChild items i hl).answer who
  exact Fin.ext (isChild_iff.1 hchild).2

/-- The chosen child may leave before either child. -/
theorem chosen_leads (h : StrictWeak lt) (hwho : Lenient lt who) (items : Vector (Item V P) n)
    {i j : Fin n} (hl : left i < n) (hj : 0 < j.val) (hji : up j = i) :
    Item.Leads lt (items.get (chosen who items i hl)) (items.get j) := by
  have hval : parent j = i.val := congrArg Fin.val hji
  have hside := eq_left_or_right hj
  rw [hval] at hside
  rcases chosen_cases who items i hl with ⟨hr, hc, hask⟩ | ⟨hc, hask⟩
  · rw [hc]
    rcases hside with hside | hside
    · obtain rfl : j = ⟨left i, hl⟩ := Fin.ext hside
      exact Item.leads_of_precedes hwho hask
    · obtain rfl : j = ⟨right i, hr⟩ := Fin.ext hside
      exact Item.Leads.refl h _
  · rw [hc]
    rcases hside with hside | hside
    · obtain rfl : j = ⟨left i, hl⟩ := Fin.ext hside
      exact Item.Leads.refl h _
    · have hr : right i < n := hside ▸ j.isLt
      obtain rfl : j = ⟨right i, hr⟩ := Fin.ext hside
      exact Item.leads_of_not_precedes hwho (hask hr)

/-! ## The loops -/

theorem answer_siftUp (who : P → P → Bool) (items : Vector (Item V P) n) (i : Fin n)
    (hi : 0 < i.val) :
    (siftUp items i).answer who =
      if precedesAt who items i (up i) then
        (siftUp (exchange items i (up i)) (up i)).answer who
      else items := by
  rw [siftUp, dif_pos hi, Inquiry.answer_bind, answer_ask]
  cases hask : precedesAt who items i (up i) <;> rfl

/-- What an exchange with the parent keeps holds where the item comes to rest. -/
theorem siftUp_rule (who : P → P → Bool) (inv : Vector (Item V P) n → Fin n → Prop)
    {post : Vector (Item V P) n → Prop}
    (rise : ∀ items i, 0 < i.val → precedesAt who items i (up i) = true →
      inv items i → inv (exchange items i (up i)) (up i))
    (rest : ∀ items i, (0 < i.val → precedesAt who items i (up i) = false) →
      inv items i → post items)
    (items : Vector (Item V P) n) (i : Fin n) (hinv : inv items i) :
    post ((siftUp items i).answer who) := by
  induction items, i using siftUp.induct with
  | case1 items i hi ih =>
    rw [answer_siftUp who items i hi]
    cases hask : precedesAt who items i (up i) with
    | true => exact ih (rise items i hi hask hinv)
    | false => exact rest items i (fun _ => hask) hinv
  | case2 items i hi =>
    rw [siftUp, dif_neg hi]
    exact rest items i (fun h => absurd h hi) hinv

theorem answer_siftDown (who : P → P → Bool) (items : Vector (Item V P) n) (i : Fin n)
    (hl : left i < n) :
    (siftDown items i).answer who =
      if precedesAt who items (chosen who items i hl) i then
        (siftDown (exchange items i (chosen who items i hl)) (chosen who items i hl)).answer who
      else items := by
  rw [siftDown, dif_pos hl, Inquiry.answer_bind]
  show Inquiry.answer who (do
    if ← ask items (chosen who items i hl) i then
      siftDown (exchange items i (chosen who items i hl)) (chosen who items i hl)
    else return items) = _
  cases hask : precedesAt who items (chosen who items i hl) i <;> simp [hask]

/-- An item that none of its children precedes stays where it is. -/
theorem siftDown_eq_self {items : Vector (Item V P) n} {i : Fin n}
    (h : ∀ j : Fin n, 0 < j.val → up j = i → precedesAt who items j i = false) :
    (siftDown items i).answer who = items := by
  by_cases hl : left i < n
  · have hpos : 0 < (chosen who items i hl).val := Nat.zero_lt_of_lt (lt_chosen who items i hl)
    have hask := h (chosen who items i hl) hpos (up_chosen who items i hl)
    rw [answer_siftDown who items i hl, hask]
    rfl
  · rw [siftDown, dif_neg hl]
    rfl

/-- What an exchange with the chosen child keeps holds where the item comes to rest. -/
theorem siftDown_rule (who : P → P → Bool) (inv : Vector (Item V P) n → Fin n → Prop)
    {post : Vector (Item V P) n → Prop}
    (sink : ∀ items i hl, precedesAt who items (chosen who items i hl) i = true →
      inv items i → inv (exchange items i (chosen who items i hl)) (chosen who items i hl))
    (rest : ∀ items i, (∀ hl, precedesAt who items (chosen who items i hl) i = false) →
      inv items i → post items)
    (items : Vector (Item V P) n) (i : Fin n) (hinv : inv items i) :
    post ((siftDown items i).answer who) := by
  induction items, i using siftDown.induct with
  | case1 items i hl ih =>
    rw [answer_siftDown who items i hl]
    cases hask : precedesAt who items (chosen who items i hl) i with
    | true => exact ih _ (lt_chosen who items i hl) (sink items i hl hask hinv)
    | false => exact rest items i (fun _ => hask) hinv
  | case2 items i hl =>
    rw [siftDown, dif_neg hl]
    exact rest items i (fun h => absurd h hl) hinv

/-- What sifting down the last slot that is left keeps holds when none is left. -/
theorem siftDownBelow_rule (who : P → P → Bool) (inv : Vector (Item V P) n → Nat → Prop)
    (sift : ∀ items k (hk : k < n), inv items (k + 1) →
      inv ((siftDown items ⟨k, hk⟩).answer who) k)
    (items : Vector (Item V P) n) (k : Nat) (hk : k ≤ n) (hinv : inv items k) :
    inv ((siftDownBelow items k hk).answer who) 0 := by
  induction k generalizing items with
  | zero => exact hinv
  | succ k ih =>
    rw [siftDownBelow, Inquiry.answer_bind]
    exact ih _ (Nat.le_of_lt hk) (sift items k hk hinv)

/-! ## Items only change places -/

theorem siftUp_shuffles (items : Vector (Item V P) n) (i : Fin n) :
    (siftUp items i).Always fun risen => risen.Perm items := by
  induction items, i using siftUp.induct with
  | case1 items i hi ih =>
    rw [siftUp, dif_pos hi, Inquiry.always_bind, always_ask]
    intro yes
    cases yes with
    | true => exact ih.mono fun risen h => h.trans (exchange_perm items i (up i))
    | false => exact .refl items
  | case2 items i hi =>
    rw [siftUp, dif_neg hi]
    exact .refl items

theorem siftDown_shuffles (items : Vector (Item V P) n) (i : Fin n) :
    (siftDown items i).Always fun sunk => sunk.Perm items := by
  induction items, i using siftDown.induct with
  | case1 items i hl ih =>
    rw [siftDown, dif_pos hl, Inquiry.always_bind]
    -- it does not matter here which child is settled on
    refine Inquiry.always_of_forall _ fun child => ?_
    rw [Inquiry.always_bind, always_ask]
    intro yes
    cases yes with
    | true =>
      exact (ih child.val child.property).mono fun sunk h =>
        h.trans (exchange_perm items i child.val)
    | false => exact .refl items
  | case2 items i hl =>
    rw [siftDown, dif_neg hl]
    exact .refl items

theorem siftDownBelow_shuffles (items : Vector (Item V P) n) (k : Nat) (hk : k ≤ n) :
    (siftDownBelow items k hk).Always fun sunk => sunk.Perm items := by
  induction k generalizing items with
  | zero => exact .refl items
  | succ k ih =>
    rw [siftDownBelow, Inquiry.always_bind]
    refine (siftDown_shuffles items ⟨k, hk⟩).mono fun sunk h => ?_
    exact (ih sunk (Nat.le_of_lt hk)).mono fun last h' => h'.trans h

/-! ## Rising -/

/-- Heap order but for the step from a slot to its parent; the children of the slot are in order
with that parent. -/
structure Rising (lt : P → P → Bool) (items : Vector (Item V P) n) (i : Fin n) : Prop where
  others : ∀ j : Fin n, 0 < j.val → j ≠ i → Item.Leads lt (items.get (up j)) (items.get j)
  across : ∀ j : Fin n, 0 < j.val → up j = i → 0 < i.val →
    Item.Leads lt (items.get (up i)) (items.get j)

theorem Rising.exchange (h : StrictWeak lt) {items : Vector (Item V P) n} {i : Fin n}
    (hr : Rising lt items i) (hi : 0 < i.val)
    (hlead : Item.Leads lt (items.get i) (items.get (up i))) :
    Rising lt (exchange items i (up i)) (up i) := by
  have hup := up_ne hi
  constructor
  · intro j hj hjp
    by_cases hji : j = i
    · subst hji
      rw [exchange_left, exchange_right]
      exact hlead
    rw [exchange_other _ hji hjp]
    have hold := hr.others j hj hji
    by_cases hpi : up j = i
    · rw [hpi, exchange_left]
      exact hr.across j hj hpi hi
    by_cases hpp : up j = up i
    · rw [hpp] at hold ⊢
      rw [exchange_right]
      exact hlead.trans h hold
    · rw [exchange_other _ hpi hpp]
      exact hold
  · intro j hj hjp hp
    have habove := hr.others (up i) hp hup
    have hpi : up (up i) ≠ i := Fin.ne_of_lt (Fin.lt_trans (up_lt hp) (up_lt hi))
    rw [exchange_other _ hpi (up_ne hp)]
    by_cases hji : j = i
    · subst hji
      rw [exchange_left]
      exact habove
    · have hjne : j ≠ up i := fun heq => up_ne hj (hjp.trans heq.symm)
      have hold := hr.others j hj hji
      rw [hjp] at hold
      rw [exchange_other _ hji hjne]
      exact habove.trans h hold

theorem Rising.close {items : Vector (Item V P) n} {i : Fin n} (hr : Rising lt items i)
    (hlead : 0 < i.val → Item.Leads lt (items.get (up i)) (items.get i)) :
    Ordered lt (fun _ => True) items := by
  intro j hj _
  by_cases hji : j = i
  · subst hji; exact hlead hj
  · exact hr.others j hj hji

/-- **Rising restores heap order.** -/
theorem siftUp_ordered (h : StrictWeak lt) (hwho : Lenient lt who) {items : Vector (Item V P) n}
    {i : Fin n} (hr : Rising lt items i) :
    Ordered lt (fun _ => True) ((siftUp items i).answer who) := by
  refine siftUp_rule who (Rising lt) ?_ ?_ items i hr
  · intro v i hi hask hr
    exact hr.exchange h hi (Item.leads_of_precedes hwho hask)
  · intro v i hask hr
    exact hr.close fun hi => Item.leads_of_not_precedes hwho (hask hi)

/-! ## Sinking -/

/-- Heap order of a region but for the steps from the children of a slot to it; they are in order
with its parent. -/
structure Sinking (lt : P → P → Bool) (region : Nat → Prop) (items : Vector (Item V P) n)
    (i : Fin n) : Prop where
  others : ∀ j : Fin n, 0 < j.val → region (up j) → up j ≠ i →
    Item.Leads lt (items.get (up j)) (items.get j)
  across : ∀ j : Fin n, 0 < j.val → up j = i → 0 < i.val → region (up i) →
    Item.Leads lt (items.get (up i)) (items.get j)

theorem Sinking.exchange {region : Nat → Prop} (hreg : Downward region)
    {items : Vector (Item V P) n} {i c : Fin n} (hs : Sinking lt region items i) (hic : i < c)
    (hc : up c = i) (hlead : Item.Leads lt (items.get c) (items.get i))
    (hfirst : ∀ j : Fin n, 0 < j.val → up j = i → Item.Leads lt (items.get c) (items.get j)) :
    Sinking lt region (exchange items i c) c := by
  have hc0 : 0 < c.val := Nat.zero_lt_of_lt hic
  have hne : i ≠ c := Fin.ne_of_lt hic
  constructor
  · intro j hj hrj hjc
    by_cases hji : up j = i
    · rw [hji, exchange_left]
      by_cases hcj : j = c
      · subst hcj
        rw [exchange_right]
        exact hlead
      · have hj' : j ≠ i := fun heq => up_ne hj (hji.trans heq.symm)
        rw [exchange_other _ hj' hcj]
        exact hfirst j hj hji
    rw [exchange_other _ hji hjc]
    have hcj : j ≠ c := fun heq => hji (heq ▸ hc)
    by_cases hj' : j = i
    · subst hj'
      rw [exchange_left]
      exact hs.across c hc0 hc hj hrj
    · rw [exchange_other _ hj' hcj]
      exact hs.others j hj hrj hji
  · intro j hj hjc _ hrc
    have hcj : c < j := hjc ▸ up_lt hj
    have hjne : up j ≠ i := fun heq => hne (heq.symm.trans hjc)
    have hregc : region (up j) := hjc ▸ hreg c hc0 hrc
    have hold := hs.others j hj hregc hjne
    rw [hjc] at hold
    rw [hc, exchange_left, exchange_other _ (Fin.ne_of_gt (Fin.lt_trans hic hcj)) (Fin.ne_of_gt hcj)]
    exact hold

theorem Sinking.close {region : Nat → Prop} {items : Vector (Item V P) n} {i : Fin n}
    (hs : Sinking lt region items i)
    (hlead : ∀ j : Fin n, 0 < j.val → up j = i → Item.Leads lt (items.get i) (items.get j)) :
    Ordered lt region items := by
  intro j hj hrj
  by_cases hji : up j = i
  · rw [hji]; exact hlead j hj hji
  · exact hs.others j hj hrj hji

/-- **Sinking restores heap order**, in any region that goes on downwards. -/
theorem siftDown_ordered (h : StrictWeak lt) (hwho : Lenient lt who) {region : Nat → Prop}
    (hreg : Downward region) {items : Vector (Item V P) n} {i : Fin n}
    (hs : Sinking lt region items i) :
    Ordered lt region ((siftDown items i).answer who) := by
  refine siftDown_rule who (Sinking lt region) ?_ ?_ items i hs
  · intro v i hl hask hs
    exact hs.exchange hreg (lt_chosen who v i hl) (up_chosen who v i hl)
      (Item.leads_of_precedes hwho hask) (fun j => chosen_leads h hwho v hl)
  · intro v i hask hs
    refine hs.close fun j hj hji => ?_
    have hl : left i < n := left_lt hj hji
    exact (Item.leads_of_not_precedes hwho (hask hl)).trans h (chosen_leads h hwho v hl hj hji)

end Agenda.Heap
