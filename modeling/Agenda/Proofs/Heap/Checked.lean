import Agenda.Heap.Checked
import Agenda.PriorityQueue
import Agenda.Proofs.Heap.Repair
/-!
# Heaps stay within bounds

* `add_ofNat`, `mul_ofNat`, `sub_ofNat`, `get_ofNat`, `exchange_ofNat` — each check passes on the
  words of numbers that are small enough.
* `siftUp_eq`, `siftDown_eq`, `siftDownBelow_eq`, `checkFrom_eq`, `pop_eq`, `drain_eq` — hence every
  checked operation is the unchecked one.
* `meets_no_mishap` — so no operation on an array of fewer than 2^63 items meets a mishap, and each
  of its loops ends within as many turns as there are items, and one.

All are equations between inquiries: they hold whatever is answered, and say that the same questions
are asked in the same order.
-/

set_option autoImplicit false

namespace Agenda.Heap.Checked

variable {V P α β : Type} {n : Nat}

/-! ## Operations that meet no mishap -/

theorem ofInquiry_pure (x : α) : ofInquiry (pure x : Inquiry P α) = pure x := by
  apply ExceptT.ext
  simp [ofInquiry]

theorem ofInquiry_bind (t : Inquiry P α) (f : α → Inquiry P β) :
    ofInquiry (t >>= f) = ofInquiry t >>= fun x => ofInquiry (f x) := by
  apply ExceptT.ext
  simp [ofInquiry]

theorem ofInquiry_map (f : α → β) (t : Inquiry P α) :
    ofInquiry (f <$> t) = f <$> ofInquiry t := by
  rw [← bind_pure_comp, ← bind_pure_comp, ofInquiry_bind]
  simp only [ofInquiry_pure]

/-- A checked way to go on need only agree with an unchecked one on what can come out. -/
theorem ofInquiry_bind_congr {t : Inquiry P α} {f : α → Checked P β} {g : α → Inquiry P β}
    (h : t.Always fun x => f x = ofInquiry (g x)) : ofInquiry t >>= f = ofInquiry (t >>= g) := by
  rw [ofInquiry_bind]
  apply ExceptT.ext
  simp only [ofInquiry, ExceptT.run_bind_lift]
  exact (h.mono fun x hx => congrArg ExceptT.run hx).bind_congr

/-! ## Checks that pass -/

theorem lt_size {k : Nat} (h : k < sizeLimit) : k < UInt64.size :=
  Nat.lt_trans h (by decide)

theorem toNat_ofNat {k : Nat} (h : k < UInt64.size) : (UInt64.ofNat k).toNat = k :=
  UInt64.toNat_ofNat_of_lt' h

theorem add_ofNat {a b : Nat} (h : a + b < UInt64.size) :
    (add (UInt64.ofNat a) (UInt64.ofNat b) : Checked P UInt64) = pure (UInt64.ofNat (a + b)) := by
  have ha : (UInt64.ofNat a).toNat = a := toNat_ofNat (by omega)
  have hb : (UInt64.ofNat b).toNat = b := toNat_ofNat (by omega)
  rw [add, ha, hb, if_pos h, UInt64.ofNat_add]

theorem mul_ofNat {a b : Nat} (ha : a < UInt64.size) (hb : b < UInt64.size)
    (h : a * b < UInt64.size) :
    (mul (UInt64.ofNat a) (UInt64.ofNat b) : Checked P UInt64) = pure (UInt64.ofNat (a * b)) := by
  rw [mul, toNat_ofNat ha, toNat_ofNat hb, if_pos h, UInt64.ofNat_mul]

theorem sub_ofNat {a b : Nat} (hba : b ≤ a) (ha : a < UInt64.size) :
    (sub (UInt64.ofNat a) (UInt64.ofNat b) : Checked P UInt64) = pure (UInt64.ofNat (a - b)) := by
  have hle : UInt64.ofNat b ≤ UInt64.ofNat a :=
    (UInt64.ofNat_le_iff_le (Nat.lt_of_le_of_lt hba ha) ha).2 hba
  rw [sub, if_pos hle, UInt64.ofNat_sub hba]

theorem half_ofNat {k : Nat} (h : k < UInt64.size) :
    UInt64.ofNat k / 2 = UInt64.ofNat (k / 2) := by
  apply UInt64.toNat_inj.1
  rw [UInt64.toNat_div, toNat_ofNat h, toNat_ofNat (Nat.lt_of_le_of_lt (Nat.div_le_self k 2) h)]
  rfl

theorem get_ofNat (v : Vector (Item V P) n) (hn : n < sizeLimit) (i : Fin n) :
    get v.toArray (UInt64.ofNat i) = pure (v.get i) := by
  have hi : (UInt64.ofNat i).toNat = i := toNat_ofNat (Nat.lt_trans i.isLt (lt_size hn))
  simp only [get, hi]
  rw [dif_pos (by simp)]
  rfl

theorem exchange_ofNat (v : Vector (Item V P) n) (hn : n < sizeLimit) (i j : Fin n) :
    (exchange v.toArray (UInt64.ofNat i) (UInt64.ofNat j) : Checked P (Array (Item V P))) =
      pure (Heap.exchange v i j).toArray := by
  have hi : (UInt64.ofNat i).toNat = i := toNat_ofNat (Nat.lt_trans i.isLt (lt_size hn))
  have hj : (UInt64.ofNat j).toNat = j := toNat_ofNat (Nat.lt_trans j.isLt (lt_size hn))
  simp only [exchange, hi, hj]
  rw [dif_pos (by simp)]
  rfl

theorem precedes_ofNat (v : Vector (Item V P) n) (hn : n < sizeLimit) (i j : Fin n) :
    precedes v.toArray (UInt64.ofNat i) (UInt64.ofNat j) = ofInquiry (ask v i j) := by
  rw [precedes, get_ofNat v hn, get_ofNat v hn, pure_bind, pure_bind]
  rfl

theorem parent_ofNat {i : Nat} (h0 : 0 < i) (hi : i < UInt64.size) :
    (parent (UInt64.ofNat i) : Checked P UInt64) = pure (UInt64.ofNat (Heap.parent i)) := by
  have hone : (sub (UInt64.ofNat i) 1 : Checked P UInt64) = pure (UInt64.ofNat (i - 1)) :=
    sub_ofNat h0 hi
  rw [parent, hone, pure_bind, half_ofNat (Nat.lt_of_le_of_lt (Nat.sub_le i 1) hi)]
  rfl

/-! ## Sifting -/

theorem siftUp_eq (v : Vector (Item V P) n) (hn : n < sizeLimit) (i : Fin n)
    {turns : Nat} (hturns : i.val < turns) :
    siftUp v.toArray (UInt64.ofNat i) turns = ofInquiry (Vector.toArray <$> Heap.siftUp v i) := by
  induction turns generalizing v i with
  | zero => exact absurd hturns (Nat.not_lt_zero _)
  | succ turns ih =>
    have hsize : i.val < UInt64.size := Nat.lt_trans i.isLt (lt_size hn)
    have hpos : 0 < UInt64.ofNat i ↔ 0 < i.val :=
      UInt64.ofNat_lt_iff_lt (by decide) hsize
    rw [siftUp, Heap.siftUp]
    by_cases hi : 0 < i.val
    · rw [if_pos (hpos.2 hi), dif_pos hi, parent_ofNat hi hsize, pure_bind, map_bind,
        ofInquiry_bind, show Heap.parent i.val = (up i).val from rfl, precedes_ofNat v hn]
      refine bind_congr fun yes => ?_
      cases yes with
      | true =>
        have hup : (up i).val < turns := Nat.lt_of_lt_of_le (up_lt hi) (Nat.le_of_lt_succ hturns)
        rw [if_pos rfl, if_pos rfl, exchange_ofNat v hn, pure_bind]
        exact ih (Heap.exchange v i (up i)) (up i) hup
      | false => simp [ofInquiry_pure]
    · rw [if_neg (fun h => hi (hpos.1 h)), dif_neg hi]
      simp [ofInquiry_pure]

/-- The left child of a slot and, where that is not yet past the end, the slot to its right. -/
theorem children_ofNat {i : Nat} (hn : n < sizeLimit) (hi : i < n) :
    (mul 2 (UInt64.ofNat i) >>= fun twice => add twice 1 : Checked P UInt64) =
        pure (UInt64.ofNat (left i)) ∧
      (left i < n → (add (UInt64.ofNat (left i)) 1 : Checked P UInt64) =
        pure (UInt64.ofNat (right i))) := by
  have hlimit : sizeLimit + sizeLimit = UInt64.size := by decide
  have hmul : (mul 2 (UInt64.ofNat i) : Checked P UInt64) = pure (UInt64.ofNat (2 * i)) :=
    mul_ofNat (a := 2) (by decide) (by omega) (by omega)
  constructor
  · rw [hmul, pure_bind]
    exact add_ofNat (b := 1) (by omega)
  · intro hl
    exact add_ofNat (b := 1) (by omega)

theorem firstChild_eq (v : Vector (Item V P) n) (hn : n < sizeLimit) (i : Nat)
    (hl : left i < n) :
    firstChild v.toArray (UInt64.ofNat n) (UInt64.ofNat (left i)) (UInt64.ofNat (right i)) =
      ofInquiry ((fun child => UInt64.ofNat child.val.val) <$> Heap.firstChild v i hl) := by
  have hr' : right i < UInt64.size := by
    have hlimit : sizeLimit + sizeLimit = UInt64.size := by decide
    unfold left at hl
    unfold right
    omega
  have hlt : UInt64.ofNat (right i) < UInt64.ofNat n ↔ right i < n :=
    UInt64.ofNat_lt_iff_lt hr' (lt_size hn)
  unfold firstChild Heap.firstChild
  by_cases hr : right i < n
  · rw [if_pos (hlt.2 hr), dif_pos hr, map_bind, ofInquiry_bind,
      precedes_ofNat v hn ⟨right i, hr⟩ ⟨left i, hl⟩]
    refine bind_congr fun yes => ?_
    cases yes <;> simp [ofInquiry_pure]
  · rw [if_neg (fun h => hr (hlt.1 h)), dif_neg hr]
    simp [ofInquiry_pure]

theorem siftDown_eq (v : Vector (Item V P) n) (hn : n < sizeLimit) (i : Fin n)
    {turns : Nat} (hturns : n - i.val < turns) :
    siftDown v.toArray (UInt64.ofNat n) (UInt64.ofNat i) turns =
      ofInquiry (Vector.toArray <$> Heap.siftDown v i) := by
  induction turns generalizing v i with
  | zero => exact absurd hturns (Nat.not_lt_zero _)
  | succ turns ih =>
    obtain ⟨hleft, hright⟩ := children_ofNat (P := P) hn i.isLt
    have hlimit : sizeLimit + sizeLimit = UInt64.size := by decide
    have hle : UInt64.ofNat n ≤ UInt64.ofNat (left i) ↔ n ≤ left i :=
      UInt64.ofNat_le_iff_le (lt_size hn) (by unfold left; omega)
    rw [siftDown, Heap.siftDown, ← bind_assoc, hleft, pure_bind]
    by_cases hl : left i < n
    · rw [if_neg (fun h => Nat.not_le.2 hl (hle.1 h)), dif_pos hl, hright hl, pure_bind,
        firstChild_eq v hn i hl, ofInquiry_map, map_eq_pure_bind, bind_assoc, map_bind,
        ofInquiry_bind]
      refine bind_congr fun child => ?_
      rw [pure_bind, precedes_ofNat v hn child.val i, map_bind, ofInquiry_bind]
      refine bind_congr fun yes => ?_
      cases yes with
      | true =>
        have hchild : n - child.val.val < turns := by
          have := child.property
          have := child.val.isLt
          omega
        rw [if_pos rfl, if_pos rfl, exchange_ofNat v hn, pure_bind]
        exact ih (Heap.exchange v i child.val) child.val hchild
      | false => simp [ofInquiry_pure]
    · rw [if_pos (hle.2 (Nat.le_of_not_lt hl)), dif_neg hl]
      simp [ofInquiry_pure]

theorem siftDownBelow_eq (limit : Nat) (v : Vector (Item V P) n) (hn : n < sizeLimit)
    (hlimit : n < limit) (k : Nat) (hk : k ≤ n) {turns : Nat} (hturns : k < turns) :
    siftDownBelow limit v.toArray (UInt64.ofNat k) turns =
      ofInquiry (Vector.toArray <$> Heap.siftDownBelow v k hk) := by
  induction turns generalizing v k with
  | zero => exact absurd hturns (Nat.not_lt_zero _)
  | succ turns ih =>
    rw [siftDownBelow]
    cases k with
    | zero =>
      rw [if_neg (by decide), Heap.siftDownBelow]
      simp [ofInquiry_pure]
    | succ k =>
      have hsize : k + 1 < UInt64.size := Nat.lt_of_le_of_lt hk (lt_size hn)
      have hpos : 0 < UInt64.ofNat (k + 1) :=
        (UInt64.ofNat_lt_iff_lt (by decide) hsize).2 (Nat.succ_pos k)
      have hlast : (sub (UInt64.ofNat (k + 1)) 1 : Checked P UInt64) = pure (UInt64.ofNat k) :=
        sub_ofNat (Nat.succ_pos k) hsize
      have hlen : length v.toArray = UInt64.ofNat n := by rw [length, v.size_toArray]
      rw [if_pos hpos, hlast, pure_bind, hlen, Heap.siftDownBelow, map_bind, ofInquiry_bind,
        siftDown_eq v hn ⟨k, hk⟩ (by omega), ofInquiry_map, map_eq_pure_bind, bind_assoc]
      refine bind_congr fun sunk => ?_
      rw [pure_bind]
      exact ih sunk k (Nat.le_of_lt hk) (by omega)

/-! ## The operations -/

section Operations

variable {C : Type} {limit : Nat} {items : Array (Item V P)}

theorem build_eq (hsize : items.size < sizeLimit) (hlimit : items.size < limit) :
    build limit items = ofInquiry (Heap.build items) := by
  have hsmall : length items < 2 ↔ items.size < 2 :=
    UInt64.ofNat_lt_iff_lt (lt_size hsize) (by decide)
  unfold build Heap.build
  by_cases h : items.size < 2
  · rw [if_pos (hsmall.2 h), if_pos h, ofInquiry_pure]
  · rw [if_neg (fun h' => h (hsmall.1 h')), if_neg h, ofInquiry_bind]
    refine bind_congr fun _ => ?_
    rw [length, half_ofNat (lt_size hsize), bind_pure_comp]
    exact siftDownBelow_eq limit items.toVector hsize hlimit (items.size / 2)
      (Nat.div_le_self _ _) (by omega)

theorem insert_eq (x : Item V P) (hsize : (items.push x).size < sizeLimit)
    (hlimit : items.size < limit) :
    insert limit items x = ofInquiry (Heap.insert items x) := by
  have hpush : (items.push x).size = items.size + 1 := Array.size_push x
  have hlast : (sub (length (items.push x)) 1 : Checked P UInt64) =
      pure (UInt64.ofNat items.size) := by
    rw [length, hpush]
    exact sub_ofNat (b := 1) (Nat.succ_pos _) (lt_size (hpush ▸ hsize))
  have hsift := siftUp_eq (items.push x).toVector hsize (leaf items x) hlimit
  unfold insert Heap.insert
  dsimp only
  rw [hlast, pure_bind]
  refine (congrArg (· >>= _) hsift).trans ?_
  rw [ofInquiry_map, map_eq_pure_bind, bind_assoc, ofInquiry_bind]
  refine bind_congr fun risen => ?_
  rw [pure_bind, ofInquiry_bind, risen.size_toArray.trans hpush]
  refine bind_congr fun _ => ?_
  rw [ofInquiry_pure]

theorem not_isEmpty_iff : ¬ items.isEmpty = true ↔ 0 < items.size := by
  rw [Array.isEmpty_iff, ← Array.size_eq_zero_iff, Nat.pos_iff_ne_zero]

theorem settle_eq (hsize : items.size < sizeLimit) (hlimit : items.size < limit) :
    settle limit items = ofInquiry (Heap.settle items) := by
  unfold settle Heap.settle
  by_cases h : 0 < items.size
  · rw [if_neg (not_isEmpty_iff.2 h), dif_pos h, bind_pure_comp]
    exact siftDown_eq items.toVector hsize ⟨0, h⟩ hlimit
  · rw [if_pos (not_not.1 (mt not_isEmpty_iff.1 h)), dif_neg h, ofInquiry_pure]

theorem pop_eq (hsize : items.size < sizeLimit) (hlimit : items.size < limit) :
    pop limit items = ofInquiry (Heap.pop items) := by
  unfold pop Heap.pop
  by_cases h : 0 < items.size
  · have hroot : (get items 0 : Checked P (Item V P)) = pure items[0] :=
      get_ofNat items.toVector hsize ⟨0, h⟩
    have hlast : (sub (length items) 1 : Checked P UInt64) =
        pure (UInt64.ofNat (items.size - 1)) :=
      sub_ofNat (b := 1) h (lt_size hsize)
    have hmove : (exchange items 0 (UInt64.ofNat (items.size - 1)) :
          Checked P (Array (Item V P))) =
        pure (items.swap 0 (items.size - 1) h (Nat.sub_one_lt_of_lt h)) :=
      exchange_ofNat items.toVector hsize ⟨0, h⟩ ⟨items.size - 1, Nat.sub_one_lt_of_lt h⟩
    have hrest : (items.swap 0 (items.size - 1) h (Nat.sub_one_lt_of_lt h)).pop.size <
        items.size :=
      (size_uproot h).trans_lt (Nat.sub_one_lt_of_lt h)
    rw [if_neg (not_isEmpty_iff.2 h), dif_pos h, hroot, pure_bind, hlast, pure_bind, hmove,
      pure_bind, settle_eq (Nat.lt_trans hrest hsize) (Nat.lt_trans hrest hlimit)]
    simp only [ofInquiry_bind, ofInquiry_pure]
  · rw [if_pos (not_not.1 (mt not_isEmpty_iff.1 h)), dif_neg h, ofInquiry_pure]

theorem checkFrom_eq (v : Vector (Item V P) n) (hn : n < sizeLimit) {i : Nat}
    (hi : 0 < i) {turns : Nat} (hturns : n - i < turns) (hin : i ≤ n + 1) :
    checkFrom v.toArray (UInt64.ofNat i) turns = ofInquiry (Heap.checkFrom v i) := by
  induction turns generalizing i with
  | zero => exact absurd hturns (Nat.not_lt_zero _)
  | succ turns ih =>
    have hlimit : sizeLimit + sizeLimit = UInt64.size := by decide
    have hlt : UInt64.ofNat i < length v.toArray ↔ i < n := by
      rw [length, v.size_toArray]
      exact UInt64.ofNat_lt_iff_lt (by omega) (lt_size hn)
    rw [checkFrom, Heap.checkFrom]
    by_cases h : i < n
    · have hnext : (add (UInt64.ofNat i) 1 : Checked P UInt64) = pure (UInt64.ofNat (i + 1)) :=
        add_ofNat (b := 1) (by omega)
      have hask : precedes v.toArray (UInt64.ofNat i) (UInt64.ofNat (Heap.parent i)) =
          ofInquiry (ask v ⟨i, h⟩ (up ⟨i, h⟩)) :=
        precedes_ofNat v hn ⟨i, h⟩ (up ⟨i, h⟩)
      rw [if_pos (hlt.2 h), dif_pos h, parent_ofNat hi (by omega), pure_bind, ofInquiry_bind,
        hask]
      refine bind_congr fun yes => ?_
      cases yes with
      | true => rw [if_pos rfl, if_pos rfl, ofInquiry_pure]
      | false =>
        rw [if_neg (by decide), if_neg (by decide), hnext, pure_bind]
        exact ih (Nat.succ_pos i) (by omega) (by omega)
    · rw [if_neg (fun h' => h (hlt.1 h')), dif_neg h, ofInquiry_pure]

/-- A drain of the queue `q`, after some items have been taken. -/
theorem drain_eq (q : PriorityQueue V P C) (hsize : q.items.size < sizeLimit)
    (hlimit : q.items.size < limit) {turns : Nat} (hturns : q.items.size < turns)
    (taken : Array (Item V P)) :
    (taken.toList ++ ·) <$> drain limit q.items turns =
      ofInquiry (Prod.fst <$> q.drainOnto taken q.items.size) := by
  induction turns generalizing q taken with
  | zero => exact absurd hturns (Nat.not_lt_zero _)
  | succ turns ih =>
    rw [drain, pop_eq hsize hlimit, map_bind]
    cases hq : q.items.size with
    | zero =>
      rw [Heap.pop, dif_neg (by omega), ofInquiry_pure, pure_bind, PriorityQueue.drainOnto]
      simp [ofInquiry_pure]
    | succ k =>
      rw [PriorityQueue.drainOnto, PriorityQueue.pop, bind_assoc, map_bind]
      refine ofInquiry_bind_congr ((Heap.pop_contents q.items).mono fun r hpopped => ?_)
      rcases r with _ | ⟨x, rest⟩
      · have hempty : q.items = #[] := hpopped
        rw [hempty] at hq
        cases hq
      · have hrest : rest.size = k := by
          have hcard := congrArg Multiset.card hpopped.2
          rw [Multiset.card_cons, card_bag, card_bag] at hcard
          omega
        let q' : PriorityQueue V P C := { q with items := rest }
        have hq' : q'.items.size = k := hrest
        have hturn := ih q' (by omega) (by omega) (by omega) (taken.push x)
        rw [pure_bind, ← hq']
        refine Eq.trans ?_ hturn
        simp [q']

end Operations

/-- **No operation leaves the array or the range of a word, and each of them ends.**  As long as the
array has fewer than 2^63 items, the new one counted, no check of a checked operation fails, whatever
is answered: it goes the way of the unchecked one.  A limit of as many turns as there are items, and
one, is enough for every loop. -/
theorem meets_no_mishap {C : Type} (q : PriorityQueue V P C) (x : Item V P) (limit : Nat)
    (hsize : q.items.size < sizeLimit) (hlimit : q.items.size < limit) :
    (build limit q.items).run = .ok <$> Heap.build q.items ∧
      ((q.items.push x).size < sizeLimit →
        (insert limit q.items x).run = .ok <$> Heap.insert q.items x) ∧
      (pop limit q.items).run = .ok <$> Heap.pop q.items ∧
      (check limit q.items).run = .ok <$> Heap.check q.items ∧
      (drain limit q.items limit).run = .ok <$> (Prod.fst <$> q.drain none) := by
  have hrun : ∀ (β : Type) (t : Inquiry P β), (ofInquiry t).run = .ok <$> t :=
    fun _ t => ExceptT.run_lift t
  refine ⟨?_, fun hpush => ?_, ?_, ?_, ?_⟩
  · rw [build_eq hsize hlimit, hrun]
  · rw [insert_eq x hpush hlimit, hrun]
  · rw [pop_eq hsize hlimit, hrun]
  · have hcheck : check limit q.items = ofInquiry (Heap.check q.items) :=
      checkFrom_eq q.items.toVector hsize Nat.one_pos (by omega) (by omega)
    rw [hcheck, hrun]
  · have hdrain := drain_eq q hsize hlimit hlimit #[]
    simp only [List.nil_append, id_map'] at hdrain
    rw [hdrain, hrun]
    rfl

/-- A ranking that goes round in a circle. -/
theorem meets_no_mishap_in_a_circle :
    let q : PriorityQueue String (Fin 3) Unit :=
      ⟨#[⟨"rock", 0⟩, ⟨"paper", 1⟩, ⟨"scissors", 2⟩], ()⟩
    let x : Item String (Fin 3) := ⟨"well", 1⟩
    let beats : Fin 3 → Fin 3 → Bool := fun a b => a == b + 1
    q.items.size < sizeLimit ∧ q.items.size < 4 ∧
      (q.items.push x).size < sizeLimit ∧
      (insert 4 q.items x).run = .ok <$> Heap.insert q.items x ∧
      (drain 4 q.items 4).run = .ok <$> (Prod.fst <$> q.drain none) ∧
      ((Prod.fst <$> q.drain none).answer beats).map Item.value = ["rock", "scissors", "paper"] ∧
      (drain 3 q.items 3).run.answer beats matches .error .exhausted := by
  intro q x beats
  have hsize : q.items.size < sizeLimit := by decide
  have hlimit : q.items.size < 4 := by decide
  have hpush : (q.items.push x).size < sizeLimit := by decide
  obtain ⟨-, hinsert, -, -, hdrain⟩ := meets_no_mishap q x 4 hsize hlimit
  refine ⟨hsize, hlimit, hpush, hinsert hpush, hdrain, ?_, ?_⟩
  · decide +kernel
  · decide +kernel

end Agenda.Heap.Checked
