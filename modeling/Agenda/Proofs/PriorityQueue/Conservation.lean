import Agenda.PriorityQueue.History
import Agenda.Proofs.PriorityQueue.Step
import Mathlib.Algebra.Order.Group.Multiset
import Mathlib.Data.List.DropRight
import Mathlib.Tactic.Abel
/-!
# No item is lost or doubled

Nothing in this module depends on an order.  Whatever is answered to a queue, the items that come in
are those that are handed out, those that are cleared away and those that are still there.

* `Entry.inserted`, `Entry.handedOut`, `Entry.discarded` — what a request moves.
* `Entry.Accounts`, `perform_accounts` — the balance of one request.
* `Follows`, `history_follows` — entries of which each starts where the one before it ended.
* `Follows.balance`, `Follows.count` — the balance of all of them, and the number of items by those
  since the queue was last cleared.
* `history_conserves` — both of them for every way to make a queue and every sequence of requests.
-/

set_option autoImplicit false

namespace Agenda.PriorityQueue

variable {V P C : Type} {q q' last : PriorityQueue V P C} {e : Entry V P C}
  {es : List (Entry V P C)}

/-! ## What a request moves -/

namespace Entry

/-- The items that come in. -/
def inserted (e : Entry V P C) : Multiset (Item V P) :=
  match e.operation with
  | .insert x => {x}
  | .push value priority => {⟨value, priority⟩}
  | .extend xs => xs
  | _ => 0

/-- The items that go out to the client. -/
def handedOut (e : Entry V P C) : Multiset (Item V P) :=
  match e.operation, e.reply with
  | .pop, .item? x => (x.toList : Multiset (Item V P))
  | .remove, .removal (.ok x) => {x}
  | .drain _, .drained _ xs _ => xs
  | _, _ => 0

/-- Whether the queue is cleared. -/
def clears (e : Entry V P C) : Bool :=
  match e.operation with
  | .clear => true
  | _ => false

/-- The items that are thrown away. -/
def discarded (e : Entry V P C) : Multiset (Item V P) :=
  if e.clears then e.before.bag else 0

/-- The balance of a request; a drain without a limit leaves nothing behind. -/
structure Accounts (e : Entry V P C) : Prop where
  balance : e.before.bag + e.inserted = e.handedOut + e.discarded + e.after.bag
  drained : e.operation = .drain none → e.handedOut.card = e.before.size ∧ e.after.size = 0

/-- Only a drain has to leave nothing behind. -/
theorem Accounts.of_balance
    (hbalance : e.before.bag + e.inserted = e.handedOut + e.discarded + e.after.bag)
    (hop : e.operation ≠ .drain none) : e.Accounts :=
  ⟨hbalance, fun h => absurd h hop⟩

theorem operation_of_clears (h : e.clears = true) : e.operation = .clear := by
  unfold clears at h
  split at h
  · assumption
  · cases h

/-- A queue that was cleared has no items. -/
theorem Accounts.bag_after (h : e.Accounts) (hclears : e.clears = true) : e.after.bag = 0 := by
  have hbalance := h.balance
  simp only [inserted, handedOut, operation_of_clears hclears, discarded, hclears, if_true,
    zero_add] at hbalance
  exact add_left_cancel hbalance.symm

end Entry

/-! ## One request -/

theorem pop_contents (q : PriorityQueue V P C) :
    q.pop.Always fun r => q.bag = r.1.toList + r.2.bag ∧ (r.1 = none → q.bag = 0) := by
  rw [pop, Inquiry.always_bind]
  refine (Heap.pop_contents q.items).mono fun r hpopped => ?_
  cases r with
  | none =>
    have hzero : q.bag = 0 := bag_eq_zero.2 hpopped
    exact ⟨(zero_add q.bag).symm, fun _ => hzero⟩
  | some taken => exact ⟨hpopped.2, fun hnone => absurd hnone (Option.some_ne_none taken.1)⟩

/-- A pop takes one item, unless there is none. -/
theorem size_pop (q : PriorityQueue V P C) :
    q.pop.Always fun r => r.2.size = q.size - 1 ∧ (r.1 = none ↔ q.size = 0) := by
  refine (pop_contents q).mono fun r hr => ?_
  obtain ⟨item?, rest⟩ := r
  obtain ⟨hbag, hempty⟩ := hr
  have hcard : q.size = item?.toList.length + rest.size := by
    rw [size_eq_card, size_eq_card, hbag, Multiset.card_add, Multiset.coe_card]
  cases item? with
  | none =>
    have hzero : q.size = 0 := by rw [size_eq_card, hempty rfl, Multiset.card_zero]
    have hrest : q.size = 0 + rest.size := hcard
    exact ⟨show rest.size = q.size - 1 by omega, fun _ => hzero, fun _ => rfl⟩
  | some x =>
    have hrest : q.size = 1 + rest.size := hcard
    refine ⟨show rest.size = q.size - 1 by omega, fun hnone => ?_, fun hzero => ?_⟩
    · exact absurd hnone (Option.some_ne_none x)
    · omega

theorem drainOnto_contents (q : PriorityQueue V P C) (taken : Array (Item V P)) (limit : Nat) :
    (q.drainOnto taken limit).Always fun r =>
      taken.toList + q.bag = r.1 + r.2.bag ∧ r.1.length = taken.size + min limit q.bag.card := by
  induction limit generalizing q taken with
  | zero => simp [drainOnto]
  | succ limit ih =>
    rw [drainOnto, Inquiry.always_bind]
    refine (pop_contents q).mono ?_
    rintro ⟨_ | x, rest⟩ ⟨hbag, hempty⟩
    · have hrest : rest.bag = q.bag := (hbag.trans (zero_add rest.bag)).symm
      rw [Inquiry.always_pure, hrest, hempty rfl]
      exact ⟨rfl, by simp⟩
    · replace hbag : q.bag = x ::ₘ rest.bag := hbag
      refine (ih rest (taken.push x)).mono fun r hr => ?_
      obtain ⟨hcontents, hlength⟩ := hr
      constructor
      · rw [← hcontents, hbag, Array.toList_push, ← Multiset.coe_add, add_assoc]
        rfl
      · rw [hlength, hbag, Array.size_push, Multiset.card_cons]
        omega

/-- A drain takes as many items as its limit, or all that there are. -/
theorem drain_contents (q : PriorityQueue V P C) (limit : Option Nat) :
    (q.drain limit).Always fun r =>
      q.bag = r.1 + r.2.bag ∧ r.1.length = min (limit.getD q.size) q.size := by
  refine (drainOnto_contents q #[] (limit.getD q.size)).mono fun r hr => ?_
  obtain ⟨hcontents, hlength⟩ := hr
  rw [← size_eq_card] at hlength
  exact ⟨(zero_add q.bag).symm.trans hcontents, hlength.trans (Nat.zero_add _)⟩

/-- **Every request balances**, whatever is answered. -/
theorem perform_accounts (q : PriorityQueue V P C) (op : Operation V P) :
    (q.perform op).Always fun r => (⟨q, op, r.1, r.2⟩ : Entry V P C).Accounts := by
  -- a request that moves nothing
  have hidle : q.bag + 0 = 0 + 0 + q.bag := by abel
  -- a request that brings in one item
  have hcame : ∀ (x : Item V P) (q' : PriorityQueue V P C), q'.bag = x ::ₘ q.bag →
      q.bag + {x} = 0 + 0 + q'.bag := by
    intro x q' hbag
    rw [hbag, ← Multiset.singleton_add]
    abel
  cases op with
  | insert x =>
    rw [perform, Inquiry.always_bind]
    exact (insert_contents q x).mono fun q' hbag => .of_balance (hcame x q' hbag) (by simp)
  | push value priority =>
    rw [perform, Inquiry.always_bind]
    exact (insert_contents q ⟨value, priority⟩).mono fun q' hbag =>
      .of_balance (hcame _ q' hbag) (by simp)
  | extend xs =>
    rw [perform, Inquiry.always_bind]
    refine (extend_contents q xs).mono fun q' hbag => .of_balance ?_ (by simp)
    show q.bag + xs = 0 + 0 + q'.bag
    rw [hbag]
    abel
  | pop =>
    rw [perform, Inquiry.always_bind]
    refine (pop_contents q).mono fun r hr => .of_balance ?_ (by simp)
    show q.bag + 0 = r.1.toList + 0 + r.2.bag
    rw [hr.1]
    abel
  | remove =>
    rw [perform, remove, Inquiry.always_bind, Inquiry.always_bind]
    refine (pop_contents q).mono ?_
    rintro ⟨_ | x, rest⟩ ⟨hbag, -⟩
    · refine .of_balance ?_ (by simp)
      show q.bag + 0 = 0 + 0 + rest.bag
      rw [hbag]
      exact add_zero _
    · refine .of_balance ?_ (by simp)
      show q.bag + 0 = {x} + 0 + rest.bag
      rw [hbag, add_zero, add_zero]
      rfl
  | peek => exact .of_balance hidle (by simp)
  | size => exact .of_balance hidle (by simp)
  | isEmpty => exact .of_balance hidle (by simp)
  | check =>
    rw [perform, Inquiry.always_bind]
    exact Inquiry.always_of_forall _ fun _ => .of_balance hidle (by simp)
  | clear =>
    refine .of_balance ?_ (by simp)
    show q.bag + 0 = 0 + q.bag + 0
    abel
  | drain limit =>
    rw [perform, Inquiry.always_bind]
    refine (drain_contents q limit).mono fun r hr => ?_
    obtain ⟨hbag, hlength⟩ := hr
    constructor
    · show q.bag + 0 = r.1 + 0 + r.2.bag
      rw [hbag]
      abel
    · intro hop
      obtain rfl : limit = none := by cases hop; rfl
      rw [Option.getD_none, min_self] at hlength
      refine ⟨hlength, ?_⟩
      have hcard := congrArg Multiset.card hbag
      rw [Multiset.card_add, Multiset.coe_card, ← size_eq_card, ← size_eq_card] at hcard
      show r.2.size = 0
      omega
  | sorted =>
    rw [perform, Inquiry.always_bind]
    exact Inquiry.always_of_forall _ fun _ => .of_balance hidle (by simp)

/-! ## Sequences of requests -/

/-- Each entry starts from the queue that the one before it left. -/
def Follows (q : PriorityQueue V P C) :
    List (Entry V P C) → PriorityQueue V P C → Prop
  | [], last => last = q
  | e :: es, last => e.before = q ∧ Follows e.after es last

theorem Follows.append_singleton (h : Follows q (es ++ [e]) last) :
    Follows q es e.before ∧ e.after = last := by
  induction es generalizing q with
  | nil => exact ⟨h.1, h.2.symm⟩
  | cons e' es ih => exact ⟨⟨h.1, (ih h.2).1⟩, (ih h.2).2⟩

theorem history_follows (q : PriorityQueue V P C) (ops : List (Operation V P)) :
    (q.history ops).Always fun r => Follows q r.1 r.2 ∧ ∀ e ∈ r.1, e.Accounts := by
  induction ops generalizing q with
  | nil => exact ⟨rfl, List.forall_mem_nil _⟩
  | cons op ops ih =>
    rw [history, Inquiry.always_bind]
    refine (perform_accounts q op).mono fun r haccounts => ?_
    rw [Inquiry.always_bind]
    refine (ih r.2).mono fun r' hr => ?_
    obtain ⟨hfollows, hall⟩ := hr
    exact ⟨⟨rfl, hfollows⟩, List.forall_mem_cons.2 ⟨haccounts, hall⟩⟩

/-- What comes in is handed out, thrown away or still there. -/
theorem Follows.balance (h : Follows q es last) (hall : ∀ e ∈ es, e.Accounts) :
    q.bag + (es.map Entry.inserted).sum =
      (es.map Entry.handedOut).sum + (es.map Entry.discarded).sum + last.bag := by
  induction es generalizing q with
  | nil =>
    obtain rfl : last = q := h
    simp
  | cons e es ih =>
    obtain ⟨rfl, hrest⟩ := h
    obtain ⟨haccounts, hall⟩ := List.forall_mem_cons.1 hall
    simp only [List.map_cons, List.sum_cons]
    calc e.before.bag + (e.inserted + (es.map Entry.inserted).sum)
        = (e.before.bag + e.inserted) + (es.map Entry.inserted).sum := by abel
      _ = e.handedOut + e.discarded + (e.after.bag + (es.map Entry.inserted).sum) := by
        rw [haccounts.balance]; abel
      _ = (e.handedOut + (es.map Entry.handedOut).sum) +
            (e.discarded + (es.map Entry.discarded).sum) + last.bag := by
        rw [ih hrest hall]; abel

/-- The entries since the queue was last cleared. -/
def sinceCleared (es : List (Entry V P C)) : List (Entry V P C) :=
  es.rtakeWhile fun e => !e.clears

/-- The number of items: what there was at the start, or nothing once the queue has been cleared,
and what came in and went out since then. -/
theorem Follows.count (h : Follows q es last) (hall : ∀ e ∈ es, e.Accounts) :
    last.size + ((sinceCleared es).map Entry.handedOut).sum.card =
      (if es.any Entry.clears then 0 else q.size) +
        ((sinceCleared es).map Entry.inserted).sum.card := by
  induction es using List.reverseRecOn generalizing last with
  | nil =>
    obtain rfl : last = q := h
    simp [sinceCleared]
  | append_singleton es e ih =>
    obtain ⟨hbefore, rfl⟩ := h.append_singleton
    obtain ⟨hes, he⟩ := List.forall_mem_append.1 hall
    have haccounts : e.Accounts := he e (List.mem_singleton_self e)
    unfold sinceCleared at ih ⊢
    rw [List.rtakeWhile_concat, List.any_append]
    cases hclears : e.clears with
    | true =>
      have hzero : e.after.size = 0 := by
        rw [size_eq_card, haccounts.bag_after hclears, Multiset.card_zero]
      simp [hclears, hzero]
    | false =>
      have hbalance := congrArg Multiset.card haccounts.balance
      have hold := ih hbefore hes
      simp only [Entry.discarded, hclears, Multiset.card_add, ← size_eq_card, Bool.false_eq_true,
        if_false, Multiset.card_zero] at hbalance
      simp only [hclears, Bool.not_false, if_true, List.map_append, List.map_cons, List.map_nil,
        List.sum_append, List.sum_cons, List.sum_nil, Multiset.card_add, Multiset.card_zero,
        List.any_cons, List.any_nil, Bool.or_false]
      omega

/-- **No item is lost or doubled**, whatever is answered while a queue is made and used: of the items
it starts with and those that come in, each is handed out, thrown away when the queue is cleared, or
still there.  The number of items is that at the start, or nothing where the queue has been cleared,
and what came in, less what was handed out, since then; this holds after every request, as the
requests so far are requests too.  A drain without a limit hands out as many items as there are. -/
theorem history_conserves (origin : Origin V P C) (ops : List (Operation V P)) :
    match origin.make with
    | .error fault => fault = .capacityOverflow ∧ Settings.byteLimit ≤ origin.storage
    | .ok build => (build >>= fun start => start.history ops).Always fun r =>
      let entries := r.1
      let last := r.2
      origin.items + (entries.map Entry.inserted).sum =
          (entries.map Entry.handedOut).sum + (entries.map Entry.discarded).sum + last.bag ∧
        last.size + ((sinceCleared entries).map Entry.handedOut).sum.card =
          (if entries.any Entry.clears then 0 else origin.items.length) +
            ((sinceCleared entries).map Entry.inserted).sum.card ∧
        ∀ e ∈ entries, e.operation = .drain none →
          e.handedOut.card = e.before.size ∧ e.after.size = 0 := by
  rcases origin.make_eq with ⟨hmake, hfull⟩ | ⟨hmake, -⟩
  · rw [hmake]
    exact ⟨rfl, hfull⟩
  · rw [hmake]
    dsimp only
    rw [Inquiry.always_bind]
    refine (withOrder_contents origin.items origin.order).mono fun start hstart => ?_
    refine (history_follows start ops).mono fun r hr => ?_
    obtain ⟨hfollows, hall⟩ := hr
    have hbalance := hfollows.balance hall
    have hcount := hfollows.count hall
    rw [size_eq_card start, hstart, Multiset.coe_card] at hcount
    rw [hstart] at hbalance
    exact ⟨hbalance, hcount, fun e he => (hall e he).drained⟩

end Agenda.PriorityQueue
