import Agenda.Proofs.Bag
/-!
# Items coming and going

The requests of a queue taken apart into the items that they move, one after the other.  Requests of
different clients and drains of many items all become stretches of one sequence of moves.

* `Move`, `movesOf` — an item comes in or is taken, or all items are dropped; what a request moves.
* `Bag.Moves` — moves that a bag allows: whatever is taken, no item of the bag precedes it.  Every
  step of a bag consists of such moves (`Step.moves`).
* `InOrder` — an item that precedes one taken before it came in between, so items are taken in order
  as long as none comes in.
* `Moves.inOrder` — this holds of all moves that a bag allows.
-/

set_option autoImplicit false

namespace Agenda

open PriorityQueue

variable {V P : Type} {lt : P → P → Bool}

/-- What happens to the items of a queue. -/
inductive Move (V P : Type) where
  /-- An item comes in. -/
  | came (x : Item V P)
  /-- An item is taken and goes to a client. -/
  | went (x : Item V P)
  /-- All items are dropped. -/
  | cleared
  deriving DecidableEq

namespace Move

/-- The item that goes to a client. -/
def taken? : Move V P → Option (Item V P)
  | .went x => some x
  | _ => none

/-- The items that go to clients, in order. -/
def taken (moves : List (Move V P)) : List (Item V P) := moves.filterMap taken?

@[simp] theorem mem_taken {moves : List (Move V P)} {x : Item V P} :
    x ∈ taken moves ↔ .went x ∈ moves := by
  simp only [taken, List.mem_filterMap]
  constructor
  · rintro ⟨_ | y | _, hmem, heq⟩
    · cases heq
    · cases heq; exact hmem
    · cases heq
  · exact fun hmem => ⟨.went x, hmem, rfl⟩

end Move

/-- The moves that a request and its reply stand for. -/
def movesOf : Operation V P → Reply V P → List (Move V P)
  | .insert x, _ => [.came x]
  | .push value priority, _ => [.came ⟨value, priority⟩]
  | .extend xs, _ => xs.map .came
  | .pop, .item? (some x) => [.went x]
  | .remove, .removal (.ok x) => [.went x]
  | .drain _, .drained _ xs _ => xs.map .went
  | .clear, _ => [.cleared]
  | _, _ => []

/-- Items are taken in order but for those that come in too late. -/
structure InOrder (lt : P → P → Bool) (moves : List (Move V P)) : Prop where
  /-- An item that precedes one taken before it came in between the two. -/
  came_between : ∀ (before between after : List (Move V P)) (x y : Item V P),
    moves = before ++ .went x :: (between ++ .went y :: after) →
    lt y.priority x.priority = true → .came y ∈ between
  /-- As long as no item comes in, none is taken that precedes one taken before. -/
  sorted : ∀ before stretch after : List (Move V P), moves = before ++ (stretch ++ after) →
    (∀ x, .came x ∉ stretch) → (Move.taken stretch).Pairwise (Item.Leads lt)

namespace Bag

variable {bag bag' rest last mid : Multiset (Item V P)} {xs : List (Item V P)}
  {ms ms' : List (Move V P)} {x y : Item V P}

/-- Moves that a bag allows, one after the other. -/
inductive Moves (lt : P → P → Bool) :
    Multiset (Item V P) → List (Move V P) → Multiset (Item V P) → Prop where
  | stay (bag : Multiset (Item V P)) : Moves lt bag [] bag
  | came {bag last : Multiset (Item V P)} {x : Item V P} {ms : List (Move V P)} :
    Moves lt (x ::ₘ bag) ms last → Moves lt bag (.came x :: ms) last
  | went {bag rest last : Multiset (Item V P)} {x : Item V P} {ms : List (Move V P)} :
    Takes lt bag x rest → Moves lt rest ms last → Moves lt bag (.went x :: ms) last
  | cleared {bag last : Multiset (Item V P)} {ms : List (Move V P)} :
    Moves lt 0 ms last → Moves lt bag (.cleared :: ms) last

/-! ## Sequences of moves -/

theorem Moves.append (h : Moves lt bag ms mid) (h' : Moves lt mid ms' last) :
    Moves lt bag (ms ++ ms') last := by
  induction h with
  | stay bag => exact h'
  | came _ ih => exact .came (ih h')
  | went htake _ ih => exact .went htake (ih h')
  | cleared _ ih => exact .cleared (ih h')

theorem Moves.split (h : Moves lt bag (ms ++ ms') last) :
    ∃ mid, Moves lt bag ms mid ∧ Moves lt mid ms' last := by
  induction ms generalizing bag with
  | nil => exact ⟨bag, .stay bag, h⟩
  | cons move ms ih =>
    cases h with
    | came h =>
      obtain ⟨mid, hfirst, hrest⟩ := ih h
      exact ⟨mid, .came hfirst, hrest⟩
    | went htake h =>
      obtain ⟨mid, hfirst, hrest⟩ := ih h
      exact ⟨mid, .went htake hfirst, hrest⟩
    | cleared h =>
      obtain ⟨mid, hfirst, hrest⟩ := ih h
      exact ⟨mid, .cleared hfirst, hrest⟩

/-- An item that is there in the end was there at the start, or it came in. -/
theorem Moves.mem_or_came (h : Moves lt bag ms last) (hy : y ∈ last) :
    y ∈ bag ∨ .came y ∈ ms := by
  induction h with
  | stay bag => exact .inl hy
  | @came bag last x ms _ ih =>
    rcases ih hy with hmem | hmem
    · rcases Multiset.mem_cons.1 hmem with rfl | hmem
      · exact .inr List.mem_cons_self
      · exact .inl hmem
    · exact .inr (List.mem_cons_of_mem _ hmem)
  | went htake _ ih =>
    rcases ih hy with hmem | hmem
    · exact .inl (htake.split ▸ Multiset.mem_cons_of_mem hmem)
    · exact .inr (List.mem_cons_of_mem _ hmem)
  | cleared _ ih =>
    rcases ih hy with hmem | hmem
    · exact absurd hmem (Multiset.notMem_zero y)
    · exact .inr (List.mem_cons_of_mem _ hmem)

/-- So it is with an item that is taken. -/
theorem Moves.mem_or_came_of_went (h : Moves lt bag (ms ++ .went y :: ms') last) :
    y ∈ bag ∨ .came y ∈ ms := by
  obtain ⟨mid, hbefore, hfrom⟩ := h.split
  cases hfrom with
  | went htake _ => exact hbefore.mem_or_came (htake.split ▸ Multiset.mem_cons_self y _)

/-- **An item that precedes one taken before it came in between**: it was not there when the other
one was taken. -/
theorem Moves.came_between (h : Moves lt bag (.went x :: (ms ++ .went y :: ms')) last)
    (hyx : lt y.priority x.priority = true) : .came y ∈ ms := by
  cases h with
  | went htake hrest =>
    refine hrest.mem_or_came_of_went.resolve_left fun hmem => ?_
    have hleads : Item.Leads lt x y :=
      htake.leads y (htake.split ▸ Multiset.mem_cons_of_mem hmem)
    rw [show lt y.priority x.priority = false from hleads] at hyx
    cases hyx

/-- As long as no item comes in, items are taken in order. -/
theorem Moves.sorted (h : Moves lt bag ms last) (hnone : ∀ x, .came x ∉ ms) :
    (Move.taken ms).Pairwise (Item.Leads lt) := by
  induction h with
  | stay bag => exact .nil
  | came _ _ => exact absurd List.mem_cons_self (hnone _)
  | @went bag rest last x ms htake hmoves ih =>
    have hlater : ∀ y, .came y ∉ ms := fun y hy => hnone y (List.mem_cons_of_mem _ hy)
    refine List.pairwise_cons.2 ⟨fun y hy => ?_, ih hlater⟩
    obtain ⟨before, after, rfl⟩ := List.append_of_mem (Move.mem_taken.1 hy)
    rcases hmoves.mem_or_came_of_went with hmem | hcame
    · exact htake.leads y (htake.split ▸ Multiset.mem_cons_of_mem hmem)
    · exact absurd (List.mem_append_left _ hcame) (hlater y)
  | cleared _ ih => exact ih fun x hx => hnone x (List.mem_cons_of_mem _ hx)

/-- **A bag lets its items go in order** but for those that come in too late. -/
theorem Moves.inOrder (h : Moves lt bag ms last) : InOrder lt ms := by
  constructor
  · rintro before between after x y rfl hyx
    obtain ⟨mid, -, hfrom⟩ := h.split
    exact hfrom.came_between hyx
  · rintro before stretch after rfl hnone
    obtain ⟨mid, -, hfrom⟩ := h.split
    obtain ⟨mid', hstretch, -⟩ := hfrom.split
    exact hstretch.sorted hnone

/-! ## Requests as moves -/

theorem moves_came (lt : P → P → Bool) (bag : Multiset (Item V P)) (xs : List (Item V P)) :
    Moves lt bag (xs.map .came) (xs + bag) := by
  induction xs generalizing bag with
  | nil => simpa using Moves.stay bag
  | cons x xs ih =>
    have hbag : ((x :: xs : List (Item V P)) : Multiset (Item V P)) + bag = xs + x ::ₘ bag := by
      rw [← Multiset.cons_coe, Multiset.cons_add, Multiset.add_cons]
    rw [hbag]
    exact .came (ih (x ::ₘ bag))

theorem Drains.moves (h : Drains lt bag xs rest) : Moves lt bag (xs.map .went) rest := by
  induction h with
  | stop bag => exact .stay bag
  | take htake _ ih => exact .went htake ih

/-- **A step of a bag consists of moves that it allows.** -/
theorem Step.moves {op : Operation V P} {reply : Reply V P} (h : Step lt bag op reply bag') :
    Moves lt bag (movesOf op reply) bag' := by
  cases h with
  | insert bag x => exact .came (.stay _)
  | push bag value priority => exact .came (.stay _)
  | extend bag xs => exact moves_came lt bag xs
  | pop htake => exact .went htake (.stay _)
  | remove htake => exact .went htake (.stay _)
  | clear bag => exact .cleared (.stay 0)
  | drain limit hdrains _ => exact hdrains.moves
  | popEmpty => exact .stay 0
  | removeEmpty => exact .stay 0
  | peek _ => exact .stay bag
  | peekEmpty => exact .stay 0
  | size bag => exact .stay bag
  | isEmpty _ => exact .stay bag
  | check bag b => exact .stay bag
  | sorted _ => exact .stay bag

end Bag

end Agenda
