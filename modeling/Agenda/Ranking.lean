import Agenda.Failure
/-!
# Rankings

A queue never compares priorities itself: it asks a ranking.

* `Ranking` — a three-way comparison together with the one question a queue asks, `precedes`.
  Unless it is given on its own, `precedes` is "compares as less".
* `QueueOrder` — the two orders every ordered type has: least first and greatest first.
* `Judge` — the same question put to something that may break down.
* `StrictWeak` — the law under which a queue's promises hold: incomparability behaves like
  equality.
-/

set_option autoImplicit false

namespace Agenda

/-- Decides which of two priorities leaves a queue first. -/
structure Ranking (P : Type) where
  /-- `Ordering.lt` means that the first priority leaves before the second. -/
  compare : P → P → Ordering
  /-- The only question a queue asks. -/
  precedes : P → P → Bool := fun a b => compare a b == .lt

/-- Which end of the priority range leaves first. -/
inductive QueueOrder where
  /-- The least priority first. -/
  | min
  /-- The greatest priority first. -/
  | max
  deriving DecidableEq

namespace QueueOrder

/-- Least first is the order that holds where none is chosen. -/
instance : Inhabited QueueOrder := ⟨.min⟩

/-- The ranking of an order over a type that has a natural comparison. -/
def ranking {P : Type} [Ord P] : QueueOrder → Ranking P
  | .min => { compare := fun a b => Ord.compare a b }
  | .max => { compare := fun a b => Ord.compare b a }

/-- The order as it is named in reports. -/
def name : QueueOrder → String
  | .min => "Min"
  | .max => "Max"

end QueueOrder

/-- Answers whether the first of two priorities goes first, or breaks down. -/
abbrev Judge (P : Type) := P → P → Except Fault Bool

/-- The judge that never breaks down. -/
def Judge.total {P : Type} (precedes : P → P → Bool) : Judge P :=
  fun a b => .ok (precedes a b)

/-- A strict weak order: nothing precedes itself, precedence is transitive, and so is being tied. -/
structure StrictWeak {P : Type} (precedes : P → P → Bool) : Prop where
  irrefl : ∀ a, precedes a a = false
  trans : ∀ a b c, precedes a b = true → precedes b c = true → precedes a c = true
  tie_trans : ∀ a b c, precedes a b = false → precedes b a = false →
    precedes b c = false → precedes c b = false → precedes a c = false ∧ precedes c a = false

end Agenda
