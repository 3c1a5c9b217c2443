import Agenda.Ranking
/-!
# Settings of a queue

* `Settings` — how many slots to reserve before a queue is built, and which order it keeps.
* `Settings.set` — makes one `Choice`; a later choice of the same kind replaces an earlier one.
* `Settings.storage`, `Settings.reserve` — the bytes to reserve for some slots, and whether storage
  of that size can exist at all.
-/

set_option autoImplicit false

namespace Agenda

/-- What a queue is built with. -/
structure Settings where
  /-- The least number of slots to reserve. -/
  initialCapacity : UInt64 := 0
  order : QueueOrder := .min
  deriving DecidableEq

namespace Settings

/-- One choice about a queue. -/
inductive Choice where
  | initialCapacity (slots : UInt64)
  | order (order : QueueOrder)

/-- Makes a choice, keeping the settings it does not concern. -/
def set (settings : Settings) : Choice → Settings
  | .initialCapacity slots => { settings with initialCapacity := slots }
  | .order order => { settings with order := order }

/-- The default settings after some choices, made in turn. -/
def ofChoices (choices : List Choice) : Settings := choices.foldl set {}

/-- The bytes to reserve for some slots when an item takes up `itemSize` bytes and `held` slots are
there already; where these are enough, nothing is reserved. -/
def storage (itemSize held : Nat) (slots : UInt64) : Nat :=
  if slots.toNat ≤ held then 0 else itemSize * slots.toNat

/-- No storage has 2^63 bytes or more. -/
def byteLimit : Nat := 0x8000000000000000

/-- Reserves storage; only its failure is ever seen. -/
def reserve (itemSize held : Nat) (slots : UInt64) : Except Fault Unit :=
  if storage itemSize held slots < byteLimit then .ok () else .error .capacityOverflow

variable {itemSize held : Nat} {slots : UInt64}

theorem reserve_of_lt (hroom : storage itemSize held slots < byteLimit) :
    reserve itemSize held slots = .ok () := if_pos hroom

theorem reserve_of_le (hfull : byteLimit ≤ storage itemSize held slots) :
    reserve itemSize held slots = .error .capacityOverflow := if_neg (Nat.not_lt.2 hfull)

end Settings

end Agenda
