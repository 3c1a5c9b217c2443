/-!
# Items

* `Item` — a value filed under a priority.  A queue reads the priority only; the value is carried
  along and handed back as it came.
* `Item.ofPair`, `Item.toPair` — an item is a pair under another name, and nothing is lost either
  way (`toPair_ofPair`, `ofPair_toPair`).
-/

set_option autoImplicit false

namespace Agenda

/-- A value filed under a priority. -/
structure Item (V P : Type) where
  value : V
  priority : P
  deriving DecidableEq

namespace Item

variable {V P : Type}

/-- Files the first component of a pair under the second. -/
def ofPair (pair : V × P) : Item V P := ⟨pair.1, pair.2⟩

/-- Splits an item into its value and its priority. -/
def toPair (x : Item V P) : V × P := (x.value, x.priority)

@[simp] theorem toPair_ofPair (pair : V × P) : (ofPair pair).toPair = pair := rfl

@[simp] theorem ofPair_toPair (x : Item V P) : ofPair x.toPair = x := rfl

end Item

end Agenda
