import Agenda.Key.Binary64.Text
import Agenda.Key.Sequenced
import Agenda.PriorityQueue
import Agenda.Text.Decimal
import Agenda.Text.Outline
import Agenda.Text.Quoted
/-!
# Outlines of items and queues

* `Outlined` — values that have an outline: texts, words, binary64 numbers,
  keys with a sequence number.
* `Item.outline` — an item as a record of its value and its priority.
* `PriorityQueue.outline` — a queue as a record of its items in heap order; the order it keeps is
  not shown.
-/

set_option autoImplicit false

namespace Agenda

/-- Values that can be described for a reader. -/
class Outlined (α : Type) where
  outline : α → Outline

instance : Outlined String where
  outline s := .atom (Quoted.quote s)

instance : Outlined Int64 where
  outline p := .atom (String.ofList (Decimal.ofInt p.toInt))

instance : Outlined UInt64 where
  outline n := .atom (String.ofList (Decimal.ofNat n.toNat))

instance : Outlined Binary64 where
  outline x := .atom (String.ofList x.text)

instance {K : Type} [Outlined K] : Outlined (Sequenced K) where
  outline k := .tuple [Outlined.outline k.key, Outlined.outline k.sequence]

variable {V P C : Type} [Outlined V] [Outlined P]

/-- An item as a record. -/
def Item.outline (x : Item V P) : Outline :=
  .record "Item" [("value", Outlined.outline x.value), ("priority", Outlined.outline x.priority)]
    false

/-- A queue as a record of its items in heap order. -/
def PriorityQueue.outline (q : PriorityQueue V P C) : Outline :=
  .record "PriorityQueue" [("items", .list (q.items.toList.map Item.outline))] true

end Agenda
