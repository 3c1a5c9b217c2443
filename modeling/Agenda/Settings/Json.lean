import Agenda.Json.Printer
import Agenda.Json.Reader
import Agenda.Json.Record
import Agenda.Settings
import Agenda.Word
/-!
# Settings in JSON

Settings are a record with the fields `initial_capacity` and `order`; a field that is not given has
its default.  An order is its name, or an object with that name as its only member and nothing in
it.
-/

set_option autoImplicit false

namespace Agenda

namespace QueueOrder

/-- The name of an order in JSON. -/
def jsonName : QueueOrder → String
  | .min => "min"
  | .max => "max"

/-- The order of that name. -/
def ofJsonName? (name : String) : Option QueueOrder :=
  if name = "min" then some .min else if name = "max" then some .max else none

/-- An order as a JSON value. -/
def toJson (order : QueueOrder) : Json := .ofText order.jsonName

/-- The order that a JSON value stands for. -/
def ofJson? : Json → Option QueueOrder
  | .string s => Json.textOf? s >>= ofJsonName?
  | .object [(name, .null)] => Json.textOf? name >>= ofJsonName?
  | _ => none

/-- The order that a text stands for. -/
def parse? (s : List Char) : Option QueueOrder := Json.parse? s >>= ofJson?

end QueueOrder

namespace Settings

/-- The fields of settings, in order. -/
def fields : List String := ["initial_capacity", "order"]

/-- Settings as a JSON value. -/
def toJson (settings : Settings) : Json :=
  .ofMembers [("initial_capacity", .ofInt settings.initialCapacity.toNat),
    ("order", settings.order.toJson)]

/-- A capacity: an integer literal in range. -/
def capacityOfJson? (v : Json) : Option UInt64 :=
  match v.int? with
  | some (.ofNat n) => Word.unsigned? n
  | _ => none

/-- The settings that a JSON value stands for. -/
def ofJson? (v : Json) : Option Settings := do
  let record ← Json.Record.ofJson? fields v
  let initialCapacity ← record.optional? "initial_capacity" 0 capacityOfJson?
  let order ← record.optional? "order" .min QueueOrder.ofJson?
  return ⟨initialCapacity, order⟩

/-- The settings that a text stands for. -/
def parse? (s : List Char) : Option Settings := Json.parse? s >>= ofJson?

end Settings

end Agenda
