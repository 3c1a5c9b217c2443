import Agenda.Json.Basic
/-!
# Records in JSON

A record may be written as an object, whose members name the fields in any order, or as an array,
which gives the fields in the order of their declaration.

* `Json.Record` — the fields of either form; members that name no field are passed over.
* `Json.Record.ofJson?` — the record of a value.  A field that is given twice spoils the record, and
  so does an element too many.
* `Json.Record.required?`, `Json.Record.optional?` — what a field holds.
-/

set_option autoImplicit false

namespace Agenda.Json

/-- The fields of a record that were given, by name. -/
structure Record where
  given : List (String × Json)

namespace Record

/-- The members of an object whose names are texts; one that is not spoils them all. -/
def members? (members : List (List Point × Json)) : Option (List (String × Json)) :=
  members.mapM fun m => do return (← textOf? m.1, m.2)

/-- Keeps the members that name a field, each field at most once. -/
def ofMembers? (fields : List String) (members : List (String × Json)) : Option Record :=
  let given := members.filter fun m => m.1 ∈ fields
  if (given.map Prod.fst).Nodup then some ⟨given⟩ else none

/-- Reads the record with the given fields from a value. -/
def ofJson? (fields : List String) : Json → Option Record
  | .object members => do ofMembers? fields (← members? members)
  | .array elements =>
    if elements.length ≤ fields.length then some ⟨fields.zip elements⟩ else none
  | _ => none

/-- What a field holds, if it was given. -/
def get? (r : Record) (field : String) : Option Json := r.given.lookup field

/-- A field that has to be given. -/
def required? {α : Type} (r : Record) (field : String) (read : Json → Option α) : Option α :=
  r.get? field >>= read

/-- A field that has a default. -/
def optional? {α : Type} (r : Record) (field : String) (default : α) (read : Json → Option α) :
    Option α :=
  match r.get? field with
  | some v => read v
  | none => some default

end Record

end Agenda.Json
