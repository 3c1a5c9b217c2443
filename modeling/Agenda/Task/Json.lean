import Agenda.Json.Printer
import Agenda.Json.Reader
import Agenda.Json.Record
import Agenda.Task
import Agenda.Word
/-!
# Tasks in JSON

A task is a record with the fields `value` and `priority`, both required.

* `Task.toJson`, `Task.ofJson?` — one task as a JSON value.
* `Task.parse?` — the task of a text.
* `Task.parseAll?` — the tasks of a text that holds an array of them.
* `Task.ofFile` — the tasks of a file, from its bytes or from the reason why it has none.
-/

set_option autoImplicit false

namespace Agenda.Task

/-- The fields of a task, in order. -/
def fields : List String := ["value", "priority"]

/-- A task as a JSON value. -/
def toJson (task : Task) : Json :=
  .ofMembers [("value", .ofText task.value), ("priority", .ofInt task.priority.toInt)]

/-- The task that a JSON value stands for.  The value has to be a text and the priority an integer
literal in range. -/
def ofJson? (v : Json) : Option Task := do
  let record ← Json.Record.ofJson? fields v
  let value ← record.required? "value" Json.text?
  let priority ← record.required? "priority" fun p => p.int? >>= Word.signed?
  return ⟨value, priority⟩

/-- The tasks that a JSON array stands for. -/
def allOfJson? : Json → Option (List Task)
  | .array elements => elements.mapM ofJson?
  | _ => none

/-- The task that a text stands for. -/
def parse? (s : List Char) : Option Task := Json.parse? s >>= ofJson?

/-- The tasks that a text stands for. -/
def parseAll? (s : List Char) : Option (List Task) := Json.parse? s >>= allOfJson?

/-- Reads the bytes of a file as text. -/
def decodeText (contents : Except ReadError ByteArray) : Except ReadError String := do
  match String.fromUTF8? (← contents) with
  | some text => .ok text
  | none => .error .invalidText

/-- The tasks of a file. -/
def ofFile (contents : Except ReadError ByteArray) : Except TaskError (List Task) :=
  match decodeText contents with
  | .error cause => .error (.io cause)
  | .ok text =>
    match parseAll? text.toList with
    | some tasks => .ok tasks
    | none => .error .json

end Agenda.Task
