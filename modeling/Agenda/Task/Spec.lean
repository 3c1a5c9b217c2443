import Agenda.Task
import Agenda.Text.Blank
import Agenda.Text.Decimal
import Agenda.Word
/-!
# Task specifications

A task is given on a command line as `NAME=PRIORITY`.  The last equals sign divides the two, so a
name may hold equals signs; blanks around the name and around the priority do not count.

* `Task.ofSpec?` — the task of a specification, if it is one.
* `Task.ofSpec`, `Task.ofSpecs` — the same with the refusal of the first that is none.
* `Task.toSpec` — the plainest specification of a task.
-/

set_option autoImplicit false

namespace Agenda.Task

/-- Divides a text at the last occurrence of a character. -/
def splitLast? (mark : Char) : List Char → Option (List Char × List Char)
  | [] => none
  | c :: cs =>
    match splitLast? mark cs with
    | some (before, after) => some (c :: before, after)
    | none => if c = mark then some ([], cs) else none

/-- The task of a specification. -/
def ofSpec? (spec : List Char) : Option Task := do
  let (before, after) ← splitLast? '=' spec
  let name := Blank.trim before
  if name.isEmpty then none
  else
    let priority ← Word.signed? (← Decimal.signed? (Blank.trim after))
    return ⟨String.ofList name, priority⟩

/-- The task of a specification, or the specification itself as the reason why there is none. -/
def ofSpec (spec : String) : Except TaskError Task :=
  match ofSpec? spec.toList with
  | some task => .ok task
  | none => .error (.invalidTask spec)

/-- The tasks of specifications, up to the first that is none. -/
def ofSpecs (specs : List String) : Except TaskError (List Task) := specs.mapM ofSpec

/-- The plainest specification of a task. -/
def toSpec (task : Task) : List Char :=
  task.value.toList ++ '=' :: Decimal.ofInt task.priority.toInt

end Agenda.Task
