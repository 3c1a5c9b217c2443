import Agenda.Item
/-!
# Tasks

* `Task` — a name filed under a 64-bit priority, with the room that it takes up (`Task.bytes`).
* `TaskError` — why tasks could not be obtained: an unusable specification, an unreadable file, a
  file that holds no tasks.
* `Task.household` — a small list to try things out with, and one task that comes in later.
-/

set_option autoImplicit false

namespace Agenda

/-- A name filed under a priority. -/
abbrev Task := Item String Int64

/-- Why a file could not be read as text. -/
inductive ReadError where
  | notFound
  | isDirectory
  | notDirectory
  /-- The bytes are no well-formed text. -/
  | invalidText
  /-- Any other cause, in the words of the system. -/
  | other (reason : String)
  deriving DecidableEq

/-- The text of a read error. -/
def ReadError.message : ReadError → String
  | .notFound => "No such file or directory (os error 2)"
  | .isDirectory => "Is a directory (os error 21)"
  | .notDirectory => "Not a directory (os error 20)"
  | .invalidText => "stream did not contain valid UTF-8"
  | .other reason => reason

/-- Why tasks could not be obtained. -/
inductive TaskError where
  /-- A specification that is none, as it was given. -/
  | invalidTask (spec : String)
  | io (cause : ReadError)
  /-- A file whose text is no list of tasks. -/
  | json
  deriving DecidableEq

/-- The text of a task error. -/
def TaskError.message : TaskError → String
  | .invalidTask spec => "invalid task '" ++ spec ++ "': expected NAME=PRIORITY"
  | .io cause => "io error: " ++ cause.message
  | .json => "json error"

namespace Task

/-- The bytes that a task takes up: three words for its name and one for its priority. -/
def bytes : Nat := 32

/-- Household tasks to start with. -/
def household : List Task := [⟨"clean dishes", 2⟩, ⟨"write report", 1⟩]

/-- The household task that comes in later. -/
def householdLater : Task := ⟨"call mom", 0⟩

end Task

end Agenda
