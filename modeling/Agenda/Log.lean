import Agenda.Ranking
/-!
# The log

* `Level` — how weighty an event is.
* `Event` — everything that is ever reported, as data, with where it comes from (`Event.origin`) and
  its particulars (`Event.fields`).
* `Event.line` — an event as one line of text: its level, its message, its fields.
-/

set_option autoImplicit false

namespace Agenda

/-- How weighty an event is. -/
inductive Level where
  | error
  | warn
  | info
  | debug
  | trace
  deriving DecidableEq

namespace Level

/-- The level as it opens a line. -/
def name : Level → String
  | .error => "ERROR"
  | .warn => "WARN"
  | .info => "INFO"
  | .debug => "DEBUG"
  | .trace => "TRACE"

/-- Levels by growing detail. -/
def detail : Level → Nat
  | .error => 1
  | .warn => 2
  | .info => 3
  | .debug => 4
  | .trace => 5

end Level

/-- What the queue and the command report while they work. -/
inductive Event where
  /-- Several items are being put into heap order at once. -/
  | heapifying (items : Nat)
  /-- An item came in; this many are stored now. -/
  | inserted (size : Nat)
  /-- An item went out; this many are left. -/
  | removed (size : Nat)
  /-- A removal was asked of a queue that has no items. -/
  | removeOnEmpty
  /-- A task file was read. -/
  | loadedTasks (path : String) (count : Nat)
  /-- The queue of a run was built. -/
  | builtQueue (tasks : Nat) (order : QueueOrder)
  /-- A task is about to be inserted after the queue was built. -/
  | insertingTask (task : String) (priority : Int)
  deriving DecidableEq

namespace Event

/-- The level at which an event is reported. -/
def level : Event → Level
  | .heapifying _ => .debug
  | .inserted _ => .trace
  | .removed _ => .trace
  | .removeOnEmpty => .debug
  | .loadedTasks _ _ => .debug
  | .builtQueue _ _ => .info
  | .insertingTask _ _ => .debug

/-- The part of the program that an event comes from, as settings of the log name it. -/
def origin : Event → String
  | .heapifying _ => "heapq::queue"
  | .inserted _ => "heapq::queue"
  | .removed _ => "heapq::queue"
  | .removeOnEmpty => "heapq::queue"
  | .loadedTasks _ _ => "heapq_cli::task"
  | .builtQueue _ _ => "heapq_cli::commands"
  | .insertingTask _ _ => "heapq_cli::commands"

/-- What happened. -/
def message : Event → String
  | .heapifying _ => "heapifying priority queue"
  | .inserted _ => "inserted item"
  | .removed _ => "removed item"
  | .removeOnEmpty => "remove called on empty priority queue"
  | .loadedTasks _ _ => "loaded tasks"
  | .builtQueue _ _ => "built task queue"
  | .insertingTask _ _ => "inserting task"

/-- The particulars, by name. -/
def fields : Event → List (String × String)
  | .heapifying items => [("items", toString items)]
  | .inserted size => [("len", toString size)]
  | .removed size => [("len", toString size)]
  | .removeOnEmpty => []
  | .loadedTasks path count => [("path", path), ("count", toString count)]
  | .builtQueue tasks order => [("tasks", toString tasks), ("order", order.name)]
  | .insertingTask task priority => [("task", task), ("priority", toString priority)]

/-- An event as one line. -/
def line (e : Event) : String :=
  String.join (e.level.name :: " " :: e.message ::
    e.fields.map fun f => " " ++ f.1 ++ "=" ++ f.2)

end Event

end Agenda
