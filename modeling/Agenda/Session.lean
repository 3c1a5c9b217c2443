import Agenda.CommandLine.Arguments
import Agenda.PriorityQueue
import Agenda.Task.Json
import Agenda.Task.Spec
/-!
# Working through tasks

A session gathers tasks, builds a queue of them, inserts the later ones and drains the queue.  On its
way it reports events, writes text and may break off; what it has reported and written by then
stays.

* `Session` — a step of a session: it goes on from the `Progress` so far or breaks the session off.
* `Session.gather` — the tasks of a session: the file first, then the words of the command line in
  turn.  The first source that fails breaks the session off.
* `Session.fill` — the queue of the tasks.
* `Session.serve` — writes the tasks as the queue gives them out.
* `Session.execute` — all of it, and the `Outcome` that it leaves behind.
-/

set_option autoImplicit false

namespace Agenda

/-- What is found under a path. -/
abbrev Files := String → Except ReadError ByteArray

/-- The tasks of a session. -/
structure Plan where
  /-- Tasks that the queue is built from. -/
  initial : List Task
  /-- Tasks that are inserted one by one afterwards. -/
  later : List Task

/-- Why a session comes to no end. -/
inductive SessionError where
  | task (cause : TaskError)
  | fault (fault : Fault)

/-- What a session has done so far. -/
structure Progress where
  events : Array Event := #[]
  written : String := ""

/-- A step of a session. -/
abbrev Session := EStateM SessionError Progress

/-- What a session leaves behind. -/
structure Outcome where
  events : List Event
  /-- All that was written, also if the session broke off. -/
  written : String
  result : Except SessionError Unit

/-- The text of a session that came to its end. -/
def Outcome.text (outcome : Outcome) : Except SessionError String :=
  outcome.result.map fun _ => outcome.written

namespace Session

/-! ## Steps -/

/-- Reports an event. -/
def report (e : Event) : Session Unit :=
  modify fun done => { done with events := done.events.push e }

/-- Writes a text to the output. -/
def write (text : String) : Session Unit :=
  modify fun done => { done with written := done.written ++ text }

/-- Goes on with tasks, if there was nothing wrong with them. -/
def ofTasks : Except TaskError (List Task) → Session (List Task)
  | .ok tasks => return tasks
  | .error cause => throw (.task cause)

/-- Carries out an inquiry, answered by an order. -/
def ask {α : Type} (order : QueueOrder) (t : Inquiry Int64 α) : Session α := do
  let who := (order.ranking : Ranking Int64).precedes
  modify fun done => { done with events := done.events ++ t.events who }
  return t.answer who

/-! ## Gathering -/

/-- The tasks of the task file, if one is named. -/
def fileTasks (args : Arguments) (files : Files) : Except TaskError (List Task) :=
  match args.file with
  | some path => Task.ofFile (files path)
  | none => .ok []

/-- Reads the task file and reports it. -/
def load (args : Arguments) (files : Files) : Session (List Task) := do
  let tasks ← ofTasks (fileTasks args files)
  if let some path := args.file then
    report (.loadedTasks path tasks.length)
  return tasks

/-- The plan of some tasks, with the household tasks in front where they are asked for. -/
def plan (demo : Bool) (fromFile positional added : List Task) : Plan where
  initial := (if demo then Task.household else []) ++ fromFile ++ positional
  later := (if demo then [Task.householdLater] else []) ++ added

/-- Gathers the tasks of a session. -/
def gather (args : Arguments) (files : Files) : Session Plan := do
  let fromFile ← load args files
  let positional ← ofTasks (Task.ofSpecs args.tasks)
  let added ← ofTasks (Task.ofSpecs args.added)
  return plan args.demo fromFile positional added

/-! ## Filling the queue -/

/-- Inserts tasks one by one, announcing each. -/
def insertLater (q : PriorityQueue String Int64 QueueOrder) :
    List Task → Inquiry Int64 (PriorityQueue String Int64 QueueOrder)
  | [] => return q
  | task :: tasks => do
    Inquiry.report (.insertingTask task.value task.priority.toInt)
    insertLater (← q.insert task) tasks

/-- Builds the queue of a plan and inserts the later tasks. -/
def fill (args : Arguments) (plan : Plan) : Session (PriorityQueue String Int64 QueueOrder) :=
  match PriorityQueue.ofSettings Task.bytes plan.initial args.settings with
  | .error fault => throw (.fault fault)
  | .ok build => do
    let q ← ask args.order build
    report (.builtQueue q.size args.settings.order)
    ask args.order (insertLater q plan.later)

/-! ## Serving -/

/-- One line for a task. -/
def line (task : Task) : String := "Doing task: " ++ task.value ++ "\n"

/-- Tasks as a JSON array. -/
def array (tasks : List Task) : String :=
  String.ofList (Json.array (tasks.map Task.toJson)).pretty

/-- Takes tasks off the queue, at most as many as the limit, and writes a line for each before the
next is taken. -/
def writeLines (order : QueueOrder) (q : PriorityQueue String Int64 QueueOrder) : Nat → Session Unit
  | 0 => return ()
  | limit + 1 => do
    match ← ask order q.pop with
    | (some task, rest) => do
      write (line task)
      writeLines order rest limit
    | (none, _) => return ()

/-- Drains the queue and writes its tasks: an array once all of them are taken, or line by line. -/
def serve (args : Arguments) (q : PriorityQueue String Int64 QueueOrder) : Session Unit :=
  if args.json then do
    let (tasks, _) ← ask args.order (q.drain none)
    write (array tasks)
    write "\n"
  else writeLines args.order q q.size

/-! ## The whole session -/

/-- The steps that a command line asks for. -/
def carryOut (args : Arguments) (files : Files) : Session Unit := do
  let plan ← gather args files
  let q ← fill args plan
  serve args q

/-- Carries out what a command line asks for. -/
def execute (args : Arguments) (files : Files) : Outcome :=
  match EStateM.run (carryOut args files) {} with
  | .ok _ done => ⟨done.events.toList, done.written, .ok ()⟩
  | .error error done => ⟨done.events.toList, done.written, .error error⟩

end Session

end Agenda
