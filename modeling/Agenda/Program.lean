import Agenda.CommandLine.Scan
import Agenda.Log.Filter
import Agenda.Session
/-!
# The program from outside

* `Invocation` — how the program is started.
* `Transcript` — what it leaves behind: an exit code, the text on its output, its log, and what was
  wrong, if anything: with the command line, with the setting of the log or with the tasks, or what
  broke it off.
* `Program.run` — one from the other.

The wording of the help, and of what is said about a bad command line or setting, is left out.
-/

set_option autoImplicit false

namespace Agenda

/-- How the program is started. -/
structure Invocation where
  words : List String
  /-- The path of a task file from the environment. -/
  taskFile : Option String := none
  /-- The setting of the log from the environment; it wins over the command line. -/
  logSetting : Option String := none

/-- What the program leaves behind. -/
structure Transcript where
  exitCode : Nat
  output : String := ""
  /-- What is wrong with the command line. -/
  complaint : Option UsageStop := none
  /-- Why the setting of the log could not be read. -/
  settingError : Option SettingError := none
  /-- Why the tasks could not be obtained. -/
  error : Option String := none
  /-- What broke the program off. -/
  fault : Option String := none
  log : List String := []

namespace Program

/-- The name and version of the program. -/
def versionText : String := "heapq 0.1.0\n"

/-- The transcript of a command line that leads to no run. -/
def stopped (stop : UsageStop) : Transcript :=
  match stop with
  | .help => { exitCode := stop.exitCode }
  | .version => { exitCode := stop.exitCode, output := versionText }
  | _ => { exitCode := stop.exitCode, complaint := some stop }

/-- Which events are shown.  A malformed setting counts as none. -/
def filter (invocation : Invocation) (args : Arguments) : Except SettingError Filter :=
  match invocation.logSetting.map Filter.ofSetting with
  | none => .ok (.upTo args.logLevel)
  | some (.ok filter) => .ok filter
  | some (.error .malformed) => .ok (.upTo args.logLevel)
  | some (.error .torn) => .error .torn

/-- The transcript of a run under a filter of its log. -/
def execute (args : Arguments) (files : Files) (filter : Filter) : Transcript :=
  let outcome := Session.execute args files
  let log := (outcome.events.filter filter.admits).map Event.line
  let output := outcome.written
  match outcome.result with
  | .ok _ => { exitCode := 0, output, log }
  | .error (.task cause) => { exitCode := 1, output, error := some cause.message, log }
  | .error (.fault fault) => { exitCode := 101, output, fault := some fault.message, log }

/-- Runs the program. -/
def run (invocation : Invocation) (files : Files) : Transcript :=
  match Arguments.ofWords invocation.words invocation.taskFile with
  | .error stop => stopped stop
  | .ok args =>
    match filter invocation args with
    | .ok filter => execute args files filter
    | .error error => { exitCode := 101, settingError := some error }

end Program

end Agenda
