import Agenda.Log
import Agenda.Settings
/-!
# What a command line asks for

* `Arguments` — a command line once it is understood.
* `UsageStop` — why a command line leads to no run: it asks for help or for the version, or it is
  refused.
-/

set_option autoImplicit false

namespace Agenda

/-- A command line once it is understood. -/
structure Arguments where
  /-- How many times more detail was asked for, up to 255. -/
  verbosity : Nat := 0
  /-- Specifications of tasks to build the queue from. -/
  tasks : List String := []
  /-- Specifications of tasks to insert after the queue is built. -/
  added : List String := []
  /-- The path of a task file. -/
  file : Option String := none
  /-- Slots to reserve before the queue is built. -/
  capacity : UInt64 := 0
  /-- Greatest priority first. -/
  maxFirst : Bool := false
  /-- Report in JSON. -/
  json : Bool := false
  /-- Start from the household tasks. -/
  demo : Bool := false
  deriving DecidableEq

namespace Arguments

/-- The order asked for. -/
def order (args : Arguments) : QueueOrder := if args.maxFirst then .max else .min

/-- The queue settings asked for. -/
def settings (args : Arguments) : Settings :=
  .ofChoices [.initialCapacity args.capacity, .order args.order]

/-- The level of detail asked for. -/
def logLevel (args : Arguments) : Level :=
  match args.verbosity with
  | 0 => .warn
  | 1 => .info
  | 2 => .debug
  | _ => .trace

end Arguments

/-- Why a command line leads to no run. -/
inductive UsageStop where
  | help
  | version
  /-- An option without the value it needs, or with an empty path. -/
  | invalidValue
  /-- Something that looks like an option and is none. -/
  | unknownArgument
  /-- A flag with a value. -/
  | tooManyValues
  /-- An option given twice that may be given once. -/
  | argumentConflict
  /-- A value that is not of the right kind. -/
  | valueValidation
  deriving DecidableEq

namespace UsageStop

/-- The name of a reason. -/
def kind : UsageStop → String
  | .help => "DisplayHelp"
  | .version => "DisplayVersion"
  | .invalidValue => "InvalidValue"
  | .unknownArgument => "UnknownArgument"
  | .tooManyValues => "TooManyValues"
  | .argumentConflict => "ArgumentConflict"
  | .valueValidation => "ValueValidation"

/-- Help and version are granted; everything else is an error of usage. -/
def exitCode : UsageStop → Nat
  | .help => 0
  | .version => 0
  | _ => 2

end UsageStop

end Agenda
