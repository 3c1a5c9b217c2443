import Agenda.CommandLine.Arguments
import Agenda.Text.Decimal
import Agenda.Word
/-!
# Reading a command line

Words are read from left to right and the first problem ends the reading.

* `Flag`, `Valued` — the options without and with a value, by their names.
* `Scan` — what has been understood so far, and an option whose value is still outstanding or has
  not been looked at yet.
* `Scan.settle` — looks at the value of the outstanding option.  That happens when the next known
  option or a plain word comes up, or at the end; so a word that is no option at all is reported
  before a bad value in front of it.
* `Arguments.ofWords` — the whole reading.  The path in the environment counts only if the words
  name no file.
-/

set_option autoImplicit false

namespace Agenda

/-- An option without a value. -/
inductive Flag where
  | verbose
  | maxFirst
  | json
  | demo
  | help
  | version
  deriving DecidableEq

/-- An option with a value. -/
inductive Valued where
  | file
  | add
  | capacity
  deriving DecidableEq

/-- The option of a name after two dashes. -/
def optionOfLong? : String → Option (Flag ⊕ Valued)
  | "verbose" => some (.inl .verbose)
  | "max-first" => some (.inl .maxFirst)
  | "json" => some (.inl .json)
  | "demo" => some (.inl .demo)
  | "help" => some (.inl .help)
  | "version" => some (.inl .version)
  | "file" => some (.inr .file)
  | "add" => some (.inr .add)
  | "capacity" => some (.inr .capacity)
  | _ => none

/-- The option of a letter after one dash. -/
def optionOfShort? : Char → Option (Flag ⊕ Valued)
  | 'v' => some (.inl .verbose)
  | 'h' => some (.inl .help)
  | 'V' => some (.inl .version)
  | 'f' => some (.inr .file)
  | 'a' => some (.inr .add)
  | _ => none

/-- How far the reading of a command line has come. -/
structure Scan where
  args : Arguments := {}
  /-- Whether the capacity has been given. -/
  sized : Bool := false
  /-- The latest option with a value: the value, once it has come. -/
  pending : Option (Valued × Option String) := none

namespace Scan

/-- Takes up the value of an option. -/
def store (scan : Scan) (value : String) : Valued → Except UsageStop Scan
  | .add => .ok { scan with args := { scan.args with added := scan.args.added ++ [value] } }
  | .file =>
    if scan.args.file.isSome then .error .argumentConflict
    else if value.isEmpty then .error .invalidValue
    else .ok { scan with args := { scan.args with file := some value } }
  | .capacity =>
    if scan.sized then .error .argumentConflict
    else
      match Decimal.unsigned? value.toList >>= Word.unsigned? with
      | some slots =>
        .ok { scan with args := { scan.args with capacity := slots }, sized := true }
      | none => .error .valueValidation

/-- Looks at the value of the outstanding option, if there is one. -/
def settle (scan : Scan) : Except UsageStop Scan :=
  match scan.pending with
  | none => .ok scan
  | some (_, none) => .error .invalidValue
  | some (option, some value) => { scan with pending := none }.store value option

/-- Takes up a flag. -/
def raise (scan : Scan) : Flag → Except UsageStop Scan
  | .verbose =>
    .ok { scan with args := { scan.args with verbosity := min 255 (scan.args.verbosity + 1) } }
  | .maxFirst =>
    if scan.args.maxFirst then .error .argumentConflict
    else .ok { scan with args := { scan.args with maxFirst := true } }
  | .json =>
    if scan.args.json then .error .argumentConflict
    else .ok { scan with args := { scan.args with json := true } }
  | .demo =>
    if scan.args.demo then .error .argumentConflict
    else .ok { scan with args := { scan.args with demo := true } }
  | .help => .error .help
  | .version => .error .version

/-- Reads a long option and the value after its equals sign, if it has one. -/
def long (scan : Scan) (name : String) (attached : Option String) : Except UsageStop Scan :=
  match optionOfLong? name, attached with
  | none, _ => .error .unknownArgument
  | some (.inl _), some _ => .error .tooManyValues
  | some (.inl flag), none => do (← scan.settle).raise flag
  | some (.inr option), some value => do (← scan.settle).store value option
  | some (.inr option), none => do return { ← scan.settle with pending := some (option, none) }

/-- Reads a bundle of short options.  The first one with a value takes all that follows it, less an
equals sign in front. -/
def short (scan : Scan) : List Char → Except UsageStop Scan
  | [] => .ok scan
  | letter :: rest =>
    match optionOfShort? letter with
    | none => .error .unknownArgument
    | some (.inl flag) => do (← (← scan.settle).raise flag).short rest
    | some (.inr option) => do
      let scan ← scan.settle
      match rest with
      | [] => return { scan with pending := some (option, none) }
      | '=' :: value => scan.store (String.ofList value) option
      | value => scan.store (String.ofList value) option

/-- Takes up a word as the specification of a task. -/
def positional (scan : Scan) (word : String) : Except UsageStop Scan := do
  let scan ← scan.settle
  return { scan with args := { scan.args with tasks := scan.args.tasks ++ [word] } }

/-- Reads a word that is not an option: the value that is outstanding, or a task. -/
def plain (scan : Scan) (word : String) : Except UsageStop Scan :=
  match scan.pending with
  | some (option, none) => .ok { scan with pending := some (option, some word) }
  | _ => scan.positional word

/-- Divides the text of a long option at its first equals sign. -/
def splitAttached (text : List Char) : String × Option String :=
  (String.ofList (text.takeWhile (· ≠ '=')),
    (text.dropWhile (· ≠ '=')).tail?.map String.ofList)

/-- Reads all words.  After a word of two dashes every word is a task. -/
def words (scan : Scan) : List String → Except UsageStop Scan
  | [] => .ok scan
  | word :: rest =>
    match word.toList with
    | ['-', '-'] => rest.foldlM positional scan
    | '-' :: '-' :: text => do
      let (name, attached) := splitAttached text
      (← scan.long name attached).words rest
    | '-' :: letter :: letters => do (← scan.short (letter :: letters)).words rest
    | _ => do (← scan.plain word).words rest

end Scan

/-- The path from the environment, where the words name none. -/
def Arguments.withFallback (args : Arguments) : Option String → Except UsageStop Arguments
  | none => .ok args
  | some path =>
    if args.file.isSome then .ok args
    else if path.isEmpty then .error .invalidValue
    else .ok { args with file := some path }

/-- Reads a command line: its words and the path of a task file from the environment. -/
def Arguments.ofWords (words : List String) (environment : Option String) :
    Except UsageStop Arguments := do
  let scan ← Scan.words {} words
  (← scan.settle).args.withFallback environment

end Agenda
