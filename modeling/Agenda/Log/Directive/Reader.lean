import Agenda.Log.Directive
import Agenda.Text.Alphanumeric
import Agenda.Text.Blank
import Agenda.Text.Bytes
import Agenda.Text.Pattern
/-!
# Reading directives

A directive is written `ORIGIN[ACTIVITY{FIELD}]=LEVEL`, with all parts optional and a lone level
standing for itself.

* `Directive.Draft` — what a directive is known to say when it has been read up to some place.
* `Draft.advance` — reads the next character.
* `Directive.ofText` — reads a directive.  The places where its parts begin and end are found in the
  text without the blanks around it and counted in bytes, and the parts are what lies between these
  places in the text with them.
* `SettingError` — why a directive cannot be read.
-/

set_option autoImplicit false

namespace Agenda

/-- Why the setting of a log cannot be read. -/
inductive SettingError where
  /-- It is not written in the form it should have. -/
  | malformed
  /-- A part of it would begin or end within a character. -/
  | torn
  deriving DecidableEq

namespace Directive

/-- How much of a directive has been read.  Places are given in bytes. -/
inductive Stage where
  | outset
  /-- An origin, or a level that stands alone. -/
  | word
  /-- The name of an activity, which begins at a place. -/
  | activity (start : Nat)
  /-- A field, which begins at a place. -/
  | field (start : Nat)
  /-- A field and the brace that closes it. -/
  | braced
  /-- All that stands between brackets, and the closing one. -/
  | bracketed
  /-- A level, which begins at a place. -/
  | level (start : Nat)
  deriving DecidableEq

/-- What a directive is known to say when it has been read up to some place. -/
structure Draft where
  directive : Directive := ⟨[], .always, some .trace⟩
  stage : Stage := .outset
  /-- The place. -/
  offset : Nat := 0

/-- The characters that may open an origin beside letters and numbers. -/
def opensOrigin (c : Char) : Bool :=
  c == '-' || c == ':' || c == '_' || Alphanumeric.isAlphanumeric c

/-- The part of a text between two places. -/
def part (s : List Char) (start stop : Nat) : Except SettingError (List Char) :=
  match Bytes.slice? start stop s with
  | some part => .ok part
  | none => .error .torn

/-- The threshold after an equals sign, or everything if nothing follows. -/
def thresholdOf (level : List Char) : Except SettingError Threshold :=
  if level.isEmpty then .ok (some .trace)
  else
    match Threshold.ofText? level with
    | some threshold => .ok threshold
    | none => .error .malformed

/-- Whether a text is the value of a field: a number or a pattern. -/
def isValue (s : List Char) : Bool := Decimal.isReal s || Pattern.isWellFormed s

/-- Adds a field to a condition: its name, or its name and a value, which goes up to another equals
sign. -/
def conditionOf (condition : Condition) (field : List Char) : Except SettingError Condition :=
  if field.isEmpty then .error .malformed
  else
    match field.dropWhile (· ≠ '=') with
    | [] => .ok (if condition = .within then .within else .field (String.ofList field))
    | _ :: value => if isValue (value.takeWhile (· ≠ '=')) then .ok .within else .error .malformed

namespace Draft

/-- Reads a character of the text `s`. -/
def advance (s : List Char) (draft : Draft) (c : Char) : Except SettingError Draft := do
  let here := draft.offset
  let next := here + c.utf8Size
  let directive := draft.directive
  match draft.stage, c with
  | .outset, '[' => return ⟨directive, .activity next, next⟩
  | .outset, c => if opensOrigin c then return ⟨directive, .word, next⟩ else throw .malformed
  | .word, '=' => return ⟨{ directive with origin := ← part s 0 here }, .level next, next⟩
  | .word, '[' => return ⟨{ directive with origin := ← part s 0 here }, .activity next, next⟩
  | .word, _ => return ⟨directive, .word, next⟩
  | .activity start, ']' =>
    let _ ← part s start here
    return ⟨{ directive with condition := .within }, .bracketed, next⟩
  | .activity start, '\x7b' =>
    let name ← part s start here
    let condition := if name.isEmpty then directive.condition else .within
    return ⟨{ directive with condition }, .field next, next⟩
  | .activity start, _ => return ⟨directive, .activity start, next⟩
  | .field start, '\x7d' =>
    let condition ← conditionOf directive.condition (← part s start here)
    return ⟨{ directive with condition }, .braced, next⟩
  | .field start, _ => return ⟨directive, .field start, next⟩
  | .braced, ']' => return ⟨directive, .bracketed, next⟩
  | .bracketed, '=' => return ⟨directive, .level next, next⟩
  | .level start, _ => return ⟨directive, .level start, next⟩
  | _, _ => throw .malformed

/-- Ends a directive after all characters of the text `s`, also the blanks at its end. -/
def finish (s : List Char) (draft : Draft) : Except SettingError Directive := do
  let directive := draft.directive
  match draft.stage with
  | .word =>
    match Threshold.ofText? s with
    | some threshold => return { directive with threshold }
    | none => return { directive with origin := s }
  | .level start =>
    return { directive with threshold := ← thresholdOf (← part s start (Bytes.size s)) }
  | .bracketed => return directive
  | _ => throw .malformed

end Draft

/-- Reads a directive. -/
def ofText (s : List Char) : Except SettingError Directive := do
  let draft ← (Blank.trim s).foldlM (Draft.advance s) {}
  draft.finish s

end Directive

end Agenda
