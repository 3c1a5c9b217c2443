import Agenda.Log
import Agenda.Text.Decimal
/-!
# Directives of the log

* `Threshold` — the most detailed level that is let through.
* `Directive` — a threshold for some of the events: those of an origin, those that have a field.
* `Directive.concerns`, `Directive.outranks` — which events it is about, and which of two directives
  is the more specific one.
-/

set_option autoImplicit false

namespace Agenda

/-- The most detailed level that is let through; without one nothing is. -/
abbrev Threshold := Option Level

namespace Threshold

/-- Whether a level is no more detailed than the threshold. -/
def admits (threshold : Threshold) (level : Level) : Bool :=
  match threshold with
  | none => false
  | some most => level.detail ≤ most.detail

/-- The threshold of a number. -/
def ofNumber? : Nat → Option Threshold
  | 0 => some none
  | 1 => some (some .error)
  | 2 => some (some .warn)
  | 3 => some (some .info)
  | 4 => some (some .debug)
  | 5 => some (some .trace)
  | _ => none

/-- The threshold of a number or of a name in any case. -/
def ofText? (s : List Char) : Option Threshold :=
  match Decimal.unsigned? s with
  | some n => ofNumber? n
  | none =>
    match (String.ofList s).toLower with
    | "off" => some none
    | "error" => some (some .error)
    | "warn" => some (some .warn)
    | "info" => some (some .info)
    | "debug" => some (some .debug)
    | "trace" => some (some .trace)
    | _ => none

end Threshold

/-- What a directive asks of an event beside its origin. -/
inductive Condition where
  | always
  /-- The event has a field of this name. -/
  | field (name : String)
  /-- The event lies within a named activity, or a field of one has a certain value.  No event here
  lies within any. -/
  | within
  deriving DecidableEq

/-- A threshold for some of the events. -/
structure Directive where
  /-- How the origin of the events begins. -/
  origin : List Char
  condition : Condition
  threshold : Threshold
  deriving DecidableEq

namespace Directive

/-- Whether a directive is about an event.  The message counts among the fields. -/
def concerns (d : Directive) (e : Event) : Bool :=
  d.origin.isPrefixOf e.origin.toList &&
    match d.condition with
    | .always => true
    | .field name => name == "message" || e.fields.any (·.1 == name)
    | .within => false

/-- The field a directive asks for. -/
def field? (d : Directive) : Option String :=
  match d.condition with
  | .field name => some name
  | _ => none

/-- Whether the first directive is more specific than the second: a longer origin comes first, then
having a field, then the later name of one. -/
def outranks (d d' : Directive) : Bool :=
  d'.origin.length < d.origin.length ||
    (d.origin.length == d'.origin.length &&
      match d.field?, d'.field? with
      | some name, some name' => name' < name
      | some _, none => true
      | none, _ => false)

end Directive

end Agenda
