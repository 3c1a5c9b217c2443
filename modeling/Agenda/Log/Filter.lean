import Agenda.Log.Directive.Reader
/-!
# Which events are shown

* `Filter` — directives together.  For each event the most specific one that is about it decides
  (`Filter.decisive?`), and without one the event is not shown (`Filter.admits`).
* `Filter.ofSetting` — reads a filter, its directives divided by commas.  The first that cannot be
  read spoils the whole setting.
-/

set_option autoImplicit false

namespace Agenda

/-- Directives that together say which events are shown, in the order they were given. -/
abbrev Filter := List Directive

namespace Filter

/-- The filter that lets every event up to a level through. -/
def upTo (level : Level) : Filter := [⟨[], .always, some level⟩]

/-- The directive that decides about an event: the most specific of those about it, and of equally
specific ones the last. -/
def decisive? (filter : Filter) (e : Event) : Option Directive :=
  (filter.filter (·.concerns e)).foldl (fun best d =>
    match best with
    | some b => if b.outranks d then some b else some d
    | none => some d) none

/-- Whether an event is shown. -/
def admits (filter : Filter) (e : Event) : Bool :=
  (filter.decisive? e).any fun d => d.threshold.admits e.level

/-- Divides a text at every comma. -/
def pieces (s : List Char) : List (List Char) := s.splitOn ','

/-- Reads a filter.  A setting without directives lets errors through. -/
def ofSetting (setting : String) : Except SettingError Filter := do
  let directives ← ((pieces setting.toList).filter (!·.isEmpty)).mapM Directive.ofText
  return if directives.isEmpty then upTo .error else directives

end Filter

end Agenda
