/-!
# Nesting in a pattern

* `Pattern.Nesting` — how deep parts that stand side by side are nested: as deep as the deepest of
  them, and one deeper if there are several.
* `Pattern.maxDepth` — how deep a pattern may be nested.
-/

set_option autoImplicit false

namespace Agenda.Pattern

/-- How deep a pattern may be nested. -/
def maxDepth : Nat := 250

/-- Parts that stand side by side. -/
structure Nesting where
  /-- Their number. -/
  parts : Nat := 0
  /-- The depth of the deepest. -/
  deepest : Nat := 0
  deriving DecidableEq

namespace Nesting

/-- Adds a part. -/
def add (nesting : Nesting) (depth : Nat) : Nesting :=
  ⟨nesting.parts + 1, max nesting.deepest depth⟩

/-- Takes into account that a part became deeper. -/
def deepen (nesting : Nesting) (depth : Nat) : Nesting :=
  { nesting with deepest := max nesting.deepest depth }

/-- The depth of the parts together. -/
def depth (nesting : Nesting) : Nat :=
  if nesting.parts ≤ 1 then nesting.deepest else nesting.deepest + 1

end Nesting

end Agenda.Pattern
