/-!
# Sets of code points

A set of code points is a list of closed ranges.  `CodePoints.contains` looks a code point up;
`CodePoints.Ascending` and `CodePoints.count` check a table.
-/

set_option autoImplicit false

namespace Agenda

/-- A set of code points, as closed ranges. -/
abbrev CodePoints := List (Nat × Nat)

namespace CodePoints

/-- Whether a code point lies in one of the ranges. -/
def contains (ranges : CodePoints) (n : Nat) : Bool := ranges.any fun r => r.1 ≤ n && n ≤ r.2

/-- The ranges are in order and neither empty nor adjacent. -/
def Ascending : CodePoints → Prop
  | [] => True
  | [r] => r.1 ≤ r.2
  | r :: s :: rest => r.1 ≤ r.2 ∧ r.2 + 1 < s.1 ∧ Ascending (s :: rest)

instance decideAscending : (ranges : CodePoints) → Decidable ranges.Ascending
  | [] => isTrue trivial
  | [r] => inferInstanceAs (Decidable (r.1 ≤ r.2))
  | r :: s :: rest =>
    have := decideAscending (s :: rest)
    inferInstanceAs (Decidable (r.1 ≤ r.2 ∧ r.2 + 1 < s.1 ∧ Ascending (s :: rest)))

/-- The number of code points in ranges that do not overlap. -/
def count (ranges : CodePoints) : Nat := ranges.foldr (fun r n => r.2 + 1 - r.1 + n) 0

end CodePoints

end Agenda
