import Agenda.Text.Blank
/-!
# Modes of a pattern

* `Pattern.Mode` — what the flags of a pattern say about how it is read.
* `Mode.set?` — a mode after flags such as `i-u`: those before the hyphen are set, those after it
  are cleared.
* `Mode.skip` — a text without the blanks and comments before it, where the mode allows them.
-/

set_option autoImplicit false

namespace Agenda.Pattern

/-- How a pattern is read.  The flags that only matter when a pattern is matched are not kept. -/
structure Mode where
  /-- Letters stand for both of their cases. -/
  caseless : Bool := false
  /-- The pattern is about characters, else about bytes. -/
  unicode : Bool := true
  /-- Blanks and comments between the elements do not count. -/
  spaced : Bool := false
  deriving DecidableEq

namespace Mode

/-- The flags there are. -/
def flags : List Char := ['i', 'm', 's', 'U', 'u', 'R', 'x']

/-- The value of a flag after a setting. -/
def flagAfter (setting : List Char) (flag : Char) (before : Bool) : Bool :=
  if flag ∈ setting then flag ∈ setting.takeWhile (· ≠ '-') else before

/-- The mode after a setting, in which no sign occurs twice and no hyphen comes last. -/
def set? (mode : Mode) (setting : List Char) : Option Mode :=
  if setting.all (fun c => c == '-' || c ∈ flags) ∧ setting.Nodup ∧ setting.getLast? ≠ some '-' then
    some {
      caseless := flagAfter setting 'i' mode.caseless
      unicode := flagAfter setting 'u' mode.unicode
      spaced := flagAfter setting 'x' mode.spaced }
  else none

/-- Drops blanks and comments.  A comment goes from a number sign to the end of the line. -/
def dropSpace (inComment : Bool) : List Char → List Char
  | [] => []
  | c :: s =>
    if inComment then dropSpace (c != '\n') s
    else if c == '#' then dropSpace true s
    else if Blank.isBlank c then dropSpace false s
    else c :: s

/-- Drops the blanks and comments that do not count. -/
def skip (mode : Mode) (s : List Char) : List Char :=
  if mode.spaced then dropSpace false s else s

/-- The character after what does not count, where the sign of a comment counts as a blank. -/
def ahead? (mode : Mode) (s : List Char) : Option Char :=
  if mode.spaced then
    match s.dropWhile Blank.isBlank with
    | '#' :: s => (s.dropWhile Blank.isBlank).head?
    | s => s.head?
  else s.head?

theorem length_dropSpace_le (inComment : Bool) (s : List Char) :
    (dropSpace inComment s).length ≤ s.length := by
  induction s generalizing inComment with
  | nil => exact Nat.le_refl _
  | cons c s ih =>
    rw [dropSpace]
    split
    · exact Nat.le_succ_of_le (ih _)
    · split
      · exact Nat.le_succ_of_le (ih _)
      · split
        · exact Nat.le_succ_of_le (ih _)
        · exact Nat.le_refl _

theorem length_skip_le (mode : Mode) (s : List Char) : (mode.skip s).length ≤ s.length := by
  unfold skip
  split
  · exact length_dropSpace_le false s
  · exact Nat.le_refl _

end Mode

end Agenda.Pattern
