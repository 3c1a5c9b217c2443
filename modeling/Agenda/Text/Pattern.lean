import Agenda.Text.Alphanumeric
import Agenda.Text.Pattern.Class
/-!
# Patterns

A pattern describes texts, as a regular expression does: elements and classes of characters, one
after the other, `|` between alternatives, parentheses around groups, `*`, `+` and `?` for
repetition, and flags.

* `Pattern.Branches` — the alternatives of a group and the parts of the last one.
* `Pattern.Reading` — what is known of a pattern that has been read up to some place.
* `Reading.step?` — reads the next part of it.
* `Pattern.isWellFormed` — whether a text is a pattern.  What is written between braces is not
  known: an opening brace outside a class makes no pattern.  Nor may it be nested too deep, where
  groups, classes, repetitions and parts that stand side by side each make a level.
-/

set_option autoImplicit false

namespace Agenda.Pattern

/-- What has been read of a group, or of the pattern around all groups. -/
structure Branches where
  /-- The alternatives that are complete. -/
  complete : Nesting := {}
  /-- The parts of the one that is being read. -/
  parts : Nesting := {}
  /-- The depth of the last part, if there is one and it can be repeated. -/
  last? : Option Nat := none
  deriving DecidableEq

namespace Branches

/-- Adds a part. -/
def add (branches : Branches) (depth : Nat) : Branches :=
  { branches with parts := branches.parts.add depth, last? := some depth }

/-- Adds flags, which are a part that cannot be repeated. -/
def addFlags (branches : Branches) : Branches :=
  { branches with parts := branches.parts.add 0, last? := none }

/-- Repeats the last part. -/
def repeat? (branches : Branches) : Option Branches :=
  branches.last?.map fun depth =>
    { branches with parts := branches.parts.deepen (depth + 1), last? := some (depth + 1) }

/-- Begins another alternative. -/
def split (branches : Branches) : Branches :=
  { complete := branches.complete.add branches.parts.depth }

/-- How deep the alternatives are nested. -/
def depth (branches : Branches) : Nat := (branches.complete.add branches.parts.depth).depth

end Branches

/-- What is known of a pattern that has been read up to some place. -/
structure Reading where
  mode : Mode := {}
  branches : Branches := {}
  /-- What was known before each group that is open, the innermost first. -/
  groups : List (Mode × Branches) := []
  /-- The names that groups have. -/
  names : List (List Char) := []
  /-- The classes that are open, the innermost first. -/
  classes : List OpenClass := []
  deriving DecidableEq

namespace Reading

/-- Whether the pattern may end at this place. -/
def isComplete (reading : Reading) : Bool :=
  reading.groups.isEmpty && reading.classes.isEmpty && reading.branches.depth ≤ maxDepth

/-- The reading after a part. -/
def add (reading : Reading) (depth : Nat) : Reading :=
  { reading with branches := reading.branches.add depth }

/-- Opens a group, within which another mode may hold. -/
def opening (reading : Reading) (mode : Mode) : Reading :=
  { reading with
    mode, branches := {}, groups := (reading.mode, reading.branches) :: reading.groups }

/-- Closes a group. -/
def closing? (reading : Reading) : Option Reading :=
  match reading.groups with
  | [] => none
  | (mode, branches) :: groups =>
    some { reading with mode, branches := branches.add (reading.branches.depth + 1), groups }

/-- Whether a text names a group. -/
def isName : List Char → Bool
  | [] => false
  | c :: s =>
    (c == '_' || Alphabetic.isAlphabetic c) &&
      s.all fun c => c ∈ ['_', '.', '[', ']'] || Alphanumeric.isAlphanumeric c

/-- Reads the name of a group and opens it. -/
def named? (reading : Reading) (s : List Char) : Option (Reading × List Char) :=
  let name := s.takeWhile (· ≠ '>')
  match s.dropWhile (· ≠ '>') with
  | [] => none
  | _ :: rest =>
    if isName name && name ∉ reading.names then
      some ({ reading.opening reading.mode with names := name :: reading.names }, rest)
    else none

/-- Reads flags.  They hold in the group that a colon opens, or else from here to the end of the
group around them. -/
def flagged? (reading : Reading) (s : List Char) : Option (Reading × List Char) :=
  let setting := s.takeWhile fun c => c ≠ ':' ∧ c ≠ ')'
  match s.dropWhile fun c => c ≠ ':' ∧ c ≠ ')' with
  | ':' :: rest => (reading.mode.set? setting).map fun mode => (reading.opening mode, rest)
  | ')' :: rest =>
    if setting.isEmpty then none
    else
      (reading.mode.set? setting).map fun mode =>
        ({ reading with mode, branches := reading.branches.addFlags }, rest)
  | _ => none

/-- Reads what follows an opening parenthesis. -/
def group? (reading : Reading) (s : List Char) : Option (Reading × List Char) :=
  match s with
  | '?' :: 'P' :: '<' :: s => reading.named? s
  | '?' :: '<' :: s => reading.named? s
  | '?' :: s => reading.flagged? s
  | s => some (reading.opening reading.mode, s)

/-- Reads an element of which the first character is given. -/
def element? (reading : Reading) (c : Char) (s : List Char) : Option (Reading × List Char) :=
  match Element.read? reading.mode c s with
  | some (element, rest) =>
    if element.isUsable reading.mode then some (reading.add 0, rest) else none
  | none => none

/-- Repeats the last part.  A question mark after the sign asks for few repetitions. -/
def repeat? (reading : Reading) (s : List Char) : Option (Reading × List Char) :=
  reading.branches.repeat?.map fun branches =>
    ({ reading with branches },
      match s with
      | '?' :: rest => rest
      | rest => rest)

/-- Reads a part of a pattern outside of its classes. -/
def outside? (reading : Reading) (c : Char) (s : List Char) : Option (Reading × List Char) :=
  match c with
  | '(' => reading.group? (reading.mode.skip s)
  | ')' => reading.closing?.map fun next => (next, s)
  | '|' => some ({ reading with branches := reading.branches.split }, s)
  | '[' => some ({ reading with classes := [{}] }, s)
  | '*' | '+' | '?' => reading.repeat? s
  | '\x7b' => none
  | '.' => if reading.mode.unicode then some (reading.add 0, s) else none
  | '^' | '$' => some (reading.add 0, s)
  | c => reading.element? c s

/-- Reads a part of a pattern of which the first character is given, and gives back what follows. -/
def step? (reading : Reading) (c : Char) (s : List Char) : Option (Reading × List Char) :=
  match reading.classes with
  | [] => reading.outside? c s
  | cls :: outer =>
    match OpenClass.step? reading.mode cls outer c s with
    | some (.within cls outer, rest) => some ({ reading with classes := cls :: outer }, rest)
    | some (.closed depth, rest) => some ({ reading.add depth with classes := [] }, rest)
    | none => none

/-! ## What is left is no longer -/

theorem length_named?_le {reading next : Reading} {s t : List Char}
    (h : reading.named? s = some (next, t)) : t.length ≤ s.length := by
  unfold named? at h
  dsimp only at h
  have hdrop := (List.dropWhile_sublist (fun c => decide (c ≠ '>')) (l := s)).length_le
  split at h
  · simp at h
  · next rest hrest =>
    rw [hrest] at hdrop
    split at h
    · obtain ⟨_, rfl⟩ := Prod.mk.inj (Option.some.inj h)
      exact Nat.le_of_succ_le hdrop
    · simp at h

theorem length_flagged?_le {reading next : Reading} {s t : List Char}
    (h : reading.flagged? s = some (next, t)) : t.length ≤ s.length := by
  unfold flagged? at h
  dsimp only at h
  have hdrop :=
    (List.dropWhile_sublist (fun c => decide (c ≠ ':' ∧ c ≠ ')')) (l := s)).length_le
  split at h
  · next rest hrest =>
    rw [hrest] at hdrop
    obtain ⟨_, _, hc⟩ := Option.map_eq_some_iff.1 h
    obtain ⟨_, rfl⟩ := Prod.mk.inj hc
    exact Nat.le_of_succ_le hdrop
  · next rest hrest =>
    rw [hrest] at hdrop
    split at h
    · simp at h
    · obtain ⟨_, _, hc⟩ := Option.map_eq_some_iff.1 h
      obtain ⟨_, rfl⟩ := Prod.mk.inj hc
      exact Nat.le_of_succ_le hdrop
  · simp at h

theorem length_group?_le {reading next : Reading} {s t : List Char}
    (h : reading.group? s = some (next, t)) : t.length ≤ s.length := by
  unfold group? at h
  split at h
  · have := length_named?_le h
    simp only [List.length_cons]
    omega
  · have := length_named?_le h
    simp only [List.length_cons]
    omega
  · have := length_flagged?_le h
    simp only [List.length_cons]
    omega
  · obtain ⟨_, rfl⟩ := Prod.mk.inj (Option.some.inj h)
    exact Nat.le_refl _

theorem length_element?_le {reading next : Reading} {c : Char} {s t : List Char}
    (h : reading.element? c s = some (next, t)) : t.length ≤ s.length := by
  unfold element? at h
  split at h
  · next hread =>
    split at h
    · obtain ⟨_, rfl⟩ := Prod.mk.inj (Option.some.inj h)
      exact Element.length_read?_le hread
    · simp at h
  · simp at h

theorem length_repeat?_le {reading next : Reading} {s t : List Char}
    (h : reading.repeat? s = some (next, t)) : t.length ≤ s.length := by
  obtain ⟨_, _, hc⟩ := Option.map_eq_some_iff.1 h
  obtain ⟨_, rfl⟩ := Prod.mk.inj hc
  split
  · exact Nat.le_succ _
  · exact Nat.le_refl _

theorem length_outside?_le {reading next : Reading} {c : Char} {s t : List Char}
    (h : reading.outside? c s = some (next, t)) : t.length ≤ s.length := by
  unfold outside? at h
  split at h
  · exact Nat.le_trans (length_group?_le h) (reading.mode.length_skip_le s)
  · obtain ⟨_, _, hc⟩ := Option.map_eq_some_iff.1 h
    obtain ⟨_, rfl⟩ := Prod.mk.inj hc
    exact Nat.le_refl _
  · simp_all
  · simp_all
  · exact length_repeat?_le h
  · exact length_repeat?_le h
  · exact length_repeat?_le h
  · simp at h
  · split at h <;> simp_all
  · simp_all
  · simp_all
  · exact length_element?_le h

theorem length_step?_le {reading next : Reading} {c : Char} {s t : List Char}
    (h : reading.step? c s = some (next, t)) : t.length ≤ s.length := by
  unfold step? at h
  split at h
  · exact length_outside?_le h
  · split at h
    · next hstep =>
      obtain ⟨_, rfl⟩ := Prod.mk.inj (Option.some.inj h)
      exact OpenClass.length_step?_le hstep
    · next hstep =>
      obtain ⟨_, rfl⟩ := Prod.mk.inj (Option.some.inj h)
      exact OpenClass.length_step?_le hstep
    · simp at h

/-- Reads a pattern to its end. -/
def accepts (reading : Reading) (s : List Char) : Bool :=
  match _ : reading.mode.skip s with
  | [] => reading.isComplete
  | c :: rest =>
    match _ : reading.step? c rest with
    | none => false
    | some (next, left) => next.accepts left
termination_by s.length
decreasing_by
  have hs : reading.mode.skip s = c :: rest := ‹_›
  have hstep : reading.step? c rest = some (next, left) := ‹_›
  have hrest := reading.mode.length_skip_le s
  have hleft := length_step?_le hstep
  rw [hs, List.length_cons] at hrest
  omega

end Reading

/-- Whether a text is a pattern. -/
def isWellFormed (s : List Char) : Bool := Reading.accepts {} s

end Agenda.Pattern
