import Agenda.Text.Pattern.Element
import Agenda.Text.Pattern.Nesting
/-!
# Classes of a pattern

A class between brackets has members, ranges of them, named classes and classes within it; operators
join what stands on their two sides, from the left.

* `Pattern.OpenClass` — what is known of a class that has been opened and not closed.
* `OpenClass.step?` — reads one part of the innermost open class.  In a pattern about bytes it
  matters whether the set that a class denotes goes beyond ASCII.  All members are ASCII there, and
  so the set has either all of the other bytes or none of them.
-/

set_option autoImplicit false

namespace Agenda.Pattern

/-- How two sets are joined. -/
inductive SetOperator where
  | intersection
  | difference
  | symmetricDifference
  deriving DecidableEq

/-- Whether something is in the joint set, when it is or is not in the two sets. -/
def SetOperator.apply : SetOperator → Bool → Bool → Bool
  | .intersection, a, b => a && b
  | .difference, a, b => a && !b
  | .symmetricDifference, a, b => a != b

/-- How much of a class has been read. -/
inductive ClassPlace where
  /-- The opening bracket. -/
  | opened
  /-- The sign of the complement too. -/
  | negated
  /-- Also hyphens, which are members there. -/
  | hyphens
  /-- More than that. -/
  | inside
  deriving DecidableEq

/-- The set on the left of an operator. -/
structure LeftOperand where
  operator : SetOperator
  /-- Whether the set goes beyond ASCII. -/
  beyond : Bool
  depth : Nat
  deriving DecidableEq

/-- A class that has been opened and not closed. -/
structure OpenClass where
  negated : Bool := false
  place : ClassPlace := .opened
  /-- What stands before the last operator. -/
  left? : Option LeftOperand := none
  /-- The parts after it. -/
  parts : Nesting := {}
  /-- Whether the set of these parts goes beyond ASCII. -/
  beyond : Bool := false
  deriving DecidableEq

namespace OpenClass

/-- Adds a part to the class. -/
def add (cls : OpenClass) (beyond : Bool) (depth : Nat) : OpenClass :=
  { cls with parts := cls.parts.add depth, beyond := cls.beyond || beyond }

/-- Adds a part that has no parts. -/
def addMember (cls : OpenClass) : OpenClass := cls.add false 0

/-- Whether the set between the brackets goes beyond ASCII. -/
def goesBeyond (cls : OpenClass) : Bool :=
  match cls.left? with
  | some left => left.operator.apply left.beyond cls.beyond
  | none => cls.beyond

/-- How deep the parts between the brackets are nested. -/
def depth (cls : OpenClass) : Nat :=
  match cls.left? with
  | some left => max left.depth cls.parts.depth + 1
  | none => cls.parts.depth

/-- Puts an operator after the set that was read. -/
def join (cls : OpenClass) (operator : SetOperator) : OpenClass :=
  { cls with left? := some ⟨operator, cls.goesBeyond, cls.depth⟩, parts := {}, beyond := false }

/-- What there is after a step. -/
inductive Next where
  /-- A class is open, and others around it. -/
  | within (cls : OpenClass) (outer : List OpenClass)
  /-- The outermost class is closed, nested so deep. -/
  | closed (depth : Nat)
  deriving DecidableEq

/-! ## Reading -/

/-- The classes that have a name. -/
def names : List String :=
  ["alnum", "alpha", "ascii", "blank", "cntrl", "digit", "graph", "lower", "print", "punct", "space",
   "upper", "word", "xdigit"]

/-- Reads the name of a class between colons and the closing bracket after it; says whether its
complement is meant. -/
def named? : List Char → Option (Bool × List Char)
  | ':' :: s =>
    let negated := s.head? == some '^'
    let s := if negated then s.tail else s
    match s.dropWhile (· ≠ ':') with
    | ':' :: ']' :: rest =>
      if String.ofList (s.takeWhile (· ≠ ':')) ∈ names then some (negated, rest) else none
    | _ => none
  | _ => none

/-- Reads a member, or a range of them, of which the first character is given.  A hyphen before the
closing bracket or before another hyphen makes no range. -/
def member? (mode : Mode) (c : Char) (s : List Char) : Option (List Char) :=
  match Element.read? mode c s with
  | none => none
  | some (first, s) =>
    match mode.skip s with
    | '-' :: t =>
      if mode.ahead? t = some ']' ∨ mode.ahead? t = some '-' then
        if first.isMember mode then some ('-' :: t) else none
      else
        match mode.skip t with
        | [] => none
        | d :: t =>
          match Element.read? mode d t with
          | some (last, t) => if first.isRange mode last then some t else none
          | none => none
    | s => if first.isMember mode then some s else none

/-- Closes a class.  A class of bytes must be one of ASCII. -/
def close? (mode : Mode) (cls : OpenClass) (outer : List OpenClass) : Option Next :=
  let beyond := cls.goesBeyond != cls.negated
  if !mode.unicode && beyond then none
  else
    match outer with
    | [] => some (.closed (cls.depth + 1))
    | around :: outer => some (.within (around.add beyond (cls.depth + 1)) outer)

/-- Reads a part of a class after what may stand at its beginning. -/
def inside? (mode : Mode) (cls : OpenClass) (outer : List OpenClass) (c : Char) (s : List Char) :
    Option (Next × List Char) :=
  match c, s with
  | '[', s =>
    match named? s with
    | some (negated, rest) =>
      if mode.unicode && mode.caseless then none
      else some (.within (cls.add negated 0) outer, rest)
    | none => some (.within {} (cls :: outer), s)
  | ']', s => (close? mode cls outer).map fun next => (next, s)
  | '&', '&' :: s => some (.within (cls.join .intersection) outer, s)
  | '-', '-' :: s => some (.within (cls.join .difference) outer, s)
  | '~', '~' :: s => some (.within (cls.join .symmetricDifference) outer, s)
  | c, s => (member? mode c s).map fun rest => (.within cls.addMember outer, rest)

/-- Reads a part of a class.  At its beginning may stand the sign of the complement, then hyphens as
members, or else a closing bracket as a member. -/
def step? (mode : Mode) (cls : OpenClass) (outer : List OpenClass) (c : Char) (s : List Char) :
    Option (Next × List Char) :=
  let isMember := (Element.literal c false).isMember mode
  if c = '^' ∧ cls.place = .opened then
    some (.within { cls with negated := true, place := .negated } outer, s)
  else if c = '-' ∧ cls.place ≠ .inside then
    if isMember then some (.within { cls.addMember with place := .hyphens } outer, s) else none
  else if c = ']' ∧ (cls.place = .opened ∨ cls.place = .negated) then
    if isMember then some (.within { cls.addMember with place := .inside } outer, s) else none
  else inside? mode { cls with place := .inside } outer c s

/-! ## What is left is no longer -/

theorem length_named?_le {s t : List Char} {negated : Bool} (h : named? s = some (negated, t)) :
    t.length ≤ s.length := by
  unfold named? at h
  split at h
  · next s =>
    dsimp only at h
    generalize hu : (if (s.head? == some '^') = true then s.tail else s) = u at h
    have hle : u.length ≤ s.length := by
      subst hu
      split <;> simp
    split at h
    · next rest hrest =>
      have hdrop := (List.dropWhile_sublist (fun c => decide (c ≠ ':')) (l := u)).length_le
      rw [hrest] at hdrop
      split at h
      · obtain ⟨_, rfl⟩ := Prod.mk.inj (Option.some.inj h)
        simp only [List.length_cons] at hdrop ⊢
        omega
      · simp at h
    · simp at h
  · simp at h

theorem length_member?_le {mode : Mode} {c : Char} {s t : List Char}
    (h : member? mode c s = some t) : t.length ≤ s.length := by
  unfold member? at h
  split at h
  · simp at h
  · next first u hfirst =>
    have hu := Element.length_read?_le hfirst
    have hskip := mode.length_skip_le u
    split at h
    · next v hv =>
      rw [hv] at hskip
      split at h
      · split at h
        · obtain rfl := Option.some.inj h
          omega
        · simp at h
      · have hskip' := mode.length_skip_le v
        split at h
        · simp at h
        · next d w hw =>
          rw [hw] at hskip'
          split at h
          · next last x hlast =>
            have hx := Element.length_read?_le hlast
            split at h
            · obtain rfl := Option.some.inj h
              simp only [List.length_cons] at hskip hskip'
              omega
            · simp at h
          · simp at h
    · split at h
      · obtain rfl := Option.some.inj h
        omega
      · simp at h

theorem length_inside?_le {mode : Mode} {cls : OpenClass} {outer : List OpenClass} {next : Next} {c : Char}
    {s t : List Char} (h : inside? mode cls outer c s = some (next, t)) :
    t.length ≤ s.length := by
  unfold inside? at h
  split at h
  · split at h
    · next hnamed =>
      split at h
      · simp at h
      · obtain ⟨_, rfl⟩ := Prod.mk.inj (Option.some.inj h)
        exact length_named?_le hnamed
    · obtain ⟨_, rfl⟩ := Prod.mk.inj (Option.some.inj h)
      exact Nat.le_refl _
  · obtain ⟨_, _, hc⟩ := Option.map_eq_some_iff.1 h
    obtain ⟨_, rfl⟩ := Prod.mk.inj hc
    exact Nat.le_refl _
  · obtain ⟨_, rfl⟩ := Prod.mk.inj (Option.some.inj h)
    exact Nat.le_succ _
  · obtain ⟨_, rfl⟩ := Prod.mk.inj (Option.some.inj h)
    exact Nat.le_succ _
  · obtain ⟨_, rfl⟩ := Prod.mk.inj (Option.some.inj h)
    exact Nat.le_succ _
  · obtain ⟨_, hmember, hc⟩ := Option.map_eq_some_iff.1 h
    obtain ⟨_, rfl⟩ := Prod.mk.inj hc
    exact length_member?_le hmember

theorem length_step?_le {mode : Mode} {cls : OpenClass} {outer : List OpenClass} {next : Next} {c : Char}
    {s t : List Char} (h : step? mode cls outer c s = some (next, t)) :
    t.length ≤ s.length := by
  unfold step? at h
  dsimp only at h
  split at h
  · simp_all
  · split at h
    · split at h <;> simp_all
    · split at h
      · split at h <;> simp_all
      · exact length_inside?_le h

end OpenClass

end Agenda.Pattern
