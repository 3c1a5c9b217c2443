import Agenda.Text.Hex
import Agenda.Text.Pattern.Mode
/-!
# Elements of a pattern

* `Pattern.Element` — what a character, or a backslash and what follows it, stands for.
* `Element.read?` — reads an element.
* `Element.isUsable`, `Element.isMember` — whether a mode allows an element by itself, and within a
  class between brackets.  A pattern about characters may not use what needs a table of them: the
  two cases of a letter, the shorthands for classes, the edges of words.  A pattern about bytes must
  not take a character apart.
-/

set_option autoImplicit false

namespace Agenda.Pattern

/-- The smallest parts of a pattern. -/
inductive Element where
  /-- A character, perhaps written as a byte in two hexadecimal digits. -/
  | literal (c : Char) (asByte : Bool)
  /-- The digits, the blanks or the characters of words; or all others. -/
  | shorthand (negated : Bool)
  /-- A place at the edge of a word or away from it. -/
  | wordEdge
  /-- The beginning or the end of the text. -/
  | textEdge
  deriving DecidableEq

namespace Element

/-- Whether an element may stand by itself. -/
def isUsable (mode : Mode) : Element → Bool
  | .literal c asByte =>
    if mode.unicode then !mode.caseless else !asByte || c.toNat < 0x80
  | .shorthand negated => !mode.unicode && !negated
  | .wordEdge => !mode.unicode
  | .textEdge => true

/-- Whether an element may be a member of a class. -/
def isMember (mode : Mode) : Element → Bool
  | .literal c _ => if mode.unicode then !mode.caseless else c.toNat < 0x80
  | .shorthand negated => !mode.unicode && !negated
  | .wordEdge => false
  | .textEdge => false

/-- Whether two elements are the ends of a range of members. -/
def isRange (mode : Mode) : Element → Element → Bool
  | .literal a asByte, .literal b asByte' =>
    a ≤ b && isMember mode (.literal a asByte) && isMember mode (.literal b asByte')
  | _, _ => false

/-! ## Reading -/

/-- The character of a code point. -/
def charOf? (n : Nat) : Option Char := if h : n.isValidChar then some (Char.ofNatAux n h) else none

/-- Reads a number of so many hexadecimal digits after those that led to `n`. -/
def hexNumber? (mode : Mode) : Nat → Nat → List Char → Option (Nat × List Char)
  | 0, n, s => some (n, s)
  | k + 1, n, s =>
    match mode.skip s with
    | [] => none
    | c :: s =>
      match Hex.digit? c with
      | some d => hexNumber? mode k (16 * n + d) s
      | none => none

/-- Reads a character by so many hexadecimal digits. -/
def hexLiteral? (mode : Mode) (digits : Nat) (s : List Char) : Option (Element × List Char) :=
  match hexNumber? mode digits 0 s with
  | some (n, s) => (charOf? n).map fun c => (.literal c (digits == 2), s)
  | none => none

/-- What a backslash and a character stand for. -/
def escaped? (c : Char) : Option Element :=
  match c with
  | 'd' | 's' | 'w' => some (.shorthand false)
  | 'D' | 'S' | 'W' => some (.shorthand true)
  | 'b' | 'B' | '<' | '>' => some .wordEdge
  | 'A' | 'z' => some .textEdge
  | 'a' => some (.literal '\x07' false)
  | 'f' => some (.literal '\x0C' false)
  | 't' => some (.literal '\t' false)
  | 'n' => some (.literal '\n' false)
  | 'r' => some (.literal '\r' false)
  | 'v' => some (.literal '\x0B' false)
  | c => if c.toNat < 0x80 && !c.isAlphanum then some (.literal c false) else none

/-- Reads what follows a backslash. -/
def escape? (mode : Mode) : List Char → Option (Element × List Char)
  | [] => none
  | 'x' :: s => hexLiteral? mode 2 s
  | 'u' :: s => hexLiteral? mode 4 s
  | 'U' :: s => hexLiteral? mode 8 s
  | c :: s => (escaped? c).map fun element => (element, s)

/-- Reads an element of which the first character is given. -/
def read? (mode : Mode) (c : Char) (s : List Char) : Option (Element × List Char) :=
  if c = '\\' then escape? mode s else some (.literal c false, s)

/-! ## What is left is no longer -/

theorem length_hexNumber?_le {mode : Mode} {k n m : Nat} {s t : List Char}
    (h : hexNumber? mode k n s = some (m, t)) : t.length ≤ s.length := by
  fun_induction hexNumber? mode k n s with
  | case1 n s => simp_all
  | case2 => simp at h
  | case3 k n s c s' hs d hd ih =>
    have := mode.length_skip_le s
    have := ih h
    simp_all
    omega
  | case4 => simp at h

theorem length_hexLiteral?_le {mode : Mode} {digits : Nat} {s t : List Char} {element : Element}
    (h : hexLiteral? mode digits s = some (element, t)) : t.length ≤ s.length := by
  unfold hexLiteral? at h
  split at h
  · next n s' hs =>
    obtain ⟨c, _, hc⟩ := Option.map_eq_some_iff.1 h
    obtain ⟨_, rfl⟩ := Prod.mk.inj hc
    exact length_hexNumber?_le hs
  · simp at h

theorem length_read?_le {mode : Mode} {c : Char} {s t : List Char} {element : Element}
    (h : read? mode c s = some (element, t)) : t.length ≤ s.length := by
  unfold read? escape? at h
  split at h
  · split at h
    · simp at h
    · exact Nat.le_succ_of_le (length_hexLiteral?_le h)
    · exact Nat.le_succ_of_le (length_hexLiteral?_le h)
    · exact Nat.le_succ_of_le (length_hexLiteral?_le h)
    · obtain ⟨_, _, hc⟩ := Option.map_eq_some_iff.1 h
      obtain ⟨_, rfl⟩ := Prod.mk.inj hc
      exact Nat.le_succ _
  · simp_all

end Element

end Agenda.Pattern
