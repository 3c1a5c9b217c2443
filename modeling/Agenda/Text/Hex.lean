/-!
# Hexadecimal numbers

* `Hex.digit?` — the value of a hexadecimal digit in either case.
* `Hex.quad?` — the number of four such digits, a 16-bit unit.
* `Hex.ofNat`, `Hex.padded` — writes a number in lower case, as it is or to a least width.
-/

set_option autoImplicit false

namespace Agenda.Hex

/-- The value of a hexadecimal digit. -/
def digit? (c : Char) : Option Nat :=
  if '0' ≤ c ∧ c ≤ '9' then some (c.toNat - '0'.toNat)
  else if 'a' ≤ c ∧ c ≤ 'f' then some (c.toNat - 'a'.toNat + 10)
  else if 'A' ≤ c ∧ c ≤ 'F' then some (c.toNat - 'A'.toNat + 10)
  else none

/-- The number that four hexadecimal digits stand for. -/
def quad? (a b c d : Char) : Option Nat := do
  return (((← digit? a) * 16 + (← digit? b)) * 16 + (← digit? c)) * 16 + (← digit? d)

/-- Writes a number in lower-case hexadecimal digits. -/
def ofNat (n : Nat) : List Char := Nat.toDigits 16 n

/-- Writes a number with zeros before it up to a least width. -/
def padded (width n : Nat) : List Char :=
  List.replicate (width - (ofNat n).length) '0' ++ ofNat n

end Agenda.Hex
