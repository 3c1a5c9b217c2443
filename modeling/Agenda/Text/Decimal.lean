/-!
# Decimal numbers

* `Decimal.natural?`, `Decimal.signed?` — read ASCII digits, the latter after at most one sign.
* `Decimal.isReal` — whether a text is a number that may have a fraction and an exponent.
* `Decimal.ofInt` — writes an integer without leading zeros.
-/

set_option autoImplicit false

namespace Agenda.Decimal

/-- Reads one or more ASCII digits; leading zeros do not matter. -/
def natural? (s : List Char) : Option Nat :=
  if s ≠ [] ∧ s.all Char.isDigit then some (Nat.ofDigitChars 10 s 0) else none

/-- Reads one or more ASCII digits after an optional plus. -/
def unsigned? : List Char → Option Nat
  | '+' :: s => natural? s
  | s => natural? s

/-- Reads one or more ASCII digits after an optional plus or minus. -/
def signed? : List Char → Option Int
  | '-' :: s => (natural? s).map fun n => -(n : Int)
  | '+' :: s => (natural? s).map fun n => (n : Int)
  | s => (natural? s).map fun n => (n : Int)

/-- Drops one sign before a text. -/
def dropSign : List Char → List Char
  | '-' :: s => s
  | '+' :: s => s
  | s => s

/-- Whether a text is digits with at most one point among them or around them, then perhaps an `e`
and an integer. -/
def isScientific (s : List Char) : Bool :=
  let whole := s.takeWhile Char.isDigit
  let (fraction, rest) :=
    match s.dropWhile Char.isDigit with
    | '.' :: s => (s.takeWhile Char.isDigit, s.dropWhile Char.isDigit)
    | s => ([], s)
  !(whole ++ fraction).isEmpty &&
    match rest with
    | [] => true
    | e :: exponent => (e == 'e' || e == 'E') && (signed? exponent).isSome

/-- Whether a text is a number after at most one sign, or the name of infinity or of no number in
any case. -/
def isReal (s : List Char) : Bool :=
  (String.ofList (dropSign s)).toLower ∈ ["inf", "infinity", "nan"] || isScientific (dropSign s)

/-- Writes a natural number. -/
def ofNat (n : Nat) : List Char := Nat.toDigits 10 n

/-- Writes an integer, a minus before the negative ones. -/
def ofInt : Int → List Char
  | .ofNat n => ofNat n
  | .negSucc n => '-' :: ofNat (n + 1)

end Agenda.Decimal
