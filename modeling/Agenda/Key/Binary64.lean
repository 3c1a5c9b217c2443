import Agenda.Text.Decimal.Shortest
/-!
# Binary floating-point keys

A binary64 number is held as its bits, so that every value, each NaN included, passes through
unchanged.

* `Binary64.totalCompare` — the total order of all bit patterns: negative NaN, −∞, … , −0, +0, … ,
  +∞, positive NaN.
* `Binary64.partialCompare` — the numerical comparison, in which both zeros are equal and a NaN
  compares with nothing.
* `Binary64.binary` — the absolute value of a finite number, as a significand and an exponent.
-/

set_option autoImplicit false

namespace Agenda

/-- A binary64 number by its bits. -/
structure Binary64 where
  bits : UInt64
  deriving DecidableEq

namespace Binary64

/-- Whether the sign bit is set. -/
def isNegative (x : Binary64) : Bool := 0x8000000000000000 ≤ x.bits.toNat

/-- The bits below the sign; they grow with the absolute value. -/
def magnitude (x : Binary64) : Nat := x.bits.toNat % 0x8000000000000000

/-- Whether the bits are those of a NaN: beyond those of an infinity. -/
def isNaN (x : Binary64) : Bool := 0x7FF0000000000000 < x.magnitude

/-- Whether the bits are those of one of the two infinities. -/
def isInfinite (x : Binary64) : Bool := x.magnitude == 0x7FF0000000000000

/-- The bits that hold the exponent. -/
def exponentField (x : Binary64) : Nat := x.magnitude / 0x10000000000000

/-- The bits that hold the fraction. -/
def fractionField (x : Binary64) : Nat := x.magnitude % 0x10000000000000

/-- The absolute value of a finite number.  The least exponent field has no leading bit of its own
and the same distances as the one after it. -/
def binary (x : Binary64) : Decimal.Binary where
  significand := if x.exponentField = 0 then x.fractionField else 0x10000000000000 + x.fractionField
  exponent := (max 1 x.exponentField : Nat) - 1075
  narrowBelow := x.fractionField == 0 && 1 < x.exponentField

/-- The place of a bit pattern in the total order; −0 lies just below +0. -/
def rank (x : Binary64) : Int :=
  if x.isNegative then -(x.magnitude : Int) - 1 else x.magnitude

/-- The place of a number on the number line; both zeros are in one place. -/
def signedMagnitude (x : Binary64) : Int :=
  if x.isNegative then -(x.magnitude : Int) else x.magnitude

/-- Compares in the total order of bit patterns. -/
def totalCompare (x y : Binary64) : Ordering := compare x.rank y.rank

/-- Compares as numbers; a NaN compares with nothing. -/
def partialCompare (x y : Binary64) : Option Ordering :=
  if x.isNaN || y.isNaN then none else some (compare x.signedMagnitude y.signedMagnitude)

end Binary64

end Agenda
