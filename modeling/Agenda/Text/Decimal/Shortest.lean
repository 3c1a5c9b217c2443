/-!
# Shortest decimals

A number of a binary format stands for every real that rounds to it: an interval around its value.
Its shortest decimal is the one with the fewest digits in that interval.

* `Decimal.Scientific` — a whole number of digits times a power of ten.
* `Decimal.Binary` — a significand times a power of two, with its interval (`Binary.covers`).
* `Decimal.Binary.nearest?` — the multiple of a power of ten next to the value, if the interval has
  one.
* `Decimal.Binary.shortest` — the nearest multiple of the greatest power of ten that has one in the
  interval.

If any multiple of a power of ten lies in the interval, so does one of the two next to the value;
therefore it is enough to look at those.
-/

set_option autoImplicit false

namespace Agenda.Decimal

/-- A decimal: digits times a power of ten. -/
structure Scientific where
  digits : Nat
  scale : Int
  deriving DecidableEq

/-- A positive number of a binary format. -/
structure Binary where
  significand : Nat
  exponent : Int
  /-- The next number below is half as far away as the next one above. -/
  narrowBelow : Bool

namespace Binary

/-- The distance to the next number above. -/
def step (x : Binary) : Rat := 2 ^ x.exponent

/-- The value itself. -/
def value (x : Binary) : Rat := x.significand * x.step

/-- Half-way to the next number below. -/
def low (x : Binary) : Rat := x.value - x.step / (if x.narrowBelow then 4 else 2)

/-- Half-way to the next number above. -/
def high (x : Binary) : Rat := x.value + x.step / 2

/-- Whether a real rounds to the number.  The ends of the interval do if the significand is even. -/
def covers (x : Binary) (r : Rat) : Bool :=
  if x.significand % 2 = 0 then x.low ≤ r && r ≤ x.high else x.low < r && r < x.high

/-- The multiple of a power of ten that is next to the value and in the interval; of two the nearer
one, and the greater one if they are equally near. -/
def nearest? (x : Binary) (scale : Int) : Option Scientific :=
  let unit : Rat := 10 ^ scale
  let below := (x.value / unit).floor.toNat
  let above := below + 1
  match x.covers (below * unit), x.covers (above * unit) with
  | true, true =>
    if x.value - below * unit < above * unit - x.value then some ⟨below, scale⟩
    else some ⟨above, scale⟩
  | true, false => some ⟨below, scale⟩
  | false, true => some ⟨above, scale⟩
  | false, false => none

/-- The value without rounding: a power of two with a negative exponent is a multiple of the power of
ten with the same exponent. -/
def exact (x : Binary) : Scientific :=
  let scale := min 0 x.exponent
  ⟨(x.value / 10 ^ scale).num.toNat, scale⟩

/-- A power of ten above the value and at most a hundred times as great. -/
def topScale (x : Binary) : Int :=
  (Nat.toDigits 10 x.value.num.toNat).length - (Nat.toDigits 10 x.value.den).length + 1

/-- The decimal with the fewest digits that rounds to the number.  Twenty powers of ten reach beyond
the seventeen digits that a significand of 53 bits can need. -/
def shortest (x : Binary) : Scientific :=
  ((List.range 20).findSome? fun (i : Nat) => x.nearest? (x.topScale - i)).getD x.exact

end Binary

end Agenda.Decimal
