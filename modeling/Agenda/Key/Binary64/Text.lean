import Agenda.Key.Binary64
import Agenda.Text.Decimal
import Agenda.Text.Decimal.Shortest
/-!
# The text of a binary64 number

`Binary64.text` writes the shortest decimal that reads back as the number.  From 0.0001 up to below
10^16 it stands with a point and at least one digit on either side; smaller and greater numbers
have an exponent after one leading digit.  A NaN has no sign, a zero has.
-/

set_option autoImplicit false

namespace Agenda.Binary64

/-- Digits with a point after as many of them as given; zeros fill up what is missing, and a digit
stands on either side of the point. -/
def positional (digits : List Char) (point : Int) : List Char :=
  if point ≤ 0 then '0' :: '.' :: List.replicate (-point).toNat '0' ++ digits
  else
    let whole := digits.take point.toNat
    let fraction := digits.drop point.toNat
    whole ++ List.replicate (point.toNat - whole.length) '0' ++
      '.' :: (if fraction.isEmpty then ['0'] else fraction)

/-- Digits with a point after the first one, if there are more, and the power of ten. -/
def withExponent (digits : List Char) (power : Int) : List Char :=
  digits.take 1 ++ (if digits.length ≤ 1 then [] else '.' :: digits.drop 1) ++
    'e' :: Decimal.ofInt power

/-- The text of a decimal. -/
def layout (d : Decimal.Scientific) : List Char :=
  let digits := Decimal.ofNat d.digits
  let point := d.scale + digits.length
  if -4 < point ∧ point ≤ 16 then positional digits point else withExponent digits (point - 1)

/-- The text of the absolute value. -/
def magnitudeText (x : Binary64) : List Char :=
  if x.isInfinite then ['i', 'n', 'f']
  else if x.magnitude = 0 then ['0', '.', '0']
  else layout x.binary.shortest

/-- The text of a number. -/
def text (x : Binary64) : List Char :=
  if x.isNaN then ['N', 'a', 'N']
  else if x.isNegative then '-' :: x.magnitudeText
  else x.magnitudeText

end Agenda.Binary64
