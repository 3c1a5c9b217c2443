import Agenda.Text.Alphabetic
import Agenda.Text.Numeric
/-!
# Alphanumeric characters

`Alphanumeric.isAlphanumeric` holds of the alphabetic characters and the numbers.
-/

set_option autoImplicit false

namespace Agenda.Alphanumeric

/-- Whether a character is alphabetic or a number. -/
def isAlphanumeric (c : Char) : Bool := Alphabetic.isAlphabetic c || Numeric.isNumeric c

end Agenda.Alphanumeric
