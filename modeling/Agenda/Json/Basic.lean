/-!
# JSON values

A value is kept as far as its text has a meaning, so two spellings of one value are one value here.

* `Json.Point` — a code point of a JSON string.  Escapes can write half of a surrogate pair on its
  own, which is no character; such a string is well formed but is not a text.
* `Json.Numeral` — a number.  Integer literals have their value; any other numeral, and the literal
  `-0`, is kept as it is written.
* `Json` — the values.
* `Json.text?`, `Json.ofText` — strings that are texts.
-/

set_option autoImplicit false

namespace Agenda

namespace Json

/-- A code point of a string. -/
inductive Point where
  | scalar (c : Char)
  /-- An unpaired surrogate, by its 16-bit unit. -/
  | surrogate (unit : Nat)
  deriving DecidableEq

/-- A number. -/
inductive Numeral where
  | integer (value : Int)
  /-- A numeral with a fraction or an exponent, or a negative zero, as it is written. -/
  | real (literal : List Char)
  deriving DecidableEq

end Json

/-- A JSON value.  The members of an object keep their order and may repeat a name. -/
inductive Json where
  | null
  | bool (b : Bool)
  | number (n : Json.Numeral)
  | string (s : List Json.Point)
  | array (elements : List Json)
  | object (members : List (List Json.Point × Json))

namespace Json

/-- The character of a code point, if it is one. -/
def Point.char? : Point → Option Char
  | .scalar c => some c
  | .surrogate _ => none

/-- The text of a string whose surrogates are all paired. -/
def textOf? (s : List Point) : Option String := (s.mapM Point.char?).map String.ofList

/-- The code points of a text. -/
def pointsOf (s : String) : List Point := s.toList.map .scalar

/-- The string value of a text. -/
def ofText (s : String) : Json := .string (pointsOf s)

/-- The number value of an integer. -/
def ofInt (z : Int) : Json := .number (.integer z)

/-- The object of some members with text names, in the given order. -/
def ofMembers (members : List (String × Json)) : Json :=
  .object (members.map fun m => (pointsOf m.1, m.2))

/-- The text of a string value. -/
def text? : Json → Option String
  | .string s => textOf? s
  | _ => none

/-- The value of an integer literal. -/
def int? : Json → Option Int
  | .number (.integer z) => some z
  | _ => none

end Json

end Agenda
