import Agenda.Json.Basic
import Agenda.Text.Decimal
import Agenda.Text.Hex
/-!
# Writing JSON

* `Json.compact` — a value without any blanks.
* `Json.pretty` — a value with one element or member a line, two spaces deeper at each level; an
  array or object that holds nothing stays on one line.

Strings escape what has to be escaped and nothing else: quotes, backslashes and control characters,
those with a letter of their own by that letter and the others by four hexadecimal digits.
-/

set_option autoImplicit false

namespace Agenda.Json

/-! ## Strings and numbers -/

/-- The letter that stands for a character after a backslash. -/
def escapeLetter? (c : Char) : Option Char :=
  if c == '"' then some '"'
  else if c == '\\' then some '\\'
  else if c == '\x08' then some 'b'
  else if c == '\x0c' then some 'f'
  else if c == '\n' then some 'n'
  else if c == '\r' then some 'r'
  else if c == '\t' then some 't'
  else none

/-- A 16-bit unit by its four hexadecimal digits. -/
def escapeUnit (unit : Nat) : List Char := '\\' :: 'u' :: Hex.padded 4 unit

/-- A code point inside a string. -/
def escape : Point → List Char
  | .surrogate unit => escapeUnit unit
  | .scalar c =>
    match escapeLetter? c with
    | some letter => ['\\', letter]
    | none => if c.toNat < 0x20 then escapeUnit c.toNat else [c]

/-- A string between quotes. -/
def quoted (s : List Point) : List Char := '"' :: s.flatMap escape ++ ['"']

/-- A numeral. -/
def Numeral.chars : Numeral → List Char
  | .integer z => Decimal.ofInt z
  | .real literal => literal

/-! ## Without blanks -/

mutual

/-- A value without any blanks. -/
def compact : Json → List Char
  | null => ['n', 'u', 'l', 'l']
  | bool true => ['t', 'r', 'u', 'e']
  | bool false => ['f', 'a', 'l', 's', 'e']
  | number n => n.chars
  | string s => quoted s
  | array [] => ['[', ']']
  | array (v :: vs) => '[' :: compact v ++ compactElements vs ++ [']']
  | object [] => ['\x7b', '\x7d']
  | object ((name, v) :: ms) =>
    '\x7b' :: quoted name ++ ':' :: compact v ++ compactMembers ms ++ ['\x7d']

/-- Further elements, each after a comma. -/
def compactElements : List Json → List Char
  | [] => []
  | v :: vs => ',' :: compact v ++ compactElements vs

/-- Further members, each after a comma. -/
def compactMembers : List (List Point × Json) → List Char
  | [] => []
  | (name, v) :: ms => ',' :: quoted name ++ ':' :: compact v ++ compactMembers ms

end

/-! ## One entry a line -/

/-- A line break and the indentation of the line that follows. -/
def newline (depth : Nat) : List Char := '\n' :: List.replicate (2 * depth) ' '

mutual

/-- A value over several lines, inside as many containers as the depth says. -/
def prettyAt (depth : Nat) : Json → List Char
  | null => ['n', 'u', 'l', 'l']
  | bool true => ['t', 'r', 'u', 'e']
  | bool false => ['f', 'a', 'l', 's', 'e']
  | number n => n.chars
  | string s => quoted s
  | array [] => ['[', ']']
  | array (v :: vs) =>
    '[' :: newline (depth + 1) ++ prettyAt (depth + 1) v ++ prettyElements (depth + 1) vs ++
      newline depth ++ [']']
  | object [] => ['\x7b', '\x7d']
  | object ((name, v) :: ms) =>
    '\x7b' :: newline (depth + 1) ++ quoted name ++ ':' :: ' ' :: prettyAt (depth + 1) v ++
      prettyMembers (depth + 1) ms ++ newline depth ++ ['\x7d']

/-- Further elements, each on a line of its own after a comma. -/
def prettyElements (depth : Nat) : List Json → List Char
  | [] => []
  | v :: vs => ',' :: newline depth ++ prettyAt depth v ++ prettyElements depth vs

/-- Further members, each on a line of its own after a comma. -/
def prettyMembers (depth : Nat) : List (List Point × Json) → List Char
  | [] => []
  | (name, v) :: ms =>
    ',' :: newline depth ++ quoted name ++ ':' :: ' ' :: prettyAt depth v ++ prettyMembers depth ms

end

/-- A value over several lines. -/
def pretty (v : Json) : List Char := prettyAt 0 v

end Agenda.Json
