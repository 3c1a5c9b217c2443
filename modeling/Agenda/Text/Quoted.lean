import Agenda.Text.GraphemeExtend
import Agenda.Text.Graphic
import Agenda.Text.Hex
/-!
# Quoted text

`Quoted.quote` writes a text between double quotes in such a way that every character can be seen:
quotes and backslashes are escaped, so are line breaks and tabs, and a character without a visible
form of its own is written by its code point.
-/

set_option autoImplicit false

namespace Agenda.Quoted

/-- Whether a character is a letter that is never drawn: a filler that holds the place of a part of a
Hangul syllable. -/
def isFiller (c : Char) : Bool :=
  c == '\u115F' || c == '\u1160' || c == '\u3164' || c == '\uFFA0'

/-- Whether a character is a sound mark of halfwidth kana, which extends the one before it and yet is
a letter with a width of its own. -/
def isSoundMark (c : Char) : Bool := c == '\uFF9E' || c == '\uFF9F'

/-- Whether a character shows on its own: the space does, and so does every graphic character that
is drawn and does not merge with the one before it. -/
def isVisible (c : Char) : Bool :=
  c == ' ' ||
    (Graphic.isGraphic c && !isFiller c && (!GraphemeExtend.isExtending c || isSoundMark c))

/-- One character between quotes. -/
def escape (c : Char) : List Char :=
  if c == '"' then ['\\', '"']
  else if c == '\\' then ['\\', '\\']
  else if c == '\n' then ['\\', 'n']
  else if c == '\r' then ['\\', 'r']
  else if c == '\t' then ['\\', 't']
  else if c.toNat == 0 then ['\\', '0']
  else if isVisible c then [c]
  else '\\' :: 'u' :: '\x7b' :: Hex.ofNat c.toNat ++ ['\x7d']

/-- A text between quotes. -/
def quote (s : String) : String :=
  String.ofList ('"' :: s.toList.flatMap escape ++ ['"'])

end Agenda.Quoted
