import Agenda.Json.Token
/-!
# Reading JSON

Tokens are put together from left to right with the containers that are still open on a stack, so
values may be nested to any depth.

* `Json.Reading` — the open containers and what may come next.
* `Json.Reading.step` — what one token changes, if it may stand there.
* `Json.ofTokens?`, `Json.parse?` — the value of a sequence of tokens, and of a text: exactly one
  value and nothing after it.
-/

set_option autoImplicit false

namespace Agenda.Json

/-- A container that is still open, with what it holds so far, the latest first. -/
inductive Frame where
  | array (before : List Json)
  | object (before : List (List Point × Json))
  /-- An object whose latest member still waits for its value. -/
  | member (before : List (List Point × Json)) (name : List Point)

/-- What may come next. -/
inductive Awaited where
  | value
  /-- A value, or the end of an array that has no elements. -/
  | firstElement
  /-- A name, or the end of an object that has no members. -/
  | firstName
  | name
  | colon
  /-- A comma, or the end of the innermost container. -/
  | separator
  /-- Nothing: the value is complete. -/
  | nothing (result : Json)

/-- How far reading has come: the open containers, the innermost first, and what may come next. -/
structure Reading where
  frames : List Frame
  awaited : Awaited

namespace Reading

/-- Nothing has been read. -/
def start : Reading := ⟨[], .value⟩

/-- Hands a complete value to the innermost open container. -/
def deliver (v : Json) : List Frame → Option Reading
  | [] => some ⟨[], .nothing v⟩
  | .array before :: frames => some ⟨.array (v :: before) :: frames, .separator⟩
  | .member before name :: frames => some ⟨.object ((name, v) :: before) :: frames, .separator⟩
  | .object _ :: _ => none

/-- Reads a token where a value may start. -/
def openValue (frames : List Frame) : Token → Option Reading
  | .null => deliver .null frames
  | .bool b => deliver (.bool b) frames
  | .number n => deliver (.number n) frames
  | .string s => deliver (.string s) frames
  | .openBracket => some ⟨.array [] :: frames, .firstElement⟩
  | .openBrace => some ⟨.object [] :: frames, .firstName⟩
  | _ => none

/-- Ends the innermost container. -/
def close : List Frame → Token → Option Reading
  | .array before :: frames, .closeBracket => deliver (.array before.reverse) frames
  | .object before :: frames, .closeBrace => deliver (.object before.reverse) frames
  | _, _ => none

/-- Reads the name of a member. -/
def openMember : List Frame → Token → Option Reading
  | .object before :: frames, .string name => some ⟨.member before name :: frames, .colon⟩
  | _, _ => none

/-- Reads one token. -/
def step (r : Reading) (t : Token) : Option Reading :=
  match r.awaited, t with
  | .value, t => openValue r.frames t
  | .firstElement, .closeBracket => close r.frames .closeBracket
  | .firstElement, t => openValue r.frames t
  | .firstName, .closeBrace => close r.frames .closeBrace
  | .firstName, t => openMember r.frames t
  | .name, t => openMember r.frames t
  | .colon, .colon => some ⟨r.frames, .value⟩
  | .colon, _ => none
  | .separator, .comma =>
    match r.frames with
    | .array _ :: _ => some ⟨r.frames, .value⟩
    | .object _ :: _ => some ⟨r.frames, .name⟩
    | _ => none
  | .separator, t => close r.frames t
  | .nothing _, _ => none

/-- The value that was read, once it is complete. -/
def result? (r : Reading) : Option Json :=
  match r.awaited with
  | .nothing v => some v
  | _ => none

end Reading

/-- The value that a sequence of tokens stands for. -/
def ofTokens? (ts : List Token) : Option Json := do
  (← ts.foldlM Reading.step Reading.start).result?

/-- The value that a text stands for. -/
def parse? (s : List Char) : Option Json := do
  ofTokens? (← Token.ofChars? s)

end Agenda.Json
