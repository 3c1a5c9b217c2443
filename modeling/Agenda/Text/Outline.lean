/-!
# Outlines

An `Outline` describes a value for a reader: records with named fields, lists and tuples down to
atoms of text.  `Outline.compact` writes it on one line, `Outline.pretty` over several, four spaces
deeper at each level and with a comma after every entry.
-/

set_option autoImplicit false

namespace Agenda

/-- The outline of a value. -/
inductive Outline where
  | atom (text : String)
  | list (elements : List Outline)
  | tuple (components : List Outline)
  /-- A record; a partial one has fields that are not shown. -/
  | record (name : String) (fields : List (String × Outline)) (isPartial : Bool)

namespace Outline

/-! ## One line -/

mutual

/-- The outline on one line. -/
def compact : Outline → String
  | atom text => text
  | list elements => "[" ++ ", ".intercalate (compactAll elements) ++ "]"
  | tuple components => "(" ++ ", ".intercalate (compactAll components) ++ ")"
  | record name fields isPartial =>
    let shown := compactFields fields ++ (if isPartial then [".."] else [])
    name ++ " \x7b " ++ ", ".intercalate shown ++ " \x7d"

/-- Outlines, each on one line. -/
def compactAll : List Outline → List String
  | [] => []
  | o :: os => compact o :: compactAll os

/-- Fields, each on one line. -/
def compactFields : List (String × Outline) → List String
  | [] => []
  | (label, o) :: fields => (label ++ ": " ++ compact o) :: compactFields fields

end

/-! ## Several lines -/

/-- The lines of an entry one level deeper: its label before the first, a comma after the last. -/
def entry (label : String) : List String → List String
  | [] => []
  | [line] => ["    " ++ label ++ line ++ ","]
  | line :: lines => ("    " ++ label ++ line) :: entry "" lines

/-- An opening line, entries, a closing line; without entries all on one line. -/
def block (opening closing : String) : List String → List String
  | [] => [opening ++ closing]
  | entries => opening :: entries ++ [closing]

mutual

/-- The lines of an outline. -/
def lines : Outline → List String
  | atom text => [text]
  | list elements => block "[" "]" (entries elements)
  | tuple components => block "(" ")" (entries components)
  | record name fields isPartial =>
    block (name ++ " \x7b") "\x7d" (fieldEntries fields ++ (if isPartial then ["    .."] else []))

/-- The lines of several entries. -/
def entries : List Outline → List String
  | [] => []
  | o :: os => entry "" (lines o) ++ entries os

/-- The lines of several fields. -/
def fieldEntries : List (String × Outline) → List String
  | [] => []
  | (label, o) :: fields => entry (label ++ ": ") (lines o) ++ fieldEntries fields

end

/-- The outline over several lines. -/
def pretty (o : Outline) : String := "\n".intercalate o.lines

end Outline

end Agenda
