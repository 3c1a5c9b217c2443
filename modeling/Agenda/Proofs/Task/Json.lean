import Agenda.Proofs.Json.Printer
import Agenda.Proofs.Json.Record
import Agenda.Session
/-!
# Tasks in JSON

* `Task.Describes` — the values that stand for a task; no other is read as one
  (`ofJson?_eq_some_iff`), whatever text it has (`parse?_eq_some_iff_describes`).
* `parseAll?_eq_some_iff`, `parseAll?_eq_none_iff`, `ofFile_toUTF8` — an array is read element by
  element, and a file by its text.
* `Task.parseAll?_array` — tasks are read from the array that they are written as.
* `Task.written_is_read_back` — **tasks come back from what they are written as**, one or many, with
  blanks or without.
* `Task.loads_what_is_meant` — **how a task is spelled does not matter**: blanks, escapes, the order
  of members and members of other names.
-/

set_option autoImplicit false

namespace Agenda.Task

open Json

variable {task : Task} {v : Json} {s : List Char}

/-! ## What a value stands for -/

/-- The values that stand for a task: an object that gives its name and its priority once each, among
whatever other members, or an array of the two. -/
inductive Describes (task : Task) : Json → Prop where
  | object {members : List (String × Json)} :
    held "value" members = [ofText task.value] →
    held "priority" members = [ofInt task.priority.toInt] → Describes task (ofMembers members)
  | array : Describes task (.array [ofText task.value, ofInt task.priority.toInt])

theorem priority_eq_some_iff {p : Int64} : v.int? >>= Word.signed? = some p ↔ v = ofInt p.toInt := by
  simp [Option.bind_eq_some_iff, int?_eq_some_iff, Word.signed?_eq_some_iff]

/-- A task is read from a record that holds its name and its priority. -/
theorem ofJson?_eq_some_iff_record :
    ofJson? v = some task ↔ ∃ record, Record.ofJson? fields v = some record ∧
      record.get? "value" = some (ofText task.value) ∧
      record.get? "priority" = some (ofInt task.priority.toInt) := by
  obtain ⟨value, priority⟩ := task
  simp only [ofJson?, Record.required?, Option.bind_eq_bind, Option.bind_eq_some_iff]
  constructor
  · rintro ⟨record, hrecord, value', ⟨v, hv, hvalue⟩, priority', ⟨p, hp, hpriority⟩, heq⟩
    cases heq
    obtain rfl := text?_eq_some_iff.1 hvalue
    obtain rfl := priority_eq_some_iff.1 (Option.bind_eq_some_iff.2 hpriority)
    exact ⟨record, hrecord, hv, hp⟩
  · rintro ⟨record, hrecord, hv, hp⟩
    exact ⟨record, hrecord, value, ⟨_, hv, text?_eq_some_iff.2 rfl⟩, priority,
      ⟨_, hp, Option.bind_eq_some_iff.1 (priority_eq_some_iff.2 rfl)⟩, rfl⟩

theorem eq_singleton_of_head? {α : Type} {xs : List α} {x : α} (h : xs.length ≤ 1)
    (hx : xs.head? = some x) : xs = [x] := by
  obtain ⟨tail, rfl⟩ := List.head?_eq_some_iff.1 hx
  obtain rfl : tail = [] := List.length_eq_zero_iff.1 (by simpa using h)
  rfl

theorem describes_of_ofJson? (h : ofJson? v = some task) : Describes task v := by
  obtain ⟨record, hrecord, hvalue, hpriority⟩ := ofJson?_eq_some_iff_record.1 h
  cases v with
  | object ms =>
    obtain ⟨members, hobject, honce⟩ := Record.exists_ofMembers hrecord
    obtain ⟨record', hrecord', hget⟩ := Record.ofJson?_ofMembers honce
    rw [hobject] at hrecord ⊢
    obtain rfl : record' = record := Option.some.inj (hrecord'.symm.trans hrecord)
    rw [hget "value" (by simp [fields])] at hvalue
    rw [hget "priority" (by simp [fields])] at hpriority
    exact .object (eq_singleton_of_head? (honce "value" (by simp [fields])) hvalue)
      (eq_singleton_of_head? (honce "priority" (by simp [fields])) hpriority)
  | array elements =>
    obtain ⟨hlength, heq⟩ := Option.ite_none_right_eq_some.1 hrecord
    obtain rfl := Option.some.inj heq
    match elements with
    | [] | [_] => cases hpriority
    | [value, priority] =>
      obtain rfl : value = ofText task.value := Option.some.inj hvalue
      obtain rfl : priority = ofInt task.priority.toInt := Option.some.inj hpriority
      exact .array
    | _ :: _ :: _ :: _ => simp [fields] at hlength
  | null | bool | number | string => cases hrecord

/-- **A value is read as the task that it stands for**, and no other value is read as this task. -/
theorem ofJson?_eq_some_iff : ofJson? v = some task ↔ Describes task v := by
  refine ⟨describes_of_ofJson?, fun h => ofJson?_eq_some_iff_record.2 ?_⟩
  cases h with
  | @object members hvalue hpriority =>
    have honce : ∀ field ∈ fields, (held field members).length ≤ 1 := by
      simp [fields, hvalue, hpriority]
    obtain ⟨record, hrecord, hget⟩ := Record.ofJson?_ofMembers honce
    refine ⟨record, hrecord, ?_, ?_⟩
    · rw [hget "value" (by simp [fields]), hvalue, List.head?_cons]
    · rw [hget "priority" (by simp [fields]), hpriority, List.head?_cons]
  | array => exact ⟨_, rfl, rfl, rfl⟩

theorem parse?_of_text (h : Text v s) : parse? s = ofJson? v := by
  rw [parse?, parse?_eq_some_iff.2 h, Option.bind_eq_bind, Option.bind_some]

/-- The text of a value is read as the task that the value stands for. -/
theorem parse?_eq_some_iff_describes (h : Text v s) : parse? s = some task ↔ Describes task v := by
  rw [parse?_of_text h, ofJson?_eq_some_iff]

theorem parseAll?_of_text (h : Text v s) : parseAll? s = allOfJson? v := by
  rw [parseAll?, parse?_eq_some_iff.2 h, Option.bind_eq_bind, Option.bind_some]

/-! ## Arrays and files -/

variable {tasks : List Task} {elements : List Json}

/-- An array is read as the tasks that its elements stand for, in their order. -/
theorem parseAll?_eq_some_iff (h : Text (.array elements) s) :
    parseAll? s = some tasks ↔ List.Forall₂ Describes tasks elements := by
  simp only [parseAll?_of_text h, allOfJson?, mapM_eq_some_iff, ofJson?_eq_some_iff]
  exact ⟨List.Forall₂.flip, List.Forall₂.flip⟩

/-- One element that stands for no task spoils an array. -/
theorem parseAll?_eq_none_iff (h : Text (.array elements) s) :
    parseAll? s = none ↔ ∃ v ∈ elements, ∀ task, ¬ Describes task v := by
  have hnone : ∀ v, ofJson? v = none ↔ ∀ task, ¬ Describes task v := by
    simp only [Option.eq_none_iff_forall_ne_some, ne_eq, ofJson?_eq_some_iff, implies_true]
  simp only [parseAll?_of_text h, allOfJson?, mapM_eq_none_iff, hnone]

/-- A file is read by its text. -/
theorem ofFile_toUTF8 (text : String) :
    ofFile (.ok text.toUTF8) = (parseAll? text.toList).elim (.error .json) .ok := by
  have htext : String.fromUTF8? text.toUTF8 = some text := by
    simp only [String.fromUTF8?, String.toUTF8_eq_toByteArray, dif_pos text.isValidUTF8]
    rfl
  simp only [ofFile, decodeText, bind, Except.bind, htext]
  cases parseAll? text.toList <;> rfl

/-- A file that holds a text of tasks is read as these tasks. -/
theorem ofFile_of_parse {text : String} (h : parseAll? text.toList = some tasks) :
    ofFile (.ok text.toUTF8) = .ok tasks := by
  rw [ofFile_toUTF8, h, Option.elim_some]

/-! ## Written and read back -/

theorem toJson_plain (task : Task) : (toJson task).Plain := by
  simp [Json.Plain, toJson, ofMembers, tokens, memberTokens, ofText, ofInt, Token.Plain]

theorem describes_toJson (task : Task) : Describes task (toJson task) :=
  .object rfl rfl

theorem array_plain (tasks : List Task) : (Json.array (tasks.map toJson)).Plain :=
  plain_array (List.forall_mem_map.2 fun task _ => toJson_plain task)

/-- Every text of the array of some tasks is read as these tasks. -/
theorem parseAll?_of_text_array (h : Text (.array (tasks.map toJson)) s) :
    parseAll? s = some tasks := by
  rw [parseAll?_eq_some_iff h, List.forall₂_map_right_iff, List.forall₂_same]
  exact fun task _ => describes_toJson task

/-- Tasks are read from the array that they are written as. -/
theorem parseAll?_array (tasks : List Task) :
    parseAll? (Session.array tasks ++ "\n").toList = some tasks := by
  have hchars : (Session.array tasks ++ "\n").toList =
      (Json.array (tasks.map toJson)).pretty ++ ['\n'] := by
    rw [Session.array, String.toList_append, String.toList_ofList]
    rfl
  rw [hchars]
  exact parseAll?_of_text_array (text_pretty (array_plain tasks) (List.forall_mem_singleton.2 rfl))

/-- **Tasks come back from what they are written as**, whatever characters their names are made of
and whatever their priorities: a task from its text, and many tasks in their order from their array,
without blanks or over several lines, and from the file that a session writes. -/
theorem written_is_read_back :
    (∀ task : Task, parse? (compact task.toJson) = some task) ∧
    ∀ tasks : List Task,
      parseAll? (compact (.array (tasks.map toJson))) = some tasks ∧
      parseAll? (pretty (.array (tasks.map toJson))) = some tasks ∧
      ofFile (.ok (Session.array tasks ++ "\n").toUTF8) = .ok tasks := by
  refine ⟨fun task => ?_, fun tasks => ⟨?_, ?_, ?_⟩⟩
  · have htext : Text task.toJson (compact task.toJson) := text_compact (toJson_plain task)
    exact (parse?_eq_some_iff_describes htext).2 (describes_toJson task)
  · exact parseAll?_of_text_array (text_compact (array_plain tasks))
  · have htext := text_pretty (array_plain tasks) (List.forall_mem_nil _)
    rw [List.append_nil] at htext
    exact parseAll?_of_text_array htext
  · exact ofFile_of_parse (parseAll?_array tasks)

/-! ## Other spellings -/

/-- An object that stands for a task names each field once. -/
theorem Describes.count_eq_one {members : List (List Point × Json)}
    (h : Describes task (.object members)) :
    ∀ field ∈ fields, (members.map Prod.fst).count (pointsOf field) = 1 := by
  generalize hv : Json.object members = v at h
  cases h with
  | array => cases hv
  | @object ms hvalue hpriority =>
    cases hv
    simp [fields, -List.map_map, count_pointsOf, hvalue, hpriority]

/-- **How a task is spelled does not matter.**  A text is read as a task just if its value stands for
this task: if it is an object that gives the name and the priority once each, under names that are
unescaped first, in whatever order the members come and whatever well-formed values members of other
names hold, or an array of the two.  A text of an object that leaves out or repeats one of the fields
is read as no task, whatever else is in it.  The file of an array is read as the tasks that its
elements stand for, in their order, and is no list of tasks as soon as one of them stands for none. -/
theorem loads_what_is_meant :
    (∀ (v : Json) (s : List Char) (task : Task), Text v s →
      (parse? s = some task ↔ Describes task v)) ∧
    (∀ (members : List (List Point × Json)) (s : List Char), Text (.object members) s →
      (∃ field ∈ fields, (members.map Prod.fst).count (pointsOf field) ≠ 1) → parse? s = none) ∧
    ∀ (elements : List Json) (s : List Char), Text (.array elements) s →
      (∀ tasks, ofFile (.ok (String.ofList s).toUTF8) = .ok tasks ↔
        List.Forall₂ Describes tasks elements) ∧
      (ofFile (.ok (String.ofList s).toUTF8) = .error .json ↔
        ∃ v ∈ elements, ∀ task, ¬ Describes task v) := by
  refine ⟨fun v s task htext => parse?_eq_some_iff_describes htext,
    fun members s htext hcount => ?_, fun elements s htext => ?_⟩
  · obtain ⟨field, hfield, hcount⟩ := hcount
    refine Option.eq_none_iff_forall_ne_some.2 fun task htask => hcount ?_
    exact ((parse?_eq_some_iff_describes htext).1 htask).count_eq_one field hfield
  · rw [ofFile_toUTF8, String.toList_ofList, ← parseAll?_eq_none_iff htext]
    simp only [← parseAll?_eq_some_iff htext]
    cases parseAll? s <;> simp

/-- Escapes in a name and in a text, a pair of units and a lone one, blanks, and numbers that are no
integers; a name given twice, once with an escape in it. -/
theorem loads_what_is_meant_escaped :
    let task : Task := ⟨"é😀/", Int64.minValue⟩
    let members : List (String × Json) :=
      [("value", ofText "é😀/"),
        ("", .array [.number (.real "-0".toList), .number (.real "1E+2".toList),
          ofMembers [("priority", .string [.surrogate 0xD800])]]),
        ("priority", ofInt Int64.minValue.toInt)]
    let first := ("\x7b \"\\u0076alue\" :\"\\u00E9\\ud83d\\uDE00\\/\",\n\"\":[-0, 1E+2, " ++
      "\x7b\"priority\":\"\\ud800\"\x7d],\"priority\":\t-9223372036854775808\x7d").toList
    let twice := [(pointsOf "value", ofText "c"), (pointsOf "priority", ofInt 1),
      (pointsOf "priority", ofInt 1)]
    let second := "\x7b\"value\":\"c\",\"priority\":1,\"\\u0070riority\":1\x7d".toList
    let good := '[' :: first ++ ", [\"b\" , 3]\n]".toList
    let bad := '[' :: first ++ ',' :: second ++ [']']
    Text (ofMembers members) first ∧ Describes task (ofMembers members) ∧ parse? first = some task ∧
      Text (.object twice) second ∧ parse? second = none ∧
      ofFile (.ok (String.ofList good).toUTF8) = .ok [task, ⟨"b", 3⟩] ∧
      ofFile (.ok (String.ofList bad).toUTF8) = .error .json := by
  intro task members first twice second good bad
  obtain ⟨hread, hreject, hfile⟩ := loads_what_is_meant
  have hfirst : Text (ofMembers members) first := Token.spells_of_ofChars? (by decide +kernel)
  have htask : Describes task (ofMembers members) := .object rfl rfl
  have hsecond : Text (.object twice) second := Token.spells_of_ofChars? (by decide +kernel)
  have hnone : parse? second = none :=
    hreject twice second hsecond ⟨"priority", by simp [fields], by decide +kernel⟩
  have hgood : Text (.array [ofMembers members, .array [ofText "b", ofInt 3]]) good :=
    Token.spells_of_ofChars? (by decide +kernel)
  have hbad : Text (.array [ofMembers members, .object twice]) bad :=
    Token.spells_of_ofChars? (by decide +kernel)
  have htwice : ∀ task, ¬ Describes task (.object twice) := fun task h => by
    rw [(hread _ second task hsecond).2 h] at hnone
    cases hnone
  exact ⟨hfirst, htask, (hread _ first task hfirst).2 htask, hsecond, hnone,
    ((hfile _ good hgood).1 _).2 (.cons htask (.cons .array .nil)),
    (hfile _ bad hbad).2.2 ⟨_, by simp, htwice⟩⟩

end Agenda.Task
