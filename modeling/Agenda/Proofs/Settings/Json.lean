import Agenda.Proofs.Json.Printer
import Agenda.Proofs.Json.Record
import Agenda.Settings.Json
/-!
# Settings, chosen and in JSON

Settings come about in two ways: by choices, made in turn from the default on, and from an object.

* `Settings.ofChoices_eq` — of all choices of one kind, only the last counts.
* `QueueOrder.Describes` — the values that stand for an order.
* `Settings.Gives` — the choices that the members of an object give.
* `Settings.ofJson?_of_gives` — where no field is given twice, the settings of an object are those of
  its choices.
* `Settings.chosen_as_given` — **both ways lead to the same settings**, and settings come back from
  what they are written as.
-/

set_option autoImplicit false

namespace Agenda

open Json

/-! ## Orders -/

namespace QueueOrder

/-- The values that stand for an order: its name, or an object with this name and nothing in it. -/
inductive Describes (order : QueueOrder) : Json → Prop where
  | name : Describes order (ofText order.jsonName)
  | member : Describes order (ofMembers [(order.jsonName, .null)])

theorem ofJsonName?_eq_some_iff {name : String} {order : QueueOrder} :
    ofJsonName? name = some order ↔ name = order.jsonName := by
  unfold ofJsonName?
  cases order <;> split_ifs <;> simp_all [jsonName]

/-- **A value is read as the order that it stands for.** -/
theorem ofJson?_of_describes {order : QueueOrder} {v : Json} (h : order.Describes v) :
    ofJson? v = some order := by
  have hname : textOf? (pointsOf order.jsonName) >>= ofJsonName? = some order :=
    Option.bind_eq_some_iff.2 ⟨_, textOf?_eq_some_iff.2 rfl, ofJsonName?_eq_some_iff.2 rfl⟩
  cases h with
  | name | member => exact hname

end QueueOrder

namespace Settings

/-! ## Choices -/

/-- The capacity that a choice is about. -/
def Choice.initialCapacity? : Choice → Option UInt64
  | .initialCapacity slots => some slots
  | .order _ => none

/-- The order that a choice is about. -/
def Choice.order? : Choice → Option QueueOrder
  | .initialCapacity _ => none
  | .order chosen => some chosen

theorem foldl_set (choices : List Choice) (settings : Settings) :
    choices.foldl set settings =
      ⟨(choices.filterMap Choice.initialCapacity?).getLast?.getD settings.initialCapacity,
        (choices.filterMap Choice.order?).getLast?.getD settings.order⟩ := by
  induction choices generalizing settings with
  | nil => rfl
  | cons choice choices ih =>
    rw [List.foldl_cons, ih]
    cases choice <;> simp [set, Choice.initialCapacity?, Choice.order?, List.getLast?_cons]

/-- Of the choices of either kind, only the last counts; where there is none, the default holds. -/
theorem ofChoices_eq (choices : List Choice) :
    ofChoices choices =
      ⟨(choices.filterMap Choice.initialCapacity?).getLast?.getD 0,
        (choices.filterMap Choice.order?).getLast?.getD .min⟩ :=
  foldl_set choices {}

/-! ## Objects -/

/-- The choices that the members of an object give, in their order.  Members of other names give
none. -/
inductive Gives : List (String × Json) → List Choice → Prop where
  | nil : Gives [] []
  | initialCapacity {members : List (String × Json)} {choices : List Choice} (slots : UInt64) :
    Gives members choices →
      Gives (("initial_capacity", ofInt slots.toNat) :: members) (.initialCapacity slots :: choices)
  | order {members : List (String × Json)} {choices : List Choice} {order : QueueOrder} {v : Json} :
    order.Describes v → Gives members choices →
      Gives (("order", v) :: members) (.order order :: choices)
  | other {members : List (String × Json)} {choices : List Choice} {name : String} (v : Json) :
    name ∉ fields → Gives members choices → Gives ((name, v) :: members) choices

variable {members : List (String × Json)} {choices : List Choice}

theorem ne_fields {name : String} (h : name ∉ fields) :
    name ≠ "initial_capacity" ∧ name ≠ "order" := by
  simpa [fields] using h

theorem Gives.held_initialCapacity (h : Gives members choices) :
    held "initial_capacity" members =
      (choices.filterMap Choice.initialCapacity?).map fun slots => ofInt slots.toNat := by
  induction h with
  | nil => rfl
  | initialCapacity slots _ ih =>
    simp [held_cons, Choice.initialCapacity?, ih]
  | order _ _ ih => simp [held_cons, List.filterMap_cons, Choice.initialCapacity?, ih]
  | other v hname _ ih => rw [held_cons, if_neg (ne_fields hname).1, ih]

theorem Gives.held_order (h : Gives members choices) :
    List.Forall₂ QueueOrder.Describes (choices.filterMap Choice.order?) (held "order" members) := by
  induction h with
  | nil => exact .nil
  | initialCapacity slots _ ih => simpa [held_cons, List.filterMap_cons, Choice.order?] using ih
  | order hv _ ih =>
    simpa [held_cons, List.filterMap_cons, Choice.order?] using And.intro hv ih
  | other v hname _ ih => rwa [held_cons, if_neg (ne_fields hname).2]

theorem capacityOfJson?_ofInt (slots : UInt64) :
    capacityOfJson? (ofInt slots.toNat) = some slots :=
  Word.unsigned?_toNat slots

/-- **Where no field is given twice, an object stands for the settings of its choices.** -/
theorem ofJson?_of_gives (h : Gives members choices)
    (honce : ∀ field ∈ fields, (held field members).length ≤ 1) :
    ofJson? (ofMembers members) = some (ofChoices choices) := by
  obtain ⟨record, hrecord, hget⟩ := Record.ofJson?_ofMembers honce
  have hcapacity : record.optional? "initial_capacity" 0 capacityOfJson? =
      some ((choices.filterMap Choice.initialCapacity?).getLast?.getD 0) := by
    have hlength := honce "initial_capacity" (by simp [fields])
    rw [Record.optional?, hget "initial_capacity" (by simp [fields])]
    rw [h.held_initialCapacity] at hlength ⊢
    match choices.filterMap Choice.initialCapacity?, hlength with
    | [], _ => rfl
    | [slots], _ => exact capacityOfJson?_ofInt slots
  have horder : record.optional? "order" .min QueueOrder.ofJson? =
      some ((choices.filterMap Choice.order?).getLast?.getD .min) := by
    have hlength := honce "order" (by simp [fields])
    rw [Record.optional?, hget "order" (by simp [fields])]
    have hpairs := h.held_order
    generalize choices.filterMap Choice.order? = orders at hpairs ⊢
    generalize held "order" members = vs at hpairs hlength ⊢
    cases hpairs with
    | nil => rfl
    | cons hv hothers =>
      cases hothers with
      | nil => exact QueueOrder.ofJson?_of_describes hv
      | cons => simp at hlength
  rw [ofJson?, hrecord, Option.bind_eq_bind, Option.bind_some, hcapacity, Option.bind_eq_bind,
    Option.bind_some, horder, ofChoices_eq]
  rfl

/-! ## Texts -/

theorem parse?_of_text {v : Json} {s : List Char} (h : Text v s) : parse? s = ofJson? v := by
  rw [parse?, parse?_eq_some_iff.2 h, Option.bind_eq_bind, Option.bind_some]

theorem toJson_plain (settings : Settings) : (toJson settings).Plain := by
  simp [Json.Plain, toJson, QueueOrder.toJson, ofMembers, tokens, memberTokens, ofText, ofInt,
    Token.Plain]

/-- Settings are read from the value that they are written as. -/
theorem ofJson?_toJson (settings : Settings) : ofJson? settings.toJson = some settings := by
  have hgives : Gives [("initial_capacity", ofInt settings.initialCapacity.toNat),
      ("order", settings.order.toJson)]
      [.initialCapacity settings.initialCapacity, .order settings.order] :=
    .initialCapacity _ (.order .name .nil)
  exact ofJson?_of_gives hgives (by simp [fields, held])

/-- **Choices and objects lead to the same settings.**  Of the choices of either kind only the last
counts, and where there is none the default holds.  Settings come back from what they are written as.
A text of an object that gives each field at most once is read as the settings that its choices lead
to, in whatever order they come and whatever well-formed values members of other names hold.  A text
of an object that gives a field twice is read as no settings, whatever it gives. -/
theorem chosen_as_given :
    (∀ choices : List Choice, ofChoices choices =
      ⟨(choices.filterMap Choice.initialCapacity?).getLast?.getD 0,
        (choices.filterMap Choice.order?).getLast?.getD .min⟩) ∧
    (∀ settings : Settings, parse? (compact settings.toJson) = some settings) ∧
    (∀ (members : List (String × Json)) (choices : List Choice) (s : List Char),
      Text (ofMembers members) s → Gives members choices →
        (∀ field ∈ fields, (held field members).length ≤ 1) →
        parse? s = some (ofChoices choices)) ∧
    ∀ (members : List (List Point × Json)) (s : List Char), Text (.object members) s →
      (∃ field ∈ fields, 1 < (members.map Prod.fst).count (pointsOf field)) → parse? s = none := by
  refine ⟨ofChoices_eq, fun settings => ?_, fun members choices s htext hgives honce => ?_,
    fun members s htext hrepeated => ?_⟩
  · rw [parse?_of_text (text_compact (toJson_plain settings)), ofJson?_toJson]
  · rw [parse?_of_text htext, ofJson?_of_gives hgives honce]
  · obtain ⟨field, hfield, hcount⟩ := hrepeated
    rw [parse?_of_text htext, ofJson?, Record.ofJson?_eq_none_of_repeated hfield hcount]
    rfl

/-- The greatest capacity, an order in its longer form under an escaped name, and a member that holds
another order; a capacity given twice. -/
theorem chosen_as_given_greatest_capacity :
    let members : List (String × Json) :=
      [("note", .array [.number (.real "2.50e-3".toList), ofMembers [("order", ofText "min")]]),
        ("order", ofMembers [("max", .null)]), ("initial_capacity", ofInt 18446744073709551615)]
    let choices : List Choice := [.order .max, .initialCapacity 18446744073709551615]
    let text := ("\x7b\"note\" : [2.50e-3, \x7b\"order\":\"min\"\x7d],\r\n\"\\u006Frder\":" ++
      "\x7b\"max\":null\x7d, \"initial_capacity\":18446744073709551615\x7d").toList
    let twice := [(pointsOf "initial_capacity", ofInt 1), (pointsOf "initial_capacity", ofInt 1)]
    let text' := "\x7b\"initial_capacity\":1,\"initial_capacity\":1\x7d".toList
    Text (ofMembers members) text ∧ Gives members choices ∧
      (∀ field ∈ fields, (held field members).length ≤ 1) ∧
      parse? text = some ⟨18446744073709551615, .max⟩ ∧
      Text (.object twice) text' ∧ parse? text' = none := by
  intro members choices text twice text'
  have htext : Text (ofMembers members) text := Token.spells_of_ofChars? (by decide +kernel)
  have htwice : Text (.object twice) text' := Token.spells_of_ofChars? (by decide +kernel)
  have hgives : Gives members choices :=
    .other _ (by simp [fields]) (.order .member (.initialCapacity 18446744073709551615 .nil))
  have honce : ∀ field ∈ fields, (held field members).length ≤ 1 := by
    simp [fields, members, held]
  obtain ⟨-, -, hread, hreject⟩ := chosen_as_given
  have hrepeated : ∃ field ∈ fields, 1 < (twice.map Prod.fst).count (pointsOf field) :=
    ⟨"initial_capacity", by simp [fields], by decide +kernel⟩
  exact ⟨htext, hgives, honce, hread members choices text htext hgives honce, htwice,
    hreject twice text' htwice hrepeated⟩

end Settings

end Agenda
