import Agenda.Json.Record
import Mathlib.Data.List.Forall2
import Mathlib.Data.List.Count
import Mathlib.Data.List.Nodup
/-!
# Records in JSON, by what their objects hold

* `text?_eq_some_iff`, `int?_eq_some_iff` — which values are texts and integers.
* `Json.held` — the values that an object holds under a name, in the order of its members.
* `Record.ofJson?_ofMembers`, `Record.exists_ofMembers` — **the records among objects are those whose
  names are texts and that give no field twice**; a field of the record is what the object holds
  under its name, whatever other members there are.
-/

set_option autoImplicit false

namespace Agenda.Json

/-! ## Texts and integers -/

/-- Items are all read if each of them is. -/
theorem mapM_eq_some_iff {α β : Type} {read : β → Option α} {ys : List β} {xs : List α} :
    ys.mapM read = some xs ↔ List.Forall₂ (fun y x => read y = some x) ys xs := by
  induction ys generalizing xs with
  | nil => simp [eq_comm]
  | cons y ys ih =>
    simp only [List.mapM_cons, Option.bind_eq_bind, Option.bind_eq_some_iff, ih,
      List.forall₂_cons_left_iff]
    constructor
    · rintro ⟨x, hx, xs', hxs, heq⟩
      exact ⟨x, xs', hx, hxs, (Option.some.inj heq).symm⟩
    · rintro ⟨x, xs', hx, hxs, rfl⟩
      exact ⟨x, hx, xs', hxs, rfl⟩

/-- One item that is not read spoils them all. -/
theorem mapM_eq_none_iff {α β : Type} {read : β → Option α} {ys : List β} :
    ys.mapM read = none ↔ ∃ y ∈ ys, read y = none := by
  induction ys with
  | nil => simp
  | cons y ys ih =>
    rw [List.exists_mem_cons_iff, ← ih, List.mapM_cons]
    cases read y <;> cases ys.mapM read <;> simp

/-- Where each item is read from what it is written as and from nothing else, so are many. -/
theorem mapM_eq_some_iff_of_read {α β : Type} {read : β → Option α} {write : α → β}
    (h : ∀ y x, read y = some x ↔ y = write x) {ys : List β} {xs : List α} :
    ys.mapM read = some xs ↔ ys = xs.map write := by
  have hpairs := List.forall₂_map_right_iff (R := fun y y' => y = y') (f := write) (l := ys)
    (u := xs)
  simp only [mapM_eq_some_iff, h, ← hpairs, List.forall₂_eq_eq_eq]

theorem textOf?_eq_some_iff {s : List Point} {text : String} :
    textOf? s = some text ↔ s = pointsOf text := by
  have hread : ∀ p c, Point.char? p = some c ↔ p = .scalar c := by
    intro p c
    cases p <;> simp [Point.char?]
  simp only [textOf?, Option.map_eq_some_iff, mapM_eq_some_iff_of_read hread, pointsOf]
  constructor
  · rintro ⟨cs, rfl, rfl⟩
    rw [String.toList_ofList]
  · rintro rfl
    exact ⟨text.toList, rfl, String.ofList_toList⟩

theorem text?_eq_some_iff {v : Json} {text : String} : v.text? = some text ↔ v = ofText text := by
  cases v <;> simp [text?, ofText, textOf?_eq_some_iff]

theorem int?_eq_some_iff {v : Json} {z : Int} : v.int? = some z ↔ v = ofInt z := by
  cases v with
  | number n => cases n <;> simp [int?, ofInt]
  | null | bool | string | array | object => simp [int?, ofInt]

theorem pointsOf_injective : Function.Injective pointsOf := by
  intro s t h
  have hs := textOf?_eq_some_iff.2 (rfl : pointsOf s = pointsOf s)
  rw [h] at hs
  exact (Option.some.inj (hs.symm.trans (textOf?_eq_some_iff.2 rfl)))

/-! ## Members -/

/-- The values that an object holds under a name, in the order of its members. -/
def held (name : String) (members : List (String × Json)) : List Json :=
  (members.filter fun m => m.1 = name).map Prod.snd

theorem held_cons (name name' : String) (v : Json) (members : List (String × Json)) :
    held name ((name', v) :: members) =
      if name' = name then v :: held name members else held name members := by
  unfold held
  split <;> simp [*]

theorem length_held (name : String) (members : List (String × Json)) :
    (held name members).length = (members.map Prod.fst).count name := by
  rw [held, List.length_map, ← List.countP_eq_length_filter, List.count, List.countP_map]
  exact List.countP_congr fun m _ => by simp

/-- Unescaped, a name occurs as often as the object holds something under it. -/
theorem count_pointsOf (name : String) (members : List (String × Json)) :
    ((members.map fun m => (pointsOf m.1, m.2)).map Prod.fst).count (pointsOf name) =
      (held name members).length := by
  have hnames : (members.map fun m => (pointsOf m.1, m.2)).map Prod.fst =
      (members.map Prod.fst).map pointsOf := by simp
  rw [hnames, List.count_map_of_injective _ pointsOf pointsOf_injective, length_held]

namespace Record

variable {fields : List String} {field : String} {members : List (String × Json)}

theorem members?_eq_some_iff {ms : List (List Point × Json)} :
    members? ms = some members ↔ ms = members.map fun m => (pointsOf m.1, m.2) := by
  refine mapM_eq_some_iff_of_read fun member m => ?_
  obtain ⟨name, v⟩ := member
  obtain ⟨text, w⟩ := m
  simp [Option.bind_eq_some_iff, textOf?_eq_some_iff]

/-- The members that name a field. -/
def kept (fields : List String) (members : List (String × Json)) : List (String × Json) :=
  members.filter fun m => m.1 ∈ fields

/-- A field is kept as often as the object gives it. -/
theorem count_kept (h : field ∈ fields) :
    ((kept fields members).map Prod.fst).count field = (held field members).length := by
  simp only [length_held, List.count, List.countP_map, kept, List.countP_filter]
  refine List.countP_congr fun m _ => ?_
  simp only [Function.comp_apply, Bool.and_eq_true, beq_iff_eq, decide_eq_true_eq]
  exact ⟨fun hm => hm.1, fun hm => ⟨hm, hm ▸ h⟩⟩

/-- A field that is kept holds what the object holds first under its name. -/
theorem lookup_kept (h : field ∈ fields) :
    (kept fields members).lookup field = (held field members).head? := by
  induction members with
  | nil => rfl
  | cons m members ih =>
    obtain ⟨name, v⟩ := m
    by_cases hname : name = field
    · subst hname
      simp [kept, held, h]
    · have hother : (field == name) = false := beq_false_of_ne (Ne.symm hname)
      by_cases hkept : name ∈ fields
      · simpa [kept, held, hname, hkept, List.lookup_cons, hother] using ih
      · simpa [kept, held, hname, hkept] using ih

theorem nodup_kept_iff :
    ((kept fields members).map Prod.fst).Nodup ↔
      ∀ field ∈ fields, (held field members).length ≤ 1 := by
  rw [List.nodup_iff_count_le_one]
  constructor
  · intro hall field hfield
    rw [← count_kept hfield]
    exact hall field
  · intro honce field
    by_cases hfield : field ∈ fields
    · rw [count_kept hfield]
      exact honce field hfield
    · have hnone : field ∉ (kept fields members).map Prod.fst := by simp [kept, hfield]
      rw [List.count_eq_zero.2 hnone]
      exact Nat.zero_le 1

/-- **An object that gives each field at most once is a record**, whose fields are what the object
holds under their names. -/
theorem ofJson?_ofMembers (h : ∀ field ∈ fields, (held field members).length ≤ 1) :
    ∃ record, ofJson? fields (ofMembers members) = some record ∧
      ∀ field ∈ fields, record.get? field = (held field members).head? := by
  refine ⟨⟨kept fields members⟩, ?_, fun field hfield => lookup_kept hfield⟩
  rw [ofMembers, ofJson?, members?_eq_some_iff.2 rfl, Option.bind_eq_bind, Option.bind_some,
    ofMembers?]
  exact if_pos (nodup_kept_iff.2 h)

/-- **No other object is a record.** -/
theorem exists_ofMembers {ms : List (List Point × Json)} {record : Record}
    (h : ofJson? fields (.object ms) = some record) :
    ∃ members, object ms = ofMembers members ∧
      ∀ field ∈ fields, (held field members).length ≤ 1 := by
  simp only [ofJson?, Option.bind_eq_bind, Option.bind_eq_some_iff] at h
  obtain ⟨members, hmembers, hkept⟩ := h
  obtain rfl := members?_eq_some_iff.1 hmembers
  obtain ⟨hnodup, -⟩ := Option.ite_none_right_eq_some.1 hkept
  exact ⟨members, rfl, nodup_kept_iff.1 hnodup⟩

/-- An object that repeats a field is no record, whatever else is in it. -/
theorem ofJson?_eq_none_of_repeated {ms : List (List Point × Json)} (hfield : field ∈ fields)
    (h : 1 < (ms.map Prod.fst).count (pointsOf field)) : ofJson? fields (.object ms) = none := by
  refine Option.eq_none_iff_forall_ne_some.2 fun record hrecord => ?_
  obtain ⟨members, hobject, honce⟩ := exists_ofMembers hrecord
  obtain rfl := Json.object.inj hobject
  rw [count_pointsOf] at h
  exact Nat.not_le.2 h (honce field hfield)

end Record

end Agenda.Json
