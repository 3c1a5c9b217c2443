import Agenda.Key.Sequenced
import Agenda.Proofs.Ranking
import Agenda.PriorityQueue.Operation
import Mathlib.Data.List.Sort
/-!
# Waiting in line

What a queue with `Sequenced` keys comes to, told without keys that are compared as a whole, and
without a heap: the items wait in the order in which they came in, and of those with the least key
the one that has waited longest is served next.

* `Line`, `Line.next?`, `Line.rest` — the items in the order of their arrival, the one served next
  and the others.
* `Line.perform`, `Line.run` — requests put to a line.
* `Line.sorted` — a line sorted by its keys alone, items with the same key in the order of arrival.
* `perform_sublist` — nobody in the line changes places.
* `sorted_of_next?`, `serve_all` — serving a line to its end sorts it.
-/

set_option autoImplicit false

namespace Agenda

open PriorityQueue (Operation Reply)

variable {V K S : Type}

/-- The items that a request brings in, in order. -/
def PriorityQueue.Operation.arrivals {P : Type} : Operation V P → List (Item V P)
  | .insert x => [x]
  | .push value priority => [⟨value, priority⟩]
  | .extend xs => xs
  | _ => []

/-- Items in the order in which they came in. -/
abbrev Line (V K S : Type) := List (Item V (Sequenced K S))

namespace Line

variable [Ord K]

/-- The key of one item is at most that of another; sequence numbers do not matter. -/
def keyLE (x y : Item V (Sequenced K S)) : Bool := (compare x.priority.key y.priority.key).isLE

/-- No item of the line has a lesser key. -/
def isLeast (line : Line V K S) (x : Item V (Sequenced K S)) : Bool := line.all (keyLE x)

/-- The item that is served next: the first to have come in among those with the least key. -/
def next? (line : Line V K S) : Option (Item V (Sequenced K S)) := line.find? (isLeast line)

/-- The line without the item that is served next. -/
def rest (line : Line V K S) : Line V K S := line.eraseP (isLeast line)

/-- Serves the line, at most as many items as the limit. -/
def serve (line : Line V K S) : Nat → List (Item V (Sequenced K S)) × Line V K S
  | 0 => ([], line)
  | limit + 1 =>
    match line.next? with
    | some x =>
      let (xs, last) := line.rest.serve limit
      (x :: xs, last)
    | none => ([], line)

/-- The line sorted by its keys; items with the same key stay in the order of their arrival. -/
def sorted (line : Line V K S) : List (Item V (Sequenced K S)) := line.mergeSort keyLE

/-- Puts a request to the line. -/
def perform (line : Line V K S) :
    Operation V (Sequenced K S) → Reply V (Sequenced K S) × Line V K S
  | .insert x => (.done, line ++ [x])
  | .push value priority => (.done, line ++ [⟨value, priority⟩])
  | .extend xs => (.done, line ++ xs)
  | .pop => (.item? line.next?, line.rest)
  | .remove => (.removal (line.next?.elim (.error .empty) .ok), line.rest)
  | .peek => (.item? line.next?, line)
  | .size => (.count line.length, line)
  | .isEmpty => (.flag line.isEmpty, line)
  | .check => (.flag true, line)
  | .clear => (.done, [])
  | .drain limit =>
    let (xs, last) := line.serve (limit.getD line.length)
    (.drained line.length xs last.length, last)
  | .sorted => (.items line.sorted, line)

/-- Puts requests to the line in turn. -/
def run (line : Line V K S) :
    List (Operation V (Sequenced K S)) → List (Reply V (Sequenced K S)) × Line V K S
  | [] => ([], line)
  | op :: ops =>
    let (reply, line') := line.perform op
    let (replies, last) := line'.run ops
    (reply :: replies, last)

/-! ## Who waits -/

theorem rest_sublist (line : Line V K S) : line.rest.Sublist line := List.eraseP_sublist

theorem serve_sublist (line : Line V K S) (limit : Nat) : (line.serve limit).2.Sublist line := by
  induction limit generalizing line with
  | zero => exact .refl line
  | succ limit ih =>
    unfold serve
    cases line.next? with
    | none => exact .refl line
    | some x => exact (ih line.rest).trans (rest_sublist line)

/-- Nobody waits who was not there before or has just come in, and nobody changes places. -/
theorem perform_sublist (line : Line V K S) (op : Operation V (Sequenced K S)) :
    (line.perform op).2.Sublist (line ++ op.arrivals) := by
  cases op with
  | insert | push | extend => exact .refl _
  | pop | remove => exact (rest_sublist line).trans (List.sublist_append_left line [])
  | peek | size | isEmpty | check | sorted => exact List.sublist_append_left line []
  | clear => exact List.nil_sublist _
  | drain limit => exact (serve_sublist line _).trans (List.sublist_append_left line [])

/-! ## The item served next -/

section

variable {line front back : Line V K S} {x y z : Item V (Sequenced K S)}

theorem isLeast_iff : isLeast line x = true ↔ ∀ y ∈ line, keyLE x y = true := List.all_eq_true

/-- An item is not least if another has a lesser key. -/
theorem not_isLeast (hx : x ∈ line) (hyx : keyLE y x = false) : ¬ isLeast line y = true := by
  intro h
  rw [isLeast_iff.1 h x hx] at hyx
  cases hyx

/-- An item goes before the first one of at least its key. -/
theorem orderedInsert_append (hfront : ∀ y ∈ front, keyLE x y = false)
    (hback : ∀ y ∈ back, keyLE x y = true) :
    List.orderedInsert (keyLE · · = true) x (front ++ back) = front ++ x :: back := by
  induction front with
  | nil =>
    cases back with
    | nil => rfl
    | cons y back => exact List.orderedInsert_cons_of_le _ back (hback y List.mem_cons_self)
  | cons y front ih =>
    have hxy : ¬ keyLE x y = true := by simp [hfront y List.mem_cons_self]
    have hrest := ih fun z hz => hfront z (List.mem_cons_of_mem y hz)
    rw [List.cons_append, List.orderedInsert_of_not_le (keyLE · · = true) _ hxy, hrest,
      List.cons_append]

variable [Std.TransOrd K]

theorem keyLE_trans (x y z : Item V (Sequenced K S)) (hxy : keyLE x y = true)
    (hyz : keyLE y z = true) : keyLE x z = true :=
  Std.TransOrd.isLE_trans hxy hyz

theorem keyLE_total (x y : Item V (Sequenced K S)) : (keyLE x y || keyLE y x) = true := by
  unfold keyLE
  rw [Std.OrientedOrd.eq_swap (a := x.priority.key)]
  cases compare y.priority.key x.priority.key <;> rfl

theorem keyLE_of_not (h : keyLE y x = false) : keyLE x y = true := by
  simpa [h] using keyLE_total x y

/-- The item served next has a lesser key than all before it and at most the key of all after
it. -/
theorem next?_eq_some_iff : line.next? = some x ↔ ∃ front back, line = front ++ x :: back ∧
    (∀ y ∈ front, keyLE y x = false) ∧ ∀ y ∈ back, keyLE x y = true := by
  unfold next?
  rw [List.find?_eq_some_iff_append, isLeast_iff]
  constructor
  · rintro ⟨hleast, front, back, hline, hfront⟩
    refine ⟨front, back, hline, fun y hy => ?_, fun y hy => hleast y (by simp [hline, hy])⟩
    -- were the key of `y` at most that of `x`, then `y` would be least as well
    have hy' := hfront y hy
    cases hyx : keyLE y x with
    | false => rfl
    | true =>
      have : isLeast line y = true := isLeast_iff.2 fun z hz => keyLE_trans y x z hyx (hleast z hz)
      rw [this] at hy'
      cases hy'
  · rintro ⟨front, back, rfl, hfront, hback⟩
    refine ⟨fun y hy => ?_, front, back, rfl, fun y hy => ?_⟩
    · rcases List.mem_append.1 hy with hy | hy
      · exact keyLE_of_not (hfront y hy)
      · rcases List.mem_cons.1 hy with rfl | hy
        · simpa using keyLE_total y y
        · exact hback y hy
    · simpa using not_isLeast (by simp) (hfront y hy)

theorem rest_append_cons (hfront : ∀ y ∈ front, keyLE y x = false)
    (hback : ∀ y ∈ back, keyLE x y = true) : rest (front ++ x :: back) = front ++ back := by
  have hnext : next? (front ++ x :: back) = some x :=
    next?_eq_some_iff.2 ⟨front, back, rfl, hfront, hback⟩
  unfold rest
  rw [List.eraseP_append_right _ fun y hy => not_isLeast (by simp) (hfront y hy),
    List.eraseP_cons_of_pos (List.find?_some hnext)]

theorem perm_of_next? (h : line.next? = some x) : line.Perm (x :: line.rest) := by
  obtain ⟨front, back, rfl, hfront, hback⟩ := next?_eq_some_iff.1 h
  rw [rest_append_cons hfront hback]
  exact List.perm_middle

/-! ## Sorting -/

theorem pairwise_sorted (line : Line V K S) : line.sorted.Pairwise (keyLE · · = true) :=
  List.pairwise_mergeSort keyLE_trans keyLE_total line

/-- A stable sort inserts the items one by one, the last of them first. -/
theorem sorted_eq_insertionSort (line : Line V K S) :
    line.sorted = line.insertionSort (keyLE · · = true) := by
  induction line with
  | nil => exact List.mergeSort_nil
  | cons x line ih =>
    obtain ⟨before, after, hcons, hline, hbefore⟩ :=
      List.mergeSort_cons keyLE_trans keyLE_total x line
    have hsorted := pairwise_sorted (x :: line)
    unfold sorted at hsorted ih ⊢
    rw [hcons] at hsorted
    have hafter := (List.pairwise_cons.1 (List.pairwise_append.1 hsorted).2.1).1
    rw [List.insertionSort_cons, ← ih, hline, hcons,
      orderedInsert_append (fun y hy => by simpa using hbefore y hy) hafter]

/-- An item with a lesser key than all before it and at most the key of all after it comes first when
they are sorted. -/
theorem sorted_append_cons (hfront : ∀ y ∈ front, keyLE y x = false)
    (hback : ∀ y ∈ back, keyLE x y = true) :
    sorted (front ++ x :: back) = x :: sorted (front ++ back) := by
  simp only [sorted_eq_insertionSort]
  induction front with
  | nil =>
    have hrest : ∀ y ∈ back.insertionSort (keyLE · · = true), keyLE x y = true := fun y hy =>
      hback y ((List.mem_insertionSort _).1 hy)
    exact orderedInsert_append (List.forall_mem_nil _) hrest
  | cons y front ih =>
    have hyx : ¬ keyLE y x = true := by simp [hfront y List.mem_cons_self]
    have hrest := ih fun z hz => hfront z (List.mem_cons_of_mem y hz)
    -- `y` is inserted behind `x`
    rw [List.cons_append, List.insertionSort_cons, hrest,
      List.orderedInsert_of_not_le (keyLE · · = true) _ hyx, List.cons_append,
      List.insertionSort_cons]

/-- **The item served next comes first in the sorted line**, and the others follow as they are
sorted. -/
theorem sorted_of_next? (h : line.next? = some x) : line.sorted = x :: line.rest.sorted := by
  obtain ⟨front, back, rfl, hfront, hback⟩ := next?_eq_some_iff.1 h
  rw [rest_append_cons hfront hback, sorted_append_cons hfront hback]

/-- As long as somebody waits, somebody is served next. -/
theorem exists_next? (h : line ≠ []) : ∃ x, line.next? = some x := by
  have hperm := List.mergeSort_perm line keyLE
  have hsorted := pairwise_sorted line
  unfold sorted at hsorted
  cases hcons : line.mergeSort keyLE with
  | nil =>
    rw [hcons] at hperm
    exact absurd hperm.symm.eq_nil h
  | cons x xs =>
    rw [hcons] at hperm hsorted
    refine Option.isSome_iff_exists.1 (List.find?_isSome.2 ⟨x, hperm.mem_iff.1 List.mem_cons_self, ?_⟩)
    refine isLeast_iff.2 fun y hy => ?_
    rcases List.mem_cons.1 (hperm.mem_iff.2 hy) with rfl | hy
    · simpa using keyLE_total y y
    · exact (List.pairwise_cons.1 hsorted).1 y hy

/-- **Serving a line to its end sorts it**, stably. -/
theorem serve_all (line : Line V K S) : line.serve line.length = (line.sorted, []) := by
  generalize hn : line.length = n
  induction n generalizing line with
  | zero =>
    obtain rfl : line = [] := List.length_eq_zero_iff.1 hn
    simp [serve, sorted]
  | succ n ih =>
    obtain ⟨x, hx⟩ := exists_next? (show line ≠ [] by rintro rfl; cases hn)
    have hlength : line.rest.length = n := by
      have hperm := (perm_of_next? hx).length_eq
      rw [hn, List.length_cons] at hperm
      omega
    simp only [serve, hx, ih line.rest hlength, sorted_of_next? hx]

end

end Line

end Agenda
