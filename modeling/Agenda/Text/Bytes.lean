/-!
# Texts by their bytes

* `Bytes.size` — the number of bytes of a text in UTF-8.
* `Bytes.splitAt?` — a text in two, after a number of bytes, unless that is within a character.
  `splitAt?_eq_some_iff` says that these are the two parts of which the first has that size.
* `Bytes.slice?` — what lies between two such places.  `slice?_eq_some_iff` says that it is the text
  with a part of the first size before it, up to the second size.
-/

set_option autoImplicit false

namespace Agenda.Bytes

/-- The number of bytes of a text. -/
def size (s : List Char) : Nat := s.foldr (fun c n => c.utf8Size + n) 0

@[simp] theorem size_nil : size [] = 0 := rfl

@[simp] theorem size_cons (c : Char) (s : List Char) : size (c :: s) = c.utf8Size + size s := rfl

/-- Divides a text after a number of bytes. -/
def splitAt? : Nat → List Char → Option (List Char × List Char)
  | 0, s => some ([], s)
  | _ + 1, [] => none
  | n + 1, c :: s =>
    if c.utf8Size ≤ n + 1 then
      (splitAt? (n + 1 - c.utf8Size) s).map fun parts => (c :: parts.1, parts.2)
    else none

/-- The part of a text between two places, counted in bytes from its beginning. -/
def slice? (start stop : Nat) (s : List Char) : Option (List Char) := do
  let (before, _) ← splitAt? stop s
  let (_, part) ← splitAt? start before
  return part

theorem eq_of_splitAt? {n : Nat} {s a b : List Char} (h : splitAt? n s = some (a, b)) :
    s = a ++ b ∧ size a = n := by
  fun_induction splitAt? n s generalizing a b with
  | case1 s => simp_all
  | case2 => simp at h
  | case3 n c s hc ih =>
    obtain ⟨parts, hparts, heq⟩ := Option.map_eq_some_iff.1 h
    obtain ⟨rfl, rfl⟩ := Prod.mk.inj heq
    obtain ⟨hs, hn⟩ := ih hparts
    exact ⟨by simp [hs], by rw [size_cons]; omega⟩
  | case4 => simp at h

theorem splitAt?_append (a b : List Char) : splitAt? (size a) (a ++ b) = some (a, b) := by
  induction a with
  | nil => cases b <;> rfl
  | cons c a ih =>
    have hc : 0 < c.utf8Size := Char.utf8Size_pos c
    obtain ⟨n, hn⟩ : ∃ n, size (c :: a) = n + 1 := ⟨c.utf8Size + size a - 1, by rw [size_cons]; omega⟩
    have hle : c.utf8Size ≤ n + 1 := by rw [← hn, size_cons]; omega
    have hsub : n + 1 - c.utf8Size = size a := by rw [← hn, size_cons]; omega
    rw [hn, List.cons_append, splitAt?, if_pos hle, hsub, ih]
    rfl

theorem splitAt?_eq_some_iff {n : Nat} {s a b : List Char} :
    splitAt? n s = some (a, b) ↔ s = a ++ b ∧ size a = n :=
  ⟨eq_of_splitAt?, fun ⟨hs, hn⟩ => hs ▸ hn ▸ splitAt?_append a b⟩

theorem slice?_eq_some_iff {start stop : Nat} {s part : List Char} :
    slice? start stop s = some part ↔
      ∃ before after, s = before ++ part ++ after ∧ size before = start ∧
        size (before ++ part) = stop := by
  constructor
  · intro h
    obtain ⟨⟨front, after⟩, hfront, h⟩ := Option.bind_eq_some_iff.1 h
    obtain ⟨⟨before, part'⟩, hbefore, h⟩ := Option.bind_eq_some_iff.1 h
    obtain rfl := Option.some.inj h
    obtain ⟨rfl, hstop⟩ := eq_of_splitAt? hfront
    obtain ⟨rfl, hstart⟩ := eq_of_splitAt? hbefore
    exact ⟨before, after, rfl, hstart, hstop⟩
  · rintro ⟨before, after, rfl, rfl, rfl⟩
    rw [slice?, splitAt?_append (before ++ part) after]
    simp [splitAt?_append before part]

end Agenda.Bytes
