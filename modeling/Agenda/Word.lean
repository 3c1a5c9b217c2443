/-!
# 64-bit integers out of unbounded ones

* `Word.signed?` — a signed word, if the integer is in range.
* `Word.unsigned?` — an unsigned word, if the number is in range.
-/

set_option autoImplicit false

namespace Agenda.Word

/-- The signed word of an integer from -2^63 to 2^63 - 1. -/
def signed? (z : Int) : Option Int64 :=
  if Int64.minValue.toInt ≤ z ∧ z ≤ Int64.maxValue.toInt then some (Int64.ofInt z) else none

/-- The unsigned word of a number below 2^64. -/
def unsigned? (n : Nat) : Option UInt64 :=
  if n < UInt64.size then some (UInt64.ofNat n) else none

theorem signed?_toInt (p : Int64) : signed? p.toInt = some p := by
  have lower := p.minValue_le_toInt
  have upper := p.toInt_le
  simp only [signed?, if_pos (And.intro lower upper), Int64.ofInt_toInt]

/-- The signed words are the integers in range. -/
theorem signed?_eq_some_iff {z : Int} {p : Int64} : signed? z = some p ↔ z = p.toInt := by
  constructor
  · intro h
    obtain ⟨⟨lower, upper⟩, hp⟩ := Option.ite_none_right_eq_some.1 h
    have upper' : z < Int64.maxValue.toInt + 1 := Int.lt_add_one_of_le upper
    rw [← Option.some.inj hp, Int64.toInt_ofInt_of_le lower upper']
  · rintro rfl
    exact signed?_toInt p

theorem unsigned?_toNat (n : UInt64) : unsigned? n.toNat = some n := by
  simp only [unsigned?, if_pos n.toNat_lt, UInt64.ofNat_toNat]

end Agenda.Word
