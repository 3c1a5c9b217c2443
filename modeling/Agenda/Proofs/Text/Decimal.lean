import Agenda.Text.Decimal
import Mathlib.Data.Nat.Digits.Lemmas
/-!
# Decimal numbers, read and written

* `Decimal.Digits`, `Decimal.placeValue` — one or more ASCII digits, and the number they stand for
  by their places.
* `Decimal.Numeral` — digits after at most one sign, with the integer that they stand for.
* `signed?_eq_some_iff` — exactly the numerals are read, as what they stand for.
* `numeral_ofInt` — what is written is a numeral of what was written, without leading zeros
  (`ofNat_ne_zero_cons`).
-/

set_option autoImplicit false

namespace Agenda.Decimal

variable {s : List Char}

/-- One or more ASCII digits. -/
structure Digits (s : List Char) : Prop where
  ne_nil : s ≠ []
  all : ∀ c ∈ s, c.isDigit = true

/-- The number that digits stand for: each counts by its place, the last one for itself. -/
def placeValue (digits : List Char) : Nat :=
  Nat.ofDigits 10 (digits.reverse.map fun d => d.toNat - '0'.toNat)

/-- Digits after at most one sign, and the integer that they stand for.  Leading zeros do not
matter. -/
inductive Numeral : List Char → Int → Prop where
  | unsigned {digits : List Char} : Digits digits → Numeral digits (placeValue digits)
  | plus {digits : List Char} : Digits digits → Numeral ('+' :: digits) (placeValue digits)
  | minus {digits : List Char} : Digits digits → Numeral ('-' :: digits) (-placeValue digits)

/-! ## Digits -/

theorem ofDigitChars_eq_placeValue (digits : List Char) :
    Nat.ofDigitChars 10 digits 0 = placeValue digits := by
  rw [Nat.ofDigitChars_eq_foldl, placeValue, Nat.ofDigits_eq_foldr, List.foldr_map,
    List.foldr_reverse]
  simp only [Nat.cast_id, Nat.add_comm]

theorem digits_ofNat (n : Nat) : Digits (ofNat n) :=
  ⟨Nat.toDigits_ne_nil, fun _ => Nat.isDigit_of_mem_toDigits (by decide) (by decide)⟩

theorem placeValue_ofNat (n : Nat) : placeValue (ofNat n) = n := by
  rw [← ofDigitChars_eq_placeValue]
  exact Nat.ofDigitChars_ten_toDigits

theorem Digits.exists_cons (h : Digits s) : ∃ d ds, s = d :: ds ∧ d.isDigit = true := by
  obtain ⟨d, ds, rfl⟩ := List.exists_cons_of_ne_nil h.ne_nil
  exact ⟨d, ds, rfl, h.all d List.mem_cons_self⟩

/-- A digit is neither of the two signs. -/
theorem Digits.ne_sign {c : Char} {cs : List Char} (h : Digits (c :: cs)) : c ≠ '-' ∧ c ≠ '+' := by
  have hc : c.isDigit = true := h.all c List.mem_cons_self
  constructor
  · rintro rfl
    exact absurd hc (by decide)
  · rintro rfl
    exact absurd hc (by decide)

/-- Only zero is written with a zero in front. -/
theorem ofNat_ne_zero_cons {n : Nat} (hn : n ≠ 0) (cs : List Char) : ofNat n ≠ '0' :: cs := by
  intro h
  induction n using Nat.strongRecOn generalizing cs with
  | ind n ih =>
    rcases Nat.lt_or_ge n 10 with hlt | hge
    · rw [ofNat, Nat.toDigits_of_lt_base hlt] at h
      have hdigit : ∀ d < 10, d ≠ 0 → d.digitChar ≠ '0' := by decide
      exact hdigit n hlt hn (List.cons.inj h).1
    · rw [ofNat, Nat.toDigits_of_base_le (by decide) hge] at h
      -- all digits but the last are those of the tenth part, which starts in the same way
      obtain ⟨c, ds, hds⟩ := List.exists_cons_of_ne_nil (Nat.toDigits_ne_nil (n := n / 10) (b := 10))
      rw [hds] at h
      obtain rfl : c = '0' := (List.cons.inj h).1
      exact ih (n / 10) (by omega) (by omega) ds hds

/-! ## Numerals -/

theorem natural?_eq_some_iff {n : Nat} : natural? s = some n ↔ Digits s ∧ placeValue s = n := by
  have hdigits : (s ≠ [] ∧ s.all Char.isDigit = true) ↔ Digits s :=
    ⟨fun h => ⟨h.1, List.all_eq_true.1 h.2⟩, fun h => ⟨h.ne_nil, List.all_eq_true.2 h.all⟩⟩
  simp only [natural?, hdigits, ofDigitChars_eq_placeValue, Option.ite_none_right_eq_some,
    Option.some.injEq]

theorem Digits.natural? (h : Digits s) : natural? s = some (placeValue s) :=
  natural?_eq_some_iff.2 ⟨h, rfl⟩

theorem signed?_minus (s : List Char) :
    signed? ('-' :: s) = (natural? s).map fun n : Nat => -(n : Int) := by
  rw [signed?]
  cases natural? s <;> rfl

theorem signed?_plus (s : List Char) :
    signed? ('+' :: s) = (natural? s).map fun n : Nat => (n : Int) := by
  rw [signed?]
  cases natural? s <;> rfl

theorem signed?_of_ne_sign (hminus : ∀ t, s ≠ '-' :: t) (hplus : ∀ t, s ≠ '+' :: t) :
    signed? s = (natural? s).map fun n : Nat => (n : Int) := by
  rw [signed?.eq_3 s hminus hplus]
  cases natural? s <;> rfl

/-- **Exactly the numerals are read**, as the integers that they stand for. -/
theorem signed?_eq_some_iff {z : Int} : signed? s = some z ↔ Numeral s z := by
  constructor
  · intro h
    by_cases hminus : ∃ t, s = '-' :: t
    · obtain ⟨t, rfl⟩ := hminus
      rw [signed?_minus, Option.map_eq_some_iff] at h
      obtain ⟨n, hn, rfl⟩ := h
      obtain ⟨hdigits, rfl⟩ := natural?_eq_some_iff.1 hn
      exact .minus hdigits
    by_cases hplus : ∃ t, s = '+' :: t
    · obtain ⟨t, rfl⟩ := hplus
      rw [signed?_plus, Option.map_eq_some_iff] at h
      obtain ⟨n, hn, rfl⟩ := h
      obtain ⟨hdigits, rfl⟩ := natural?_eq_some_iff.1 hn
      exact .plus hdigits
    · rw [signed?_of_ne_sign (not_exists.1 hminus) (not_exists.1 hplus),
        Option.map_eq_some_iff] at h
      obtain ⟨n, hn, rfl⟩ := h
      obtain ⟨hdigits, rfl⟩ := natural?_eq_some_iff.1 hn
      exact .unsigned hdigits
  · intro h
    cases h with
    | minus h => rw [signed?_minus, h.natural?, Option.map_some]
    | plus h => rw [signed?_plus, h.natural?, Option.map_some]
    | unsigned h =>
      have hminus : ∀ t, s ≠ '-' :: t := by rintro t rfl; exact h.ne_sign.1 rfl
      have hplus : ∀ t, s ≠ '+' :: t := by rintro t rfl; exact h.ne_sign.2 rfl
      rw [signed?_of_ne_sign hminus hplus, h.natural?, Option.map_some]

/-- A numeral is made of signs and digits. -/
theorem Numeral.chars {z : Int} (h : Numeral s z) : ∀ c ∈ s, c = '+' ∨ c = '-' ∨ c.isDigit = true := by
  intro c hc
  cases h with
  | unsigned h => exact .inr (.inr (h.all c hc))
  | plus h =>
    rcases List.mem_cons.1 hc with rfl | hc
    · exact .inl rfl
    · exact .inr (.inr (h.all c hc))
  | minus h =>
    rcases List.mem_cons.1 hc with rfl | hc
    · exact .inr (.inl rfl)
    · exact .inr (.inr (h.all c hc))

/-- **What is written is a numeral** of the integer. -/
theorem numeral_ofInt (z : Int) : Numeral (ofInt z) z := by
  cases z with
  | ofNat n =>
    have h := Numeral.unsigned (digits_ofNat n)
    rwa [placeValue_ofNat] at h
  | negSucc n =>
    have h := Numeral.minus (digits_ofNat (n + 1))
    rwa [placeValue_ofNat] at h

end Agenda.Decimal
