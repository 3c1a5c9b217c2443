import Agenda.Text.Blank
import Mathlib.Data.List.TakeWhile
/-!
# Blanks around a text

* `Blank.AllBlank`, `Blank.Bare` — a text of blanks only, and one that neither starts nor ends with
  a blank.
* `Blank.Surrounds` — a text is a bare one between blanks.
* `Surrounds.trim`, `surrounds_trim` — trimming finds that bare text, and there always is one.
-/

set_option autoImplicit false

namespace Agenda.Blank

variable {s core before after : List Char}

/-- All characters are blanks. -/
def AllBlank (s : List Char) : Prop := ∀ c ∈ s, isBlank c = true

instance (s : List Char) : Decidable (AllBlank s) :=
  List.decidableBAll (isBlank · = true) s

/-- Neither the first nor the last character is a blank. -/
structure Bare (s : List Char) : Prop where
  head : ∀ c ∈ s.head?, isBlank c = false
  last : ∀ c ∈ s.getLast?, isBlank c = false

instance (s : List Char) : Decidable (Bare s) :=
  -- only the characters of the text are looked at, not all that there are
  have : ∀ o : Option Char, Decidable (∀ c ∈ o, isBlank c = false) := fun o => o.decidableForallMem
  decidable_of_iff ((∀ c ∈ s.head?, isBlank c = false) ∧ ∀ c ∈ s.getLast?, isBlank c = false)
    ⟨fun h => ⟨h.1, h.2⟩, fun h => ⟨h.head, h.last⟩⟩

/-- A text is a bare one between blanks. -/
structure Surrounds (s core : List Char) : Prop where
  split : ∃ before after, s = before ++ core ++ after ∧ AllBlank before ∧ AllBlank after
  bare : Bare core

/-! ## At the left -/

theorem trimLeft_append (h : AllBlank before) (s : List Char) :
    trimLeft (before ++ s) = trimLeft s :=
  List.dropWhile_append_of_pos h

theorem trimLeft_eq_self (h : ∀ c ∈ s.head?, isBlank c = false) : trimLeft s = s := by
  cases s with
  | nil => rfl
  | cons c cs =>
    have hc : ¬ isBlank c = true := by simp [h c rfl]
    exact List.dropWhile_cons_of_neg hc

theorem head_trimLeft (s : List Char) : ∀ c ∈ (trimLeft s).head?, isBlank c = false := by
  intro c hc
  have h := List.head?_dropWhile_not isBlank s
  rw [show (List.dropWhile isBlank s).head? = some c from hc] at h
  exact h

theorem exists_append_trimLeft (s : List Char) :
    ∃ before, s = before ++ trimLeft s ∧ AllBlank before :=
  ⟨s.takeWhile isBlank, List.takeWhile_append_dropWhile.symm, fun _ => List.mem_takeWhile_imp⟩

/-! ## At both ends -/

theorem trimRight_eq (s : List Char) : trimRight s = (trimLeft s.reverse).reverse := rfl

theorem trimRight_append (h : AllBlank after) (s : List Char) :
    trimRight (s ++ after) = trimRight s := by
  have hrev : AllBlank after.reverse := fun c hc => h c (List.mem_reverse.1 hc)
  rw [trimRight_eq, List.reverse_append, trimLeft_append hrev, trimRight_eq]

theorem trimRight_eq_self (h : ∀ c ∈ s.getLast?, isBlank c = false) : trimRight s = s := by
  rw [trimRight_eq, trimLeft_eq_self, List.reverse_reverse]
  rwa [List.head?_reverse]

/-- **Trimming a bare text between blanks gives it back.** -/
theorem Surrounds.trim (h : Surrounds s core) : trim s = core := by
  obtain ⟨⟨before, after, rfl, hbefore, hafter⟩, hhead, hlast⟩ := h
  rw [Blank.trim, List.append_assoc, trimLeft_append hbefore]
  cases core with
  | nil =>
    have hnil : trimLeft ([] ++ after) = [] := List.dropWhile_eq_nil_iff.2 hafter
    rw [hnil]
    rfl
  | cons c cs =>
    rw [trimLeft_eq_self (s := c :: cs ++ after) hhead, trimRight_append hafter,
      trimRight_eq_self hlast]

/-- **What trimming leaves is bare**, and blanks stood around it. -/
theorem surrounds_trim (s : List Char) : Surrounds s (trim s) := by
  obtain ⟨before, hbefore, hblank⟩ := exists_append_trimLeft s
  obtain ⟨after, hafter, hblank'⟩ := exists_append_trimLeft (trimLeft s).reverse
  have hsplit : trimLeft s = trim s ++ after.reverse := by
    rw [Blank.trim, trimRight_eq, ← List.reverse_append, ← hafter, List.reverse_reverse]
  refine ⟨⟨before, after.reverse, ?_, hblank, ?_⟩, ?_, ?_⟩
  · rw [List.append_assoc, ← hsplit]
    exact hbefore
  · exact fun c hc => hblank' c (List.mem_reverse.1 hc)
  · -- what is left starts as before its end was trimmed
    intro c hc
    refine head_trimLeft s c ?_
    rw [hsplit, List.head?_append, Option.mem_def.1 hc]
    rfl
  · intro c hc
    refine head_trimLeft (trimLeft s).reverse c ?_
    rwa [← List.getLast?_reverse]

end Agenda.Blank
