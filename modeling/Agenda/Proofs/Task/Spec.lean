import Agenda.Proofs.Text.Blank
import Agenda.Proofs.Text.Decimal
import Agenda.Task.Spec
/-!
# Task specifications and their grammar

* `splitLast?_eq_some_iff` — a text is divided where no further mark follows.
* `Task.Specifies` — the grammar: a name and a numeral, each between blanks, around an equals sign
  that no other follows.  The numeral may be of any size.
* `ofSpec?_eq_some_iff`, `Specifies.unique` — which texts are specifications, and that none stands
  for two things.
* `ofSpec_keeps_to_grammar` — exactly the specifications whose numeral is in range are accepted, as
  the task that they stand for; of any other text the error quotes it.
* `ofSpec_reads_back` — every task has a specification, with any blanks around its parts, and what
  was accepted once is accepted in its plainest form.
-/

set_option autoImplicit false

namespace Agenda

namespace Task

/-! ## Dividing at the last mark -/

theorem splitLast?_eq_none_iff {mark : Char} {s : List Char} :
    splitLast? mark s = none ↔ mark ∉ s := by
  induction s with
  | nil => simp [splitLast?]
  | cons c cs ih =>
    rw [List.mem_cons, not_or, ← ih, splitLast?]
    cases splitLast? mark cs with
    | some parts => simp
    | none => simp [eq_comm]

theorem splitLast?_append {mark : Char} (before : List Char) {after : List Char}
    (h : mark ∉ after) : splitLast? mark (before ++ mark :: after) = some (before, after) := by
  induction before with
  | nil => simp [splitLast?, splitLast?_eq_none_iff.2 h]
  | cons c cs ih => simp [splitLast?, ih]

/-- **A text is divided where no further mark follows.** -/
theorem splitLast?_eq_some_iff {mark : Char} {s before after : List Char} :
    splitLast? mark s = some (before, after) ↔ s = before ++ mark :: after ∧ mark ∉ after := by
  constructor
  · intro h
    induction s generalizing before with
    | nil => cases h
    | cons c cs ih =>
      rw [splitLast?] at h
      cases hcs : splitLast? mark cs with
      | some parts =>
        rw [hcs] at h
        cases h
        obtain ⟨rfl, hafter⟩ := ih hcs
        exact ⟨rfl, hafter⟩
      | none =>
        rw [hcs] at h
        obtain ⟨rfl, hparts⟩ := Option.ite_none_right_eq_some.1 h
        cases hparts
        exact ⟨rfl, splitLast?_eq_none_iff.1 hcs⟩
  · rintro ⟨rfl, hafter⟩
    exact splitLast?_append before hafter

/-! ## The grammar -/

/-- A text specifies a name and an integer: an equals sign that no other follows divides it, what
stands before is the name between blanks, and what stands after is a numeral of the integer between
blanks.  A name has to hold something. -/
def Specifies (spec name : List Char) (priority : Int) : Prop :=
  name ≠ [] ∧ ∃ before after numeral, spec = before ++ '=' :: after ∧ '=' ∉ after ∧
    Blank.Surrounds before name ∧ Blank.Surrounds after numeral ∧
    Decimal.Numeral numeral priority

theorem ofSpec?_eq_some_iff {spec : List Char} {task : Task} :
    ofSpec? spec = some task ↔ Specifies spec task.value.toList task.priority.toInt := by
  constructor
  · intro h
    simp only [ofSpec?, Option.bind_eq_bind, Option.bind_eq_some_iff, Prod.exists] at h
    obtain ⟨before, after, hsplit, h⟩ := h
    obtain ⟨hspec, hafter⟩ := splitLast?_eq_some_iff.1 hsplit
    split at h
    · cases h
    rename_i hname
    simp only [Option.bind_eq_some_iff] at h
    obtain ⟨z, hz, p, hp, htask⟩ := h
    cases htask
    rw [String.toList_ofList, ← Word.signed?_eq_some_iff.1 hp]
    refine ⟨by simpa using hname, before, after, Blank.trim after, hspec, hafter, ?_, ?_, ?_⟩
    · exact Blank.surrounds_trim before
    · exact Blank.surrounds_trim after
    · exact Decimal.signed?_eq_some_iff.1 hz
  · rintro ⟨hname, before, after, numeral, rfl, hafter, hbefore, hnumeral, hpriority⟩
    have hsigned := Decimal.signed?_eq_some_iff.2 hpriority
    simp [ofSpec?, splitLast?_append before hafter, hbefore.trim, hnumeral.trim, hname, hsigned,
      Word.signed?_toInt]

/-- **No text specifies two things.** -/
theorem Specifies.unique {spec name name' : List Char} {priority priority' : Int}
    (h : Specifies spec name priority) (h' : Specifies spec name' priority') :
    name = name' ∧ priority = priority' := by
  obtain ⟨-, before, after, numeral, hspec, hafter, hname, hnumeral, hpriority⟩ := h
  obtain ⟨-, before', after', numeral', hspec', hafter', hname', hnumeral', hpriority'⟩ := h'
  have hsplit := splitLast?_eq_some_iff.2 ⟨hspec, hafter⟩
  have hsplit' := splitLast?_eq_some_iff.2 ⟨hspec', hafter'⟩
  obtain ⟨rfl, rfl⟩ : before = before' ∧ after = after' :=
    Prod.mk.inj (Option.some.inj (hsplit.symm.trans hsplit'))
  obtain rfl : numeral = numeral' := hnumeral.trim.symm.trans hnumeral'.trim
  have hsigned := Decimal.signed?_eq_some_iff.2 hpriority
  have hsigned' := Decimal.signed?_eq_some_iff.2 hpriority'
  exact ⟨hname.trim.symm.trans hname'.trim, Option.some.inj (hsigned.symm.trans hsigned')⟩

theorem ofSpec_eq_ok_iff {spec : String} {task : Task} :
    ofSpec spec = .ok task ↔ Specifies spec.toList task.value.toList task.priority.toInt := by
  rw [← ofSpec?_eq_some_iff, ofSpec]
  cases ofSpec? spec.toList <;> simp

theorem eq_invalidTask_of_ofSpec {spec : String} {cause : TaskError}
    (h : ofSpec spec = .error cause) : cause = .invalidTask spec := by
  rw [ofSpec] at h
  cases hspec : ofSpec? spec.toList with
  | some task =>
    rw [hspec] at h
    cases h
  | none =>
    rw [hspec] at h
    exact (Except.error.inj h).symm

/-- **Exactly what keeps to the grammar is accepted**, as the task that it stands for.  The grammar is
not ambiguous.  A text that does not keep to it, or whose numeral is no signed word, is refused by an
error that quotes it as it was given. -/
theorem ofSpec_keeps_to_grammar (spec : String) :
    (∀ (name : String) (p : Int64),
      ofSpec spec = .ok ⟨name, p⟩ ↔ Specifies spec.toList name.toList p.toInt) ∧
    (∀ name name' priority priority', Specifies spec.toList name priority →
      Specifies spec.toList name' priority' → name = name' ∧ priority = priority') ∧
    ∀ cause, ofSpec spec = .error cause ↔ cause = .invalidTask spec ∧
      ¬ ∃ name priority, Specifies spec.toList name priority ∧
        -0x8000000000000000 ≤ priority ∧ priority ≤ 0x7FFFFFFFFFFFFFFF := by
  refine ⟨fun name p => ofSpec_eq_ok_iff, fun _ _ _ _ => Specifies.unique, fun cause => ?_⟩
  cases hspec : ofSpec spec with
  | ok task =>
    have hspecifies := ofSpec_eq_ok_iff.1 hspec
    have hlower := task.priority.minValue_le_toInt
    have hupper := task.priority.toInt_le
    simp only [reduceCtorEq, false_iff, not_and, not_not]
    intro hcause
    exact ⟨_, _, hspecifies, hlower, hupper⟩
  | error cause' =>
    obtain rfl : cause' = .invalidTask spec := eq_invalidTask_of_ofSpec hspec
    have hnone : ¬ ∃ name priority, Specifies spec.toList name priority ∧
        -0x8000000000000000 ≤ priority ∧ priority ≤ 0x7FFFFFFFFFFFFFFF := by
      rintro ⟨name, priority, hspecifies, hlower, hupper⟩
      have hp : (Int64.ofInt priority).toInt = priority :=
        Int64.toInt_ofInt_of_le hlower (Int.lt_of_le_of_lt hupper (by decide))
      have hok : ofSpec spec = .ok ⟨String.ofList name, Int64.ofInt priority⟩ := by
        rw [ofSpec_eq_ok_iff, String.toList_ofList, hp]
        exact hspecifies
      rw [hspec] at hok
      cases hok
    constructor
    · intro h
      exact ⟨(Except.error.inj h).symm, hnone⟩
    · rintro ⟨rfl, -⟩
      rfl

/-- Equals signs and blanks in a name, other blanks around the parts, and zeros in front. -/
example : ofSpec "\u3000a = b\t=\u00a0-007\n" = .ok ⟨"a = b", -7⟩ := by rfl

/-! ## Specifications of a task -/

theorem isBlank_of_isDigit {c : Char} (h : c.isDigit = true) : Blank.isBlank c = false := by
  have hrange : 48 ≤ c.toNat ∧ c.toNat ≤ 57 := Char.isDigit_iff_toNat.1 h
  simp [Blank.isBlank, CodePoints.contains, Blank.ranges]
  omega

/-- There are no blanks in a numeral. -/
theorem numeral_bare {numeral : List Char} {z : Int} (h : Decimal.Numeral numeral z) :
    Blank.Bare numeral := by
  have hchars : ∀ c ∈ numeral, Blank.isBlank c = false := by
    intro c hc
    rcases h.chars c hc with rfl | rfl | hdigit
    · decide
    · decide
    · exact isBlank_of_isDigit hdigit
  constructor
  · intro c hc
    exact hchars c (List.mem_of_mem_head? hc)
  · intro c hc
    exact hchars c (List.mem_of_mem_getLast? hc)

/-- No equals sign follows the one that divides a specification. -/
theorem not_mem_padded_numeral {before numeral after : List Char} {z : Int}
    (hbefore : Blank.AllBlank before) (h : Decimal.Numeral numeral z)
    (hafter : Blank.AllBlank after) : '=' ∉ before ++ numeral ++ after := by
  have hblank : Blank.isBlank '=' = false := by decide
  intro hmem
  rw [List.mem_append, List.mem_append] at hmem
  rcases hmem with (hmem | hmem) | hmem
  · rw [hbefore _ hmem] at hblank
    cases hblank
  · have hchar := h.chars _ hmem
    revert hchar
    decide
  · rw [hafter _ hmem] at hblank
    cases hblank

/-- **Blanks may stand around a name and a numeral.** -/
theorem specifies_padded {w₁ w₂ w₃ w₄ name numeral : List Char} {priority : Int}
    (h₁ : Blank.AllBlank w₁) (h₂ : Blank.AllBlank w₂) (h₃ : Blank.AllBlank w₃)
    (h₄ : Blank.AllBlank w₄) (hname : name ≠ []) (hbare : Blank.Bare name)
    (hnumeral : Decimal.Numeral numeral priority) :
    Specifies (w₁ ++ name ++ w₂ ++ '=' :: (w₃ ++ numeral ++ w₄)) name priority := by
  have hbefore : Blank.Surrounds (w₁ ++ name ++ w₂) name := ⟨⟨w₁, w₂, rfl, h₁, h₂⟩, hbare⟩
  have hafter : Blank.Surrounds (w₃ ++ numeral ++ w₄) numeral :=
    ⟨⟨w₃, w₄, rfl, h₃, h₄⟩, numeral_bare hnumeral⟩
  exact ⟨hname, _, _, numeral, rfl, not_mem_padded_numeral h₃ hnumeral h₄, hbefore, hafter, hnumeral⟩

theorem Specifies.bare {spec name : List Char} {priority : Int}
    (h : Specifies spec name priority) : name ≠ [] ∧ Blank.Bare name := by
  obtain ⟨hname, before, after, numeral, -, -, hbefore, -⟩ := h
  exact ⟨hname, hbefore.bare⟩

/-- **Every task has a specification.**  Its name may hold anything, equals signs and blanks included,
as long as it holds something and neither starts nor ends with a blank; the priority is any signed
word in its decimal form, and any blanks may stand around the two.  What was accepted once is accepted
again in its plainest form, as the same task. -/
theorem ofSpec_reads_back :
    (∀ (name : String) (p : Int64) (w₁ w₂ w₃ w₄ : List Char),
      name ≠ "" → Blank.Bare name.toList →
      Blank.AllBlank w₁ → Blank.AllBlank w₂ → Blank.AllBlank w₃ → Blank.AllBlank w₄ →
      ofSpec (String.ofList
        (w₁ ++ name.toList ++ w₂ ++ '=' :: (w₃ ++ Decimal.ofInt p.toInt ++ w₄))) =
          .ok ⟨name, p⟩) ∧
    ∀ (spec : String) (task : Task), ofSpec spec = .ok task →
      ofSpec (String.ofList (toSpec task)) = .ok task := by
  have hpadded : ∀ (name : String) (p : Int64) (w₁ w₂ w₃ w₄ : List Char),
      name.toList ≠ [] → Blank.Bare name.toList →
      Blank.AllBlank w₁ → Blank.AllBlank w₂ → Blank.AllBlank w₃ → Blank.AllBlank w₄ →
      ofSpec (String.ofList
        (w₁ ++ name.toList ++ w₂ ++ '=' :: (w₃ ++ Decimal.ofInt p.toInt ++ w₄))) =
          .ok ⟨name, p⟩ := by
    intro name p w₁ w₂ w₃ w₄ hname hbare h₁ h₂ h₃ h₄
    rw [ofSpec_eq_ok_iff, String.toList_ofList]
    exact specifies_padded h₁ h₂ h₃ h₄ hname hbare (Decimal.numeral_ofInt p.toInt)
  constructor
  · intro name p w₁ w₂ w₃ w₄ hname
    exact hpadded name p w₁ w₂ w₃ w₄ (by simpa using hname)
  · intro spec task hspec
    obtain ⟨hname, hbare⟩ := (ofSpec_eq_ok_iff.1 hspec).bare
    have hplain := hpadded task.value task.priority [] [] [] [] hname hbare
    simpa [Blank.AllBlank, toSpec] using hplain

/-- The least priority, with equals signs and blanks in the name and blanks of other kinds around the
parts; the specification that is read back loses them and its sign. -/
theorem ofSpec_reads_back_least_priority :
    Blank.Bare "a=b = c".toList ∧ Blank.AllBlank ['\t', '\u3000'] ∧
    ofSpec "\t\u3000a=b = c\u00a0=\n-9223372036854775808\t\u3000" =
      .ok ⟨"a=b = c", Int64.minValue⟩ ∧
    ofSpec " x = +007" = .ok ⟨"x", 7⟩ ∧ ofSpec "x=7" = .ok ⟨"x", 7⟩ := by
  have hbare : Blank.Bare "a=b = c".toList := by decide
  have hblank : Blank.AllBlank ['\t', '\u3000'] := by decide
  refine ⟨hbare, hblank, ?_, by rfl, ?_⟩
  · exact ofSpec_reads_back.1 "a=b = c" Int64.minValue ['\t', '\u3000'] ['\u00a0'] ['\n']
      ['\t', '\u3000'] (by decide) hbare hblank (by decide) (by decide) hblank
  · exact ofSpec_reads_back.2 " x = +007" ⟨"x", 7⟩ rfl

end Task

end Agenda
