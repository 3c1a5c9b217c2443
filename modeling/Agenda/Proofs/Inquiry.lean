import Agenda.Inquiry
/-!
# What holds of an inquiry whoever answers

* `Inquiry.Always` — a property of every result that an inquiry can come to, whatever it is
  answered.  The answers need not follow any order; the same question may even be answered
  differently when it is asked again.  A ranking and a judge are two ways to answer, so the property
  holds of their results (`Always.answer`, `Always.attempt`).
* `Inquiry.mostAsked` — the number of pairs asked about, where the answers make it as great as can be.
* `Inquiry.put` — the pairs that are put to a judge, up to the one on which it breaks down.
* `Inquiry.BreaksDown` — the judge breaks down on one of them; `breaksDown_iff` says that this is
  when an attempt fails.
* `Inquiry.AsksAtMost` — a bound on the pairs asked about, for rankings, judges and any other way to
  answer; one on the longest course is enough (`AsksAtMost.of_mostAsked`).
* `Judge.AnswersAs` — a judge that answers as a ranking does, as long as it answers at all.  What it
  lets through has the answer of that ranking (`attempt_answer`).
-/

set_option autoImplicit false

namespace Agenda

/-- Wherever the judge answers, it answers like this. -/
def Judge.AnswersAs {P : Type} (judge : Judge P) (who : P → P → Bool) : Prop :=
  ∀ a b yes, judge a b = .ok yes → who a b = yes

theorem Judge.total_answersAs {P : Type} (who : P → P → Bool) : (Judge.total who).AnswersAs who :=
  fun _ _ _ h => Except.ok.inj h

namespace Inquiry

variable {P α β : Type} {who : P → P → Bool} {judge : Judge P}

/-! ## Whatever is answered -/

/-- Every result that an inquiry can come to has a property. -/
def Always : Inquiry P α → (α → Prop) → Prop
  | done x, holds => holds x
  | ask _ _ next, holds => ∀ yes, (next yes).Always holds
  | note _ next, holds => next.Always holds

section Rules

variable {holds holds' : α → Prop} {t : Inquiry P α}

@[simp] theorem always_pure (x : α) : (pure x : Inquiry P α).Always holds ↔ holds x := Iff.rfl

@[simp] theorem always_precedes (a b : P) (holds : Bool → Prop) :
    (precedes a b).Always holds ↔ ∀ yes, holds yes := Iff.rfl

@[simp] theorem always_report (e : Event) (holds : Unit → Prop) :
    (report e : Inquiry P Unit).Always holds ↔ holds () := Iff.rfl

@[simp] theorem always_bind (t : Inquiry P α) (f : α → Inquiry P β) (holds : β → Prop) :
    (t >>= f).Always holds ↔ t.Always fun x => (f x).Always holds := by
  show (t.bind f).Always holds ↔ _
  induction t with
  | done x => rfl
  | ask a b next ih => exact forall_congr' ih
  | note e next ih => exact ih

theorem Always.mono (h : t.Always holds) (himp : ∀ x, holds x → holds' x) : t.Always holds' := by
  induction t with
  | done x => exact himp x h
  | ask a b next ih => exact fun yes => ih yes (h yes)
  | note e next ih => exact ih h

theorem always_of_forall (t : Inquiry P α) (h : ∀ x, holds x) : t.Always holds := by
  induction t with
  | done x => exact h x
  | ask a b next ih => exact fun yes => ih yes
  | note e next ih => exact ih

/-- What always holds holds of the answer. -/
theorem Always.answer (h : t.Always holds) (who : P → P → Bool) : holds (t.answer who) := by
  induction t with
  | done x => exact h
  | ask a b next ih => exact ih _ (h _)
  | note e next ih => exact ih h

/-- What always holds holds of whatever a judge lets through. -/
theorem Always.attempt (h : t.Always holds) {x : α} (hx : t.attempt judge = .ok x) : holds x := by
  induction t with
  | done y => cases hx; exact h
  | ask a b next ih =>
    unfold Inquiry.attempt at hx
    cases hjudge : judge a b with
    | ok yes => rw [hjudge] at hx; exact ih yes (h yes) hx
    | error fault => rw [hjudge] at hx; cases hx
  | note e next ih => exact ih h hx

/-- Two ways to go on that agree on all possible results are the same. -/
theorem Always.bind_congr {f g : α → Inquiry P β} (h : t.Always fun x => f x = g x) :
    t >>= f = t >>= g := by
  show t.bind f = t.bind g
  induction t with
  | done x => exact h
  | ask a b next ih => exact congrArg (ask a b) (funext fun yes => ih yes (h yes))
  | note e next ih => exact congrArg (note e) (ih h)

end Rules

/-! ## How much is asked -/

/-- The number of pairs that are asked about in the longest course that an inquiry can take. -/
def mostAsked : Inquiry P α → Nat
  | done _ => 0
  | ask _ _ next => max (next true).mostAsked (next false).mostAsked + 1
  | note _ next => next.mostAsked

theorem mostAsked_answered_le (a b : P) (next : Bool → Inquiry P α) (yes : Bool) :
    (next yes).mostAsked + 1 ≤ (ask a b next).mostAsked := by
  cases yes with
  | true => exact Nat.succ_le_succ (Nat.le_max_left _ _)
  | false => exact Nat.succ_le_succ (Nat.le_max_right _ _)

theorem mostAsked_ask_le {a b : P} {next : Bool → Inquiry P α} {m : Nat}
    (h : ∀ yes, (next yes).mostAsked ≤ m) : (ask a b next).mostAsked ≤ m + 1 :=
  Nat.succ_le_succ (Nat.max_le.2 ⟨h true, h false⟩)

/-- One inquiry after the other asks no more than the two together. -/
theorem mostAsked_bind_le {t : Inquiry P α} {f : α → Inquiry P β} {m : Nat}
    (h : t.Always fun x => (f x).mostAsked ≤ m) :
    (t >>= f).mostAsked ≤ t.mostAsked + m := by
  show (t.bind f).mostAsked ≤ _
  induction t with
  | done x => exact Nat.le_trans h (Nat.le_add_left m 0)
  | ask a b next ih =>
    have hnext : ∀ yes, ((next yes).bind f).mostAsked ≤
        max (next true).mostAsked (next false).mostAsked + m := by
      intro yes
      have hyes := Nat.le_of_succ_le_succ (mostAsked_answered_le a b next yes)
      exact Nat.le_trans (ih yes (h yes)) (Nat.add_le_add_right hyes m)
    calc (ask a b fun yes => (next yes).bind f).mostAsked
        ≤ max (next true).mostAsked (next false).mostAsked + m + 1 := mostAsked_ask_le hnext
      _ = (ask a b next).mostAsked + m := Nat.add_right_comm _ _ _
  | note e next ih => exact ih h

theorem mostAsked_bind_pure_le (t : Inquiry P α) (f : α → β) :
    (t >>= fun x => pure (f x)).mostAsked ≤ t.mostAsked :=
  mostAsked_bind_le (m := 0) (always_of_forall t fun _ => Nat.le_refl 0)

theorem length_asked_le (who : P → P → Bool) (t : Inquiry P α) :
    (t.asked who).length ≤ t.mostAsked := by
  induction t with
  | done x => exact Nat.le_refl 0
  | ask a b next ih =>
    exact Nat.le_trans (Nat.succ_le_succ (ih _)) (mostAsked_answered_le a b next _)
  | note e next ih => exact ih

/-! ## Under a judge -/

/-- The pairs that are put to a judge, in order; one on which it breaks down is the last. -/
def put (judge : Judge P) : Inquiry P α → List (P × P)
  | done _ => []
  | ask a b next =>
    (a, b) :: match judge a b with
      | .ok yes => (next yes).put judge
      | .error _ => []
  | note _ next => next.put judge

/-- The judge breaks down on a pair that is put to it. -/
def BreaksDown (judge : Judge P) (t : Inquiry P α) : Prop :=
  ∃ pair ∈ t.put judge, ∃ fault, judge pair.1 pair.2 = .error fault

@[simp] theorem put_pure (x : α) : (pure x : Inquiry P α).put judge = [] := rfl

theorem length_put_le (judge : Judge P) (t : Inquiry P α) :
    (t.put judge).length ≤ t.mostAsked := by
  induction t with
  | done x => exact Nat.le_refl 0
  | ask a b next ih =>
    unfold put
    cases judge a b with
    | ok yes => exact Nat.le_trans (Nat.succ_le_succ (ih yes)) (mostAsked_answered_le a b next yes)
    | error fault => exact Nat.succ_le_succ (Nat.zero_le _)
  | note e next ih => exact ih

/-- At most so many pairs are asked about: by the answers of any ranking, up to the breakdown of any
judge, and even if the same question is answered differently when it is asked again. -/
structure AsksAtMost (t : Inquiry P α) (m : Nat) : Prop where
  asked : ∀ who, (t.asked who).length ≤ m
  put : ∀ judge, (t.put judge).length ≤ m
  whatever : t.mostAsked ≤ m

theorem AsksAtMost.of_mostAsked {t : Inquiry P α} {m : Nat} (h : t.mostAsked ≤ m) :
    t.AsksAtMost m :=
  ⟨fun who => Nat.le_trans (length_asked_le who t) h,
    fun judge => Nat.le_trans (length_put_le judge t) h, h⟩

/-- **An attempt fails when the judge breaks down on one of the pairs put to it**, and only then. -/
theorem breaksDown_iff {t : Inquiry P α} :
    t.BreaksDown judge ↔ ∃ fault, t.attempt judge = .error fault := by
  unfold BreaksDown
  induction t with
  | done x => simp [put, attempt]
  | ask a b next ih =>
    simp only [put, attempt, List.mem_cons, exists_eq_or_imp]
    cases hjudge : judge a b with
    | ok yes =>
      simp only [reduceCtorEq, exists_false, false_or]
      exact ih yes
    | error fault => simp
  | note e next ih => exact ih

/-- What a judge lets through has the answer of the ranking that it speaks for. -/
theorem attempt_answer (h : judge.AnswersAs who) {t : Inquiry P α} {x : α}
    (hx : t.attempt judge = .ok x) : t.answer who = x := by
  induction t with
  | done y => exact Except.ok.inj hx
  | ask a b next ih =>
    unfold attempt at hx
    cases hjudge : judge a b with
    | ok yes =>
      rw [hjudge] at hx
      unfold answer
      rw [h a b yes hjudge]
      exact ih yes hx
    | error fault => rw [hjudge] at hx; cases hx
  | note e next ih => exact ih hx

end Inquiry

end Agenda
