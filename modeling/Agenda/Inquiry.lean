import Agenda.Log
/-!
# Inquiries

A queue operation reaches outside in two ways only: it asks which of two priorities goes first, and
it reports events.  An `Inquiry` is such an operation as a tree, with the two possible answers as
its branches.  The same tree is then read in several ways:

* `Inquiry.answer` — the result, given who precedes whom;
* `Inquiry.asked` — the pairs of priorities that were put to the ranking, in order;
* `Inquiry.events` — what was reported, in order;
* `Inquiry.attempt` — the result under a judge that may break down.

Main statements: inquiries form a lawful monad; each reading of a sequence is the sequence of the
readings (`answer_bind`, `asked_bind`, `events_bind`, `attempt_bind`); and under a judge that never
breaks down an attempt succeeds with the answer (`attempt_total`).
-/

set_option autoImplicit false

namespace Agenda

/-- An operation that may ask about pairs of priorities and report events. -/
inductive Inquiry (P α : Type) where
  /-- The operation is over. -/
  | done (result : α)
  /-- Asks whether the first priority precedes the second, and goes on with the answer. -/
  | ask (a b : P) (next : Bool → Inquiry P α)
  /-- Reports an event and goes on. -/
  | note (event : Event) (next : Inquiry P α)

namespace Inquiry

variable {P α β γ : Type}

/-- Does one inquiry and goes on with what its result calls for. -/
def bind : Inquiry P α → (α → Inquiry P β) → Inquiry P β
  | done x, f => f x
  | ask a b next, f => ask a b fun yes => (next yes).bind f
  | note e next, f => note e (next.bind f)

instance : Monad (Inquiry P) where
  pure := done
  bind := bind

/-- The question alone. -/
def precedes (a b : P) : Inquiry P Bool := ask a b done

/-- The report alone. -/
def report (e : Event) : Inquiry P Unit := note e (done ())

/-! ## The tree as a monad -/

theorem bind_done (t : Inquiry P α) : t.bind done = t := by
  induction t with
  | done x => rfl
  | ask a b next ih => simp only [bind, ih]
  | note e next ih => simp only [bind, ih]

theorem bind_assoc (t : Inquiry P α) (f : α → Inquiry P β) (g : β → Inquiry P γ) :
    (t.bind f).bind g = t.bind fun x => (f x).bind g := by
  induction t with
  | done x => rfl
  | ask a b next ih => simp only [bind, ih]
  | note e next ih => simp only [bind, ih]

instance : LawfulMonad (Inquiry P) :=
  LawfulMonad.mk' (Inquiry P) bind_done (fun _ _ => rfl) bind_assoc

/-! ## Readings -/

/-- The result, given who precedes whom. -/
def answer (precedes : P → P → Bool) : Inquiry P α → α
  | done x => x
  | ask a b next => (next (precedes a b)).answer precedes
  | note _ next => next.answer precedes

/-- The pairs put to the ranking, in order. -/
def asked (precedes : P → P → Bool) : Inquiry P α → List (P × P)
  | done _ => []
  | ask a b next => (a, b) :: (next (precedes a b)).asked precedes
  | note _ next => next.asked precedes

/-- The events reported, in order. -/
def events (precedes : P → P → Bool) : Inquiry P α → List Event
  | done _ => []
  | ask a b next => (next (precedes a b)).events precedes
  | note e next => e :: next.events precedes

/-- The result under a judge that may break down; the first breakdown ends the operation. -/
def attempt (judge : Judge P) : Inquiry P α → Except Fault α
  | done x => .ok x
  | ask a b next =>
    match judge a b with
    | .ok yes => (next yes).attempt judge
    | .error fault => .error fault
  | note _ next => next.attempt judge

/-! ## Readings of a sequence -/

section Readings

variable (who : P → P → Bool) (judge : Judge P)

@[simp] theorem answer_pure (x : α) : (pure x : Inquiry P α).answer who = x := rfl

@[simp] theorem answer_precedes (a b : P) : (precedes a b).answer who = who a b := rfl

@[simp] theorem answer_report (e : Event) : (report e : Inquiry P Unit).answer who = () := rfl

@[simp] theorem answer_bind (t : Inquiry P α) (f : α → Inquiry P β) :
    (t >>= f).answer who = (f (t.answer who)).answer who := by
  show (t.bind f).answer who = _
  induction t with
  | done x => rfl
  | ask a b next ih => exact ih _
  | note e next ih => exact ih

@[simp] theorem answer_map (f : α → β) (t : Inquiry P α) :
    (f <$> t).answer who = f (t.answer who) := by
  rw [← bind_pure_comp, answer_bind, answer_pure]

@[simp] theorem asked_pure (x : α) : (pure x : Inquiry P α).asked who = [] := rfl

@[simp] theorem asked_precedes (a b : P) : (precedes a b).asked who = [(a, b)] := rfl

@[simp] theorem asked_report (e : Event) : (report e : Inquiry P Unit).asked who = [] := rfl

@[simp] theorem asked_bind (t : Inquiry P α) (f : α → Inquiry P β) :
    (t >>= f).asked who = t.asked who ++ (f (t.answer who)).asked who := by
  show (t.bind f).asked who = _
  induction t with
  | done x => rfl
  | ask a b next ih => exact congrArg ((a, b) :: ·) (ih _)
  | note e next ih => exact ih

@[simp] theorem asked_map (f : α → β) (t : Inquiry P α) :
    (f <$> t).asked who = t.asked who := by
  rw [← bind_pure_comp, asked_bind, asked_pure, List.append_nil]

@[simp] theorem events_pure (x : α) : (pure x : Inquiry P α).events who = [] := rfl

@[simp] theorem events_precedes (a b : P) : (precedes a b).events who = [] := rfl

@[simp] theorem events_report (e : Event) : (report e : Inquiry P Unit).events who = [e] := rfl

@[simp] theorem events_bind (t : Inquiry P α) (f : α → Inquiry P β) :
    (t >>= f).events who = t.events who ++ (f (t.answer who)).events who := by
  show (t.bind f).events who = _
  induction t with
  | done x => rfl
  | ask a b next ih => exact ih _
  | note e next ih => exact congrArg (e :: ·) ih

@[simp] theorem attempt_pure (x : α) : (pure x : Inquiry P α).attempt judge = .ok x := rfl

@[simp] theorem attempt_bind (t : Inquiry P α) (f : α → Inquiry P β) :
    (t >>= f).attempt judge = t.attempt judge >>= fun x => (f x).attempt judge := by
  show (t.bind f).attempt judge = _
  induction t with
  | done x => rfl
  | ask a b next ih =>
    simp only [bind, attempt]
    cases judge a b with
    | ok yes => exact ih yes
    | error fault => rfl
  | note e next ih => exact ih

/-- A judge that never breaks down lets every operation through, to its answer. -/
theorem attempt_total (t : Inquiry P α) : t.attempt (Judge.total who) = .ok (t.answer who) := by
  induction t with
  | done x => rfl
  | ask a b next ih => exact ih _
  | note e next ih => exact ih

end Readings

end Inquiry

end Agenda
