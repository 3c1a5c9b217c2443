import Agenda.Proofs.Session.Step
/-!
# Sessions that break off

A session asks its sources in turn.  Any number of them may be bad, and any number of specifications
in one of them: `Session.complaints` lists all that is wrong.

* `StopsAtFirst` — something that fails with the first of a list of complaints, if there is one; so
  do parts in sequence (`StopsAtFirst.bind`).
* `ofFile_stops`, `ofSpecs_stops`, `sources_stops` — the task file, a list of specifications and all
  sources together.
* `breaks_off_at_first_complaint` — a session breaks off with the first complaint, before anything
  is written.
-/

set_option autoImplicit false

namespace Agenda

variable {α β : Type}

/-- Something that fails with the first of some complaints, and only where there is one. -/
def StopsAtFirst (result : Except TaskError α) (complaints : List TaskError) : Prop :=
  ∀ cause, result = .error cause ↔ complaints.head? = some cause

section Rules

variable {result : Except TaskError α} {next : α → Except TaskError β}
  {complaints complaints' : List TaskError}

theorem stops_ok (x : α) : StopsAtFirst (.ok x) [] := fun _ => ⟨nofun, nofun⟩

theorem stops_error (cause : TaskError) : StopsAtFirst (.error cause : Except TaskError α) [cause] :=
  fun _ => ⟨fun h => congrArg some (Except.error.inj h), fun h => congrArg _ (Option.some.inj h)⟩

/-- **What comes first is complained about first.** -/
theorem StopsAtFirst.bind (h : StopsAtFirst result complaints)
    (hnext : ∀ x, StopsAtFirst (next x) complaints') :
    StopsAtFirst (result >>= next) (complaints ++ complaints') := by
  cases result with
  | error cause =>
    obtain ⟨rest, rfl⟩ := List.head?_eq_some_iff.1 ((h cause).1 rfl)
    exact fun _ => ⟨fun hc => congrArg some (Except.error.inj hc),
      fun hc => congrArg _ (Option.some.inj hc)⟩
  | ok x =>
    have hnil : complaints = [] := by
      cases complaints with
      | nil => rfl
      | cons cause rest => cases (h cause).2 rfl
    rw [hnil]
    exact hnext x

theorem StopsAtFirst.bind_ok (h : StopsAtFirst result complaints) (f : α → β) :
    StopsAtFirst (result >>= fun x => .ok (f x)) complaints := by
  have hbind := h.bind fun x => stops_ok (f x)
  rwa [List.append_nil] at hbind

theorem StopsAtFirst.exists_iff (h : StopsAtFirst result complaints) :
    (∃ cause, result = .error cause) ↔ complaints ≠ [] := by
  simp only [h _, ← List.isSome_head?, Option.isSome_iff_exists]

end Rules

/-! ## What may be wrong -/

namespace Session

/-- What is wrong with the contents of a task file. -/
def fileComplaints (contents : Except ReadError ByteArray) : List TaskError :=
  match contents with
  | .error cause => [.io cause]
  | .ok bytes =>
    match String.fromUTF8? bytes with
    | none => [.io .invalidText]
    | some text => if (Task.parseAll? text.toList).isNone then [.json] else []

/-- The specifications that are none, as they were given and in order. -/
def specComplaints (specs : List String) : List TaskError :=
  (specs.filter fun spec => (Task.ofSpec? spec.toList).isNone).map .invalidTask

/-- All that is wrong with the sources of a session: with the task file, if one is named, with the
specifications to build the queue from and with those to be added. -/
def complaints (args : Arguments) (files : Files) : List TaskError :=
  (args.file.elim [] fun path => fileComplaints (files path)) ++
    specComplaints args.tasks ++ specComplaints args.added

theorem ofFile_stops (contents : Except ReadError ByteArray) :
    StopsAtFirst (Task.ofFile contents) (fileComplaints contents) := by
  cases contents with
  | error cause => exact stops_error (.io cause)
  | ok bytes =>
    cases htext : String.fromUTF8? bytes with
    | none =>
      simp only [Task.ofFile, Task.decodeText, fileComplaints, bind, Except.bind, htext]
      exact stops_error (.io .invalidText)
    | some text =>
      simp only [Task.ofFile, Task.decodeText, fileComplaints, bind, Except.bind, htext]
      cases Task.parseAll? text.toList with
      | none => exact stops_error .json
      | some tasks => exact stops_ok tasks

/-- **Specifications are read in order**, up to the first that is none. -/
theorem ofSpecs_stops (specs : List String) :
    StopsAtFirst (Task.ofSpecs specs) (specComplaints specs) := by
  induction specs with
  | nil => exact stops_ok []
  | cons spec specs ih =>
    have hone : StopsAtFirst (Task.ofSpec spec) (specComplaints [spec]) := by
      unfold Task.ofSpec specComplaints
      cases hspec : Task.ofSpec? spec.toList with
      | none => simpa [hspec] using stops_error (.invalidTask spec)
      | some task => simpa [hspec] using stops_ok task
    have hall : specComplaints (spec :: specs) = specComplaints [spec] ++ specComplaints specs := by
      unfold specComplaints
      rw [← List.map_append, ← List.filter_append]
      rfl
    rw [Task.ofSpecs, List.mapM_cons, hall]
    refine hone.bind fun task => ?_
    exact ih.bind_ok _

theorem sources_stops (args : Arguments) (files : Files) :
    StopsAtFirst (sources args files) (complaints args files) := by
  have hfile : StopsAtFirst (fileTasks args files)
      (args.file.elim [] fun path => fileComplaints (files path)) := by
    unfold fileTasks
    cases args.file with
    | none => exact stops_ok []
    | some path => exact ofFile_stops (files path)
  unfold sources complaints
  rw [List.append_assoc]
  refine hfile.bind fun fromFile => ?_
  refine (ofSpecs_stops args.tasks).bind fun positional => ?_
  exact (ofSpecs_stops args.added).bind_ok _

/-- A file holds no tasks because it cannot be read, because it is no text, or because its text does
not stand for tasks. -/
theorem fileComplaints_ne_nil_iff (contents : Except ReadError ByteArray) :
    fileComplaints contents ≠ [] ↔ (∃ cause, contents = .error cause) ∨
      ∃ bytes, contents = .ok bytes ∧ (String.fromUTF8? bytes = none ∨
        ∃ text, String.fromUTF8? bytes = some text ∧ Task.parseAll? text.toList = none) := by
  cases contents with
  | error cause => simp [fileComplaints]
  | ok bytes => cases htext : String.fromUTF8? bytes <;> simp [fileComplaints, htext]

theorem specComplaints_ne_nil_iff (specs : List String) :
    specComplaints specs ≠ [] ↔ ∃ spec ∈ specs, Task.ofSpec? spec.toList = none := by
  simp [specComplaints]

theorem complaints_ne_nil_iff (args : Arguments) (files : Files) :
    complaints args files ≠ [] ↔
      (∃ path, args.file = some path ∧ fileComplaints (files path) ≠ []) ∨
      specComplaints args.tasks ≠ [] ∨ specComplaints args.added ≠ [] := by
  unfold complaints
  rw [ne_eq, List.append_eq_nil_iff, List.append_eq_nil_iff, not_and_or, not_and_or, or_assoc]
  refine or_congr ?_ Iff.rfl
  cases args.file <;> simp

/-- A session breaks off because of its tasks when a source fails, and only then. -/
theorem result_eq_task_iff (args : Arguments) (files : Files) (cause : TaskError) :
    (execute args files).result = .error (.task cause) ↔ sources args files = .error cause := by
  cases hsources : sources args files with
  | error cause' =>
    rw [(execute_of_error hsources).2]
    simp
  | ok plan =>
    by_cases hroom : HasRoom plan.initial args.capacity
    · rw [(execute_of_plan hsources hroom).2]
      simp
    · rw [(execute_of_overflow hsources hroom).2]
      simp

/-- **A session breaks off with the first complaint, before anything is written.**  The sources are
the task file, the specifications to build the queue from and those to be added, in this order and
each from left to right.  If any of them is bad, the session fails with the complaint about the first
that is, however many others are bad as well; a bad specification is quoted as it was given.  If none
is, the session does not fail because of its tasks. -/
theorem breaks_off_at_first_complaint (args : Arguments) (files : Files) :
    let outcome := execute args files
    (∀ cause, outcome.result = .error (.task cause) ↔
      (complaints args files).head? = some cause) ∧
    ((∃ cause, outcome.result = .error (.task cause)) ↔
      (∃ path, args.file = some path ∧ ((∃ cause, files path = .error cause) ∨
        ∃ bytes, files path = .ok bytes ∧ (String.fromUTF8? bytes = none ∨
          ∃ text, String.fromUTF8? bytes = some text ∧ Task.parseAll? text.toList = none))) ∨
      (∃ spec ∈ args.tasks, Task.ofSpec? spec.toList = none) ∨
      ∃ spec ∈ args.added, Task.ofSpec? spec.toList = none) ∧
    ∀ cause, outcome.result = .error (.task cause) → outcome.written = "" := by
  intro outcome
  have hstops := sources_stops args files
  refine ⟨fun cause => (result_eq_task_iff args files cause).trans (hstops cause), ?_, ?_⟩
  · have hsome : (∃ cause, outcome.result = .error (.task cause)) ↔ complaints args files ≠ [] :=
      (exists_congr (result_eq_task_iff args files)).trans hstops.exists_iff
    rw [hsome, complaints_ne_nil_iff]
    simp only [fileComplaints_ne_nil_iff, specComplaints_ne_nil_iff]
  · intro cause hcause
    exact (execute_of_error ((result_eq_task_iff args files cause).1 hcause)).1

/-- With no task file named, the first of three bad specifications is quoted, blanks and all. -/
example : (execute { tasks := ["c=1", " b ", "a"], added := ["=2"], json := true }
    fun _ => .error .notFound).result = .error (.task (.invalidTask " b ")) := by rfl

end Session

end Agenda
