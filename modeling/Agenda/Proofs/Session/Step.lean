import Agenda.Proofs.PriorityQueue.Step
import Agenda.Session
/-!
# What a session writes

The events that a session reports do not bear on what it writes or on how it ends.

* `Session.Gives` — what a step writes and comes to, wherever it starts from.  Steps in sequence
  write one after the other (`Gives.bind`); one that breaks off is the last (`Gives.bind_error`).
* `gather_gives`, `fill_gives`, `serve_gives` — the parts of a session: the first two write nothing,
  and the last comes to its end.
* `execute_of_error`, `execute_of_overflow`, `execute_of_plan` — the three ways in which a session
  ends.
-/

set_option autoImplicit false

namespace Agenda.Session

variable {α β : Type}

/-- How a step ends in some state. -/
def ended : Except SessionError α → Progress → EStateM.Result SessionError Progress α
  | .ok x, done => .ok x done
  | .error error, done => .error error done

/-- A step writes a text and comes to a result, whatever was done before. -/
def Gives (t : Session α) (text : String) (result : Except SessionError α) : Prop :=
  ∀ done, ∃ events, EStateM.run t done = ended result ⟨events, done.written ++ text⟩

/-! ## Steps -/

section Steps

variable {t : Session α} {f : α → Session β} {text text' : String} {x : α}
  {result : Except SessionError β}

theorem gives_nothing {result : Except SessionError α}
    (h : ∀ done, ∃ events, EStateM.run t done = ended result ⟨events, done.written⟩) :
    Gives t "" result := by
  intro done
  rw [String.append_empty]
  exact h done

theorem gives_pure (x : α) : Gives (pure x) "" (.ok x) :=
  gives_nothing fun done => ⟨done.events, rfl⟩

theorem gives_throw (error : SessionError) : Gives (throw error : Session α) "" (.error error) :=
  gives_nothing fun done => ⟨done.events, rfl⟩

theorem gives_report (e : Event) : Gives (report e) "" (.ok ()) :=
  gives_nothing fun done => ⟨done.events.push e, rfl⟩

theorem gives_ask (order : QueueOrder) (t : Inquiry Int64 α) :
    Gives (ask order t) "" (.ok (t.answer order.ranking.precedes)) :=
  gives_nothing fun done => ⟨done.events ++ t.events order.ranking.precedes, rfl⟩

theorem gives_write (text : String) : Gives (write text) text (.ok ()) := fun done =>
  ⟨done.events, rfl⟩

/-- **Steps in sequence write one after the other.** -/
theorem Gives.bind (ht : Gives t text (.ok x)) (hf : Gives (f x) text' result) :
    Gives (t >>= f) (text ++ text') result := by
  intro done
  obtain ⟨events, hrun⟩ := ht done
  obtain ⟨events', hrun'⟩ := hf ⟨events, done.written ++ text⟩
  refine ⟨events', ?_⟩
  rw [← String.append_assoc, ← hrun', EStateM.run_bind, hrun]
  rfl

/-- A step that writes nothing leaves the rest of the session to what follows. -/
theorem Gives.silent_bind (ht : Gives t "" (.ok x)) (hf : Gives (f x) text' result) :
    Gives (t >>= f) text' result := by
  have h := ht.bind hf
  rwa [String.empty_append] at h

/-- **A step that breaks off is the last.** -/
theorem Gives.bind_error {error : SessionError} (ht : Gives t text (.error error)) :
    Gives (t >>= f) text (.error error) := by
  intro done
  obtain ⟨events, hrun⟩ := ht done
  refine ⟨events, ?_⟩
  rw [EStateM.run_bind, hrun]
  rfl

end Steps

/-! ## Gathering -/

variable {args : Arguments} {files : Files}

/-- What the sources of a session come to, in the order in which they are asked. -/
def sources (args : Arguments) (files : Files) : Except TaskError Plan := do
  let fromFile ← fileTasks args files
  let positional ← Task.ofSpecs args.tasks
  let added ← Task.ofSpecs args.added
  return plan args.demo fromFile positional added

theorem ofTasks_gives (tasks : Except TaskError (List Task)) :
    Gives (ofTasks tasks) "" (tasks.mapError .task) := by
  cases tasks with
  | ok tasks => exact gives_pure tasks
  | error cause => exact gives_throw (.task cause)

/-- Sources are asked in turn; the first that fails is the last. -/
theorem Gives.bind_source {t : Session α} {f : α → Session β} {source : Except TaskError α}
    {next : α → Except TaskError β} (ht : Gives t "" (source.mapError .task))
    (hf : ∀ x, Gives (f x) "" ((next x).mapError .task)) :
    Gives (t >>= f) "" ((source >>= next).mapError .task) := by
  cases source with
  | ok x => exact ht.silent_bind (hf x)
  | error cause => exact ht.bind_error

theorem load_gives (args : Arguments) (files : Files) :
    Gives (load args files) "" ((fileTasks args files).mapError .task) := by
  rw [← bind_pure (fileTasks args files)]
  refine (ofTasks_gives _).bind_source fun tasks => ?_
  cases args.file with
  | none => exact gives_pure tasks
  | some path => exact (gives_report _).silent_bind (gives_pure tasks)

/-- **Gathering writes nothing**, and comes to what the sources come to. -/
theorem gather_gives (args : Arguments) (files : Files) :
    Gives (gather args files) "" ((sources args files).mapError .task) := by
  refine (load_gives args files).bind_source fun fromFile => ?_
  refine (ofTasks_gives _).bind_source fun positional => ?_
  exact (ofTasks_gives _).bind_source fun added => gives_pure _

/-! ## Filling the queue -/

/-- The queue of a plan. -/
def filled (order : QueueOrder) (plan : Plan) : PriorityQueue String Int64 QueueOrder :=
  let who := (order.ranking : Ranking Int64).precedes
  (((PriorityQueue.withOrder plan.initial order).answer who).extend plan.later).answer who

/-- Later tasks extend the queue; that they are announced makes no difference to it. -/
theorem answer_insertLater (who : Int64 → Int64 → Bool)
    (q : PriorityQueue String Int64 QueueOrder) (tasks : List Task) :
    (insertLater q tasks).answer who = (q.extend tasks).answer who := by
  induction tasks generalizing q with
  | nil => rfl
  | cons task tasks ih => simp [insertLater, PriorityQueue.extend, ih]

/-- There can be storage with as many slots as are asked for, where some tasks have theirs already. -/
abbrev HasRoom (tasks : List Task) (capacity : UInt64) : Prop :=
  Settings.storage Task.bytes tasks.length capacity < Settings.byteLimit

theorem fill_gives {plan : Plan} (hroom : HasRoom plan.initial args.capacity) :
    Gives (fill args plan) "" (.ok (filled args.order plan)) := by
  have hreserve : Settings.reserve Task.bytes plan.initial.length args.settings.initialCapacity =
      .ok () := Settings.reserve_of_lt hroom
  unfold fill
  rw [PriorityQueue.ofSettings, hreserve]
  refine (gives_ask args.order _).silent_bind ((gives_report _).silent_bind ?_)
  have hlater := gives_ask args.order
    (insertLater ((PriorityQueue.withOrder plan.initial args.order).answer
      args.order.ranking.precedes) plan.later)
  rwa [answer_insertLater] at hlater

theorem fill_gives_overflow {plan : Plan} (hfull : ¬ HasRoom plan.initial args.capacity) :
    Gives (fill args plan) "" (.error (.fault .capacityOverflow)) := by
  have hreserve : Settings.reserve Task.bytes plan.initial.length args.settings.initialCapacity =
      .error .capacityOverflow := Settings.reserve_of_le (Nat.le_of_not_lt hfull)
  unfold fill
  rw [PriorityQueue.ofSettings, hreserve]
  exact gives_throw _

/-! ## Serving -/

/-- Tasks as they are written. -/
def written (json : Bool) (tasks : List Task) : String :=
  if json then array tasks ++ "\n" else String.join (tasks.map line)

/-- **Serving line by line writes the tasks that a drain takes.** -/
theorem writeLines_gives (order : QueueOrder) (q : PriorityQueue String Int64 QueueOrder)
    (limit : Nat) :
    ∃ tasks q', (∀ taken, (q.drainOnto taken limit).answer order.ranking.precedes =
        (taken.toList ++ tasks, q')) ∧
      Gives (writeLines order q limit) (String.join (tasks.map line)) (.ok ()) := by
  -- a drain lists what it takes behind what it has taken before, whatever that is
  induction limit generalizing q with
  | zero => exact ⟨[], q, fun taken => by simp [PriorityQueue.drainOnto], gives_pure ()⟩
  | succ limit ih =>
    have hpop := gives_ask order q.pop
    cases htaken : q.pop.answer order.ranking.precedes with
    | mk next rest =>
      rw [htaken] at hpop
      cases next with
      | none =>
        refine ⟨[], rest, fun taken => ?_, hpop.silent_bind (gives_pure ())⟩
        simp [PriorityQueue.drainOnto, htaken]
      | some task =>
        obtain ⟨tasks, last, hdrain, hlines⟩ := ih rest
        refine ⟨task :: tasks, last, fun taken => ?_, ?_⟩
        · simp [PriorityQueue.drainOnto, htaken, hdrain]
        · rw [List.map_cons, String.join_cons]
          exact hpop.silent_bind ((gives_write _).bind hlines)

/-- **Serving comes to its end**, and writes the tasks that a drain takes. -/
theorem serve_gives (args : Arguments) (q : PriorityQueue String Int64 QueueOrder) :
    Gives (serve args q)
      (written args.json ((q.drain none).answer args.order.ranking.precedes).1) (.ok ()) := by
  unfold serve written
  cases args.json with
  | false =>
    obtain ⟨tasks, last, hdrain, hlines⟩ := writeLines_gives args.order q q.size
    rw [PriorityQueue.drain, Option.getD_none, hdrain]
    exact hlines
  | true =>
    exact (gives_ask args.order _).silent_bind ((gives_write _).bind (gives_write "\n"))

/-! ## The whole session -/

theorem execute_of_gives {text : String} {result : Except SessionError Unit}
    (h : Gives (carryOut args files) text result) :
    (execute args files).written = text ∧ (execute args files).result = result := by
  obtain ⟨events, hrun⟩ := h {}
  unfold execute
  rw [hrun]
  cases result <;> exact ⟨String.empty_append, rfl⟩

theorem execute_of_error {cause : TaskError} (h : sources args files = .error cause) :
    (execute args files).written = "" ∧ (execute args files).result = .error (.task cause) := by
  have hgather := gather_gives args files
  rw [h] at hgather
  exact execute_of_gives hgather.bind_error

theorem execute_of_overflow {plan : Plan} (h : sources args files = .ok plan)
    (hfull : ¬ HasRoom plan.initial args.capacity) :
    (execute args files).written = "" ∧
      (execute args files).result = .error (.fault .capacityOverflow) := by
  have hgather := gather_gives args files
  rw [h] at hgather
  exact execute_of_gives (hgather.silent_bind (fill_gives_overflow hfull).bind_error)

theorem execute_of_plan {plan : Plan} (h : sources args files = .ok plan)
    (hroom : HasRoom plan.initial args.capacity) :
    (execute args files).written = written args.json
        (((filled args.order plan).drain none).answer args.order.ranking.precedes).1 ∧
      (execute args files).result = .ok () := by
  have hgather := gather_gives args files
  rw [h] at hgather
  exact execute_of_gives
    (hgather.silent_bind ((fill_gives hroom).silent_bind (serve_gives args _)))

end Agenda.Session
