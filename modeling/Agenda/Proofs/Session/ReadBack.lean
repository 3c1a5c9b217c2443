import Agenda.Proofs.Session.Outcome
import Agenda.Proofs.Task.Json
/-!
# Sessions that read what a session wrote

The array that a session writes can be the task file of another one.

* `Session.drained` — the tasks that a session takes off its queue.
* `session_of_plan` — they are those of its plan, in order, and they are what it writes.
* `array_drains_again` — **the second session works through the same tasks at the same priorities**;
  where no two of them tie, it writes the same text, and with the order turned round it takes them
  from the last to the first.
-/

set_option autoImplicit false

namespace Agenda.Session

variable {args : Arguments} {files : Files}

/-! ## The tasks of a session -/

/-- Takes all tasks off the queue that a command line asks for. -/
def drainQueue (args : Arguments) (files : Files) : Session (List Task) := do
  let plan ← gather args files
  let q ← fill args plan
  let (tasks, _) ← ask args.order (q.drain none)
  return tasks

/-- The tasks that a session takes off its queue, in turn. -/
def drained (args : Arguments) (files : Files) : Except SessionError (List Task) :=
  match EStateM.run (drainQueue args files) {} with
  | .ok tasks _ => .ok tasks
  | .error error _ => .error error

theorem drained_of_plan {plan : Plan} (h : sources args files = .ok plan)
    (hroom : HasRoom plan.initial args.capacity) :
    drained args files =
      .ok (((filled args.order plan).drain none).answer args.order.ranking.precedes).1 := by
  have hgather := gather_gives args files
  rw [h] at hgather
  have hdrain := gives_ask args.order ((filled args.order plan).drain none)
  have hall : Gives (drainQueue args files) ""
      (.ok (((filled args.order plan).drain none).answer args.order.ranking.precedes).1) :=
    hgather.silent_bind ((fill_gives hroom).silent_bind (hdrain.silent_bind (gives_pure _)))
  obtain ⟨events, hrun⟩ := hall {}
  unfold drained
  rw [hrun]
  rfl

/-- Tasks that may leave one after the other: none precedes one in front of it. -/
abbrev InOrder (order : QueueOrder) (tasks : List Task) : Prop :=
  tasks.Pairwise (Item.Leads (order.ranking : Ranking Int64).precedes)

/-- **A session drains the tasks of its plan in order**, and writes what it drains. -/
theorem session_of_plan {plan : Plan} (h : sources args files = .ok plan)
    (hroom : HasRoom plan.initial args.capacity) :
    ∃ tasks, drained args files = .ok tasks ∧
      (execute args files).text = .ok (written args.json tasks) ∧
      tasks.Perm (plan.initial ++ plan.later) ∧
      InOrder args.order tasks := by
  obtain ⟨tasks, last, hdrain, hperm, hpairwise⟩ := filled_drains args.order plan
  have hdrained := drained_of_plan h hroom
  obtain ⟨hwritten, hresult⟩ := execute_of_plan h hroom
  rw [hdrain] at hdrained hwritten
  refine ⟨tasks, hdrained, ?_, hperm, hpairwise⟩
  rw [Outcome.text, hwritten, hresult]
  rfl

/-- A session that came to its end had a plan and room for it. -/
theorem exists_plan_of_text {text : String} (h : (execute args files).text = .ok text) :
    ∃ plan, sources args files = .ok plan ∧ HasRoom plan.initial args.capacity := by
  cases hsources : sources args files with
  | error cause =>
    rw [Outcome.text, (execute_of_error hsources).2] at h
    cases h
  | ok plan =>
    by_cases hroom : HasRoom plan.initial args.capacity
    · exact ⟨plan, rfl, hroom⟩
    · rw [Outcome.text, (execute_of_overflow hsources hroom).2] at h
      cases h

/-! ## Ordered tasks -/

/-- Tasks that share a priority share a name. -/
def NoTies (tasks : List Task) : Prop :=
  ∀ x ∈ tasks, ∀ y ∈ tasks, x.priority = y.priority → x.value = y.value

instance (tasks : List Task) : Decidable (NoTies tasks) :=
  inferInstanceAs <| Decidable <|
    ∀ x ∈ tasks, ∀ y ∈ tasks, x.priority = y.priority → x.value = y.value

section Ordered

variable {order : QueueOrder} {tasks tasks' : List Task}

/-- Two orderly lists of the same tasks have the same priorities at every place. -/
theorem priorities_eq (hperm : tasks'.Perm tasks)
    (htasks' : InOrder order tasks') (htasks : InOrder order tasks) :
    tasks'.map Item.priority = tasks.map Item.priority := by
  have htied := Bag.forall₂_tied (QueueOrder.strictWeak order) hperm htasks' htasks
  rw [← List.forall₂_eq_eq_eq, List.forall₂_map_left_iff, List.forall₂_map_right_iff]
  exact htied.imp fun _ _ h => order.eq_of_tied h

/-- Without ties, tasks can be put in order in one way only. -/
theorem eq_of_ordered (hties : NoTies tasks) (hperm : tasks'.Perm tasks)
    (htasks' : InOrder order tasks') (htasks : InOrder order tasks) :
    tasks' = tasks := by
  refine hperm.eq_of_pairwise (fun x y hx hy hxy hyx => ?_) htasks' htasks
  have hpriority : x.priority = y.priority := order.eq_of_tied (Item.tied_of_leads hxy hyx)
  have hvalue := hties x (hperm.mem_iff.1 hx) y hy hpriority
  cases x
  cases y
  simp_all

/-- With the order turned round, tasks are in order from the last to the first. -/
theorem InOrder.reverse {args args' : Arguments} (hturned : args'.maxFirst = !args.maxFirst)
    (h : InOrder args.order tasks) : InOrder args'.order tasks.reverse := by
  have hleads : ∀ {x y : Task}, Item.Leads (args.order.ranking : Ranking Int64).precedes x y →
      Item.Leads (args'.order.ranking : Ranking Int64).precedes y x := by
    intro x y hxy
    unfold Arguments.order at hxy ⊢
    rw [hturned]
    cases hmax : args.maxFirst <;> rw [hmax] at hxy <;> exact hxy
  exact List.pairwise_reverse.2 (h.imp hleads)

end Ordered

/-! ## The second session -/

/-- The command line that names a task file as its only source and asks for JSON. -/
def again (path : String) (verbosity : Nat) (capacity : UInt64) (maxFirst : Bool) : Arguments :=
  { file := some path, json := true, verbosity, capacity, maxFirst }

/-- The task file is all that there is to gather. -/
theorem sources_again {path : String} {tasks : List Task} (verbosity : Nat) (capacity : UInt64)
    (maxFirst : Bool) (hfile : files path = .ok (array tasks ++ "\n").toUTF8) :
    sources (again path verbosity capacity maxFirst) files = .ok ⟨tasks, []⟩ := by
  have htasks : fileTasks (again path verbosity capacity maxFirst) files = .ok tasks := by
    show Task.ofFile (files path) = .ok tasks
    rw [hfile]
    exact Task.ofFile_of_parse (Task.parseAll?_array tasks)
  rw [sources, htasks]
  show Except.ok (plan false tasks [] []) = _
  simp [plan]

/-- **A session that reads what another one wrote works through the same tasks.**  Let a session come
to its end and write its tasks as a JSON array, and let this text be the task file of a second one
that has no other source.  As long as there can be as many slots as it asks for, the second session
comes to its end in either order, and takes the same tasks.  In the order of the first it takes them
with the same priority at every place; if tasks that share a priority also share a name, it writes the
very same text, and in the opposite order it takes the tasks from the last to the first. -/
theorem array_drains_again (args : Arguments) (files : Files) {text : String}
    (hjson : args.json = true) (htext : (execute args files).text = .ok text) :
    ∃ tasks, drained args files = .ok tasks ∧ text = array tasks ++ "\n" ∧
      ∀ (path : String) (files' : Files) (verbosity : Nat) (capacity : UInt64) (maxFirst : Bool),
        files' path = .ok text.toUTF8 → HasRoom tasks capacity →
        let second := again path verbosity capacity maxFirst
        ∃ tasks', drained second files' = .ok tasks' ∧
          (execute second files').text = .ok (array tasks' ++ "\n") ∧
          tasks'.Perm tasks ∧
          (maxFirst = args.maxFirst →
            tasks'.map Item.priority = tasks.map Item.priority ∧
            (NoTies tasks → (execute second files').text = .ok text)) ∧
          (maxFirst ≠ args.maxFirst → NoTies tasks → tasks' = tasks.reverse) := by
  obtain ⟨plan, hplan, hroom⟩ := exists_plan_of_text htext
  obtain ⟨tasks, hdrained, hwritten, -, hordered⟩ := session_of_plan hplan hroom
  obtain rfl : text = array tasks ++ "\n" := by
    rw [htext, hjson] at hwritten
    exact Except.ok.inj hwritten
  refine ⟨tasks, hdrained, rfl, fun path files' verbosity capacity maxFirst hfile hroom' => ?_⟩
  intro second
  obtain ⟨tasks', hdrained', hwritten', hperm, hordered'⟩ :=
    session_of_plan (sources_again verbosity capacity maxFirst hfile) hroom'
  rw [List.append_nil] at hperm
  refine ⟨tasks', hdrained', hwritten', hperm, fun hsame => ?_, fun hopposite hties => ?_⟩
  · subst hsame
    refine ⟨priorities_eq hperm hordered' hordered, fun hties => ?_⟩
    rw [← eq_of_ordered hties hperm hordered' hordered]
    exact hwritten'
  · have hturned : second.maxFirst = !args.maxFirst := Bool.eq_not.2 hopposite
    refine eq_of_ordered (fun x hx y hy => ?_) (hperm.trans tasks.reverse_perm.symm) hordered'
      (hordered.reverse hturned)
    exact hties x (List.mem_reverse.1 hx) y (List.mem_reverse.1 hy)

theorem ok_of_toOption {ε α : Type} {result : Except ε α} {x : α} (h : result.toOption = some x) :
    result = .ok x := by
  cases result with
  | ok y => exact congrArg Except.ok (Option.some.inj h)
  | error _ => cases h

/-- Quotes, a backslash, a line break and an equals sign in the names, and the least priority; the
second session is asked for in both orders. -/
theorem array_drains_again_escaped :
    let args : Arguments :=
      { tasks := ["say \"no\\\"=-9223372036854775808", "line\nbreak=3"], added := ["x = y=7"],
        maxFirst := true, json := true }
    let tasks : List Task := [⟨"x = y", 7⟩, ⟨"line\nbreak", 3⟩, ⟨"say \"no\\\"", Int64.minValue⟩]
    let text := array tasks ++ "\n"
    let files : Files := fun _ => .ok text.toUTF8
    args.json = true ∧ (execute args fun _ => .error .notFound).text = .ok text ∧
    files "tasks.json" = .ok text.toUTF8 ∧ HasRoom tasks 16 ∧ NoTies tasks ∧
    (execute (again "tasks.json" 0 16 true) files).text = .ok text ∧
    drained (again "tasks.json" 0 16 false) files = .ok tasks.reverse := by
  intro args tasks text files
  have htext : (execute args fun _ => .error .notFound).text = .ok text :=
    ok_of_toOption (by decide +kernel)
  have hroom : HasRoom tasks 16 := by decide
  have hties : NoTies tasks := by decide +kernel
  obtain ⟨first, -, harray, hsecond⟩ := array_drains_again args _ rfl htext
  obtain rfl : first = tasks := by
    -- an array tells the tasks that it was written for
    have hparse := Task.parseAll?_array first
    rw [← harray, Task.parseAll?_array tasks] at hparse
    exact (Option.some.inj hparse).symm
  obtain ⟨_, -, -, -, hsame, -⟩ := hsecond "tasks.json" files 0 16 true rfl hroom
  obtain ⟨tasks', hdrained', -, -, -, hopposite⟩ := hsecond "tasks.json" files 0 16 false rfl hroom
  rw [hopposite (by decide) hties] at hdrained'
  exact ⟨rfl, htext, rfl, hroom, hties, (hsame rfl).2 hties, hdrained'⟩

end Agenda.Session
