import Agenda.Proofs.Session.Step
import Agenda.Proofs.Task.Json
/-!
# What a session comes to

* `filled_drains` — the queue of a plan holds its tasks, and draining it takes them in order.
* `writes_tasks_in_order` — a session whose sources are good writes all their tasks, in order of their
  priorities.
-/

set_option autoImplicit false

namespace Agenda

namespace Session

/-- In the order asked for, what leaves first is at most as great, or with the greatest first at
least. -/
theorem le_of_leads {args : Arguments} {x y : Task}
    (h : Item.Leads (args.order.ranking : Ranking Int64).precedes x y) :
    if args.maxFirst then y.priority ≤ x.priority else x.priority ≤ y.priority := by
  unfold Arguments.order at h
  cases hmax : args.maxFirst with
  | true =>
    have hlt : ¬ x.priority < y.priority := by
      simpa [hmax, Item.Leads, QueueOrder.ranking, Std.compare_eq_lt] using h
    simpa using hlt
  | false =>
    have hlt : ¬ y.priority < x.priority := by
      simpa [hmax, Item.Leads, QueueOrder.ranking, Std.compare_eq_lt] using h
    simpa using hlt

/-- **Draining the queue of a plan takes its tasks in order.** -/
theorem filled_drains (order : QueueOrder) (plan : Plan) :
    ∃ tasks last,
      ((filled order plan).drain none).answer (order.ranking : Ranking Int64).precedes =
        (tasks, last) ∧
      tasks.Perm (plan.initial ++ plan.later) ∧
      tasks.Pairwise (Item.Leads (order.ranking : Ranking Int64).precedes) := by
  have h := QueueOrder.strictWeak (P := Int64) order
  obtain ⟨-, hinitial, hbuilt⟩ :=
    PriorityQueue.withOrder_starts h h.lenient plan.initial order
  have hheap := (PriorityQueue.extend_keeps h h.lenient _ plan.later).isHeap hbuilt
  obtain ⟨tasks, hdrain, hdrains⟩ := PriorityQueue.drain_all h h.lenient hheap
  refine ⟨tasks, _, hdrain, hdrains.perm ?_, hdrains.pairwise⟩
  rw [PriorityQueue.bag_extend, hinitial, Multiset.coe_add]
  exact Multiset.coe_eq_coe.2 List.perm_append_comm

/-- **A session writes its tasks in order of their priorities.**  Let the task file hold tasks, if one
is named, and let all specifications be good.  Then the session comes to its end, and there is one
list of tasks that it works through: those of the household, of the file and of the command line,
each as often as it is given, in ascending order or, with the greatest first, in descending order.
One line is written for each, or all of them as a JSON array.  The list does not depend on the form
in which it is written, nor on how much detail is reported or how many slots are reserved, as long as
there can be that many. -/
theorem writes_tasks_in_order (args : Arguments) (files : Files)
    {fromFile positional added : List Task} (hfile : fileTasks args files = .ok fromFile)
    (hpositional : Task.ofSpecs args.tasks = .ok positional)
    (hadded : Task.ofSpecs args.added = .ok added) :
    let household := if args.demo then Task.household else []
    let householdLater := if args.demo then [Task.householdLater] else []
    ∃ tasks : List Task,
      tasks.Perm (household ++ fromFile ++ positional ++ householdLater ++ added) ∧
      tasks.Pairwise (fun x y =>
        if args.maxFirst then y.priority ≤ x.priority else x.priority ≤ y.priority) ∧
      ∀ (verbosity : Nat) (capacity : UInt64) (json : Bool),
        HasRoom (household ++ fromFile ++ positional) capacity →
        (execute { args with verbosity, capacity, json } files).text =
          .ok (if json then String.ofList (Json.array (tasks.map Task.toJson)).pretty ++ "\n"
            else String.join (tasks.map fun task => "Doing task: " ++ task.value ++ "\n")) := by
  intro household householdLater
  let plan := plan args.demo fromFile positional added
  have hsources : sources args files = .ok plan := by
    rw [sources, hfile, hpositional, hadded]
    rfl
  obtain ⟨tasks, last, hdrain, hperm, hpairwise⟩ := filled_drains args.order plan
  refine ⟨tasks, ?_, hpairwise.imp le_of_leads, fun verbosity capacity json hroom => ?_⟩
  · rw [List.append_assoc _ householdLater added]
    exact hperm
  · let args' : Arguments := { args with verbosity, capacity, json }
    obtain ⟨hwritten, hresult⟩ :=
      execute_of_plan (show sources args' files = .ok plan from hsources) hroom
    rw [show args'.order = args.order from rfl, hdrain] at hwritten
    show (execute args' files).text = _
    rw [Outcome.text, hwritten, hresult]
    rfl

/-- Household tasks, a task file and specifications with blanks in them, the greatest first. -/
theorem writes_tasks_in_order_of_all_sources :
    let args : Arguments :=
      { tasks := ["b = 3", "c=-1"], added := ["d=2"], file := some "tasks.json", maxFirst := true,
        demo := true }
    let contents := "[\x7b\"priority\": 7, \"value\": \"f\"\x7d]"
    let files : Files := fun _ => .ok contents.toUTF8
    fileTasks args files = .ok [⟨"f", 7⟩] ∧
    Task.ofSpecs args.tasks = .ok [⟨"b", 3⟩, ⟨"c", -1⟩] ∧ Task.ofSpecs args.added = .ok [⟨"d", 2⟩] ∧
    ∃ tasks : List Task,
      tasks.Perm [⟨"clean dishes", 2⟩, ⟨"write report", 1⟩, ⟨"f", 7⟩, ⟨"b", 3⟩, ⟨"c", -1⟩,
        ⟨"call mom", 0⟩, ⟨"d", 2⟩] ∧
      tasks.Pairwise (fun x y => y.priority ≤ x.priority) ∧
      (execute args files).text =
        .ok (String.join (tasks.map fun task => "Doing task: " ++ task.value ++ "\n")) := by
  intro args contents files
  have hparse : Task.parseAll? contents.toList = some [⟨"f", 7⟩] := by decide +kernel
  have hfile : fileTasks args files = .ok [⟨"f", 7⟩] := Task.ofFile_of_parse hparse
  have hpositional : Task.ofSpecs args.tasks = .ok [⟨"b", 3⟩, ⟨"c", -1⟩] := rfl
  have hadded : Task.ofSpecs args.added = .ok [⟨"d", 2⟩] := rfl
  obtain ⟨tasks, hperm, hpairwise, htext⟩ :=
    writes_tasks_in_order args files hfile hpositional hadded
  exact ⟨hfile, hpositional, hadded, tasks, hperm, hpairwise, htext 0 0 false (by decide)⟩

end Session

end Agenda
