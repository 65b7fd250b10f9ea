import TaskScript.Proofs.Script.Search

/-!
# Acceptance — what it means for a script to have no fault

- `Script.WellFormed` : what the checks of single tasks ask for
- `Script.IsAcyclic`  : the literal references of a script form no circle
- `WellFormed.fault?_eq` : the fault of a well-formed script is the first circle, if there is one
- `Script.acceptance`    : which scripts are accepted, and which are refused because of a circle
-/

namespace TaskScript

open Relation

/-! ## Commands, targets and tasks -/

/-- A command that can be carried out: its keyword is known and it has the arguments it consumes. -/
def Command.Fits (command : Command) : Prop :=
  ∃ kind, command.kind? = some kind ∧ kind.arity ≤ command.args.length

/-- A call that fits names what it calls, unless its argument may stand for something else. -/
theorem Command.Fits.exists_names {command : Command} (fits : command.Fits)
    (isCall : command.keyword = "tsk")
    (literal : ∀ arg, command.args.head? = some arg → IsLiteral arg) :
    ∃ target, command.Names target := by
  obtain ⟨kind, known, enough⟩ := fits
  obtain rfl : kind = .tsk :=
    Option.some.inj (known.symm.trans (Command.kind?_eq_some_iff.2 isCall))
  cases found : command.args with
  | nil =>
    rw [found] at enough
    exact absurd enough (by decide)
  | cons arg more =>
    have head : command.args.head? = some arg := by
      rw [found]
      rfl
    exact ⟨arg, isCall, head, literal arg head⟩

theorem Command.fault?_eq_none_iff {command : Command} {owner : String} :
    command.fault? owner = none ↔ command.Fits := by
  unfold Command.fault? Command.Fits
  cases command.kind? with
  | none => simp
  | some kind => simp

theorem Command.fault?_ne_circular (command : Command) (owner : String) (path : List String) :
    command.fault? owner ≠ some (.circular path) := by
  unfold Command.fault?
  split
  · simp
  · split <;> simp

namespace Script

variable {script : Script}

theorem targetFault?_eq_none_iff {target : String} :
    script.targetFault? target = none ↔ target ∈ script.taskNames := by
  unfold targetFault?
  cases h : script.findTask? target with
  | none => simpa using findTask?_eq_none_iff.1 h
  | some task => simpa using mem_taskNames_of_findTask? h

theorem targetFault?_ne_circular (target : String) (path : List String) :
    script.targetFault? target ≠ some (.circular path) := by
  unfold targetFault?
  split <;> simp

theorem taskFault?_eq_none_iff {task : Task} :
    script.taskFault? task = none ↔
      (∀ command ∈ task.commands, command.Fits) ∧
        ∀ command ∈ task.commands, ∀ target, command.Names target →
          target ∈ script.taskNames := by
  simp only [taskFault?, Option.or_eq_none_iff, List.findSome?_eq_none_iff,
    Command.fault?_eq_none_iff, targetFault?_eq_none_iff, Task.mem_literalTargets_iff]
  constructor
  · rintro ⟨fit, declared⟩
    exact ⟨fit, fun command mem target names => declared target ⟨command, mem, names⟩⟩
  · rintro ⟨fit, declared⟩
    refine ⟨fit, ?_⟩
    rintro target ⟨command, mem, names⟩
    exact declared command mem target names

theorem taskFault?_ne_circular (task : Task) (path : List String) :
    script.taskFault? task ≠ some (.circular path) := by
  intro h
  rcases Option.or_eq_some_iff.1 h with h | ⟨-, h⟩
  · obtain ⟨command, -, hc⟩ := List.exists_of_findSome?_eq_some h
    exact command.fault?_ne_circular _ _ hc
  · obtain ⟨target, -, ht⟩ := List.exists_of_findSome?_eq_some h
    exact targetFault?_ne_circular _ _ ht

/-- The tasks have no fault exactly if no name is repeated, here or from before, and each task by
itself has none. -/
theorem tasksFault?_eq_none_iff {earlier : List String} {tasks : List Task} :
    script.tasksFault? earlier tasks = none ↔
      (tasks.map Task.name).Nodup ∧ (∀ task ∈ tasks, task.name ∉ earlier) ∧
        ∀ task ∈ tasks, script.taskFault? task = none := by
  induction tasks generalizing earlier with
  | nil => simp [tasksFault?]
  | cons task rest ih =>
    unfold tasksFault?
    by_cases again : task.name ∈ earlier
    · simp [again]
    · rw [if_neg again, Option.or_eq_none_iff, ih]
      simp only [List.map_cons, List.nodup_cons, List.forall_mem_cons, again, not_false_eq_true,
        true_and]
      simp only [List.mem_map, List.mem_cons, not_or, not_exists, not_and]
      constructor
      · rintro ⟨fine, distinct, fresh, rest⟩
        exact ⟨⟨fun t mem => (fresh t mem).1, distinct⟩, fun t mem => (fresh t mem).2, fine, rest⟩
      · rintro ⟨⟨new, distinct⟩, fresh, fine, rest⟩
        exact ⟨fine, distinct, fun t mem => ⟨new t mem, fresh t mem⟩, rest⟩

theorem tasksFault?_ne_circular (earlier : List String) (tasks : List Task)
    (path : List String) : script.tasksFault? earlier tasks ≠ some (.circular path) := by
  induction tasks generalizing earlier with
  | nil => simp [tasksFault?]
  | cons task rest ih =>
    unfold tasksFault?
    split
    · simp
    · intro h
      rcases Option.or_eq_some_iff.1 h with h | ⟨-, h⟩
      · exact taskFault?_ne_circular task path h
      · exact ih _ h

/-! ## Scripts -/

/-- What the checks of single tasks ask for. -/
structure WellFormed (script : Script) : Prop where
  /-- No two tasks have the same name. -/
  distinct : script.taskNames.Nodup
  /-- Every command has a known keyword and at least the arguments that it consumes. -/
  fits : ∀ task ∈ script.tasks, ∀ command ∈ task.commands, command.Fits
  /-- Every literal target is the name of a task. -/
  declared : ∀ task ∈ script.tasks, ∀ command ∈ task.commands, ∀ target,
    command.Names target → target ∈ script.taskNames

/-- The literal references of all tasks form no circle. -/
def IsAcyclic (script : Script) : Prop :=
  ∀ name, ¬ TransGen script.RefersTo name name

theorem tasksFault?_eq_none_iff_wellFormed :
    script.tasksFault? [] script.tasks = none ↔ script.WellFormed := by
  simp only [tasksFault?_eq_none_iff, taskFault?_eq_none_iff]
  constructor
  · rintro ⟨distinct, -, each⟩
    exact ⟨distinct, fun task mem => (each task mem).1, fun task mem => (each task mem).2⟩
  · rintro ⟨distinct, fit, declared⟩
    exact ⟨distinct, by simp, fun task mem => ⟨fit task mem, declared task mem⟩⟩

theorem WellFormed.refersWithin (h : script.WellFormed) : script.RefersWithin := by
  intro caller callee leads
  obtain ⟨task, mem, -, command, memc, names⟩ := leads.refersTo
  exact h.declared task mem command memc callee names

theorem WellFormed.isAcyclic_iff (h : script.WellFormed) :
    script.IsAcyclic ↔ ∀ name, ¬ TransGen script.LeadsTo name name := by
  have same : script.LeadsTo = script.RefersTo := by
    funext caller callee
    exact propext (leadsTo_iff_refersTo h.distinct)
  rw [IsAcyclic, same]

/-- If all calls are literal, a command that names no task is no call. -/
theorem WellFormed.keyword_ne (h : script.WellFormed) (literal : script.CallsLiterally)
    {task : Task} {command : Command} (mem : task ∈ script.tasks)
    (memc : command ∈ task.commands) (unnamed : command.literalTarget? = none) :
    command.keyword ≠ "tsk" := by
  intro isCall
  obtain ⟨target, names⟩ := (h.fits task mem command memc).exists_names isCall
    (literal task mem command memc isCall)
  rw [Command.literalTarget?_eq_some_iff.2 names] at unnamed
  exact nomatch unnamed

/-- The fault of a well-formed script is a circle of references. -/
theorem WellFormed.fault?_eq (h : script.WellFormed) :
    script.fault? = (script.taskNames.findSome? (script.firstCircle? [])).map .circular := by
  rw [fault?, tasksFault?_eq_none_iff_wellFormed.2 h, Option.none_or,
    circleFault?_eq h.refersWithin]

theorem WellFormed.fault?_eq_none_iff (h : script.WellFormed) :
    script.fault? = none ↔ script.IsAcyclic := by
  rw [fault?, tasksFault?_eq_none_iff_wellFormed.2 h, Option.none_or,
    circleFault?_eq_none_iff h.refersWithin, h.isAcyclic_iff]

theorem wellFormed_of_fault?_eq_none (h : script.fault? = none) : script.WellFormed :=
  tasksFault?_eq_none_iff_wellFormed.1 (Option.or_eq_none_iff.1 h).1

theorem wellFormed_of_fault?_eq_circular {path : List String}
    (h : script.fault? = some (.circular path)) : script.WellFormed := by
  rcases Option.or_eq_some_iff.1 h with h | ⟨fine, -⟩
  · exact absurd h (tasksFault?_ne_circular _ _ _)
  · exact tasksFault?_eq_none_iff_wellFormed.1 fine

theorem isAcyclic_of_fault?_eq_none (h : script.fault? = none) : script.IsAcyclic :=
  (wellFormed_of_fault?_eq_none h).fault?_eq_none_iff.1 h

/-- A well-formed script without a circle is accepted, and no other; a circle is reported if it is
the only thing wrong, and only then. -/
theorem acceptance (script : Script) :
    (script.fault? = none ↔ script.WellFormed ∧ script.IsAcyclic) ∧
      ((∃ path, script.fault? = some (.circular path)) ↔
        script.WellFormed ∧ ¬ script.IsAcyclic) := by
  refine ⟨⟨?_, ?_⟩, ⟨?_, ?_⟩⟩
  · intro h
    exact ⟨wellFormed_of_fault?_eq_none h, isAcyclic_of_fault?_eq_none h⟩
  · rintro ⟨formed, acyclic⟩
    exact formed.fault?_eq_none_iff.2 acyclic
  · rintro ⟨path, h⟩
    have formed := wellFormed_of_fault?_eq_circular h
    refine ⟨formed, fun acyclic => ?_⟩
    rw [formed.fault?_eq_none_iff.2 acyclic] at h
    exact nomatch h
  · rintro ⟨formed, cyclic⟩
    cases hc : script.taskNames.findSome? (script.firstCircle? []) with
    | none =>
      have accepted : script.fault? = none := by rw [formed.fault?_eq, hc, Option.map_none]
      exact absurd (formed.fault?_eq_none_iff.1 accepted) cyclic
    | some path => exact ⟨path, by rw [formed.fault?_eq, hc, Option.map_some]⟩

end Script
end TaskScript
