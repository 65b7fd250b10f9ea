import Mathlib.Data.Finset.Card
import TaskScript.Proofs.Run.Soundness
import TaskScript.Proofs.Run.Stage

/-!
# Nesting — the task stack along a run

At each stage of a run the task stack holds the tasks that have been entered and not yet left, on
top of those that it held at the start.  None of them is entered while it is running, so that there
are never more of them than the script has names.

- `Runner.Nested`            : a task stack that fits to what awaits
- `Stage.InOrder`            : what every step preserves
- `Nested.length_owners_le`  : how many tasks can be entered, one within the other
- `Runner.run_ends`          : every run ends, and is never deeper than that
- `Runner.stack_discipline`  : every run restores the stack and keeps it in order
- `Runner.stack_of_notice`   : a command that is asked for by itself finds the stack empty
-/

namespace TaskScript

/-- The names of tasks, each counted once, that are not on a stack. -/
def Script.idleNames (script : Script) (stack : List String) : Finset String :=
  script.taskNames.toFinset \ stack.toFinset

/-- Some commands are the last ones of a task. -/
def Script.EndsWith (script : Script) (owner : String) (rest : List Command) : Prop :=
  ∃ task, script.findTask? owner = some task ∧ rest <:+ task.commands

theorem Script.EndsWith.tail {script : Script} {owner : String} {command : Command}
    {rest : List Command} (h : script.EndsWith owner (command :: rest)) :
    script.EndsWith owner rest := by
  obtain ⟨task, found, last⟩ := h
  exact ⟨task, found, (List.suffix_cons command rest).trans last⟩

namespace Runner

variable {spawn : Spawn} {r s : Runner} {name owner target task : String} {command : Command}
  {rest : List Command} {waiting held : List Frame} {stack : List String} {a : Stage}
  {limit : Nat}

/-! ## Tasks that have been entered -/

/-- The task that has been entered and awaits a command. -/
def Frame.owner? : Frame → Option String
  | .body owner _ => some owner
  | .call _ => none

/-- The tasks that have been entered and not yet left, the innermost first. -/
def owners (held : List Frame) : List String :=
  held.filterMap Frame.owner?

/-- The task stack holds the owners of these frames on top of the stack of `r`: no task has been
entered that was running or for which there was no room, and each has its last commands left. -/
inductive Nested (r : Runner) : List Frame → List String → Prop where
  | base : Nested r [] r.stack
  | call {waiting : List Frame} {stack : List String} {target : String}
      (below : Nested r waiting stack) : Nested r (.call target :: waiting) stack
  | body {waiting : List Frame} {stack : List String} {owner : String} {rest : List Command}
      (below : Nested r waiting stack) (fresh : owner ∉ stack)
      (shallow : stack.length < r.settings.maxDepth) (left : r.script.EndsWith owner rest) :
      Nested r (.body owner rest :: waiting) (owner :: stack)

namespace Nested

theorem of_call (h : Nested r (.call target :: waiting) stack) : Nested r waiting stack := by
  cases h with
  | call below => exact below

theorem of_body (h : Nested r (.body owner rest :: waiting) stack) :
    ∃ under, stack = owner :: under ∧ Nested r waiting under ∧ owner ∉ under ∧
      under.length < r.settings.maxDepth ∧ r.script.EndsWith owner rest := by
  cases h with
  | body below fresh shallow left => exact ⟨_, rfl, below, fresh, shallow, left⟩

theorem stack_eq (h : Nested r held stack) : stack = owners held ++ r.stack := by
  induction h with
  | base => rfl
  | call below ih => exact ih
  | body below fresh shallow left ih => exact congrArg _ ih

theorem nodup (h : Nested r held stack) (distinct : r.stack.Nodup) : stack.Nodup := by
  induction h with
  | base => exact distinct
  | call below ih => exact ih
  | body below fresh shallow left ih => exact List.nodup_cons.2 ⟨fresh, ih⟩

theorem nodup_owners (h : Nested r held stack) : (owners held).Nodup := by
  induction h with
  | base => exact List.nodup_nil
  | call below ih => exact ih
  | body below fresh shallow left ih =>
    rw [below.stack_eq] at fresh
    exact List.nodup_cons.2 ⟨fun again => fresh (List.mem_append_left _ again), ih⟩

/-- Only tasks are entered, and none that was running at the start. -/
theorem mem_idleNames (h : Nested r held stack) (mem : name ∈ owners held) :
    name ∈ r.script.idleNames r.stack := by
  induction h with
  | base => exact absurd mem List.not_mem_nil
  | call below ih => exact ih mem
  | @body waiting stack owner rest below fresh shallow left ih =>
    rcases List.mem_cons.1 mem with rfl | mem
    · obtain ⟨task, found, -⟩ := left
      rw [below.stack_eq] at fresh
      simp only [Script.idleNames, Finset.mem_sdiff, List.mem_toFinset]
      exact ⟨Script.mem_taskNames_of_findTask? found,
        fun running => fresh (List.mem_append_right _ running)⟩
    · exact ih mem

/-- As many tasks can be entered, one within the other, as there are names that are not running. -/
theorem length_owners_le (h : Nested r held stack) :
    (owners held).length ≤ (r.script.idleNames r.stack).card := by
  rw [← List.toFinset_card_of_nodup h.nodup_owners]
  exact Finset.card_le_card fun name mem => h.mem_idleNames (List.mem_toFinset.1 mem)

/-- If yet another task can be entered, fewer have been. -/
theorem length_owners_lt (h : Nested r held stack) (declared : name ∈ r.script.taskNames)
    (fresh : name ∉ stack) : (owners held).length < (r.script.idleNames r.stack).card := by
  rw [h.stack_eq, List.mem_append, not_or] at fresh
  rw [← List.toFinset_card_of_nodup h.nodup_owners]
  refine Finset.card_lt_card (Finset.ssubset_iff_exists_cons_subset.2 ⟨name, ?_, ?_⟩)
  · simpa using fresh.1
  · intro other mem
    rcases Finset.mem_cons.1 mem with rfl | mem
    · simpa [Script.idleNames] using ⟨declared, fresh.2⟩
    · exact h.mem_idleNames (List.mem_toFinset.1 mem)

end Nested

/-! ## Stages in order -/

namespace Stage

/-- What awaits something, the task that goes on included. -/
def frames (a : Stage) : List Frame :=
  match a.focus with
  | .body owner rest => .body owner rest :: a.waiting
  | _ => a.waiting

/-- How many tasks have been entered, one within the other. -/
def depth (a : Stage) : Nat :=
  (owners a.frames).length

/-- A stage that a run from `r` can come to: but for the task stack the frame is that of `r`, and
the task stack fits to what awaits. -/
structure InOrder (r : Runner) (a : Stage) : Prop where
  keeps : Keeps { r with stack := a.runner.stack } a.runner
  nested : Nested r a.frames a.runner.stack

namespace InOrder

theorem start {focus : Focus} (outside : ∀ owner rest, focus ≠ .body owner rest) (r : Runner) :
    InOrder r (begin focus r) where
  keeps := Keeps.refl r
  nested := by
    cases focus with
    | body owner rest => exact absurd rfl (outside owner rest)
    | task name => exact .base
    | command owner command => exact .base
    | ended outcome => exact .base

/-- A state that keeps the frame may take the place of the state of a stage. -/
theorem of_keeps {b : Stage} (h : InOrder r a) (kept : Keeps a.runner b.runner)
    (nested : Nested r b.frames a.runner.stack) : InOrder r b where
  keeps := by
    rw [kept.stack]
    exact h.keeps.trans kept
  nested := by rwa [kept.stack]

/-- Leaving a task takes it from the stack. -/
theorem finish_leave {failure : Option RunFault} (h : InOrder r ⟨.body owner rest, waiting, s⟩) :
    InOrder r (finish waiting (leave owner (failure, s))) := by
  obtain ⟨keeps, nested⟩ := h
  obtain ⟨stack, same, below, -⟩ := nested.of_body
  have popped : s.popTask.stack = stack := by
    rw [popTask]
    exact congrArg List.tail same
  have left : InOrder r ⟨.ended (leave owner (failure, s)).1, waiting, s.popTask⟩ := by
    constructor
    · exact ⟨keeps.script, keeps.settings, keeps.positional, keeps.named, rfl, keeps.console⟩
    · rwa [popped]
  cases failure with
  | some fault => exact left
  | none => exact left.of_keeps (Keeps.note _ _ _) left.nested

/-- Each step of a run leads to a stage that is in order. -/
theorem step (h : InOrder r a) : InOrder r (advance spawn a) := by
  obtain ⟨focus, waiting, s⟩ := a
  cases focus with
  | task name =>
    cases refused : s.refusal? name with
    | some fault =>
      rw [advance_of_refusal refused]
      exact h.of_keeps (Keeps.refl s) h.nested
    | none =>
      obtain ⟨⟨task, found⟩, fresh, shallow⟩ := refusal?_eq_none_iff.1 refused
      rw [advance_of_found refused found]
      -- entering a task puts it on the stack and changes nothing else of the frame
      have entered := Keeps.note (s.pushTask name) .info ("Running task: " ++ name)
      constructor
      · exact ⟨h.keeps.script, h.keeps.settings, h.keeps.positional, h.keeps.named, rfl,
          h.keeps.console.trans entered.console⟩
      · rw [h.keeps.script] at found
        rw [h.keeps.settings] at shallow
        exact .body h.nested fresh shallow ⟨task, found, List.suffix_refl _⟩
  | command owner command =>
    by_cases isCall : ∃ target, s.action? owner command = some (.tsk target)
    · obtain ⟨target, ready⟩ := isCall
      rw [advance_of_call ready]
      exact h.of_keeps (calling_keeps s owner command target) (.call h.nested)
    · rw [advance_of_noCall fun target ready => isCall ⟨target, ready⟩]
      exact h.of_keeps (executeCommand_keeps spawn owner command s) h.nested
  | body owner commands =>
    cases commands with
    | nil => exact h.finish_leave
    | cons command rest =>
      obtain ⟨stack, same, below, fresh, shallow, left⟩ := h.nested.of_body
      have onward : Nested r (.body owner rest :: waiting) s.stack :=
        same ▸ .body below fresh shallow left.tail
      exact h.of_keeps (Keeps.refl s) onward
  | ended outcome =>
    cases waiting with
    | nil => exact h
    | cons frame waiting =>
      cases frame with
      | body owner rest =>
        have resumed : InOrder r ⟨.body owner rest, waiting, s⟩ := ⟨h.keeps, h.nested⟩
        cases outcome with
        | error fault => exact resumed.finish_leave
        | ok message => exact resumed
      | call target =>
        have nested : Nested r waiting s.stack := Nested.of_call h.nested
        cases outcome with
        | error fault => exact h.of_keeps (Keeps.refl s) nested
        | ok message => exact h.of_keeps (Keeps.refl s) nested

/-- So does any number of them. -/
theorem iterate (h : InOrder r a) (n : Nat) : InOrder r ((advance spawn)^[n] a) := by
  induction n generalizing a with
  | zero => exact h
  | succ n ih => exact ih h.step

theorem depth_le (h : InOrder r a) : a.depth ≤ (r.script.idleNames r.stack).card :=
  h.nested.length_owners_le

/-- There is room for a declared task that is not running, if there is room for all of them. -/
theorem stack_lt (h : InOrder r a)
    (deep : r.stack.length + (r.script.idleNames r.stack).card ≤ r.settings.maxDepth)
    (declared : name ∈ r.script.taskNames) (fresh : name ∉ a.runner.stack) :
    a.runner.stack.length < r.settings.maxDepth := by
  have fewer := h.nested.length_owners_lt declared fresh
  rw [h.nested.stack_eq, List.length_append]
  omega

end InOrder
end Stage

/-! ## The end of a run -/

/-- Every run comes to an end after some number of steps, even if calls are computed from variables
that change on the way, and however deep calls may go.  At no stage have more tasks been entered, one
within the other, than there are names that were not running at the start. -/
theorem run_ends (spawn : Spawn) (r : Runner) :
    (∀ name,
      (∃ n, (advance spawn)^[n] (begin (.task name) r) = finish [] (r.executeTask spawn name)) ∧
        ∀ n, ((advance spawn)^[n] (begin (.task name) r)).depth ≤
          (r.script.idleNames r.stack).card) ∧
    (∀ owner command,
      (∃ n, (advance spawn)^[n] (begin (.command owner command) r) =
        finish [] (r.executeCommand spawn owner command)) ∧
        ∀ n, ((advance spawn)^[n] (begin (.command owner command) r)).depth ≤
          (r.script.idleNames r.stack).card) := by
  refine ⟨fun name => ⟨?_, fun n => ?_⟩, fun owner command => ⟨?_, fun n => ?_⟩⟩
  · exact reaches_executeTask spawn name [] r
  · exact ((Stage.InOrder.start (by simp) r).iterate n).depth_le
  · exact reaches_executeCommand spawn owner command [] r
  · exact ((Stage.InOrder.start (by simp) r).iterate n).depth_le

/-! ## Calls that go too deep -/

/-- A task is too deep if it is declared and not running, but as many others are running as may. -/
theorem refusal?_eq_tooDeep (refused : r.refusal? name = some (.tooDeep task limit)) :
    name ∈ r.script.taskNames ∧ name ∉ r.stack ∧ r.settings.maxDepth ≤ r.stack.length := by
  unfold refusal? at refused
  split at refused
  · exact nomatch refused
  · next found =>
    split at refused
    · exact nomatch refused
    · next fresh =>
      split at refused
      · next full => exact ⟨Script.mem_taskNames_of_findTask? found, fresh, full⟩
      · exact nomatch refused

/-- Only calls can go too deep. -/
theorem not_tooDeep_of_noCall (noCall : ∀ target, r.action? owner command ≠ some (.tsk target)) :
    (r.executeCommand spawn owner command).1 ≠ .error (.tooDeep task limit) := by
  intro failed
  rw [executeCommand] at failed
  rcases r.action?_cases owner command with
    unknown | ⟨kind, known, missing⟩ | ⟨kind, action, known, ready⟩
  · rw [runCommand_of_unknown unknown] at failed
    cases failed
  · rw [runCommand_of_missing known missing] at failed
    cases failed
  · rw [runCommand_of_action known ready] at failed
    cases action with
    | tsk target => exact noCall target ready
    | run child => exact isExternal_of_runChild failed
    | del path => exact isExternal_of_deleteFile failed
    | ech line => exact isExternal_of_echo failed
    | var assigned value => cases failed

namespace Stage

/-- Something has ended because a call went too deep. -/
def IsTooDeep (a : Stage) : Prop :=
  ∃ task limit, a.focus = .ended (.error (.tooDeep task limit))

/-- If there is room for all tasks, no step goes too deep. -/
theorem InOrder.not_isTooDeep_advance (h : InOrder r a)
    (deep : r.stack.length + (r.script.idleNames r.stack).card ≤ r.settings.maxDepth)
    (fine : ¬ a.IsTooDeep) : ¬ (advance spawn a).IsTooDeep := by
  rintro ⟨task, limit, failed⟩
  obtain ⟨focus, waiting, s⟩ := a
  cases focus with
  | task name =>
    cases refused : s.refusal? name with
    | some fault =>
      rw [advance_of_refusal refused] at failed
      obtain rfl : fault = .tooDeep task limit := Except.error.inj (Focus.ended.inj failed)
      obtain ⟨declared, fresh, full⟩ := refusal?_eq_tooDeep refused
      -- the frame is that of the start, where there is room for one more
      rw [h.keeps.script] at declared
      rw [h.keeps.settings] at full
      exact absurd (h.stack_lt deep declared fresh) (Nat.not_lt.2 full)
    | none =>
      obtain ⟨⟨task, found⟩, -, -⟩ := refusal?_eq_none_iff.1 refused
      rw [advance_of_found refused found] at failed
      exact nomatch failed
  | command owner command =>
    by_cases isCall : ∃ target, s.action? owner command = some (.tsk target)
    · obtain ⟨target, ready⟩ := isCall
      rw [advance_of_call ready] at failed
      exact nomatch failed
    · have noCall := fun target ready => isCall ⟨target, ready⟩
      rw [advance_of_noCall noCall] at failed
      exact not_tooDeep_of_noCall noCall (Focus.ended.inj failed)
  | body owner commands =>
    cases commands with
    | nil => exact nomatch failed
    | cons command rest => exact nomatch failed
  | ended outcome =>
    -- what has ended before is handed on
    cases waiting with
    | nil => exact fine ⟨task, limit, failed⟩
    | cons frame waiting =>
      cases frame with
      | body owner rest =>
        cases outcome with
        | error fault =>
          obtain rfl : fault = .tooDeep task limit := Except.error.inj (Focus.ended.inj failed)
          exact fine ⟨task, limit, rfl⟩
        | ok message => exact nomatch failed
      | call target =>
        cases outcome with
        | error fault =>
          obtain rfl : fault = .tooDeep task limit := Except.error.inj (Focus.ended.inj failed)
          exact fine ⟨task, limit, rfl⟩
        | ok message => exact nomatch failed

theorem InOrder.not_isTooDeep_iterate (h : InOrder r a)
    (deep : r.stack.length + (r.script.idleNames r.stack).card ≤ r.settings.maxDepth)
    (fine : ¬ a.IsTooDeep) (n : Nat) : ¬ ((advance spawn)^[n] a).IsTooDeep := by
  induction n generalizing a with
  | zero => exact fine
  | succ n ih => exact ih h.step (h.not_isTooDeep_advance deep fine)

end Stage

/-- What a run that is in order comes to is not that a call went too deep. -/
theorem not_tooDeep_of_reaches {done : Outcome × Runner} (h : a.InOrder r)
    (deep : r.stack.length + (r.script.idleNames r.stack).card ≤ r.settings.maxDepth)
    (fine : ¬ a.IsTooDeep) (ends : Reaches spawn a (finish waiting done)) :
    done.1 ≠ .error (.tooDeep task limit) := by
  intro failed
  obtain ⟨n, last⟩ := ends
  have tooDeep : ((advance spawn)^[n] a).IsTooDeep := by
    refine ⟨task, limit, ?_⟩
    rw [last, finish, failed]
  exact h.not_isTooDeep_iterate deep fine n tooDeep

/-! ## The discipline of the stack -/

/-- How the task stack looks when a command is about to be carried out. -/
structure Disciplined (r : Runner) (owner : String) (command : Command) (stack : List String) :
    Prop where
  /-- No task is running twice. -/
  distinct : stack.Nodup
  /-- Only tasks of the script are running. -/
  declared : ∀ name ∈ stack, name ∈ r.script.taskNames
  /-- The innermost one is the task on whose behalf the command is carried out. -/
  top : stack.head? = some owner
  /-- The command is one of that task. -/
  owned : ∃ task, r.script.findTask? owner = some task ∧ command ∈ task.commands
  /-- At least one task is running. -/
  occupied : 1 ≤ stack.length
  /-- No more tasks are running than may. -/
  bounded : stack.length ≤ r.settings.maxDepth

/-- A command is taken from the task that goes on. -/
theorem focus_eq_body_of_advance
    (next : (advance spawn a).focus = .command owner command) :
    ∃ rest, a.focus = .body owner (command :: rest) ∧ (advance spawn a).runner = a.runner := by
  obtain ⟨focus, waiting, s⟩ := a
  -- from any other point a step leads to a task, to a body or to an end
  cases focus with
  | task name =>
    cases refused : s.refusal? name with
    | some fault =>
      rw [advance_of_refusal refused] at next
      exact nomatch next
    | none =>
      obtain ⟨⟨task, found⟩, -, -⟩ := refusal?_eq_none_iff.1 refused
      rw [advance_of_found refused found] at next
      exact nomatch next
  | command owner command =>
    by_cases isCall : ∃ target, s.action? owner command = some (.tsk target)
    · obtain ⟨target, ready⟩ := isCall
      rw [advance_of_call ready] at next
      exact nomatch next
    · rw [advance_of_noCall fun target ready => isCall ⟨target, ready⟩] at next
      exact nomatch next
  | body owner commands =>
    cases commands with
    | nil => exact nomatch next
    | cons command rest =>
      cases next
      exact ⟨rest, rfl, rfl⟩
  | ended outcome =>
    match waiting, outcome with
    | [], _ => exact nomatch next
    | .body _ _ :: _, .error _ => exact nomatch next
    | .body _ _ :: _, .ok _ => exact nomatch next
    | .call _ :: _, .error _ => exact nomatch next
    | .call _ :: _, .ok _ => exact nomatch next

/-- A command that a step comes to is the next one of a task that has been entered. -/
theorem Stage.InOrder.nested_of_advance (h : a.InOrder r)
    (next : (advance spawn a).focus = .command owner command) :
    ∃ rest, Nested r (.body owner (command :: rest) :: a.waiting) (advance spawn a).runner.stack := by
  rcases focus_eq_body_of_advance next with ⟨rest, goesOn, same⟩
  have nested := h.nested
  unfold Stage.frames at nested
  rw [goesOn, ← same] at nested
  exact ⟨rest, nested⟩

/-- At each command of a run that has begun with an empty stack, the stack is in order. -/
theorem Stage.InOrder.disciplined (h : a.InOrder r) (idle : r.stack = [])
    (next : (advance spawn a).focus = .command owner command) :
    Disciplined r owner command (advance spawn a).runner.stack := by
  obtain ⟨rest, nested⟩ := h.nested_of_advance next
  obtain ⟨under, stack, -, -, shallow, task, found, last⟩ := nested.of_body
  constructor
  · exact nested.nodup (idle ▸ List.nodup_nil)
  · intro name mem
    rw [nested.stack_eq, idle, List.append_nil] at mem
    exact List.mem_toFinset.1 (Finset.mem_sdiff.1 (nested.mem_idleNames mem)).1
  · rw [stack]
    rfl
  · exact ⟨task, found, last.subset List.mem_cons_self⟩
  · rw [stack]
    exact Nat.succ_pos _
  · rw [stack]
    exact shallow

/-- The steps of a run lead to its result, and the task stack is in order at each command that they
come to.  A command that the run itself was asked for is left out: it is the first thing to be carried
out, when no task has been entered. -/
def KeepsOrder (spawn : Spawn) (r : Runner) (focus : Focus) (done : Outcome × Runner) : Prop :=
  (∃ n, (advance spawn)^[n] (begin focus r) = finish [] done) ∧
    ∀ n owner command,
      ((advance spawn)^[n] (begin focus r)).focus = .command owner command →
      (focus = .command owner command → 0 < n) →
        Disciplined r owner command ((advance spawn)^[n] (begin focus r)).runner.stack

theorem keepsOrder_of_reaches {focus : Focus} {done : Outcome × Runner} (idle : r.stack = [])
    (outside : ∀ owner rest, focus ≠ .body owner rest)
    (ends : Reaches spawn (begin focus r) (finish [] done)) : KeepsOrder spawn r focus done := by
  refine ⟨ends, fun n owner command next later => ?_⟩
  cases n with
  | zero => exact absurd (later next) (Nat.lt_irrefl 0)
  | succ n =>
    rw [Function.iterate_succ_apply'] at next ⊢
    exact ((Stage.InOrder.start outside r).iterate n).disciplined idle next

/-- Every run leaves the task stack as it was.  If the stack is empty at the start, it is in order
at each command that the run comes to, other than one that the run itself was asked for; and if there
is room for as many tasks as the script has names, no call goes too deep. -/
theorem stack_discipline (spawn : Spawn) (r : Runner) :
    (∀ name, (r.executeTask spawn name).2.stack = r.stack) ∧
    (∀ owner command, (r.executeCommand spawn owner command).2.stack = r.stack) ∧
    (r.stack = [] →
      (∀ name, KeepsOrder spawn r (.task name) (r.executeTask spawn name)) ∧
      (∀ owner command,
        KeepsOrder spawn r (.command owner command) (r.executeCommand spawn owner command)) ∧
      (r.script.taskNames.toFinset.card ≤ r.settings.maxDepth → ∀ task limit,
        (∀ name, (r.executeTask spawn name).1 ≠ .error (.tooDeep task limit)) ∧
        ∀ owner command, (r.executeCommand spawn owner command).1 ≠
          .error (.tooDeep task limit))) := by
  refine ⟨?_, ?_, fun idle => ⟨?_, ?_, ?_⟩⟩
  · exact fun name => (executeTask_keeps spawn name r).stack
  · exact fun owner command => (executeCommand_keeps spawn owner command r).stack
  · exact fun name => keepsOrder_of_reaches idle (by simp) (reaches_executeTask spawn name [] r)
  · exact fun owner command =>
      keepsOrder_of_reaches idle (by simp) (reaches_executeCommand spawn owner command [] r)
  · intro room task limit
    have deep : r.stack.length + (r.script.idleNames r.stack).card ≤ r.settings.maxDepth := by
      simpa [idle, Script.idleNames] using room
    constructor
    · intro name
      exact not_tooDeep_of_reaches (Stage.InOrder.start (by simp) r) deep
        (by simp [Stage.IsTooDeep, begin]) (reaches_executeTask spawn name [] r)
    · intro owner command
      exact not_tooDeep_of_reaches (Stage.InOrder.start (by simp) r) deep
        (by simp [Stage.IsTooDeep, begin]) (reaches_executeCommand spawn owner command [] r)

/-- After five steps the command of the inner task is next, with both tasks on the stack. -/
theorem stack_of_errand :
    (fresh errand).stack = [] ∧
      ((advance noChild)^[5] (begin (.task "main") (fresh errand))).focus =
        .command "sub" ⟨"run", ["true"], 4⟩ ∧
      Disciplined (fresh errand) "sub" ⟨"run", ["true"], 4⟩ ["sub", "main"] ∧
      (fresh errand).script.taskNames.toFinset.card ≤ (fresh errand).settings.maxDepth ∧
      ((fresh errand).executeTask noChild "main").1 ≠ .error (.tooDeep "sub" 64) := by
  obtain ⟨-, -, started⟩ := stack_discipline noChild (fresh errand)
  obtain ⟨tasks, -, room⟩ := started rfl
  have order := (tasks "main").2 5 "sub" ⟨"run", ["true"], 4⟩ rfl (by simp)
  exact ⟨rfl, rfl, order, by decide, (room (by decide) "sub" 64).1 "main"⟩

/-- A script with a task that prints a line. -/
def notice : Script :=
  ⟨[], [⟨"t", [⟨"ech", ["x"], 2⟩], 1⟩]⟩

/-- A run of this script that has not begun, with an output that refuses everything. -/
def mute : Runner :=
  { fresh notice with console := .capture (.limited 0) .empty false }

/-- If the command is asked for, and not the task, the stack is empty when it is carried out.  Its task
is not the innermost, as no task is; and it is no task to which the failure is laid. -/
theorem stack_of_notice :
    mute.stack = [] ∧
      (begin (.command "t" ⟨"ech", ["x"], 2⟩) mute).focus = .command "t" ⟨"ech", ["x"], 2⟩ ∧
      (begin (.command "t" ⟨"ech", ["x"], 2⟩) mute).runner.stack.head? ≠ some "t" ∧
      ¬ 1 ≤ (begin (.command "t" ⟨"ech", ["x"], 2⟩) mute).runner.stack.length ∧
      (mute.executeCommand noChild "t" ⟨"ech", ["x"], 2⟩).1 =
        .error (.internal "" (.outputLost .full)) ∧
      (mute.executeTask noChild "t").1 = .error (.internal "t" (.outputLost .full)) := by
  refine ⟨rfl, rfl, ?_, ?_, ?_, ?_⟩
  -- where the stack is empty
  · decide
  · decide
  -- and what comes of it
  · decide +kernel
  · decide +kernel

end Runner
end TaskScript
