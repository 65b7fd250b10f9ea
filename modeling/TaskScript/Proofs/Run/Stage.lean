import Mathlib.Logic.Function.Iterate
import TaskScript.Proofs.Run.Moment

/-!
# Stage — a run, one step after the other

`executeTask` and `executeCommand` call each other.  Here the calls under way are kept as a list, so
that each step of a run does one thing and nothing limits how deep the calls may go.

- `Runner.Stage`      : what is done next, what awaits its end, and the state
- `Runner.advance`    : one step
- `Runner.Reaches`    : some number of steps leads from one stage to another
- `Runner.reaches_executeTask`, `Runner.reaches_executeCommand` : the steps end, and with the result
  of the run

That the steps end is shown by induction on the room of a state and, within a task, on the commands
that are left.
-/

namespace TaskScript
namespace Runner

/-! ## Steps -/

/-- What is done next. -/
inductive Focus
  /-- A task is invoked by name. -/
  | task (name : String)
  /-- A command is carried out on behalf of a task. -/
  | command (owner : String) (command : Command)
  /-- A task that has been entered goes on with the commands that are left. -/
  | body (owner : String) (rest : List Command)
  /-- A task or a command has ended. -/
  | ended (outcome : Outcome)

/-- What awaits the end of something else. -/
inductive Frame
  /-- A task awaits one of its commands, and goes on with the rest. -/
  | body (owner : String) (rest : List Command)
  /-- A command awaits the task that it calls. -/
  | call (target : String)

/-- A run between two steps: what awaits is kept with the innermost first. -/
structure Stage where
  focus : Focus
  waiting : List Frame
  runner : Runner

/-- The beginning of a run. -/
def begin (focus : Focus) (r : Runner) : Stage :=
  ⟨focus, [], r⟩

/-- Something has ended. -/
def finish (waiting : List Frame) (done : Outcome × Runner) : Stage :=
  ⟨.ended done.1, waiting, done.2⟩

/-- For commands that invoke no task. -/
def noTask : Invoke :=
  fun _ r => (.ok none, r)

/-- One step of a run.  A run that has ended stays as it is. -/
def advance (spawn : Spawn) : Stage → Stage
  | ⟨.task name, waiting, r⟩ =>
    match r.refusal? name with
    | some fault => finish waiting (.error fault, r)
    | none => ⟨.body name ((r.script.findTask? name).elim [] Task.commands), waiting, r.enter name⟩
  | ⟨.command owner command, waiting, r⟩ =>
    match r.action? owner command with
    | some (.tsk target) => ⟨.task target, .call target :: waiting, r.calling owner command target⟩
    | _ => finish waiting (r.runCommand spawn noTask owner command)
  | ⟨.body owner [], waiting, r⟩ => finish waiting (leave owner (none, r))
  | ⟨.body owner (command :: rest), waiting, r⟩ =>
    ⟨.command owner command, .body owner rest :: waiting, r⟩
  | ⟨.ended outcome, [], r⟩ => finish [] (outcome, r)
  | ⟨.ended (.error fault), .body owner _ :: waiting, r⟩ =>
    finish waiting (leave owner (some fault, r))
  | ⟨.ended (.ok _), .body owner rest :: waiting, r⟩ => ⟨.body owner rest, waiting, r⟩
  | ⟨.ended outcome, .call target :: waiting, r⟩ =>
    finish waiting (r.invokeTask (fun _ s => (outcome, s)) target)

/-- Some number of steps leads from one stage to another. -/
def Reaches (spawn : Spawn) (a b : Stage) : Prop :=
  ∃ n, (advance spawn)^[n] a = b

variable {spawn : Spawn} {r s : Runner} {name owner target : String} {command : Command}
  {rest : List Command} {waiting : List Frame} {a b c : Stage}

theorem Reaches.refl (a : Stage) : Reaches spawn a a :=
  ⟨0, rfl⟩

theorem Reaches.trans (h : Reaches spawn a b) (h' : Reaches spawn b c) : Reaches spawn a c := by
  obtain ⟨m, rfl⟩ := h
  obtain ⟨n, rfl⟩ := h'
  exact ⟨n + m, Function.iterate_add_apply _ n m a⟩

/-- A step, and then some more. -/
theorem Reaches.head (h : Reaches spawn (advance spawn a) b) : Reaches spawn a b := by
  obtain ⟨n, rfl⟩ := h
  exact ⟨n + 1, rfl⟩

/-! ## Steps and runs -/

/-- How tasks are invoked matters only to calls. -/
theorem runCommand_of_noCall (noCall : ∀ target, r.action? owner command ≠ some (.tsk target))
    (invoke invoke' : Invoke) :
    r.runCommand spawn invoke owner command = r.runCommand spawn invoke' owner command := by
  rcases r.action?_cases owner command with
    unknown | ⟨kind, known, missing⟩ | ⟨kind, action, known, ready⟩
  · rw [runCommand_of_unknown unknown, runCommand_of_unknown unknown]
  · rw [runCommand_of_missing known missing, runCommand_of_missing known missing]
  · rw [runCommand_of_action known ready, runCommand_of_action known ready]
    cases action with
    | tsk target => exact absurd ready (noCall target)
    | run child => rfl
    | del path => rfl
    | ech line => rfl
    | var assigned value => rfl

theorem advance_of_refusal {fault : RunFault} (refused : r.refusal? name = some fault) :
    advance spawn ⟨.task name, waiting, r⟩ = finish waiting (.error fault, r) := by
  simp only [advance, refused]

theorem advance_of_found {task : Task} (free : r.refusal? name = none)
    (found : r.script.findTask? name = some task) :
    advance spawn ⟨.task name, waiting, r⟩ = ⟨.body name task.commands, waiting, r.enter name⟩ := by
  simp only [advance, free, found, Option.elim]

theorem advance_of_call (ready : r.action? owner command = some (.tsk target)) :
    advance spawn ⟨.command owner command, waiting, r⟩ =
      ⟨.task target, .call target :: waiting, r.calling owner command target⟩ := by
  simp only [advance, ready]

theorem advance_of_noCall (noCall : ∀ target, r.action? owner command ≠ some (.tsk target)) :
    advance spawn ⟨.command owner command, waiting, r⟩ =
      finish waiting (r.executeCommand spawn owner command) := by
  rw [executeCommand, runCommand_of_noCall noCall _ noTask]
  unfold advance
  dsimp only
  split
  · next target ready => exact absurd ready (noCall target)
  · rfl

/-- What a call is told is what the called task has come to. -/
theorem invokeTask_finished (invoke : Invoke) (r : Runner) (target : String) :
    (invoke target r).2.invokeTask (fun _ s => ((invoke target r).1, s)) target =
      r.invokeTask invoke target := by
  cases done : invoke target r with
  | mk outcome s =>
    unfold invokeTask
    rw [done]

/-- A command ends if the task that it calls does, with the result that it has in a run. -/
theorem reaches_command
    (below : ∀ target waiting, r.action? owner command = some (.tsk target) →
      Reaches spawn ⟨.task target, waiting, r.calling owner command target⟩
        (finish waiting ((r.calling owner command target).executeTask spawn target))) :
    Reaches spawn ⟨.command owner command, waiting, r⟩
      (finish waiting (r.executeCommand spawn owner command)) := by
  by_cases isCall : ∃ target, r.action? owner command = some (.tsk target)
  · obtain ⟨target, ready⟩ := isCall
    refine Reaches.head ?_
    rw [advance_of_call ready, executeCommand_of_call ready]
    refine (below target (.call target :: waiting) ready).trans (Reaches.head ?_)
    have told := invokeTask_finished (fun name s => s.executeTask spawn name)
      (r.calling owner command target) target
    rw [← told]
    exact Reaches.refl _
  · refine Reaches.head ?_
    rw [advance_of_noCall fun target ready => isCall ⟨target, ready⟩]
    exact Reaches.refl _

/-- The commands of a task end if the tasks that they call do, with the result that they have in a
run. -/
theorem reaches_body {commands : List Command}
    (below : ∀ command target t waiting, Keeps s t →
      t.action? owner command = some (.tsk target) →
      Reaches spawn ⟨.task target, waiting, t.calling owner command target⟩
        (finish waiting ((t.calling owner command target).executeTask spawn target))) :
    Reaches spawn ⟨.body owner commands, waiting, s⟩
      (finish waiting (leave owner
        (runCommands spawn (fun target t => t.executeTask spawn target) owner commands s))) := by
  induction commands generalizing s with
  | nil => exact Reaches.head (Reaches.refl _)
  | cons command rest ih =>
    have first : Reaches spawn ⟨.command owner command, .body owner rest :: waiting, s⟩
        (finish (.body owner rest :: waiting) (s.executeCommand spawn owner command)) :=
      reaches_command fun target waiting ready =>
        below command target s waiting (Keeps.refl s) ready
    refine Reaches.head (first.trans (Reaches.head ?_))
    cases done : s.executeCommand spawn owner command with
    | mk outcome t =>
      cases outcome with
      | error fault =>
        rw [runCommands_error done]
        exact Reaches.refl _
      | ok message =>
        rw [runCommands_ok done]
        have kept := keeps_of_executeCommand done
        exact ih fun command target u waiting kept' =>
          below command target u waiting (kept.trans kept')

/-- The steps of a task come to an end, whatever awaits it, with the result of its run. -/
theorem reaches_executeTask (spawn : Spawn) (name : String) (waiting : List Frame) (r : Runner) :
    Reaches spawn ⟨.task name, waiting, r⟩ (finish waiting (r.executeTask spawn name)) := by
  induction h : r.room using Nat.strongRecOn generalizing r name waiting with
  | _ room ih =>
    refine Reaches.head ?_
    cases refused : r.refusal? name with
    | some fault =>
      rw [advance_of_refusal refused, executeTask_of_refusal refused]
      exact Reaches.refl _
    | none =>
      obtain ⟨⟨task, found⟩, -, -⟩ := refusal?_eq_none_iff.1 refused
      rw [advance_of_found refused found, executeTask_of_found refused found]
      refine reaches_body fun command target t waiting kept ready => ?_
      -- entering the task has used up room, and no command gives it back
      have less : (t.calling name command target).room < room := by
        rw [room_of_keeps (kept.trans (calling_keeps t name command target)), ← h]
        exact room_enter_lt refused
      exact ih _ less _ _ _ rfl

/-- The steps of a command come to an end, whatever awaits it, with the result of its run. -/
theorem reaches_executeCommand (spawn : Spawn) (owner : String) (command : Command)
    (waiting : List Frame) (r : Runner) :
    Reaches spawn ⟨.command owner command, waiting, r⟩
      (finish waiting (r.executeCommand spawn owner command)) :=
  reaches_command fun target waiting _ => reaches_executeTask spawn target waiting _

end Runner
end TaskScript
