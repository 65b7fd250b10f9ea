import TaskScript.Proofs.Run.Frame

/-!
# Entry — how tasks are entered and left

`runTask` counts how many tasks may still be entered.  Since each command leaves the task stack as
it was, the count is always the one that the current state gives, and `executeTask` obeys an
equation of its own:

- `Runner.refusal?`             : why a task may not be entered
- `Runner.executeTask_of_refusal`, `Runner.executeTask_of_found` : the two cases of the equation
- `Runner.room_enter_lt`        : entering uses up room, so that runs can be followed by induction
-/

namespace TaskScript
namespace Runner

/-- Why a task may not be entered, if it may not. -/
def refusal? (r : Runner) (name : String) : Option RunFault :=
  match r.script.findTask? name with
  | none => some (.taskNotFound name)
  | some _ =>
    if name ∈ r.stack then
      some (.cyclic (r.stack.reverse ++ [name]))
    else if r.settings.maxDepth ≤ r.stack.length then
      some (.tooDeep name r.settings.maxDepth)
    else
      none

/-- The state in which the commands of a task begin. -/
def enter (r : Runner) (name : String) : Runner :=
  (r.pushTask name).note .info ("Running task: " ++ name)

/-- What a task reports whose commands have all been carried out. -/
def completed (name : String) : String :=
  "Task " ++ quoted name ++ " completed successfully"

/-- Leave a task after its commands have been carried out or one has failed. -/
def leave (name : String) : Option RunFault × Runner → Outcome × Runner
  | (some fault, r) => (.error fault, r.popTask)
  | (none, r) =>
    (.ok (some (completed name)), r.popTask.note .debug ("Task completed: " ++ name))

variable {spawn : Spawn} {invoke invoke' : Invoke} {r s : Runner} {name owner : String}

@[simp] theorem enter_settings : (r.enter name).settings = r.settings := rfl

@[simp] theorem enter_stack : (r.enter name).stack = name :: r.stack := rfl

/-- A task is entered if it is declared, is not running and not too many others are. -/
theorem refusal?_eq_none_iff :
    r.refusal? name = none ↔
      (∃ task, r.script.findTask? name = some task) ∧ name ∉ r.stack ∧
        r.stack.length < r.settings.maxDepth := by
  unfold refusal?
  cases r.script.findTask? name with
  | none => simp
  | some task =>
    by_cases running : name ∈ r.stack
    · simp [running]
    · by_cases deep : r.settings.maxDepth ≤ r.stack.length
      · simp [running, deep, Nat.not_lt.2 deep]
      · simp [running, deep, Nat.not_le.1 deep]

theorem refusal?_of_keeps (h : Keeps r s) : s.refusal? name = r.refusal? name := by
  simp only [refusal?, h.script, h.settings, h.stack]

theorem room_of_keeps (h : Keeps r s) : s.room = r.room := by
  simp only [room, h.settings, h.stack]

/-- Entering a task uses up room. -/
theorem room_enter (free : r.refusal? name = none) : r.room = (r.enter name).room + 1 := by
  obtain ⟨-, -, shallow⟩ := refusal?_eq_none_iff.1 free
  simp only [room, enter_settings, enter_stack, List.length_cons]
  omega

theorem room_enter_lt (free : r.refusal? name = none) : (r.enter name).room < r.room := by
  rw [room_enter free]
  exact Nat.lt_succ_self _

/-! ## Commands and the way in which tasks are invoked -/

theorem calling_keeps (r : Runner) (owner : String) (command : Command) (target : String) :
    Keeps r (r.calling owner command target) :=
  Keeps.prepared r owner command .tsk (.tsk target)

theorem runCommands_cons (spawn : Spawn) (invoke : Invoke) (owner : String) (command : Command)
    (rest : List Command) (r : Runner) :
    runCommands spawn invoke owner (command :: rest) r =
      match r.runCommand spawn invoke owner command with
      | (.error fault, s) => (some fault, s)
      | (.ok _, s) => runCommands spawn invoke owner rest s := rfl

/-- A command depends on how tasks are invoked only if it calls one, and then in one state. -/
theorem runCommand_congr {command : Command}
    (same : ∀ target s, Keeps r s → invoke target s = invoke' target s) :
    r.runCommand spawn invoke owner command = r.runCommand spawn invoke' owner command := by
  rcases r.action?_cases owner command with
    unknown | ⟨kind, known, missing⟩ | ⟨kind, action, known, ready⟩
  · rw [runCommand_of_unknown unknown, runCommand_of_unknown unknown]
  · rw [runCommand_of_missing known missing, runCommand_of_missing known missing]
  · rw [runCommand_of_action known ready, runCommand_of_action known ready]
    have kept := Keeps.prepared r owner command kind action
    cases action with
    | tsk target => rw [perform, perform, invokeTask, invokeTask, same target _ kept]
    | run child => rfl
    | del path => rfl
    | ech line => rfl
    | var assigned value => rfl

/-- Commands are carried out alike if tasks are invoked alike in all states that they come to. -/
theorem runCommands_congr (keeps : ∀ target s, Keeps s (invoke target s).2)
    (commands : List Command) (r : Runner)
    (same : ∀ target s, Keeps r s → invoke target s = invoke' target s) :
    runCommands spawn invoke owner commands r = runCommands spawn invoke' owner commands r := by
  induction commands generalizing r with
  | nil => rfl
  | cons command rest ih =>
    have first := (sustained_keeps spawn).runCommand keeps r owner command
    rw [runCommands_cons, runCommands_cons, ← runCommand_congr same]
    split
    · rfl
    · next found =>
      rw [found] at first
      exact ih _ fun target s h => same target s (first.trans h)

/-! ## The equation of a task -/

theorem executeTask_keeps (spawn : Spawn) (name : String) (r : Runner) :
    Keeps r (r.executeTask spawn name).2 :=
  (sustained_keeps spawn).executeTask name r

theorem executeCommand_keeps (spawn : Spawn) (owner : String) (command : Command) (r : Runner) :
    Keeps r (r.executeCommand spawn owner command).2 :=
  (sustained_keeps spawn).executeCommand owner command r

theorem keeps_of_executeCommand {command : Command} {outcome : Outcome}
    (done : r.executeCommand spawn owner command = (outcome, s)) : Keeps r s := by
  have kept := executeCommand_keeps spawn owner command r
  rwa [done] at kept

/-- A task that is refused fails with the reason, and nothing happens. -/
theorem executeTask_of_refusal {fault : RunFault} (refused : r.refusal? name = some fault) :
    r.executeTask spawn name = (.error fault, r) := by
  unfold refusal? at refused
  unfold executeTask room runTask
  cases found : r.script.findTask? name with
  | none =>
    rw [found] at refused
    rw [Option.some.inj refused]
  | some task =>
    rw [found] at refused
    dsimp only at refused ⊢
    split at refused
    · next running =>
      rw [if_pos running, Option.some.inj refused]
    · next idle =>
      rw [if_neg idle]
      split at refused
      · next deep =>
        rw [Nat.sub_eq_zero_of_le deep]
        exact congrArg (fun f => (Except.error f, r)) (Option.some.inj refused)
      · cases refused

/-- A task that is entered carries out its commands, in which tasks are executed likewise. -/
theorem executeTask_of_found {task : Task} (free : r.refusal? name = none)
    (found : r.script.findTask? name = some task) :
    r.executeTask spawn name =
      leave name (runCommands spawn (fun target s => s.executeTask spawn target) name
        task.commands (r.enter name)) := by
  obtain ⟨-, idle, -⟩ := refusal?_eq_none_iff.1 free
  -- below the task, the count is the room of every state, since none of them changes the stack
  have same : ∀ target s, Keeps (r.enter name) s →
      s.runTask spawn (r.enter name).room target = s.executeTask spawn target := by
    intro target s h
    rw [executeTask, room_of_keeps h]
  have body :
      runCommands spawn (runTask spawn (r.enter name).room) name task.commands (r.enter name) =
        runCommands spawn (fun target s => s.executeTask spawn target) name task.commands
          (r.enter name) :=
    runCommands_congr (fun target s => (sustained_keeps spawn).runTask _ target s) _ _ same
  rw [← body, executeTask, room_enter free]
  unfold runTask
  rw [found]
  simp only [idle, if_false]
  rfl

/-! ## A state to begin with, systems and a sink -/

/-- Settings in which nothing is out of the ordinary, but for an environment that is empty. -/
def plain : Settings :=
  { workingDir := .ofString "/", interpreter := defaultInterpreter, maxDepth := defaultMaxDepth,
    strict := true, verbosity := .normal, environment := fun _ => none }

/-- A run of a script that has not begun, on an empty store, with sinks that take everything. -/
def fresh (script : Script) : Runner :=
  .start script plain (.capture .empty .empty false) (.empty [])

/-- A system on which no program is found. -/
def noChild : Spawn :=
  fun _ _ => .error .notFound

/-- Children that write one byte to the errors and do nothing else. -/
def noise : Spawn :=
  fun _ store => .ok ⟨.exited 0, .empty, ⟨#[10]⟩, store⟩

end Runner

/-- A sink with room for some pieces. -/
def Sink.limited (room : Nat) : Sink :=
  ⟨[], fun log _ => if log.length < room then none else some ⟨0, .full⟩⟩

end TaskScript
