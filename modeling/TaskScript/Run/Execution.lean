import TaskScript.Run.Effects

/-!
# Execution — carrying out tasks and commands

A task carries out its commands in order and ends with the first that fails.  Tasks invoked by its
commands share the variables and the named arguments.

- `Runner.prepare`        : the action of a command
- `Runner.runCommand`     : one command, given how tasks are invoked
- `Runner.runTask`        : one task, given how many tasks may still be entered
- `Runner.executeTask`, `Runner.executeCommand` : the same from the current state

The number of tasks that may still be entered decreases with each entry, so that runs end.
-/

namespace TaskScript
namespace Runner

/-! ## Commands -/

/-- Check the number of arguments and resolve those that are consumed. -/
def prepare (r : Runner) (owner : String) (command : Command) (kind : Keyword) :
    Except RunFault Action × Runner :=
  match Action.ofArgs? (r.resolve owner) kind command.args with
  | none =>
    (.error (.internal owner
      (.missingArguments command.keyword kind.arity command.args.length)), r)
  | some action =>
    (.ok action,
      if kind.arity < command.args.length then
        r.note .debug ("Ignoring extra arguments of '" ++ command.keyword ++ "' command")
      else
        r)

/-- How tasks are invoked by name. -/
abbrev Invoke := String → Runner → Outcome × Runner

/-- Invoke another task. -/
def invokeTask (invoke : Invoke) (r : Runner) (target : String) : Outcome × Runner :=
  match invoke target r with
  | (.ok _, r) => (.ok (some ("Subtask " ++ quoted target ++ " finished")), r)
  | (.error fault, r) => (.error fault, r)

/-- Carry out an action. -/
def perform (spawn : Spawn) (invoke : Invoke) (r : Runner) : Action → Outcome × Runner
  | .run command => r.runChild spawn command
  | .del path => r.deleteFile path
  | .ech line => r.echo line
  | .tsk target => r.invokeTask invoke target
  | .var name value => r.assign name value

/-- Carry out a command on behalf of a task. -/
def runCommand (spawn : Spawn) (invoke : Invoke) (owner : String) (command : Command) (r : Runner) :
    Outcome × Runner :=
  match command.kind? with
  | none => (.error (.unknownCommand command.keyword), r)
  | some kind =>
    match r.prepare owner command kind with
    | (.error fault, r) => (.error fault, r)
    | (.ok action, r) =>
      { r with journal := ⟨r.stack, owner, command, action⟩ :: r.journal }.perform spawn invoke
        action

/-- Carry out commands on behalf of a task until one fails. -/
def runCommands (spawn : Spawn) (invoke : Invoke) (owner : String) :
    List Command → Runner → Option RunFault × Runner
  | [], r => (none, r)
  | command :: rest, r =>
    match r.runCommand spawn invoke owner command with
    | (.error fault, r) => (some fault, r)
    | (.ok _, r) => runCommands spawn invoke owner rest r

/-! ## Tasks -/

/-- Run a task by name; `room` is the number of tasks that may still be entered. -/
def runTask (spawn : Spawn) (room : Nat) (name : String) (r : Runner) : Outcome × Runner :=
  match r.script.findTask? name with
  | none => (.error (.taskNotFound name), r)
  | some task =>
    if name ∈ r.stack then
      (.error (.cyclic (r.stack.reverse ++ [name])), r)
    else
      match room with
      | 0 => (.error (.tooDeep name r.settings.maxDepth), r)
      | room + 1 =>
        let r := (r.pushTask name).note .info ("Running task: " ++ name)
        match runCommands spawn (runTask spawn room) name task.commands r with
        | (some fault, r) => (.error fault, r.popTask)
        | (none, r) =>
          (.ok (some ("Task " ++ quoted name ++ " completed successfully")),
            r.popTask.note .debug ("Task completed: " ++ name))

/-- The number of tasks that may still be entered. -/
def room (r : Runner) : Nat := r.settings.maxDepth - r.stack.length

/-- Run a task by name. -/
def executeTask (spawn : Spawn) (name : String) (r : Runner) : Outcome × Runner :=
  r.runTask spawn r.room name

/-- Carry out a command on behalf of a task. -/
def executeCommand (spawn : Spawn) (owner : String) (command : Command) (r : Runner) :
    Outcome × Runner :=
  r.runCommand spawn (fun name r => r.executeTask spawn name) owner command

end Runner
end TaskScript
