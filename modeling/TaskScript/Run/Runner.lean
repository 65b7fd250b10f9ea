import TaskScript.Console
import TaskScript.Fault
import TaskScript.Reference.Passes
import TaskScript.Run.Child
import TaskScript.Script.Basic

/-!
# Runner — the state of a run

- `Settings` : what a run is told beforehand
- `Action`   : a command with its references resolved
- `Runner`   : the script, the settings, and everything that commands may change
- `Runner.resolve` : the text that a task sees in place of another one

The task stack is kept with the innermost task first.  The journal tells which commands have been
carried out, the latest first.
-/

namespace TaskScript

/-- What a run is told beforehand. -/
structure Settings where
  /-- Where children run and relative paths start. -/
  workingDir : Path
  /-- The program that carries out commands, and its first arguments. -/
  interpreter : List String
  /-- How many tasks may be running at once. -/
  maxDepth : Nat
  /-- Whether an unsuccessful child process is a failure. -/
  strict : Bool
  verbosity : Verbosity
  /-- What environment references stand for. -/
  environment : String → Option String

/-- The interpreter unless another one is chosen. -/
def defaultInterpreter : List String := ["sh", "-c"]

/-- How many tasks may be running at once unless told otherwise. -/
def defaultMaxDepth : Nat := 64

/-- What a command does, its references resolved. -/
inductive Action
  /-- Start a child process. -/
  | run (command : String)
  /-- Delete a file. -/
  | del (path : String)
  /-- Print a line. -/
  | ech (line : String)
  /-- Run another task. -/
  | tsk (target : String)
  /-- Assign a runtime variable. -/
  | var (name value : String)
  deriving DecidableEq, Repr

/-- The action of a keyword with its arguments, none if there are too few.  Further arguments count
for nothing, and the name that is assigned to is taken literally. -/
def Action.ofArgs? (resolve : String → String) : Keyword → List String → Option Action
  | .run, command :: _ => some (run (resolve command))
  | .del, path :: _ => some (del (resolve path))
  | .ech, line :: _ => some (ech (resolve line))
  | .tsk, target :: _ => some (tsk (resolve target))
  | .var, name :: value :: _ => some (var name (resolve value))
  | _, _ => none

theorem Action.ofArgs?_eq_none_iff {resolve : String → String} {kind : Keyword}
    {args : List String} : ofArgs? resolve kind args = none ↔ args.length < kind.arity := by
  match kind, args with
  | .run, [] | .run, _ :: _ => simp [ofArgs?, Keyword.arity]
  | .del, [] | .del, _ :: _ => simp [ofArgs?, Keyword.arity]
  | .ech, [] | .ech, _ :: _ => simp [ofArgs?, Keyword.arity]
  | .tsk, [] | .tsk, _ :: _ => simp [ofArgs?, Keyword.arity]
  | .var, [] | .var, [_] | .var, _ :: _ :: _ => simp [ofArgs?, Keyword.arity]

/-- A command that was carried out: the running tasks at that moment, the innermost first, the task
on whose behalf, the command and what it did. -/
structure Dispatch where
  stack : List String
  owner : String
  command : Command
  action : Action
  deriving DecidableEq, Repr

/-- The state of a run. -/
structure Runner where
  script : Script
  settings : Settings
  /-- The positional arguments registered for each task. -/
  positional : Bindings (List String)
  /-- The arguments given by name. -/
  named : Bindings String
  /-- The variables assigned while running. -/
  runtime : Bindings String
  /-- The tasks that are running, the innermost first. -/
  stack : List String
  /-- The commands carried out, the latest first. -/
  journal : List Dispatch
  console : Console
  store : Store

/-- What a command or a task reports: a message, which may be absent, or a fault. -/
abbrev Outcome := Except RunFault (Option String)

namespace Runner

/-- A run that has not begun. -/
def start (script : Script) (settings : Settings) (console : Console) (store : Store) : Runner :=
  { script, settings, positional := .empty, named := .empty, runtime := .empty, stack := [],
    journal := [], console, store }

/-! ## Arguments and variables -/

/-- Register the positional arguments of a task. -/
def setTaskArgs (r : Runner) (task : String) (args : List String) : Runner :=
  { r with positional := r.positional.set task args }

/-- Replace all named arguments. -/
def setNamedArgs (r : Runner) (args : Bindings String) : Runner :=
  { r with named := args }

/-- Assign a runtime variable. -/
def setVar (r : Runner) (name value : String) : Runner :=
  { r with runtime := r.runtime.set name value }

/-- What references stand for, as seen from a task. -/
def scope (r : Runner) (task : String) : Scope :=
  { positional := (r.positional.get? task).getD []
    named := r.named
    declared := r.script.declared
    runtime := r.runtime
    environment := r.settings.environment }

/-- Resolve the references in a text, as seen from a task. -/
def resolve (r : Runner) (task text : String) : String :=
  Reference.resolve (r.scope task) text

/-! ## The task stack -/

/-- Note that a task has been entered. -/
def pushTask (r : Runner) (task : String) : Runner :=
  { r with stack := task :: r.stack }

/-- Note that the innermost task has been left. -/
def popTask (r : Runner) : Runner :=
  { r with stack := r.stack.tail }

/-- The innermost task. -/
def currentTask? (r : Runner) : Option String :=
  r.stack.head?

/-! ## Diagnostics -/

/-- Print a diagnostic. -/
def note (r : Runner) (level : Level) (message : String) : Runner :=
  { r with console := r.console.diagnose r.settings.verbosity level message }

end Runner
end TaskScript
