import TaskScript.SystemError

/-!
# Fault — what can go wrong with a script and with a run

- `ScriptFault` : a script cannot be found, read or accepted
- `RunFault`    : a command or a task has failed
- `RunFault.kind` : the category under which a failure is reported

The causes are data; the wording stands in `ScriptFault.message` and `RunFault.message` alone.
-/

namespace TaskScript

/-- Names joined by arrows, as cycles are reported. -/
def arrowPath (names : List String) : String :=
  " -> ".intercalate names

/-! ## Faults of scripts -/

/-- Why a script cannot be used. -/
inductive ScriptFault
  /-- None of the paths searched is a file. -/
  | notFound (searched : List String)
  /-- The file cannot be read. -/
  | unreadable (path : String) (cause : SystemError)
  /-- The configuration is wrong for some other reason. -/
  | invalid (detail : String)
  /-- A second task of the same name, declared at `line`. -/
  | duplicateTask (name : String) (line : Nat)
  /-- A command whose keyword is not known. -/
  | unknownKeyword (task keyword : String) (line : Nat)
  /-- A command with fewer arguments than it consumes. -/
  | missingArguments (task keyword : String) (expected found line : Nat)
  /-- A reference to a task that is not declared. -/
  | undefinedTask (name : String)
  /-- Tasks that invoke each other in a circle; the last name is one of the earlier ones. -/
  | circular (path : List String)
  deriving DecidableEq, Repr

/-- The wording of a script fault. -/
def ScriptFault.message : ScriptFault → String
  | notFound searched =>
    "Failed to find script file (searched: " ++ ", ".intercalate searched ++ ")"
  | unreadable path cause => "Failed to read script file '" ++ path ++ "': " ++ cause.text
  | invalid detail => "Invalid configuration: " ++ detail
  | duplicateTask name line =>
    "Task '" ++ name ++ "' is defined more than once (line " ++ toString line ++ ")"
  | unknownKeyword task keyword line =>
    "Unknown command '" ++ keyword ++ "' in task '" ++ task ++ "' (line " ++ toString line ++ ")"
  | missingArguments task keyword expected found line =>
    "Command '" ++ keyword ++ "' in task '" ++ task ++ "' expects " ++ toString expected ++
      " argument(s), found " ++ toString found ++ " (line " ++ toString line ++ ")"
  | undefinedTask name => "Task '" ++ name ++ "' is not defined"
  | circular path => "Circular dependency detected: " ++ arrowPath path

/-! ## Faults of runs -/

/-- Why a child process did not start. -/
inductive StartFailure
  /-- The interpreter is the empty list. -/
  | noInterpreter
  /-- The system refused. -/
  | refused (cause : SystemError)
  deriving DecidableEq, Repr

/-- The wording of a start failure. -/
def StartFailure.text : StartFailure → String
  | noInterpreter => "no interpreter configured"
  | refused cause => cause.text

/-- Why a command failed that was itself in order. -/
inductive Mishap
  /-- The command has fewer arguments than its keyword consumes. -/
  | missingArguments (keyword : String) (expected found : Nat)
  /-- The output could not be written. -/
  | outputLost (cause : SystemError)
  /-- Any other mishap, in its own words. -/
  | other (words : String)
  deriving DecidableEq, Repr

/-- The wording of a mishap. -/
def Mishap.text : Mishap → String
  | missingArguments keyword expected found =>
    "command '" ++ keyword ++ "' expects " ++ toString expected ++ " argument(s), found " ++
      toString found
  | outputLost cause => "failed to write output: " ++ cause.text
  | other words => words

/-- Why a command or a task failed. -/
inductive RunFault
  /-- There is no task of this name. -/
  | taskNotFound (name : String)
  /-- The keyword of the command is not known. -/
  | unknownCommand (keyword : String)
  /-- The child process did not start. -/
  | notStarted (command : String) (cause : StartFailure)
  /-- The child process ended without success, and that counts; `code` is absent after a signal. -/
  | unsuccessful (command : String) (code : Option Int)
  /-- The file was not deleted. -/
  | notDeleted (path : String) (cause : SystemError)
  /-- The task is already running; the path leads from the outermost task to it. -/
  | cyclic (path : List String)
  /-- As many tasks are running as may. -/
  | tooDeep (task : String) (limit : Nat)
  /-- A command of a task met a mishap. -/
  | internal (task : String) (mishap : Mishap)
  deriving DecidableEq, Repr

/-- A text between straight double quotes. -/
def quoted (text : String) : String :=
  "\"" ++ text ++ "\""

/-- The wording of an exit code that may be absent. -/
def exitCodeText : Option Int → String
  | some code => "Some(" ++ toString code ++ ")"
  | none => "None"

/-- The wording of a run fault. -/
def RunFault.message : RunFault → String
  | taskNotFound name => "Task " ++ quoted name ++ " not found"
  | unknownCommand keyword => "Unknown command: " ++ keyword
  | notStarted command cause =>
    "Failed to execute command " ++ quoted command ++ ": " ++ cause.text
  | unsuccessful command code =>
    "Command " ++ quoted command ++ " exited with status " ++ exitCodeText code
  | notDeleted path cause => "Failed to delete " ++ quoted path ++ ": " ++ cause.text
  | cyclic path => "Cyclic task invocation: " ++ arrowPath path
  | tooDeep task limit =>
    "Task " ++ quoted task ++ " exceeds the maximum call depth of " ++ toString limit
  | internal task mishap => "Error in task " ++ quoted task ++ ": " ++ mishap.text

/-- The categories of failures. -/
inductive FaultKind
  | taskNotFound
  | unknownCommand
  | commandExecution
  | fileDelete
  | internal
  | cyclicInvocation
  | nonZeroExit
  deriving DecidableEq, Repr

/-- The category of a run fault.  Too deep an invocation counts as a cyclic one. -/
def RunFault.kind : RunFault → FaultKind
  | taskNotFound _ => .taskNotFound
  | unknownCommand _ => .unknownCommand
  | notStarted _ _ => .commandExecution
  | unsuccessful _ _ => .nonZeroExit
  | notDeleted _ _ => .fileDelete
  | cyclic _ => .cyclicInvocation
  | tooDeep _ _ => .cyclicInvocation
  | internal _ _ => .internal

/-! ## Faults with their origin -/

/-- A fault of any origin. -/
inductive Fault
  | script (fault : ScriptFault)
  | run (fault : RunFault)
  | io (cause : SystemError)
  deriving DecidableEq, Repr

/-- The wording of a fault, with its origin in front. -/
def Fault.message : Fault → String
  | script fault => "Configuration error: " ++ fault.message
  | run fault => "Execution error: " ++ fault.message
  | io cause => "I/O error: " ++ cause.text

end TaskScript
