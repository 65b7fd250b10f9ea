import TaskScript.Fault
import TaskScript.Script.Basic

/-!
# Check — static validation of a script

`Script.fault?` gives the first fault of a script, none if the script is valid:

- the tasks one after the other: a name declared before, an unknown keyword, too few arguments, or a
  literal invocation of a task that is not declared
- then circles of literal invocations, found by depth-first search

An invocation is literal if its target holds neither `$` nor `?`.  The search goes down along the
names on the current trail and never enters a name twice once its search has ended.
-/

namespace TaskScript

/-- Whether a text may change when its references are resolved. -/
def isDynamic (text : String) : Bool :=
  text.toList.any fun c => c == '$' || c == '?'

/-- The target of a literal invocation of another task. -/
def Command.literalTarget? (command : Command) : Option String :=
  if command.kind? = some .tsk then
    match command.args with
    | target :: _ => if isDynamic target then none else some target
    | [] => none
  else
    none

/-- The literal invocations of a task, in order. -/
def Task.literalTargets (task : Task) : List String :=
  task.commands.filterMap Command.literalTarget?

/-- What is wrong with a command by itself. -/
def Command.fault? (owner : String) (command : Command) : Option ScriptFault :=
  match command.kind? with
  | none => some (.unknownKeyword owner command.keyword command.line)
  | some kind =>
    if command.args.length < kind.arity then
      some (.missingArguments owner command.keyword kind.arity command.args.length command.line)
    else
      none

namespace Script

/-- What is wrong with a target. -/
def targetFault? (script : Script) (target : String) : Option ScriptFault :=
  match script.findTask? target with
  | some _ => none
  | none => some (.undefinedTask target)

/-- What is wrong with a task: its commands first, then the tasks that it invokes. -/
def taskFault? (script : Script) (task : Task) : Option ScriptFault :=
  (task.commands.findSome? (Command.fault? task.name)).or
    (task.literalTargets.findSome? script.targetFault?)

/-- What is wrong with some tasks, given the names declared before them. -/
def tasksFault? (script : Script) (earlier : List String) : List Task → Option ScriptFault
  | [] => none
  | task :: rest =>
    if task.name ∈ earlier then
      some (.duplicateTask task.name task.line)
    else
      (script.taskFault? task).or (script.tasksFault? (task.name :: earlier) rest)

/-! ## Circles of invocations -/

/-- The number of declarations whose names are not on a trail. -/
def offTrail (script : Script) (trail : List String) : Nat :=
  (script.taskNames.filter fun name => decide (name ∉ trail)).length

theorem filter_off_cons (trail : List String) (name : String) (names : List String) :
    (names.filter fun n => decide (n ∉ name :: trail)) =
      (names.filter fun n => decide (n ∉ trail)).filter fun n => decide (n ≠ name) := by
  rw [List.filter_filter]
  congr 1
  funext n
  by_cases e : n = name <;> simp [e]

theorem offTrail_cons_lt {script : Script} {trail : List String} {name : String}
    (declared : name ∈ script.taskNames) (fresh : name ∉ trail) :
    script.offTrail (name :: trail) < script.offTrail trail := by
  unfold offTrail
  rw [filter_off_cons, List.length_filter_lt_length_iff_exists]
  exact ⟨name, List.mem_filter.2 ⟨declared, by simpa using fresh⟩, by simp⟩

/-- Search the invocations below a name.  `trail` holds the names from which the search came, the
nearest first, and `ended` the names whose search has ended; the result holds the latter afterwards.
The search ends because each step down puts one more declared name on the trail. -/
def search (script : Script) (trail ended : List String) (name : String) :
    Except ScriptFault (List String) :=
  if _onTrail : name ∈ trail then
    .error (.circular (trail.reverse ++ [name]))
  else if name ∈ ended then
    .ok ended
  else
    match _found : script.findTask? name with
    | none => .error (.undefinedTask name)
    | some task =>
      (task.literalTargets.foldlM (fun ended target => script.search (name :: trail) ended target)
        ended).map fun ended => name :: ended
termination_by script.offTrail trail
decreasing_by exact offTrail_cons_lt (mem_taskNames_of_findTask? _found) _onTrail

/-- The first fault met when searching the invocations below each task in turn. -/
def circleFault? (script : Script) : Option ScriptFault :=
  match script.taskNames.foldlM (fun ended name => script.search [] ended name) [] with
  | .ok _ => none
  | .error fault => some fault

/-- The first fault of a script. -/
def fault? (script : Script) : Option ScriptFault :=
  (script.tasksFault? [] script.tasks).or script.circleFault?

end Script
end TaskScript
