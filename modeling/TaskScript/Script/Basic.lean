import TaskScript.Bindings

/-!
# Script — variables, tasks and commands

A script is a list of global variable declarations and a list of tasks, each in source order.  A
task is a named list of commands.  A command keeps the keyword as it was written, so that a script
with an unknown keyword can still be listed, dumped and partly run.

- `Keyword`           : the keywords that are known, with the number of arguments each consumes
- `Script.findTask?`  : the first task of a name
- `Script.declared`   : the global variables, the last declaration of a name counting
-/

namespace TaskScript

/-! ## Keywords -/

/-- What a command does. -/
inductive Keyword
  /-- Start a child process. -/
  | run
  /-- Delete a file. -/
  | del
  /-- Print a line. -/
  | ech
  /-- Run another task. -/
  | tsk
  /-- Assign a runtime variable. -/
  | var
  deriving DecidableEq, Repr, Inhabited

namespace Keyword

/-- Every keyword. -/
def all : List Keyword := [run, del, ech, tsk, var]

/-- The keyword as it is written. -/
def text : Keyword → String
  | run => "run"
  | del => "del"
  | ech => "ech"
  | tsk => "tsk"
  | var => "var"

/-- The number of arguments that a command consumes. -/
def arity : Keyword → Nat
  | var => 2
  | _ => 1

/-- The keyword that is written so. -/
def ofText? (written : String) : Option Keyword :=
  all.find? fun keyword => keyword.text == written

theorem ofText?_text (keyword : Keyword) : ofText? keyword.text = some keyword := by
  cases keyword <;> decide

theorem text_of_ofText? {written : String} {keyword : Keyword}
    (h : ofText? written = some keyword) : keyword.text = written := by
  simpa using List.find?_some h

end Keyword

/-! ## Scripts -/

/-- A declaration of a global variable. -/
structure Variable where
  name : String
  value : String
  deriving DecidableEq, Repr, Inhabited

/-- A command of a task.  `line` is its 1-based source line, or 0 if it was not read from a text. -/
structure Command where
  keyword : String
  args : List String
  line : Nat
  deriving DecidableEq, Repr, Inhabited

/-- The known keyword of a command, if it is one. -/
def Command.kind? (command : Command) : Option Keyword :=
  Keyword.ofText? command.keyword

/-- A named list of commands.  `line` is the 1-based source line of its header, or 0. -/
structure Task where
  name : String
  commands : List Command
  line : Nat
  deriving DecidableEq, Repr, Inhabited

/-- Global variables and tasks in source order. -/
structure Script where
  declarations : List Variable
  tasks : List Task
  deriving DecidableEq, Repr, Inhabited

namespace Script

/-- The first task of a name. -/
def findTask? (script : Script) (name : String) : Option Task :=
  script.tasks.find? fun task => task.name == name

/-- The names of the tasks in source order. -/
def taskNames (script : Script) : List String :=
  script.tasks.map Task.name

/-- The values of the global variables; the last declaration of a name counts. -/
def declared (script : Script) : Bindings String :=
  Bindings.ofList (script.declarations.map fun v => (v.name, v.value))

theorem name_of_findTask? {script : Script} {name : String} {task : Task}
    (h : script.findTask? name = some task) : task.name = name := by
  simpa using List.find?_some h

theorem mem_of_findTask? {script : Script} {name : String} {task : Task}
    (h : script.findTask? name = some task) : task ∈ script.tasks :=
  List.mem_of_find?_eq_some h

theorem mem_taskNames_of_findTask? {script : Script} {name : String} {task : Task}
    (h : script.findTask? name = some task) : name ∈ script.taskNames :=
  List.mem_map.2 ⟨task, mem_of_findTask? h, name_of_findTask? h⟩

end Script
end TaskScript
