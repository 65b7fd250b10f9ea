import TaskScript.Script.Basic
import TaskScript.Yaml.Tree

/-!
# Dump — a script as a document

A script is turned into a tree of records, lists, texts and numbers, and the tree is written by a
function that is given.  The variables are left out if there are none, and so are line numbers that
are zero.
-/

namespace TaskScript

open Yaml (Tree)

/-- A line number as an optional field. -/
def lineField (line : Nat) : List (String × Tree) :=
  if line = 0 then [] else [("line", .number line)]

def Variable.toTree (v : Variable) : Tree :=
  .record [("name", .text v.name), ("value", .text v.value)]

def Command.toTree (command : Command) : Tree :=
  .record ([("type", .text command.keyword), ("args", .list (command.args.map .text))] ++
    lineField command.line)

def Task.toTree (task : Task) : Tree :=
  .record ([("name", .text task.name), ("commands", .list (task.commands.map Command.toTree))] ++
    lineField task.line)

/-- The tree of a script. -/
def Script.toTree (script : Script) : Tree :=
  .record ((if script.declarations.isEmpty then []
      else [("variables", .list (script.declarations.map Variable.toTree))]) ++
    [("tasks", .list (script.tasks.map Task.toTree))])

/-- The document of a script, given how trees are written. -/
def Script.dump (toYaml : Tree → Except String String) (script : Script) : Except String String :=
  toYaml script.toTree

end TaskScript
