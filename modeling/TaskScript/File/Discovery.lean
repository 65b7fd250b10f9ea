import TaskScript.Fault
import TaskScript.File.Store
import TaskScript.Script.Reading

/-!
# Discovery — finding and loading the script

The script is the first regular file among the candidates: for the start directory, its parent, the
parent of that, and so on, each of the script names in turn.
-/

namespace TaskScript
namespace Discovery

/-- The names that a script file may have, the preferred one first. -/
def scriptNames : List String := ["Taskrfile", "taskrfile", "Taskrfile.txt"]

/-- The candidates, in the order in which they are tried. -/
def candidates (start : Path) : List Path :=
  start.ancestors.flatMap fun directory =>
    scriptNames.map fun name => directory.join (.ofString name)

/-- The first candidate that is a regular file. -/
def find (store : Store) (start : Path) : Except ScriptFault Path :=
  match (candidates start).find? store.isFile with
  | some path => .ok path
  | none => .error (.notFound ((candidates start).map Path.display))

/-- Read the script in a file. -/
def load (store : Store) (path : Path) : Except ScriptFault Reading :=
  match store.readText path with
  | .ok source => .ok (Reading.ofText source)
  | .error cause => .error (.unreadable path.display cause)

end Discovery
end TaskScript
