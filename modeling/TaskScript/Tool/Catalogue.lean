import TaskScript.Tool.Arguments
import TaskScript.Tool.Blocks
import TaskScript.Tool.Catenation
import TaskScript.Tool.Columns
import TaskScript.Tool.Copying
import TaskScript.Tool.Count
import TaskScript.Tool.Digesting
import TaskScript.Tool.Dump
import TaskScript.Tool.Editing
import TaskScript.Tool.Excerpt
import TaskScript.Tool.Exchange
import TaskScript.Tool.Expression
import TaskScript.Tool.Filling
import TaskScript.Tool.Identity
import TaskScript.Tool.Listing
import TaskScript.Tool.Making
import TaskScript.Tool.Naming
import TaskScript.Tool.Neighbours
import TaskScript.Tool.Printing
import TaskScript.Tool.Records
import TaskScript.Tool.Removal
import TaskScript.Tool.Selection
import TaskScript.Tool.Sequence
import TaskScript.Tool.Sorting
import TaskScript.Tool.Status
import TaskScript.Tool.Wrapping

/-!
# Catalogue — the tools there are

The programs that commands can start where the children of a run are those of `Shell.spawn`.
-/

namespace TaskScript
namespace Tool

/-- The tools that work alone. -/
def table : List (String × Tool) :=
  [("true", fun _ m => m.withStatus 0), ("false", fun _ m => m.withStatus 1),
    ("basename", basename), ("cat", cat), ("chmod", chmod), ("cksum", cksum), ("cp", cp),
    ("cut", cut), ("dd", dd), ("dirname", dirname), ("echo", echo), ("expand", expand),
    ("expr", expr), ("fmt", fmt), ("fold", fold), ("grep", grep), ("head", head), ("ln", ln),
    ("ls", ls), ("md5sum", md5sum), ("mkdir", mkdir), ("mkfifo", mkfifo), ("mv", mv), ("nl", nl),
    ("od", od), ("paste", paste), ("printenv", printenv), ("printf", printf),
    ("readlink", readlink), ("rev", rev), ("rm", rm), ("rmdir", rmdir), ("sed", sed),
    ("seq", seq), ("sleep", sleep), ("sort", sort), ("stat", stat), ("tac", tac), ("tail", tail),
    ("tee", tee), ("test", test), ("touch", touch), ("tr", tr), ("unexpand", unexpand),
    ("uniq", uniq), ("wc", wc), ("yes", yes)]

/-- The tools that start other programs. -/
def launching : List (String × (Launch → Tool)) :=
  [("env", env), ("mawk", awk), ("xargs", xargs)]

/-- The tool with a name. -/
def find? (launch : Launch) (name : String) : Option Tool :=
  match table.lookup name with
  | some tool => some tool
  | none => (launching.lookup name).map fun tool => tool launch

/-- The names of all tools. -/
def names : List String := table.map Prod.fst ++ launching.map Prod.fst

end Tool
end TaskScript
