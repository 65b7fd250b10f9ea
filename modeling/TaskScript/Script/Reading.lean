import TaskScript.Script.Line

/-!
# Reading — from source text to script

`Reading.ofText` reads a text line by line.  It never fails: lines that are not understood are kept
as skipped lines, with their number and the reason.

- `Reading`        : the script read so far and the lines skipped on the way
- `Reading.feed`   : the effect of one line
- `Reading.ofText` : the reading of a text
-/

namespace TaskScript

/-- A source line that was skipped. -/
structure SkippedLine where
  line : Nat
  text : String
  reason : SkipReason
  deriving DecidableEq, Repr

/-- A script together with the lines skipped while reading it. -/
structure Reading where
  script : Script
  skipped : List SkippedLine
  deriving DecidableEq, Repr

namespace Reading

/-- Nothing has been read. -/
def empty : Reading := ⟨⟨[], []⟩, []⟩

/-- Whether a task is open: the last task stays open until the next header. -/
def inTask (reading : Reading) : Bool :=
  !reading.script.tasks.isEmpty

/-- Add a command to the last of some tasks. -/
def addToLast (command : Command) : List Task → List Task
  | [] => []
  | [task] => [{ task with commands := task.commands ++ [command] }]
  | task :: rest => task :: addToLast command rest

/-- Record what a line is, under its 1-based number. -/
def record (reading : Reading) (number : Nat) (raw : List Char) : Line → Reading
  | .ignored => reading
  | .declaration name value =>
    { reading with
      script := { reading.script with
        declarations := reading.script.declarations ++ [⟨name, value⟩] } }
  | .header name =>
    { reading with
      script := { reading.script with tasks := reading.script.tasks ++ [⟨name, [], number⟩] } }
  | .command keyword args =>
    { reading with
      script := { reading.script with
        tasks := addToLast ⟨keyword, args, number⟩ reading.script.tasks } }
  | .skipped reason =>
    { reading with skipped := reading.skipped ++ [⟨number, String.ofList raw, reason⟩] }

/-- Read one line. -/
def feed (reading : Reading) (number : Nat) (raw : List Char) : Reading :=
  reading.record number raw (Line.classify reading.inTask raw)

/-- Read lines numbered from `number` on. -/
def feedAll (reading : Reading) (number : Nat) : List (List Char) → Reading
  | [] => reading
  | raw :: rest => (reading.feed number raw).feedAll (number + 1) rest

/-- Read a text. -/
def ofText (source : String) : Reading :=
  empty.feedAll 1 (Text.lines source.toList)

/-! ## Small laws -/

theorem feedAll_append (reading : Reading) (number : Nat) (first second : List (List Char)) :
    reading.feedAll number (first ++ second) =
      (reading.feedAll number first).feedAll (number + first.length) second := by
  induction first generalizing reading number with
  | nil => simp [feedAll]
  | cons raw rest ih =>
    simp only [List.cons_append, feedAll, List.length_cons]
    rw [ih, Nat.add_assoc, Nat.add_comm 1]

end Reading

/-- The script in a text. -/
def Script.ofText (source : String) : Script :=
  (Reading.ofText source).script

end TaskScript
