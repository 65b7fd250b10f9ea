import TaskScript.Shell.Process
import TaskScript.Tool.Quoting

/-!
# Tool — programs that are part of the system

A tool takes its arguments and the state of its process; it prints, changes files and sets the
status.  Complaints begin with the name by which the tool was called.

- `Tool`   : a tool that works alone
- `Launch` : how a process is taken over by another program
-/

namespace TaskScript

open Shell (Machine)

/-- A program that is part of the system. -/
abbrev Tool := List String → Machine → Machine

/-- How a process is taken over by a program, given its name and arguments. -/
abbrev Launch := List String → Machine → Except SystemError Machine

namespace Tool

/-- The state of the process of a tool that goes by the last part of its name. -/
def shortNamed (m : Machine) : Machine := { m with name := (m.name.splitOn "/").getLastD m.name }

/-- Complain in the name of the tool. -/
def object (message : String) (m : Machine) : Machine := m.complain (m.name ++ ": " ++ message)

/-- Complain in the name of the tool, and fail with a status. -/
def failWith (status : Nat) (message : String) (m : Machine) : Machine :=
  (object message m).withStatus status

/-- Complain in the name of the tool, and fail. -/
def fail (message : String) (m : Machine) : Machine := failWith 1 message m

/-- Where to find help. -/
def helpHint (m : Machine) : String :=
  "Try '" ++ m.name ++ " --help' for more information."

/-- Complain about the way in which the tool was called, and fail with a status. -/
def misuseWith (status : Nat) (message : String) (m : Machine) : Machine :=
  ((object message m).complain (helpHint m)).withStatus status

/-- Complain about the way in which the tool was called, and fail. -/
def misuse (message : String) (m : Machine) : Machine := misuseWith 1 message m

/-- Fail if some output could not be written. -/
def close (m : Machine) : Machine :=
  match m.lost with
  | some cause => fail ("write error: " ++ cause.reason) m
  | none => m

end Tool
end TaskScript
