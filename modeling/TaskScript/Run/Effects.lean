import TaskScript.Run.Runner

/-!
# Effects — starting a child, deleting a file, printing a line

Each effect takes an argument whose references have been resolved, and gives the outcome together
with the state afterwards.
-/

namespace TaskScript
namespace Runner

/-- The fault of a write that was refused; it is laid to the innermost task. -/
def writeFault (r : Runner) (cause : SystemError) : RunFault :=
  .internal (r.currentTask?.getD "") (.outputLost cause)

/-- Judge how a child process ended. -/
def judgeStatus (r : Runner) (command : String) (status : ExitStatus) : Outcome × Runner :=
  if status.isSuccess then
    (.ok none, r)
  else if r.settings.strict then
    (.error (.unsuccessful command status.code?), r)
  else
    (.ok none, r.note .debug
      ("Command " ++ quoted command ++ " exited with " ++ status.text ++ ", continuing"))

/-- Start a child process with the command as its last argument, and hear its outputs. -/
def runChild (spawn : Spawn) (r : Runner) (command : String) : Outcome × Runner :=
  let r := r.note .run command
  match r.settings.interpreter with
  | [] => (.error (.notStarted command .noInterpreter), r)
  | program :: args =>
    match spawn ⟨program, args ++ [command], r.settings.workingDir, r.console.captures⟩ r.store with
    | .error cause => (.error (.notStarted command (.refused cause)), r)
    | .ok reply =>
      let r := { r with store := reply.store }
      match r.console.hear reply.out reply.err with
      | (some cause, console) => (.error (r.writeFault cause), { r with console })
      | (none, console) => { r with console }.judgeStatus command reply.status

/-- Delete a file below the working directory.  That it is missing is no failure. -/
def deleteFile (r : Runner) (path : String) : Outcome × Runner :=
  let target := r.settings.workingDir.join (.ofString path)
  match r.store.unlink target with
  | .ok store =>
    (.ok (some ("Deleted " ++ quoted path)),
      { r with store }.note .debug ("Deleted " ++ target.display))
  | .error .notFound =>
    (.ok none, r.note .warn
      ("File " ++ quoted target.display ++ " does not exist, nothing to delete"))
  | .error cause => (.error (.notDeleted target.display cause), r)

/-- Print a line. -/
def echo (r : Runner) (line : String) : Outcome × Runner :=
  match r.console.print (.text (line ++ "\n")) with
  | (some cause, console) => (.error (r.writeFault cause), { r with console })
  | (none, console) => (.ok none, { r with console })

/-- Assign a runtime variable and say so. -/
def assign (r : Runner) (name value : String) : Outcome × Runner :=
  (.ok none, (r.note .debug ("Set $" ++ name ++ " = " ++ quoted value)).setVar name value)

end Runner
end TaskScript
