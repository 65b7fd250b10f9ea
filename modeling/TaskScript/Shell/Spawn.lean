import TaskScript.File.Store
import TaskScript.Run.Child
import TaskScript.Shell.Evaluation

/-!
# Spawn — children in the system of shells and tools

Runs are about children of every kind: how one is started is a parameter of theirs, a `Spawn`.
`Shell.spawn` is the one the program runs with.  It starts a program by its name, in a directory and
with an environment; a name without a slash is looked for in the directories of the search path.

`Shell.systemStore` holds the programs that there are.
-/

namespace TaskScript
namespace Shell

/-- How many commands a child may carry out. -/
def patience : Nat := 300000

/-- The greatest number of bytes in one argument. -/
def argumentLimit : Nat := 131071

/-- The number of the first process. -/
def firstProcess : Nat := 4000

/-- The files of a system, seen from a directory. -/
def systemStore (here : Location) : Store :=
  Store.standard (Launch.shellNames ++ Tool.names) here

/-- A process that has just been begun with an environment and a store.  Nothing is to be read, and
outputs are collected. -/
def newProcess (environment : Bindings String) (store : Store) : Machine :=
  let world : World :=
    { store, files := #[], sinks := #[], lastProcess := firstProcess, working := firstProcess
      jobs := [], signals := [], patience, horizon := World.nearHorizon, isShort := false }
  let input := world.addSource .empty false
  let out := input.2.addSink
  let err := out.2.2.addSink
  { world := err.2.2
    directory := ""
    links := [(0, input.1), (1, out.1), (2, err.1)]
    vars := ⟨environment.entries.map fun v =>
      (Octets.ofString v.1, ⟨some (Octets.ofString v.2), true, false⟩)⟩
    routines := .empty, aliases := .empty, found := .empty, traps := [], options := [], name := ""
    args := [], status := 0, flow := .onward, line := 0, loops := 0, depth := 0
    process := firstProcess, parents := [firstProcess - 1], shell := firstProcess, beside? := none
    hidden := [], documents := [], nextDocument := 0, mask := 0o022, command? := none
    outputStatus := 0, errors? := none, held? := none, optionIndex := 1, optionOffset := 0
    lost := none }

/-- Start a child process with an environment and wait for its end. -/
def spawn (environment : Bindings String) : Spawn := fun request store =>
  let texts := request.program :: request.directory.display :: request.args
  if texts.any fun t => t.toList.contains '\x00' then
    .error .nulInArgument
  else
    match store.directoryAt request.directory with
    | .error cause => .error cause
    | .ok here =>
      if (request.program :: request.args).any fun t => argumentLimit < t.utf8ByteSize then
        .error .argumentsTooLong
      else
        let m := newProcess environment { store with here }
        let name := Octets.ofString request.program
        match Launch.searched m name with
        | .error cause => .error cause
        | .ok path =>
          match Launch.execute Evaluation.startShell Command.interpreterDepth path name
              (request.args.map Octets.ofString) m with
          | .error cause => .error cause
          | .ok after => .ok
            { status := match after.signal? with
                | some signal => .signalled signal
                | none => .exited (after.status % 256)
              out := after.world.collected 0
              err := after.world.collected 1
              store := { after.store with here := store.here } }

end Shell
end TaskScript
