import TaskScript.CommandLine.Standard
import TaskScript.Shell.Spawn

/-!
# Main — the program

Fetches the files and the environment that a command line can come to need, takes its report, prints
it and brings the changed files back.  A file can come to be needed if it may be the script or an
environment file, or if its name occurs in one of them or on the command line; the same holds of a
name in the environment.
-/

namespace TaskScript
namespace Main

/-- The texts between characters that do not occur in a path. -/
def pathWords (text : String) : List String :=
  let divides (c : Char) : Bool := CharClass.isBlank c || "\"'$;&|<>()=,:\x60".toList.contains c
  let pieces := text.toList.foldr (fun c pieces =>
    match pieces with
    | piece :: rest => if divides c then [] :: piece :: rest else (c :: piece) :: rest
    | [] => [[c]]) [[]]
  (pieces.filter fun p => !p.isEmpty).map String.ofList

/-- The texts between characters that do not occur in a name of the environment. -/
def names (text : String) : List String :=
  let pieces := text.toList.foldr (fun c pieces =>
    match pieces with
    | piece :: rest => if CharClass.isWord c then (c :: piece) :: rest else [] :: piece :: rest
    | [] => [[c]]) [[]]
  (pieces.filter fun p => !p.isEmpty).map String.ofList

/-- The location of a path, seen from a directory. -/
def located (here : Location) (path : String) : Location :=
  let path := Path.ofString path
  (Store.namesIn path).foldl Store.step (Store.origin here path)

/-- A location as a path. -/
def absolute (location : Location) : String := (Store.pathTo location).display

/-- The store with the file or directory at a path, if there is one. -/
def fetch (store : Store) (path : String) : IO Store := do
  let location := located store.here path
  try
    let bytes ← IO.FS.readBinFile (absolute location)
    return store.plantFile location bytes
  catch
    | .inappropriateType .. => return store.plantDirectory location
    | _ => return store

/-- The texts of all files of a store. -/
def texts (store : Store) : List String :=
  store.entries.filterMap fun e =>
    match e.2 with
    | .file number => String.fromUTF8? (store.bodyOf number).bytes
    | _ => none

/-- The values of the variables with some names. -/
def fetchEnvironment (wanted : List String) : IO (Bindings String) :=
  wanted.eraseDups.foldlM (fun environment name => do
    match ← IO.getEnv name with
    | some value => return environment.set name value
    | none => return environment) Bindings.empty

/-- Write a file that is new or has changed, and make a directory that is new. -/
def bringBack (before after : Store) (location : Location) (entry : Entry) : IO Unit :=
  match entry, before.entryAt? location with
  | .file number, some (.file same) =>
    let bytes := (after.bodyOf number).bytes
    if bytes == (before.bodyOf same).bytes then pure ()
    else IO.FS.writeBinFile (absolute location) bytes
  | .file number, _ => IO.FS.writeBinFile (absolute location) (after.bodyOf number).bytes
  | .directory _, none => IO.FS.createDirAll (absolute location)
  | _, _ => pure ()

/-- Bring the changes of a store back. -/
def bringAllBack (before after : Store) : IO Unit := do
  for (location, entry) in before.entries do
    if entry.isFile && (after.entryAt? location).isNone then
      IO.FS.removeFile (absolute location)
  for (location, entry) in after.entries do
    bringBack before after location entry

/-- The paths at which the script and environment files may be. -/
def firstPaths (directory : Path) (tokens : List String) : List String :=
  (Discovery.candidates directory).map Path.display ++
    directory.ancestors.map (fun d => (d.join (.ofString ".env")).display) ++
    tokens.flatMap fun token =>
      let directory := (Path.ofString token).parent?.getD (.ofString ".")
      [token, (directory.join (.ofString ".env")).display]

/-- The surroundings of a command line. -/
def surroundings (tokens : List String) : IO Surroundings := do
  let directory := Path.ofString (toString (← IO.currentDir))
  let here := located [] directory.display
  let store ← (firstPaths directory tokens).foldlM fetch
    ((Shell.systemStore here).plantDirectory here)
  let mentioned := tokens ++ texts store
  let store ← (mentioned.flatMap pathWords).foldlM fetch store
  let environment ← fetchEnvironment
    (["PATH", "HOME", "CLICOLOR_FORCE", "NO_COLOR", "CLICOLOR"] ++ mentioned.flatMap names)
  return { directory, environment, store, terminal := ← (← IO.getStdout).isTty
           out := .empty, err := .empty, spawn := Shell.spawn }

end Main
end TaskScript

/-- Answer a command line. -/
def main (tokens : List String) : IO UInt32 := do
  let surroundings ← TaskScript.Main.surroundings tokens
  let report := TaskScript.Report.of .standard tokens surroundings
  (← IO.getStdout).write report.console.out.bytes
  (← IO.getStderr).write report.console.err.bytes
  TaskScript.Main.bringAllBack surroundings.store report.store
  return report.exit.toUInt32
