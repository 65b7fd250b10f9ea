import TaskScript.CommandLine.Options
import TaskScript.Environment
import TaskScript.File.Discovery
import TaskScript.Invocation
import TaskScript.Run.Execution
import TaskScript.Script.Check
import TaskScript.Script.Dump

/-!
# Report — what a command line leads to

- `Packages`     : what the program leaves to packages
- `Surroundings` : what the program finds when it starts
- `Report`       : what it leaves: an exit code, its output and the files; and what it carried out
- `Report.of`    : the report of a command line

The script is found and read first, then the environment file beside it.  Tasks are run in order
until one fails.
-/

namespace TaskScript

/-! ## Packages -/

/-- What becomes of an environment when a file is loaded into it. -/
inductive EnvLoad
  | loaded (environment : Bindings String)
  /-- The file cannot be loaded. -/
  | failed (complaint : String)
  /-- The program does not survive it. -/
  | panicked
  deriving DecidableEq, Repr

/-- What the program leaves to packages. -/
structure Packages where
  /-- Parse the tokens of a command line. -/
  parse : List String → Arguments
  /-- Load an environment file. -/
  loadEnv : Store → Path → Bindings String → EnvLoad
  /-- Write a tree as a document. -/
  toYaml : Yaml.Tree → Except String String
  /-- Decide, by the environment and whether the output is a terminal, whether tags are styled. -/
  styles : Bindings String → Bool → Bool

/-! ## Surroundings -/

/-- What the program finds when it starts. -/
structure Surroundings where
  /-- The directory in which it is started. -/
  directory : Path
  environment : Bindings String
  /-- Whether its output goes to a terminal. -/
  terminal : Bool
  /-- Its streams. -/
  out : Sink
  err : Sink
  store : Store
  /-- How children are started, given their environment. -/
  spawn : Bindings String → Spawn

/-- The console over the streams of the program. -/
def Surroundings.console (s : Surroundings) (styled : Bool) : Console :=
  .stdio s.out s.err styled

/-! ## Reports -/

/-- What the program leaves. -/
structure Report where
  exit : Nat
  console : Console
  store : Store
  /-- The commands of the script that were carried out, the latest first. -/
  journal : List Dispatch

/-- How much is shown: the switch that shows least wins. -/
def Options.verbosity (o : Options) : Verbosity :=
  if o.has .silent then .silent
  else if o.has .quiet then .quiet
  else if o.has .verbose then .verbose
  else .normal

/-- The script that options name, or the one that is found, and its path. -/
def Options.script (o : Options) (s : Surroundings) : Except ScriptFault (Path × Reading) := do
  let path ← match o.value? .file with
    | some path => pure (.ofString path)
    | none => Discovery.find s.store s.directory
  return (path, ← Discovery.load s.store path)

/-- The environment file that options name, or the one beside the script. -/
def Options.envFile? (o : Options) (s : Surroundings) (script : Path) : Option Path :=
  match o.value? .envFile with
  | some path => some (.ofString path)
  | none =>
    if o.has .noDotenv then none
    else
      let beside := (script.parent?.getD (.ofString ".")).join (.ofString ".env")
      if s.store.isFile beside then some beside else none

/-- The environment in which tasks are run, if there is one. -/
def Options.environment (o : Options) (packages : Packages) (s : Surroundings) (script : Path) :
    EnvLoad :=
  match o.envFile? s script with
  | none => .loaded s.environment
  | some path =>
    match packages.loadEnv s.store path s.environment with
    | .loaded environment => .loaded environment
    | .failed complaint =>
      .failed ("Failed to load env file '" ++ path.display ++ "': " ++ complaint)
    | .panicked => .panicked

/-- The list of tasks. -/
def Script.overview (script : Script) : List String :=
  if script.tasks.isEmpty then ["No tasks defined\n"]
  else
    "Available tasks:\n" :: script.tasks.map fun task =>
      "  " ++ task.name ++ " (" ++ toString task.commands.length ++ " command(s))\n"

namespace Report

/-- The exit code of a program that panics. -/
def panicExit : Nat := 101

/-- The report of a run, by whether it went well. -/
def ofRunner (r : Runner) (success : Bool) : Report :=
  ⟨if success then 0 else 1, r.console, r.store, r.journal⟩

/-- The report of a program that panics before anything is run. -/
def panicking (console : Console) (store : Store) : Report :=
  ⟨panicExit, console, store, []⟩

/-- The report of a program that complains and ends.  That a complaint cannot be written makes it
panic. -/
def refusing (console : Console) (store : Store) (complaint : String) : Report :=
  match console.complain (.text ("Error: " ++ complaint ++ "\n")) with
  | (some _, console) => panicking console store
  | (none, console) => ⟨1, console, store, []⟩

/-- The report of a parser of command lines that prints something and ends the program. -/
def ending (s : Surroundings) (exit : Nat) (out err : String) : Report :=
  let console := ((s.console false).print (.text out)).2
  ⟨exit, (console.complain (.text err)).2, s.store, []⟩

/-- Print texts.  That one cannot be written makes the program panic. -/
def printing (r : Runner) : List String → Report
  | [] => ofRunner r true
  | text :: rest =>
    match r.console.print (.text text) with
    | (some _, console) => panicking console r.store
    | (none, console) => printing { r with console } rest

/-- Print the document of the script. -/
def dumping (packages : Packages) (r : Runner) : Report :=
  match r.script.dump packages.toYaml with
  | .ok document => printing r [document]
  | .error complaint =>
    refusing r.console r.store ("YAML error: " ++ complaint ++ ": " ++ complaint)

/-- Say which lines of the script were skipped. -/
def noteSkipped (path : Path) (lines : List SkippedLine) (r : Runner) : Runner :=
  lines.foldl (fun r line => r.note .debug
    (path.display ++ ":" ++ toString line.line ++ ": skipped (" ++ line.reason.text ++ "): " ++
      String.ofList (Text.trim line.text.toList))) r

/-- Say whether the script is in order. -/
def checking (path : Path) (r : Runner) : Report :=
  match r.script.fault? with
  | none => ofRunner (r.note .info (path.display ++ " is valid")) true
  | some fault => ofRunner (r.note .error fault.message) false

/-- Run tasks in order until one fails. -/
def running (spawn : Spawn) (named : Bindings String) : List TaskCall → Runner → Report
  | [], r => ofRunner r true
  | call :: rest, r =>
    match ((r.setTaskArgs call.name call.args).setNamedArgs named).executeTask spawn call.name with
    | (.ok message, r) => running spawn named rest (r.note .info (message.getD ""))
    | (.error fault, r) => ofRunner (r.note .error fault.message) false

/-- Do with a script what options ask for. -/
def acting (packages : Packages) (o : Options) (spawn : Spawn) (path : Path) (r : Runner) : Report :=
  let invocation := Invocation.ofTokens o.tokens
  if o.has .dump then dumping packages r
  else if o.has .check then checking path r
  else if o.has .list || invocation.calls.isEmpty then printing r r.script.overview
  else running spawn invocation.named invocation.calls r

/-- The settings of a run. -/
def settings (o : Options) (s : Surroundings) (environment : Bindings String) : Settings :=
  { workingDir := (o.value? .dir).elim s.directory .ofString
    interpreter := defaultInterpreter
    maxDepth := defaultMaxDepth
    strict := o.has .strict
    verbosity := o.verbosity
    environment := Environment.value? environment }

/-- The run of a script before anything has been said or done. -/
def starting (packages : Packages) (o : Options) (s : Surroundings) (script : Script)
    (environment : Bindings String) : Runner :=
  .start script (settings o s environment) (s.console (packages.styles environment s.terminal))
    s.store

/-- The report of options. -/
def ofOptions (packages : Packages) (o : Options) (s : Surroundings) : Report :=
  match o.script s with
  | .error fault => refusing (s.console false) s.store fault.message
  | .ok (path, reading) =>
    match o.environment packages s path with
    | .failed complaint => refusing (s.console false) s.store complaint
    | .panicked => panicking (s.console false) s.store
    | .loaded environment =>
      acting packages o (s.spawn environment) path
        (noteSkipped path reading.skipped (starting packages o s reading.script environment))

/-- The report of a command line. -/
def «of» (packages : Packages) (tokens : List String) (s : Surroundings) : Report :=
  match packages.parse tokens with
  | .accepted options => ofOptions packages options s
  | .ended exit out err => ending s exit out err

end Report
end TaskScript
