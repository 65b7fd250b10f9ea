import TaskScript.Shell.Builtin.Control
import TaskScript.Shell.Builtin.Directory
import TaskScript.Shell.Builtin.Input
import TaskScript.Shell.Builtin.Names
import TaskScript.Shell.Builtin.Output
import TaskScript.Shell.Builtin.Processes
import TaskScript.Shell.Builtin.Test
import TaskScript.Shell.Builtin.Variables
import TaskScript.Shell.Launch

/-!
# Command — a command with its arguments

A command is a function, a builtin or a program.  `Command.perform` carries it out, given its
fields; `Command.simple` also expands its words, follows its redirections and makes its assignments.

How programs of the shell are carried out, and how a shell begins, are parameters, `Means`.
-/

namespace TaskScript
namespace Shell
namespace Command

/-- What commands need to carry out others. -/
structure Means where
  run : Run
  shell : Launch.StartShell
  /-- How deep words may be nested. -/
  depth : Nat

/-! ## Builtins -/

/-- The builtins that carry nothing else out. -/
def builtins : List (String × Builtin) :=
  [(":", Builtin.idle 0), ("true", Builtin.idle 0), ("false", Builtin.idle 1),
    ("exit", Builtin.exit), ("return", Builtin.return), ("break", Builtin.break),
    ("continue", Builtin.continue), ("export", Builtin.export), ("readonly", Builtin.readonly),
    ("local", Builtin.local), ("unset", Builtin.unset), ("set", Builtin.set),
    ("shift", Builtin.shift), ("cd", Builtin.cd), ("chdir", Builtin.cd), ("pwd", Builtin.pwd),
    ("umask", Builtin.umask), ("read", Builtin.read), ("getopts", Builtin.getopts),
    ("echo", Builtin.echo), ("printf", Builtin.printf), ("test", Builtin.test),
    ("[", Builtin.bracket), ("kill", Builtin.kill), ("trap", Builtin.trap),
    ("wait", Builtin.wait), ("times", Builtin.times), ("jobs", Builtin.idle 0),
    ("fg", Builtin.noJob), ("bg", Builtin.noJob), ("ulimit", Builtin.ulimit),
    ("alias", Builtin.aliases), ("unalias", Builtin.unalias), ("type", Builtin.type),
    ("hash", Builtin.hash)]

/-- The search path used where the usual programs are asked for. -/
def usualPath : String := "/usr/sbin:/usr/bin:/sbin:/bin"

/-- What remains of the builtin `command` where it carries nothing out. -/
def inquire : Builtin :=
  Builtin.withOptions "pvV" fun chosen args m =>
    let letters := chosen.map Prod.fst
    let path := if letters.contains 'p' then usualPath else m.searchPath
    match (letters.filter (· != 'p')).getLast? with
    | some letter => Builtin.tell (letter == 'V') path args m
    | none => m.withStatus 0

/-- Carry out the arguments as commands. -/
def evaluate (means : Means) (context : Context) : Builtin := fun args m =>
  if args.isEmpty then m.withStatus 0
  else Running.text means.run context.inner (" ".intercalate args) m

/-- Carry out the commands in a file. -/
def source (means : Means) : Builtin :=
  Builtin.withOptions "" fun _ args m =>
    match args with
    | [] => m.withStatus 0
    | name :: _ =>
      let found :=
        if name.toList.contains '/' then some name
        else (Lookup.candidates m.searchPath name).find? fun path =>
          m.store.isFile (Machine.pathOf path)
      match found with
      | none => Builtin.giveUp m (name ++ ": not found")
      | some path =>
        match m.store.read (Machine.pathOf path) with
        | .error .isDirectory => m.withStatus 0
        | .error e =>
          Builtin.giveUp m ("cannot open " ++ path ++ ": " ++ Redirect.refusal "No such file" e)
        | .ok bytes =>
          let after := Running.file means.run .plain bytes { m with command? := some path }
          { after with flow := if after.flow == .returning then .onward else after.flow }

/-- The builtin with a name. -/
def builtin? (means : Means) (context : Context) (name : String) : Option Builtin :=
  match name with
  | "eval" => some (evaluate means context)
  | "." => some (source means)
  | "command" => some inquire
  | _ => builtins.lookup name

/-- Carry out a builtin in its own name.  The shell survives what goes wrong in it unless it is a
special one. -/
def performBuiltin (name : String) (isSpecial : Bool) (act : Builtin) (args : List String)
    (m : Machine) : Machine :=
  let after := act args { m with command? := some name, lost := none }
  let after :=
    match after.lost with
    | some _ =>
      { after.warn (name ++ ": I/O error") with status := Nat.lor after.status 1, lost := none }
    | none => after
  let after := { after with command? := m.command? }
  if after.flow == .failing && !isSpecial then { after with flow := .onward } else after

/-! ## Functions -/

/-- How deep functions may call each other. -/
def depthLimit : Nat := 1000

/-- Give the variables of the innermost function back what they were before. -/
def unhide (m : Machine) : Machine :=
  match m.hidden with
  | [] => m
  | own :: outer =>
    own.foldl (fun m (name, before) =>
      if name == Builtin.optionsName then
        { m with options := ((before.bind Variable.value?).getD "").toList }
      else m.restore name before) { m with hidden := outer }

/-- Carry out a function with arguments. -/
def call (means : Means) (context : Context) (body : Program) (args : List String) (m : Machine) :
    Machine :=
  if depthLimit ≤ m.depth then
    m.abandon "Maximum function recursion depth (1000) reached" 2
  else
    let after := means.run context.inner body
      { m.withArgs args with loops := 0, depth := m.depth + 1, hidden := [] :: m.hidden }
    let after := unhide after
    { after with
      args := m.args, optionIndex := m.optionIndex, optionOffset := m.optionOffset
      loops := m.loops, depth := m.depth
      flow := if after.flow == .returning then .onward else after.flow }

/-! ## Programs -/

/-- The status of a command that could not be executed. -/
def refusedStatus : SystemError → Nat
  | .notFound | .notDirectory | .tooManyLinks | .nameTooLong => 127
  | _ => 126

/-- How a command that could not be executed is told. -/
def refusal (name : String) (cause : SystemError) : String :=
  name ++ ": " ++ Redirect.refusal "not found" cause

/-- How deep interpreters of files may be nested. -/
def interpreterDepth : Nat := 16

/-- This process, taken over by the program at a path. -/
def takeOver (means : Means) (path name : String) (args : List String) (m : Machine) : Machine :=
  let ended (after : Machine) : Machine :=
    if after.signal?.isSome then after else { after with flow := .leaving }
  let refused (cause : SystemError) : Machine :=
    { (m.warn (refusal name cause)).withStatus (refusedStatus cause) with flow := .leaving }
  match Launch.execute means.shell interpreterDepth path name args m.arranged with
  | .ok after => ended after
  | .error .notExecutable =>
    match m.store.read (Machine.pathOf path) with
    | .ok bytes =>
      if Launch.isBinary bytes then refused .notExecutable
      else ended (Launch.readByShell means.shell path args m.arranged)
    | .error _ => ended (Launch.readByShell means.shell path args m.arranged)
  | .error cause => refused cause

/-- Whether something is to be done when a signal comes or the shell ends. -/
def minds (m : Machine) : Bool := m.traps.any fun t => !t.2.isEmpty

/-- Carry out a program, in a process of its own unless this one ends with it. -/
def performProgram (means : Means) (context : Context) (searchPath name : String)
    (args : List String) (m : Machine) : Machine :=
  match Lookup.program m.store searchPath name with
  | .error cause => (m.warn (refusal name cause)).withStatus 127
  | .ok path =>
    let m := if name.toList.contains '/' then m else { m with found := m.found.set name path }
    if context.isLast && !minds m then takeOver means path name args m
    else m.await (takeOver means path name args m.fork)

/-- Replace the shell by a program. -/
def replace (means : Means) (args : List String) (m : Machine) : Machine :=
  match args with
  | [] => m.withStatus 0
  | name :: rest =>
    let named := { m with command? := some "exec" }
    match Lookup.program m.store m.searchPath name with
    | .error cause =>
      { (named.warn (refusal name cause)).withStatus (refusedStatus cause) with
        flow := .leaving, command? := m.command? }
    | .ok path => takeOver means path name rest named

/-! ## Fields -/

/-- The fields of a command after those that only say how the command is to be looked for. -/
structure Addressed where
  fields : List String
  /-- Whether functions are passed over. -/
  isDirect : Bool
  /-- Whether the search path is the usual one. -/
  isUsual : Bool

/-- What follows the options of `command` if they only say how to look for what follows. -/
def afterOptions : List String → Bool → Option (List String × Bool)
  | [], _ => none
  | arg :: rest, isUsual =>
    match arg.toList with
    | ['-', '-'] => if rest.isEmpty then none else some (rest, isUsual)
    | '-' :: c :: more => if (c :: more).all (· == 'p') then afterOptions rest true else none
    | _ => some (arg :: rest, isUsual)

/-- The fields of a command without `command` in front of them; `steps` is more than their
number. -/
def addressed (m : Machine) : Nat → Addressed → Addressed
  | 0, a => a
  | steps + 1, a =>
    match a.fields with
    | "command" :: rest =>
      if !a.isDirect && m.routines.contains "command" then a
      else
        match afterOptions rest a.isUsual with
        | some (fields, isUsual) => addressed m steps ⟨fields, true, isUsual⟩
        | none => a
    | _ => a

/-- The fields of a command with what is said about it. -/
def address (m : Machine) (fields : List String) : Addressed :=
  addressed m (fields.length + 1) ⟨fields, false, false⟩

/-- The name of the special builtin that a command is, if it is called in its own name. -/
def special? (m : Machine) (a : Addressed) : Option String :=
  match a.fields with
  | name :: _ =>
    if !a.isDirect && !m.routines.contains name && Lookup.isSpecial name then some name else none
  | [] => none

/-- Carry out a command, given its fields. -/
def perform (means : Means) (context : Context) (a : Addressed) (m : Machine) : Machine :=
  match a.fields with
  | [] => m.withStatus m.outputStatus
  | name :: args =>
    match if a.isDirect then none else m.routines.get? name with
    | some body => call means context body args m
    | none =>
      if name == "exec" then
        let after := replace means args m
        if a.isDirect && after.flow == .failing then { after with flow := .onward } else after
      else
        match builtin? means context name with
        | some act => performBuiltin name (special? m a).isSome act args m
        | none =>
          performProgram means context (if a.isUsual then usualPath else m.searchPath) name args m

/-! ## Whole commands -/

/-- The fields of words, as far as they can be expanded.  The arguments of some builtins may be
assignments, which are not cut. -/
def fieldsOf (capture : Expansion.Capture) (depth : Nat) (words : List Word) (m : Machine) :
    List String × Machine :=
  words.foldl (fun (fields, m) word =>
    if m.flow != .onward then (fields, m)
    else
      let before := address m fields
      let takes := match before.fields with
        | name :: _ =>
          Lookup.takesAssignments name && (before.isDirect || !m.routines.contains name)
        | [] => false
      if takes && (Reader.assignment? word).isSome then
        let (text, m) := Expansion.text capture depth .inAssignment word m
        (fields ++ [text], m)
      else
        let (more, m) := Expansion.wordFields capture depth word m
        (fields ++ more, m)) (([] : List String), m)

/-- Make the assignments before a command; those that end with it are remembered with the old
values. -/
def assign (capture : Expansion.Capture) (depth : Nat) (isTemporary isExported : Bool)
    (assignments : List (String × Word)) (m : Machine) :
    List (String × Option Variable) × List String × Machine :=
  assignments.foldl (fun (saved, told, m) (name, word) =>
    if m.flow != .onward then (saved, told, m)
    else
      let (value, m) := Expansion.text capture depth .inValue word m
      if m.flow != .onward then (saved, told, m)
      else
        let before := (name, m.vars.get? name)
        let after := m.set name value
        let after :=
          if (isTemporary || isExported) && after.flow == .onward then
            after.mark name fun v => { v with exported := true }
          else after
        (if isTemporary then before :: saved else saved, told ++ [name ++ "=" ++ value], after))
    (([] : List (String × Option Variable)), ([] : List String), m)

/-- The text that is told before commands. -/
def tellingMark (capture : Expansion.Capture) (depth : Nat) (m : Machine) : String × Machine :=
  let text := (m.value? "PS4").getD ""
  let state := Reader.State.start text.toList 1 m.nextDocument .empty
  match Reader.parts (16 * (text.length + 16)) .document [] state with
  | .ok (word, _) =>
    let (mark, after) := Expansion.text capture depth .nowhere word { m with options := [] }
    (mark, { after with options := m.options })
  | .error _ => (text, m)

/-- Tell a command before it is carried out. -/
def tell (capture : Expansion.Capture) (depth : Nat) (parts : List String) (m : Machine) :
    Machine :=
  if m.has 'x' && !parts.isEmpty then
    let (mark, m) := tellingMark capture depth m
    m.tell (mark ++ " ".intercalate parts)
  else m

/-- One command less may be carried out; when none is left, the process ends. -/
def spend (m : Machine) : Machine :=
  match m.world.patience with
  | 0 => { m with flow := .killed 13 }
  | patience + 1 => { m with world := { m.world with patience } }

/-- Carry out a command with its assignments, words and redirections. -/
def simple (means : Means) (context : Context) (line : Nat) (assignments : List (String × Word))
    (words : List Word) (redirections : List Redirection) (m : Machine) : Machine :=
  let capture := Running.capture means.run
  let m := spend { m with line, outputStatus := 0 }
  let (fields, m) := fieldsOf capture means.depth words m
  let a := address m fields
  let isSpecial := (special? m a).isSome
  let isExec := a.fields.head? == some "exec"
  let (links, m) := Redirect.expand capture means.depth redirections m
  if m.flow != .onward then m
  else
    let (possible, directed) := Redirect.all capture means.depth links m
    if !possible then
      let after := Redirect.undo m directed
      if isSpecial && after.flow == .onward then { after with flow := .failing } else after
    else
      let errors? := if directed.place? 2 == m.place? 2 then none else m.place? 2
      let (saved, told, ready) := assign capture means.depth (!isSpecial && !fields.isEmpty)
        (isExec && 1 < a.fields.length) assignments { directed with errors? }
      let after :=
        if ready.flow != .onward then ready
        else
          let ready := tell capture means.depth (told ++ fields) ready
          perform means context a { ready with errors? := none }
      let after := saved.foldl (fun m (name, before) => m.restore name before) after
      let after := { after with errors? := m.errors? }
      if isExec && a.fields.length == 1 then after else Redirect.undo m after

end Command
end Shell
end TaskScript
