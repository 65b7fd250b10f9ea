import TaskScript.Shell.Process
import TaskScript.Shell.Redirect

/-!
# Running — whole texts, outputs and traps, given how programs are carried out

How a program is carried out is a parameter, `Run`, so that everything that does not look into
programs can be said apart from their evaluation.

- `Running.text`    : a text of commands, line by line
- `Running.file`    : the commands in a file
- `Running.finish`  : the end of a shell, with what is to be done on it
- `Running.attend`  : what is to be done on signals
- `Running.capture` : the output of a program
-/

namespace TaskScript
namespace Shell

/-- How a program stands among others. -/
structure Context where
  /-- Whether the process ends with the program. -/
  isLast : Bool
  /-- Whether a failure is being tested, so that a shell that minds failures goes on. -/
  isTested : Bool
  deriving DecidableEq, Repr

/-- A program that neither is the last nor is tested. -/
def Context.plain : Context := ⟨false, false⟩

/-- A program that its process ends with. -/
def Context.last : Context := ⟨true, false⟩

/-- A program that is tested. -/
def Context.test : Context := ⟨false, true⟩

/-- The same among others. -/
def Context.inner (context : Context) : Context := { context with isLast := false }

/-- How programs are carried out. -/
abbrev Run := Context → Program → Machine → Machine

namespace Running

/-- Tell the lines that have been read, if the shell is asked to. -/
def tellLines (text : List Char) (left : Nat) (m : Machine) : Machine :=
  if !m.has 'v' then m
  else
    let (read, rest) := text.splitAt (text.length - left)
    match read.getLast? with
    | none => m
    | some '\n' => m.emit 2 (String.ofList read)
    | some _ =>
      let more := rest.takeWhile (· != '\n')
      m.emit 2 (String.ofList (read ++ more ++ (rest.drop more.length).take 1))

/-- Carry out the commands of a text from a state of reading on; `any` tells whether there have been
commands.  `steps` is more than the number of lines. -/
def lines (run : Run) (context : Context) (isFile : Bool) : Nat → Bool → Reader.State → Machine →
    Machine
  | 0, _, _, m => m
  | steps + 1, any, state, m =>
    let state := { state with aliases := m.aliases, nextDocument := m.nextDocument }
    let told (left : Nat) : Machine := if isFile then tellLines state.rest left m else m
    match Reader.nextLine state with
    | .finished => if any then told 0 else (told 0).withStatus 0
    | .failed problem => { told problem.left with line := problem.line }.abandon problem.message 2
    | .commands program after =>
      let m := { told after.rest.length with
        documents := after.documents ++ m.documents, nextDocument := after.nextDocument }
      let atEnd := after.again && after.token == .finish
      if program.isNothing then
        lines run context isFile steps any { after with documents := [] } m
      else
        let m := run { context with isLast := context.isLast && atEnd } program m
        if m.flow == .onward then
          lines run context isFile steps true { after with documents := [] } m
        else m

/-- Carry out the commands in a text or in a file. -/
def commands (run : Run) (context : Context) (isFile : Bool) (text : String) (m : Machine) :
    Machine :=
  let chars := text.toList
  lines run context isFile (chars.count '\n' + 3) false
    (Reader.State.start chars 1 m.nextDocument m.aliases) m

/-- Carry out a text of commands. -/
def text (run : Run) (context : Context) : String → Machine → Machine :=
  commands run context false

/-- Carry out the commands in the bytes of a file. -/
def file (run : Run) (context : Context) (bytes : ByteArray) : Machine → Machine :=
  commands run context true (Octets.shellText bytes)

/-- End a shell: do what is to be done on its end. -/
def finish (run : Run) (m : Machine) : Machine :=
  match m.flow with
  | .killed _ => m
  | _ =>
    match m.traps.lookup 0 with
    | none => { m with flow := .leaving }
    | some action =>
      let m := { m with traps := m.traps.filter fun t => t.1 != 0 }
      let status := m.status
      let after := text run .plain action { m with flow := .onward, held? := some status }
      match after.flow with
      | .killed _ | .leaving | .failing => after
      | _ => { after with flow := .leaving, status }

/-- Do what is to be done on the signals that this process found. -/
def attend (run : Run) (m : Machine) : Machine :=
  m.world.signals.foldl (fun m (process, signal) =>
    if process != m.process || m.flow != .onward then m
    else
      match m.trap? signal with
      | none => m
      | some action =>
        let m := { m with world := { m.world with
          signals := m.world.signals.erase (process, signal) } }
        let held := m.held?.getD m.status
        let after := text run .plain action { m with held? := some held }
        let after := { after with held? := m.held? }
        if after.flow == .onward then after.withStatus held else after) m

/-- The output of a program that a copy of the shell carries out. -/
def capture (run : Run) : Expansion.Capture := fun program m =>
  if program.isNothing then ("", { m with outputStatus := 0 })
  else
    let (place, index, child) := m.fork.addSink
    let child := finish run (run .last program (child.linked 1 (some place)))
    let after := m.await child
    (Octets.shellText (after.world.collected index),
      { after with outputStatus := after.status, status := m.status })

end Running
end Shell
end TaskScript
