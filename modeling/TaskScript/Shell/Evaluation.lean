import TaskScript.Shell.Command

/-!
# Evaluation — carrying programs out

- `Evaluation.step`     : a program, given how inner programs are carried out
- `Evaluation.evaluate` : a program, nested to a depth
- `Evaluation.shell`    : a shell, from its arguments to its end
-/

namespace TaskScript
namespace Shell
namespace Evaluation

open TaskScript.Shell.Command (Means)

/-! ## Starting a shell -/

/-- The variables that a shell has before it looks at its environment. -/
def firstVariables : List (String × Option String) :=
  [("IFS", some Machine.usualSeparators), ("MAIL", none), ("MAILPATH", none),
    ("PATH", some "/usr/local/sbin:/usr/local/bin:/usr/sbin:/usr/bin:/sbin:/bin"),
    ("PS1", some "# "), ("PS2", some "> "), ("PS4", some "+ "), ("OPTIND", some "1")]

/-- The path by which the current directory was reached, if the environment tells it. -/
def toldDirectory (m : Machine) : String :=
  match m.value? "PWD" with
  | some path =>
    match m.store.directoryAt (Machine.pathOf path) with
    | .ok location => if path.startsWith "/" && location == m.store.here then path else m.location
    | .error _ => m.location
  | none => m.location

/-- The variables of a shell at its beginning. -/
def begin (m : Machine) : Machine :=
  let directory := toldDirectory m
  let inherited := m.vars.entries.filter fun v => Reader.isName v.1
  let vars : Bindings Variable := firstVariables.foldl (fun b (name, value?) =>
    b.set name ⟨value?, false, false⟩) .empty
  let vars := inherited.foldl (fun (b : Bindings Variable) v => b.set v.1 v.2) vars
  let m := { m with vars, directory }
  let m := (m.put "IFS" Machine.usualSeparators).put "OPTIND" "1"
  let m := m.put "PPID" (toString (m.parents.headD 0))
  (m.put "PWD" directory).mark "PWD" fun v => { v with exported := true }

/-- What a shell is told to carry out. -/
inductive Order
  /-- The first argument. -/
  | argument
  /-- The file that the first argument names. -/
  | file
  /-- The input. -/
  | input
  deriving DecidableEq, Repr

/-- Read the options of a shell: what it is told to carry out, and the arguments left.  `steps` is
more than the number of arguments. -/
def invocation : Nat → Order → List String → Machine → Order × List String × Machine
  | 0, order, args, m => (order, args, m)
  | _ + 1, order, [], m => (order, [], m)
  | steps + 1, order, arg :: rest, m =>
    match arg.toList with
    | ['-'] | ['-', '-'] => (order, rest, m)
    | sign :: letters =>
      if sign == '-' || sign == '+' then
        let order := if letters.contains 'c' then .argument
          else if letters.contains 's' && order == .file then .input else order
        let letters := letters.filter fun c => c != 'c' && c != 'l'
        let (args, m) := Builtin.switchLetters (sign == '-') letters rest m
        if m.flow == .onward then invocation steps order args m else (order, args, m)
      else (order, arg :: rest, m)
    | [] => (order, arg :: rest, m)

/-- A shell, from its arguments to its end. -/
def shell (run : Run) (args : List String) (m : Machine) : Machine :=
  let (order, args, m) := invocation (args.length + 1) .file args (begin m)
  let carry (commands : String) (m : Machine) : Machine :=
    Running.text run .last commands { m with line := 1 }
  let whole (m : Machine) : Machine :=
    match order, args with
    | .argument, commands :: name :: args => carry commands ({ m with name }.withArgs args)
    | .argument, [commands] => carry commands (m.withArgs [])
    | .argument, [] => m.abandon "-c requires an argument" 2
    | .file, name :: args =>
      match m.store.read (Machine.pathOf name) with
      | .error .isDirectory => m
      | .error e => m.abandon ("cannot open " ++ name ++ ": " ++
          Redirect.refusal "No such file" e) 2
      | .ok bytes =>
        Running.file run .plain bytes ({ m with name, line := 1 }.withArgs args)
    | _, args =>
      match m.drain 0 with
      | (.ok bytes, m) => Running.file run .plain bytes ({ m with line := 1 }.withArgs args)
      | (.error _, m) => m
  Running.finish run (if m.flow == .onward then whole m else m)

/-! ## Processes -/

/-- Carry something out in a copy of the shell, and wait for its end. -/
def inCopy (run : Run) (act : Machine → Machine) (m : Machine) : Machine :=
  m.await (Running.finish run (act m.fork))

/-- How many commands a process may carry out whose output nobody may read, at first. -/
def unreadPatience : Nat := 60000

/-- Carry out the commands of a pipeline; `source?` is where the first one reads from.  The result
tells the statuses and signals in order. -/
def pipeline (run : Run) (context : Context) : List Program → Option Nat → Machine →
    List (Nat × Option Nat) × Machine
  | [], _, m => ([], m)
  | program :: rest, source?, m =>
    let child := m.fork
    let child := { child with world := { child.world with isShort := false } }
    let child := match source? with
      | some place => child.linked 0 (some place)
      | none => child
    if rest.isEmpty then
      let child := Running.finish run (run { context with isLast := true } program child)
      ([(child.settle, child.signal?)], m.rejoin child)
    else
      let (place, index, child) := child.addSink
      let whole := child.world.patience
      let given :=
        if child.world.horizon < World.farHorizon then min whole unreadPatience
        else whole - min unreadPatience (whole / 2)
      let child := { child with world := { child.world with patience := given } }
      let child := Running.finish run
        (run { context with isLast := true } program (child.linked 1 (some place)))
      let left := whole - (given - child.world.patience)
      let isCut := child.world.patience = 0 && given < whole
      let child := { child with world := { child.world with
        patience := left, isShort := child.world.isShort || isCut } }
      let m := m.rejoin child
      let (source, m) := m.addSource (m.world.collected index) m.world.isShort
      let (statuses, m) := pipeline run context rest (some source) m
      ((child.settle, child.signal?) :: statuses, m)

/-- Carry out the commands of a pipeline.  If the last one wanted more of something that never ends
than was looked at, they are carried out again with more of it. -/
def pipelineFully (run : Run) (context : Context) (commands : List Program) (m : Machine) :
    List (Nat × Option Nat) × Machine :=
  let (ends, after) := pipeline run context commands none m
  let (ends, after) :=
    if after.world.isShort && m.world.horizon < World.farHorizon then
      pipeline run context commands none
        { m with world := { m.world with horizon := World.farHorizon } }
    else (ends, after)
  (ends, { after with world := { after.world with
    horizon := m.world.horizon, isShort := m.world.isShort || after.world.isShort } })

/-! ## Loops -/

/-- The flow around a loop whose body has ended with a flow, and whether the loop goes on. -/
def afterRound : Flow → Flow × Bool
  | .onward => (.onward, true)
  | .breaking (n + 2) => (.breaking (n + 1), false)
  | .breaking _ => (.onward, false)
  | .continuing (n + 2) => (.continuing (n + 1), false)
  | .continuing _ => (.onward, true)
  | flow => (flow, false)

/-- The state after a round of a loop, and whether the loop goes on. -/
def closeRound (m : Machine) : Machine × Bool :=
  let (flow, goesOn) := afterRound m.flow
  ({ m with flow }, goesOn)

/-- Carry out rounds of a loop while its test says so; `status` is that of the last round. -/
def rounds (test body : Machine → Machine) (untilDone : Bool) : Nat → Nat → Machine → Machine
  | 0, _, m => { m with flow := .killed 13 }
  | steps + 1, status, m =>
    let (m, goesOn) := closeRound (test m)
    if !goesOn then (if m.flow == .returning then m else m.withStatus status)
    else if (m.status == 0) == untilDone then m.withStatus status
    else
      let (m, goesOn) := closeRound (body m)
      if goesOn then rounds test body untilDone steps m.status m else m

/-- Do something within a loop. -/
def looping (act : Machine → Machine) (m : Machine) : Machine :=
  let after := act { m with loops := m.loops + 1 }
  { after with loops := m.loops }

/-! ## Programs -/

/-- Leave a shell that minds failures if a command has failed and is not tested. -/
def heed (context : Context) (m : Machine) : Machine :=
  if m.has 'e' && !context.isTested && m.status != 0 && m.flow == .onward then
    { m with flow := .leaving }
  else m

/-- Carry something out with other descriptors, if the redirections are possible. -/
def redirecting (means : Means) (line : Nat) (redirections : List Redirection)
    (act refused : Machine → Machine) (m : Machine) : Machine :=
  let capture := Running.capture means.run
  let (links, m) := Redirect.expand capture means.depth redirections { m with line }
  if m.flow != .onward then m
  else
    match Redirect.all capture means.depth links m with
    | (true, directed) => Redirect.undo m (act directed)
    | (false, directed) => refused (Redirect.undo m directed)

/-- The first body whose patterns a text fits. -/
def choose (means : Means) (text : String) : List (List Word × Program) → Machine →
    Option Program × Machine
  | [], m => (none, m)
  | (patterns, body) :: rest, m =>
    let capture := Running.capture means.run
    let (fits, m) := patterns.foldl (fun (fits, m) word =>
      if fits || m.flow != .onward then (fits, m)
      else
        let (pattern, m) := Expansion.pattern capture means.depth word m
        (Wildcard.matches pattern text.toList, m)) (false, m)
    if m.flow != .onward then (none, m)
    else if fits then (some body, m)
    else choose means text rest m

/-- Carry out a program, given how inner programs are carried out. -/
def step (means : Means) (context : Context) (program : Program) (m : Machine) : Machine :=
  let run := means.run
  let capture := Running.capture run
  match program with
  | .nothing => m
  | .simple line assignments words redirections =>
    heed context (Command.simple means context line assignments words redirections m)
  | .sequence first second =>
    let m := run context.inner first m
    if m.flow == .onward then run context second m else m
  | .both first second =>
    let m := run .test first m
    if m.flow == .onward && m.status == 0 then run context second m else m
  | .either first second =>
    let m := run .test first m
    if m.flow == .onward && m.status != 0 then run context second m else m
  | .negated body =>
    let m := run .test body m
    if m.flow == .onward then m.withStatus (if m.status == 0 then 1 else 0) else m
  | .pipe commands =>
    let (ends, after) := pipelineFully run context commands m
    if after.flow != .onward then after
    else
      let after := ends.foldl (fun m e => m.mourn e.2) after
      heed context ((after.withStatus ((ends.getLast?.map Prod.fst).getD 0)).notice)
  | .background body =>
    let child := m.fork
    let child := match child.openToRead (.ofString "/dev/null") with
      | .ok (place, child) => child.linked 0 (some place)
      | .error _ => child
    let child := Running.finish run (run .last body child)
    (m.besides child).withStatus 0
  | .isolated line body redirections =>
    let inside : Machine → Machine :=
      redirecting means line redirections
        (fun m => Running.finish run (run { context with isLast := true } body m))
        fun m => { m with flow := .leaving }
    if context.isLast && !Command.minds m then inside m
    else heed context (inCopy run inside m)
  | .redirected line body redirections =>
    redirecting means line redirections (run context.inner body) (heed context) m
  | .branch test yes no =>
    let m := run .test test m
    if m.flow != .onward then m
    else if m.status == 0 then run context yes m
    else
      match no with
      | some no => run context no m
      | none => m.withStatus 0
  | .loop untilDone test body =>
    looping (fun m => rounds (run .test test) (run context.inner body) untilDone
      (m.world.patience + 2) 0 m) m
  | .each line name words body =>
    let (values, m) := Expansion.fields capture means.depth words { m with line }
    if m.flow != .onward then m
    else if values.isEmpty then m.withStatus 0
    else
      looping (fun m =>
        (values.foldl (fun (m, goesOn) value =>
          if goesOn then
            let m := m.set name value
            if m.flow == .onward then closeRound (run context.inner body m) else (m, false)
          else (m, false)) (m, true)).1) m
  | .choice line subject arms =>
    let (text, m) := Expansion.text capture means.depth .inWord subject { m with line }
    if m.flow != .onward then m
    else
      match choose means text arms m with
      | (some body, m) => if body.isNothing then m.withStatus 0 else run context body m
      | (none, m) => if m.flow == .onward then m.withStatus 0 else m
  | .define name _ body => { m with routines := m.routines.set name body, status := 0 }

/-- Do what is to be done on signals before and after a program is carried out. -/
def attending (run : Run) (act : Machine → Machine) (m : Machine) : Machine :=
  let attend (m : Machine) : Machine :=
    if m.world.signals.isEmpty || m.flow != .onward then m else Running.attend run m
  let m := attend m
  if m.flow == .onward then attend (act m) else m

/-- Carry out a program; programs may be nested to a depth. -/
def evaluate : Nat → Run
  | 0, _, _, m => { m with flow := .killed 11 }
  | depth + 1, context, program, m =>
    if m.has 'n' then m
    else
      let run := evaluate depth
      let means : Means := ⟨run, shell run, depth⟩
      attending run (step means context program) m

/-- How deep programs may be nested. -/
def depthLimit : Nat := 100000

/-- A shell with its arguments, in a process that has begun. -/
def startShell : Launch.StartShell := shell (evaluate depthLimit)

end Evaluation
end Shell
end TaskScript
