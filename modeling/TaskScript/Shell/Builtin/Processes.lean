import TaskScript.Shell.Builtin.Basic

/-!
# Processes — builtins for signals and for processes by the side

`kill`, `wait`, `trap`, `jobs` and `times`.
-/

namespace TaskScript
namespace Shell
namespace Builtin

/-! ## Signals -/

/-- How `kill` is used. -/
def killUsage : String :=
  "Usage: kill [-s sigspec | -signum | -sigspec] [pid | job]... or\nkill -l [exitstatus]"

/-- Whether a process still has its number: this one, those that began it, and those by the side. -/
def isAlive (m : Machine) (process : Nat) : Bool :=
  process == m.process || m.parents.contains process || (m.world.job? process).isSome

/-- Send a signal to a process that is there. -/
def deliver (m : Machine) (process signal : Nat) : Machine :=
  match m.world.job? process with
  | some job => { m with world := m.world.endJob job signal }
  | none => { m with world := m.world.send process signal }.meet

/-- Send a signal to the processes that arguments name. -/
def killAll (signal : Nat) (targets : List String) (m : Machine) : Machine :=
  targets.foldl (fun m target =>
    if m.flow != .onward then m
    else
      let missing (m : Machine) : Machine :=
        (m.warn (SystemError.noProcess.reason ++ "\n")).withStatus 1
      match target.toList with
      | '%' :: _ => giveUp m ("No such job: " ++ target)
      | '-' :: digits =>
        match number? (String.ofList digits) with
        | some _ => missing m
        | none => giveUp m (notNumber (String.ofList digits))
      | _ =>
        match number? target with
        | some process =>
          let process := if process = 0 then m.process else process
          if isAlive m process then deliver m process signal else missing m
        | none => giveUp m (notNumber target)) (m.withStatus 0)

/-- The names of the signals, or that of one. -/
def listSignals (args : List String) (m : Machine) : Machine :=
  let m := m.withStatus 0
  match args with
  | [] => ((Signal.all.drop 1).map Signal.name).foldl Machine.printLine (m.printLine "0")
  | arg :: _ =>
    match number? arg with
    | none => giveUp m (notNumber arg)
    | some n =>
      let signal := if 128 < n then n - 128 else n
      if 0 < signal && signal ≤ Signal.last then m.printLine (Signal.name signal)
      else giveUp m ("invalid signal number or exit status: " ++ arg)

/-- Send a signal, or list the signals. -/
def kill : Builtin := fun args m =>
  let send (signal? : Option Nat) (isList : Bool) (targets : List String) : Machine :=
    if isList then
      if signal?.isSome then giveUp m killUsage else listSignals targets m
    else if targets.isEmpty then giveUp m killUsage
    else killAll (signal?.getD 15) targets m
  match args with
  | [] => giveUp m killUsage
  | arg :: rest =>
    let named := match arg.toList with
      | '-' :: text => Signal.ofText? (String.ofList text)
      | _ => none
    match named with
    | some signal => send (some signal) false rest
    | none =>
      if !arg.startsWith "-" then send none false args
      else
        match options "ls:" args with
        | .error message => giveUp m message
        | .ok (chosen, targets) =>
          let isList := chosen.any fun c => c.1 == 'l'
          match chosen.findSome? fun c => c.2 with
          | none => send none isList targets
          | some text =>
            match Signal.ofText? text with
            | some signal => send (some signal) isList targets
            | none => giveUp m ("invalid signal number or name: " ++ text)

/-- The traps as commands that would set them again. -/
def trapLines (m : Machine) : List String :=
  let sorted := m.traps.mergeSort fun a b => decide (a.1 ≤ b.1)
  sorted.map fun (signal, action) => "trap -- " ++ inQuotes action ++ " " ++ Signal.name signal

/-- Say what is to be done on signals, or forget it. -/
def setTraps (action? : Option String) (signals : List String) (m : Machine) : Machine :=
  signals.foldl (fun m text =>
    if m.status != 0 then m
    else
      match Signal.ofText? text with
      | none => (m.complain ("trap: " ++ text ++ ": bad trap")).withStatus 1
      | some signal =>
        let others := m.traps.filter fun t => t.1 != signal
        match action? with
        | some action => { m with traps := (signal, action) :: others }
        | none => { m with traps := others }) (m.withStatus 0)

/-- Say what is to be done on signals. -/
def trap : Builtin :=
  withOptions "" fun _ args m =>
    match args with
    | [] => (trapLines m).foldl Machine.printLine (m.withStatus 0)
    | [signal] => setTraps none [signal] m
    | action :: signals =>
      if (Numeral.natural? action).isSome then setTraps none args m
      else setTraps (if action == "-" then none else some action) signals m

/-! ## Processes by the side -/

/-- Wait for a process by the side, and take its status. -/
def waitFor (m : Machine) (process : Nat) : Machine :=
  match m.world.job? process with
  | some job =>
    if job.owner != m.process then m.withStatus 127
    else
      let m := if job.noticed then m else m.mourn job.signal?
      let world := m.world.atTime (max m.world.time job.time)
      { m with world := world.setJob { job with noticed := true }, status := job.status }
  | none => m.withStatus 127

/-- Wait for processes by the side. -/
def wait : Builtin :=
  withOptions "" fun _ args m =>
    if args.isEmpty then
      let own := m.world.jobs.filter fun j => j.owner = m.process
      let last := own.foldl (fun t j => max t j.time) m.world.time
      { m with world := m.world.atTime last, status := 0 }.notice
    else
      args.foldl (fun m arg =>
        if m.flow != .onward then m
        else
          match number? arg with
          | some process => waitFor m process
          | none => giveUp m (notNumber arg)) (m.withStatus 127)

/-- The time that has been used, which is none. -/
def times : Builtin := fun _ m =>
  let line := "0m0.000000s 0m0.000000s"
  ((m.printLine line).printLine line).withStatus 0

end Builtin
end Shell
end TaskScript
