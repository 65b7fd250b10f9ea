import TaskScript.Shell.Machine

/-!
# Process — how processes begin, end and wait for each other

- `Machine.fork`     : a process that is a copy of another one
- `Machine.become`   : the state in which a program begins
- `Machine.rejoin`   : a process after another one has ended
- `Machine.await`    : the same, with the status of the other one and a word on how it ended
- `Machine.meet`     : the signals that a process finds
- `Machine.settle`   : what a status and a flow come to at the end of a process

A process is carried out up to its end before the one that began it goes on.
-/

namespace TaskScript
namespace Shell
namespace Machine

/-! ## Beginning -/

/-- Begin a process that is a copy of this one.  Signals that are passed over stay so; what else was
to be done on them is not inherited. -/
def fork (m : Machine) : Machine :=
  let begun := m.world.begin
  { m with
    world := begun.2, process := begun.1, parents := m.process :: m.parents
    traps := m.traps.filter fun t => t.2.isEmpty }

/-- The variables that programs inherit. -/
def inherited (m : Machine) : Bindings Variable :=
  ⟨m.environment.entries.map fun v => (v.1, ⟨some v.2, true, false⟩)⟩

/-- The state in which a program with a name and arguments begins in this process. -/
def become (m : Machine) (name : String) (args : List String) : Machine :=
  { m with
    vars := m.inherited, routines := .empty, aliases := .empty, found := .empty, name, args
    options := []
    traps := m.traps.filter fun t => t.1 != 0 && t.2.isEmpty
    status := 0, flow := .onward, line := 0, loops := 0, depth := 0, shell := m.process
    beside? := none, hidden := [], documents := [], nextDocument := 0, command? := none
    outputStatus := 0, errors? := none, held? := none, optionIndex := 1, optionOffset := 0
    lost := none }

/-! ## Signals -/

/-- What is to be done on a signal, if anything else than usual. -/
def trap? (m : Machine) (signal : Nat) : Option String :=
  if Signal.isFinal signal then none else m.traps.lookup signal

/-- Find the signals that were sent to this process.  One that is passed over is forgotten, one for
which something is to be done stays, and any other ends the process. -/
def meet (m : Machine) : Machine :=
  m.world.signals.foldl (fun m (process, signal) =>
    if process != m.process then m
    else
      let forgotten := { m with world := { m.world with
        signals := m.world.signals.erase (process, signal) } }
      match m.trap? signal with
      | some action => if action.isEmpty then forgotten else m
      | none =>
        if Signal.isHarmless signal then forgotten else { forgotten with flow := .killed signal }) m

/-! ## Ending -/

/-- The signal that ended a process. -/
def signal? (m : Machine) : Option Nat :=
  match m.flow with
  | .killed signal => some signal
  | _ => none

/-- The status of a process that has ended. -/
def settle (m : Machine) : Nat :=
  match m.flow with
  | .killed signal => 128 + signal
  | _ => m.status % 256

/-- Go on after a process that this one began. -/
def rejoin (m child : Machine) : Machine :=
  { m with world := { child.world with
      store := { child.world.store with here := m.world.store.here }, working := m.process } }.meet

/-- Say how a process ended, if a signal ended it. -/
def mourn (m : Machine) (signal? : Option Nat) : Machine :=
  match signal? with
  | some signal => if Signal.isSilent signal then m else m.complain (Signal.wording signal)
  | none => m

/-- Notice the processes by the side that have ended. -/
def notice (m : Machine) : Machine :=
  { m with world := { m.world with jobs := m.world.jobs.map fun j =>
      if j.owner = m.process && j.time ≤ m.world.time then { j with noticed := true } else j } }

/-- Go on after a process that this one began and waited for. -/
def await (m child : Machine) : Machine :=
  let after := m.rejoin child
  if after.flow == .onward then
    ((after.mourn child.signal?).withStatus child.settle).notice
  else after

/-- Go on by the side of a process that this one began. -/
def besides (m child : Machine) : Machine :=
  let job : Job :=
    { number := child.process, owner := m.process, lastProcess := child.world.lastProcess
      time := child.world.time, status := child.settle, signal? := child.signal?, noticed := false }
  let after := m.rejoin child
  { after with
    world := { after.world with jobs := job :: after.world.jobs }.atTime m.world.time
    beside? := some child.process }

/-- Output that is collected: where it goes, and the index of what is collected. -/
def addSink (m : Machine) : Nat × Nat × Machine :=
  let added := m.world.addSink
  (added.1, added.2.1, { m with world := added.2.2 })

/-- Input that consists of bytes, which may be only a beginning. -/
def addSource (m : Machine) (bytes : ByteArray) (isBeginning : Bool) : Nat × Machine :=
  let added := m.world.addSource bytes isBeginning
  (added.1, { m with world := added.2 })

end Machine
end Shell
end TaskScript
