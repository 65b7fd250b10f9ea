import TaskScript.File.Change
import TaskScript.Number.Numeral
import TaskScript.Shell.Signal
import TaskScript.Text.Bytes

/-!
# World — what all processes share

- `OpenFile` : something that has been opened, and how far it has been read or written
- `World`    : files, everything that is open, collected output, the time, and the processes that
  work by the side

Processes know what is open by its place in `World.files`, so that those that share a place also
share the position in it.  Output that is collected goes to sinks.

Processes are carried out one after the other.  What a process by the side writes after the moment
in which the others go on is put in its place by the time at which it is written.
-/

namespace TaskScript
namespace Shell

/-- What an open file leads to. -/
inductive Channel
  /-- The file with a number. -/
  | file (number : Nat)
  | directory
  /-- The pipe with a number. -/
  | pipe (number : Nat)
  | device (name : String)
  /-- Bytes that were written before they are read; they may be only the beginning of what would
  have been written. -/
  | source (bytes : ByteArray) (isBeginning : Bool)
  /-- Output that is collected. -/
  | sink (index : Nat)

/-- Something that has been opened. -/
structure OpenFile where
  channel : Channel
  position : Nat
  appends : Bool
  reads : Bool
  writes : Bool

instance : Inhabited OpenFile := ⟨⟨.device "null", 0, false, true, true⟩⟩

/-- Output that was written at once: when, by which process, and what. -/
structure Chunk where
  time : Int
  process : Nat
  bytes : ByteArray

/-- A process that worked by the side. -/
structure Job where
  number : Nat
  /-- The number of the process that began it. -/
  owner : Nat
  /-- The number of the last process that it began. -/
  lastProcess : Nat
  /-- When it ends. -/
  time : Int
  status : Nat
  /-- The signal that ended it. -/
  signal? : Option Nat
  /-- Whether its end has been noticed. -/
  noticed : Bool
  deriving DecidableEq, Repr

/-- What all processes share. -/
structure World where
  store : Store
  files : Array OpenFile
  /-- What was written to each sink, the latest first. -/
  sinks : Array (List Chunk)
  /-- The number of the process begun last, and of the one that is working. -/
  lastProcess : Nat
  working : Nat
  jobs : List Job
  /-- Signals that processes have not met yet: the number of the process, and that of the signal. -/
  signals : List (Nat × Nat)
  /-- How many commands may still be carried out. -/
  patience : Nat
  /-- How far something that never ends is looked at, and whether more of it was wanted. -/
  horizon : Nat
  isShort : Bool

namespace World

/-! ## What never ends -/

/-- How far something that never ends is looked at first. -/
def nearHorizon : Nat := 131072

/-- How far it is looked at where that was not enough. -/
def farHorizon : Nat := 2097152

/-- The names of the devices that never end. -/
def endless : List String := ["zero", "full", "random", "urandom"]

/-- The byte of a device that never ends at a position. -/
def endlessByte (name : String) (position : Nat) : UInt8 :=
  if name == "random" || name == "urandom" then
    UInt8.ofNat ((position + 1) * 2654435761 % 4294967296 / 16777216)
  else 0

/-! ## Time -/

/-- The time in microseconds. -/
def time (w : World) : Int := w.store.now

/-- The same at another time. -/
def atTime (w : World) (time : Int) : World := { w with store := { w.store with now := time } }

/-- Let time pass. -/
def pass (w : World) (microseconds : Nat) : World := w.atTime (w.time + microseconds)

/-! ## Opening -/

/-- Add something that is open, and give its place. -/
def add (w : World) (file : OpenFile) : Nat × World :=
  (w.files.size, { w with files := w.files.push file })

/-- Open bytes for reading, which may be only a beginning. -/
def addSource (w : World) (bytes : ByteArray) (isBeginning : Bool) : Nat × World :=
  w.add ⟨.source bytes isBeginning, 0, false, true, false⟩

/-- Open a new sink for writing; also the index of the sink. -/
def addSink (w : World) : Nat × Nat × World :=
  let index := w.sinks.size
  let added := { w with sinks := w.sinks.push [] }.add ⟨.sink index, 0, true, false, true⟩
  (added.1, index, added.2)

/-- What a sink has collected, in the order of time. -/
def collected (w : World) (index : Nat) : ByteArray :=
  let chunks := ((w.sinks[index]?).getD []).reverse
  let sorted := chunks.mergeSort fun a b => decide (a.time ≤ b.time)
  sorted.foldl (fun bytes chunk => bytes ++ chunk.bytes) .empty

/-- What an opened path leads to. -/
def channelOf : Opened → Channel
  | .file number => .file number
  | .directory => .directory
  | .pipe number => .pipe number
  | .device name => .device name

/-- Open what a path leads to.  A device with a number stands for a descriptor, and `places` tells
where descriptors lead. -/
def opening (w : World) (places : Nat → Option Nat) (opened : Opened)
    (appends reads writes : Bool) : Except SystemError (Nat × World) :=
  match opened with
  | .device "tty" => .error .noDevice
  | .device name =>
    match Numeral.natural? name with
    | none => .ok (w.add ⟨.device name, 0, appends, reads, writes⟩)
    | some descriptor =>
      match places descriptor with
      | none => .error .notFound
      | some place =>
        match (w.files[place]?).map OpenFile.channel with
        | some (.file number) => .ok (w.add ⟨.file number, 0, appends, reads, writes⟩)
        | _ => .ok (place, w)
  | _ => .ok (w.add ⟨channelOf opened, 0, appends, reads, writes⟩)

/-- Open a path for reading. -/
def openToRead (w : World) (places : Nat → Option Nat) (path : Path) :
    Except SystemError (Nat × World) :=
  match w.store.openToRead path with
  | .ok opened => w.opening places opened false true false
  | .error e => .error e

/-- Open a path for writing, and perhaps for reading. -/
def openToWrite (w : World) (places : Nat → Option Nat) (path : Path) (how : Creation)
    (appends reads : Bool) (mask : Nat) : Except SystemError (Nat × World) :=
  match w.store.openToWrite path how mask with
  | .ok (opened, store) => { w with store }.opening places opened appends reads true
  | .error e => .error e

/-! ## Reading and writing -/

/-- The first bytes of what is left to be read at a place, so many of them if a number is given. -/
def availableUpTo (w : World) (place : Nat) (most? : Option Nat) : Except SystemError ByteArray :=
  let cut (bytes : ByteArray) (position : Nat) : ByteArray :=
    bytes.extract position (match most? with
      | some most => position + most
      | none => bytes.size)
  match w.files[place]? with
  | none => .error .badDescriptor
  | some file =>
    if !file.reads then .error .badDescriptor
    else
      match file.channel with
      | .file number => .ok (cut (w.store.bodyOf number).bytes file.position)
      | .source bytes _ => .ok (cut bytes file.position)
      | .directory => .error .isDirectory
      | .pipe number => .ok (cut (w.store.bodyOf number).bytes 0)
      | .device name =>
        .ok (if endless.contains name then
          ⟨Array.ofFn fun (i : Fin (most?.getD w.horizon)) => endlessByte name (file.position + i)⟩
        else .empty)
      | .sink _ => .error .badDescriptor

/-- What is left to be read at a place. -/
def available (w : World) (place : Nat) : Except SystemError ByteArray := w.availableUpTo place none

/-- Go on so many bytes further at a place.  What has been read from a pipe is no longer there. -/
def advance (w : World) (place count : Nat) : World :=
  match (w.files[place]?).map OpenFile.channel with
  | some (.pipe number) =>
    let body := w.store.bodyOf number
    let bytes := body.bytes.extract count body.bytes.size
    { w with store := w.store.setBody number { body with bytes } }
  | channel? =>
    let position := (w.files[place]?.map OpenFile.position).getD 0 + count
    let wantsMore := match channel? with
      | some (.source bytes isBeginning) => isBeginning && bytes.size ≤ position
      | some (.device name) => endless.contains name && count = w.horizon
      | _ => false
    { w with
      files := w.files.modify place fun f => { f with position }
      isShort := w.isShort || wantsMore }

/-- Go back so many bytes at a place. -/
def retreat (w : World) (place count : Nat) : World :=
  { w with files := w.files.modify place fun f => { f with position := f.position - count } }

/-- Write bytes at a place. -/
def write (w : World) (place : Nat) (bytes : ByteArray) : Except SystemError World :=
  match w.files[place]? with
  | none => .error .badDescriptor
  | some file =>
    if !file.writes then .error .badDescriptor
    else
      match file.channel with
      | .file number =>
        let position :=
          if file.appends then (w.store.bodyOf number).bytes.size else file.position
        let w := { w with store := w.store.writeAt number position bytes }
        .ok { w with files := w.files.modify place fun f =>
          { f with position := position + bytes.size } }
      | .pipe number =>
        let size := (w.store.bodyOf number).bytes.size
        .ok { w with store := w.store.writeAt number size bytes }
      | .sink index =>
        .ok { w with sinks := w.sinks.modify index (⟨w.time, w.working, bytes⟩ :: ·) }
      | .device name => if name == "full" && bytes.size != 0 then .error .full else .ok w
      | .directory | .source _ _ => .error .badDescriptor

/-! ## Processes -/

/-- Begin a process, and give its number. -/
def begin (w : World) : Nat × World :=
  let number := w.lastProcess + 1
  (number, { w with lastProcess := number, working := number })

/-- Send a signal to a process. -/
def send (w : World) (process signal : Nat) : World :=
  { w with signals := w.signals ++ [(process, signal)] }

/-- Forget what some processes write from now on. -/
def silence (w : World) (first last : Nat) : World :=
  let kept (c : Chunk) : Bool := c.time < w.time || c.process < first || last < c.process
  { w with sinks := w.sinks.map fun chunks => chunks.filter kept }

/-- Replace what is known of a process by the side. -/
def setJob (w : World) (job : Job) : World :=
  { w with jobs := w.jobs.map fun j => if j.number = job.number then job else j }

/-- The process by the side with a number. -/
def job? (w : World) (number : Nat) : Option Job := w.jobs.find? fun j => j.number = number

/-- End a process by the side with a signal, if it is still working. -/
def endJob (w : World) (job : Job) (signal : Nat) : World :=
  if job.time ≤ w.time || Signal.isHarmless signal then w
  else
    let ended := { job with time := w.time, status := 128 + signal, signal? := some signal }
    (w.silence job.number job.lastProcess).setJob ended

end World
end Shell
end TaskScript
