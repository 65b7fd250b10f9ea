import TaskScript.Record.State

/-!
# Stream — what programs that work on records read and write

Inputs are read record by record.  What is written waits until it is put out: when a command is
started, when an output is closed, and at the end.  Commands read what was written for them once
they are closed.
-/

namespace TaskScript
namespace Record

open Shell (Machine)

/-- What ends records. -/
inductive RecordEnd
  | char (c : Char)
  /-- Lines that hold nothing. -/
  | emptyLines
  | pattern (regular : Regular)

namespace RecordEnd

/-- The characters up to an empty line, and what follows. -/
def paragraph : List Char → List Char × List Char
  | [] => ([], [])
  | ['\n'] => ([], [])
  | '\n' :: '\n' :: rest => ([], rest.dropWhile (· == '\n'))
  | c :: rest =>
    let found := paragraph rest
    (c :: found.1, found.2)

/-- The record at the start of a text, and what follows. -/
def take? (ending : RecordEnd) (text : List Char) : Option (List Char × List Char) :=
  match ending with
  | char c =>
    if text.isEmpty then none
    else
      let (record, rest) := text.span (· != c)
      some (record, rest.tail)
  | emptyLines =>
    match text.dropWhile (· == '\n') with
    | [] => none
    | c :: rest => some (paragraph (c :: rest))
  | pattern regular =>
    if text.isEmpty then none
    else
      match regular.search? (Pattern.subject text) 0 with
      | some found =>
        if found.start == found.stop then some (text, [])
        else some (text.take found.start, text.drop found.stop)
      | none => some (text, [])

end RecordEnd

namespace Evaluation

/-! ## Output -/

/-- Put out what waits to be printed. -/
def flushPrinted : Evaluation Unit := modify fun s =>
  if s.waiting.isEmpty then s
  else { s with machine := s.machine.print (String.join s.waiting.reverse), waiting := [] }

/-- Write what waits for a file. -/
def settle (o : Output) (m : Machine) : Output × Machine :=
  match o.place? with
  | none => (o, m)
  | some place =>
    match m.world.write place (Octets.toBytes (String.join o.waiting.reverse)) with
    | .ok world => ({ o with waiting := [] }, { m with world })
    | .error _ => ({ o with waiting := [] }, m)

/-- Put out everything that waits, but for what commands are to read. -/
def flushAll : Evaluation Unit := do
  flushPrinted
  modify fun s =>
    let (outputs, m) := s.outputs.foldl (fun (outputs, m) o =>
      let (o, m) := settle o m
      (outputs ++ [o], m)) (([] : List Output), s.machine)
    { s with outputs, machine := m }

/-- The status of a command that has ended, as it is told. -/
def statusOf (child : Machine) : Nat :=
  match child.signal? with
  | some signal => 256 + signal
  | none => child.settle

/-- Run a command whose descriptors lead to other places, and give its status. -/
def runCommand (command : String) (redirect : Machine → Machine) : Evaluation Nat := ofRun fun s =>
  let m := s.machine
  match s.launch ["/bin/sh", "-c", command] (redirect m).fork with
  | .error _ => (.ok 127, s)
  | .ok child => (.ok (statusOf child), { s with machine := m.rejoin child })

/-- Run a command that reads a text. -/
def feed (command text : String) : Evaluation Nat := do
  let (place, m) := (← get).machine.addSource (Octets.toBytes text) false
  modify fun s => { s with machine := m }
  runCommand command fun m => m.linked 0 (some place)

/-- Run a command, and give what it prints with its status. -/
def harvest (command : String) : Evaluation (List Char × Nat) := do
  flushAll
  let (place, index, m) := (← get).machine.addSink
  modify fun s => { s with machine := m }
  let status ← runCommand command fun m => m.linked 1 (some place)
  return (Octets.charsOf ((← get).machine.world.collected index), status)

/-- Close an output, and give its status. -/
def closeOutput (o : Output) : Evaluation Nat := do
  match o.place? with
  | some _ =>
    modify fun s => { s with machine := (settle o s.machine).2 }
    return 0
  | none => feed o.name (String.join o.waiting.reverse)

/-- Close all outputs, and put out everything. -/
def closeAll : Evaluation Unit := do
  let outputs := (← get).outputs
  modify fun s => { s with outputs := [] }
  for o in outputs do
    if o.place?.isSome then discard (closeOutput o)
  for o in outputs do
    if o.place?.isNone then discard (closeOutput o)
  flushPrinted

/-- Close what has a name, and give its status. -/
def close (name : String) : Evaluation Value := do
  let s ← get
  let outputs := s.outputs.filter fun o => o.name == name
  let inputs := s.inputs.filter fun i => i.name == name
  set { s with
    outputs := s.outputs.filter fun o => o.name != name
    inputs := s.inputs.filter fun i => i.name != name }
  let mut status? : Option Nat := inputs.getLast?.map Input.status
  for o in outputs do
    status? := some (← closeOutput o)
  match status? with
  | some status => return .ofNat status
  | none => return .number (-1)

/-- Open an output. -/
def openOutput (direction : Direction) (name : String) : Evaluation Output := do
  match direction with
  | .command =>
    flushAll
    return ⟨name, none, []⟩
  | _ =>
    let appends := match direction with
      | .fileEnd => true
      | _ => false
    let s ← get
    match s.machine.openToWrite (Machine.pathOf name) ⟨true, !appends, false⟩ appends false with
    | .ok (place, m) =>
      set { s with machine := m }
      return ⟨name, some place, []⟩
    | .error cause =>
      throw (.refusal ("cannot open \"" ++ name ++ "\" for output (" ++ cause.reason ++ ")"))

/-- Write a text to what has a name. -/
def write (direction : Direction) (name text : String) : Evaluation Unit := do
  let isFile := match direction with
    | .command => false
    | _ => true
  if isFile && (name == "/dev/stdout" || name == "-") then
    modify fun s => { s with waiting := text :: s.waiting }
  else if isFile && name == "/dev/stderr" then
    modify fun s => { s with machine := s.machine.emit 2 text }
  else
    let known? := (← get).outputs.find? fun o => o.name == name && o.place?.isSome == isFile
    let output ← match known? with
      | some output => pure output
      | none => openOutput direction name
    modify fun s =>
      let others := s.outputs.filter fun o => !(o.name == name && o.place?.isSome == isFile)
      { s with outputs := { output with waiting := text :: output.waiting } :: others }

/-! ## Records -/

/-- What ends records. -/
def recordEnd : Evaluation RecordEnd := do
  let written ← globalText "RS"
  match written.toList with
  | [] => return .emptyLines
  | [c] => return .char c
  | _ => return .pattern (← regular written)

/-- How records are split. -/
def fieldSeparator : Evaluation Separator := do separator (← globalText "FS")

/-- Let a text be the record. -/
def setRecord (text : String) : Evaluation Unit := do
  let separator ← fieldSeparator
  let fields := (separator.split text.toList).map fun part => Value.input (String.ofList part)
  modify fun s => { s with record := .input text, fields := fields.toArray }

/-- Put the record together again from its fields. -/
def joinFields : Evaluation Unit := do
  let fields ← (← get).fields.toList.mapM textOf
  let text := (← globalText "OFS").intercalate fields
  modify fun s => { s with record := .text text }

/-- Let the record have so many fields. -/
def resize (count : Nat) : Evaluation Unit := do
  modify fun s =>
    let missing := Array.replicate (count - s.fields.size) (Value.text "")
    { s with fields := s.fields.extract 0 count ++ missing }
  joinFields

/-- Put a value under a name, which may be one that has a meaning. -/
def setName (name : String) (v : Value) : Evaluation Unit := do
  if name == "NF" && ((← get).locals.lookup name).isNone then
    match Format.whole? v.toNumber with
    | some count =>
      if count < 0 then
        throw (.fault ("negative value assigned to NF"))
      resize count.toNat
    | none => resize 0
  else
    match ← cell name with
    | .table _ => throw (.refusal ("illegal reference to array " ++ name))
    | _ => setCell name (.value v)

/-- A name and a text that it is to stand for, if a text says so. -/
def assignment? (text : String) : Option (String × String) :=
  let name := text.toList.takeWhile isNamed
  match name, text.toList.drop name.length with
  | c :: _, '=' :: rest =>
    if c.isDigit then none
    else some (String.ofList name, String.ofList (unescaped (rest.length + 1) rest))
  | _, _ => none

/-- Read all that is left of an input. -/
def readWhole (name : String) : Evaluation (Except SystemError (List Char)) := ofRun fun s =>
  let name := if name == "/dev/stdin" then "-" else name
  let (found, m) := Tool.readInput name s.machine
  (.ok found, { s with machine := m })

/-- Begin with an input of the program. -/
def beginInput (name : String) : Evaluation Unit := do
  let before := (← get).machine.world.isShort
  match ← readWhole name with
  | .ok text =>
    modify fun s =>
      { s with
        rest? := some text, hasInput := true, isBeginning := s.machine.world.isShort && !before
        machine := { s.machine with world := { s.machine.world with isShort := before } } }
    setGlobal "FILENAME" (.input name)
    setGlobal "FNR" (.number 0)
  | .error .isDirectory => throw (.refusal "read error (Is a directory)")
  | .error cause =>
    throw (.refusal ("cannot open \"" ++ name ++ "\" (" ++ cause.reason ++ ")"))

/-- The argument with a number. -/
def argumentAt (number : Nat) : Evaluation String := do
  let table ← tableOf "ARGV"
  match (← get).tables[table]? with
  | some found => textOf ((found.values[toString number]?).getD .blank)
  | none => return ""

/-- The next record of the inputs of the program, if there is one; at most so many inputs are
opened. -/
def nextRecord : Nat → Evaluation (Option (List Char))
  | 0 => return none
  | steps + 1 => do
    let s ← get
    match s.rest? with
    | some text =>
      match (← recordEnd).take? text with
      | some (record, rest) =>
        modify fun s => { s with rest? := some rest }
        return some record
      | none =>
        modify fun s =>
          let world := s.machine.world
          { s with
            rest? := none
            machine := { s.machine with
              world := { world with isShort := world.isShort || s.isBeginning } } }
        nextRecord steps
    | none =>
      if s.isOver then return none
      let count := (globalValue s "ARGC").toNumber
      if Float.ofNat s.argument < count then
        let text ← argumentAt s.argument
        modify fun s => { s with argument := s.argument + 1 }
        match assignment? text with
        | some (name, value) => setName name (.input value)
        | none => if text.isEmpty then pure () else beginInput text
        nextRecord steps
      else if s.hasInput then
        modify fun s => { s with isOver := true }
        return none
      else
        beginInput "-"
        nextRecord steps

/-- How many inputs may still be opened. -/
def inputsLeft : Evaluation Nat := do
  let s ← get
  return 2 * ((globalValue s "ARGC").toNumber.toUInt64.toNat + 2)

/-- Read the next record of the inputs of the program. -/
def readRecord : Evaluation Bool := do
  match ← nextRecord (← inputsLeft) with
  | some record =>
    countUp "NR"
    countUp "FNR"
    setRecord (String.ofList record)
    return true
  | none => return false

/-- The next record of an input with a name, if there is one; nothing is known if it cannot be
opened. -/
def readFrom (isCommand : Bool) (name : String) : Evaluation (Option (Option String)) := do
  let known? := (← get).inputs.find? fun i => i.name == name
  let opened? : Option Input ← match known? with
    | some input => pure (some input)
    | none =>
      if isCommand then
        let (text, status) ← harvest name
        pure (some ⟨name, text, status⟩)
      else
        match ← readWhole name with
        | .ok text => pure (some ⟨name, text, 0⟩)
        | .error _ => pure none
  match opened? with
  | none => return none
  | some input =>
    let found := (← recordEnd).take? input.rest
    let rest := (found.map Prod.snd).getD []
    modify fun s =>
      { s with inputs := { input with rest } :: s.inputs.filter fun i => i.name != name }
    return some (found.map fun found => String.ofList found.1)

end Evaluation
end Record
end TaskScript
