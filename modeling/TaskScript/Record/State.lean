import TaskScript.Record.Format
import TaskScript.Record.Pattern
import TaskScript.Record.Syntax
import TaskScript.Record.Table
import TaskScript.Tool.Wrapping

/-!
# State — what programs that work on records know

- `Record.Chance`     : numbers that look as if they were drawn
- `Record.Cell`       : what is under a name
- `Record.Halt`       : why statements are left
- `Record.State`      : names, the record with its fields, and everything that is read or written
- `Record.Evaluation` : what changes a state, and may be left
-/

namespace TaskScript
namespace Record

/-! ## Chance

Each number is the sum of two earlier ones.  The first ones are powers of a number, up to a seed. -/

/-- The last thirty-one numbers, the earliest first. -/
structure Chance where
  numbers : Array UInt32

instance : Inhabited Chance := ⟨⟨#[]⟩⟩

namespace Chance

/-- The number after the last ones: the sum of the earliest and of the one three places back. -/
def sum (c : Chance) : UInt32 := (c.numbers[0]?).getD 0 + (c.numbers[28]?).getD 0

/-- The state after one more number. -/
def step (c : Chance) : Chance := ⟨(c.numbers.push c.sum).extract 1 32⟩

/-- The greatest number. -/
def most : Nat := 2147483647

/-- A number up to the greatest one, and the state after it. -/
def next (c : Chance) : Nat × Chance := ((c.sum >>> 1).toNat, c.step)

/-- The first numbers: each is the one before it times 16807, without multiples of the greatest. -/
def first (seed : Nat) : Nat → List UInt32
  | 0 => []
  | count + 1 => UInt32.ofNat seed :: first (seed * 16807 % most) count

/-- The state that a seed leads to: the first three of the first numbers come last, and the next 310
numbers are passed over. -/
def ofSeed (seed : Nat) : Chance :=
  let seed := seed % 4294967296
  let numbers := first (if seed = 0 then 1 else seed) 31
  let begun : Chance := ⟨(numbers.drop 3 ++ numbers.take 3).toArray⟩
  (List.range 310).foldl (fun c _ => c.step) begun

end Chance

/-! ## States -/

open Shell (Machine)

/-- What is under a name. -/
inductive Cell
  /-- Nothing yet.  If the name is to stand for a table it is the one with this number. -/
  | unset (table? : Option Nat)
  | value (value : Value)
  /-- The table with a number. -/
  | table (number : Nat)

instance : Inhabited Cell := ⟨.unset none⟩

/-- Why statements are left. -/
inductive Halt
  | leave
  | again
  | next
  | nextFile
  | giveBack (value : Value)
  | quit
  /-- Something that cannot be done. -/
  | fault (message : String)
  /-- The same, where it does not matter which record is there. -/
  | refusal (message : String)

/-- How a text is split. -/
inductive Separator
  /-- At blanks; those around the text do not matter. -/
  | blanks
  /-- Between all characters. -/
  | none
  | char (c : Char)
  | pattern (regular : Regular)

/-- Something that is read record by record. -/
structure Input where
  name : String
  rest : List Char
  /-- What closing it gives. -/
  status : Nat

/-- Something that is written. -/
structure Output where
  name : String
  /-- Where a file is open; a command waits until it is closed. -/
  place? : Option Nat
  /-- What waits to be written, the latest first. -/
  waiting : List String

/-- Names, the record with its fields, and everything that is read or written. -/
structure State where
  machine : Machine
  launch : Launch
  routines : Bindings Routine
  globals : Std.HashMap String Cell
  locals : List (String × Cell)
  tables : Array Table
  record : Value
  fields : Array Value
  /-- What is left of the input being read. -/
  rest? : Option (List Char)
  /-- Whether that input is only the beginning of something. -/
  isBeginning : Bool
  /-- The number of the argument that is looked at next, and whether one of them was an input. -/
  argument : Nat
  hasInput : Bool
  isOver : Bool
  inputs : List Input
  outputs : List Output
  /-- What waits to be printed, the latest first. -/
  waiting : List String
  /-- Whether the record is within the range of a rule. -/
  ranges : Array Bool
  chance : Chance
  seed : Value
  status : Nat
  /-- The expressions that texts spelled. -/
  patterns : Std.HashMap String Regular

/-- What changes a state, and may be left. -/
abbrev Evaluation := ExceptT Halt (StateM State)

namespace Evaluation

/-- Repeat a step until it says that it is enough, at most so many times. -/
def iterate (step : Evaluation Bool) : Nat → State → Except Halt Unit × State
  | 0, s => (.error (.fault "too many repetitions"), s)
  | count + 1, s =>
    match step.run.run s with
    | (.ok true, s) => iterate step count s
    | (.ok false, s) => (.ok (), s)
    | (.error halt, s) => (.error halt, s)

/-- Take a step for each of some texts until it says that it is enough. -/
def forAll (step : String → Evaluation Bool) : List String → State → Except Halt Unit × State
  | [], s => (.ok (), s)
  | text :: rest, s =>
    match (step text).run.run s with
    | (.ok true, s) => forAll step rest s
    | (.ok false, s) => (.ok (), s)
    | (.error halt, s) => (.error halt, s)

/-- An evaluation from what it does to a state. -/
def ofRun {α : Type} (run : State → Except Halt α × State) : Evaluation α := run

/-! ## Names -/

/-- What is under a name. -/
def cell (name : String) : Evaluation Cell := do
  let s ← get
  match s.locals.lookup name with
  | some found => return found
  | none => return (s.globals[name]?).getD (.unset none)

/-- Put something under a name. -/
def setCell (name : String) (cell : Cell) : Evaluation Unit := modify fun s =>
  if (s.locals.lookup name).isSome then
    { s with locals := s.locals.map fun l => if l.1 == name then (name, cell) else l }
  else { s with globals := s.globals.insert name cell }

/-- The value of a name that belongs to the whole program. -/
def globalValue (s : State) (name : String) : Value :=
  match s.globals[name]? with
  | some (.value v) => v
  | _ => .blank

/-- How numbers become texts. -/
def convertFormat : Evaluation String := do
  match globalValue (← get) "CONVFMT" with
  | .text format | .input format => return format
  | _ => return "%.6g"

/-- A value as a text. -/
def textOf (v : Value) : Evaluation String := do
  match v with
  | .text s | .input s => return s
  | _ => return v.toText (← convertFormat)

/-- The text of a name that belongs to the whole program. -/
def globalText (name : String) : Evaluation String := do textOf (globalValue (← get) name)

/-- Put a value under a name that belongs to the whole program. -/
def setGlobal (name : String) (v : Value) : Evaluation Unit := modify fun s =>
  { s with globals := s.globals.insert name (.value v) }

/-- Count a name up that belongs to the whole program. -/
def countUp (name : String) : Evaluation Unit := modify fun s =>
  let n := (globalValue s name).toNumber + 1
  { s with globals := s.globals.insert name (.value (.number n)) }

/-! ## Tables -/

/-- A new table, and its number. -/
def newTable : Evaluation Nat := do
  let number := (← get).tables.size
  modify fun s => { s with tables := s.tables.push .empty }
  return number

/-- The number of the table under a name. -/
def tableOf (name : String) : Evaluation Nat := do
  match ← cell name with
  | .table number => return number
  | .unset (some number) =>
    setCell name (.table number)
    return number
  | .unset none =>
    let number ← newTable
    setCell name (.table number)
    return number
  | .value _ => throw (.refusal ("illegal reference to variable " ++ name))

/-- Change the table with a number. -/
def changeTable (number : Nat) (change : Table → Table) : Evaluation Unit := modify fun s =>
  { s with tables := s.tables.modify number change }

/-- Look for something in the table with a number, which may change by that. -/
def lookIn {α : Type} [Inhabited α] (number : Nat) (look : Table → α × Table) : Evaluation α :=
  ofRun fun s =>
    match s.tables[number]? with
    | none => (.ok default, s)
    | some table =>
      let tables := s.tables.setIfInBounds number default
      let found := look table
      (.ok found.1, { s with tables := tables.setIfInBounds number found.2 })

/-! ## Expressions -/

/-- The expression that a text spells. -/
def regular (written : String) : Evaluation Regular := do
  match (← get).patterns[written]? with
  | some found => return found
  | none =>
    match Pattern.read written with
    | .ok found =>
      modify fun s => { s with patterns := s.patterns.insert written found }
      return found
    | .error message => throw (.fault message)

/-- How a text is split that is given by another one. -/
def separator (written : String) : Evaluation Separator := do
  match written.toList with
  | [] => return .none
  | [' '] => return .blanks
  | [c] => return .char c
  | _ => return .pattern (← regular written)

end Evaluation

namespace Separator

/-- The words of a text. -/
def words : Nat → List Char → List (List Char)
  | 0, _ => []
  | steps + 1, text =>
    match text.dropWhile Value.isBlank with
    | [] => []
    | c :: rest =>
      let word := (c :: rest).takeWhile fun c => !Value.isBlank c
      word :: words steps ((c :: rest).drop word.length)

/-- The parts of a text. -/
def split (separator : Separator) (text : List Char) : List (List Char) :=
  if text.isEmpty then []
  else
    match separator with
    | blanks => words (text.length + 1) text
    | none => text.map fun c => [c]
    | char c => Tool.Lines.parts c text
    | pattern regular => Pattern.parts regular text

end Separator

end Record
end TaskScript
