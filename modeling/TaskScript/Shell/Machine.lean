import TaskScript.Bindings
import TaskScript.Number.Numeral
import TaskScript.Shell.Syntax
import TaskScript.Shell.World

/-!
# Machine — the state of a process

- `Flow`    : whether a program goes on with its next command
- `Machine` : descriptors, variables, arguments, options, and the last status

The same state serves shells and the programs that they start; a program looks at little more than
its descriptors and its environment.  All texts are texts of octets.
-/

namespace TaskScript
namespace Shell

/-- Whether a program goes on with its next command. -/
inductive Flow
  | onward
  /-- The process is being left. -/
  | leaving
  /-- Something went wrong that a shell does not survive unless a command of its own stands for
  it. -/
  | failing
  /-- So many loops are being left. -/
  | breaking (loops : Nat)
  /-- So many loops are being left but for the last, which goes on. -/
  | continuing (loops : Nat)
  /-- The function or the file of commands is being left. -/
  | returning
  /-- A signal ended the process. -/
  | killed (signal : Nat)
  deriving DecidableEq, Repr

/-- A variable, which may be declared without a value. -/
structure Variable where
  value? : Option String
  exported : Bool
  fixed : Bool
  deriving DecidableEq, Repr

/-- The state of a process. -/
structure Machine where
  world : World
  /-- The directory in which relative paths start, as it was reached. -/
  directory : String
  /-- Where descriptors lead: places among the open files. -/
  links : List (Nat × Nat)
  vars : Bindings Variable
  routines : Bindings Program
  aliases : Bindings String
  /-- The names of the programs that have been found, with their paths. -/
  found : Bindings String
  /-- What is done on a signal; nothing for an empty text. -/
  traps : List (Nat × String)
  /-- The options that are switched on, by their letters. -/
  options : List Char
  /-- What the process calls itself. -/
  name : String
  args : List String
  status : Nat
  flow : Flow
  /-- The line of the command being carried out. -/
  line : Nat
  /-- How many loops and functions are being carried out. -/
  loops : Nat
  depth : Nat
  /-- The number of this process, those of the process that began it, of the one that began that and
  so on, and that of the shell from which this process was split off. -/
  process : Nat
  parents : List Nat
  shell : Nat
  /-- The number of the last process begun by the side. -/
  beside? : Option Nat
  /-- The old values of the variables that functions made their own, innermost function first. -/
  hidden : List (List (String × Option Variable))
  /-- The documents of the programs read so far. -/
  documents : List (Nat × Word)
  nextDocument : Nat
  /-- The permissions that new files lack. -/
  mask : Nat
  /-- The command being carried out, where its complaints are to name it. -/
  command? : Option String
  /-- The status of the last command whose output was put into a word. -/
  outputStatus : Nat
  /-- Where commands are told while they have another error output. -/
  errors? : Option Nat
  /-- The status with which a shell is left while something is done on a signal. -/
  held? : Option Nat
  /-- The number of the argument that is looked at next for option letters, and how far the one
  before it has been read. -/
  optionIndex : Nat
  optionOffset : Nat
  /-- Whether some output could not be written. -/
  lost : Option SystemError

namespace Machine

/-! ## Files -/

/-- The files there are. -/
def store (m : Machine) : Store := m.world.store

/-- Replace the files. -/
def withStore (m : Machine) (store : Store) : Machine :=
  { m with world := { m.world with store } }

/-- Replace the directory in which relative paths start. -/
def withHere (m : Machine) (here : Location) : Machine :=
  m.withStore { m.store with here }


/-- The path that octets spell. -/
def pathOf (octets : String) : Path := .ofOctets octets

/-- The directory in which relative paths start, without regard to how it was reached. -/
def location (m : Machine) : String := (Store.pathTo m.store.here).octets

/-! ## Descriptors -/

/-- Where a descriptor leads. -/
def place? (m : Machine) (descriptor : Nat) : Option Nat := m.links.lookup descriptor

/-- Let a descriptor lead to a place, or nowhere. -/
def linked (m : Machine) (descriptor : Nat) (place : Option Nat) : Machine :=
  let others := m.links.filter fun l => l.1 != descriptor
  { m with links := match place with
      | some place => (descriptor, place) :: others
      | none => others }

/-- Open a path for reading, and give its place. -/
def openToRead (m : Machine) (path : Path) : Except SystemError (Nat × Machine) :=
  match m.world.openToRead m.place? path with
  | .ok (place, world) => .ok (place, { m with world })
  | .error e => .error e

/-- Open a path for writing, and perhaps for reading, and give its place. -/
def openToWrite (m : Machine) (path : Path) (how : Creation) (appends reads : Bool) :
    Except SystemError (Nat × Machine) :=
  match m.world.openToWrite m.place? path how appends reads m.mask with
  | .ok (place, world) => .ok (place, { m with world })
  | .error e => .error e

/-- Write bytes to a descriptor. -/
def emitBytes (m : Machine) (descriptor : Nat) (bytes : ByteArray) : Machine :=
  if bytes.isEmpty then m
  else
    match m.place? descriptor with
    | none => { m with lost := some .badDescriptor }
    | some place =>
      match m.world.write place bytes with
      | .ok world => { m with world }
      | .error e => { m with lost := some e }

/-- Write octets to a descriptor. -/
def emit (m : Machine) (descriptor : Nat) (octets : String) : Machine :=
  m.emitBytes descriptor (Octets.toBytes octets)

/-- Print octets. -/
def print (m : Machine) (octets : String) : Machine := m.emit 1 octets

/-- Print octets given as characters. -/
def printChars (m : Machine) (octets : List Char) : Machine := m.emitBytes 1 (Octets.bytesOf octets)

/-- Print a line. -/
def printLine (m : Machine) (line : String) : Machine := m.print (line ++ "\n")

/-- Print a line where errors go. -/
def complain (m : Machine) (line : String) : Machine :=
  { m.emit 2 (line ++ "\n") with lost := m.lost }

/-- Set the status. -/
def withStatus (m : Machine) (status : Nat) : Machine := { m with status }

/-- Complain in the shell's own name. -/
def warn (m : Machine) (message : String) : Machine :=
  let command := match m.command? with
    | some command => command ++ ": "
    | none => ""
  m.complain (m.name ++ ": " ++ toString m.line ++ ": " ++ command ++ message)

/-- Complain in the shell's own name, and fail. -/
def abandon (m : Machine) (message : String) (status : Nat) : Machine :=
  { m.warn message with status, flow := .failing }

/-- Complain where commands are told before they are carried out. -/
def tell (m : Machine) (line : String) : Machine :=
  match m.errors? with
  | some place =>
    match m.world.write place (Octets.toBytes (line ++ "\n")) with
    | .ok world => { m with world }
    | .error _ => m
  | none => m.complain line

/-- The first bytes of what is left to be read at a descriptor, so many if a number is given. -/
def availableUpTo (m : Machine) (descriptor : Nat) (most? : Option Nat) :
    Except SystemError ByteArray :=
  match m.place? descriptor with
  | none => .error .badDescriptor
  | some place => m.world.availableUpTo place most?

/-- What is left to be read at a descriptor. -/
def available (m : Machine) (descriptor : Nat) : Except SystemError ByteArray :=
  match m.place? descriptor with
  | none => .error .badDescriptor
  | some place => m.world.available place

/-- Go on so many bytes further at a descriptor. -/
def advance (m : Machine) (descriptor count : Nat) : Machine :=
  match m.place? descriptor with
  | none => m
  | some place => { m with world := m.world.advance place count }

/-- Read everything that is left at a descriptor. -/
def drain (m : Machine) (descriptor : Nat) : Except SystemError ByteArray × Machine :=
  match m.available descriptor with
  | .ok bytes => (.ok bytes, m.advance descriptor bytes.size)
  | .error e => (.error e, m)

/-! ## Variables -/

/-- The value of a variable. -/
def value? (m : Machine) (name : String) : Option String :=
  (m.vars.get? name).bind Variable.value?

/-- Whether a variable cannot be changed. -/
def isFixed (m : Machine) (name : String) : Bool :=
  ((m.vars.get? name).map Variable.fixed).getD false

/-- Whether an option is switched on. -/
def has (m : Machine) (option : Char) : Bool := m.options.contains option

/-- Give a variable a value without asking whether it may be changed. -/
def put (m : Machine) (name value : String) : Machine :=
  let v : Variable := match m.vars.get? name with
    | some v => { v with value? := some value }
    | none => ⟨some value, false, false⟩
  let v := if m.has 'a' then { v with exported := true } else v
  let m := { m with vars := m.vars.set name v }
  if name == "PATH" then { m with found := .empty }
  else if name == "OPTIND" then
    { m with optionIndex := (Numeral.natural? value).getD 1, optionOffset := 0 }
  else m

/-- Give a variable a value; the shell is left if it may not be changed. -/
def set (m : Machine) (name value : String) : Machine :=
  if m.isFixed name then m.abandon (name ++ ": is read only") 2 else m.put name value

/-- Change what is said of a variable beside its value. -/
def mark (m : Machine) (name : String) (change : Variable → Variable) : Machine :=
  { m with vars := m.vars.set name (change ((m.vars.get? name).getD ⟨none, false, false⟩)) }

/-- Give a variable what it was before. -/
def restore (m : Machine) (name : String) (before : Option Variable) : Machine :=
  match before with
  | some v => { m with vars := m.vars.set name v }
  | none => { m with vars := ⟨m.vars.entries.filter fun v => v.1 != name⟩ }

/-- The place of a name in the order in which a shell hands on its environment. -/
def bucket (name : String) : Nat :=
  match name.toList with
  | [] => 0
  | c :: rest => ((c :: rest).foldl (fun n d => n + d.toNat) (c.toNat * 16)) % 39

/-- Replace the arguments. -/
def withArgs (m : Machine) (args : List String) : Machine :=
  { m with args, optionIndex := 1, optionOffset := 0 }

/-- The same with the variables in the order in which a shell hands them on. -/
def arranged (m : Machine) : Machine :=
  { m with vars := ⟨m.vars.entries.mergeSort fun a b => decide (bucket a.1 ≤ bucket b.1)⟩ }

/-- What programs find in their environment. -/
def environment (m : Machine) : Bindings String :=
  ⟨m.vars.entries.filterMap fun v =>
    if v.2.exported then v.2.value?.map fun value => (v.1, value) else none⟩

/-- The directories in which programs are looked for. -/
def searchPath (m : Machine) : String :=
  (m.value? "PATH").getD "/usr/local/sbin:/usr/local/bin:/usr/sbin:/usr/bin:/sbin:/bin"

/-- The blanks at which words are cut unless others are chosen. -/
def usualSeparators : String := " \t\n"

/-- The characters at which words are cut. -/
def separators (m : Machine) : List Char := ((m.value? "IFS").getD usualSeparators).toList

/-! ## Parameters -/

/-- The options: a letter and a name.  Two have no letter that could be written. -/
def optionNames : List (Char × String) :=
  [('e', "errexit"), ('f', "noglob"), ('I', "ignoreeof"), ('i', "interactive"), ('m', "monitor"),
    ('n', "noexec"), ('s', "stdin"), ('x', "xtrace"), ('v', "verbose"), ('V', "vi"), ('E', "emacs"),
    ('C', "noclobber"), ('a', "allexport"), ('b', "notify"), ('u', "nounset"), ('p', "privileged"),
    ('\x01', "nolog"), ('\x02', "debug")]

/-- Switch an option on or off. -/
def switch (m : Machine) (on : Bool) (letter : Char) : Machine :=
  let others := m.options.filter (· != letter)
  { m with options := if on then letter :: others else others }

/-- The letters of the options that are switched on, in the order in which they are told. -/
def switched (m : Machine) : String :=
  let letters := optionNames.map Prod.fst
  String.ofList ((letters.filter fun c => m.has c && ' ' < c).reverse)

/-- The value of a parameter that is one text. -/
def parameter? (m : Machine) (name : String) : Option String :=
  match name with
  | "?" => some (toString m.status)
  | "#" => some (toString m.args.length)
  | "$" => some (toString m.shell)
  | "-" => some m.switched
  | "!" => m.beside?.map fun n => toString n
  | "0" => some m.name
  | _ =>
    match Numeral.natural? name with
    | some n => if n = 0 then some m.name else m.args[n - 1]?
    | none => m.value? name

end Machine
end Shell
end TaskScript
