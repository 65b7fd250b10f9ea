import TaskScript.Shell.Builtin.Basic

/-!
# Variables — builtins for variables, options and arguments

`export`, `readonly`, `local`, `unset`, `set` and `shift`.
-/

namespace TaskScript
namespace Shell
namespace Builtin

/-! ## Variables -/

/-- Give a variable a value, and change what else is said of it.  A name that is none and a variable
that cannot be changed are refused. -/
def declare (name : String) (value? : Option String) (change : Variable → Variable) (m : Machine) :
    Machine :=
  if !Reader.isName name then giveUp m (name ++ ": bad variable name")
  else
    match value? with
    | some value =>
      let m := m.set name value
      if m.flow == .onward then m.mark name change else m
    | none => m.mark name change

/-- Carry out a step for each argument until one fails. -/
def eachArgument (step : String → Machine → Machine) (args : List String) (m : Machine) :
    Machine :=
  args.foldl (fun m arg => if m.flow == .onward then step arg m else m) m

/-- The variables as commands that would set them again. -/
def listing (before : String) (wanted : Variable → Bool) (m : Machine) : List String :=
  let chosen := (m.vars.entries.filter fun v => wanted v.2).mergeSort fun a b => decide (a.1 ≤ b.1)
  chosen.map fun (name, v) =>
    before ++ name ++
      match v.value? with
      | some value => "=" ++ inQuotes value
      | none => ""

/-- Print lines. -/
def printLines (all : List String) (m : Machine) : Machine := all.foldl Machine.printLine m

/-- A builtin that marks variables, or lists those that are marked. -/
def marking (name : String) (change : Variable → Variable) (marked : Variable → Bool) : Builtin :=
  withOptions "p" fun chosen args m =>
    let m := m.withStatus 0
    if chosen.isEmpty && !args.isEmpty then
      eachArgument (fun arg m =>
        let (name, value?) := assignment arg
        declare name value? change m) args m
    else
      printLines (listing (name ++ " ") marked m) m

/-- Variables that programs inherit. -/
def «export» : Builtin :=
  marking "export" (fun v => { v with exported := true }) Variable.exported

/-- Variables that cannot be changed. -/
def readonly : Builtin :=
  marking "readonly" (fun v => { v with fixed := true }) Variable.fixed

/-- The name under which the options are remembered among the variables of a function. -/
def optionsName : String := "-"

/-- Remember what a variable is outside the function. -/
def hide (name : String) (m : Machine) : Machine :=
  let before :=
    if name == optionsName then some ⟨some (String.ofList m.options), false, false⟩
    else m.vars.get? name
  match m.hidden with
  | inner :: outer => { m with hidden := ((name, before) :: inner) :: outer }
  | [] => m

/-- Variables that belong to the function being carried out. -/
def «local» : Builtin := fun args m =>
  if m.depth = 0 then giveUp m "not in a function"
  else
    eachArgument (fun arg m =>
      if arg == optionsName then hide arg m
      else
        let (name, value?) := assignment arg
        if Reader.isName name then declare name value? id (hide name m)
        else giveUp m (name ++ ": bad variable name")) args (m.withStatus 0)

/-- The variables that stay known when they have no value. -/
def lastingNames : List String :=
  ["IFS", "MAIL", "MAILPATH", "PATH", "PS1", "PS2", "PS4", "OPTIND"]

/-- Take the value of a variable away. -/
def unsetVariable (name : String) (m : Machine) : Machine :=
  if !Reader.isName name then giveUp m (name ++ ": bad variable name")
  else if m.isFixed name then giveUp m (name ++ ": is read only")
  else if lastingNames.contains name then m.mark name fun v => { v with value? := none }
  else m.restore name none

/-- Forget variables or functions. -/
def «unset» : Builtin :=
  withOptions "vf" fun chosen args m =>
    let step (name : String) (m : Machine) : Machine :=
      if lastLetter? chosen == some 'f' then
        { m with routines := ⟨m.routines.entries.filter fun r => r.1 != name⟩ }
      else unsetVariable name m
    eachArgument step args (m.withStatus 0)

/-! ## Options -/

/-- The options as a table. -/
def optionTable (m : Machine) : List String :=
  "Current option settings" :: Machine.optionNames.map fun (letter, name) =>
    Numeral.filled 16 name ++ if m.has letter then "on" else "off"

/-- The options as commands that would set them again. -/
def optionCommands (m : Machine) : List String :=
  Machine.optionNames.map fun (letter, name) =>
    "set " ++ (if m.has letter then "-o " else "+o ") ++ name

/-- Switch the option of a name. -/
def switchNamed (on : Bool) (name : String) (m : Machine) : Machine :=
  match Machine.optionNames.find? fun o => o.2 == name with
  | some (letter, _) => m.switch on letter
  | none => giveUp m ("Illegal option -o " ++ name)

/-- Switch the option of a letter. -/
def switchLetter (on : Bool) (letter : Char) (m : Machine) : Machine :=
  if Machine.optionNames.any fun o => o.1 == letter && ' ' < letter then m.switch on letter
  else giveUp m ("Illegal option -" ++ String.singleton letter)

/-- Switch the options of letters; `o` takes a name from the arguments that follow. -/
def switchLetters (on : Bool) : List Char → List String → Machine → List String × Machine
  | [], args, m => (args, m)
  | 'o' :: letters, args, m =>
    match args with
    | name :: rest => switchLetters on letters rest (switchNamed on name m)
    | [] =>
      switchLetters on letters [] (printLines (if on then optionTable m else optionCommands m) m)
  | letter :: letters, args, m => switchLetters on letters args (switchLetter on letter m)

/-- Switch options, and give the arguments after them; none if there is nothing after them and the
arguments are to stay.  `steps` is more than the number of arguments. -/
def switchAll : Nat → List String → Machine → Option (List String) × Machine
  | 0, _, m => (none, m)
  | _ + 1, [], m => (none, m)
  | steps + 1, arg :: rest, m =>
    let given (args : List String) : Option (List String) :=
      if args.isEmpty then none else some args
    match arg.toList with
    | ['-'] => (given rest, (m.switch false 'x').switch false 'v')
    | ['-', '-'] => (some rest, m)
    | sign :: letters =>
      if sign == '-' || sign == '+' then
        let (args, m) := switchLetters (sign == '-') letters rest m
        if m.flow == .onward then switchAll steps args m else (none, m)
      else (some (arg :: rest), m)
    | [] => (some (arg :: rest), m)

/-- Options and arguments of the shell, or a list of all variables. -/
def «set» : Builtin := fun args m =>
  let m := m.withStatus 0
  if args.isEmpty then printLines (listing "" (fun v => v.value?.isSome) m) m
  else
    match switchAll (args.length + 1) args m with
    | (some args, m) => m.withArgs args
    | (none, m) => m

/-- Drop the first arguments. -/
def shift : Builtin := fun args m =>
  let drop (count : Nat) : Machine :=
    if m.args.length < count then giveUp m "can't shift that many"
    else (m.withArgs (m.args.drop count)).withStatus 0
  match args with
  | [] => drop 1
  | arg :: _ =>
    match number? arg with
    | some count => drop count
    | none => giveUp m (notNumber arg)

end Builtin
end Shell
end TaskScript
