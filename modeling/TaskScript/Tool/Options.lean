import TaskScript.Tool.Basic

/-!
# Options — how tools are told what to do

Options stand among the arguments: letters after a hyphen, several of them together, and names after
two hyphens, which may be cut short as long as they stay clear.  Some are followed by a value.

- `Options.Choice`  : an option that a tool knows
- `Options.Wording` : the words that a value may be
- `Options.read`    : the options and the other arguments
- `byOptions`       : a tool that goes by its options
-/

namespace TaskScript

open Shell (Machine)

namespace Tool
namespace Options

/-- The words that a value may be, and what complaints call the option.  Words that mean the same
stand together; they may be cut short as long as they stay clear. -/
structure Wording where
  about : String
  words : List (List String)
  deriving DecidableEq, Repr

/-- What an option is followed by. -/
inductive Takes
  | nothing
  | value
  /-- A value that has to follow without a blank, if at all. -/
  | perhaps
  /-- A value that is one of some words. -/
  | word (wording : Wording)
  /-- Such a value that has to follow without a blank, if at all. -/
  | perhapsWord (wording : Wording)
  deriving DecidableEq, Repr

/-- Whether an option takes the next argument as its value. -/
def Takes.needsValue : Takes → Bool
  | value | word _ => true
  | nothing | perhaps | perhapsWord _ => false

/-- An option that a tool knows: by what it is told from others, its letter and its name. -/
structure Choice where
  key : String
  letter? : Option Char
  name? : Option String
  takes : Takes
  deriving DecidableEq, Repr

/-- An option with a letter and a name. -/
def Choice.flag (letter : Char) (name : String) : Choice :=
  ⟨String.singleton letter, some letter, some name, .nothing⟩

/-- An option with a letter and a name that is followed by a value. -/
def Choice.valued (letter : Char) (name : String) : Choice :=
  ⟨String.singleton letter, some letter, some name, .value⟩

/-- An option with a letter and a name that may be followed by a value. -/
def Choice.optional (letter : Char) (name : String) : Choice :=
  ⟨String.singleton letter, some letter, some name, .perhaps⟩

/-- Options that have only letters. -/
def flags (letters : String) : List Choice :=
  letters.toList.map fun c => ⟨String.singleton c, some c, none, .nothing⟩

/-- An option that has only a name. -/
def Choice.named (name : String) : Choice := ⟨name, none, some name, .nothing⟩

/-- An option that has only a name and is followed by a value. -/
def Choice.namedValue (name : String) : Choice := ⟨name, none, some name, .value⟩

/-- An option whose value, which it may need or not, is one of some words. -/
def Choice.wordy (letter? : Option Char) (name : String) (isNeeded : Bool)
    (words : List (List String)) : Choice :=
  let key := (letter?.map String.singleton).getD name
  let wording : Wording := ⟨"--" ++ name, words⟩
  ⟨key, letter?, some name, if isNeeded then .word wording else .perhapsWord wording⟩

/-- A further name for an option. -/
def Choice.synonym (key name : String) (takes : Takes) : Choice := ⟨key, none, some name, takes⟩

/-! ## Reading -/

/-- What is wrong with the arguments of a tool, and the status with which it ends if that is not its
usual one. -/
structure Misuse where
  message : String
  status? : Option Nat
  deriving DecidableEq, Repr

/-- The options of a tool with their values, its other arguments, and what was wrong. -/
structure Reading where
  found : List (String × String)
  operands : List String
  fault? : Option Misuse
  deriving DecidableEq, Repr

namespace Reading

/-- Whether an option was given. -/
def has (r : Reading) (key : String) : Bool := r.found.any fun o => o.1 == key

/-- The value that an option was given last. -/
def value? (r : Reading) (key : String) : Option String :=
  (r.found.reverse.find? fun o => o.1 == key).map Prod.snd

/-- All values that an option was given. -/
def values (r : Reading) (key : String) : List String :=
  (r.found.filter fun o => o.1 == key).map Prod.snd

/-- Which of some options was given last. -/
def last? (r : Reading) (keys : List String) : Option String :=
  (r.found.reverse.find? fun o => keys.contains o.1).map Prod.fst

/-- Put options before those that were found. -/
def after (r : Reading) (found : List (String × String)) : Reading :=
  { r with found := found ++ r.found }

end Reading

/-- What one argument comes to: options, and perhaps one that takes the next argument as its value
or a fault. -/
structure Step where
  found : List (String × String)
  waiting? : Option (Choice × String)
  fault? : Option Misuse

namespace Step

/-- An option with a value. -/
def one (key value : String) : Step := ⟨[(key, value)], none, none⟩

/-- A fault. -/
def wrong (message : String) : Step := ⟨[], none, some ⟨message, none⟩⟩

end Step

namespace Wording

/-- The first of the words that mean the same as a text, or what is wrong with it. -/
def read (w : Wording) (text : String) : Except String String :=
  let named (is : String → Bool) : List (List String) := w.words.filter fun same => same.any is
  let list := w.words.map fun same =>
    "\n  - " ++ ", ".intercalate (same.map fun word => "'" ++ word ++ "'")
  let refused (what : String) : Except String String :=
    .error (what ++ " argument " ++ Quoting.plain text ++ " for '" ++ w.about ++
      "'\nValid arguments are:" ++ String.join list)
  match named (· == text), named (·.startsWith text) with
  | same :: _, _ | [], [same] => .ok (same.headD text)
  | [], [] => refused "invalid"
  | [], _ => refused "ambiguous"

end Wording

/-- An option with a value. -/
def Choice.given (choice : Choice) (value : String) : Step :=
  match choice.takes with
  | .word wording | .perhapsWord wording =>
    match wording.read value with
    | .ok word => .one choice.key word
    | .error message => ⟨[], none, some ⟨message, some 1⟩⟩
  | _ => .one choice.key value

/-- The letters of one argument. -/
def letters (choices : List Choice) : List Char → Step
  | [] => ⟨[], none, none⟩
  | c :: rest =>
    let letter := "'" ++ String.singleton c ++ "'"
    match choices.find? fun choice => choice.letter? == some c with
    | none => .wrong ("invalid option -- " ++ letter)
    | some choice =>
      if choice.takes == .nothing then
        let step := letters choices rest
        { step with found := (choice.key, "") :: step.found }
      else if !rest.isEmpty then choice.given (String.ofList rest)
      else if choice.takes.needsValue then
        ⟨[], some (choice, "option requires an argument -- " ++ letter), none⟩
      else .one choice.key ""

/-- The choices that a name, which may be cut short, can mean. -/
def candidates (choices : List Choice) (name : String) : List Choice :=
  match choices.filter fun choice => choice.name? == some name with
  | [] => choices.filter fun choice =>
      match choice.name? with
      | some full => full.startsWith name
      | none => false
  | exact => exact

/-- The name in one argument, and its value if one follows an equals sign. -/
def longName (choices : List Choice) (text : String) : Step :=
  let (name, value?) := match Text.splitOnce? '=' text.toList with
    | some (name, value) => (String.ofList name, some (String.ofList value))
    | none => (text, none)
  match candidates choices name with
  | [] => .wrong ("unrecognized option '--" ++ text ++ "'")
  | choice :: others =>
    let full := "'--" ++ choice.name?.getD "" ++ "'"
    if others.any fun other => other.key != choice.key then
      let names := (choice :: others).map fun c => " '--" ++ c.name?.getD "" ++ "'"
      .wrong ("option '--" ++ text ++ "' is ambiguous; possibilities:" ++ String.join names)
    else
      match value? with
      | some value =>
        if choice.takes == .nothing then .wrong ("option " ++ full ++ " doesn't allow an argument")
        else choice.given value
      | none =>
        if choice.takes.needsValue then
          ⟨[], some (choice, "option " ++ full ++ " requires an argument"), none⟩
        else .one choice.key ""

/-- What one argument comes to if it holds options. -/
def step? (choices : List Choice) (arg : String) : Option Step :=
  match arg.toList with
  | '-' :: '-' :: name => some (longName choices (String.ofList name))
  | '-' :: c :: rest => some (letters choices (c :: rest))
  | _ => none

/-- The options and the other arguments.  Options may follow other arguments unless the tool
`stops` at the first of those. -/
def read (choices : List Choice) (stops : Bool) : List String → Reading
  | [] => ⟨[], [], none⟩
  | "--" :: rest => ⟨[], rest, none⟩
  | arg :: rest =>
    match step? choices arg with
    | none =>
      if stops then ⟨[], arg :: rest, none⟩
      else
        let reading := read choices stops rest
        { reading with operands := arg :: reading.operands }
    | some ⟨found, _, some fault⟩ => ⟨found, [], some fault⟩
    | some ⟨found, none, none⟩ => (read choices stops rest).after found
    | some ⟨found, some (choice, fault), none⟩ =>
      match rest with
      | [] => ⟨found, [], some ⟨fault, none⟩⟩
      | value :: rest =>
        let step := choice.given value
        match step.fault? with
        | some fault => ⟨found, [], some fault⟩
        | none => (read choices stops rest).after (found ++ step.found)

end Options

/-- A tool that goes by its options; when it is called in a wrong way, it ends with a status. -/
def byOptionsAt (status : Nat) (stops : Bool) (choices : List Options.Choice)
    (tool : Options.Reading → Machine → Machine) : Tool := fun args m =>
  let reading := Options.read choices (stops || (m.value? "POSIXLY_CORRECT").isSome) args
  match reading.fault? with
  | some fault => misuseWith (fault.status?.getD status) fault.message m
  | none => tool reading m

/-- A tool that goes by its options, which may follow its other arguments. -/
def byOptions (choices : List Options.Choice) (tool : Options.Reading → Machine → Machine) : Tool :=
  byOptionsAt 1 false choices tool

end Tool
end TaskScript
