/-!
# Options — what a command line asks for

Options come first.  The first token that is none of them, and all after it, are the tokens that say
which tasks to run.

- `Setting`, `Switch` : the options that take a value, and those that take none
- `Options`           : the values and switches given, and the tokens that remain
- `Arguments`         : what the parser of command lines makes of the tokens
-/

namespace TaskScript

/-- The options that take a value. -/
inductive Setting
  | file
  | dir
  | envFile
  deriving DecidableEq, Repr

/-- The options that take none. -/
inductive Switch
  | quiet
  | silent
  | verbose
  | strict
  | noDotenv
  | list
  | check
  | dump
  deriving DecidableEq, Repr

/-- What is given before the tokens that say which tasks to run, and those tokens. -/
structure Options where
  values : List (Setting × String)
  switches : List Switch
  tokens : List String
  deriving DecidableEq, Repr

namespace Options

/-- The value of an option. -/
def value? (o : Options) (s : Setting) : Option String := o.values.lookup s

/-- Whether an option is given. -/
def has (o : Options) (s : Switch) : Bool := o.switches.contains s

end Options

/-- What the parser of command lines makes of the tokens. -/
inductive Arguments
  /-- They are accepted. -/
  | accepted (options : Options)
  /-- The parser prints something and ends the program. -/
  | ended (exit : Nat) (out err : String)
  deriving DecidableEq, Repr

end TaskScript
