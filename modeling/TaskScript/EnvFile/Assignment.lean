import TaskScript.Environment
import TaskScript.SystemError
import TaskScript.Text.Basic

/-!
# Assignment — one line of an environment file

A line assigns a text to a name: `NAME=value`, with `export` in front if one likes.  Text in single
quotes stands for itself; elsewhere a backslash escapes a character and `$NAME` or `$` with a name
in braces stands for a value of the environment.  After a value only a comment may follow.

- `Assignment.ofLine?` : the assignment on a line, if there is one
- `EnvFault`           : why a file gives no environment

The fault of a name is given by its place in the line, in bytes; that of a value by its place in the
value, in characters, and a value that has no end by its last byte.
-/

namespace TaskScript

/-- Why a file gives no environment. -/
inductive EnvFault
  /-- The file cannot be read. -/
  | unreadable (cause : SystemError)
  /-- A text is no assignment from some place on. -/
  | malformed (text : String) (place : Nat)
  /-- A value that no variable can have. -/
  | unassignable (name value : String)
  deriving DecidableEq, Repr

/-- A name and the text assigned to it. -/
structure Assignment where
  name : String
  value : String
  deriving DecidableEq, Repr

namespace Assignment

/-! ## Values -/

/-- What is being read. -/
inductive Mode
  /-- The value, outside single quotes. -/
  | text
  /-- The character after a backslash. -/
  | escaped
  /-- Text in single quotes. -/
  | single
  /-- A name after a dollar sign. -/
  | name (reversed : List Char)
  /-- A name in braces after a dollar sign. -/
  | braced (reversed : List Char)
  /-- What may follow a value. -/
  | after
  deriving DecidableEq, Repr

/-- How far a value has been read: the characters of its text so far, the last first. -/
structure ValueState where
  mode : Mode
  double : Bool
  reversed : List Char

/-- Add a text to what has been read. -/
def ValueState.add (s : ValueState) (text : List Char) (mode : Mode) : ValueState :=
  { s with reversed := text.reverse ++ s.reversed, mode }

/-- The characters that stand for themselves after a backslash. -/
def escapable : List Char := ['\\', '\'', '"', '$', ' ']

/-- What a character does to the text outside quotes or within double quotes. -/
def ofText (s : ValueState) (c : Char) : ValueState :=
  if c == '$' then { s with mode := .name [] }
  else if c == '"' then { s with double := !s.double }
  else if c == '\\' then { s with mode := .escaped }
  else if s.double then s.add [c] .text
  else if c == '\'' then { s with mode := .single }
  else if c == ' ' || c == '\t' then { s with mode := .after }
  else s.add [c] .text

/-- What a character does, none if it does not belong there. -/
def step? (lookup : List Char → List Char) (s : ValueState) (c : Char) : Option ValueState :=
  match s.mode with
  | .after => if c == ' ' || c == '\t' then some s else none
  | .escaped =>
    if escapable.contains c then some (s.add [c] .text)
    else if c == 'n' then some (s.add ['\n'] .text)
    else none
  | .single => some (if c == '\'' then { s with mode := .text } else s.add [c] .single)
  | .name reversed =>
    if CharClass.isAlphanumeric c then some { s with mode := .name (c :: reversed) }
    else if c == '\x7b' && reversed.isEmpty then some { s with mode := .braced [] }
    else
      let value := lookup reversed.reverse
      some (if c == '$' then s.add value (.name []) else s.add (value ++ [c]) .text)
  | .braced reversed =>
    some (if c == '\x7d' then s.add (lookup reversed.reverse) .text
      else { s with mode := .braced (c :: reversed) })
  | .text => some (ofText s c)

/-- The text that a value stands for, or the place of what does not belong to it. -/
def readValue (lookup : List Char → List Char) (length : Nat) (place : Nat) (s : ValueState) :
    List Char → Except Nat (List Char)
  | [] =>
    if s.double then .error (length - 1)
    else
      match s.mode with
      | .single | .braced _ => .error (length - 1)
      | .name reversed => .ok (s.reversed.reverse ++ lookup reversed.reverse)
      | .text | .escaped | .after => .ok s.reversed.reverse
  | c :: rest =>
    if s.mode = .after && c == '#' then .ok s.reversed.reverse
    else
      match step? lookup s c with
      | some s => readValue lookup length (place + 1) s rest
      | none => .error place

/-- The text that a value stands for, or the place of what does not belong to it. -/
def textOf (environment : Bindings String) (text : List Char) : Except Nat (List Char) :=
  let lookup (name : List Char) : List Char :=
    ((Environment.value? environment (String.ofList name)).getD "").toList
  readValue lookup (Text.byteLength text) 0 ⟨.text, false, []⟩ text

/-! ## Lines -/

/-- Whether a name may begin with a character. -/
def beginsName (c : Char) : Bool := c.isAlpha || c == '_'

/-- Whether a character may stand in a name. -/
def inName (c : Char) : Bool := c.isAlphanum || c == '_' || c == '.'

/-- The part of a line that has not been read, and where it begins, in bytes. -/
structure Rest where
  text : List Char
  place : Nat

namespace Rest

/-- Go on behind the white space. -/
def skipBlanks (rest : Rest) : Rest :=
  let blanks := rest.text.takeWhile CharClass.isBlank
  ⟨rest.text.drop blanks.length, rest.place + Text.byteLength blanks⟩

/-- The name that comes next. -/
def name? (rest : Rest) : Except Nat (List Char × Rest) :=
  match rest.text with
  | c :: _ =>
    if beginsName c then
      let name := rest.text.takeWhile inName
      .ok (name, ⟨rest.text.drop name.length, rest.place + name.length⟩)
    else
      .error rest.place
  | [] => .error rest.place

/-- Go on behind an equals sign. -/
def afterEquals? (rest : Rest) : Except Nat Rest :=
  match rest.text with
  | '=' :: more => .ok ⟨more, rest.place + 1⟩
  | _ => .error rest.place

/-- The name that is assigned to, and what follows the equals sign.  The name `export` may be one of
its own or stand in front of another. -/
def target? (rest : Rest) : Except Nat (List Char × Rest) := do
  let (name, rest) ← rest.skipBlanks.name?
  let rest := rest.skipBlanks
  match rest.afterEquals? with
  | .ok rest => return (name, rest.skipBlanks)
  | .error place =>
    if name = "export".toList then
      let (name, rest) ← rest.name?
      return (name, (← rest.skipBlanks.afterEquals?).skipBlanks)
    else
      .error place

/-- Whether there is nothing but a comment. -/
def isIdle (rest : Rest) : Bool := rest.text.isEmpty || rest.text.head? == some '#'

end Rest

/-- The assignment on a line, if there is one. -/
def ofLine? (environment : Bindings String) (line : List Char) :
    Except EnvFault (Option Assignment) :=
  let whole : Rest := ⟨Text.trimEnd line, 0⟩
  if whole.skipBlanks.isIdle then
    .ok none
  else
    match whole.target? with
    | .error place => .error (.malformed (String.ofList line) place)
    | .ok (name, rest) =>
      if rest.isIdle then .ok (some ⟨String.ofList name, ""⟩)
      else
        match textOf environment rest.text with
        | .ok text => .ok (some ⟨String.ofList name, String.ofList text⟩)
        | .error place => .error (.malformed (String.ofList rest.text) place)

end Assignment
end TaskScript
