import TaskScript.Script.Basic
import TaskScript.Text.Basic
import TaskScript.Text.Pattern

/-!
# Line — the grammar of one script line

A line is blank, a comment, a variable declaration, a task header or a command, and else it is
skipped.  Declarations and headers are recognised on the trimmed line and may be followed by
anything; a command needs leading white space, and the text after its keyword is read in one of
four shapes, the most specific first:

- `"a" "b"`  : two arguments
- `"a"`      : one argument
- `"a" tail` : one argument, `a` and the trimmed tail with one space between them
- anything   : one argument, verbatim

`Line.classify` puts the cases in order; whether a task is open decides what a declaration means and
whether commands are read at all.
-/

namespace TaskScript

open Pattern.Step

/-- Why a line was skipped. -/
inductive SkipReason
  | malformedVariable
  | outsideTask
  | unrecognized
  deriving DecidableEq, Repr

/-- The wording of a reason. -/
def SkipReason.text : SkipReason → String
  | malformedVariable => "malformed variable declaration"
  | outsideTask => "outside of any task"
  | unrecognized => "unrecognized command line"

/-- What a line is, given whether a task is open. -/
inductive Line
  /-- Blank or a comment. -/
  | ignored
  /-- A declaration of a global variable. -/
  | declaration (name value : String)
  /-- The header of a task. -/
  | header (name : String)
  /-- A command of the open task. -/
  | command (keyword : String) (args : List String)
  /-- None of these. -/
  | skipped (reason : SkipReason)
  deriving DecidableEq, Repr

namespace Line

/-- Whether a character may stand between quotes. -/
def unquoted (c : Char) : Bool := c != '"'

/-- Whether a character may stand in the rest of a line. -/
def inLine (c : Char) : Bool := c != '\n'

/-- White space of any length, possibly none. -/
def blanks : Pattern.Step := zeroOrMore CharClass.isBlank

/-- White space that separates. -/
def gap : Pattern.Step := oneOrMore CharClass.isBlank

/-- A name. -/
def name : Pattern.Step := oneOrMore CharClass.isWord

/-- An argument between quotes: the opening quote, the text and the closing quote. -/
def quotedSteps : List Pattern.Step := [char '"', zeroOrMore unquoted, char '"']

/-! ## Declarations and headers -/

/-- Whether a trimmed line begins with the word `var`, standing alone. -/
def startsWithVar : List Char → Bool
  | 'v' :: 'a' :: 'r' :: rest =>
    match rest with
    | [] => true
    | c :: _ => CharClass.isBlank c
  | _ => false

/-- The name and the value of a variable declaration. -/
def declaration? (trimmed : List Char) : Option (String × String) :=
  match Pattern.match? (Pattern.word "var" ++ [gap, name, blanks, char '=', blanks] ++ quotedSteps)
      trimmed with
  | some ([_, _, _, _, declared, _, _, _, _, value, _], _) =>
    some (String.ofList declared, String.ofList value)
  | _ => none

/-- The name in a task header. -/
def header? (trimmed : List Char) : Option String :=
  match Pattern.match? (Pattern.word "task" ++ [gap, name, blanks, char ':']) trimmed with
  | some ([_, _, _, _, _, declared, _, _], _) => some (String.ofList declared)
  | _ => none

/-! ## Commands -/

/-- A keyword and its arguments. -/
abbrev Invocation := String × List String

/-- A keyword followed by two quoted arguments. -/
def twoQuoted? (raw : List Char) : Option Invocation :=
  match Pattern.match? ([gap, name, gap] ++ quotedSteps ++ [gap] ++ quotedSteps ++
      [blanks, finish]) raw with
  | some ([_, keyword, _, _, first, _, _, _, second, _, _, _], _) =>
    some (String.ofList keyword, [String.ofList first, String.ofList second])
  | _ => none

/-- A keyword followed by one quoted argument. -/
def oneQuoted? (raw : List Char) : Option Invocation :=
  match Pattern.match? ([gap, name, gap] ++ quotedSteps ++ [blanks, finish]) raw with
  | some ([_, keyword, _, _, first, _, _, _], _) =>
    some (String.ofList keyword, [String.ofList first])
  | _ => none

/-- A keyword followed by a quoted text and a tail that is not blank. -/
def quotedWithTail? (raw : List Char) : Option Invocation :=
  match Pattern.match? ([gap, name, gap] ++ quotedSteps ++ [blanks, zeroOrMore inLine, finish])
      raw with
  | some ([_, keyword, _, _, first, _, _, rest, _], _) =>
    let tail := Text.trim rest
    if tail.isEmpty then none
    else some (String.ofList keyword, [String.ofList (first ++ ' ' :: tail)])
  | _ => none

/-- A keyword followed by anything. -/
def verbatim? (raw : List Char) : Option Invocation :=
  match Pattern.match? [gap, name, gap, zeroOrMore inLine, finish] raw with
  | some ([_, keyword, _, rest, _], _) => some (String.ofList keyword, [String.ofList rest])
  | _ => none

/-- The command on a line, in the first shape that fits. -/
def command? (raw : List Char) : Option Invocation :=
  [twoQuoted?, oneQuoted?, quotedWithTail?, verbatim?].findSome? fun shape => shape raw

/-! ## Classification -/

/-- What a line is.  `inTask` says whether a task is open. -/
def classify (inTask : Bool) (raw : List Char) : Line :=
  let trimmed := Text.trim raw
  if trimmed.isEmpty || trimmed.head? == some '#' then
    ignored
  else if startsWithVar trimmed then
    match declaration? trimmed with
    | some (declared, value) =>
      if inTask then command Keyword.var.text [declared, value] else declaration declared value
    | none => skipped .malformedVariable
  else
    match header? trimmed with
    | some declared => header declared
    | none =>
      if inTask then
        match command? raw with
        | some (keyword, args) => command keyword args
        | none => skipped .unrecognized
      else
        skipped .outsideTask

end Line
end TaskScript
