/-!
# Syntax — words and commands before anything is expanded

- `Part`, `Word`  : a word is a list of characters and expansions
- `Redirection`   : a descriptor and where it is to lead
- `Program`       : commands joined by operators and keywords

All texts are texts of octets.  A program may stand within a word, so that the types are defined
together.
-/

namespace TaskScript
namespace Shell

/-- Where a redirection leads. -/
inductive Direction
  /-- From a file. -/
  | source
  /-- From and to a file. -/
  | both
  /-- To a file, in place of its content. -/
  | replacing
  /-- The same, even where files are protected. -/
  | overriding
  /-- To the end of a file. -/
  | appending
  /-- To where another descriptor leads. -/
  | duplicate
  /-- From a document that stands in the text of the program, known by its number. -/
  | document (number : Nat)
  deriving DecidableEq, Repr

mutual

/-- A part of a word.  Parts within quotes are marked: they are neither split nor do they act in
patterns. -/
inductive Part
  /-- A character. -/
  | char (c : Char) (quoted : Bool)
  /-- A pair of quotes; it makes a word even if nothing is in it. -/
  | quotes
  /-- The value of a parameter, changed in some way. -/
  | parameter (name : String) (change : Modifier) (quoted : Bool)
  /-- The output of commands. -/
  | output (program : Program) (quoted : Bool)
  /-- The value of a numeric expression. -/
  | number (expression : List Part) (quoted : Bool)

/-- What is done to the value of a parameter. -/
inductive Modifier
  /-- Nothing. -/
  | plain
  /-- The number of its characters. -/
  | length
  /-- Another text if it is unset or, with a colon, empty. -/
  | orElse (colon : Bool) (text : List Part)
  /-- The same, and the text becomes the value. -/
  | orAssign (colon : Bool) (text : List Part)
  /-- A complaint if it is unset or, with a colon, empty. -/
  | orFail (colon : Bool) (text : List Part)
  /-- Another text if it is set and, with a colon, not empty. -/
  | ifSet (colon : Bool) (text : List Part)
  /-- Without what fits a pattern at its beginning or end, and as much of it as possible or as
  little. -/
  | without (atEnd longest : Bool) (pattern : List Part)
  /-- Something that cannot be done. -/
  | unknown

/-- A descriptor and where it is to lead. -/
inductive Redirection
  | to (descriptor : Nat) (direction : Direction) (goal : List Part)

/-- A program.  Expansions are still to be made. -/
inductive Program
  /-- Nothing to do. -/
  | nothing
  /-- Assignments, a command with its arguments, and redirections. -/
  | simple (line : Nat) (assignments : List (String × List Part)) (words : List (List Part))
      (redirections : List Redirection)
  /-- One after the other. -/
  | sequence (first second : Program)
  /-- The second only if the first succeeds. -/
  | both (first second : Program)
  /-- The second only if the first fails. -/
  | either (first second : Program)
  /-- Success and failure exchanged. -/
  | negated (body : Program)
  /-- The output of each is the input of the next. -/
  | pipe (commands : List Program)
  /-- By the side, with changes that end with it. -/
  | background (body : Program)
  /-- Changes to variables and the directory end with it. -/
  | isolated (line : Nat) (body : Program) (redirections : List Redirection)
  /-- With other descriptors. -/
  | redirected (line : Nat) (body : Program) (redirections : List Redirection)
  /-- One of two, by the success of a test. -/
  | branch (test yes : Program) (no : Option Program)
  /-- Again and again while a test succeeds, or until it does. -/
  | loop (untilDone : Bool) (test body : Program)
  /-- Once for each field of words. -/
  | each (line : Nat) (name : String) (words : List (List Part)) (body : Program)
  /-- The first body with a pattern that a word fits. -/
  | choice (line : Nat) (subject : List Part) (arms : List (List (List Part) × Program))
  /-- A new command. -/
  | define (name : String) (line : Nat) (body : Program)

end

instance : Inhabited Program := ⟨.nothing⟩

/-- A word before expansion. -/
abbrev Word := List Part

namespace Word

/-- The text of a word that is written without quotes and expansions. -/
def bareText? (word : Word) : Option String :=
  (word.mapM fun
    | Part.char c false => some c
    | _ => none).map String.ofList

/-- The characters of a word that is written without expansions. -/
def plainText? (word : Word) : Option String :=
  (word.mapM fun
    | Part.char c _ => some [c]
    | Part.quotes => some []
    | _ => none).map fun (pieces : List (List Char)) => String.ofList pieces.flatten

/-- Whether anything in a word is quoted. -/
def hasQuotes (word : Word) : Bool :=
  word.any fun
    | .char _ quoted => quoted
    | .quotes => true
    | _ => false

end Word

namespace Program

/-- Whether there is nothing to do. -/
def isNothing : Program → Bool
  | nothing => true
  | _ => false

/-- A compound command with the redirections that follow it.  Where an isolated command stands alone
between braces, those after the braces take the place of its own. -/
def withRedirections (line : Nat) (redirections : List Redirection) (program : Program) : Program :=
  if redirections.isEmpty then program
  else
    match program with
    | isolated inner body _ => isolated inner body redirections
    | other => redirected line other redirections

end Program
end Shell
end TaskScript
