import TaskScript.Shell.Running

/-!
# Builtin — commands that are part of the shell

A builtin takes its arguments and the state of the shell.  It sets the status, and complains in its
own name.

- `Builtin.options` : the options among arguments, and the arguments after them
- `Builtin.number?` : the number that an argument spells
-/

namespace TaskScript
namespace Shell

/-- A command that is part of the shell. -/
abbrev Builtin := List String → Machine → Machine

namespace Builtin

/-- The status of a builtin that could not do its work. -/
def failure : Nat := 2

/-- Give up with a complaint. -/
def giveUp (m : Machine) (message : String) : Machine := m.abandon message failure

/-- What is said of an argument that should be a number. -/
def notNumber (text : String) : String := "Illegal number: " ++ text

/-- The number that an argument spells, if it is one of those that count something. -/
def number? (text : String) : Option Nat :=
  match Numeral.whole? (some 10) text with
  | some n => if 0 ≤ n && n ≤ 2147483647 then some n.toNat else none
  | none => none

/-- An option: its letter and the text that belongs to it. -/
abbrev Choice := Char × Option String

/-- The options among arguments, and the arguments after them.  A colon in `letters` announces a
text that belongs to the letter before it. -/
def options (letters : String) : List String → Except String (List Choice × List String)
  | [] => .ok ([], [])
  | arg :: rest =>
    match arg.toList with
    | ['-', '-'] => .ok ([], rest)
    | '-' :: c :: more =>
      (cluster (c :: more)).bind fun
        | (chosen, none) => (options letters rest).map fun found => (chosen ++ found.1, found.2)
        | (chosen, some letter) =>
          match rest with
          | text :: rest =>
            (options letters rest).map fun found =>
              (chosen ++ (letter, some text) :: found.1, found.2)
          | [] => .error ("No arg for -" ++ String.singleton letter ++ " option")
    | _ => .ok ([], arg :: rest)
where
  /-- Whether a letter is an option, and whether a text belongs to it. -/
  kind? (c : Char) : Option Bool :=
    let rec go : List Char → Option Bool
      | [] => none
      | d :: rest => if d == c && c != ':' then some (rest.head? == some ':') else go rest
    go letters.toList
  /-- The options in one argument, and the one that still lacks its text. -/
  cluster : List Char → Except String (List Choice × Option Char)
    | [] => .ok ([], none)
    | c :: rest =>
      match kind? c with
      | none => .error ("Illegal option -" ++ String.singleton c)
      | some false => (cluster rest).map fun found => ((c, none) :: found.1, found.2)
      | some true =>
        if rest.isEmpty then .ok ([], some c)
        else .ok ([(c, some (String.ofList rest))], none)

/-- Go on with the options among arguments and the arguments after them. -/
def withOptions (letters : String) (next : List Choice → List String → Machine → Machine) :
    Builtin := fun args m =>
  match options letters args with
  | .ok found => next found.1 found.2 m
  | .error message => giveUp m message

/-- The letter of the last option. -/
def lastLetter? (chosen : List Choice) : Option Char := chosen.getLast?.map Prod.fst

/-- A text in quotes, so that a shell reads it as it stands.  `steps` is more than its length. -/
def quotedFrom : Nat → List Char → List Char
  | 0, _ => []
  | steps + 1, text =>
    let plain := text.takeWhile (· != '\'')
    let after := text.drop plain.length
    let quotes := after.takeWhile (· == '\'')
    let rest := after.drop quotes.length
    let first := '\'' :: plain ++ ['\'']
    if quotes.isEmpty then first
    else
      let both := first ++ '"' :: quotes ++ ['"']
      if rest.isEmpty then both else both ++ quotedFrom steps rest

/-- A text in quotes, so that a shell reads it as it stands. -/
def inQuotes (text : String) : String := String.ofList (quotedFrom (text.length + 1) text.toList)

/-- The name and the value of an assignment; no value if there is no equals sign. -/
def assignment (text : String) : String × Option String :=
  let name := text.toList.takeWhile (· != '=')
  let rest := text.toList.drop name.length
  (String.ofList name, if rest.isEmpty then none else some (String.ofList rest.tail))

end Builtin
end Shell
end TaskScript
