import TaskScript.Regular.Basic

/-!
# Script — commands that edit lines

- `Editor.Address` : which lines a command is meant for
- `Editor.Action`  : what a command does
- `Editor.Command` : an action with its addresses
- `Editor.Script`  : commands, some of which go on at others

Commands are known by their numbers, counted from 0.
-/

namespace TaskScript
namespace Editor

/-- What is looked for in a line. -/
structure Pattern where
  /-- The expression; without one the last one that was looked for is meant. -/
  regular? : Option Regular
  /-- Whether lines start and end within the text. -/
  hasLines : Bool
  folds : Bool
  deriving DecidableEq, Repr

/-- Which lines are meant. -/
inductive Address
  | line (number : Nat)
  /-- Every so many lines from a first one on. -/
  | every (first step : Nat)
  | last
  | pattern (p : Pattern)
  deriving DecidableEq, Repr

/-- Where a range of lines ends. -/
inductive Ending
  | address (a : Address)
  /-- So many lines after the first one. -/
  | after (count : Nat)
  /-- At the next line whose number is a multiple. -/
  | multiple (step : Nat)
  deriving DecidableEq, Repr

/-- How the case of letters is changed. -/
inductive Casing
  | upper
  | lower
  /-- As they are. -/
  | plain
  /-- The next letter only. -/
  | nextUpper
  | nextLower
  deriving DecidableEq, Repr

/-- A part of what is put in the place of a match. -/
inductive Piece
  | text (chars : List Char)
  /-- What a group matched; 0 stands for the whole match. -/
  | group (number : Nat)
  | casing (c : Casing)
  deriving DecidableEq, Repr

/-- A substitution. -/
structure Substitution where
  pattern : Pattern
  pieces : List Piece
  /-- Whether all matches are replaced, from the one with the number on. -/
  isGlobal : Bool
  number : Nat
  prints : Bool
  /-- The file to which the line is written. -/
  file? : Option String
  deriving DecidableEq, Repr

/-- What a command does. -/
inductive Action
  /-- Go on after the command with a number, unless the addresses fit. -/
  | block (stop : Nat)
  | blockEnd
  | label
  /-- Go on at a command; `when?` tells whether a substitution must have been made or not. -/
  | jump (when? : Option Bool) (goal : Nat)
  | append (text : List Char)
  | insert (text : List Char)
  | change (text : List Char)
  | readFile (name : String)
  | readLine (name : String)
  | write (name : String)
  | writeFirst (name : String)
  | substitute (s : Substitution)
  | exchange (pairs : List (Char × Char))
  | quit (prints : Bool) (status : Nat)
  /-- Tell the line in characters that can be seen, perhaps in parts of a width. -/
  | list (width? : Option Nat)
  /-- What a letter alone says. -/
  | plain (letter : Char)
  deriving DecidableEq, Repr

/-- An action with its addresses. -/
structure Command where
  from? : Option Address
  to? : Option Ending
  /-- Whether it is meant for all other lines. -/
  isNegated : Bool
  action : Action
  deriving DecidableEq, Repr

instance : Inhabited Command := ⟨⟨none, none, false, .label⟩⟩

/-- Commands, and whether lines are printed only on demand. -/
structure Script where
  commands : Array Command
  isSilent : Bool
  deriving Repr

end Editor
end TaskScript
