import TaskScript.Regular.Basic

/-!
# Syntax — programs that work on records

A program consists of rules.  A rule says for which records something is done; records have fields.

- `Record.Expr`      : what has a value
- `Record.Place`     : what a value can be put into
- `Record.Statement` : what is done
- `Record.Program`   : rules and routines
-/

namespace TaskScript
namespace Record

/-- A calculation with two numbers. -/
inductive Operation
  | add
  | subtract
  | multiply
  | divide
  | remainder
  | power
  deriving DecidableEq, Repr

/-- A comparison. -/
inductive Relation
  | less
  | lessOrSame
  | same
  | different
  | greater
  | greaterOrSame
  deriving DecidableEq, Repr

/-- Where output goes, given a name. -/
inductive Direction
  /-- To a file, which is emptied. -/
  | file
  /-- To the end of a file. -/
  | fileEnd
  /-- To a command. -/
  | command
  deriving DecidableEq, Repr

mutual

/-- What has a value. -/
inductive Expr
  | number (value : Float)
  | text (value : String)
  /-- A regular expression, as it is written. -/
  | pattern (written : String) (regular : Regular)
  | place (place : Place)
  | assign (place : Place) (operation? : Option Operation) (value : Expr)
  /-- A place is counted up or down, before its value is taken or after. -/
  | count (place : Place) (isUp isBefore : Bool)
  | negated (inner : Expr)
  | plain (inner : Expr)
  | opposite (inner : Expr)
  | calculated (operation : Operation) (first second : Expr)
  | compared (relation : Relation) (first second : Expr)
  | joined (first second : Expr)
  | both (first second : Expr)
  | either (first second : Expr)
  | choice (test first second : Expr)
  /-- Whether a text matches an expression. -/
  | fits (text pattern : Expr)
  /-- Whether a table has an entry. -/
  | within (index : List Expr) (table : String)
  /-- A routine of the program. -/
  | call (name : String) (args : List Expr)
  /-- A routine that every program has. -/
  | builtin (name : String) (args : List Expr)
  | read (source : Source) (place? : Option Place)

/-- What a value can be put into. -/
inductive Place
  | variable (name : String)
  | element (table : String) (index : List Expr)
  | field (number : Expr)

/-- What is read. -/
inductive Source
  /-- The records of the program's own inputs. -/
  | inputs
  | file (name : Expr)
  | command (name : Expr)

end

/-- What is done. -/
inductive Statement
  | nothing
  | expression (value : Expr)
  | print (isFormatted : Bool) (args : List Expr) (goal? : Option (Direction × Expr))
  | block (statements : List Statement)
  | choice (test : Expr) (first : Statement) (second? : Option Statement)
  /-- A body is repeated while a test succeeds; it may come before the first test. -/
  | loop (test? : Option Expr) (isFirst : Bool) (step? : Option Expr) (body : Statement)
  /-- For all entries of a table. -/
  | each (name table : String) (body : Statement)
  | leave
  | again
  | next
  | nextFile
  | quit (status? : Option Expr)
  | giveBack (value? : Option Expr)
  | erase (table : String) (index? : Option (List Expr))

/-- When the statements of a rule are carried out. -/
inductive Occasion
  | start
  | finish
  | always
  | records (test : Expr)
  /-- For the records from one to another. -/
  | range (first last : Expr)

/-- What is done on an occasion. -/
structure Rule where
  occasion : Occasion
  body : Statement

/-- Statements with a name and arguments. -/
structure Routine where
  name : String
  params : List String
  body : Statement

/-- Rules and routines. -/
structure Program where
  rules : List Rule
  routines : List Routine

end Record
end TaskScript
