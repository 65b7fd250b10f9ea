import TaskScript.Bindings
import TaskScript.Text.Basic
import TaskScript.Text.Pattern

/-!
# Passes — resolving references

A `Scope` gives the values of the five kinds of references: positional arguments, named arguments,
declared variables, runtime variables and the environment.

References are resolved in five passes, each a single scan from left to right:

1. `?1`           : positional arguments
2. `?name`        : named arguments
3. `$NAME`        : declared variables that no runtime variable shadows
4. `$NAME`        : runtime variables
5. `$env("NAME")` : the environment

What a pass writes is seen by the later passes only.  A reference that stands for nothing stays as
it is, except that an unset environment variable counts as empty.
-/

namespace TaskScript

/-! ## Scopes -/

/-- Everything that a reference can stand for. -/
structure Scope where
  /-- The arguments of the running task, the first being `?1`. -/
  positional : List String
  /-- The arguments given by name. -/
  named : Bindings String
  /-- The variables declared by the script. -/
  declared : Bindings String
  /-- The variables assigned while running. -/
  runtime : Bindings String
  /-- The environment, as names find values in it. -/
  environment : String → Option String

namespace Scope

/-- The number that decimal digits denote; none unless every character is an ASCII digit. -/
def decimalValue? (digits : List Char) : Option Nat :=
  if digits.all Char.isDigit then
    some (digits.foldl (fun n d => 10 * n + (d.toNat - '0'.toNat)) 0)
  else
    none

/-- The positional argument of a 1-based index. -/
def argument? (args : List String) : Nat → Option String
  | 0 => none
  | index + 1 => args[index]?

/-- The declared value of a name, unless the name has a value at runtime. -/
def unshadowed? (declared runtime : Bindings String) (name : String) : Option String :=
  if runtime.contains name then none else declared.get? name

end Scope

namespace Reference

open Pattern.Step

/-! ## Arguments -/

/-- Replace the positional references. -/
def positional (args : List String) : Rule :=
  Rule.ofPattern [char '?', oneOrMore CharClass.isDecimalDigit] fun
    | [mark, digits] =>
      match (Scope.decimalValue? digits).bind (Scope.argument? args) with
      | some value => value.toList
      | none => mark ++ digits
    | pieces => pieces.flatten

/-- Replace the named references. -/
def named (args : Bindings String) : Rule :=
  Rule.ofPattern [char '?', oneOrMore CharClass.isWord] fun
    | [mark, name] =>
      match args.get? (String.ofList name) with
      | some value => value.toList
      | none => mark ++ name
    | pieces => pieces.flatten

/-! ## Variables -/

/-- Replace the variable references that have a value.  An opening parenthesis after the name is
kept, and `$env(` is left to the environment. -/
def dollarNames (value? : String → Option String) : Rule :=
  Rule.ofPattern [char '$', oneOrMore CharClass.isWord, optionally '('] fun
    | [mark, name, call] =>
      if !call.isEmpty && name == "env".toList then
        mark ++ name ++ call
      else
        match value? (String.ofList name) with
        | some value => value.toList ++ call
        | none => mark ++ name ++ call
    | pieces => pieces.flatten

/-! ## The environment -/

/-- Whether a character may stand in the name of an environment reference. -/
def inEnvironmentName (c : Char) : Bool := c != '"' && c != ')'

/-- The form of an environment reference: blanks and one quote on either side are optional.  What
follows a run here cannot begin within it, so that no run need yield. -/
def environmentSteps : List Pattern.Step :=
  Pattern.word "$env(" ++
    [all CharClass.isBlank, optionally '"', all inEnvironmentName, optionally '"',
      all CharClass.isBlank, char ')']

/-- Replace the environment references. -/
def environment (value? : String → Option String) : Rule :=
  Rule.ofPattern environmentSteps fun
    | [_, _, _, _, _, _, _, name, _, _, _] =>
      let trimmed := Text.trim name
      if trimmed.isEmpty then [] else ((value? (String.ofList trimmed)).getD "").toList
    | pieces => pieces.flatten

/-! ## The passes in order -/

/-- The rules of the five passes, in order. -/
def rules (scope : Scope) : List Rule :=
  [positional scope.positional, named scope.named,
    dollarNames (Scope.unshadowed? scope.declared scope.runtime), dollarNames scope.runtime.get?,
    environment scope.environment]

/-- The texts after each of the passes. -/
def stages (scope : Scope) (text : String) : List String :=
  go (rules scope) text.toList
where
  go : List Rule → List Char → List String
    | [], _ => []
    | rule :: rest, text =>
      let next := rule.apply text
      String.ofList next :: go rest next

/-- Resolve every reference in a text. -/
def resolve (scope : Scope) (text : String) : String :=
  String.ofList ((rules scope).foldl (fun text rule => rule.apply text) text.toList)

end Reference

end TaskScript
