import TaskScript.Bindings
import TaskScript.Text.Basic

/-!
# Invocation — the tasks and arguments asked for on a command line

A token is a task call, `name` or `name:first,second`, or it starts with two hyphens and gives a
named argument: `--key=value`, `--key value`, or `--key` alone, which stands for the value `true`.

- `TaskCall.ofToken`     : one task call
- `Invocation.ofTokens`  : all calls and named arguments of a list of tokens
-/

namespace TaskScript

/-- A task to run with its positional arguments. -/
structure TaskCall where
  name : String
  args : List String
  deriving DecidableEq, Repr

/-- The call that a token asks for: arguments follow the first colon, separated by commas. -/
def TaskCall.ofToken (token : String) : TaskCall :=
  match Text.splitOnce? ':' token.toList with
  | some (name, rest) =>
    ⟨String.ofList name,
      if rest.isEmpty then [] else (Text.fields ',' rest).map String.ofList⟩
  | none => ⟨token, []⟩

/-- Task calls in order, and named arguments shared by all of them. -/
structure Invocation where
  calls : List TaskCall
  named : Bindings String
  deriving DecidableEq, Repr

namespace Invocation

/-- The text after two leading hyphens. -/
def flag? (token : String) : Option (List Char) :=
  match token.toList with
  | '-' :: '-' :: key => some key
  | _ => none

/-- Whether a token gives a named argument. -/
def isFlag (token : String) : Bool := (flag? token).isSome

/-- Nothing is asked for. -/
def empty : Invocation := ⟨[], Bindings.empty⟩

/-- Add a call at the end. -/
def addCall (invocation : Invocation) (call : TaskCall) : Invocation :=
  { invocation with calls := invocation.calls ++ [call] }

/-- Give a named argument. -/
def addNamed (invocation : Invocation) (key : List Char) (value : String) : Invocation :=
  { invocation with named := invocation.named.set (String.ofList key) value }

/-- Read tokens from left to right. -/
def read (invocation : Invocation) : List String → Invocation
  | [] => invocation
  | token :: rest =>
    match flag? token with
    | none => (invocation.addCall (TaskCall.ofToken token)).read rest
    | some flag =>
      match Text.splitOnce? '=' flag with
      | some (key, value) => (invocation.addNamed key (String.ofList value)).read rest
      | none =>
        match rest with
        | [] => invocation.addNamed flag "true"
        | next :: more =>
          if isFlag next then
            (invocation.addNamed flag "true").read (next :: more)
          else
            (invocation.addNamed flag next).read more
termination_by tokens => tokens.length

/-- The calls and named arguments of a list of tokens. -/
def ofTokens (tokens : List String) : Invocation :=
  empty.read tokens

end Invocation
end TaskScript
