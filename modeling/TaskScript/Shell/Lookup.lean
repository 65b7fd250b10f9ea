import TaskScript.Shell.Machine
import TaskScript.Shell.Reader

/-!
# Lookup — what the name of a command stands for

A name is a function, a builtin, or a program that is looked for in the directories of the search
path, in this order.  A name with a slash is a path.

- `Lookup.executable` : why a file may not be executed, if so
- `Lookup.program`    : the path of the program with a name
- `Lookup.meaning?`   : what a name stands for
-/

namespace TaskScript
namespace Shell
namespace Lookup

/-- The builtins that any function takes precedence over. -/
def builtinNames : List String :=
  ["[", "alias", "bg", "cd", "chdir", "command", "echo", "false", "fg", "getopts", "hash", "jobs",
    "kill", "printf", "pwd", "read", "test", "true", "type", "ulimit", "umask", "unalias", "wait"]

/-- Whether a name is that of a special builtin. -/
def isSpecial (name : String) : Bool := Reader.specialNames.contains name

/-- Whether a name is that of a builtin. -/
def isBuiltin (name : String) : Bool := isSpecial name || builtinNames.contains name

/-- Whether a builtin takes assignments as arguments. -/
def takesAssignments (name : String) : Bool :=
  ["export", "readonly", "local", "alias"].contains name

/-- Whether the program at a path can be executed, and why not. -/
def executable (store : Store) (path : Path) : Except SystemError Unit :=
  match store.lookup path with
  | .error e => .error e
  | .ok (_, .program _) => .ok ()
  | .ok (_, .file number) =>
    if Nat.land (store.bodyOf number).mode 0o111 != 0 then .ok () else .error .permissionDenied
  | .ok _ => .error .permissionDenied

/-- The paths at which a program may be, given a search path. -/
def candidates (searchPath name : String) : List String :=
  (searchPath.splitOn ":").map fun directory =>
    if directory.isEmpty then name else directory ++ "/" ++ name

/-- The first path at which there is a program; where there is none, the gravest reason. -/
def firstProgram (store : Store) : List String → SystemError → Except SystemError String
  | [], reason => .error reason
  | path :: rest, reason =>
    match executable store (Machine.pathOf path) with
    | .ok () => .ok path
    | .error .notFound | .error .notDirectory => firstProgram store rest reason
    | .error e => firstProgram store rest e

/-- The path of the program with a name. -/
def program (store : Store) (searchPath name : String) : Except SystemError String :=
  if name.toList.contains '/' then .ok name
  else firstProgram store (candidates searchPath name) .notFound

/-- What a name stands for. -/
inductive Meaning
  | keyword
  | renamed (text : String)
  | function
  | special
  | builtin
  | program (path : String)
  deriving DecidableEq, Repr

/-- What a name stands for, if anything. -/
def meaning? (m : Machine) (searchPath name : String) : Option Meaning :=
  if Reader.reservedWords.contains name then some .keyword
  else
    match m.aliases.get? name with
    | some text => some (.renamed text)
    | none =>
      if m.routines.contains name then some .function
      else if isSpecial name then some .special
      else if isBuiltin name then some .builtin
      else
        match program m.store searchPath name with
        | .ok path =>
          match executable m.store (Machine.pathOf path) with
          | .ok () => some (.program path)
          | .error _ => none
        | .error _ => none

end Lookup
end Shell
end TaskScript
