import TaskScript.Shell.Builtin.Basic
import TaskScript.Shell.Lookup

/-!
# Names — builtins that tell or change what names of commands stand for

`alias`, `unalias`, `type`, `hash` and the part of `command` that tells what a name stands for.
-/

namespace TaskScript
namespace Shell
namespace Builtin

/-! ## Aliases -/

/-- An alias as it is told. -/
def aliasLine (name text : String) : String := name ++ "=" ++ inQuotes text

/-- Set aliases, or tell them after all complaints. -/
def aliases : Builtin := fun args m =>
  let m := m.withStatus 0
  if args.isEmpty then
    let sorted := m.aliases.entries.mergeSort fun a b =>
      decide (Machine.bucket a.1 ≤ Machine.bucket b.1)
    (sorted.map fun a => aliasLine a.1 a.2).foldl Machine.printLine m
  else
    let (told, m) := args.foldl (fun (told, m) arg =>
      match assignment arg with
      | (name, some text) =>
        if name.isEmpty then (told, (m.complain ("alias: " ++ arg ++ " not found")).withStatus 1)
        else (told, { m with aliases := m.aliases.set name text })
      | (name, none) =>
        match m.aliases.get? name with
        | some text => (told ++ aliasLine name text ++ "\n", m)
        | none => (told, (m.complain ("alias: " ++ name ++ " not found")).withStatus 1)) ("", m)
    m.print told

/-- Forget aliases. -/
def unalias : Builtin :=
  withOptions "a" fun chosen args m =>
    let m := m.withStatus 0
    if !chosen.isEmpty then { m with aliases := .empty }
    else
      args.foldl (fun m name =>
        if m.aliases.contains name then
          { m with aliases := ⟨m.aliases.entries.filter fun a => a.1 != name⟩ }
        else (m.complain ("unalias: " ++ name ++ " not found")).withStatus 1) m

/-! ## Meanings -/

/-- A name and what it stands for, in words. -/
def described (m : Machine) (searchPath name : String) : String × Nat :=
  match Lookup.meaning? m searchPath name with
  | some .keyword => (name ++ " is a shell keyword", 0)
  | some (.renamed text) => (name ++ " is an alias for " ++ text, 0)
  | some .function => (name ++ " is a shell function", 0)
  | some .special => (name ++ " is a special shell builtin", 0)
  | some .builtin => (name ++ " is a shell builtin", 0)
  | some (.program path) =>
    (name ++ (if m.found.contains name then " is a tracked alias for " else " is ") ++ path, 0)
  | none => (name ++ ": not found", 127)

/-- What a name stands for, so that a shell can use it. -/
def pointer? (m : Machine) (searchPath name : String) : Option String :=
  match Lookup.meaning? m searchPath name with
  | some (.renamed text) => some ("alias " ++ aliasLine name text)
  | some (.program path) => some path
  | some _ => some name
  | none => none

/-- Tell what names stand for. -/
def type : Builtin := fun args m =>
  args.foldl (fun m name =>
    let (line, status) := described m m.searchPath name
    let m := m.printLine line
    if status = 0 then m else m.withStatus status) (m.withStatus 0)

/-- Tell what a name stands for. -/
def tell (verbose : Bool) (searchPath : String) : Builtin := fun args m =>
  match args with
  | [] => m.withStatus 0
  | name :: _ =>
    if verbose then
      let (line, status) := described m searchPath name
      (m.printLine line).withStatus status
    else
      match pointer? m searchPath name with
      | some text => (m.printLine text).withStatus 0
      | none => m.withStatus 127

/-- Remember, forget or list the programs that have been found. -/
def hash : Builtin :=
  withOptions "rv" fun chosen names m =>
    let m := m.withStatus 0
    if chosen.any fun c => c.1 == 'r' then { m with found := .empty }
    else if names.isEmpty then
      (m.found.entries.map Prod.snd).foldl Machine.printLine m
    else
      names.foldl (fun m name =>
        if Lookup.isBuiltin name || m.routines.contains name then m
        else
          match Lookup.program m.store m.searchPath name with
          | .ok path => { m with found := m.found.set name path }
          | .error _ => (m.warn (name ++ ": not found")).withStatus 1) m

end Builtin
end Shell
end TaskScript
