import TaskScript.Shell.Lookup
import TaskScript.Tool.Catalogue

/-!
# Launch — programs taking over a process

A path leads to a program of the system, to a file that says in its first line which program is to
read it, or to a file that is no program.

- `Launch.searched` : the path of a name, looked for in the search path of the environment
- `Launch.execute`  : a process after the program at a path has taken it over
-/

namespace TaskScript
namespace Shell
namespace Launch

/-- The names of the programs that are shells. -/
def shellNames : List String := ["bash", "dash"]

/-- How a process is taken over by a shell. -/
abbrev StartShell := List String → Machine → Machine

/-- How much of a file is looked at to find the program that its first line names. -/
def firstLineLimit : Nat := 256

/-- The program that a first line names, and the argument after it.  A line that is longer than what
is looked at names a program only if the name ends before; NUL ends both the name and the
argument. -/
def interpreter? (bytes : ByteArray) : Option (String × Option String) :=
  match (Octets.charsOf (bytes.extract 0 firstLineLimit)) with
  | '#' :: '!' :: rest =>
    let isBlank (c : Char) : Bool := c == ' ' || c == '\t'
    let endsName (c : Char) : Bool := isBlank c || c == '\x00'
    let line := rest.takeWhile fun c => c != '\n' && c != '\x00'
    let whole := rest ++ List.replicate (firstLineLimit - 2 - rest.length) '\x00'
    let text? :=
      if (rest.drop line.length).head? == some '\n' then some line
      else if (whole.dropWhile isBlank).any endsName then some whole.dropLast
      else none
    let trimmed (text : List Char) : List Char :=
      ((text.reverse.dropWhile isBlank).reverse).dropWhile isBlank
    match text?.map trimmed with
    | none | some [] => none
    | some text =>
      let name := text.takeWhile fun c => !endsName c
      let after := text.drop name.length
      let arg := (after.dropWhile isBlank).takeWhile (· != '\x00')
      some (String.ofList name,
        if (after.head?.map isBlank).getD false then some (String.ofList arg) else none)
  | _ => none

/-- Whether the first line of a file shows that it holds no commands. -/
def isBinary (bytes : ByteArray) : Bool :=
  let line := (Octets.charsOf (bytes.extract 0 128)).takeWhile (· != '\n')
  line.any fun c => c.toNat < 8 || (15 < c.toNat && c.toNat < 32 && c != '\x1b') || c == '\x7f'

/-- The path of the program that reads files that are no programs themselves. -/
def shellPath : String := "/bin/sh"

/-- A process after a shell that reads the file at a path has taken it over. -/
def readByShell (shell : StartShell) (path : String) (args : List String) (m : Machine) : Machine :=
  shell (path :: args) (m.become shellPath [])

/-- The search path of programs that are started without a shell. -/
def searchPath (m : Machine) : String := (m.value? "PATH").getD "/bin:/usr/bin"

/-- Why no program was found, as the first reason that is grave. -/
def searched (m : Machine) (name : String) : Except SystemError String :=
  if name.isEmpty then .error .notFound else Lookup.program m.store (searchPath m) name

/-- A process after the program at a path has taken it over; interpreters may be nested to a
depth. -/
def execute (shell : StartShell) : Nat → String → String → List String → Machine →
    Except SystemError Machine
  | 0, _, _, _, _ => .error .tooManyLinks
  | depth + 1, path, name, args, m =>
    let launch : TaskScript.Launch := fun command m =>
      match command with
      | [] => .error .notFound
      | name :: args =>
        match searched m name with
        | .error e => .error e
        | .ok path =>
          match execute shell depth path name args m with
          | .error .notExecutable => .ok (readByShell shell path args m)
          | result => result
    match m.store.lookup (Machine.pathOf path) with
    | .error e => .error e
    | .ok (_, .program program) =>
      let begun := m.become name args
      if shellNames.contains program then .ok (shell args begun)
      else
        match Tool.find? launch program with
        | some tool => .ok { Tool.close (tool args begun) with lost := none }
        | none => .error .notExecutable
    | .ok (_, .file number) =>
      let body := m.store.bodyOf number
      if Nat.land body.mode 0o111 == 0 then .error .permissionDenied
      else
        match interpreter? body.bytes with
        | some (program, arg?) =>
          if program.isEmpty then .error .permissionDenied
          else execute shell depth program program (arg?.toList ++ path :: args) m
        | none => .error .notExecutable
    | .ok _ => .error .permissionDenied

end Launch
end Shell
end TaskScript
