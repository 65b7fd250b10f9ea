import TaskScript.Shell.Builtin.Test
import TaskScript.Tool.Mode
import TaskScript.Tool.Walk

/-!
# Status — what is known of files

- `Status.of` : kind, permissions and size of what a path leads to
- `stat`      : prints these as a format asks for
- `readlink`  : prints the goals of links
- `test`      : tests a condition
-/

namespace TaskScript

open Shell (Machine)

namespace Tool

/-- What is known of a file. -/
structure Status where
  entry : Entry
  mode : Nat
  size : Nat
  deriving DecidableEq, Repr

namespace Status

/-- How many bytes directories and programs seem to hold. -/
def usualSize : Nat := 4096

/-- What is known of an entry. -/
def ofEntry (m : Machine) (entry : Entry) : Status :=
  match entry with
  | .file n => ⟨entry, (m.store.bodyOf n).mode, (m.store.bodyOf n).bytes.size⟩
  | .directory n => ⟨entry, (m.store.bodyOf n).mode, usualSize⟩
  | .pipe n => ⟨entry, (m.store.bodyOf n).mode, 0⟩
  | .link goal => ⟨entry, 0o777, goal.chars.length⟩
  | .device _ => ⟨entry, 0o666, 0⟩
  | .program _ => ⟨entry, 0o755, usualSize⟩

/-- What is known of what a path leads to; a link at its end may be followed. -/
def of (m : Machine) (follows : Bool) (path : String) : Except SystemError Status :=
  (if follows then Walk.found? m path else Walk.entry? m path).map (ofEntry m)

/-- The name of the kind of a file. -/
def kindName (s : Status) : String :=
  match s.entry with
  | .file _ | .program _ => if s.size = 0 then "regular empty file" else "regular file"
  | .directory _ => "directory"
  | .pipe _ => "fifo"
  | .link _ => "symbolic link"
  | .device _ => "character special file"

/-- The letter that tells the kind of a file. -/
def kindLetter (s : Status) : Char :=
  match s.entry with
  | .file _ | .program _ => '-'
  | .directory _ => 'd'
  | .pipe _ => 'p'
  | .link _ => 'l'
  | .device _ => 'c'

/-- The mark of a kind behind a name. -/
def mark (s : Status) : String :=
  match s.entry with
  | .directory _ => "/"
  | .link _ => "@"
  | .pipe _ => "|"
  | .device _ => ""
  | .file _ | .program _ => if Nat.land s.mode 0o111 != 0 then "*" else ""

/-- What is known of a file as a format asks for. -/
def write (s : Status) (name : String) : List Char → List Char
  | '%' :: letter :: rest =>
    let text := match letter with
      | 'a' => Mode.digits s.mode
      | 'A' => String.singleton s.kindLetter ++ Mode.letters s.mode
      | 'F' => s.kindName
      | 'n' => name
      | 's' => toString s.size
      | '%' => "%"
      | _ => "?"
    text.toList ++ s.write name rest
  | c :: rest => c :: s.write name rest
  | [] => []

end Status

/-- Print what is known of files as a format asks for. -/
def stat : Tool :=
  byOptions [.valued 'c' "format", .flag 'L' "dereference"] fun o m =>
    match o.value? "c", o.operands with
    | _, [] => misuse "missing operand" m
    | none, _ => misuse "missing format" m
    | some format, operands =>
      operands.foldl (fun m name =>
        match Status.of m (o.has "L") name with
        | .error cause => fail ("cannot statx " ++ aboutFile name cause) m
        | .ok s => m.printLine (String.ofList (s.write name format.toList))) m

/-- Print the goals of links. -/
def readlink : Tool :=
  byOptions [] fun o m =>
    if o.operands.isEmpty then misuse "missing operand" m
    else
      o.operands.foldl (fun m path =>
        match Walk.entry? m path with
        | .ok (.link goal) => m.printLine goal.octets
        | _ => m.withStatus 1) m

/-- Test a condition, as the shell does. -/
def test : Tool := fun args m =>
  match Shell.Condition.holds m args with
  | .ok true => m.withStatus 0
  | .ok false => m.withStatus 1
  | .error message => failWith 2 message m

end Tool
end TaskScript
