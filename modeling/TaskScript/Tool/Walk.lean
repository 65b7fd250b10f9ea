import TaskScript.Tool.Input

/-!
# Walk — files and directories by their paths

- `Walk.under`  : the path of a name in a directory
- `Walk.names`  : the names in a directory, in order
- `Operands`    : sources and a destination
-/

namespace TaskScript

open Shell (Machine)

namespace Tool
namespace Walk

/-- The path of a name in a directory. -/
def under (directory name : String) : String :=
  if directory.endsWith "/" then directory ++ name else directory ++ "/" ++ name

/-- What a path leads to; a link at its end is not followed. -/
def entry? (m : Machine) (path : String) : Except SystemError Entry :=
  (m.store.lookupLink (Machine.pathOf path)).map Prod.snd

/-- What a path leads to. -/
def found? (m : Machine) (path : String) : Except SystemError Entry :=
  (m.store.lookup (Machine.pathOf path)).map Prod.snd

/-- Whether a path leads to a directory. -/
def isDirectory (m : Machine) (path : String) : Bool := m.store.isDirectory (Machine.pathOf path)

/-- The names in a directory, in the order of their octets. -/
def names (m : Machine) (path : String) : List String :=
  match m.store.directoryAt (Machine.pathOf path) with
  | .ok location => (m.store.namesAt location).mergeSort fun a b => decide (a ≤ b)
  | .error _ => []

/-- How deep directories are looked into. -/
def depthLimit : Nat := 500

/-- The last part of a path. -/
def lastPart (path : String) : String :=
  let reversed := path.toList.reverse.dropWhile (· == '/')
  String.ofList (reversed.takeWhile (· != '/')).reverse

/-- A path without slashes at its end. -/
def trimmed (path : String) : String :=
  let kept := path.toList.reverse.dropWhile (· == '/')
  if kept.isEmpty && !path.isEmpty then "/" else String.ofList kept.reverse

/-- Change the store, or complain. -/
def change (result : Except SystemError Store) (complaint : String) (m : Machine) :
    Bool × Machine :=
  match result with
  | .ok store => (true, m.withStore store)
  | .error cause => (false, fail (complaint ++ ": " ++ cause.reason) m)

end Walk

/-- What is copied, moved or linked, and where to. -/
structure Operands where
  sources : List String
  destination : String
  /-- Whether the destination is a directory that takes the sources in. -/
  isInside : Bool

namespace Operands

/-- Sources and a destination, as operands tell them. -/
def read (operands : List String) (m : Machine) : Except Machine Operands :=
  match operands.reverse with
  | [] => .error (misuse "missing file operand" m)
  | [only] => .error (misuse ("missing destination file operand after " ++ Quoting.always only) m)
  | destination :: first :: others =>
    if Walk.isDirectory m destination then .ok ⟨(first :: others).reverse, destination, true⟩
    else
      match others, m.store.directoryAt (Machine.pathOf destination) with
      | [], _ => .ok ⟨[first], destination, false⟩
      | _, .error cause => .error (fail ("target " ++ aboutFile destination cause) m)
      | _, .ok _ => .error (fail ("target " ++ aboutFile destination .notDirectory) m)

/-- The destination of a source. -/
def goal (ops : Operands) (source : String) : String :=
  if ops.isInside then Walk.under ops.destination (Walk.lastPart source) else ops.destination

end Operands
end Tool
end TaskScript
