import TaskScript.Tool.Walk

/-!
# Removal — tools that remove files and directories

- `rm`    : files, and directories with what they hold
- `rmdir` : empty directories
-/

namespace TaskScript

open Shell (Machine)

namespace Tool
namespace Removal

/-- How `rm` removes. -/
structure Style where
  isForced : Bool
  isRecursive : Bool
  removesEmpty : Bool
  tells : Bool

/-- Remove one entry, which holds nothing; also whether that was tried in vain. -/
def one (s : Style) (path : String) (entry : Entry) (m : Machine) : Bool × Machine :=
  let isDirectory := entry.isDirectory
  let result := if isDirectory then m.store.removeDirectory (Machine.pathOf path)
    else m.store.unlink (Machine.pathOf path)
  let (done, m) := Walk.change result ("cannot remove " ++ Quoting.always path) m
  (!done, if done && s.tells then
    m.printLine ((if isDirectory then "removed directory " else "removed ") ++ Quoting.always path)
  else m)

/-- Remove what a path leads to with everything below it; so deep at most.  The result also tells
whether the directories above have to stay, as something was tried in vain. -/
def tree (s : Style) : Nat → String → Machine → Bool × Machine
  | 0, _, m => (true, m)
  | depth + 1, path, m =>
    match Walk.entry? m path with
    | .error cause =>
      if s.isForced && (cause == .notFound || cause == .notDirectory) then (false, m)
      else (true, fail ("cannot remove " ++ aboutFile path cause) m)
    | .ok (.directory number) =>
      if s.isRecursive then
        let (stays, m) := (Walk.names m path).foldl (fun (stays, m) name =>
          let (alsoStays, m) := tree s depth (Walk.under path name) m
          (stays || alsoStays, m)) (false, m)
        if stays then (true, m) else one s path (.directory number) m
      else if s.removesEmpty then one s path (.directory number) m
      else (true, fail ("cannot remove " ++ aboutFile path .isDirectory) m)
    | .ok entry => one s path entry m

end Removal

/-- Remove files and directories. -/
def rm : Tool :=
  byOptions [.flag 'f' "force", .flag 'r' "recursive", ⟨"r", some 'R', none, .nothing⟩,
      .flag 'd' "dir", .flag 'v' "verbose"] fun o m =>
    let style : Removal.Style := ⟨o.has "f", o.has "r", o.has "d", o.has "v"⟩
    if o.operands.isEmpty then
      if style.isForced then m else misuse "missing operand" m
    else
      o.operands.foldl (fun m path =>
        let last := Walk.lastPart path
        let isRoot := match m.store.lookup (Machine.pathOf path) with
          | .ok (location, _) => location.isEmpty
          | .error _ => false
        if style.isRecursive && isRoot then
          let m := object ("it is dangerous to operate recursively on " ++
            Quoting.always path ++ (if path == "/" then "" else " (same as '/')")) m
          fail "use --no-preserve-root to override this failsafe" m
        else if (last == "." || last == "..") && style.isRecursive then
          fail ("refusing to remove '.' or '..' directory: skipping " ++ Quoting.always path) m
        else (Removal.tree style Walk.depthLimit path m).2) m

/-- Remove the directories above one; `reversed` is its path, from the end on. -/
def Removal.parents : Nat → List Char → Machine → Machine
  | 0, _, m => m
  | steps + 1, reversed, m =>
    let above := (reversed.dropWhile (· != '/')).dropWhile (· == '/')
    let path := String.ofList above.reverse
    if above.isEmpty then m
    else
      match m.store.removeDirectory (Machine.pathOf path) with
      | .ok store => parents steps above (m.withStore store)
      | .error cause => fail ("failed to remove directory " ++ aboutFile path cause) m

/-- Remove empty directories. -/
def rmdir : Tool :=
  byOptions [.flag 'p' "parents"] fun o m =>
    if o.operands.isEmpty then misuse "missing operand" m
    else
      o.operands.foldl (fun m path =>
        match m.store.removeDirectory (Machine.pathOf path) with
        | .ok store =>
          let m := m.withStore store
          if o.has "p" then
            Removal.parents path.length (path.toList.reverse.dropWhile (· == '/')) m
          else m
        | .error cause =>
          let isLink := path.endsWith "/" && match Walk.entry? m (Walk.trimmed path) with
            | .ok (.link _) => cause == .notDirectory
            | _ => false
          if isLink then
            fail ("failed to remove " ++ Quoting.always path ++ ": Symbolic link not followed") m
          else fail ("failed to remove " ++ aboutFile path cause) m) m

end Tool
end TaskScript
