import TaskScript.Tool.Status

/-!
# Listing — the names in directories

- `Listing` : which names are printed, and in which order
- `ls`      : prints the names in directories
-/

namespace TaskScript

open Shell (Machine)

namespace Tool

/-- Which names are printed, and in which order. -/
structure Listing where
  showsHidden : Bool
  /-- Whether the directory itself and the one above it are among the names. -/
  showsSelf : Bool
  isReversed : Bool
  /-- Whether directories are taken for files. -/
  isFlat : Bool
  isRecursive : Bool
  /-- Whether names of directories are marked, and whether those of all kinds are. -/
  marksDirectories : Bool
  marksKinds : Bool

namespace Listing

/-- Names in order. -/
def arrange (l : Listing) (names : List String) : List String :=
  let sorted := names.mergeSort fun a b => decide (a ≤ b)
  if l.isReversed then sorted.reverse else sorted

/-- The names in a directory that are printed. -/
def contents (l : Listing) (m : Machine) (path : String) : List String :=
  let names := (Walk.names m path).filter fun name => l.showsHidden || !name.startsWith "."
  l.arrange ((if l.showsSelf then [".", ".."] else []) ++ names)

/-- A name with the mark of its kind. -/
def label (l : Listing) (m : Machine) (path name : String) : String :=
  match Status.of m false path with
  | .error _ => name
  | .ok s =>
    if l.marksKinds || l.marksDirectories && s.entry.isDirectory then name ++ s.mark else name

/-- Print names, each on a line; `pathOf` gives their paths. -/
def write (l : Listing) (pathOf : String → String) (names : List String) (m : Machine) : Machine :=
  m.printChars (Lines.joined '\n' (names.map fun name => (l.label m (pathOf name) name).toList))

/-- Print what a directory holds, and what those in it hold if they are to be printed; `isFirst`
tells whether nothing has been printed before. -/
def directory (l : Listing) : Nat → Bool → Bool → String → Machine → Machine
  | 0, _, _, _, m => m
  | depth + 1, isNamed, isFirst, path, m =>
    let names := l.contents m path
    let m := if isFirst then m else m.print "\n"
    let m := if isNamed || l.isRecursive then m.print (path ++ ":\n") else m
    let m := l.write (Walk.under path) names m
    if l.isRecursive then
      let inner := names.filter fun name => name != "." && name != ".." &&
        ((Walk.entry? m (Walk.under path name)).toOption.any Entry.isDirectory)
      inner.foldl (fun m name => directory l depth true false (Walk.under path name) m) m
    else m

/-- Print operands: first those that are no directories, then what the others hold. -/
def all (l : Listing) (operands : List String) (m : Machine) : Machine :=
  let (found, m) := operands.foldl (fun (found, m) path =>
    match Walk.entry? m path with
    | .ok _ => (path :: found, m)
    | .error cause => (found, failWith 2 ("cannot access " ++ aboutFile path cause) m))
    (([] : List String), m)
  let opens (path : String) : Bool := !l.isFlat && Walk.isDirectory m path
  let files := l.arrange (found.filter fun path => !opens path)
  let directories := l.arrange (found.filter opens)
  let isNamed := 1 < operands.length
  let (_, m) := directories.foldl (fun (isFirst, m) path =>
    (false, l.directory Walk.depthLimit isNamed isFirst path m))
    (files.isEmpty, l.write id files m)
  m

end Listing

/-- Print the names in directories. -/
def ls : Tool :=
  byOptionsAt 2 false [.flag 'a' "all", .flag 'A' "almost-all", .flag 'd' "directory",
      .flag 'r' "reverse", .flag 'R' "recursive", ⟨"F", some 'F', some "classify", .nothing⟩,
      ⟨"p", some 'p', none, .nothing⟩, ⟨"1", some '1', none, .nothing⟩] fun o m =>
    let listing : Listing :=
      { showsHidden := o.has "a" || o.has "A", showsSelf := o.last? ["a", "A"] == some "a"
        isReversed := o.has "r", isFlat := o.has "d", isRecursive := o.has "R" && !o.has "d"
        marksDirectories := o.has "p", marksKinds := o.has "F" }
    listing.all (if o.operands.isEmpty then ["."] else o.operands) m

end Tool
end TaskScript
