import TaskScript.Tool.Mode
import TaskScript.Tool.Walk

/-!
# Copying — tools that copy, move and link files

- `cp` : copies of files, and of directories with what they hold
- `mv` : other names for files and directories
- `ln` : links, and further names of files
-/

namespace TaskScript

open Shell (Machine)

namespace Tool
namespace Copying

/-! ## Copies -/

/-- How `cp` copies. -/
structure Style where
  /-- Whether directories are copied with what they hold, and links as links. -/
  isRecursive : Bool
  keepsModes : Bool
  /-- Whether what is there already is left as it is. -/
  spares : Bool
  tells : Bool

/-- Whether two paths lead to the same thing. -/
def isSame (m : Machine) (a b : String) : Bool :=
  match m.store.lookup (Machine.pathOf a), m.store.lookup (Machine.pathOf b) with
  | .ok (_, .file n), .ok (_, .file k) | .ok (_, .pipe n), .ok (_, .pipe k) => n == k
  | .ok (here, _), .ok (there, _) => here == there
  | _, _ => false

/-- Tell what was done with a source. -/
def tell (tells : Bool) (word source goal : String) (m : Machine) : Machine :=
  if tells then m.printLine (word ++ Quoting.always source ++ " -> " ++ Quoting.always goal) else m

/-- Put the permissions of a source on its copy; if they are not to be kept, then only on a new one,
and as far as the mask allows them. -/
def preserve (s : Style) (isNew : Bool) (mode : Nat) (goal : String) (m : Machine) : Machine :=
  let kept := if s.keepsModes then mode else Mode.without (Nat.land mode 0o1777) m.mask
  if s.keepsModes || isNew then
    m.withStore ((m.store.changeMode (Machine.pathOf goal) fun _ => kept).toOption.getD m.store)
  else m

/-- Copy a file that holds some bytes. -/
def content (s : Style) (source goal : String) (body : Body) (m : Machine) : Machine :=
  let isNew := (Walk.found? m goal).toOption.isNone
  match m.store.write (Machine.pathOf goal) body.bytes m.mask with
  | .error cause =>
    if isNew && (Walk.entry? m goal).toOption.isSome then
      fail ("not writing through dangling symlink " ++ Quoting.always goal) m
    else
      let cause := if cause == .isDirectory then .notDirectory else cause
      fail ("cannot create regular file " ++ aboutFile goal cause) m
  | .ok store =>
    preserve s isNew body.mode goal (tell s.tells "" source goal (m.withStore store))

/-- Copy something that is no directory to where nothing else is in the way. -/
def place (s : Style) (source goal : String) (entry : Entry) (m : Machine) : Machine :=
  let path := Machine.pathOf goal
  let emptied := (m.store.unlink path).toOption.getD m.store
  let added (result : Except SystemError Store) (what : String) : Bool × Machine :=
    let (done, m) := Walk.change result
      ("cannot create " ++ what ++ " " ++ Quoting.always goal) m
    (done, if done then tell s.tells "" source goal m else m)
  match entry with
  | .link text => (added (emptied.makeLink text path) "symbolic link").2
  | .file number => content s source goal (m.store.bodyOf number) m
  | .program name => (added (emptied.putNew path (.program name)) "regular file").2
  | .pipe number =>
    if !s.isRecursive then content s source goal (m.store.bodyOf number) m
    else
      let (done, m) := added (emptied.makePipe path 0o666) "fifo"
      if done then preserve s true (m.store.bodyOf number).mode goal m else m
  | .device _ | .directory _ => content s source goal ⟨.empty, 0o666, m.store.now⟩ m

/-- Copy something that is no directory. -/
def single (s : Style) (source goal : String) (entry : Entry) (m : Machine) : Machine :=
  let there? := (Walk.entry? m goal).toOption
  if isSame m source goal then
    fail (Quoting.always source ++ " and " ++ Quoting.always goal ++ " are the same file") m
  else if s.spares && there?.isSome then m
  else if Walk.isDirectory m goal && !(s.isRecursive && there?.any fun e => !e.isDirectory) then
    fail ("cannot overwrite directory " ++ Quoting.always goal ++ " with non-directory") m
  else place s source goal entry m

/-- Copy what a directory holds by copying each thing in it; but not the directory `root?`, which
the copy goes to. -/
def children (copy : Option Location → String → String → Machine → Machine) (location : Location)
    (root? : Option Location) (source goal : String) (m : Machine) : Machine :=
  let root? := root? <|> (m.store.lookup (Machine.pathOf goal)).toOption.map Prod.fst
  (Walk.names m source).foldl (fun m name =>
    if root? == some (location ++ [name]) then
      fail ("cannot copy a directory, " ++ Quoting.always (Walk.trimmed source) ++
        ", into itself, " ++ Quoting.always goal) m
    else copy root? (Walk.under source name) (Walk.under goal name) m) m

/-- Copy what a source leads to; so deep at most. -/
def tree (s : Style) : Nat → Option Location → String → String → Machine → Machine
  | 0, _, _, _, m => m
  | depth + 1, root?, source, goal, m =>
    let path := Machine.pathOf source
    match if s.isRecursive then m.store.lookupLink path else m.store.lookup path with
    | .error cause => fail ("cannot stat " ++ aboutFile source cause) m
    | .ok (location, .directory number) =>
      if !s.isRecursive then
        fail ("-r not specified; omitting directory " ++ Quoting.always source) m
      else
        match Walk.found? m goal with
        | .ok entry =>
          if entry.isDirectory then
            preserve s false (m.store.bodyOf number).mode goal
              (children (tree s depth) location root? source goal m)
          else fail ("cannot overwrite non-directory " ++ Quoting.always goal ++
            " with directory " ++ Quoting.always source) m
        | .error _ =>
          match m.store.makeDirectory (Machine.pathOf goal) Store.directoryMode with
          | .error cause => fail ("cannot create directory " ++ aboutFile goal cause) m
          | .ok store =>
            preserve s true (m.store.bodyOf number).mode goal
              (children (tree s depth) location root? source goal
                (tell s.tells "" source goal (m.withStore store)))
    | .ok (_, entry) => single s source goal entry m

end Copying

/-- Copy files and directories. -/
def cp : Tool :=
  byOptions [.flag 'r' "recursive", ⟨"r", some 'R', none, .nothing⟩, .flag 'a' "archive",
      ⟨"p", some 'p', none, .nothing⟩, .flag 'f' "force", .flag 'n' "no-clobber",
      .flag 'v' "verbose"] fun o m =>
    let m := if o.has "n" then object
        "warning: behavior of -n is non-portable and may change in future; use --update=none instead"
        m
      else m
    match Operands.read o.operands m with
    | .error m => m
    | .ok ops =>
      let style : Copying.Style :=
        ⟨o.has "r" || o.has "a", o.has "p" || o.has "a", o.has "n", o.has "v"⟩
      let (m, _) := ops.sources.foldl (fun ((m, made) : Machine × List String) source =>
        let goal := ops.goal source
        if made.contains goal && !Walk.isDirectory m source then
          (fail ("will not overwrite just-created " ++ Quoting.always goal ++ " with " ++
            Quoting.always source) m, made)
        else (Copying.tree style Walk.depthLimit none source goal m, goal :: made)) (m, [])
      m

/-! ## Other names -/

/-- Move a source to a goal, unless that is there and to be spared. -/
def Copying.move (spares tells : Bool) (source goal : String) (m : Machine) : Machine :=
  let sourcePath := Machine.pathOf source
  let goalPath := Machine.pathOf goal
  let both := Quoting.always source ++ " to " ++ Quoting.always goal
  match m.store.lookupLink sourcePath, m.store.lookupLink goalPath with
  | .error cause, _ => fail ("cannot stat " ++ aboutFile source cause) m
  | .ok (location, entry), found =>
    let there? := found.toOption
    let last := Walk.lastPart source
    if there?.any fun there => there.1 == location then
      fail (Quoting.always source ++ " and " ++ Quoting.always goal ++ " are the same file") m
    else if spares && there?.isSome then fail ("not replacing " ++ Quoting.always goal) m
    else if entry.isDirectory && there?.any fun there => !there.2.isDirectory then
      fail ("cannot overwrite non-directory " ++ Quoting.always goal ++ " with directory " ++
        Quoting.always source) m
    else if !entry.isDirectory && there?.any fun there => there.2.isDirectory then
      fail ("cannot overwrite directory " ++ Quoting.always goal ++ " with non-directory") m
    else if last == "." || last == ".." then
      fail ("cannot move " ++ both ++ ": Device or resource busy") m
    else
      -- two names of one file become one
      let isSame := match entry, there?.map Prod.snd with
        | .file n, some (.file k) => n == k
        | _, _ => false
      match if isSame then m.store.unlink sourcePath else m.store.rename sourcePath goalPath with
      | .ok store => tell tells "renamed " source goal (m.withStore store)
      | .error .invalid =>
        fail ("cannot move " ++ Quoting.always source ++ " to a subdirectory of itself, " ++
          Quoting.always goal) m
      | .error .notEmpty => fail ("cannot overwrite " ++ aboutFile goal .notEmpty) m
      | .error cause => fail ("cannot move " ++ both ++ ": " ++ cause.reason) m

/-- Give files and directories other names. -/
def mv : Tool :=
  byOptions [.flag 'f' "force", .flag 'n' "no-clobber", .flag 'v' "verbose"] fun o m =>
    match Operands.read o.operands m with
    | .error m => m
    | .ok ops =>
      let spares := o.last? ["f", "n"] == some "n"
      ops.sources.foldl (fun m source =>
        Copying.move spares (o.has "v") source (ops.goal source) m) m

/-! ## Links -/

/-- Make a link or a further name; `replaces` tells whether what is there goes. -/
def Copying.link (isSymbolic replaces : Bool) (source goal : String) (m : Machine) : Machine :=
  let sourcePath := Machine.pathOf source
  let path := Machine.pathOf goal
  let kind := if isSymbolic then "symbolic link " else "hard link "
  let existing := m.store.lookupLink path
  let there := if isSymbolic then m.store.lookup sourcePath else m.store.lookupLink sourcePath
  let isSame := match there, existing with
    | .ok (here, _), .ok (there, entry) => here == there && !entry.isDirectory
    | _, _ => false
  match Walk.entry? m source, isSymbolic, existing with
  | .error cause, false, _ => fail ("failed to access " ++ aboutFile source cause) m
  | .ok (.directory _), false, _ =>
    fail (Quoting.needed source ++ ": hard link not allowed for directory") m
  | _, _, .ok (_, .directory _) =>
    if replaces then fail (Quoting.needed goal ++ ": cannot overwrite directory") m
    else fail ("failed to create " ++ kind ++ aboutFile goal .alreadyThere) m
  | _, _, _ =>
    if replaces && isSame then
      fail (Quoting.always source ++ " and " ++ Quoting.always goal ++ " are the same file") m
    else
      let store := if replaces then (m.store.unlink path).toOption.getD m.store else m.store
      match if isSymbolic then store.makeLink sourcePath path else store.addName sourcePath path with
      | .ok store => m.withStore store
      | .error cause =>
        let about := if cause == .notFound && isSymbolic && source.isEmpty then
            Quoting.always goal ++ " -> " ++ Quoting.always source ++ ": " ++ cause.reason
          else if cause == .alreadyThere || isSymbolic then aboutFile goal cause
          else Quoting.always goal ++ " => " ++ Quoting.always source ++ ": " ++ cause.reason
        fail ("failed to create " ++ kind ++ about) m

/-- Make links and further names. -/
def ln : Tool :=
  byOptions [.flag 's' "symbolic", .flag 'f' "force"] fun o m =>
    let operands := match o.operands with
      | [source] => [source, "."]
      | operands => operands
    match Operands.read operands m with
    | .error m => m
    | .ok ops =>
      ops.sources.foldl (fun m source =>
        Copying.link (o.has "s") (o.has "f") source (ops.goal source) m) m

end Tool
end TaskScript
