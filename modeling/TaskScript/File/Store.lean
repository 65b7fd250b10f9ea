import TaskScript.File.Path
import TaskScript.SystemError
import TaskScript.Text.Basic

/-!
# Store — a tree of files and directories

A store holds what stands under absolute locations, the contents of files, and the directory from
which relative paths start.  A location is the list of names that lead to it from the root; the root
itself is always a directory.  Several locations may hold the same file.  Names are octets, as they
are in paths.

- `Store.lookup`     : the location and the entry that a path leads to
- `Store.lookupLink` : the same, but a link at the end is not followed
- `Store.read`       : the bytes of a file
- `Store.unlink`     : removal of one name of a file
- `Store.listing`    : everything below a directory
- `Store.standard`   : the directories, devices and programs that every system has

Paths are walked name by name: every name but the last has to lead to a directory, `..` goes up, a
link is replaced by its goal, and a trailing slash asks for a directory.
-/

namespace TaskScript

/-- The names that lead from the root to a file or directory, in octets. -/
abbrev Location := List String

/-- What a location holds. -/
inductive Entry
  /-- The file with a number. -/
  | file (number : Nat)
  /-- The directory with a number. -/
  | directory (number : Nat)
  /-- The pipe with a number, which keeps what is written until it is read. -/
  | pipe (number : Nat)
  /-- A path to follow instead. -/
  | link (goal : Path)
  /-- A device, by its name. -/
  | device (name : String)
  /-- A program that is part of the system, by its name. -/
  | program (name : String)
  deriving DecidableEq, Repr

namespace Entry

/-- Whether an entry is a regular file. -/
def isFile : Entry → Bool
  | file _ | program _ => true
  | directory _ | pipe _ | link _ | device _ => false

/-- Whether an entry is a directory. -/
def isDirectory : Entry → Bool
  | directory _ => true
  | file _ | pipe _ | link _ | device _ | program _ => false

/-- The number of an entry that has a body. -/
def number? : Entry → Option Nat
  | file number | directory number | pipe number => some number
  | link _ | device _ | program _ => none

end Entry

/-- What a file holds, the permissions that belong to it, and when it was changed.  A directory
holds no bytes here, and a pipe those that nobody has read yet. -/
structure Body where
  bytes : ByteArray
  mode : Nat
  /-- In microseconds since the start of 1970. -/
  time : Int

/-- Files and directories, where relative paths start, and the time. -/
structure Store where
  entries : List (Location × Entry)
  /-- What files hold, by their numbers; directories and pipes have numbers of the same kind. -/
  bodies : List (Nat × Body)
  here : Location
  now : Int

namespace Store

/-- The time of a new store: the first moment of the year 2025. -/
def firstMoment : Int := 1735689600 * 1000000

/-- The number of the root, and of other directories that have always been there. -/
def rootNumber : Nat := 0

/-- The permissions of a directory unless others are asked for. -/
def directoryMode : Nat := 0o755

/-- A store without anything but its root. -/
def empty (here : Location) : Store :=
  ⟨[], [(rootNumber, ⟨.empty, directoryMode, firstMoment⟩)], here, firstMoment⟩

instance : Inhabited Store := ⟨empty []⟩

/-! ## Locations -/

/-- What a location holds, if anything. -/
def entryAt? (store : Store) (location : Location) : Option Entry :=
  if location.isEmpty then some (.directory rootNumber) else store.entries.lookup location

/-- The store without one location. -/
def eraseAt (store : Store) (location : Location) : Store :=
  { store with entries := store.entries.filter fun e => e.1 != location }

/-- The store in which a location holds an entry, replacing what it held. -/
def putAt (store : Store) (location : Location) (entry : Entry) : Store :=
  { store with entries := (store.eraseAt location).entries ++ [(location, entry)] }

/-- The names directly below a location, in no particular order. -/
def namesAt (store : Store) (location : Location) : List String :=
  store.entries.filterMap fun e =>
    if e.1.dropLast == location && !e.1.isEmpty then e.1.getLast? else none

/-! ## Contents of files -/

/-- The permissions of a new file. -/
def plainMode : Nat := 0o644

/-- What the file with a number holds. -/
def bodyOf (store : Store) (number : Nat) : Body :=
  (store.bodies.lookup number).getD ⟨.empty, plainMode, 0⟩

/-- Give the file with a number another body. -/
def setBody (store : Store) (number : Nat) (body : Body) : Store :=
  { store with bodies := store.bodies.map fun b => if b.1 = number then (number, body) else b }

/-- A new file, and its number. -/
def addBody (store : Store) (body : Body) : Nat × Store :=
  let number := store.bodies.foldl (fun n b => max n (b.1 + 1)) 1
  (number, { store with bodies := (number, body) :: store.bodies })

/-- Put a new file at a location. -/
def putFile (store : Store) (location : Location) (body : Body) : Store :=
  let added := store.addBody body
  added.2.putAt location (.file added.1)

/-- Put a new directory with some permissions at a location. -/
def putDirectory (store : Store) (location : Location) (mode : Nat) : Store :=
  let added := store.addBody ⟨.empty, mode, store.now⟩
  added.2.putAt location (.directory added.1)

/-! ## Walking paths -/

/-- The greatest number of bytes in one name. -/
def nameLimit : Nat := 255

/-- The greatest number of bytes in a path. -/
def pathLimit : Nat := 4095

/-- How many links may be followed on the way along a path. -/
def linkLimit : Nat := 40

/-- One step from a directory that exists, without asking what is there. -/
def step (directory : Location) (name : String) : Location :=
  if name == "." then directory
  else if name == ".." then directory.dropLast
  else directory ++ [name]

/-- What a step from a directory leads to. -/
def enter (store : Store) (directory : Location) (name : String) : Except SystemError Entry :=
  if name.length > nameLimit then
    .error .nameTooLong
  else
    match store.entryAt? (step directory name) with
    | some entry => .ok entry
    | none => .error .notFound

/-- The names that a path consists of. -/
def namesIn (path : Path) : List String :=
  ((Text.fields '/' path.chars).filter fun n => !n.isEmpty).map String.ofList

/-- Where a path starts, seen from a directory. -/
def origin (directory : Location) (path : Path) : Location :=
  if path.isAbsolute then [] else directory

/-- Walk down from a directory along names that all have to lead to directories; so many links may
be followed. -/
def walk (store : Store) (links : Nat) (directory : Location) (names : List String) :
    Except SystemError Location :=
  match names with
  | [] => .ok directory
  | name :: rest =>
    match store.enter directory name with
    | .ok (.directory _) => store.walk links (step directory name) rest
    | .ok (.link goal) =>
      match links with
      | 0 => .error .tooManyLinks
      | links + 1 => store.walk links (origin directory goal) (namesIn goal ++ rest)
    | .ok (.file _) | .ok (.pipe _) | .ok (.device _) | .ok (.program _) => .error .notDirectory
    | .error e => .error e
termination_by (links, names.length)

/-- A path taken apart: the directory that holds its last name, that name, and whether a slash
follows it.  The root and other paths without a last name have none. -/
structure Target where
  parent : Location
  name? : Option String
  slash : Bool

/-- Walk from a directory to the one that holds the last name of a path. -/
def targetFrom (store : Store) (links : Nat) (directory : Location) (path : Path) :
    Except SystemError Target :=
  if path.chars.contains '\x00' then
    .error .nulInPath
  else if path.chars.isEmpty then
    .error .notFound
  else if path.chars.length > pathLimit then
    .error .nameTooLong
  else
    let names := namesIn path
    let start := origin directory path
    let slash := path.chars.getLast? == some '/'
    match names.getLast? with
    | none => .ok ⟨start, none, slash⟩
    | some last =>
      match store.walk links start names.dropLast with
      | .ok parent => .ok ⟨parent, some last, slash⟩
      | .error e => .error e

/-- Walk to the directory that holds the last name of a path. -/
def target (store : Store) (path : Path) : Except SystemError Target :=
  store.targetFrom linkLimit store.here path

/-- The target of a path once the links at its end have been followed.  The last name need not
exist. -/
def finalTarget (store : Store) : Nat → Location → Path → Except SystemError Target
  | links, directory, path =>
    match store.targetFrom links directory path with
    | .error e => .error e
    | .ok ⟨parent, none, slash⟩ => .ok ⟨parent, none, slash⟩
    | .ok ⟨parent, some name, slash⟩ =>
      match store.enter parent name with
      | .ok (.link goal) =>
        match links with
        | 0 => .error .tooManyLinks
        | links + 1 =>
          match store.finalTarget links parent goal with
          | .ok found => .ok { found with slash := found.slash || slash }
          | .error e => .error e
      | _ => .ok ⟨parent, some name, slash⟩

/-- What a target holds; a slash asks for a directory. -/
def holds (store : Store) : Target → Except SystemError (Location × Entry)
  | ⟨parent, none, _⟩ => .ok (parent, (store.entryAt? parent).getD (.directory rootNumber))
  | ⟨parent, some name, slash⟩ =>
    match store.enter parent name with
    | .error e => .error e
    | .ok entry =>
      if slash && !entry.isDirectory then .error .notDirectory else .ok (step parent name, entry)

/-- The location that a path leads to, and what it holds. -/
def lookup (store : Store) (path : Path) : Except SystemError (Location × Entry) :=
  match store.finalTarget linkLimit store.here path with
  | .error e => .error e
  | .ok target => store.holds target

/-- The location that a path leads to, and what it holds, which may be a link.  A slash after a link
asks for what it leads to. -/
def lookupLink (store : Store) (path : Path) : Except SystemError (Location × Entry) :=
  match store.target path with
  | .error e => .error e
  | .ok target => if target.slash then store.lookup path else store.holds target

/-! ## Reading -/

/-- Whether a path leads to a regular file. -/
def isFile (store : Store) (path : Path) : Bool :=
  match store.lookup path with
  | .ok (_, entry) => entry.isFile
  | .error _ => false

/-- Whether a path leads to a directory. -/
def isDirectory (store : Store) (path : Path) : Bool :=
  match store.lookup path with
  | .ok (_, entry) => entry.isDirectory
  | .error _ => false

/-- The directory that a path leads to. -/
def directoryAt (store : Store) (path : Path) : Except SystemError Location :=
  match store.lookup path with
  | .ok (location, entry) => if entry.isDirectory then .ok location else .error .notDirectory
  | .error e => .error e

/-- The bytes of the file that a path leads to. -/
def read (store : Store) (path : Path) : Except SystemError ByteArray :=
  match store.lookup path with
  | .ok (_, .file number) | .ok (_, .pipe number) => .ok (store.bodyOf number).bytes
  | .ok (_, .directory _) => .error .isDirectory
  | .ok _ => .ok .empty
  | .error e => .error e

/-- When what a path leads to was changed. -/
def timeOf (store : Store) (path : Path) : Except SystemError Int :=
  match store.lookup path with
  | .ok (_, entry) =>
    .ok (match entry.number? with
      | some number => (store.bodyOf number).time
      | none => firstMoment)
  | .error e => .error e

/-- Whether a path leads to something that was changed later than what another one leads to. -/
def isNewer (store : Store) (path other : Path) : Bool :=
  match store.timeOf path, store.timeOf other with
  | .ok a, .ok b => b < a
  | _, _ => false

/-- The text of the file that a path leads to. -/
def readText (store : Store) (path : Path) : Except SystemError String :=
  match store.read path with
  | .ok bytes =>
    match String.fromUTF8? bytes with
    | some text => .ok text
    | none => .error .invalidUtf8
  | .error e => .error e

/-- A location as an absolute path. -/
def pathTo (location : Location) : Path := .ofOctets ("/" ++ "/".intercalate location)

/-- Everything below a directory: paths relative to it, with a slash after what leads to a
directory.  `depth` bounds how far down this goes. -/
def contentsBelow (store : Store) (directory : Location) : Nat → List String → List String
  | 0, _ => []
  | depth + 1, names =>
    match store.lookup (pathTo (directory ++ names)) with
    | .ok (location, .directory _) =>
      (store.namesAt location).flatMap fun name =>
        let below := names ++ [name]
        let relative := "/".intercalate below
        if store.isDirectory (pathTo (directory ++ below)) then
          (relative ++ "/") :: store.contentsBelow directory depth below
        else
          [relative]
    | _ => []

/-- Everything below a directory: paths relative to it, as texts in order, with a slash after what
leads to a directory. -/
def listing (store : Store) (directory : Location) : List String :=
  ((store.contentsBelow directory pathLimit []).map Octets.toString).mergeSort
    fun a b => decide (a ≤ b)

/-! ## Changing -/

/-- Remove the name that a path ends in.  Directories are not removed, links not followed. -/
def unlink (store : Store) (path : Path) : Except SystemError Store :=
  match store.target path with
  | .error e => .error e
  | .ok ⟨_, none, _⟩ => .error .isDirectory
  | .ok ⟨parent, some name, slash⟩ =>
    if name == "." || name == ".." then
      .error .isDirectory
    else
      match store.enter parent name with
      | .error e => .error e
      | .ok entry =>
        if entry.isDirectory then .error .isDirectory
        else if slash then .error .notDirectory
        else .ok (store.eraseAt (step parent name))

/-- Add the directories that lead to a location and are missing. -/
def makeWay (store : Store) (location : Location) : Store :=
  (List.range location.length).foldl (fun store n =>
    let above := location.take (n + 1)
    match store.entryAt? above with
    | some _ => store
    | none => store.putDirectory above directoryMode) store

/-- Put a file with some bytes at a location, with the directories that lead to it. -/
def plantFile (store : Store) (location : Location) (bytes : ByteArray) : Store :=
  (store.makeWay location.dropLast).putFile location ⟨bytes, plainMode, store.now⟩

/-- Put a directory at a location, with those that lead to it. -/
def plantDirectory (store : Store) (location : Location) : Store :=
  store.makeWay location

/-! ## The files that every system has -/

/-- The directories that every system has. -/
def usualDirectories : List Location :=
  [["boot"], ["dev"], ["etc"], ["home"], ["media"], ["mnt"], ["opt"], ["proc"],
    ["proc", "self"], ["proc", "self", "fd"], ["root"], ["run"], ["srv"], ["sys"], ["tmp"], ["usr"],
    ["usr", "bin"], ["usr", "lib"], ["usr", "local"], ["usr", "local", "bin"],
    ["usr", "local", "sbin"], ["usr", "sbin"], ["usr", "share"], ["var"], ["var", "tmp"]]

/-- The directories in which everybody may put files, and remove only their own. -/
def sharedDirectories : List Location := [["tmp"], ["var", "tmp"]]

/-- The permissions of such directories. -/
def sharedMode : Nat := 0o1777

/-- The links that every system has. -/
def usualLinks : List (Location × String) :=
  [(["bin"], "usr/bin"), (["sbin"], "usr/sbin"), (["lib"], "usr/lib"),
    (["usr", "bin", "sh"], "dash"), (["usr", "bin", "awk"], "mawk"),
    (["dev", "fd"], "/proc/self/fd"), (["dev", "stdin"], "/proc/self/fd/0"),
    (["dev", "stdout"], "/proc/self/fd/1"), (["dev", "stderr"], "/proc/self/fd/2")]

/-- The devices that every system has. -/
def usualDevices : List String := ["null", "zero", "full", "random", "urandom", "tty"]

/-- The devices that stand for the descriptors of the process that opens them. -/
def descriptorDevices : List String := (List.range 10).map fun n => toString n

/-- The store of a system with some programs. -/
def standard (programs : List String) (here : Location) : Store :=
  let base := empty here
  let (shared, base) := base.addBody ⟨.empty, sharedMode, firstMoment⟩
  let directories := usualDirectories.map fun l =>
    (l, Entry.directory (if sharedDirectories.contains l then shared else rootNumber))
  let links := usualLinks.map fun l => (l.1, Entry.link (.ofString l.2))
  let devices := usualDevices.map (fun name => (["dev", name], Entry.device name)) ++
    descriptorDevices.map fun name => (["proc", "self", "fd", name], Entry.device name)
  let tools := programs.map fun name => (["usr", "bin", name], Entry.program name)
  { base with entries := directories ++ links ++ devices ++ tools }

end Store
end TaskScript
