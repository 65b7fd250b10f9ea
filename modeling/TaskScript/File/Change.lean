import TaskScript.File.Store

/-!
# Change — opening, creating and removing what paths lead to

- `Store.openToRead`, `Store.openToWrite` : a file for reading or writing, made if that is wanted
- `Store.makeDirectory`, `Store.makePipe` : a new directory or pipe
- `Store.removeDirectory`           : the removal of an empty one
- `Store.rename`                    : the same entry under another name
- `Store.makeLink`, `Store.addName` : links, and further names of files

New entries lack the permissions that a mask takes away.
-/

namespace TaskScript

/-- What an opened path gives. -/
inductive Opened
  | file (number : Nat)
  | directory
  | pipe (number : Nat)
  | device (name : String)
  deriving DecidableEq, Repr

/-- What is done on opening a path for writing. -/
structure Creation where
  /-- Whether a missing file is made. -/
  makes : Bool
  /-- Whether the content of a file is dropped. -/
  drops : Bool
  /-- Whether a file that is there is refused. -/
  refuses : Bool
  deriving DecidableEq, Repr

namespace Store

/-! ## Places -/

/-- The store in which a directory has been changed now. -/
def noteChange (store : Store) (directory : Location) : Store :=
  match (store.entryAt? directory).bind Entry.number? with
  | some number =>
    if number = rootNumber then store
    else store.setBody number { store.bodyOf number with time := store.now }
  | none => store

/-- The store in which a location holds an entry that is new to its directory. -/
def placeAt (store : Store) (location : Location) (entry : Entry) : Store :=
  (store.putAt location entry).noteChange location.dropLast

/-- The store in which a location has been emptied, which changes its directory. -/
def clearAt (store : Store) (location : Location) : Store :=
  (store.eraseAt location).noteChange location.dropLast

/-! ## Opening -/

/-- The location of a target whose last name need not exist. -/
def placeOf (store : Store) : Target → Except SystemError Location
  | ⟨_, none, _⟩ => .error .isDirectory
  | ⟨parent, some name, slash⟩ =>
    if name.length > nameLimit then
      .error .nameTooLong
    else if slash && (store.entryAt? (step parent name)).isNone then
      .error .isDirectory
    else
      .ok (step parent name)

/-- Open a path for reading. -/
def openToRead (store : Store) (path : Path) : Except SystemError Opened :=
  match store.lookup path with
  | .error e => .error e
  | .ok (_, .file number) => .ok (.file number)
  | .ok (_, .pipe number) => .ok (.pipe number)
  | .ok (_, .device name) => .ok (.device name)
  | .ok (_, .program _) => .ok (.device "null")
  | .ok _ => .ok .directory

/-- Open a path for writing. -/
def openToWrite (store : Store) (path : Path) (how : Creation) (mask : Nat) :
    Except SystemError (Opened × Store) :=
  match store.finalTarget linkLimit store.here path with
  | .error e => .error e
  | .ok target =>
    match store.placeOf target with
    | .error e => .error e
    | .ok location =>
      match store.entryAt? location with
      | none =>
        if how.makes then
          let added := store.addBody ⟨.empty, 0o666 - Nat.land 0o666 mask, store.now⟩
          .ok (.file added.1, added.2.placeAt location (.file added.1))
        else
          .error .notFound
      | some entry =>
        if how.refuses && entry.isFile then .error .alreadyThere
        else
          match entry with
          | .file number =>
            if target.slash then .error .notDirectory
            else if how.drops then
              .ok (.file number, store.setBody number
                { store.bodyOf number with bytes := .empty, time := store.now })
            else
              .ok (.file number, store)
          | .pipe number =>
            if target.slash then .error .notDirectory else .ok (.pipe number, store)
          | .device name => .ok (.device name, store)
          | .program _ => .ok (.device "null", store)
          | .directory _ => .error .isDirectory
          | .link _ => .error .tooManyLinks

/-- Write bytes into a file from a position on; what lies between its end and the position is
filled up. -/
def writeAt (store : Store) (number position : Nat) (bytes : ByteArray) : Store :=
  let body := store.bodyOf number
  let before := body.bytes
  let front :=
    if position ≤ before.size then before.extract 0 position
    else before ++ ⟨(List.replicate (position - before.size) (0 : UInt8)).toArray⟩
  store.setBody number
    { body with
      bytes := front ++ bytes ++ before.extract (position + bytes.size) before.size
      time := store.now }

/-- Write a whole file. -/
def write (store : Store) (path : Path) (bytes : ByteArray) (mask : Nat) :
    Except SystemError Store :=
  match store.openToWrite path ⟨true, true, false⟩ mask with
  | .ok (.file number, store) => .ok (store.writeAt number 0 bytes)
  | .ok (_, store) => .ok store
  | .error e => .error e

/-! ## Directories -/

/-- Put a new entry where a path leads and nothing is. -/
def putNew (store : Store) (path : Path) (entry : Entry) : Except SystemError Store :=
  match store.target path with
  | .error e => .error e
  | .ok ⟨_, none, _⟩ => .error .alreadyThere
  | .ok ⟨parent, some name, slash⟩ =>
    match store.enter parent name with
    | .ok _ => .error .alreadyThere
    | .error .notFound =>
      if slash && !entry.isDirectory then .error .notFound
      else .ok (store.placeAt (step parent name) entry)
    | .error e => .error e

/-- Make a directory with some permissions where there is nothing. -/
def makeDirectory (store : Store) (path : Path) (mode : Nat) : Except SystemError Store :=
  let added := store.addBody ⟨.empty, mode, store.now⟩
  added.2.putNew path (.directory added.1)

/-- Make a pipe with some permissions where there is nothing. -/
def makePipe (store : Store) (path : Path) (mode : Nat) : Except SystemError Store :=
  let added := store.addBody ⟨.empty, mode, store.now⟩
  added.2.putNew path (.pipe added.1)

/-- The store without a location and everything below it. -/
def eraseTree (store : Store) (location : Location) : Store :=
  { store with entries := store.entries.filter fun e => !location.isPrefixOf e.1 }

/-- Remove a directory that is empty. -/
def removeDirectory (store : Store) (path : Path) : Except SystemError Store :=
  match store.target path with
  | .error e => .error e
  | .ok ⟨_, none, _⟩ => .error .notPermitted
  | .ok ⟨parent, some name, _⟩ =>
    if name == "." then .error .invalid
    else if name == ".." then .error .notEmpty
    else
      match store.enter parent name with
      | .error e => .error e
      | .ok (.directory _) =>
        let location := step parent name
        if (store.namesAt location).isEmpty then .ok (store.clearAt location)
        else .error .notEmpty
      | .ok _ => .error .notDirectory

/-! ## Names -/

/-- Give an entry, with all that is below it, another location. -/
def relocate (store : Store) (source goal : Location) : Store :=
  let moved := (store.entries.filter fun e => source.isPrefixOf e.1).map fun e =>
    (goal ++ e.1.drop source.length, e.2)
  let rest := ((store.eraseTree source).eraseTree goal).entries
  ({ store with entries := rest ++ moved }.noteChange source.dropLast).noteChange goal.dropLast

/-- Give what a path leads to the name that another path describes, in place of what has it. -/
def rename (store : Store) (source destination : Path) : Except SystemError Store := do
  let (location, entry) ← store.lookupLink source
  let target ← store.target destination
  match target with
  | ⟨_, none, _⟩ => .error .alreadyThere
  | ⟨parent, some name, slash⟩ =>
    let goal := step parent name
    if name.length > nameLimit then .error .nameTooLong
    else
      match store.entryAt? goal with
      | none =>
        if slash && !entry.isDirectory then .error .notDirectory
        else if entry.isDirectory && location.isPrefixOf goal then .error .invalid
        else .ok (store.relocate location goal)
      | some other =>
        if goal == location then .ok store
        else if entry.isDirectory && location.isPrefixOf goal then .error .invalid
        else if entry.isDirectory && !other.isDirectory then .error .notDirectory
        else if !entry.isDirectory && other.isDirectory then .error .isDirectory
        else if other.isDirectory && !(store.namesAt goal).isEmpty then .error .notEmpty
        else if entry == other && entry.number?.isSome then .ok store
        else .ok (store.relocate location goal)

/-- Make a link. -/
def makeLink (store : Store) (goal path : Path) : Except SystemError Store :=
  if goal.chars.isEmpty then .error .notFound else store.putNew path (.link goal)

/-- Give a file a further name. -/
def addName (store : Store) (source path : Path) : Except SystemError Store := do
  let (_, entry) ← store.lookupLink source
  if entry.isDirectory then .error .notPermitted else store.putNew path entry

/-- Change what is said of what a path leads to, if it has a body. -/
def changeBody (store : Store) (path : Path) (change : Body → Body) : Except SystemError Store :=
  match store.lookup path with
  | .ok (_, entry) =>
    .ok (match entry.number? with
      | some number => store.setBody number (change (store.bodyOf number))
      | none => store)
  | .error e => .error e

/-- Change the permissions of what a path leads to. -/
def changeMode (store : Store) (path : Path) (change : Nat → Nat) : Except SystemError Store :=
  store.changeBody path fun body => { body with mode := change body.mode }

/-- Set the time at which what a path leads to was changed. -/
def setTime (store : Store) (path : Path) (time : Int) : Except SystemError Store :=
  store.changeBody path fun body => { body with time }

end Store
end TaskScript
