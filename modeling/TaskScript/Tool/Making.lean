import TaskScript.Tool.Status

/-!
# Making — tools that make files and directories, or change what belongs to them

- `mkdir`  : directories
- `mkfifo` : pipes with names
- `touch`  : files that hold nothing
- `chmod`  : permissions
-/

namespace TaskScript

open Shell (Machine)

namespace Tool

/-! ## Directories -/

namespace Making

/-- The paths that lead to a path, and the path itself. -/
def ways (path : String) : List String :=
  let rec go : List Char → List Char → List String
    | [], reversed => [String.ofList reversed.reverse]
    | c :: rest, reversed =>
      if c == '/' && reversed.head?.any (· != '/') && rest.any (· != '/') then
        String.ofList reversed.reverse :: go rest (c :: reversed)
      else go rest (c :: reversed)
  go path.toList []

/-- Make a directory, and tell that in a word. -/
def directory (word? : Option String) (mode : Nat) (path : String) (m : Machine) :
    Except SystemError Machine :=
  match m.store.makeDirectory (Machine.pathOf path) mode with
  | .ok store =>
    let m := m.withStore store
    .ok (match word? with
      | some word => m.printLine (m.name ++ ": " ++ word ++ " directory " ++ Quoting.always path)
      | none => m)
  | .error cause => .error cause

/-- Make a directory with those that lead to it, which get permissions of their own. -/
def directories (word? : Option String) (mode modeAbove : Nat) (path : String) (m : Machine) :
    Machine :=
  (ways path).foldl (fun (goesOn, m) way =>
    if !goesOn then (false, m)
    else if Walk.isDirectory m way then (true, m)
    else
      match directory word? (if way == path then mode else modeAbove) way m with
      | .ok m => (true, m)
      | .error cause =>
        let cause := if cause == .alreadyThere && way != path then .notDirectory else cause
        (false, fail ("cannot create directory " ++ aboutFile way cause) m)) (true, m) |>.2

end Making

/-- Make directories. -/
def mkdir : Tool :=
  byOptions [.valued 'm' "mode", .flag 'p' "parents", .flag 'v' "verbose"] fun o m =>
    let change? := (o.value? "m").map Mode.read
    if o.operands.isEmpty then misuse "missing operand" m
    else if change? == some none then
      fail ("invalid mode " ++ Quoting.plain ((o.value? "m").getD "")) m
    else
      let mode := match change? with
        | some (some change) => change.ofNew m.mask
        | _ => Mode.without 0o777 m.mask
      let modeAbove := Nat.lor (Mode.without 0o777 m.mask) 0o300
      let word? := if o.has "v" then some "created" else none
      o.operands.foldl (fun m path =>
        if o.has "p" then Making.directories word? mode modeAbove path m
        else
          match Making.directory word? mode path m with
          | .ok m => m
          | .error cause => fail ("cannot create directory " ++ aboutFile path cause) m) m

/-! ## Pipes -/

/-- Make pipes with some permissions. -/
def Making.pipes (mode : Nat) (paths : List String) (m : Machine) : Machine :=
  paths.foldl (fun m path =>
    (Walk.change (m.store.makePipe (Machine.pathOf path) mode)
      ("cannot create fifo " ++ Quoting.always path) m).2) m

/-- Make pipes with names. -/
def mkfifo : Tool :=
  byOptions [.valued 'm' "mode", .flag 'Z' "context"] fun o m =>
    let change? := (o.value? "m").map Mode.read
    let usual := 0o666
    if o.operands.isEmpty then misuse "missing operand" m
    else
      match change? with
      | some none => fail "invalid mode" m
      | some (some change) =>
        let mode := change.apply false m.mask usual
        if 0o777 < mode then fail "mode must specify only file permission bits" m
        else Making.pipes mode o.operands m
      | none => Making.pipes (Mode.without usual m.mask) o.operands m

/-! ## Files -/

/-- Make files, or tell that they have just been changed. -/
def touch : Tool :=
  byOptions [.flag 'c' "no-create"] fun o m =>
    if o.operands.isEmpty then misuse "missing file operand" m
    else
      o.operands.foldl (fun m path =>
        let spelled := Machine.pathOf path
        let set (m : Machine) : Machine :=
          m.withStore ((m.store.setTime spelled m.world.time).toOption.getD m.store)
        match m.store.lookup spelled with
        | .ok _ => set m
        | .error cause =>
          if o.has "c" then
            if cause == .notFound then m
            else fail ("setting times of " ++ aboutFile path cause) m
          else
            match m.openToWrite spelled ⟨true, false, false⟩ false false with
            | .ok (_, m) => set m
            | .error .isDirectory => fail ("setting times of " ++ aboutFile path .notFound) m
            | .error cause => fail ("cannot touch " ++ aboutFile path cause) m) m

/-! ## Permissions -/

namespace Permissions

/-- Whether an argument is a change of permissions that begins with a hyphen. -/
def isChange (arg : String) : Bool :=
  match arg.toList with
  | '-' :: c :: rest =>
    let isLetter (c : Char) : Bool := "rwxXstugoa,+-=01234567".toList.contains c
    isLetter c && c != '-' && rest.all isLetter
  | _ => false

/-- Change the permissions of what one path leads to. -/
def one (change : Mode.Change) (path : String) (m : Machine) : Machine :=
  match Status.of m true path with
  | .error cause =>
    if (Walk.entry? m path).toOption.isSome then
      fail ("cannot operate on dangling symlink " ++ Quoting.always path) m
    else fail ("cannot access " ++ aboutFile path cause) m
  | .ok before =>
    let after := change.apply before.entry.isDirectory m.mask before.mode
    m.withStore ((m.store.changeMode (Machine.pathOf path) fun _ => after).toOption.getD m.store)

end Permissions

/-- Change permissions.  A change may look like an option. -/
def chmod : Tool := fun args m =>
  let given? := args.find? Permissions.isChange
  let rest := match given? with
    | some change => args.erase change
    | none => args
  byOptions [] (fun o m =>
    let operands := given?.toList ++ o.operands
    match operands with
    | [] => misuse "missing operand" m
    | [text] => misuse ("missing operand after " ++ Quoting.plain text) m
    | text :: paths =>
      match Mode.read text with
      | some change => paths.foldl (fun m path => Permissions.one change path m) m
      | none => misuse ("invalid mode: " ++ Quoting.plain text) m) rest m

end Tool
end TaskScript
