import TaskScript.Shell.Builtin.Basic

/-!
# Directory — builtins for the current directory and the mask of new files

`cd`, `pwd` and `umask`.

The shell remembers the path by which it reached the current directory: `..` goes back along it,
also where links have been followed.
-/

namespace TaskScript
namespace Shell
namespace Builtin

/-! ## The current directory -/

/-- The names of a path, seen from those of another one, with `.` and `..` resolved. -/
def resolved (start : List String) (path : String) : List String :=
  let names := (path.splitOn "/").filter fun n => !n.isEmpty && n != "."
  let first := if path.startsWith "/" then [] else start
  names.foldl (fun names name => if name == ".." then names.dropLast else names ++ [name]) first

/-- The path by which a directory is reached, without `.` and `..`. -/
def logicalPath (m : Machine) (path : String) : String :=
  let start := (m.directory.splitOn "/").filter fun n => !n.isEmpty
  let root (text : String) : String :=
    if text.startsWith "//" && !text.startsWith "///" then "//" else "/"
  (if path.startsWith "/" then root path else root m.directory) ++
    "/".intercalate (resolved start path)

/-- Make a directory the current one, if there is such a directory. -/
def enter? (isPhysical : Bool) (path : String) (m : Machine) : Option Machine :=
  let logical := logicalPath m path
  let goal := if isPhysical then path else logical
  match m.store.directoryAt (Machine.pathOf goal) with
  | .error _ => none
  | .ok here =>
    let before := m.directory
    let m := m.withHere here
    let m := { m with directory := if isPhysical then m.location else logical }
    let marked (name value : String) (m : Machine) : Machine :=
      (m.set name value).mark name fun v => { v with exported := true }
    some (marked "PWD" m.directory (marked "OLDPWD" before m))

/-- Whether a path says itself where it starts. -/
def isAnchored (path : String) : Bool :=
  ["/", "./", "../"].any (fun start => path.startsWith start) || path == "." || path == ".."

/-- Change the current directory. -/
def cd : Builtin :=
  withOptions "LP" fun chosen args m =>
    let isPhysical := lastLetter? chosen == some 'P'
    let (goal, isTold) := match args with
      | [] => ((m.value? "HOME").getD "", false)
      | "-" :: _ => ((m.value? "OLDPWD").getD "", true)
      | path :: _ => (path, false)
    let goal := if goal.isEmpty then "." else goal
    let places := match m.value? "CDPATH" with
      | some path => if isAnchored goal then [] else path.splitOn ":"
      | none => []
    let found? := places.findSome? fun place =>
      let path := if place.isEmpty then goal else place ++ "/" ++ goal
      if m.store.isDirectory (Machine.pathOf path) then some (path, !place.isEmpty) else none
    let (path, isFound) := found?.getD (goal, false)
    match enter? isPhysical path m with
    | none => giveUp m ("can't cd to " ++ goal)
    | some m =>
      let m := if isTold || isFound then m.printLine m.directory else m
      if m.flow == .onward then m.withStatus 0 else m

/-- Print the current directory. -/
def pwd : Builtin :=
  withOptions "LP" fun chosen _ m =>
    (m.printLine (if lastLetter? chosen == some 'P' then m.location else m.directory)).withStatus 0

/-! ## The mask -/

/-- The bits of some people, given the letters that stand for them. -/
def peopleBits (letters : List Char) : Nat :=
  let bits (c : Char) : Nat :=
    match c with
    | 'u' => 0o700
    | 'g' => 0o070
    | 'o' => 0o007
    | _ => 0o777
  if letters.isEmpty then 0o777 else letters.foldl (fun n c => Nat.lor n (bits c)) 0

/-- The permissions of letters, for everybody. -/
def permissionBits (letters : List Char) : Option Nat :=
  letters.foldlM (fun n c =>
    match c with
    | 'r' => some (Nat.lor n 0o444)
    | 'w' => some (Nat.lor n 0o222)
    | 'x' | 'X' => some (Nat.lor n 0o111)
    | 's' | 't' => some n
    | _ => none) 0

/-- Permissions without some of them. -/
def lacking (permissions others : Nat) : Nat := permissions - Nat.land permissions others

/-- Permissions after one change that letters describe. -/
def changed? (permissions : Nat) (text : List Char) : Option Nat :=
  let people := text.takeWhile fun c => "ugoa".toList.contains c
  match text.drop people.length with
  | sign :: letters =>
    match permissionBits letters with
    | none => none
    | some bits =>
      let who := peopleBits people
      let some' := Nat.land bits who
      if sign == '+' then some (Nat.lor permissions some')
      else if sign == '-' then some (lacking permissions some')
      else if sign == '=' then some (Nat.lor (lacking permissions who) some')
      else none
  | [] => none

/-- The mask in letters. -/
def symbolic (mask : Nat) : String :=
  let letters (shift : Nat) : String :=
    let bits := 7 - mask / shift % 8
    String.ofList ([(4, 'r'), (2, 'w'), (1, 'x')].filterMap fun (bit, c) =>
      if Nat.land bits bit != 0 then some c else none)
  "u=" ++ letters 64 ++ ",g=" ++ letters 8 ++ ",o=" ++ letters 1

/-- Print or change the mask of new files. -/
def umask : Builtin :=
  withOptions "S" fun chosen args m =>
    let m := m.withStatus 0
    match args with
    | [] =>
      m.printLine (if chosen.isEmpty then Numeral.padded 4 '0' (Numeral.inBase 8 m.mask)
        else symbolic m.mask)
    | text :: _ =>
      if (text.toList.head?.map Char.isDigit).getD false then
        match Numeral.whole? (some 8) text with
        | some n =>
          if 0 ≤ n && n ≤ 0o777 then { m with mask := n.toNat } else giveUp m (notNumber text)
        | none => giveUp m (notNumber text)
      else
        let pieces := (text.splitOn ",").map String.toList
        match pieces.foldlM changed? (lacking 0o777 m.mask) with
        | some permissions => { m with mask := lacking 0o777 permissions }
        | none => giveUp m ("Illegal mode: " ++ text)

end Builtin
end Shell
end TaskScript
