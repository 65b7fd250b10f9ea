import TaskScript.Number.Numeral

/-!
# Mode — permissions as they are written

Permissions are told by octal digits, or by clauses that change those that there are.

- `Mode.read`    : a description of permissions
- `Mode.Change`  : what a description does to permissions
- `Mode.letters` : permissions in letters
-/

namespace TaskScript
namespace Tool
namespace Mode

/-- What a clause takes its permissions from. -/
inductive Granted
  /-- Letters; capital `X` gives the right to execute where somebody has it. -/
  | letters (chars : List Char)
  /-- Those that the owner, the group or others have. -/
  | copied (who : Char)
  deriving DecidableEq, Repr

/-- One step of a change: whose permissions, whether nobody was named, how, and which. -/
structure Clause where
  whose : Nat
  isOpen : Bool
  operator : Char
  granted : Granted
  deriving DecidableEq, Repr

/-- What a description does to permissions. -/
inductive Change
  /-- These; directories keep the bits `setuid` and `setgid` unless more than four digits tell that
  nothing is to be kept. -/
  | absolute (bits : Nat) (isWhole : Bool)
  | clauses (list : List Clause)
  deriving DecidableEq, Repr

/-- All bits of those that a letter names. -/
def bitsOf (who : Char) : Nat :=
  match who with
  | 'u' => 0o4700
  | 'g' => 0o2070
  | 'o' => 0o1007
  | _ => 0o7777

/-- The steps of a clause after those that it names. -/
def actions (whose : Nat) (isOpen : Bool) : Nat → List Char → Option (List Clause)
  | 0, _ => none
  | _ + 1, [] => some []
  | steps + 1, operator :: rest =>
    if !"+-=".toList.contains operator then none
    else
      let copies := rest.takeWhile ("ugo".toList.contains ·)
      match copies with
      | [who] =>
        (actions whose isOpen steps (rest.drop 1)).map
          (⟨whose, isOpen, operator, .copied who⟩ :: ·)
      | _ :: _ :: _ => none
      | [] =>
        let chars := rest.takeWhile ("rwxXst".toList.contains ·)
        (actions whose isOpen steps (rest.drop chars.length)).map
          (⟨whose, isOpen, operator, .letters chars⟩ :: ·)

/-- A clause. -/
def clause? (text : List Char) : Option (List Clause) :=
  let names := text.takeWhile ("ugoa".toList.contains ·)
  let rest := text.drop names.length
  let whose := if names.isEmpty then 0o7777 else names.foldl (fun n c => Nat.lor n (bitsOf c)) 0
  if rest.isEmpty then none else actions whose names.isEmpty (rest.length + 1) rest

/-- The change that a text describes. -/
def read (text : String) : Option Change :=
  let chars := text.toList
  if !chars.isEmpty && chars.all (Numeral.isDigit 8) then
    let bits := Numeral.ofDigits 8 chars
    if bits ≤ 0o7777 then some (.absolute bits (decide (4 < chars.length))) else none
  else
    ((text.splitOn ",").mapM fun part => clause? part.toList).map fun list =>
      .clauses list.flatten

/-- The bits that letters stand for, given what is so far. -/
def grantedBits (isDirectory : Bool) (mode : Nat) (granted : Granted) : Nat :=
  match granted with
  | .copied who =>
    let three := match who with
      | 'u' => mode / 64 % 8
      | 'g' => mode / 8 % 8
      | _ => mode % 8
    three * 73
  | .letters chars =>
    chars.foldl (fun n c =>
      Nat.lor n (match c with
        | 'r' => 0o444
        | 'w' => 0o222
        | 'x' => 0o111
        | 'X' => if isDirectory || Nat.land mode 0o111 != 0 then 0o111 else 0
        | 's' => 0o6000
        | _ => 0o1000)) 0

/-- The bits of one number that are not in another one. -/
def without (a b : Nat) : Nat := a - Nat.land a b

/-- The bits `setuid` and `setgid`, which directories keep. -/
def keptBits : Nat := 0o6000

/-- The bits that a clause is about; where nobody was named the mask is spared. -/
def Clause.bits (c : Clause) (isDirectory : Bool) (mask mode : Nat) : Nat :=
  let bits := Nat.land (grantedBits isDirectory mode c.granted) c.whose
  if c.isOpen then without bits mask else bits

/-- Permissions after a clause. -/
def Clause.apply (c : Clause) (isDirectory : Bool) (mask mode : Nat) : Nat :=
  let bits := c.bits isDirectory mask mode
  match c.operator with
  | '+' => Nat.lor mode bits
  | '-' => without mode bits
  | _ =>
    let kept := if isDirectory then Nat.land mode keptBits else 0
    Nat.lor (Nat.lor (without mode c.whose) bits) kept

/-- Permissions after a change. -/
def Change.apply (change : Change) (isDirectory : Bool) (mask mode : Nat) : Nat :=
  match change with
  | .absolute bits isWhole =>
    if isDirectory && !isWhole then Nat.lor bits (Nat.land mode keptBits) else bits
  | .clauses list => list.foldl (fun mode c => c.apply isDirectory mask mode) mode

/-- The bits that a change decides, seen from some permissions. -/
def Change.decided (change : Change) (isDirectory : Bool) (mask mode : Nat) : Nat :=
  match change with
  | .absolute bits isWhole => if isDirectory && !isWhole then Nat.lor 0o1777 bits else 0o7777
  | .clauses list =>
    (list.foldl (fun (decided, mode) c =>
      let bits := c.bits isDirectory mask mode
      let more := if c.operator == '+' || c.operator == '-' then bits
        else if isDirectory then Nat.lor (without c.whose keptBits) bits else c.whose
      (Nat.lor decided more, c.apply isDirectory mask mode)) (0, mode)).1

/-- The permissions of a new directory as a change asks for them.  Bits that it does not decide are
those of a directory that everybody may change, or only its owner if it is a special one. -/
def Change.ofNew (change : Change) (mask : Nat) : Nat :=
  let all := 0o777
  let mode := change.apply true mask all
  let decided := change.decided true mask all
  let isSpecial := Nat.land decided keptBits != 0 || Nat.land mode 0o1000 != 0
  let undecided := without (if isSpecial then without mode 0o022 else mode) decided
  Nat.lor (Nat.land mode decided) undecided

/-- Permissions in letters. -/
def letters (mode : Nat) : String :=
  let three (bits : Nat) (special : Bool) (mark : Char) : List Char :=
    let x := bits % 2 == 1
    [if bits / 4 % 2 == 1 then 'r' else '-', if bits / 2 % 2 == 1 then 'w' else '-',
      if special then (if x then mark else mark.toUpper) else if x then 'x' else '-']
  String.ofList (three (mode / 64 % 8) (mode / 2048 % 2 == 1) 's' ++
    three (mode / 8 % 8) (mode / 1024 % 2 == 1) 's' ++
    three (mode % 8) (mode / 512 % 2 == 1) 't')

/-- Permissions in octal digits. -/
def digits (mode : Nat) : String := Numeral.inBase 8 mode

end Mode
end Tool
end TaskScript
