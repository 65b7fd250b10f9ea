import TaskScript.Shell.Builtin.Basic

/-!
# Test — builtins that test a condition

`test` and `[` evaluate the condition that their arguments describe.  Three or four arguments are
looked at first: an operator between two operands, parentheses and a negation are recognised by
their places.  Anything else is read from left to right, `-a` binding more tightly than `-o`.
-/

namespace TaskScript
namespace Shell
namespace Condition

/-- What an argument means as an operator. -/
inductive Operator
  | unary
  | binary
  | not
  | and
  | or
  | openParen
  | closeParen
  deriving DecidableEq, Repr

/-- The operators before one operand. -/
def unaryNames : List String :=
  ["-r", "-w", "-x", "-e", "-f", "-d", "-c", "-b", "-p", "-u", "-g", "-k", "-s", "-t", "-z", "-n",
    "-h", "-O", "-G", "-L", "-S"]

/-- The operators between two operands. -/
def binaryNames : List String :=
  ["=", "!=", "<", ">", "-eq", "-ne", "-ge", "-gt", "-le", "-lt", "-nt", "-ot", "-ef"]

/-- What a text means as an operator. -/
def operator? (text : String) : Option Operator :=
  if unaryNames.contains text then some .unary
  else if binaryNames.contains text then some .binary
  else
    match text with
    | "!" => some .not
    | "-a" => some .and
    | "-o" => some .or
    | "(" => some .openParen
    | ")" => some .closeParen
    | _ => none

/-- What the first of some arguments is. -/
inductive Token
  | finish
  | operand
  | operator (kind : Operator)
  deriving DecidableEq, Repr

/-- What the first of some arguments is, seen with those that follow. -/
def token : List String → Token
  | [] => .finish
  | text :: rest =>
    match operator? text with
    | none => .operand
    | some .unary =>
      match rest with
      | [] => .operand
      | [_] => .operator .unary
      | next :: _ => if operator? next == some .binary then .operand else .operator .unary
    | some .openParen => if rest.isEmpty then .operand else .operator .openParen
    | some kind => .operator kind

/-- The whole number that an operand spells. -/
def number (text : String) : Except String Int :=
  match Numeral.whole? (some 10) text with
  | some n => if Numeral.clamp n = n then .ok n else .error (Builtin.notNumber text)
  | none => .error (Builtin.notNumber text)

/-- Whether what a path leads to has some of the permissions. -/
def allows (m : Machine) (bits : Nat) (path : Path) : Bool :=
  match m.store.lookup path with
  | .ok (_, entry) =>
    match entry with
    | .file number | .directory number | .pipe number =>
      Nat.land (m.store.bodyOf number).mode bits != 0
    | .program _ => Nat.land 0o755 bits != 0
    | .device _ => Nat.land 0o666 bits != 0
    | .link _ => false
  | .error _ => false

/-- Whether a condition on one operand holds. -/
def unary (m : Machine) (name operand : String) : Except String Bool :=
  let path := Machine.pathOf operand
  let found? : Option Entry := match m.store.lookup path with
    | .ok (_, entry) => some entry
    | .error _ => none
  match name with
  | "-z" => .ok operand.isEmpty
  | "-n" => .ok (!operand.isEmpty)
  | "-t" => (number operand).map fun _ => false
  | "-r" | "-w" | "-e" | "-O" | "-G" => .ok found?.isSome
  | "-x" => .ok (found?.any Entry.isDirectory || allows m 0o111 path)
  | "-u" => .ok (allows m 0o4000 path)
  | "-g" => .ok (allows m 0o2000 path)
  | "-k" => .ok (allows m 0o1000 path)
  | "-f" => .ok (found?.any Entry.isFile)
  | "-d" => .ok (found?.any Entry.isDirectory)
  | "-c" =>
    .ok (found?.any fun
      | .device _ => true
      | _ => false)
  | "-p" =>
    .ok (found?.any fun
      | .pipe _ => true
      | _ => false)
  | "-s" =>
    .ok (match found? with
      | some (.file number) => (m.store.bodyOf number).bytes.size != 0
      | some (.directory _) | some (.program _) => true
      | _ => false)
  | "-h" | "-L" =>
    .ok (match m.store.lookupLink path with
      | .ok (_, .link _) => true
      | _ => false)
  | _ => .ok false

/-- Whether two paths lead to the same thing. -/
def isSame (m : Machine) (a b : String) : Bool :=
  match m.store.lookup (Machine.pathOf a), m.store.lookup (Machine.pathOf b) with
  | .ok (here, .file n), .ok (there, .file k) | .ok (here, .pipe n), .ok (there, .pipe k) =>
    here == there || n == k
  | .ok (here, _), .ok (there, _) => here == there
  | _, _ => false

/-- Whether a condition on two operands holds. -/
def binary (m : Machine) (name a b : String) : Except String Bool :=
  let compare (holds : Int → Int → Bool) : Except String Bool :=
    (number a).bind fun x => (number b).map fun y => holds x y
  match name with
  | "=" => .ok (a == b)
  | "!=" => .ok (a != b)
  | "<" => .ok (a < b)
  | ">" => .ok (b < a)
  | "-eq" => compare (· == ·)
  | "-ne" => compare (· != ·)
  | "-ge" => compare fun x y => decide (y ≤ x)
  | "-gt" => compare fun x y => decide (y < x)
  | "-le" => compare fun x y => decide (x ≤ y)
  | "-lt" => compare fun x y => decide (x < y)
  | "-nt" => .ok (m.store.isNewer (Machine.pathOf a) (Machine.pathOf b))
  | "-ot" => .ok (m.store.isNewer (Machine.pathOf b) (Machine.pathOf a))
  | "-ef" => .ok (isSame m a b)
  | _ => .ok false

/-- What evaluating gives: the truth value, and the arguments from the last one used on. -/
abbrev Gives := Except String (Bool × List String)

/-- The complaint about an operator whose operand is missing. -/
def missing (operator : String) : String := operator ++ ": argument expected"

mutual

/-- Conditions joined by `-o`. -/
def disjunction (m : Machine) : Nat → Bool → List String → Gives
  | 0, _, _ => .error "too deep"
  | steps + 1, before, args => do
    let (holds, args) ← conjunction m steps true args
    let holds := before || holds
    if token args.tail == .operator .or then disjunction m steps holds (args.drop 2)
    else return (holds, args)

/-- Conditions joined by `-a`. -/
def conjunction (m : Machine) : Nat → Bool → List String → Gives
  | 0, _, _ => .error "too deep"
  | steps + 1, before, args => do
    let (holds, args) ← negation m steps args
    let holds := before && holds
    if token args.tail == .operator .and then conjunction m steps holds (args.drop 2)
    else return (holds, args)

/-- A condition that may be negated. -/
def negation (m : Machine) : Nat → List String → Gives
  | 0, _ => .error "too deep"
  | steps + 1, args => do
    if token args == .operator .not then
      if args.tail.isEmpty then return (true, args)
      else
        let (holds, args) ← negation m steps args.tail
        return (!holds, args)
    else primary m steps args

/-- A condition without anything around it. -/
def primary (m : Machine) : Nat → List String → Gives
  | 0, _ => .error "too deep"
  | steps + 1, args =>
    match token args, args with
    | .finish, _ | _, [] => return (false, args)
    | .operator .openParen, _ :: inside =>
      if token inside == .operator .closeParen then return (false, inside)
      else do
        let (holds, args) ← disjunction m steps false inside
        if token args.tail == .operator .closeParen then return (holds, args.tail)
        else .error "closing paren expected"
    | .operator .unary, name :: rest =>
      match rest with
      | [] => .error (missing name)
      | operand :: _ => (unary m name operand).map fun holds => (holds, rest)
    | _, a :: rest =>
      match rest with
      | name :: more =>
        if token rest == .operator .binary then
          match more with
          | b :: _ => (binary m name a b).map fun holds => (holds, more)
          | [] => .error (missing name)
        else return (!a.isEmpty, args)
      | [] => return (!a.isEmpty, args)

end

/-- Whether a condition holds; nothing may be left of its arguments. -/
def read (m : Machine) (args : List String) : Except String Bool :=
  match disjunction m (8 * (args.length + 2)) false args with
  | .error message => .error message
  | .ok (_, text :: _ :: _) =>
    .error (if text.isEmpty then "unexpected operator" else text ++ ": unexpected operator")
  | .ok (holds, _) => .ok holds

/-- Whether the condition that arguments describe holds. -/
def holds (m : Machine) : List String → Except String Bool
  | [] => .ok false
  | [a, name, b] =>
    if operator? name == some .binary then binary m name a b
    else if a == "(" && b == ")" then read m [name]
    else if a == "!" then (holds m [name, b]).map (! ·)
    else read m [a, name, b]
  | [a, b, c, d] =>
    if a == "(" && d == ")" then read m [b, c]
    else if a == "!" then (holds m [b, c, d]).map (! ·)
    else read m [a, b, c, d]
  | args => read m args

end Condition

namespace Builtin

/-- Test a condition. -/
def test : Builtin := fun args m =>
  match Condition.holds m args with
  | .ok true => m.withStatus 0
  | .ok false => m.withStatus 1
  | .error message => giveUp m message

/-- Test a condition that ends with a bracket. -/
def bracket : Builtin := fun args m =>
  match args.reverse with
  | "]" :: rest => test rest.reverse m
  | _ => giveUp m "missing ]"

end Builtin
end Shell
end TaskScript
