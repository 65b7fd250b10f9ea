import TaskScript.Record.Stream

/-!
# Builtin — the routines that every program has

- `Builtin.ofValues`    : those that take values only
- `Builtin.substituted` : a text with matches of an expression replaced
-/

namespace TaskScript
namespace Record
namespace Builtin

open Evaluation

/-- A number without its places, as far as a register of 32 bits keeps it. -/
def inRegister (x : Float) : Int :=
  let greatest : Int := 9223372036854775807
  let whole := match Format.whole? x with
    | some n => max (-greatest) (min n greatest)
    | none => if x.isNaN then 0 else if 0 < x then greatest else -greatest
  whole.bmod 4294967296

/-- The part of a text from a place on, so long at most.  It may start before the text; the length
then counts from the start of the text, and grows by the distance. -/
def part (text : List Char) (start : Float) (length? : Option Float) : List Char :=
  let first := inRegister start
  let rest := text.drop (max first 1 - 1).toNat
  match length?.map inRegister with
  | none => rest
  | some length =>
    rest.take (if first < 1 then (length - first).bmod 4294967296 else length).toNat

/-- Where a text starts in another one, from 1 on; 0 if it is not there. -/
def indexOf (wanted : List Char) : Nat → List Char → Nat
  | position, text =>
    if wanted.isPrefixOf text then position
    else
      match text with
      | [] => 0
      | _ :: rest => indexOf wanted (position + 1) rest

/-- What replaces a match: ampersands stand for it, unless there is an odd number of backslashes
before them. -/
def replacement (found : List Char) : Nat → List Char → List Char
  | 0, _ => []
  | _ + 1, [] => []
  | steps + 1, '&' :: rest => found ++ replacement found steps rest
  | steps + 1, '\\' :: rest =>
    let count := (rest.takeWhile (· == '\\')).length + 1
    let after := ('\\' :: rest).drop count
    match after with
    | '&' :: more =>
      List.replicate (count / 2) '\\' ++
        if count % 2 = 1 then '&' :: replacement found steps more
        else replacement found steps after
    | _ => List.replicate count '\\' ++ replacement found steps after
  | steps + 1, c :: rest => c :: replacement found steps rest

/-- The rest of a text from a position on with matches replaced, and their number.  A match that
holds nothing does not count right after another one. -/
def substitutedFrom (regular : Regular) (s : Regular.Subject) (new : List Char) (isGlobal : Bool) :
    Nat → Nat → Option Nat → List (List Char) → Nat → List (List Char) × Nat
  | 0, position, _, reversed, count => (s.between position s.text.size :: reversed, count)
  | steps + 1, position, last?, reversed, count =>
    match regular.search? s position with
    | none => (s.between position s.text.size :: reversed, count)
    | some found =>
      let before := s.between position found.start
      let isSkipped := found.start == found.stop && last? == some found.start
      let reversed :=
        if isSkipped then before :: reversed
        else
          replacement (s.between found.start found.stop) (new.length + 1) new :: before :: reversed
      let count := if isSkipped then count else count + 1
      if !isGlobal then (s.between found.stop s.text.size :: reversed, count)
      else if found.start == found.stop then
        if s.text.size ≤ found.stop then (reversed, count)
        else
          substitutedFrom regular s new isGlobal steps (found.stop + 1) last?
            (s.between found.stop (found.stop + 1) :: reversed) count
      else
        substitutedFrom regular s new isGlobal steps found.stop (some found.stop) reversed count

/-- A text with the first match or all matches of an expression replaced, and their number. -/
def substituted (regular : Regular) (new text : List Char) (isGlobal : Bool) : List Char × Nat :=
  let s := Pattern.subject text
  let (reversed, count) := substitutedFrom regular s new isGlobal (2 * text.length + 3) 0 none [] 0
  (reversed.reverse.flatten, count)

/-- Seed the numbers that look as if they were drawn, and give the last seed. -/
def seed (v : Value) : Evaluation Value := do
  let before := (← get).seed
  let number := ((Format.whole? v.toNumber).getD 0 % 4294967296).toNat
  modify fun s => { s with seed := v, chance := .ofSeed number }
  return before

/-- The time in seconds. -/
def now : Evaluation Int := do return (← get).machine.world.time / 1000000

/-- What a routine gives that takes values only. -/
def ofValues (name : String) (args : List Value) : Evaluation Value := do
  let first := args.headD .blank
  let real (f : Float → Float) : Evaluation Value := return .number (f first.toNumber)
  match name, args with
  | "atan2", [y, x] => return .number (Float.atan2 y.toNumber x.toNumber)
  | "cos", _ => real Float.cos
  | "sin", _ => real Float.sin
  | "exp", _ => real Float.exp
  | "log", _ => real Float.log
  | "sqrt", _ => real Float.sqrt
  | "int", _ => real fun x => if x < 0 then x.ceil else x.floor
  | "length", [] => return .ofNat (← textOf (← get).record).length
  | "length", _ => return .ofNat (← textOf first).length
  | "index", [text, wanted] =>
    return .ofNat (indexOf (← textOf wanted).toList 1 (← textOf text).toList)
  | "substr", text :: start :: others =>
    let found := part (← textOf text).toList start.toNumber (others.head?.map Value.toNumber)
    return .text (String.ofList found)
  | "tolower", _ => return .text (← textOf first).toLower
  | "toupper", _ => return .text (← textOf first).toUpper
  | "sprintf", format :: values =>
    let format ← textOf format
    match Format.print (← convertFormat) format values with
    | (text, none) => return .text text
    | (_, some fault) => throw (.fault (fault.message "sprintf" format))
  | "close", _ => close (← textOf first)
  | "fflush", _ =>
    flushAll
    return .number 0
  | "system", _ =>
    flushAll
    return .ofNat (← runCommand (← textOf first) fun m => m)
  | "srand", [] => seed (.number (Float.ofInt (← now)))
  | "srand", _ => seed first
  | "rand", _ =>
    let (n, chance) := (← get).chance.next
    modify fun s => { s with chance }
    return .number (Float.ofNat n / Float.ofNat Chance.most)
  | _, _ => return .blank

end Builtin
end Record
end TaskScript
