import TaskScript.Regular.Reader
import TaskScript.Regular.Search
import TaskScript.Text.Order
import TaskScript.Tool.Input

/-!
# Expression — what arguments come to

`expr` evaluates the expression that its arguments spell: numbers and texts with operators between
them.  Operators bind more tightly the further down they stand in this list: `|`, `&`, comparisons,
sums, products, matches, and words that are followed by their operands.
-/

namespace TaskScript

open Shell (Machine)

namespace Tool
namespace Expression

/-- What an expression comes to, and the arguments left; or why it comes to nothing. -/
abbrev Gives := Except String (String × List String)

/-- The number that a text spells. -/
def integer? (text : String) : Option Int :=
  match text.toList with
  | '-' :: digits =>
    if !digits.isEmpty && digits.all Char.isDigit then some (-(Numeral.ofDigits 10 digits : Int))
    else none
  | digits =>
    if !digits.isEmpty && digits.all Char.isDigit then some (Numeral.ofDigits 10 digits : Int)
    else none

/-- Whether a text counts as nothing: it is empty, or a zero. -/
def isNull (text : String) : Bool :=
  match text.toList with
  | [] => true
  | '-' :: digits => !digits.isEmpty && digits.all (· == '0')
  | digits => digits.all (· == '0')

/-- The complaint about an end that comes too early. -/
def missing (before : String) : String :=
  "syntax error: missing argument after " ++ Quoting.plain before

/-- A truth value as a text. -/
def truth (b : Bool) : String := if b then "1" else "0"

/-- Two numbers put together. -/
def arithmetic (operator a b : String) : Except String String :=
  match integer? a, integer? b with
  | some a, some b =>
    match operator with
    | "+" => .ok (toString (a + b))
    | "-" => .ok (toString (a - b))
    | "*" => .ok (toString (a * b))
    | _ =>
      if b = 0 then .error "division by zero"
      else if operator == "/" then .ok (toString (Int.tdiv a b))
      else .ok (toString (Int.tmod a b))
  | _, _ => .error "non-integer argument"

/-- Whether a comparison holds. -/
def comparison (operator a b : String) : Bool :=
  let order := match integer? a, integer? b with
    | some a, some b => compare a b
    | _, _ => Order.octets a.toList b.toList
  match operator with
  | "<" => order == .lt
  | "<=" => order != .gt
  | "=" | "==" => order == .eq
  | "!=" => order != .eq
  | ">=" => order != .lt
  | _ => order == .gt

/-- How expressions in matches are written. -/
def dialect : Regular.Dialect := ⟨false, false, .kept, false, true, [], false, false, false⟩

/-- What a text has in common with a pattern from its start on: the first group, or the length. -/
def matched (text pattern : String) : Except String String :=
  match Regular.readCounting dialect pattern.toList with
  | .error fault => .error fault.message
  | .ok (r, groups) =>
    let subject : Regular.Subject := ⟨text.toList.toArray, false, false⟩
    let found? := r.matchAt? subject 0
    if groups = 0 then .ok (toString ((found?.map Regular.Match.stop).getD 0))
    else
      match found?.bind fun found => found.group? 1 with
      | some (start, stop) => .ok (String.ofList (subject.between start stop))
      | none => .ok ""

/-- A part of a text, given its place and its length. -/
def part (text place length : String) : String :=
  match integer? place, integer? length with
  | some place, some length =>
    if place < 1 || length < 1 then ""
    else String.ofList ((text.toList.drop (place.toNat - 1)).take length.toNat)
  | _, _ => ""

/-- The first place in a text of any of some characters. -/
def place (text chars : String) : String :=
  match text.toList.findIdx? (chars.toList.contains ·) with
  | some n => toString (n + 1)
  | none => "0"

/-- The operators between operands, those that bind the least first, but for two that do not need
both operands. -/
def levels : List (List String) :=
  [["<", "<=", "=", "==", "!=", ">=", ">"], ["+", "-"], ["*", "/", "%"], [":"]]

/-- Two operands put together. -/
def apply (evaluates : Bool) (operator a b : String) : Except String String :=
  if !evaluates then .ok "0"
  else if operator == ":" then matched a b
  else if ["+", "-", "*", "/", "%"].contains operator then arithmetic operator a b
  else .ok (truth (comparison operator a b))

/-- The last of the arguments that were used. -/
def lastUsed (before after : List String) : String :=
  (before.take (before.length - after.length)).getLast?.getD ""

mutual

/-- Alternatives, of which the first that is not nothing counts. -/
def alternatives (evaluates : Bool) : Nat → String → List String → Gives
  | 0, before, _ => .error (missing before)
  | steps + 1, before, args => do
    let (first, rest) ← conjunction evaluates steps before args
    moreAlternatives evaluates steps first rest

/-- What follows the first of some alternatives. -/
def moreAlternatives (evaluates : Bool) : Nat → String → List String → Gives
  | 0, first, args => .ok (first, args)
  | steps + 1, first, args => do
    match args with
    | "|" :: rest =>
      let (second, rest) ← conjunction (evaluates && isNull first) steps "|" rest
      let found := if !isNull first then first else if isNull second then "0" else second
      moreAlternatives evaluates steps found rest
    | _ => return (first, args)

/-- Operands that all have to be something. -/
def conjunction (evaluates : Bool) : Nat → String → List String → Gives
  | 0, before, _ => .error (missing before)
  | steps + 1, before, args => do
    let (first, rest) ← level evaluates steps levels before args
    moreConjunction evaluates steps first rest

/-- What follows the first of such operands. -/
def moreConjunction (evaluates : Bool) : Nat → String → List String → Gives
  | 0, first, args => .ok (first, args)
  | steps + 1, first, args => do
    match args with
    | "&" :: rest =>
      let (second, rest) ← level (evaluates && !isNull first) steps levels "&" rest
      moreConjunction evaluates steps (if isNull first || isNull second then "0" else first) rest
    | _ => return (first, args)

/-- Operands with operators of some levels between them. -/
def level (evaluates : Bool) : Nat → List (List String) → String → List String → Gives
  | 0, _, before, _ => .error (missing before)
  | steps + 1, [], before, args => words evaluates steps before args
  | steps + 1, operators :: tighter, before, args => do
    let (first, rest) ← level evaluates steps tighter before args
    moreLevel evaluates steps operators tighter first rest

/-- What follows the first operand of a level. -/
def moreLevel (evaluates : Bool) :
    Nat → List String → List (List String) → String → List String → Gives
  | 0, _, _, first, args => .ok (first, args)
  | steps + 1, operators, tighter, first, args => do
    match args with
    | operator :: rest =>
      if operators.contains operator then
        let (second, rest) ← level evaluates steps tighter operator rest
        let found ← apply evaluates operator first second
        moreLevel evaluates steps operators tighter found rest
      else return (first, args)
    | [] => return (first, [])

/-- A word that is followed by its operands, or anything that stands alone. -/
def words (evaluates : Bool) : Nat → String → List String → Gives
  | 0, before, _ => .error (missing before)
  | steps + 1, before, args => do
    match args with
    | [] => throw (missing before)
    | "+" :: rest =>
      match rest with
      | [] => throw (missing "+")
      | text :: rest => return (text, rest)
    | "length" :: rest =>
      let (text, rest) ← words evaluates steps "length" rest
      return (toString text.length, rest)
    | "match" :: rest =>
      let (text, after) ← words evaluates steps "match" rest
      let (pattern, rest) ← words evaluates steps (lastUsed rest after) after
      let found ← apply evaluates ":" text pattern
      return (found, rest)
    | "index" :: rest =>
      let (text, after) ← words evaluates steps "index" rest
      let (chars, rest) ← words evaluates steps (lastUsed rest after) after
      return (place text chars, rest)
    | "substr" :: rest =>
      let (text, after) ← words evaluates steps "substr" rest
      let (start, after') ← words evaluates steps (lastUsed rest after) after
      let (length, rest) ← words evaluates steps (lastUsed after after') after'
      return (part text start length, rest)
    | "(" :: rest =>
      let (found, after) ← alternatives evaluates steps "(" rest
      match after with
      | ")" :: after => return (found, after)
      | [] =>
        throw ("syntax error: expecting ')' after " ++ Quoting.plain (rest.getLast?.getD "("))
      | other :: _ => throw ("syntax error: expecting ')' instead of " ++ Quoting.plain other)
    | ")" :: _ => throw "syntax error: unexpected ')'"
    | text :: rest => return (text, rest)

end

end Expression

/-- Print what an expression comes to. -/
def expr : Tool := fun args m =>
  match if args.head? == some "--" then args.tail else args with
  | [] => misuseWith 2 "missing operand" m
  | args =>
    match Expression.alternatives true (8 * args.length + 16) "" args with
    | .error message => failWith 2 message m
    | .ok (found, []) => (m.printLine found).withStatus (if Expression.isNull found then 1 else 0)
    | .ok (_, extra :: _) =>
      failWith 2 ("syntax error: unexpected argument " ++ Quoting.plain extra) m

end Tool
end TaskScript
