import TaskScript.Number.Numeral
import TaskScript.Shell.Reader

/-!
# Numeric — the values of numeric expressions

Numbers have 64 bits and wrap around.  Operators bind by level, from `*` to `|`; those of one level
group to the left.  `&&`, `||` and `?` evaluate only what they need.  A comparison is 1 or 0.

Names are looked up and assigned to through a `Scope`, whose state is threaded through.
`Numeric.value` gives the value of an expression and the state after it, or a complaint.
-/

namespace TaskScript
namespace Shell
namespace Numeric

/-- How names are looked up and assigned to in a state. -/
structure Scope (σ : Type) where
  get : String → σ → Except String Int64
  set : String → Int64 → σ → Except String σ

/-- A number, a name, an operator, or the end. -/
inductive Symbol
  | number (n : Int64)
  | name (text : String)
  | operator (text : String)
  | finish
  deriving DecidableEq

/-- The operators, those that begin with others before them. -/
def operators : List String :=
  ["<<=", ">>=", "<<", ">>", "<=", ">=", "==", "!=", "&&", "||", "+=", "-=", "*=", "/=", "%=", "&=",
    "|=", "^=", "<", ">", "=", "!", "&", "|", "+", "-", "*", "/", "%", "^", "~", "?", ":", "(", ")"]

/-- The symbols of a text; `steps` is more than its length.  What is no symbol ends them with an
operator that does not exist. -/
def symbols : Nat → List Char → List Symbol
  | 0, _ => []
  | _ + 1, [] => []
  | steps + 1, c :: rest =>
    if Numeral.isSpace c then symbols steps rest
    else if c.isDigit then
      match Numeral.unsigned? none (c :: rest) with
      | some (n, rest) => .number (Int64.ofInt (Numeral.clamp n)) :: symbols steps rest
      | none => [.operator ""]
    else if Reader.beginsName c then
      .name (String.ofList (c :: rest.takeWhile Reader.inName)) ::
        symbols steps (rest.dropWhile Reader.inName)
    else
      match operators.find? fun o => o.toList.isPrefixOf (c :: rest) with
      | some o => .operator o :: symbols steps ((c :: rest).drop o.length)
      | none => [.operator ""]

/-- The number that stands for a truth value. -/
def truth (b : Bool) : Int64 := if b then 1 else 0

/-- The level of an operator between two operands; those of lower levels bind more tightly. -/
def level? : String → Option Nat
  | "*" | "/" | "%" => some 0
  | "+" | "-" => some 1
  | "<<" | ">>" => some 2
  | "<" | "<=" | ">" | ">=" => some 3
  | "==" | "!=" => some 4
  | "&" => some 5
  | "^" => some 6
  | "|" => some 7
  | _ => none

/-- A level above all. -/
def topLevel : Nat := 8

/-- The value of an operator on two numbers. -/
def apply (operator : String) (a b : Int64) : Except String Int64 :=
  match operator with
  | "*" => .ok (a * b)
  | "/" => if b == 0 then .error "division by zero" else .ok (a / b)
  | "%" => if b == 0 then .error "division by zero" else .ok (a % b)
  | "+" => .ok (a + b)
  | "-" => .ok (a - b)
  | "<<" => .ok (a <<< b)
  | ">>" => .ok (a >>> b)
  | "<" => .ok (truth (a < b))
  | "<=" => .ok (truth (a ≤ b))
  | ">" => .ok (truth (b < a))
  | ">=" => .ok (truth (b ≤ a))
  | "==" => .ok (truth (a == b))
  | "!=" => .ok (truth (a != b))
  | "&" => .ok (a &&& b)
  | "^" => .ok (a ^^^ b)
  | _ => .ok (a ||| b)

/-- The operator that an assignment applies to the old value and the new one; none if it takes only
the new one. -/
def assigning? : String → Option (Option String)
  | "=" => some none
  | "+=" => some (some "+")
  | "-=" => some (some "-")
  | "*=" => some (some "*")
  | "/=" => some (some "/")
  | "%=" => some (some "%")
  | "<<=" => some (some "<<")
  | ">>=" => some (some ">>")
  | "&=" => some (some "&")
  | "|=" => some (some "|")
  | "^=" => some (some "^")
  | _ => none

/-- A complaint about an expression, or one that says all that there is to say. -/
inductive Complaint
  | expression (words : String)
  | other (words : String)

/-- The symbols to come and the state of names. -/
structure Rest (σ : Type) where
  symbols : List Symbol
  state : σ

namespace Rest

variable {σ : Type}

/-- The next symbol. -/
def head (r : Rest σ) : Symbol := r.symbols.head?.getD .finish

/-- What follows the next symbol. -/
def tail (r : Rest σ) : Rest σ := { r with symbols := r.symbols.tail }

end Rest

/-- What evaluating gives. -/
abbrev Gives (σ : Type) := Except Complaint (Int64 × Rest σ)

/-- Lay a complaint to the names. -/
def blamed {α : Type} (found : Except String α) : Except Complaint α :=
  match found with
  | .ok a => .ok a
  | .error words => .error (.other words)

/-- Lay a complaint to the expression. -/
def faulted {α : Type} (found : Except String α) : Except Complaint α :=
  match found with
  | .ok a => .ok a
  | .error words => .error (.expression words)

section

variable {σ : Type} (scope : Scope σ)

/-- Assign a value, combined with the old one if so desired. -/
def given (name : String) (combined : Option String) (value : Int64) (r : Rest σ) :
    Except Complaint (Int64 × Rest σ) := do
  let value ← match combined with
    | none => pure value
    | some o => faulted (apply o (← blamed (scope.get name r.state)) value)
  return (value, { r with state := ← blamed (scope.set name value r.state) })

mutual

/-- An assignment, or a conditional.  What is idle is read but neither looked up nor assigned. -/
def assignment : Nat → Bool → Rest σ → Gives σ
  | 0, _, _ => .error (.expression "too deep")
  | steps + 1, idle, r =>
    match r.symbols with
    | .name x :: .operator o :: rest =>
      match assigning? o with
      | none => conditional steps idle r
      | some combined =>
        match assignment steps idle { r with symbols := rest } with
        | .error c => .error c
        | .ok (value, r) =>
          if idle then .ok (value, r) else given scope x combined value r
    | _ => conditional steps idle r

/-- One of two values, by a test. -/
def conditional : Nat → Bool → Rest σ → Gives σ
  | 0, _, _ => .error (.expression "too deep")
  | steps + 1, idle, r =>
    match disjunction steps idle r with
    | .error c => .error c
    | .ok (test, r) =>
      if r.head != .operator "?" then .ok (test, r)
      else
        match assignment steps (idle || test == 0) r.tail with
        | .error c => .error c
        | .ok (yes, r) =>
          if r.head != .operator ":" then .error (.expression "expecting ':'")
          else
            match conditional steps (idle || test != 0) r.tail with
            | .error c => .error c
            | .ok (no, r) => .ok (if test != 0 then yes else no, r)

/-- Whether one of two values is true. -/
def disjunction : Nat → Bool → Rest σ → Gives σ
  | 0, _, _ => .error (.expression "too deep")
  | steps + 1, idle, r =>
    match conjunction steps idle r with
    | .error c => .error c
    | .ok (a, r) =>
      if r.head != .operator "||" then .ok (a, r)
      else
        match disjunction steps (idle || a != 0) r.tail with
        | .error c => .error c
        | .ok (b, r) => .ok (truth (a != 0 || b != 0), r)

/-- Whether both of two values are true. -/
def conjunction : Nat → Bool → Rest σ → Gives σ
  | 0, _, _ => .error (.expression "too deep")
  | steps + 1, idle, r =>
    match operand steps idle r with
    | .error c => .error c
    | .ok (first, r) =>
      match joined steps topLevel idle first r with
      | .error c => .error c
      | .ok (a, r) =>
        if r.head != .operator "&&" then .ok (a, r)
        else
          match conjunction steps (idle || a == 0) r.tail with
          | .error c => .error c
          | .ok (b, r) => .ok (truth (a != 0 && b != 0), r)

/-- A value joined by operators below a level to the operands that follow. -/
def joined : Nat → Nat → Bool → Int64 → Rest σ → Gives σ
  | 0, _, _, _, _ => .error (.expression "too deep")
  | steps + 1, limit, idle, a, r =>
    match r.head with
    | .operator o =>
      match level? o with
      | none => .ok (a, r)
      | some level =>
        if limit ≤ level then .ok (a, r)
        else
          match operand steps idle r.tail with
          | .error c => .error c
          | .ok (first, r) =>
            match joined steps level idle first r with
            | .error c => .error c
            | .ok (b, r) =>
              match if idle then .ok b else apply o a b with
              | .error words => .error (.expression words)
              | .ok value => joined steps limit idle value r
    | _ => .ok (a, r)

/-- A number, a name, a sign with its operand, or an expression in parentheses. -/
def operand : Nat → Bool → Rest σ → Gives σ
  | 0, _, _ => .error (.expression "too deep")
  | steps + 1, idle, r =>
    let signed (change : Int64 → Int64) : Gives σ :=
      match operand steps idle r.tail with
      | .ok (value, r) => .ok (change value, r)
      | .error c => .error c
    match r.head with
    | .number n => .ok (n, r.tail)
    | .name x =>
      if idle then .ok (0, r.tail)
      else
        match scope.get x r.state with
        | .ok value => .ok (value, r.tail)
        | .error words => .error (.other words)
    | .operator "+" => signed id
    | .operator "-" => signed fun n => -n
    | .operator "!" => signed fun n => truth (n == 0)
    | .operator "~" => signed fun n => ~~~n
    | .operator "(" =>
      match assignment steps idle r.tail with
      | .error c => .error c
      | .ok (value, r) =>
        if r.head == .operator ")" then .ok (value, r.tail)
        else .error (.expression "expecting ')'")
    | _ => .error (.expression "expecting primary")

end

/-- The value of an expression and the state after it, or what is wrong. -/
def value (text : String) (state : σ) : Except String (Int64 × σ) :=
  let all := symbols (text.length + 1) text.toList
  let result : Gives σ :=
    match assignment scope (8 * (all.length + 2)) false ⟨all, state⟩ with
    | .error c => .error c
    | .ok (value, r) =>
      if r.head == .finish then .ok (value, r) else .error (.expression "expecting EOF")
  match result with
  | .ok (value, r) => .ok (value, r.state)
  | .error (.expression words) =>
    .error ("arithmetic expression: " ++ words ++ ": \"" ++ text ++ "\"")
  | .error (.other words) => .error words

end

end Numeric
end Shell
end TaskScript
