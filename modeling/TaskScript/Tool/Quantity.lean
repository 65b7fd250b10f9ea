import TaskScript.Number.Binary
import TaskScript.Number.Numeral
import TaskScript.Tool.Quoting

/-!
# Quantity — numbers and spans of time that options ask for

A quantity is a number, perhaps followed by letters that stand for powers of 1024 or 1000.  Which
letters are known, and which numbers are accepted, differs from one option to the next.

- `Quantity.integer?` : the number that a text spells
- `Quantity.natural?` : the same, where no sign that makes it negative is known
- `Quantity.within`   : a number of a range, or what a complaint ends with
- `Duration.read?`    : a span of time, with a letter for seconds, minutes, hours or days
-/

namespace TaskScript
namespace Tool
namespace Quantity

/-- The letters that most tools know; the digit tells that `B`, `D` and `iB` may follow them. -/
def usualLetters : String := "bkKmMGTPEZYRQ0"

/-- The powers that letters stand for. -/
def powers : List (Char × Nat) :=
  [('k', 1), ('K', 1), ('m', 2), ('M', 2), ('g', 3), ('G', 3), ('t', 4), ('T', 4), ('P', 5),
    ('E', 6), ('Z', 7), ('Y', 8), ('R', 9), ('Q', 10)]

/-- The number that letters after digits multiply with. -/
def factor? (letters : String) (rest : List Char) : Option Nat :=
  match rest with
  | [] => some 1
  | letter :: ending =>
    if !letters.toList.contains letter then none
    else
      match letter, ending with
      | 'b', [] => some 512
      | 'B', [] => some 1024
      | 'c', [] => some 1
      | 'w', [] => some 2
      | _, _ =>
        let power (base : Nat) := (powers.lookup letter).map fun n => Nat.pow base n
        match ending, letters.toList.contains '0' with
        | [], _ | ['i', 'B'], true => power 1024
        | ['B'], true | ['D'], true => power 1000
        | _, _ => none

/-- The number that a text spells, in a base or in the one that its first digits tell.  A letter
without digits stands for what it multiplies with. -/
def integerIn? (base? : Option Nat) (letters text : String) : Option Int :=
  match Numeral.read? base? text.toList with
  | some (n, rest) => (factor? letters rest).map fun factor => n * factor
  | none => if text.isEmpty then none else (factor? letters text.toList).map Int.ofNat

/-- The number that a text spells. -/
def integer? (letters text : String) : Option Int := integerIn? (some 10) letters text

/-- The number that a text spells without a sign that makes it negative. -/
def naturalIn? (base? : Option Nat) (letters text : String) : Option Nat :=
  if (text.toList.dropWhile Numeral.isSpace).head? == some '-' then none
  else (integerIn? base? letters text).map Int.toNat

/-- The number that a text spells without a sign that makes it negative. -/
def natural? (letters text : String) : Option Nat := naturalIn? (some 10) letters text

/-- The greatest number of 64 bits without a sign. -/
def greatest : Nat := 18446744073709551615

/-- Numbers beyond this one are too big for their kind, and not only out of a range. -/
def farBound : Int := 1073741823

/-- A number of a range, or what a complaint ends with. -/
def within (least most : Int) : Option Int → Except String Int
  | none => .error ""
  | some n =>
    if least ≤ n && n ≤ most then .ok n
    else if n > farBound || n < -farBound - 1 then
      .error ": Value too large for defined data type"
    else .error ": Numerical result out of range"

/-- A number of a range, or a complaint about the text. -/
def bounded (what : String) (least most : Int) (text : String) (found? : Option Int) :
    Except String Int :=
  (within least most found?).mapError fun reason => what ++ ": " ++ Quoting.plain text ++ reason

/-- A natural number of a range that a text spells, or a complaint about it. -/
def counted (what letters : String) (least most : Nat) (text : String) : Except String Nat :=
  (bounded what least most text ((natural? letters text).map Int.ofNat)).map Int.toNat

/-- A natural number that an option is given, or a complaint that names the option. -/
def argument (option : String) (base? : Option Nat) (letters text : String) :
    Except String Nat :=
  let shown := "argument " ++ Quoting.plain text
  match naturalIn? base? letters text with
  | some n =>
    if n ≤ greatest then .ok n else .error (option ++ " " ++ shown ++ " too large")
  | none =>
    let hasNumber := match Numeral.read? base? text.toList with
      | some (n, _) => decide (0 ≤ n)
      | none => false
    let hasLetter := text.toList.head?.any letters.toList.contains
    .error ("invalid " ++ (if hasNumber || hasLetter then "suffix in " else "") ++ option ++
      " " ++ shown)

end Quantity

namespace Duration

/-- How many seconds a letter stands for. -/
def seconds? (text : List Char) : Option Nat :=
  match text with
  | [] | ['s'] => some 1
  | ['m'] => some 60
  | ['h'] => some 3600
  | ['d'] => some 86400
  | _ => none

/-- The greatest span that is told apart from others, in seconds. -/
def greatest : Nat := 1000000000

/-- The span that a text describes, in microseconds. -/
def read? (text : String) : Option Nat :=
  match Binary.read? .extended text.toList with
  | some (.finite negative mantissa exponent, rest) =>
    if negative && mantissa != 0 then none
    else
      (seconds? rest).map fun seconds =>
        let q := Binary.ratio mantissa exponent
        min (q.1 * seconds * 1000000 / q.2) (greatest * 1000000)
  | some (.infinite false, rest) => (seconds? rest).map fun _ => greatest * 1000000
  | _ => none

end Duration

end Tool
end TaskScript
