/-!
# Resolution — texts that would be read as something other than a text

A plain scalar is read by its look: `null`, `true`, `0x1F` and `1.5` are no texts.  `isResolved`
says which texts are of that kind, so that they can be quoted when they are written.

- `isNull`, `isBoolean` : the fixed words
- `isRadixInteger`      : integers written in base 16, 8 or 2, within 128 bits
- `isFiniteFloat`       : decimal numbers, whole or not, that do not overflow double precision
- `isPaddedInteger`     : digits with a superfluous leading zero
-/

namespace TaskScript
namespace Yaml

/-! ## Words -/

/-- The words for the null value. -/
def isNull (text : List Char) : Bool :=
  ["null", "Null", "NULL", "~"].any fun word => word.toList == text

/-- The words for the truth values. -/
def isBoolean (text : List Char) : Bool :=
  ["true", "True", "TRUE", "false", "False", "FALSE"].any fun word => word.toList == text

/-! ## Integers in other bases -/

/-- The value of a digit in bases up to 16. -/
def digitValue? (c : Char) : Option Nat :=
  if c.isDigit then some (c.toNat - '0'.toNat)
  else if 'a' ≤ c ∧ c ≤ 'f' then some (c.toNat - 'a'.toNat + 10)
  else if 'A' ≤ c ∧ c ≤ 'F' then some (c.toNat - 'A'.toNat + 10)
  else none

/-- The number that a non-empty run of digits denotes in a base. -/
def numeral? (base : Nat) (digits : List Char) : Option Nat :=
  if digits.isEmpty then
    none
  else
    digits.foldlM (fun value c =>
      (digitValue? c).bind fun d => if d < base then some (base * value + d) else none) 0

/-- The base that a letter after a leading zero announces. -/
def base? : Char → Option Nat
  | 'x' => some 16
  | 'o' => some 8
  | 'b' => some 2
  | _ => none

/-- Whether a text is an announced base and digits of that base, of value at most `greatest`. -/
def isAnnounced (greatest : Nat) : List Char → Bool
  | '0' :: letter :: digits =>
    match (base? letter).bind fun base => numeral? base digits with
    | some value => decide (value ≤ greatest)
    | none => false
  | _ => false

/-- Whether a text is an integer with an announced base, within the range of 128 bits. -/
def isRadixInteger : List Char → Bool
  | '+' :: rest => isAnnounced (Nat.pow 2 128 - 1) rest
  | '-' :: rest => isAnnounced (Nat.pow 2 127) rest
  | text => isAnnounced (Nat.pow 2 128 - 1) text

/-! ## Decimal numbers -/

/-- The words for infinity and not-a-number. -/
def isSpecialFloat (text : List Char) : Bool :=
  [".inf", ".Inf", ".INF", "+.inf", "+.Inf", "+.INF", "-.inf", "-.Inf", "-.INF", ".nan", ".NaN",
    ".NAN"].any fun word => word.toList == text

/-- A decimal number: `digits` times ten to the power of `exponent`. -/
structure Decimal where
  digits : List Char
  exponent : Int

/-- The number that decimal digits denote. -/
def decimalValue (digits : List Char) : Nat :=
  digits.foldl (fun value c => 10 * value + (c.toNat - '0'.toNat)) 0

/-- The exponent part of a decimal number, which may be absent. -/
def exponent? : List Char → Option Int
  | [] => some 0
  | mark :: rest =>
    if mark = 'e' ∨ mark = 'E' then
      let (negative, digits) := match rest with
        | '-' :: digits => (true, digits)
        | '+' :: digits => (false, digits)
        | digits => (false, digits)
      if !digits.isEmpty && digits.all Char.isDigit then
        let value : Int := decimalValue digits
        some (if negative then -value else value)
      else
        none
    else
      none

/-- A decimal number without sign: digits on at least one side of an optional point, and an optional
exponent. -/
def unsignedDecimal? (text : List Char) : Option Decimal :=
  let whole := text.takeWhile Char.isDigit
  let afterWhole := text.dropWhile Char.isDigit
  let (fraction, afterFraction) := match afterWhole with
    | '.' :: rest => (rest.takeWhile Char.isDigit, rest.dropWhile Char.isDigit)
    | rest => ([], rest)
  if whole.isEmpty && fraction.isEmpty then
    none
  else
    (exponent? afterFraction).map fun exponent =>
      ⟨whole ++ fraction, exponent - fraction.length⟩

/-- A decimal number with an optional sign. -/
def decimal? : List Char → Option Decimal
  | '+' :: rest => unsignedDecimal? rest
  | '-' :: rest => unsignedDecimal? rest
  | text => unsignedDecimal? text

/-- The least number that rounds to infinity in double precision. -/
def overflowBound : Nat := Nat.pow 2 1024 - Nat.pow 2 970

/-- Whether a decimal number stays below the overflow bound.  Numbers far from it are decided by the
number of their digits. -/
def Decimal.isFinite (d : Decimal) : Bool :=
  let significant := d.digits.dropWhile (· == '0')
  let magnitude : Int := significant.length + d.exponent
  if significant.isEmpty || decide (magnitude ≤ 308) then
    true
  else if 310 ≤ magnitude then
    false
  else
    let value := decimalValue significant
    match d.exponent with
    | .ofNat up => decide (value * Nat.pow 10 up < overflowBound)
    | .negSucc down => decide (value < overflowBound * Nat.pow 10 (down + 1))

/-- Whether a text is a decimal number that does not overflow. -/
def isFiniteFloat (text : List Char) : Bool :=
  match decimal? text with
  | some d => d.isFinite
  | none => false

/-- Whether a text is a zero followed by more digits, with an optional sign. -/
def isPaddedInteger (text : List Char) : Bool :=
  let digits := match text with
    | '+' :: rest => rest
    | '-' :: rest => rest
    | rest => rest
  match digits with
  | '0' :: second :: rest => (second :: rest).all Char.isDigit
  | _ => false

/-! ## The verdict -/

/-- Whether a text, written plainly, would be read as something other than itself. -/
def isResolved (text : List Char) : Bool :=
  text.isEmpty || isNull text || isBoolean text || isRadixInteger text || isSpecialFloat text ||
    isFiniteFloat text || isPaddedInteger text

end Yaml
end TaskScript
