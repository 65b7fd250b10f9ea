import TaskScript.Number.Binary
import TaskScript.Number.Conversion

/-!
# Value — numbers and texts of programs that work on records

- `Record.Value`        : a number, a text, or a text from outside that may be a number
- `Value.toNumber`      : a value as a number
- `Value.toText`        : a value as a text
- `Value.isTrue`        : a value as the outcome of a test
- `Value.compare`       : the order of two values

Texts are texts of octets.
-/

namespace TaskScript
namespace Record

/-- A number, a text, or a text from outside that may be a number. -/
inductive Value
  /-- What a place holds before anything has been put into it. -/
  | blank
  | number (value : Float)
  | text (text : String)
  | input (text : String)

instance : Inhabited Value := ⟨.blank⟩

namespace Value

/-! ## Numbers -/

/-- The number at the start of a text; 0 if there is none. -/
def numberOf (text : List Char) : Float :=
  let digits := text.takeWhile Char.isDigit
  if digits.length == text.length && digits.length < 16 then
    Float.ofNat (Numeral.ofDigits 10 digits)
  else
    match Binary.read? .double text with
    | some (n, _) => n.toFloat
    | none => 0

/-- Whether a character stands beside numbers. -/
def isBlank (c : Char) : Bool := c == ' ' || c == '\t' || c == '\n'

/-- The number that a whole text from outside spells: it starts with a digit, a sign or a point, and
ends with a digit or a point. -/
def whole? (text : String) : Option Float :=
  let inner := ((text.toList.dropWhile isBlank).reverse.dropWhile isBlank).reverse
  let canStart (c : Char) : Bool := c.isDigit || c == '+' || c == '-' || c == '.'
  let canEnd (c : Char) : Bool := c.isDigit || c == '.'
  if inner.head?.any canStart && inner.getLast?.any canEnd then
    if inner.all Char.isDigit then some (numberOf inner)
    else
      match Binary.read? .double inner with
      | some (.finite negative mantissa exponent, []) =>
        some (Binary.toFloat (.finite negative mantissa exponent))
      | _ => none
  else none

/-- A value as a number. -/
def toNumber : Value → Float
  | blank => 0
  | number x => x
  | text s | input s => numberOf s.toList

/-! ## Texts -/

/-- The whole number that a number is, if it is one of 64 bits; the greatest one may be one too
great. -/
def integer? (x : Float) : Option Int :=
  if x.floor == x && -9223372036854775808.0 ≤ x && x ≤ 18446744073709551616.0 then
    let n := x.abs.toUInt64.toNat
    some (if x < 0 then -(n : Int) else n)
  else none

/-- The exact value of a number; what is no number has a sign. -/
def exact (x : Float) : Binary :=
  match Binary.ofFloat x with
  | .undefined _ => .undefined true
  | other => other

/-- A number as the last conversion of a format asks for. -/
def formatted (format : String) (x : Float) : String :=
  let chars := format.toList
  let before := chars.takeWhile (· != '%')
  match chars.drop before.length with
  | [] => format
  | _ :: rest =>
    let (pattern, rest) := Conversion.read rest
    let conversion := Conversion.ofPattern pattern 0 0 (rest.head?.getD 'g')
    let middle :=
      if "di".toList.contains conversion.kind then conversion.ofInt ((integer? x).getD 0)
      else conversion.ofBinary .double (exact x)
    String.ofList before ++ middle ++ String.ofList rest.tail

/-- A number as a text: whole numbers with all their digits, others as a format asks for. -/
def numberText (format : String) (x : Float) : String :=
  match integer? x with
  | some n => toString n
  | none => formatted format x

/-- A value as a text. -/
def toText (format : String) : Value → String
  | blank => ""
  | number x => numberText format x
  | text s | input s => s

/-! ## Tests -/

/-- A value as the outcome of a test. -/
def isTrue : Value → Bool
  | blank => false
  | number x => x != 0
  | text s => !s.isEmpty
  | input s =>
    match whole? s with
    | some x => x != 0
    | none => !s.isEmpty

/-- The outcome of a test as a value. -/
def ofBool (b : Bool) : Value := number (if b then 1 else 0)

/-- The value that a whole number is. -/
def ofNat (n : Nat) : Value := number (Float.ofNat n)

/-- The number of a value that is compared as a number; a text is none. -/
def comparable? : Value → Option Float
  | blank => some 0
  | number x => some x
  | text _ => none
  | input s => whole? s

/-- The order of two values: as numbers if both are, else as texts. -/
def compare (format : String) (a b : Value) : Ordering :=
  match a.comparable?, b.comparable? with
  | some x, some y => if x < y then .lt else if y < x then .gt else .eq
  | _, _ => Ord.compare (a.toText format) (b.toText format)

end Value
end Record
end TaskScript
