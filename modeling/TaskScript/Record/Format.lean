import TaskScript.Record.Value

/-!
# Format — values as formats print them

`Format.print` prints values as a format asks for.  It ends early where values are missing, or where
a letter is no conversion.
-/

namespace TaskScript
namespace Record
namespace Format

/-- Why a format cannot be printed. -/
inductive Fault
  | tooFew
  /-- The conversion with a number is none. -/
  | improper (number : Nat)
  deriving DecidableEq, Repr

/-- The wording of a fault. -/
def Fault.message (routine format : String) : Fault → String
  | tooFew => "not enough arguments passed to " ++ routine ++ "(\"" ++ format ++ "\")"
  | improper number =>
    "improper conversion(number " ++ toString number ++ ") in " ++ routine ++ "(\"" ++ format ++
      "\")"

/-- A number without its fraction; nothing for what is no number. -/
def whole? (x : Float) : Option Int :=
  match Binary.ofFloat x with
  | .finite negative mantissa exponent =>
    let n := if 0 ≤ exponent then mantissa * Nat.pow 2 exponent.toNat
      else mantissa / Nat.pow 2 (-exponent).toNat
    some (if negative then -(n : Int) else n)
  | .infinite negative => some (if negative then -Nat.pow 2 64 else Nat.pow 2 64)
  | .undefined _ => none

/-- A number as whole numbers with a sign are printed. -/
def signed (x : Float) : Int :=
  match whole? x with
  | none => -9223372036854775808
  | some n =>
    if n < -Numeral.greatest then -Numeral.greatest
    else if n < 18446744073709551615 then n else 18446744073709551615

/-- A number as whole numbers without a sign are printed. -/
def unsigned (x : Float) : Int :=
  match whole? x with
  | none => 9223372036854775808
  | some n =>
    if n < -Numeral.greatest then 9223372036854775809
    else if n < 18446744073709551615 then n else 18446744073709551615

/-- The character that a value stands for. -/
def charOf (format : String) (v : Value) : Char :=
  let ofNumber (x : Float) : Char := Char.ofNat ((signed x) % 256).toNat
  let ofText (s : String) : Char := s.toList.headD '\x00'
  match v with
  | .number x => ofNumber x
  | .input s =>
    match Value.whole? s with
    | some x => ofNumber x
    | none => ofText s
  | other => ofText (other.toText format)

/-- A value as a conversion prints it, if there is such a conversion. -/
def converted? (format : String) (c : Conversion) (v : Value) : Option String :=
  match c.kind with
  | 's' => some (c.ofText (v.toText format))
  | 'c' => some (c.padded (String.singleton (charOf format v)))
  | 'd' | 'i' => some (c.ofInt (signed v.toNumber))
  | 'o' | 'x' | 'X' | 'u' => some (c.ofInt (unsigned v.toNumber))
  | kind =>
    if "aAeEfFgG".toList.contains kind then
      some (c.ofBinary .double (Value.exact v.toNumber))
    else none

/-- A width or a precision that may have to be taken from the values, and what is left of them. -/
def sizeOf (size : Conversion.Size) (values : List Value) : Option (Int × List Value) :=
  match size, values with
  | .asked, [] => none
  | .asked, v :: rest => some ((whole? v.toNumber).getD 0, rest)
  | _, _ => some (0, values)

/-- Print values as a format asks for: what has been printed in reverse, and why it ended early.
`convertFormat` is how numbers become texts; `steps` is more than the length of the format. -/
def printFrom (convertFormat : String) :
    Nat → Nat → List Value → List Char → List String → List String × Option Fault
  | 0, _, _, _, reversed => (reversed, none)
  | _ + 1, _, _, [], reversed => (reversed, none)
  | steps + 1, number, values, '%' :: '%' :: rest, reversed =>
    printFrom convertFormat steps number values rest ("%" :: reversed)
  | steps + 1, number, values, '%' :: rest, reversed =>
    let (pattern, after) := Conversion.read rest
    let found := do
      let (width, values) ← sizeOf pattern.width values
      let (precision, values) ← sizeOf pattern.precision values
      match values with
      | [] => none
      | v :: values => some (width, precision, v, values)
    match found with
    | none => (reversed, some .tooFew)
    | some (width, precision, v, values) =>
      let after := after.dropWhile ("lh".toList.contains ·)
      let conversion := Conversion.ofPattern pattern width precision (after.headD '%')
      match converted? convertFormat conversion v with
      | none => (reversed, some (.improper number))
      | some text => printFrom convertFormat steps (number + 1) values after.tail (text :: reversed)
  | steps + 1, number, values, c :: rest, reversed =>
    let more := rest.takeWhile (· != '%')
    printFrom convertFormat steps number values (rest.drop more.length)
      (String.ofList (c :: more) :: reversed)

/-- Print values as a format asks for, and tell why it ended early. -/
def print (convertFormat format : String) (values : List Value) : String × Option Fault :=
  let (reversed, fault?) :=
    printFrom convertFormat (format.length + 1) 1 values format.toList []
  (String.join reversed.reverse, fault?)

end Format
end Record
end TaskScript
