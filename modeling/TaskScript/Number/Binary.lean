import TaskScript.Number.Numeral

/-!
# Binary — numbers that are a whole number times a power of two

- `Binary.ofRatio`         : the nearest such number with so many binary digits
- `Binary.read?`           : the number at the start of a text
- `Binary.fixedRatio`      : a number with so many decimal places
- `Binary.scientificRatio` : a number with so many places and a power of ten
- `Binary.generalRatio`    : the shorter of the two, with so many digits

Decimal digits are those of the exact value.  Where the last one has to be rounded a half goes to
the even neighbour.
-/

namespace TaskScript

/-- A number, given by its sign, a whole number and a power of two; or a value that is no number. -/
inductive Binary
  | finite (negative : Bool) (mantissa : Nat) (exponent : Int)
  | infinite (negative : Bool)
  | undefined (negative : Bool)
  deriving DecidableEq, Repr

instance : Inhabited Binary := ⟨.finite false 0 0⟩

namespace Binary

/-! ## Rounding -/

/-- The whole number nearest to a quotient; a half goes to the even neighbour. -/
def roundQuotient (num den : Nat) : Nat :=
  let q := num / den
  let r := num % den
  if 2 * r < den then q else if den < 2 * r then q + 1 else if q % 2 = 0 then q else q + 1

/-- A power of two as a quotient, multiplied with another one. -/
def scaled (num den : Nat) (exponent : Int) : Nat × Nat :=
  if 0 ≤ exponent then (num * Nat.pow 2 exponent.toNat, den)
  else (num, den * Nat.pow 2 (-exponent).toNat)

/-- How exactly numbers are kept: binary digits, and the least and the greatest power of two. -/
structure Precision where
  digits : Nat
  least : Int
  greatest : Int
  deriving DecidableEq, Repr

/-- Numbers of 64 bits. -/
def Precision.double : Precision := ⟨53, -1074, 971⟩

/-- Numbers of 80 bits. -/
def Precision.extended : Precision := ⟨64, -16445, 16320⟩

/-- The nearest number to a quotient. -/
def ofRatio (p : Precision) (negative : Bool) (num den : Nat) : Binary :=
  if num = 0 || den = 0 then finite negative 0 0
  else
    let size : Int := (Nat.log2 num : Int) - (Nat.log2 den : Int)
    let attempt (exponent : Int) : Nat :=
      let q := scaled num den (-exponent)
      roundQuotient q.1 q.2
    /- With this exponent the mantissa has at most one digit more than wanted. -/
    let low := max p.least (size - (p.digits : Int))
    let exponent := if attempt low < Nat.pow 2 p.digits then low else low + 1
    let mantissa := attempt exponent
    let exponent := if mantissa < Nat.pow 2 p.digits then exponent else exponent + 1
    let mantissa := if mantissa < Nat.pow 2 p.digits then mantissa else mantissa / 2
    if p.greatest < exponent then infinite negative else finite negative mantissa exponent

/-- The absolute value of a number as a quotient. -/
def ratio (mantissa : Nat) (exponent : Int) : Nat × Nat := scaled mantissa 1 exponent

/-- Whether a number is less than zero, or a zero with a sign. -/
def isNegative : Binary → Bool
  | finite negative _ _ | infinite negative | undefined negative => negative

/-! ## Reading -/

/-- The quotient that digits with a point and a power stand for. -/
def quotient (base : Nat) (whole places : List Char) (powerBase : Nat) (power : Int) : Nat × Nat :=
  let num := Numeral.ofDigits base (whole ++ places)
  let den := Nat.pow base places.length
  if 0 ≤ power then (num * Nat.pow powerBase power.toNat, den)
  else (num, den * Nat.pow powerBase (-power).toNat)

/-- The power after a letter, and what follows; 0 if there is none. -/
def power (letter : Char) (text : List Char) : Int × List Char :=
  match text with
  | c :: rest =>
    if c.toLower != letter then (0, text)
    else
      let (negative, digits) := match rest with
        | '-' :: rest => (true, rest)
        | '+' :: rest => (false, rest)
        | rest => (false, rest)
      let found := Numeral.digits 10 digits
      if found.1.isEmpty then (0, text)
      else
        let n := min (Numeral.ofDigits 10 found.1) 20000
        (if negative then -(n : Int) else n, found.2)
  | [] => (0, [])

/-- The digits before and after a point, and what follows. -/
def pointed (base : Nat) (text : List Char) : List Char × List Char × List Char :=
  let whole := Numeral.digits base text
  match whole.2 with
  | '.' :: rest =>
    let places := Numeral.digits base rest
    if whole.1.isEmpty && places.1.isEmpty then (whole.1, [], whole.2)
    else (whole.1, places.1, places.2)
  | rest => (whole.1, [], rest)

/-- What follows a word in letters of either case. -/
def afterWord? (word : String) (text : List Char) : Option (List Char) :=
  if (text.take word.length).map Char.toLower == word.toList then some (text.drop word.length)
  else none

/-- The number at the start of a text without a sign, and what follows. -/
def unsigned? (p : Precision) (negative : Bool) (text : List Char) : Option (Binary × List Char) :=
  let decimal (text : List Char) : Option (Binary × List Char) :=
    let (whole, places, rest) := pointed 10 text
    if whole.isEmpty && places.isEmpty then none
    else
      let (exponent, rest) := power 'e' rest
      let q := quotient 10 whole places 10 exponent
      some (ofRatio p negative q.1 q.2, rest)
  match text with
  | '0' :: x :: rest =>
    if x == 'x' || x == 'X' then
      let (whole, places, rest) := pointed 16 rest
      if whole.isEmpty && places.isEmpty then some (finite negative 0 0, x :: rest)
      else
        let (exponent, rest) := power 'p' rest
        let q := quotient 16 whole places 2 exponent
        some (ofRatio p negative q.1 q.2, rest)
    else decimal text
  | _ =>
    match afterWord? "infinity" text with
    | some rest => some (infinite negative, rest)
    | none =>
      match afterWord? "inf" text with
      | some rest => some (infinite negative, rest)
      | none =>
        match afterWord? "nan" text with
        | some rest => some (undefined negative, rest)
        | none => decimal text

/-- The number at the start of a text, after white space and a sign, and what follows. -/
def read? (p : Precision) (text : List Char) : Option (Binary × List Char) :=
  match text.dropWhile Numeral.isSpace with
  | '-' :: rest => unsigned? p true rest
  | '+' :: rest => unsigned? p false rest
  | rest => unsigned? p false rest

/-! ## Decimal digits -/

/-- Whether a number is too great or too small for what the digits of a text stand for. -/
def isBeyond (text : List Char) : Binary → Bool
  | infinite _ => text.any Char.isDigit
  | finite _ mantissa _ =>
    let ofPower := if text.contains 'x' || text.contains 'X' then "pP" else "eE"
    mantissa = 0 && (text.takeWhile fun c => !ofPower.toList.contains c).any fun c =>
      Numeral.isDigit 16 c && c != '0'
  | undefined _ => false

/-- Digits with a point before so many of them; the point stands even before none if so desired. -/
def withPoint (places : Nat) (always : Bool) (n : Nat) : String :=
  let digits := Numeral.padded (places + 1) '0' (toString n)
  let whole := String.ofList (digits.toList.take (digits.length - places))
  let rest := String.ofList (digits.toList.drop (digits.length - places))
  if places = 0 then (if always then whole ++ "." else whole) else whole ++ "." ++ rest

/-- A quotient with so many decimal places. -/
def fixedRatio (places : Nat) (always : Bool) (num den : Nat) : String :=
  withPoint places always (roundQuotient (num * Nat.pow 10 places) den)

/-- The quotient of a quotient by a power of ten, rounded. -/
def roundPower (num den : Nat) (power : Int) : Nat :=
  if 0 ≤ power then roundQuotient num (den * Nat.pow 10 power.toNat)
  else roundQuotient (num * Nat.pow 10 (-power).toNat) den

/-- An estimate of the power of ten of the first digit of a quotient: that power or the one before.
-/
def estimate (num den : Nat) : Int :=
  let size : Int := (Nat.log2 num : Int) - (Nat.log2 den : Int) - 1
  (size * 30103).fdiv 100000 - 1

/-- The power of ten of the first digit of a quotient, looked for from an estimate on. -/
def firstPower (num den : Nat) : Nat → Int → Int
  | 0, power => power
  | steps + 1, power =>
    let next := power + 1
    let isBelow := if 0 ≤ next then num < den * Nat.pow 10 next.toNat
      else num * Nat.pow 10 (-next).toNat < den
    if isBelow then power else firstPower num den steps next

/-- The first digits of a quotient, one more than the places, and the power of ten of the first. -/
def leading (places : Nat) (num den : Nat) : Nat × Int :=
  if num = 0 then (0, 0)
  else
    let power := firstPower num den 8 (estimate num den)
    let digits := roundPower num den (power - places)
    if digits < Nat.pow 10 (places + 1) then (digits, power) else (digits / 10, power + 1)

/-- A power of ten as it is written. -/
def powerText (power : Int) : String :=
  (if power < 0 then "e-" else "e+") ++ Numeral.padded 2 '0' (toString power.natAbs)

/-- A quotient with so many places and a power of ten. -/
def scientificRatio (places : Nat) (always : Bool) (num den : Nat) : String :=
  let (digits, power) := leading places num den
  withPoint places always digits ++ powerText power

/-- A text of digits without zeros at the end of its decimal places. -/
def dropZeros (text : String) : String :=
  if !text.toList.contains '.' then text
  else
    let kept := text.toList.reverse.dropWhile (· == '0')
    String.ofList (if kept.head? == some '.' then kept.tail else kept).reverse

/-- A quotient with so many digits, in the shorter way; zeros at the end are kept if so desired. -/
def generalRatio (digits : Nat) (always : Bool) (num den : Nat) : String :=
  let wanted := max digits 1
  let (first, power) := leading (wanted - 1) num den
  if power < -4 || (wanted : Int) ≤ power then
    let text := withPoint (wanted - 1) always first
    (if always then text else dropZeros text) ++ powerText power
  else
    let text := fixedRatio ((wanted : Int) - 1 - power).toNat always num den
    if always then text else dropZeros text

/-- How the absolute value of a number is written, given how a quotient is. -/
def written (style : Nat → Nat → String) : Binary → String
  | finite _ mantissa exponent =>
    let q := ratio mantissa exponent
    style q.1 q.2
  | infinite _ => "inf"
  | undefined _ => "nan"

/-- A number that has been rounded to places of a base, with a point before them. -/
def pointedDigits (always : Bool) (places : Nat) (whole part : Nat) : String :=
  Numeral.inBase 16 whole ++
    if places = 0 then (if always then "." else "")
    else "." ++ Numeral.padded places '0' (Numeral.inBase 16 part)

/-- The power of two after hexadecimal digits. -/
def binaryPower (power : Int) : String :=
  "p" ++ (if power < 0 then "-" else "+") ++ toString power.natAbs

/-- The absolute value of a number in hexadecimal digits and a power of two; all digits after the
first hold four binary digits.  Without places there are as many as are needed. -/
def hexadecimal (p : Precision) (places? : Option Nat) (always : Bool) : Binary → String
  | infinite _ => "inf"
  | undefined _ => "nan"
  | finite _ mantissa exponent =>
    if mantissa = 0 then
      "0x" ++ pointedDigits always (places?.getD 0) 0 0 ++ binaryPower 0
    else
      let length := Nat.log2 mantissa + 1
      let most := (p.digits - 1) / 4
      let bits := p.digits - 4 * most
      let n := roundQuotient (mantissa * Nat.pow 2 (p.digits - length))
        (Nat.pow 2 (length - p.digits))
      let power := exponent + (length : Int) - (bits : Int)
      match places? with
      | some places =>
        let kept := min places most
        let rounded := roundQuotient n (Nat.pow 16 (most - kept))
        let whole := rounded / Nat.pow 16 kept
        let (whole, power) := if whole = 16 then (1, power + 4) else (whole, power)
        "0x" ++ pointedDigits always kept whole (rounded % Nat.pow 16 kept) ++
          "".pushn '0' (places - kept) ++ binaryPower power
      | none =>
        let digits := Numeral.padded most '0' (Numeral.inBase 16 (n % Nat.pow 16 most))
        let kept := (digits.toList.reverse.dropWhile (· == '0')).reverse
        let point := if kept.isEmpty && !always then "" else "."
        "0x" ++ Numeral.inBase 16 (n / Nat.pow 16 most) ++ point ++ String.ofList kept ++
          binaryPower power

/-! ## Machine numbers -/

/-- The value of a machine number. -/
def ofFloat (x : Float) : Binary :=
  let bits := x.toBits.toNat
  let negative := bits / Nat.pow 2 63 == 1
  let exponent : Nat := bits / Nat.pow 2 52 % 2048
  let fraction : Nat := bits % Nat.pow 2 52
  if exponent = 2047 then (if fraction = 0 then infinite negative else undefined negative)
  else if exponent = 0 then finite negative fraction (-1074)
  else finite negative (fraction + Nat.pow 2 52) ((exponent : Int) - 1075)

/-- The machine number of a value that has 53 binary digits. -/
def toFloat : Binary → Float
  | finite negative mantissa exponent =>
    let n := Float.scaleB (Float.ofNat mantissa) exponent
    if negative then -n else n
  | infinite negative => if negative then -(1.0 / 0.0) else 1.0 / 0.0
  | undefined _ => 0.0 / 0.0

end Binary
end TaskScript
