/-!
# Numeral — numbers as programs read and write them

A numeral has an optional sign and digits.  `0x` announces hexadecimal and `0` octal digits where
the base is open.

- `Numeral.read?`   : the number at the start of a text, and what follows
- `Numeral.whole?`  : the number that a whole text spells
- `Numeral.clamp`   : the nearest number of 64 bits
- `Numeral.inBase`  : a number in digits of a base
-/

namespace TaskScript
namespace Numeral

/-- Whether a character is white space to programs that know ASCII only. -/
def isSpace (c : Char) : Bool := c == ' ' || (9 ≤ c.toNat && c.toNat ≤ 13)

/-- The value of a character as a digit. -/
def digitOf? (base : Nat) (c : Char) : Option Nat :=
  let value :=
    if c.isDigit then some (c.toNat - '0'.toNat)
    else if 'a' ≤ c && c ≤ 'z' then some (c.toNat - 'a'.toNat + 10)
    else if 'A' ≤ c && c ≤ 'Z' then some (c.toNat - 'A'.toNat + 10)
    else none
  value.filter (· < base)

/-- Whether a character is a digit of a base. -/
def isDigit (base : Nat) (c : Char) : Bool := (digitOf? base c).isSome

/-- The number that digits spell. -/
def ofDigits (base : Nat) (digits : List Char) : Nat :=
  digits.foldl (fun n c => n * base + (digitOf? base c).getD 0) 0

/-- Digits of a base at the start of a text, and what follows. -/
def digits (base : Nat) (text : List Char) : List Char × List Char :=
  text.span (isDigit base)

/-- The number at the start of a text, and what follows; without a base the digits tell it. -/
def unsigned? (base : Option Nat) (text : List Char) : Option (Nat × List Char) :=
  let plain (base : Nat) (text : List Char) : Option (Nat × List Char) :=
    let found := digits base text
    if found.1.isEmpty then none else some (ofDigits base found.1, found.2)
  match base, text with
  | none, '0' :: x :: c :: rest =>
    if (x == 'x' || x == 'X') && isDigit 16 c then plain 16 (c :: rest) else plain 8 text
  | none, '0' :: _ => plain 8 text
  | none, _ => plain 10 text
  | some base, _ => plain base text

/-- The number at the start of a text, after white space and a sign, and what follows. -/
def read? (base : Option Nat) (text : List Char) : Option (Int × List Char) :=
  match text.dropWhile isSpace with
  | '-' :: rest => (unsigned? base rest).map fun found => (-(found.1 : Int), found.2)
  | '+' :: rest => (unsigned? base rest).map fun found => ((found.1 : Int), found.2)
  | rest => (unsigned? base rest).map fun found => ((found.1 : Int), found.2)

/-- The number that a whole text spells, with white space around it. -/
def whole? (base : Option Nat) (text : String) : Option Int :=
  (read? base text.toList).bind fun found => if found.2.all isSpace then some found.1 else none

/-- The digits of a text that holds nothing else, as a number. -/
def natural? (text : String) : Option Nat :=
  if text.isEmpty then none
  else if text.toList.all Char.isDigit then some (ofDigits 10 text.toList)
  else none

/-- The greatest number of 64 bits. -/
def greatest : Int := 9223372036854775807

/-- The nearest number of 64 bits. -/
def clamp (n : Int) : Int :=
  if n > greatest then greatest else if n < -greatest - 1 then -greatest - 1 else n

/-- A number in digits of a base. -/
def inBase (base : Nat) (n : Nat) : String := String.ofList (Nat.toDigits base n)

/-- A text with characters put before it up to a width. -/
def padded (width : Nat) (c : Char) (text : String) : String :=
  "".pushn c (width - text.length) ++ text

/-- A text with blanks put after it up to a width. -/
def filled (width : Nat) (text : String) : String :=
  text.pushn ' ' (width - text.length)

end Numeral
end TaskScript
