import TaskScript.Number.Binary

/-!
# Conversion — numbers and texts as formats print them

A conversion has flags, a width, a precision and a kind.  `Conversion.read` finds one after a
percent sign; `Conversion.ofText`, `Conversion.ofInt` and `Conversion.ofBinary` print what it asks
for.
-/

namespace TaskScript

/-- How something is printed. -/
structure Conversion where
  flags : List Char
  width : Nat
  precision? : Option Nat
  kind : Char
  deriving DecidableEq, Repr

namespace Conversion

/-- Whether a conversion has a flag. -/
def has (c : Conversion) (flag : Char) : Bool := c.flags.contains flag

/-- A text filled up to the width with blanks. -/
def padded (c : Conversion) (text : String) : String :=
  if c.has '-' then Numeral.filled c.width text else Numeral.padded c.width ' ' text

/-- Digits after a sign, filled up to the width; with zeros if that is asked for and possible. -/
def signed (c : Conversion) (zeros : Bool) (sign digits : String) : String :=
  if zeros && c.has '0' && !c.has '-' then
    sign ++ Numeral.padded (c.width - sign.length) '0' digits
  else c.padded (sign ++ digits)

/-- A text, cut after the precision. -/
def ofText (c : Conversion) (text : String) : String :=
  c.padded (match c.precision? with
    | some p => String.ofList (text.toList.take p)
    | none => text)

/-- The sign that stands before a number. -/
def sign (c : Conversion) (negative : Bool) : String :=
  if negative then "-" else if c.has '+' then "+" else if c.has ' ' then " " else ""

/-- Digits with at least as many of them as the precision asks for. -/
def precise (c : Conversion) (digits : String) : String :=
  match c.precision? with
  | some p => if p = 0 && digits == "0" then "" else Numeral.padded p '0' digits
  | none => digits

/-- A whole number; one without a sign is below zero if its 64 bits are taken with a sign. -/
def ofInt (c : Conversion) (n : Int) : String :=
  let zeros := c.precision?.isNone
  let natural := if n < 0 then (n + 18446744073709551616).toNat else n.toNat
  match c.kind with
  | 'o' =>
    let digits := c.precise (Numeral.inBase 8 natural)
    c.signed zeros "" (if c.has '#' && !digits.startsWith "0" then "0" ++ digits else digits)
  | 'x' =>
    c.signed zeros (if c.has '#' && natural != 0 then "0x" else "")
      (c.precise (Numeral.inBase 16 natural))
  | 'X' =>
    c.signed zeros (if c.has '#' && natural != 0 then "0X" else "")
      (c.precise (Numeral.inBase 16 natural).toUpper)
  | 'u' => c.signed zeros "" (c.precise (toString natural))
  | _ => c.signed zeros (c.sign (n < 0)) (c.precise (toString n.natAbs))

/-- A number with decimal places or a power; hexadecimal digits are those of a precision. -/
def ofBinary (c : Conversion) (p : Binary.Precision) (n : Binary) : String :=
  let places := c.precision?.getD 6
  let always := c.has '#'
  let digits := match c.kind.toLower with
    | 'f' => n.written (Binary.fixedRatio places always)
    | 'e' => n.written (Binary.scientificRatio places always)
    | 'a' => n.hexadecimal p c.precision? always
    | _ => n.written (Binary.generalRatio places always)
  let digits := if c.kind.isUpper then digits.toUpper else digits
  let isFinite := match n with
    | .finite .. => true
    | _ => false
  if c.kind.toLower == 'a' && isFinite then
    c.signed true (c.sign n.isNegative ++ String.ofList (digits.toList.take 2))
      (String.ofList (digits.toList.drop 2))
  else c.signed isFinite (c.sign n.isNegative) digits

/-- A width or a precision: a number, or one that is taken from the arguments. -/
inductive Size
  | none
  | given (n : Nat)
  | asked
  deriving DecidableEq, Repr

/-- A conversion whose width and precision may still have to be taken from the arguments. -/
structure Pattern where
  flags : List Char
  width : Size
  precision : Size
  deriving DecidableEq, Repr

/-- The size at the start of a text, and what follows. -/
def readSize (text : List Char) : Size × List Char :=
  match text with
  | '*' :: rest => (.asked, rest)
  | _ =>
    let found := Numeral.digits 10 text
    if found.1.isEmpty then (.none, text) else (.given (Numeral.ofDigits 10 found.1), found.2)

/-- What stands between a percent sign and the letter of a conversion, and what follows. -/
def read (text : List Char) : Pattern × List Char :=
  let flags := text.takeWhile ("-+ 0#".toList.contains ·)
  let (width, rest) := readSize (text.drop flags.length)
  match rest with
  | '.' :: rest =>
    let (precision, rest) := readSize rest
    (⟨flags, width, if precision == .none then .given 0 else precision⟩, rest)
  | _ => (⟨flags, width, .none⟩, rest)

/-- The conversion of a pattern, given the numbers that are taken from the arguments. -/
def ofPattern (pattern : Pattern) (width precision : Int) (kind : Char) : Conversion :=
  let (flags, width) := match pattern.width with
    | .none => (pattern.flags, 0)
    | .given n => (pattern.flags, n)
    | .asked => (if width < 0 then '-' :: pattern.flags else pattern.flags, width.natAbs)
  let precision? := match pattern.precision with
    | .none => none
    | .given n => some n
    | .asked => if precision < 0 then none else some precision.toNat
  ⟨flags, width, precision?, kind⟩

end Conversion
end TaskScript
