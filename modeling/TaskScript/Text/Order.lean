/-!
# Order — orders of texts

- `Order.octets` : by their characters
- `Order.digits` : digits before and after a point, by the number that they stand for
-/

namespace TaskScript
namespace Order

/-- Texts by their characters. -/
def octets : List Char → List Char → Ordering
  | [], [] => .eq
  | [], _ :: _ => .lt
  | _ :: _, [] => .gt
  | c :: rest, d :: rest' => if c = d then octets rest rest' else compare c.toNat d.toNat

/-- Whether a text is not after another one. -/
def isSorted (order : Ordering) : Bool := order != .gt

/-- Digits before and after a point. -/
structure Digits where
  isNegative : Bool
  whole : List Char
  places : List Char
  deriving DecidableEq, Repr

/-- Whether digits stand for zero. -/
def Digits.isZero (d : Digits) : Bool := d.whole.isEmpty && d.places.isEmpty

/-- The digits of a number without zeros that mean nothing. -/
def Digits.trim (d : Digits) : Digits :=
  { d with
    whole := d.whole.dropWhile (· == '0')
    places := (d.places.reverse.dropWhile (· == '0')).reverse }

/-- The digits at the start of a text, after a sign. -/
def Digits.read (text : List Char) : Digits :=
  let (isNegative, text) := match text with
    | '-' :: rest => (true, rest)
    | _ => (false, text)
  let whole := text.takeWhile Char.isDigit
  let places := match text.drop whole.length with
    | '.' :: rest => rest.takeWhile Char.isDigit
    | _ => []
  Digits.trim ⟨isNegative, whole, places⟩

/-- Digits by the absolute value of the number that they stand for. -/
def magnitudes (a b : Digits) : Ordering :=
  ((compare a.whole.length b.whole.length).then (octets a.whole b.whole)).then
    (octets a.places b.places)

/-- Digits by the number that they stand for. -/
def digits (a b : Digits) : Ordering :=
  match a.isNegative && !a.isZero, b.isNegative && !b.isZero with
  | true, true => magnitudes b a
  | true, false => .lt
  | false, true => .gt
  | false, false => magnitudes a b

end Order
end TaskScript
