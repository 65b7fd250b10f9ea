/-!
# Sum — a short sum over texts

`Digest.redundancy` is the remainder of a text and its length, taken as polynomials.
-/

namespace TaskScript
namespace Digest

/-- The polynomial by which texts are divided. -/
def polynomial : UInt32 := 0x04c11db7

/-- A remainder after one more bit. -/
def shiftBit (r : UInt32) : UInt32 :=
  if r &&& 0x80000000 != 0 then (r <<< 1) ^^^ polynomial else r <<< 1

/-- A remainder after one more byte. -/
def addByte (r : UInt32) (b : UInt8) : UInt32 :=
  (List.range 8).foldl (fun r _ => shiftBit r) (r ^^^ (b.toUInt32 <<< 24))

/-- The bytes of a number as far as they are needed, the last one first. -/
def lengthBytes : Nat → Nat → List UInt8
  | 0, _ => []
  | steps + 1, n => if n = 0 then [] else UInt8.ofNat (n % 256) :: lengthBytes steps (n / 256)

/-- The remainder of a text and its length. -/
def redundancy (text : ByteArray) : UInt32 :=
  ~~~((lengthBytes 8 text.size).foldl addByte (text.foldl addByte 0))

end Digest
end TaskScript
