/-!
# Md5 — digests of 128 bits

Before a digest is taken, a text is lengthened: a bit that is set, bits that are not, and the number
of its bits, so that blocks are full.  Numbers are written with their last byte first.

- `Digest.pad`     : the lengthened text
- `Digest.words32` : blocks of sixteen words of 32 bits
- `Digest.md5`     : the digest of a text
-/

namespace TaskScript
namespace Digest

/-- The bytes of a number, so many of them. -/
def bytesOf (count n : Nat) : List UInt8 :=
  (List.range count).map fun k => UInt8.ofNat (n / Nat.pow 256 k % 256)

/-- The number that bytes stand for. -/
def numberOf (bytes : List UInt8) : Nat :=
  bytes.foldr (fun b n => n * 256 + b.toNat) 0

/-- A text lengthened to full blocks of 64 bytes, with its length at the end. -/
def pad (text : ByteArray) : ByteArray :=
  let zeros := (119 - text.size % 64) % 64
  let ending := 0x80 :: (List.replicate zeros 0 ++ bytesOf 8 (8 * text.size))
  text ++ ⟨ending.toArray⟩

/-- The words of 32 bits of a text, in blocks of sixteen. -/
def words32 (text : ByteArray) : List (Array UInt32) :=
  (List.range (text.size / 64)).map fun block =>
    ((List.range 16).map fun word =>
      let start := block * 64 + word * 4
      UInt32.ofNat (numberOf (text.extract start (start + 4)).data.toList)).toArray

/-- A word with its bits turned to the left. -/
def turnLeft (word turn : UInt32) : UInt32 := (word <<< turn) ||| (word >>> (32 - turn))

/-- Bytes in hexadecimal digits. -/
def hexadecimal (bytes : List UInt8) : String :=
  String.ofList (bytes.flatMap fun b =>
    [Nat.digitChar (b.toNat / 16), Nat.digitChar (b.toNat % 16)])

namespace Md5

/-- The constants of the steps: the sines of the first numbers, without signs. -/
def constants : Array UInt32 :=
  #[0xd76aa478, 0xe8c7b756, 0x242070db, 0xc1bdceee, 0xf57c0faf, 0x4787c62a, 0xa8304613,
    0xfd469501, 0x698098d8, 0x8b44f7af, 0xffff5bb1, 0x895cd7be, 0x6b901122, 0xfd987193,
    0xa679438e, 0x49b40821, 0xf61e2562, 0xc040b340, 0x265e5a51, 0xe9b6c7aa, 0xd62f105d,
    0x02441453, 0xd8a1e681, 0xe7d3fbc8, 0x21e1cde6, 0xc33707d6, 0xf4d50d87, 0x455a14ed,
    0xa9e3e905, 0xfcefa3f8, 0x676f02d9, 0x8d2a4c8a, 0xfffa3942, 0x8771f681, 0x6d9d6122,
    0xfde5380c, 0xa4beea44, 0x4bdecfa9, 0xf6bb4b60, 0xbebfbc70, 0x289b7ec6, 0xeaa127fa,
    0xd4ef3085, 0x04881d05, 0xd9d4d039, 0xe6db99e5, 0x1fa27cf8, 0xc4ac5665, 0xf4292244,
    0x432aff97, 0xab9423a7, 0xfc93a039, 0x655b59c3, 0x8f0ccc92, 0xffeff47d, 0x85845dd1,
    0x6fa87e4f, 0xfe2ce6e0, 0xa3014314, 0x4e0811a1, 0xf7537e82, 0xbd3af235, 0x2ad7d2bb,
    0xeb86d391]

/-- How far words are turned, for the steps of each round. -/
def turns : Array (Array UInt32) :=
  #[#[7, 12, 17, 22], #[5, 9, 14, 20], #[4, 11, 16, 23], #[6, 10, 15, 21]]

/-- Four words that stand for all that was read. -/
structure State where
  a : UInt32
  b : UInt32
  c : UInt32
  d : UInt32

/-- The state before anything was read. -/
def start : State := ⟨0x67452301, 0xefcdab89, 0x98badcfe, 0x10325476⟩

/-- One of 64 steps with the words of a block. -/
def step (words : Array UInt32) (s : State) (number : Nat) : State :=
  let round := number / 16
  let (mixed, index) := match round with
    | 0 => ((s.b &&& s.c) ||| (~~~s.b &&& s.d), number)
    | 1 => ((s.d &&& s.b) ||| (~~~s.d &&& s.c), (5 * number + 1) % 16)
    | 2 => (s.b ^^^ s.c ^^^ s.d, (3 * number + 5) % 16)
    | _ => (s.c ^^^ (s.b ||| ~~~s.d), 7 * number % 16)
  let sum := mixed + s.a + constants.getD number 0 + words.getD index 0
  let turn := (turns.getD round #[]).getD (number % 4) 0
  ⟨s.d, s.b + turnLeft sum turn, s.b, s.c⟩

/-- Read a block. -/
def block (s : State) (words : Array UInt32) : State :=
  let after := (List.range 64).foldl (step words) s
  ⟨s.a + after.a, s.b + after.b, s.c + after.c, s.d + after.d⟩

end Md5

/-- The digest of a text, in bytes. -/
def md5 (text : ByteArray) : List UInt8 :=
  let state := (words32 (pad text)).foldl Md5.block Md5.start
  [state.a, state.b, state.c, state.d].flatMap fun word => bytesOf 4 word.toNat

end Digest
end TaskScript
