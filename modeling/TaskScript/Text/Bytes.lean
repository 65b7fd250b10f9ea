/-!
# Bytes — bytes as lines, as text and as octets

- `Text.byteLines` : bytes cut into lines
- `Text.lossy`     : bytes read as UTF-8, whatever they are

Where bytes are no UTF-8, the longest part that could begin a character is replaced by U+FFFD, or a
single byte if there is no such part.

Programs that know nothing of encodings see a text as bytes.  In a text of octets each character
has a code below 256 and stands for the byte of that value, so that lengths, positions and the order
of characters are those of bytes.

- `Octets.ofString`, `Octets.toString` : from and to ordinary texts
- `Octets.ofBytes`, `Octets.toBytes`   : from and to bytes
- `Octets.shellText`                   : bytes as a shell takes them
-/

namespace TaskScript
namespace Text

/-! ## Lines -/

/-- The byte that ends a line. -/
def lineEnd : UInt8 := 10

/-- Cut bytes into lines.  A line reaches up to its line end, which belongs to it; the last one may
lack it. -/
def byteLines (bytes : List UInt8) : List (List UInt8) :=
  bytes.foldr (fun b later =>
    if b == lineEnd then [b] :: later
    else
      match later with
      | line :: more => (b :: line) :: more
      | [] => [[b]]) []

/-! ## Text -/

/-- What stands for bytes that are no text. -/
def replacement : Char := '\ufffd'

/-- Whether a byte continues a character. -/
def continues (b : UInt8) : Bool := 0x80 ≤ b && b ≤ 0xbf

/-- Whether a byte may follow the first byte of a character of three or four bytes.  Overlong forms,
surrogates and values above the last character are left out. -/
def mayFollow (first b : UInt8) : Bool :=
  if first == 0xe0 then 0xa0 ≤ b && b ≤ 0xbf
  else if first == 0xed then 0x80 ≤ b && b ≤ 0x9f
  else if first == 0xf0 then 0x90 ≤ b && b ≤ 0xbf
  else if first == 0xf4 then 0x80 ≤ b && b ≤ 0x8f
  else continues b

/-- The character made of the low bits of its bytes: those of the first byte, then six of each
other. -/
def assemble (first : Nat) (others : List UInt8) : Char :=
  Char.ofNat (others.foldl (fun n b => n * 64 + b.toNat % 64) first)

/-- The character that begins with a byte, given what follows, and how many bytes of that it takes.
-/
def readChar (first : UInt8) (rest : List UInt8) : Char × Nat :=
  if first < 0x80 then
    (Char.ofNat first.toNat, 0)
  else if 0xc2 ≤ first && first ≤ 0xdf then
    match rest with
    | b :: _ => if continues b then (assemble (first.toNat % 32) [b], 1) else (replacement, 0)
    | [] => (replacement, 0)
  else if 0xe0 ≤ first && first ≤ 0xef then
    match rest with
    | b :: c :: _ =>
      if mayFollow first b then
        if continues c then (assemble (first.toNat % 16) [b, c], 2) else (replacement, 1)
      else (replacement, 0)
    | [b] => (replacement, if mayFollow first b then 1 else 0)
    | [] => (replacement, 0)
  else if 0xf0 ≤ first && first ≤ 0xf4 then
    match rest with
    | b :: c :: d :: _ =>
      if mayFollow first b then
        if continues c then
          if continues d then (assemble (first.toNat % 8) [b, c, d], 3) else (replacement, 2)
        else (replacement, 1)
      else (replacement, 0)
    | [b, c] => (replacement, if mayFollow first b then if continues c then 2 else 1 else 0)
    | [b] => (replacement, if mayFollow first b then 1 else 0)
    | [] => (replacement, 0)
  else
    (replacement, 0)

/-- The characters of bytes. -/
def lossyChars : List UInt8 → List Char
  | [] => []
  | first :: rest =>
    let read := readChar first rest
    read.1 :: lossyChars (rest.drop read.2)
termination_by bytes => bytes.length
decreasing_by
  simp only [List.length_drop, List.length_cons]
  omega

/-- Bytes as a text. -/
def lossy (bytes : ByteArray) : String :=
  match String.fromUTF8? bytes with
  | some text => text
  | none => String.ofList (lossyChars bytes.data.toList)

end Text

/-! ## Octets -/

namespace Octets

/-- The character that stands for a byte. -/
def ofByte (b : UInt8) : Char := Char.ofNat b.toNat

/-- The byte that a character stands for. -/
def toByte (c : Char) : UInt8 := UInt8.ofNat c.toNat

/-- The characters that stand for bytes. -/
def charsOf (bytes : ByteArray) : List Char := bytes.data.toList.map ofByte

/-- The bytes that characters stand for. -/
def bytesOf (chars : List Char) : ByteArray := ⟨(chars.map toByte).toArray⟩

/-- Bytes as a text of octets. -/
def ofBytes (bytes : ByteArray) : String := String.ofList (charsOf bytes)

/-- Bytes as a text of octets that a shell can hold: NUL is left out. -/
def shellText (bytes : ByteArray) : String :=
  String.ofList ((charsOf bytes).filter (· != '\x00'))

/-- The bytes that a text of octets stands for. -/
def toBytes (text : String) : ByteArray := bytesOf text.toList

/-- The octets of a text. -/
def ofString (text : String) : String := ofBytes text.toUTF8

/-- The text that octets spell, whatever they are. -/
def toString (octets : String) : String := Text.lossy (toBytes octets)

/-! ## There and back -/

/-- A character that stands for a byte stands for that byte. -/
@[simp]
theorem toByte_ofByte (b : UInt8) : toByte (ofByte b) = b := by
  have h : b.toNat < 256 := b.toNat_lt
  have valid : b.toNat.isValidChar := by left; omega
  have made : Char.ofNat b.toNat = Char.ofNatAux b.toNat valid := dif_pos valid
  have code : (Char.ofNatAux b.toNat valid).toNat = b.toNat := rfl
  rw [toByte, ofByte, made, code, UInt8.ofNat_toNat]

/-- Characters that stand for bytes stand for those bytes. -/
@[simp]
theorem bytesOf_charsOf (bytes : ByteArray) : bytesOf (charsOf bytes) = bytes := by
  cases bytes with
  | mk data => simp [bytesOf, charsOf, Function.comp_def]

end Octets

end TaskScript
