import TaskScript.Number.Conversion
import TaskScript.Tool.Input

/-!
# Dump — bytes as numbers and names

- `Dump.Kind`   : what bytes are taken for
- `Dump.Format` : how one line of a block is written
- `od`          : prints bytes in blocks, each after its position
-/

namespace TaskScript

open Shell (Machine)

namespace Tool
namespace Dump

/-- What bytes are taken for. -/
inductive Kind
  | signed
  | unsigned
  | octal
  | hexadecimal
  | real
  /-- A character, or an escape for it. -/
  | character
  /-- A character, or its name. -/
  | name
  deriving DecidableEq, Repr

/-- How one line of a block is written. -/
structure Format where
  kind : Kind
  /-- How many bytes make a field. -/
  size : Nat
  /-- Whether the characters of the block follow. -/
  showsText : Bool
  /-- Whether the first byte of a field counts most. -/
  isBigFirst : Bool
  deriving DecidableEq, Repr

/-- How many characters a field takes. -/
def Format.width (f : Format) : Nat :=
  let pick (one two four eight : Nat) : Nat :=
    if f.size = 1 then one else if f.size = 2 then two else if f.size = 4 then four else eight
  match f.kind with
  | .signed => pick 4 6 11 20
  | .unsigned => pick 3 5 10 20
  | .octal => pick 3 6 11 22
  | .hexadecimal => 2 * f.size
  | .real => if f.size = 4 then 15 else 24
  | .character | .name => 3

/-! ## Fields -/

/-- The names of the first characters. -/
def names : List String :=
  ["nul", "soh", "stx", "etx", "eot", "enq", "ack", "bel", "bs", "ht", "nl", "vt", "ff", "cr",
    "so", "si", "dle", "dc1", "dc2", "dc3", "dc4", "nak", "syn", "etb", "can", "em", "sub", "esc",
    "fs", "gs", "rs", "us", "sp"]

/-- The name of a character. -/
def nameOf (code : Nat) : String :=
  let low := code % 128
  if low = 127 then "del" else names.getD low (String.singleton (Char.ofNat low))

/-- A character, or an escape for it. -/
def characterOf (code : Nat) : String :=
  match code with
  | 0 => "\\0"
  | 7 => "\\a"
  | 8 => "\\b"
  | 9 => "\\t"
  | 10 => "\\n"
  | 11 => "\\v"
  | 12 => "\\f"
  | 13 => "\\r"
  | _ =>
    if 32 ≤ code && code ≤ 126 then String.singleton (Char.ofNat code)
    else Numeral.padded 3 '0' (Numeral.inBase 8 code)

/-- The number that some bits stand for: so many of them for the part behind the point, and so many
for the power. -/
def realOf (places power : Nat) (p : Binary.Precision) (bits : Nat) : Binary :=
  let part := bits % Nat.pow 2 places
  let exponent := bits / Nat.pow 2 places % Nat.pow 2 power
  let isNegative := bits / Nat.pow 2 (places + power) % 2 == 1
  let most := Nat.pow 2 power - 1
  if exponent = most then (if part = 0 then .infinite isNegative else .undefined isNegative)
  else
    let mantissa := if exponent = 0 then part else part + Nat.pow 2 places
    let (num, den) := Binary.scaled mantissa 1 (p.least + ((max exponent 1 : Nat) : Int) - 1)
    .ofRatio p isNegative num den

/-- A number with as few digits as tell it from others, from so many on. -/
def shortest (p : Binary.Precision) (n : Binary) : Nat → Nat → String
  | 0, digits => Conversion.ofBinary ⟨[], 0, some digits, 'g'⟩ p n
  | steps + 1, digits =>
    let text := Conversion.ofBinary ⟨[], 0, some digits, 'g'⟩ p n
    if (Binary.read? p text.toList).map Prod.fst == some n then text
    else shortest p n steps (digits + 1)

/-- Numbers of 32 bits. -/
def single : Binary.Precision := ⟨24, -149, 104⟩

/-- A field. -/
def Format.field (f : Format) (bytes : List Char) : String :=
  let code := (if f.isBigFirst then bytes else bytes.reverse).foldl
    (fun n c => n * 256 + c.toNat) 0
  match f.kind with
  | .octal => Numeral.padded f.width '0' (Numeral.inBase 8 code)
  | .hexadecimal => Numeral.padded f.width '0' (Numeral.inBase 16 code)
  | .unsigned => toString code
  | .signed =>
    let span := Nat.pow 256 f.size
    toString (if 2 * code < span then (code : Int) else (code : Int) - span)
  | .real =>
    if f.size = 4 then shortest single (realOf 23 8 single code) 3 6
    else shortest .double (realOf 52 11 .double code) 2 15
  | .character => characterOf code
  | .name => nameOf code

/-! ## Lines -/

/-- How input is dumped. -/
structure Style where
  formats : List Format
  /-- How many bytes make a block. -/
  block : Nat
  /-- The base of positions, and how many digits they have; nothing if they are not told. -/
  address : Option (Nat × Nat)
  /-- Whether blocks that repeat the one before are printed. -/
  showsAll : Bool
  deriving Repr

namespace Style

/-- A position. -/
def position (s : Style) (n : Nat) : String :=
  match s.address with
  | some (base, digits) => Numeral.padded digits '0' (Numeral.inBase base n)
  | none => ""

/-- How wide the lines of a block are. -/
def width (s : Style) : Nat :=
  s.formats.foldl (fun w f => max w ((f.width + 1) * (s.block / f.size))) 0

/-- The fields of a line, so many of them, with blanks that fill it evenly. -/
def fields (f : Format) (total pad : Nat) : Nat → List Char → List Char
  | 0, _ => []
  | left + 1, bytes =>
    if bytes.isEmpty then []
    else
      let before := pad * (left + 1) / total - pad * left / total
      (Numeral.padded (before + f.width) ' ' (f.field (bytes.take f.size))).toList ++
        fields f total pad left (bytes.drop f.size)

/-- The characters of a block. -/
def text (bytes : List Char) : List Char :=
  "  >".toList ++ bytes.map (fun c => if Quoting.isVisible c then c else '.') ++ ['<']

/-- One line of a block. -/
def line (s : Style) (f : Format) (bytes : List Char) : List Char :=
  let total := s.block / f.size
  let pad := s.width - f.width * total
  let used := (bytes.length + f.size - 1) / f.size
  let whole := bytes ++ List.replicate (used * f.size - bytes.length) '\x00'
  let found := fields f total pad total whole
  let blank := total - used
  let ending := if f.showsText then
      List.replicate (f.width * blank + pad * blank / total) ' ' ++ text bytes
    else []
  found ++ ending ++ ['\n']

/-- A block. -/
def lines (s : Style) (position : Nat) (bytes : List Char) : List Char :=
  let start := s.position position
  let blanks := String.ofList (List.replicate start.length ' ')
  (s.formats.zipIdx.map fun (f, index) =>
    (if index = 0 then start else blanks).toList ++ s.line f bytes).flatten

/-- All blocks from a position on; `before` is the block before and whether it was repeated already,
and `steps` is more than the number of blocks. -/
def blocks (s : Style) : Nat → Nat → List Char → Bool → List Char → List (List Char)
  | 0, _, _, _, _ => []
  | steps + 1, position, before, isRepeated, bytes =>
    if bytes.isEmpty then
      [if s.address.isSome then (s.position position).toList ++ ['\n'] else []]
    else
      let block := bytes.take s.block
      let rest := bytes.drop s.block
      let next := position + block.length
      if !s.showsAll && block.length == s.block && block == before then
        let mark := if isRepeated then [] else ['*', '\n']
        mark :: s.blocks steps next block true rest
      else s.lines position block :: s.blocks steps next block false rest

end Style

/-! ## Options -/

/-- The size that a letter or digits name. -/
def sizeOf (kind : Kind) (text : List Char) : Except Nat (Nat × List Char) :=
  let letters := if kind = .real then [('F', 4), ('D', 8), ('L', 8)]
    else [('C', 1), ('S', 2), ('I', 4), ('L', 8)]
  let known := if kind = .real then [4, 8] else [1, 2, 4, 8]
  match text with
  | c :: rest =>
    match letters.lookup c with
    | some size => .ok (size, rest)
    | none =>
      let (digits, rest) := Numeral.digits 10 text
      if digits.isEmpty then .ok (if kind = .real then 8 else 4, text)
      else
        let size := Numeral.ofDigits 10 digits
        if known.contains size then .ok (size, rest) else .error size
  | [] => .ok (if kind = .real then 8 else 4, [])

/-- The formats that a text names, or what is wrong with it; `steps` is more than its length. -/
def readTypes (whole : String) : Nat → List Char → Except String (List Format)
  | 0, _ => .ok []
  | _, [] => .ok []
  | steps + 1, c :: rest =>
    let quoted := Quoting.plain whole
    let kind? : Option Kind := [('d', Kind.signed), ('u', .unsigned), ('o', .octal),
      ('x', .hexadecimal), ('f', .real), ('c', .character), ('a', .name)].lookup c
    match kind? with
    | none =>
      .error ("invalid character '" ++ String.singleton c ++ "' in type string " ++ quoted)
    | some kind =>
      let sized := if kind = .character || kind = .name then .ok (1, rest) else sizeOf kind rest
      match sized with
      | .error size =>
        .error ("invalid type string " ++ quoted ++ ";\nthis system doesn't provide a " ++
          toString size ++ "-byte " ++
          (if kind = .real then "floating point" else "integral") ++ " type")
      | .ok (size, rest) =>
        let (showsText, rest) := match rest with
          | 'z' :: rest => (true, rest)
          | _ => (false, rest)
        (readTypes whole steps rest).map (⟨kind, size, showsText, false⟩ :: ·)

/-- The types that old options stand for. -/
def oldTypes : List (String × String) :=
  [("a", "a"), ("b", "o1"), ("c", "c"), ("d", "u2"), ("D", "u4"), ("e", "fD"), ("f", "fF"),
    ("F", "fD"), ("h", "x2"), ("H", "x4"), ("i", "dI"), ("I", "dL"), ("l", "dL"), ("o", "o2"),
    ("B", "o2"), ("O", "o4"), ("s", "d2"), ("x", "x2"), ("X", "x4")]

/-- The options of `od`. -/
def choices : List Options.Choice :=
  [.valued 'A' "address-radix", .valued 'j' "skip-bytes", .valued 'N' "read-bytes",
    ⟨"S", some 'S', none, .value⟩, .synonym "S" "strings" .perhaps, .valued 't' "format",
    .flag 'v' "output-duplicates",
    .optional 'w' "width", .wordy none "endian" true [["little"], ["big"]]] ++
    oldTypes.map fun t => ⟨t.1, some (t.1.toList.headD 'a'), none, .nothing⟩

/-- The formats that options ask for. -/
def formatsOf (o : Options.Reading) : Except String (List Format) := do
  let wanted := o.found.filterMap fun option =>
    if option.1 == "t" then some option.2 else oldTypes.lookup option.1
  let formats ← (if wanted.isEmpty then ["o2"] else wanted).mapM fun text =>
    readTypes text (text.length + 1) text.toList
  return formats.flatten.map fun f => { f with isBigFirst := o.value? "endian" == some "big" }

/-- A number that an option is given. -/
def numberOf (o : Options.Reading) (key : String) : Except String (Option Nat) :=
  match o.value? key with
  | none => .ok none
  | some text => (Quantity.argument ("-" ++ key) none Quantity.usualLetters text).map some

/-- The base of positions and the number of their digits. -/
def addressOf (o : Options.Reading) : Except String (Option (Nat × Nat)) :=
  match o.value? "A" with
  | none => .ok (some (8, 7))
  | some text =>
    match text.toList.head? with
    | some 'o' => .ok (some (8, 7))
    | some 'd' => .ok (some (10, 7))
    | some 'x' => .ok (some (16, 6))
    | some 'n' => .ok none
    | other => .error ("invalid output address radix '" ++
        (match other with | some c => String.singleton c | none => "") ++
        "'; it must be one character from [doxn]")

/-- The texts of at least so many visible characters that end with NUL, each after its position. -/
def strings (s : Style) (least : Nat) : Nat → Nat → List Char → List Char
  | 0, _, _ => []
  | steps + 1, position, bytes =>
    let found := bytes.takeWhile Quoting.isVisible
    let rest := bytes.drop found.length
    match rest with
    | [] => []
    | c :: rest =>
      let next := position + found.length + 1
      if c == '\x00' && least ≤ found.length then
        let start := s.position position
        (if start.isEmpty then "" else start ++ " ").toList ++ found ++
          '\n' :: strings s least steps next rest
      else strings s least steps next rest

/-- So many bytes of what inputs hold together; what follows them is left to others. -/
def readSome (count : Nat) (names : List String) (m : Machine) : List Char × Machine :=
  let (pieces, _, m) := names.foldl (fun (pieces, left, m) name =>
    if left = 0 && !pieces.isEmpty then (pieces, left, m)
    else
      match openInput name m with
      | .error cause => (pieces, left, failOn name cause m)
      | .ok (place, m) =>
        match m.world.availableUpTo place (some left) with
        | .error cause => (pieces, left, failOn name cause m)
        | .ok bytes =>
          (Octets.charsOf bytes :: pieces, left - bytes.size,
            { m with world := m.world.advance place bytes.size }))
    (([] : List (List Char)), count, m)
  (pieces.reverse.flatten, m)

/-- The least number of bytes of which all formats make full fields. -/
def commonSize (formats : List Format) : Nat := formats.foldl (fun n f => Nat.lcm n f.size) 1

end Dump

/-- Print bytes in blocks, each after its position. -/
def od : Tool :=
  byOptions Dump.choices fun o m =>
    let settings : Except String _ := do
      let address ← Dump.addressOf o
      let skipped ← Dump.numberOf o "j"
      let limit ← Dump.numberOf o "N"
      let least ← Dump.numberOf o "S"
      let formats ← Dump.formatsOf o
      let width ← match o.value? "w" with
        | none => Except.ok none
        | some "" => Except.ok (some 32)
        | some text => (Quantity.argument "-w" (some 10) "" text).map some
      return (address, skipped.getD 0, limit, least.getD 3, formats, width)
    match settings with
    | .error message => fail message m
    | .ok (address, skipped, limit, least, formats, width?) =>
        let common := Dump.commonSize formats
        let usual := if common < 16 then common * (16 / common) else common
        let (block, m) := match width? with
          | some width =>
            if width != 0 && width % common = 0 then (width, m)
            else (common, object ("warning: invalid width " ++ toString width ++
              "; using " ++ toString common ++ " instead") m)
          | none => (usual, m)
        let isAnyOpen := (orStandard o.operands).any fun name => (openInput name m).toOption.isSome
        let (bytes, m) := match limit with
          | some n => Dump.readSome (skipped + n) (orStandard o.operands) m
          | none => readInputs o.operands m
        if !isAnyOpen then m
        else if bytes.length < skipped then
          fail "cannot skip past end of combined input" m
        else
          let bytes := bytes.drop skipped
          let bytes := match limit with
            | some n => bytes.take n
            | none => bytes
          let style : Dump.Style := ⟨formats, block, address, o.has "v"⟩
          if o.has "S" then
            m.printChars (Dump.strings style least (bytes.length + 1) skipped bytes)
          else
            m.printChars (style.blocks (bytes.length + 2) skipped [] false bytes).flatten

end Tool
end TaskScript
