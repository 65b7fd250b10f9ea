import TaskScript.Number.Binary
import TaskScript.Text.Order
import TaskScript.Tool.Input

/-!
# Sorting — lines in order

`sort` prints the lines of inputs in order.  Lines are compared by keys, parts of them that are
taken in one of several ways, and at last as a whole.

- `Sorting.Key`     : where a key stands in a line, and how keys are compared
- `Sorting.compare` : the order of lines
- `sort`            : the tool
-/

namespace TaskScript

open Shell (Machine)

namespace Tool
namespace Sorting

/-- How keys are compared, by letters: `n` and `g` tell that they are taken for numbers, `d` what is
passed over in them, `f` that the case does not matter, `r` that the order is reversed. -/
abbrev Letters := List Char

/-- Where a key stands, and how it is compared. -/
structure Key where
  /-- How many fields, and characters after them, are passed over before its start. -/
  field : Nat
  offset : Nat
  /-- The field in which it ends, and after how many characters of it, or none for all. -/
  last? : Option (Nat × Nat)
  /-- Whether blanks are passed over at its start, and at the start of its last field. -/
  skipsStart : Bool
  skipsEnd : Bool
  letters : Letters

namespace Key

/-- Whether nothing is said on how a key is compared. -/
def isUsual (k : Key) : Bool := k.letters.isEmpty && !k.skipsStart && !k.skipsEnd

/-- Whether a character is a blank between fields. -/
def isBlank (c : Char) : Bool := c == ' ' || c == '\t' || c == '\n'

/-- What follows so many fields. -/
def afterFields (tab : Option Char) : Nat → List Char → List Char
  | 0, text => text
  | count + 1, text =>
    match tab with
    | some tab => afterFields (some tab) count ((text.dropWhile (· != tab)).drop 1)
    | none =>
      afterFields none count ((text.dropWhile isBlank).dropWhile fun c => !isBlank c)

/-- What follows the last field of a key. -/
def afterLast (tab : Option Char) (field count : Nat) (skips : Bool) (text : List Char) :
    List Char :=
  if count = 0 then
    match tab with
    | some tab => (afterFields (some tab) (field - 1) text).dropWhile (· != tab)
    | none => afterFields none field text
  else
    let rest := afterFields tab (field - 1) text
    (if skips then rest.dropWhile isBlank else rest).drop count

/-- The key of a line. -/
def of (k : Key) (tab : Option Char) (line : List Char) : List Char :=
  let rest := afterFields tab k.field line
  let rest := (if k.skipsStart then rest.dropWhile isBlank else rest).drop k.offset
  match k.last? with
  | none => rest
  | some (field, count) =>
    rest.take (rest.length - (afterLast tab field count k.skipsEnd line).length)

end Key

/-! ## Comparing -/

/-- The order of numbers in floating point; what is none comes first. -/
def general (a b : List Char) : Ordering :=
  let value (text : List Char) : Nat × Int × Nat :=
    match Binary.read? .extended text with
    | none => (0, 0, 1)
    | some (.undefined _, _) => (1, 0, 1)
    | some (.infinite true, _) => (2, 0, 1)
    | some (.infinite false, _) => (4, 0, 1)
    | some (.finite negative mantissa exponent, _) =>
      let q := Binary.ratio mantissa exponent
      (3, if negative then -(q.1 : Int) else q.1, q.2)
  let (kind, num, den) := value a
  let (kind', num', den') := value b
  (Ord.compare kind kind').then (Ord.compare (num * den') (num' * den))

/-- The order of two keys. -/
def compareKeys (letters : Letters) (a b : List Char) : Ordering :=
  let has (c : Char) : Bool := letters.contains c
  let number (text : List Char) : Order.Digits := .read (text.dropWhile Key.isBlank)
  let order :=
    if has 'n' then Order.digits (number a) (number b)
    else if has 'g' then general a b
    else
      let kept (text : List Char) : List Char :=
        let text :=
          if has 'd' then text.filter fun c => c.isAlphanum || Key.isBlank c else text
        if has 'f' then text.map Char.toUpper else text
      Order.octets (kept a) (kept b)
  if has 'r' then order.swap else order

/-- How lines are compared. -/
structure Comparison where
  keys : List Key
  tab : Option Char
  isReversed : Bool
  /-- Whether lines with the same keys count as equal. -/
  byKeysOnly : Bool

/-- The order of two lines by their keys. -/
def Comparison.byKeys (c : Comparison) (a b : List Char) : Ordering :=
  c.keys.foldl (fun order k =>
    order.then (compareKeys k.letters (k.of c.tab a) (k.of c.tab b))) .eq

/-- The order of two lines. -/
def Comparison.compare (c : Comparison) (a b : List Char) : Ordering :=
  let order := if c.keys.isEmpty then .eq else c.byKeys a b
  if order != .eq then order
  else if c.byKeysOnly && !c.keys.isEmpty then .eq
  else
    let whole := Order.octets a b
    if c.isReversed then whole.swap else whole

/-! ## Reading keys -/

/-- The complaint about a part of a key. -/
def malformed (what text : String) : String :=
  what ++ ": invalid field specification " ++ Quoting.plain text

/-- The number at the start of a part of a key, and what follows. -/
def count (what : String) (text : List Char) : Except String (Nat × List Char) :=
  let (digits, rest) := Numeral.digits 10 text
  if digits.isEmpty then
    .error (what ++ ": invalid count at start of " ++ Quoting.plain (String.ofList text))
  else .ok (Numeral.ofDigits 10 digits, rest)

/-- The letters of how keys are compared. -/
def orderLetters : List Char := "bdfgnr".toList

/-- The key that a text describes. -/
def readKey (text : String) : Except String Key := do
  let (field, rest) ← count "invalid number at field start" text.toList
  if field = 0 then throw (malformed "field number is zero" text)
  let (offset, rest) ← match rest with
    | '.' :: rest => do
      let (n, rest) ← count "invalid number after '.'" rest
      if n = 0 then throw (malformed "character offset is zero" text)
      pure (n - 1, rest)
    | _ => pure (0, rest)
  let (first, rest) := rest.span (orderLetters.contains ·)
  let (last?, second, rest) ← match rest with
    | ',' :: rest => do
      let (last, rest) ← count "invalid number after ','" rest
      if last = 0 then throw (malformed "field number is zero" text)
      let (n, rest) ← match rest with
        | '.' :: rest => count "invalid number after '.'" rest
        | _ => pure (0, rest)
      let (letters, rest) := rest.span (orderLetters.contains ·)
      pure (some (last, n), letters, rest)
    | _ => pure (none, [], rest)
  if !rest.isEmpty then throw (malformed "stray character in field spec" text)
  return { field := field - 1, offset, last?
           skipsStart := first.contains 'b', skipsEnd := second.contains 'b'
           letters := (first ++ second).filter (· != 'b') }

/-- Letters that cannot go together, if there are such. -/
def conflict? (letters : Letters) : Option String :=
  let others := if letters.contains 'd' then 1 else 0
  if 1 < ['n', 'g'].countP letters.contains + others then
    some ("options '-" ++ String.ofList ("dfgn".toList.filter (letters.contains ·)) ++
      "' are incompatible")
  else none

/-- The field separator that a text names. -/
def readTab (text : String) : Except String Char :=
  match text.toList with
  | [] => .error "empty tab"
  | [c] => .ok c
  | ['\\', '0'] => .ok '\x00'
  | _ => .error ("multi-character tab " ++ Quoting.plain text)

/-- How lines are compared as options ask for. -/
def comparison (o : Options.Reading) : Except String Comparison := do
  let letters := o.found.filterMap fun option =>
    match option.1.toList with
    | [c] => if orderLetters.contains c && c != 'b' then some c else none
    | _ => none
  let tab ← match o.value? "t" with
    | some text => (readTab text).map some
    | none => pure none
  let keys ← (o.values "k").mapM readKey
  let all : Key :=
    { field := 0, offset := 0, last? := none, skipsStart := o.has "b", skipsEnd := o.has "b"
      letters }
  let keys := keys.map fun k =>
    if k.isUsual then
      { k with letters, skipsStart := all.skipsStart, skipsEnd := all.skipsEnd }
    else k
  let keys := if keys.isEmpty && (!(letters.filter (· != 'r')).isEmpty || all.skipsStart)
    then [all] else keys
  match (keys.filterMap fun k => conflict? k.letters).head? with
  | some message => throw message
  | none =>
    return { keys, tab, isReversed := o.has "r", byKeysOnly := o.has "u" || o.has "s" }

/-! ## The tool -/

/-- Lines without those that are equal to the line before. -/
def unique (same : List Char → List Char → Bool) (lines : List (List Char)) : List (List Char) :=
  (lines.foldl (fun (reversed : List (List Char)) line =>
    match reversed with
    | before :: _ => if same before line then reversed else line :: reversed
    | [] => [line]) []).reverse

/-- The options of `sort`. -/
def choices : List Options.Choice :=
  [.flag 'b' "ignore-leading-blanks", .flag 'd' "dictionary-order", .flag 'f' "ignore-case",
    .flag 'g' "general-numeric-sort", .flag 'n' "numeric-sort", .flag 'r' "reverse",
    .flag 's' "stable", .flag 'u' "unique", .valued 'k' "key", .valued 'o' "output",
    .valued 't' "field-separator"]

/-- The lines of inputs, or a complaint. -/
def linesOf (names : List String) (m : Machine) : Except Machine (List (List Char) × Machine) :=
  names.foldlM (fun (lines, m) name =>
    match openInput name m with
    | .error cause =>
      .error (failWith 2 ("cannot read: " ++ Quoting.needed name ++ ": " ++ cause.reason) m)
    | .ok (place, m) =>
      match readPlace place m with
      | (.ok chars, m) => .ok (lines ++ (Lines.read '\n' chars).lines, m)
      | (.error cause, m) =>
        .error (failWith 2 ("read failed: " ++ Quoting.needed name ++ ": " ++ cause.reason) m))
    ([], m)

end Sorting

/-- Print the lines of inputs in order. -/
def sort : Tool :=
  byOptionsAt 2 false Sorting.choices fun o m =>
    match Sorting.comparison o, Sorting.linesOf (orStandard o.operands) m with
    | .error message, _ => failWith 2 message m
    | .ok _, .error m => m
    | .ok comparison, .ok (lines, m) =>
      let sorted := lines.mergeSort fun a b => Order.isSorted (comparison.compare a b)
      let kept := if o.has "u" then
          Sorting.unique (fun a b => comparison.compare a b == .eq) sorted
        else sorted
      let text := Lines.joined '\n' kept
      match o.value? "o" with
      | none => m.printChars text
      | some name =>
        match m.openToWrite (Machine.pathOf name) ⟨true, true, false⟩ false false with
        | .error cause =>
          failWith 2 ("open failed: " ++ Quoting.needed name ++ ": " ++ cause.reason) m
        | .ok (place, m) =>
          match m.world.write place (Octets.bytesOf text) with
          | .ok world => { m with world }
          | .error cause =>
            failWith 2 ("write failed: " ++ Quoting.needed name ++ ": " ++ cause.reason) m

end Tool
end TaskScript
