import TaskScript.Tool.Walk

/-!
# Blocks — copies in blocks, changed on the way

`dd` reads blocks of one size and writes blocks of another one.  It can leave out some of what it
reads, put the rest at some place of what is there, and change letters or lines.
-/

namespace TaskScript

open Shell (Machine)

namespace Tool
namespace Blocks

/-- What is asked for. -/
structure Request where
  source? : Option String
  goal? : Option String
  readSize : Nat
  writeSize : Nat
  /-- The size of lines that are made as long as each other. -/
  lineSize : Nat
  /-- How many bytes are copied. -/
  most? : Option Nat
  /-- How many bytes are left out of what is read. -/
  skipped : Nat
  /-- Where writing begins. -/
  start : Nat
  changes : List String
  appends : Bool
  /-- Whether the numbers of blocks are told, and the number of bytes. -/
  tellsBlocks : Bool
  tellsBytes : Bool

/-! ## Numbers -/

/-- A number with letters for what it is multiplied with. -/
def factor? (text : String) : Option Nat :=
  let number := Quantity.natural? "bcEGkKMPQRTwYZ0"
  match text.toList.reverse with
  | 'B' :: rest =>
    match number text with
    | some n => some n
    | none => if rest.head? == some 'B' then none else number (String.ofList rest.reverse)
  | _ => number text

/-- A number, or a product of numbers. -/
def number? (text : String) : Option Nat :=
  (text.splitOn "x").foldl (fun product? part =>
    match product?, factor? part with
    | some product, some n => some (product * n)
    | _, _ => none) (some 1)

/-- Whether a number counts bytes, and not blocks. -/
def countsBytes (text : String) : Bool := text.endsWith "B"

/-! ## Operands -/

/-- The changes there are. -/
def changeNames : List String :=
  ["ascii", "ebcdic", "ibm", "block", "unblock", "lcase", "ucase", "sparse", "swab", "sync",
    "excl", "nocreat", "notrunc", "noerror", "fdatasync", "fsync"]

/-- The flags there are. -/
def flagNames : List String :=
  ["append", "binary", "cio", "count_bytes", "direct", "directory", "dsync", "fullblock",
    "noatime", "nocache", "noctty", "nofollow", "nolinks", "nonblock", "seek_bytes",
    "skip_bytes", "sync", "text"]

/-- The names of operands that are numbers, and whether these may be zero. -/
def numberNames : List (String × Bool) :=
  [("bs", false), ("ibs", false), ("obs", false), ("cbs", false), ("count", true),
    ("skip", true), ("iseek", true), ("seek", true), ("oseek", true)]

/-- What is wrong with an operand: a complaint, and whether a hint at help follows. -/
def fault? (operand : String) : Option (String × Bool) :=
  match Text.splitOnce? '=' operand.toList with
  | none => some ("unrecognized operand " ++ Quoting.plain operand, true)
  | some (key, value) =>
    let key := String.ofList key
    let value := String.ofList value
    let unknown (known : List String) (what : String) : Option (String × Bool) :=
      ((value.splitOn ",").find? fun name => !known.contains name).map fun name =>
        ("invalid " ++ what ++ ": " ++ Quoting.plain name, true)
    match key with
    | "if" | "of" => none
    | "conv" => unknown changeNames "conversion"
    | "iflag" => unknown flagNames "input flag"
    | "oflag" => unknown flagNames "output flag"
    | "status" => unknown ["none", "noxfer", "progress"] "status level"
    | _ =>
      match numberNames.lookup key with
      | none => some ("unrecognized operand " ++ Quoting.plain operand, true)
      | some mayBeZero =>
        match number? value with
        | some n =>
          if n = 0 && !mayBeZero then some ("invalid number: " ++ Quoting.plain value, false)
          else none
        | none => some ("invalid number: " ++ Quoting.plain value, false)

/-- What operands without faults ask for. -/
def requestOf (operands : List String) : Request :=
  let found := operands.filterMap fun operand =>
    (Text.splitOnce? '=' operand.toList).map fun (key, value) =>
      (String.ofList key, String.ofList value)
  let value? (keys : List String) : Option String :=
    (found.reverse.find? fun o => keys.contains o.1).map Prod.snd
  let words (key : String) : List String :=
    (found.filter fun o => o.1 == key).flatMap fun o => o.2.splitOn ","
  let size (key : String) : Nat :=
    (((value? ["bs"]).orElse fun _ => value? [key]).bind number?).getD 512
  let inBytes (text flag key : String) (block : Nat) : Nat :=
    (number? text).getD 0 * if countsBytes text || (words key).contains flag then 1 else block
  let status := (value? ["status"]).getD ""
  { source? := value? ["if"], goal? := value? ["of"], readSize := size "ibs"
    writeSize := size "obs", lineSize := ((value? ["cbs"]).bind number?).getD 0
    most? := (value? ["count"]).map fun n => inBytes n "count_bytes" "iflag" (size "ibs")
    skipped :=
      (value? ["skip", "iseek"]).elim 0 fun n => inBytes n "skip_bytes" "iflag" (size "ibs")
    start :=
      (value? ["seek", "oseek"]).elim 0 fun n => inBytes n "seek_bytes" "oflag" (size "obs")
    changes := words "conv", appends := (words "oflag").contains "append"
    tellsBlocks := status != "none", tellsBytes := status != "none" && status != "noxfer" }

/-! ## Changes -/

/-- Neighbouring bytes in the other order. -/
def swapped : List Char → List Char
  | a :: b :: rest => b :: a :: swapped rest
  | rest => rest

/-- Lines filled up with blanks, or cut, so that they have one size, without what ends them. -/
def even (size : Nat) (text : List Char) : List Char :=
  (Lines.read '\n' text).lines.flatMap fun line =>
    line.take size ++ List.replicate (size - line.length) ' '

/-- Lines of one size without the blanks at their ends; `steps` is more than their number. -/
def uneven (size : Nat) : Nat → List Char → List Char
  | 0, _ => []
  | _, [] => []
  | steps + 1, text =>
    ((text.take size).reverse.dropWhile (· == ' ')).reverse ++
      '\n' :: uneven size steps (text.drop size)

/-- A text with the last block filled up. -/
def filled (size : Nat) (c : Char) (text : List Char) : List Char :=
  text ++ List.replicate ((size - text.length % size) % size) c

/-- A text after all changes. -/
def Request.change (r : Request) (text : List Char) : List Char :=
  let has (name : String) : Bool := r.changes.contains name
  let isEven := (has "block" || has "unblock") && r.lineSize != 0
  let text := if has "sync" then filled r.readSize (if isEven then ' ' else '\x00') text else text
  let text := if has "swab" then swapped text else text
  let text := if has "lcase" then text.map Char.toLower
    else if has "ucase" then text.map Char.toUpper
    else text
  if !isEven then text
  else if has "block" then even r.lineSize text
  else uneven r.lineSize (text.length + 1) text

/-! ## Copying -/

/-- The number of full blocks, and whether there is one more. -/
def blocks (size count : Nat) : String :=
  toString (count / size) ++ "+" ++ if count % size = 0 then "0" else "1"

/-- Tell how much was read and written. -/
def report (r : Request) (read written : Nat) (m : Machine) : Machine :=
  let m := if r.tellsBlocks then
      (m.complain (blocks r.readSize read ++ " records in")).complain
        (blocks r.writeSize written ++ " records out")
    else m
  if r.tellsBytes then
    m.complain (toString written ++ (if written = 1 then " byte" else " bytes") ++
      " copied, 0 s, Infinity B/s")
  else m

/-- As many bytes as are asked for, from a place. -/
def taken (r : Request) (place : Nat) (m : Machine) : Except SystemError (List Char) × Machine :=
  match m.world.availableUpTo place (r.most?.map fun most => r.skipped + most) with
  | .error cause => (.error cause, m)
  | .ok bytes =>
    let bytes := bytes.extract r.skipped bytes.size
    (.ok (Octets.charsOf bytes),
      { m with world := m.world.advance place (r.skipped + bytes.size) })

/-- Open the goal, and give its place. -/
def openGoal (r : Request) (m : Machine) : Except SystemError (Nat × Machine) :=
  match r.goal? with
  | none =>
    match m.place? 1 with
    | some place => .ok (place, { m with world := m.world.advance place r.start })
    | none => .error .badDescriptor
  | some path =>
    let has (name : String) : Bool := r.changes.contains name
    let how : Creation := ⟨!has "nocreat", !has "notrunc" && r.start = 0, has "excl"⟩
    match m.openToWrite (Machine.pathOf path) how r.appends false with
    | .error cause => .error cause
    | .ok (place, m) =>
      match m.world.files[place]? with
      | some ⟨.file number, _, _, _, _⟩ =>
        let body := m.store.bodyOf number
        let bytes := body.bytes.extract 0 r.start ++
          ⟨Array.replicate (r.start - body.bytes.size) (0 : UInt8)⟩
        let kept := if has "notrunc" then
            bytes ++ body.bytes.extract r.start body.bytes.size
          else bytes
        let m := m.withStore (m.store.setBody number { body with bytes := kept })
        .ok (place, { m with world := m.world.advance place r.start })
      | _ => .ok (place, m)

/-- Copy what is asked for. -/
def copy (r : Request) (m : Machine) : Machine :=
  let opened := match r.source? with
    | none => openInput "-" m
    | some path => m.openToRead (Machine.pathOf path)
  match opened with
  | .error cause =>
    fail ("failed to open " ++ aboutFile (r.source?.getD "standard input") cause) m
  | .ok (source, m) =>
    match openGoal r m with
    | .error cause =>
      fail ("failed to open " ++ aboutFile (r.goal?.getD "standard output") cause) m
    | .ok (goal, m) =>
      let sourceName := r.source?.getD "standard input"
      match m.world.availableUpTo source (some r.skipped), taken r source m with
      | .ok before, (.ok text, m) =>
        let m := if before.size < r.skipped then
            object (Quoting.needed sourceName ++ ": cannot skip to specified offset") m
          else m
        let written := r.change text
        match m.world.write goal (Octets.bytesOf written) with
        | .ok world => report r text.length written.length { m with world }
        | .error cause =>
          report r text.length 0
            (fail ("error writing " ++ aboutFile (r.goal?.getD "standard output") cause) m)
      | _, (.error cause, m) | .error cause, (_, m) =>
        report r 0 0 (fail ("error reading " ++ aboutFile sourceName cause) m)

end Blocks

/-- Copy blocks. -/
def dd : Tool :=
  byOptions [] fun o m =>
    match o.operands.findSome? Blocks.fault? with
    | some (message, hasHint) => if hasHint then misuse message m else fail message m
    | none =>
      let r := Blocks.requestOf o.operands
      if r.changes.contains "lcase" && r.changes.contains "ucase" then
        fail "cannot combine lcase and ucase" m
      else Blocks.copy r m

end Tool
end TaskScript
