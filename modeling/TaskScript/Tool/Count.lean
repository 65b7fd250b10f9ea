import TaskScript.Tool.Input

/-!
# Count — lines, words and bytes

`wc` counts what inputs hold.
-/

namespace TaskScript

open Shell (Machine)

namespace Tool
namespace Count

/-- What is counted in an input. -/
structure Counts where
  lines : Nat
  words : Nat
  chars : Nat
  bytes : Nat
  longest : Nat
  deriving DecidableEq, Repr

/-- How far a text has been counted: the counts, the width of the line, and whether a word has
begun. -/
structure Progress where
  lines : Nat
  words : Nat
  longest : Nat
  width : Nat
  inWord : Bool

/-- Count one more character. -/
def next (p : Progress) (c : Char) : Progress :=
  let ended := { p with words := if p.inWord then p.words + 1 else p.words, inWord := false }
  let longest := max p.longest p.width
  match c with
  | '\n' => { ended with lines := p.lines + 1, longest, width := 0 }
  | '\r' | '\x0c' => { ended with longest, width := 0 }
  | '\t' => { ended with width := p.width + (8 - p.width % 8) }
  | ' ' => { ended with width := p.width + 1 }
  | '\x0b' => ended
  | _ => if Quoting.isVisible c then { p with width := p.width + 1, inWord := true } else p

/-- The counts of a text. -/
def ofText (text : List Char) : Counts :=
  let p := text.foldl next ⟨0, 0, 0, 0, false⟩
  let words := if p.inWord then p.words + 1 else p.words
  let size := text.length
  ⟨p.lines, words, size, size, max p.longest p.width⟩

/-- The counts of two inputs together. -/
def sum (a b : Counts) : Counts :=
  ⟨a.lines + b.lines, a.words + b.words, a.chars + b.chars, a.bytes + b.bytes,
    max a.longest b.longest⟩

/-- The counts that are asked for, in the order in which they are told. -/
def shown (keys : List String) (c : Counts) : List Nat :=
  let all := [("l", c.lines), ("w", c.words), ("m", c.chars), ("c", c.bytes), ("L", c.longest)]
  (all.filter fun count => keys.contains count.1).map Prod.snd

/-- A line of counts with the name that they belong to. -/
def line (width : Nat) (keys : List String) (c : Counts) (name : Option String) : String :=
  let numbers := (shown keys c).map fun n => Numeral.padded width ' ' (toString n)
  " ".intercalate (numbers ++ name.toList)

/-- The size of an input, if it is a file; nothing if it cannot be found. -/
def size? (m : Machine) (name : String) : Option (Option Nat) :=
  if name == "-" then
    match (m.place? 0).bind fun place => m.world.files[place]? with
    | some ⟨.file number, _, _, _, _⟩ => some (some (m.store.bodyOf number).bytes.size)
    | _ => some none
  else
    match m.store.lookup (Machine.pathOf name) with
    | .ok (_, .file number) => some (some (m.store.bodyOf number).bytes.size)
    | .ok _ => some none
    | .error _ => none

/-- How wide counts are told. -/
def width (m : Machine) (keys names : List String) : Nat :=
  let sizes := names.map (size? m)
  if names.length == 1 && keys.length == 1 then 1
  else if sizes.head?.join.isNone then 1
  else
    let total := sizes.foldl (fun n size => n + size.join.getD 0) 0
    let least := if sizes.any fun size => size == some none then 7 else 1
    max least (toString total).length

/-- What is counted: the names of the inputs, whether the names are told, and whether all names are
known before. -/
structure Request where
  names : List String
  tellsNames : Bool
  knowsAll : Bool

/-- The names that a text holds, each ended by NUL. -/
def listed (text : List Char) : List String := (Lines.read '\x00' text).lines.map String.ofList

/-- The inputs that options and operands name, or what is left after a complaint. -/
def request (o : Options.Reading) (m : Machine) : Except Machine (Request × Machine) :=
  match o.value? "files0-from", o.operands with
  | none, [] => .ok (⟨["-"], false, true⟩, m)
  | none, names => .ok (⟨names, true, true⟩, m)
  | some _, extra :: _ =>
    .error (misuse ("extra operand " ++ Quoting.plain extra ++
      "\nfile operands cannot be combined with --files0-from") m)
  | some list, [] =>
    let isFile := (size? m list).join.isSome
    match readInput list m with
    | (.ok text, m) => .ok (⟨listed text, true, isFile⟩, m)
    | (.error cause, m) =>
      .error (fail ("cannot open " ++ Quoting.always list ++ " for reading: " ++ cause.reason) m)

/-- What is wrong with a name in a list of names. -/
def listFault? (list : String) (number : Nat) (name : String) : Option String :=
  if list == "-" && name == "-" then
    some ("when reading file names from standard input, no file name of '-' allowed")
  else if name.isEmpty then
    some (Quoting.needed list ++ ":" ++ toString number ++ ": invalid zero-length file name")
  else none

end Count

/-- Count what inputs hold. -/
def wc : Tool :=
  byOptions [.flag 'c' "bytes", .flag 'm' "chars", .flag 'l' "lines", .flag 'w' "words",
      .flag 'L' "max-line-length",
      .wordy none "total" true [["auto"], ["always"], ["only"], ["never"]],
      .namedValue "files0-from"] fun o m =>
    let given := ["l", "w", "m", "c", "L"].filter o.has
    let keys := if given.isEmpty then ["l", "w", "c"] else given
    let totals := (o.value? "total").getD "auto"
    match Count.request o m with
    | .error m => m
    | .ok (request, m) =>
      let width := if totals == "only" || !request.knowsAll then 1
        else Count.width m keys request.names
      let one (counts : Count.Counts) (name : String) (m : Machine) : Machine :=
        if totals == "only" then m
        else m.printLine (Count.line width keys counts (if request.tellsNames then some name
          else none))
      let zero : Count.Counts := ⟨0, 0, 0, 0, 0⟩
      let (total, m) := request.names.zipIdx.foldl (fun (total, m) (name, k) =>
        let fault? := (o.value? "files0-from").bind fun list => Count.listFault? list (k + 1) name
        match fault?, openInput name m with
        | some fault, _ => (total, fail fault m)
        | none, .error cause => (total, failOn name cause m)
        | none, .ok (place, m) =>
          match readPlace place m with
          | (.ok chars, m) =>
            let counts := Count.ofText chars
            (Count.sum total counts, one counts name m)
          | (.error cause, m) => (total, one zero name (failOn name cause m))) (zero, m)
      match totals with
      | "never" => m
      | "only" => m.printLine (Count.line width keys total none)
      | "always" => m.printLine (Count.line width keys total (some "total"))
      | _ =>
        if 1 < request.names.length then
          m.printLine (Count.line width keys total (some "total"))
        else m

end Tool
end TaskScript
