import TaskScript.Tool.Input

/-!
# Columns — parts of lines, and their width

- `cut`      : some of the bytes or fields of each line
- `paste`    : lines put side by side
- `fold`     : lines broken at a width
- `expand`   : blanks for tabs
- `unexpand` : tabs for blanks
-/

namespace TaskScript

open Shell (Machine)

namespace Tool

/-! ## Parts of lines -/

namespace Cutting

/-- Positions from one to another one, or to the end. -/
structure Range where
  first : Nat
  last? : Option Nat
  deriving DecidableEq, Repr

/-- Whether a range holds a position. -/
def Range.holds (r : Range) (n : Nat) : Bool := r.first ≤ n && r.last?.all (n ≤ ·)

/-- The complaint about a position that is no number. -/
def badPosition (isField : Bool) (text : List Char) : String :=
  (if isField then "invalid field value " else "invalid byte/character position ") ++
    Quoting.plain (String.ofList text)

/-- The position that a text spells. -/
def position (isField : Bool) (text : List Char) : Except String Nat :=
  let (digits, rest) := Numeral.digits 10 text
  if !rest.isEmpty then
    if rest.head? == some '-' then
      .error (if isField then "invalid field range" else "invalid byte or character range")
    else .error (badPosition isField rest)
  else
    let n := Numeral.ofDigits 10 digits
    if n < 18446744073709551615 then .ok n
    else .error ((if isField then "field number " else "byte/character offset ") ++
      Quoting.plain (String.ofList digits) ++ " is too large")

/-- The range that a text describes. -/
def range (isField : Bool) (text : List Char) : Except String Range := do
  let zero := if isField then "fields are numbered from 1"
    else "byte/character positions are numbered from 1"
  match Text.splitOnce? '-' text with
  | none =>
    let n ← position isField text
    if n = 0 then throw zero
    return ⟨n, some n⟩
  | some ([], []) => throw "invalid range with no endpoint: -"
  | some (low, high) =>
    let first ← if low.isEmpty then pure 1 else position isField low
    if first = 0 then throw zero
    if high.isEmpty then return ⟨first, none⟩
    let last ← position isField high
    if last < first then throw "invalid decreasing range"
    return ⟨first, some last⟩

/-- Ranges in order, of which those that overlap are made one. -/
def merge (ranges : List Range) : List Range :=
  let sorted := ranges.mergeSort fun a b => decide (a.first ≤ b.first)
  (sorted.foldl (fun (reversed : List Range) r =>
    match reversed with
    | before :: more =>
      match before.last? with
      | none => reversed
      | some last =>
        if r.first ≤ last then
          let last? := r.last?.map fun n => max n last
          ⟨before.first, last?⟩ :: more
        else r :: reversed
    | [] => [r]) []).reverse

/-- What the ranges leave out from a position on. -/
def others : Nat → List Range → List Range
  | next, [] => [⟨next, none⟩]
  | next, r :: rest =>
    let gap : List Range := if next < r.first then [⟨next, some (r.first - 1)⟩] else []
    match r.last? with
    | none => gap
    | some last => gap ++ others (last + 1) rest

/-- The ranges that a text describes. -/
def read (isField : Bool) (text : String) : Except String (List Range) :=
  let parts := (text.toList.foldr (fun c (parts : List (List Char)) =>
    if c == ',' || c == ' ' || c == '\t' then [] :: parts
    else (c :: parts.headD []) :: parts.tail) [[]])
  (parts.mapM (range isField)).map merge

/-- The parts of a line within ranges, each range with a part of its own. -/
def within {α : Type} (ranges : List Range) (parts : List α) : List (List α) :=
  let numbered := parts.zipIdx 1
  (ranges.map fun r => (numbered.filter fun part => r.holds part.2).map Prod.fst).filter
    fun found => !found.isEmpty

end Cutting

/-- Print some parts of each line. -/
def cut : Tool :=
  byOptions [.valued 'b' "bytes", .valued 'c' "characters", .valued 'f' "fields",
      .valued 'd' "delimiter", .flag 's' "only-delimited", ⟨"n", some 'n', none, .nothing⟩,
      .flag 'z' "zero-terminated", .named "complement", .namedValue "output-delimiter"] fun o m =>
    let lists := o.found.filter fun option => ["b", "c", "f"].contains option.1
    match lists with
    | [] => misuse "you must specify a list of bytes, characters, or fields" m
    | _ :: _ :: _ => misuse "only one list may be specified" m
    | [(key, list)] =>
      let isField := key == "f"
      let delimiter := (o.value? "d").map String.toList
      if (delimiter.map List.length).getD 0 > 1 then
        misuse "the delimiter must be a single character" m
      else if !isField && o.has "d" then
        misuse "an input delimiter may be specified only when operating on fields" m
      else if !isField && o.has "s" then
        misuse ("suppressing non-delimited lines makes sense\n" ++
          "\tonly when operating on fields") m
      else
        match Cutting.read isField list with
        | .error message => misuse message m
        | .ok ranges =>
          let ranges := if o.has "complement" then Cutting.others 1 ranges else ranges
          let separator := if o.has "z" then '\x00' else '\n'
          let tab := match delimiter with
            | some (c :: _) => c
            | some [] => '\x00'
            | none => '\t'
          let output? := (o.value? "output-delimiter").map String.toList
          let ofLine (line : List Char) : Option (List Char) :=
            if isField then
              if line.contains tab then
                let found := (Cutting.within ranges (Lines.parts tab line)).flatten
                some ((found.intersperse (output?.getD [tab])).flatten)
              else if o.has "s" then none
              else some line
            else some (((Cutting.within ranges line).intersperse (output?.getD [])).flatten)
          (orStandard o.operands).foldl (fun m name =>
            match readInput name m with
            | (.error cause, m) => failOn name cause m
            | (.ok chars, m) =>
              let lines := (Lines.read separator chars).lines.filterMap ofLine
              m.printChars (Lines.joined separator lines)) m

/-! ## Lines side by side -/

namespace Pasting

/-- The texts between parts of lines that a list describes. -/
def delimiters : List Char → Option (List (List Char))
  | [] => some []
  | ['\\'] => none
  | '\\' :: c :: rest =>
    let text := match c with
      | '0' => []
      | 'b' => ['\x08']
      | 'f' => ['\x0c']
      | 'n' => ['\n']
      | 'r' => ['\r']
      | 't' => ['\t']
      | 'v' => ['\x0b']
      | c => [c]
    (delimiters rest).map (text :: ·)
  | c :: rest => (delimiters rest).map ([c] :: ·)

/-- Parts with delimiters between them, which are taken in turns. -/
def weave (delimiters : List (List Char)) (parts : List (List Char)) : List Char :=
  (parts.zipIdx.flatMap fun (part, n) =>
    let before := if n = 0 then [] else delimiters[(n - 1) % delimiters.length]?.getD []
    before ++ part)

/-- Columns of lines as rows of parts; missing parts are empty.  The standard input gives its lines
to several columns in turns. -/
def rows (columns : List (List (List Char))) : List (List (List Char)) :=
  let height := columns.foldl (fun n column => max n column.length) 0
  (List.range height).map fun n => columns.map fun column => column[n]?.getD []

/-- Lines dealt out to so many columns. -/
def deal (count : Nat) (lines : List (List Char)) : List (List (List Char)) :=
  let numbered := lines.zipIdx
  (List.range count).map fun k =>
    (numbered.filter fun line => line.2 % count == k).map Prod.fst

end Pasting

/-- Print lines of inputs side by side. -/
def paste : Tool :=
  byOptions [.valued 'd' "delimiters", .flag 's' "serial", .flag 'z' "zero-terminated"] fun o m =>
    let list := (o.value? "d").getD "\t"
    match Pasting.delimiters list.toList with
    | none => fail ("delimiter list ends with an unescaped backslash: " ++ list) m
    | some found =>
      let delimiters := if found.isEmpty then [[]] else found
      let separator := if o.has "z" then '\x00' else '\n'
      let names := orStandard o.operands
      if o.has "s" then
        names.foldl (fun m name =>
          match readInput name m with
          | (.error cause, m) => failOn name cause m
          | (.ok chars, m) =>
            m.printChars (Pasting.weave delimiters (Lines.read separator chars).lines ++
              [separator])) m
      else
        let opened := names.foldl (fun opened name =>
          opened.bind fun (columns, m) =>
            if name == "-" && columns.any fun column => column.1 == "-" then
              .ok (columns ++ [(name, [])], m)
            else
              match readInput name m with
              | (.error cause, m) => .error (failOn name cause m)
              | (.ok chars, m) =>
                .ok (columns ++ [(name, (Lines.read separator chars).lines)], m))
          (Except.ok (([] : List (String × List (List Char))), m) : Except Machine _)
        match opened with
        | .error m => m
        | .ok (columns, m) =>
          let isStandard (column : String × List (List Char)) : Bool := column.1 == "-"
          let dealt := Pasting.deal (columns.countP isStandard)
            (((columns.find? isStandard).map Prod.snd).getD [])
          let (_, filled) := columns.foldl (fun (n, filled) column =>
            if isStandard column then (n + 1, filled ++ [dealt[n]?.getD []])
            else (n, filled ++ [column.2])) (0, [])
          m.printChars ((Pasting.rows filled).flatMap fun row =>
            Pasting.weave delimiters row ++ [separator])

/-! ## Widths -/

namespace Folding

/-- The column after a character. -/
def advance (bytes : Bool) (column : Nat) (c : Char) : Nat :=
  if bytes then column + 1
  else
    match c with
    | '\x08' => column - 1
    | '\r' => 0
    | '\t' => column + (8 - column % 8)
    | _ => column + 1

/-- The column after a text that begins a line. -/
def columnOf (bytes : Bool) (text : List Char) : Nat := text.foldl (advance bytes) 0

/-- A line broken at a width; `current` is what stands in the last of the broken lines, in reverse.
With `spaces`, lines are broken after blanks where that is possible. -/
def line (width : Nat) (bytes spaces : Bool) :
    Nat → List Char → Nat → List Char → List Char → List Char
  | 0, _, _, _, out => out
  | _ + 1, [], _, current, out => current ++ out
  | steps + 1, c :: rest, column, current, out =>
    let next := advance bytes column c
    if next ≤ width then line width bytes spaces steps rest next (c :: current) out
    else
      let (after, before) := current.span fun c => !(c == ' ' || c == '\t')
      if spaces && !before.isEmpty then
        line width bytes spaces steps (c :: rest) (columnOf bytes after.reverse) after
          ('\n' :: before ++ out)
      else if current.isEmpty then line width bytes spaces steps rest next [c] out
      else line width bytes spaces steps (c :: rest) 0 [] ('\n' :: current ++ out)

/-- A text with all of its lines broken. -/
def text (width : Nat) (bytes spaces : Bool) (chars : List Char) : List Char :=
  let all := Lines.read '\n' chars
  Lines.text { all with lines := all.lines.map fun l =>
    (line width bytes spaces (4 * l.length + 4) l 0 [] []).reverse } '\n'

end Folding

/-- An old way of telling a number, as an option. -/
def numberAsOption (letter : String) (args : List String) : List String :=
  args.map fun arg =>
    match arg.toList with
    | '-' :: c :: rest =>
      if c.isDigit && rest.all fun c => c.isDigit || c == ',' then
        "-" ++ letter ++ String.ofList (c :: rest)
      else arg
    | _ => arg

/-- Print lines broken at a width. -/
def fold : Tool := fun args m =>
  byOptions [.flag 'b' "bytes", .flag 's' "spaces", .valued 'w' "width"] (fun o m =>
    let text := (o.value? "w").getD "80"
    match Quantity.counted "invalid number of columns" "" 1 (Quantity.greatest - 9) text with
    | .error message => fail message m
    | .ok width =>
      (orStandard o.operands).foldl (fun m name =>
        match readInput name m with
        | (.error cause, m) => failOn name cause m
        | (.ok chars, m) => m.printChars (Folding.text width (o.has "b") (o.has "s") chars)) m)
    (numberAsOption "w" args) m

namespace Tabbing

/-- Where tabs lead: to the multiples of a width, or to some columns. -/
inductive Stops
  | every (width : Nat)
  | listed (columns : List Nat)

/-- The column that a tab leads to, if there is one. -/
def Stops.next? (stops : Stops) (column : Nat) : Option Nat :=
  match stops with
  | .every width => some (column + (width - column % width))
  | .listed columns => columns.find? (column < ·)

/-- The stops that a text describes. -/
def read (text : String) : Except String Stops := do
  let parts := (text.toList.foldr (fun c (parts : List (List Char)) =>
    if c == ',' || c == ' ' then [] :: parts
    else (c :: parts.headD []) :: parts.tail) [[]]).filter fun part => !part.isEmpty
  let columns ← parts.mapM fun part =>
    if part.all Char.isDigit then .ok (Numeral.ofDigits 10 part)
    else .error ("tab size contains invalid character(s): " ++
      Quoting.plain (String.ofList (part.dropWhile Char.isDigit)))
  match columns with
  | [] => return .every 8
  | [0] => throw "tab size cannot be 0"
  | [width] => return .every width
  | columns =>
    if columns.contains 0 then throw "tab size cannot be 0"
    if (columns.zip columns.tail).any fun pair => pair.2 ≤ pair.1 then
      throw "tab sizes must be ascending"
    return .listed columns

/-- A line with blanks for tabs; with `initial`, only for those that stand before everything
else. -/
def expand (stops : Stops) (initial : Bool) :
    List Char → Nat → Bool → List Char → List Char
  | [], _, _, reversed => reversed.reverse
  | c :: rest, column, isStart, reversed =>
    if c == '\t' && (isStart || !initial) then
      let next := (stops.next? column).getD (column + 1)
      expand stops initial rest next isStart (List.replicate (next - column) ' ' ++ reversed)
    else
      let column := if c == '\x08' then column - 1
        else if c == '\t' then (stops.next? column).getD (column + 1)
        else column + 1
      expand stops initial rest column (isStart && (c == ' ' || c == '\t')) (c :: reversed)

/-- Tabs and blanks that lead from one column to another one. -/
def blanks (stops : Stops) : Nat → Nat → Nat → List Char
  | 0, _, _ => []
  | steps + 1, column, goal =>
    match stops.next? column with
    | some next =>
      if next ≤ goal then
        (if next == column + 1 && next == goal then ' ' else '\t') :: blanks stops steps next goal
      else List.replicate (goal - column) ' '
    | none => List.replicate (goal - column) ' '

/-- A line with tabs for blanks; without `all`, only for those that stand before everything else.
`start` is the column in which the blanks just read begin. -/
def unexpand (stops : Stops) (all : Bool) :
    List Char → Nat → Nat → Bool → List Char → List Char
  | [], start, column, _, reversed =>
    ((blanks stops (column - start + 1) start column).reverse ++ reversed).reverse
  | c :: rest, start, column, converts, reversed =>
    if converts && c == ' ' then unexpand stops all rest start (column + 1) converts reversed
    else if converts && c == '\t' then
      unexpand stops all rest start ((stops.next? column).getD (column + 1)) converts reversed
    else
      let reversed := (blanks stops (column - start + 1) start column).reverse ++ reversed
      unexpand stops all rest (column + 1) (column + 1) all (c :: reversed)

end Tabbing

/-- Change each line of inputs, given the stops of tabs. -/
def withTabs (change : Tabbing.Stops → List Char → List Char) (o : Options.Reading)
    (m : Machine) : Machine :=
  match Tabbing.read (",".intercalate (o.values "t")) with
  | .error message => fail message m
  | .ok stops =>
    let (chars, m) := readInputs o.operands m
    let all := Lines.read '\n' chars
    m.printChars (Lines.text { all with lines := all.lines.map (change stops) } '\n')

/-- Print lines with blanks for tabs. -/
def expand : Tool := fun args m =>
  byOptions [.flag 'i' "initial", .valued 't' "tabs"] (fun o m =>
    withTabs (fun stops line => Tabbing.expand stops (o.has "i") line 0 true []) o m)
    (numberAsOption "t" args) m

/-- Print lines with tabs for blanks. -/
def unexpand : Tool := fun args m =>
  byOptions [.flag 'a' "all", .valued 't' "tabs", .named "first-only"] (fun o m =>
    let all := (o.has "a" || o.has "t") && !o.has "first-only"
    withTabs (fun stops line => Tabbing.unexpand stops all line 0 0 true []) o m)
    (numberAsOption "t" args) m

end Tool
end TaskScript
