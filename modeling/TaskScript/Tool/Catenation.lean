import TaskScript.Regular.Reader
import TaskScript.Regular.Search
import TaskScript.Tool.Input

/-!
# Catenation — tools that print inputs one after the other

- `cat` : as they are, with numbers or with signs for what cannot be seen
- `tac` : each with its lines in reverse
- `rev` : with each line in reverse
- `nl`  : with numbers before the lines of their parts
- `tee` : what is read from the standard input, which is also put into files
-/

namespace TaskScript

open Shell (Machine)

namespace Tool

/-! ## Inputs as they are -/

/-- A character as it is shown where it could not be seen. -/
def shown (c : Char) : List Char :=
  let plain (n : Nat) : List Char :=
    if n < 32 then ['^', Char.ofNat (n + 64)]
    else if n == 127 then ['^', '?']
    else [Char.ofNat n]
  if c == '\n' || c == '\t' then [c]
  else if c.toNat < 128 then plain c.toNat
  else ['M', '-'] ++ plain (c.toNat - 128)

/-- How `cat` prints lines. -/
structure CatStyle where
  numbersAll : Bool
  numbersFull : Bool
  squeezes : Bool
  marksEnds : Bool
  marksTabs : Bool
  shows : Bool

namespace CatStyle

/-- A character within a line. -/
def char (s : CatStyle) (c : Char) : List Char :=
  if c == '\t' then (if s.marksTabs then ['^', 'I'] else [c])
  else if s.shows then shown c
  else [c]

/-- Lines, numbered from a number on; `isBlank` tells whether the line before them is empty. -/
def lines (s : CatStyle) : Nat → Bool → List (List Char) → List Char → List Char
  | _, _, [], reversed => reversed.reverse
  | number, isBlank, line :: rest, reversed =>
    if line.isEmpty && isBlank && s.squeezes then s.lines number true rest reversed
    else
      let isNumbered := if s.numbersFull then !line.isEmpty else s.numbersAll
      let start :=
        if isNumbered then (Numeral.padded 6 ' ' (toString number) ++ "\t").toList else []
      let body := start ++ line.flatMap s.char ++ (if s.marksEnds then ['$', '\n'] else ['\n'])
      s.lines (if isNumbered then number + 1 else number) line.isEmpty rest
        (body.reverse ++ reversed)

/-- A text; the line that is open at its end is not ended. -/
def text (s : CatStyle) (chars : List Char) : List Char :=
  let all := Lines.read '\n' chars
  let written := s.lines 1 false all.lines []
  if all.isOpen then written.take (written.length - if s.marksEnds then 2 else 1) else written

end CatStyle

/-- Where the standard output goes, if it is a file: its number. -/
def outputFile? (m : Machine) : Option Nat :=
  match (m.place? 1).bind fun place => m.world.files[place]? with
  | some ⟨.file number, _, _, _, _⟩ => some number
  | _ => none

/-- Read an input that must not be the file that is written. -/
def readOther (name : String) (m : Machine) : Except String (List Char) × Machine :=
  match openInput name m with
  | .error cause => (.error cause.reason, m)
  | .ok (place, m) =>
    let isSame := match m.world.files[place]? with
      | some ⟨.file number, position, _, _, _⟩ =>
        outputFile? m == some number && position < (m.store.bodyOf number).bytes.size
      | _ => false
    if isSame then (.error "input file is output file", m)
    else
      match readPlace place m with
      | (.ok chars, m) => (.ok chars, m)
      | (.error cause, m) => (.error cause.reason, m)

/-- Print inputs one after the other. -/
def cat : Tool :=
  byOptions ([.flag 'b' "number-nonblank", .flag 'n' "number", .flag 's' "squeeze-blank",
      .flag 'v' "show-nonprinting", .flag 'E' "show-ends", .flag 'T' "show-tabs",
      .flag 'A' "show-all"] ++ Options.flags "etu") fun o m =>
    let style : CatStyle :=
      { numbersAll := o.has "n", numbersFull := o.has "b", squeezes := o.has "s"
        marksEnds := o.has "E" || o.has "A" || o.has "e"
        marksTabs := o.has "T" || o.has "A" || o.has "t"
        shows := o.has "v" || o.has "A" || o.has "e" || o.has "t" }
    let isPlain := o.found.all fun option => option.1 == "u"
    let (pieces, m) := (orStandard o.operands).foldl (fun (pieces, m) name =>
      match readOther name m with
      | (.ok chars, m) =>
        if isPlain then (pieces, m.printChars chars) else (chars :: pieces, m)
      | (.error reason, m) => (pieces, fail (Quoting.needed name ++ ": " ++ reason) m))
      (([] : List (List Char)), m)
    if isPlain then m else m.printChars (style.text pieces.reverse.flatten)

/-! ## In reverse -/

/-- Pieces of a text that end with a separator, or that begin with it; the last ones first. -/
def reversedPieces (separator : List Char) (before : Bool) (text : List Char) : List Char :=
  let rec cut : Nat → List Char → List Char → List (List Char) → List (List Char)
    | 0, _, reversed, pieces => reversed.reverse :: pieces
    | _ + 1, [], reversed, pieces => reversed.reverse :: pieces
    | steps + 1, c :: rest, reversed, pieces =>
      if separator.isPrefixOf (c :: rest) then
        let after := (c :: rest).drop separator.length
        if before then cut steps after separator.reverse (reversed.reverse :: pieces)
        else cut steps after [] ((reversed.reverse ++ separator) :: pieces)
      else cut steps rest (c :: reversed) pieces
  (cut (text.length + 1) text [] []).flatten

/-- Print the lines of inputs in reverse. -/
def tac : Tool :=
  byOptions [.flag 'b' "before", .flag 'r' "regex", .valued 's' "separator"] fun o m =>
    let separator := match o.value? "s" with
      | some s => if s.isEmpty then ['\x00'] else s.toList
      | none => ['\n']
    (orStandard o.operands).foldl (fun m name =>
      match openInput name m with
      | .error cause =>
        fail ("failed to open " ++ Quoting.always name ++ " for reading: " ++ cause.reason) m
      | .ok (place, m) =>
        match readPlace place m with
        | (.ok chars, m) => m.printChars (reversedPieces separator (o.has "b") chars)
        | (.error _, m) =>
          fail (Quoting.needed name ++ ": read error: " ++ SystemError.invalid.reason) m) m

/-- Print each line in reverse. -/
def rev : Tool :=
  byOptions [] fun o m =>
    (orStandard o.operands).foldl (fun m name =>
      match readInput name m with
      | (.ok chars, m) =>
        let all := Lines.read '\n' chars
        m.printChars (Lines.text { all with lines := all.lines.map List.reverse } '\n')
      | (.error cause, m) => fail ("cannot open " ++ name ++ ": " ++ cause.reason) m) m

/-! ## Numbers -/

/-- Which lines are numbered. -/
inductive Numbering
  | all
  | full
  | none
  | matching (r : Regular)

/-- How `nl` numbers lines. -/
structure NumberStyle where
  header : Numbering
  body : Numbering
  footer : Numbering
  first : Int
  increment : Int
  join : Nat
  separator : List Char
  width : Nat
  format : String
  delimiter : List Char
  restarts : Bool

/-- How basic expressions are written. -/
def basicExpressions : Regular.Dialect :=
  ⟨false, false, .kept, false, true, [], false, false, false⟩

/-- Which lines a text asks to number. -/
def Numbering.read? (text : String) : Option Numbering :=
  match text.toList with
  | ['a'] => some .all
  | ['t'] => some .full
  | ['n'] => some .none
  | 'p' :: r => ((Regular.read basicExpressions r).toOption).map .matching
  | _ => Option.none

namespace NumberStyle

/-- A number before a line. -/
def number (s : NumberStyle) (n : Int) : List Char :=
  let digits := toString n.natAbs
  let sign := if n < 0 then "-" else ""
  let text := match s.format with
    | "ln" => Numeral.filled s.width (sign ++ digits)
    | "rz" => sign ++ Numeral.padded (s.width - sign.length) '0' digits
    | _ => Numeral.padded s.width ' ' (sign ++ digits)
  text.toList ++ s.separator

/-- Whether a line is numbered, given how many empty lines came before it, and how many there are
now. -/
def isNumbered (s : NumberStyle) (how : Numbering) (blanks : Nat) (line : List Char) : Bool × Nat :=
  match how with
  | .all =>
    if 1 < s.join && line.isEmpty then
      if blanks + 1 == s.join then (true, 0) else (false, blanks + 1)
    else (true, 0)
  | .full => (!line.isEmpty, 0)
  | .none => (false, 0)
  | .matching r => ((r.search? ⟨line.toArray, false, false⟩ 0).isSome, 0)

/-- Lines with their numbers. -/
def lines (s : NumberStyle) :
    Numbering → Int → Nat → List (List Char) → List Char → List Char
  | _, _, _, [], reversed => reversed.reverse
  | how, n, blanks, line :: rest, reversed =>
    let section? : Option Numbering :=
      if s.delimiter.isEmpty then Option.none
      else if line == s.delimiter ++ s.delimiter ++ s.delimiter then some s.header
      else if line == s.delimiter ++ s.delimiter then some s.body
      else if line == s.delimiter then some s.footer
      else Option.none
    match section? with
    | some how => s.lines how (if s.restarts then s.first else n) 0 rest ('\n' :: reversed)
    | Option.none =>
      let (numbered, blanks) := s.isNumbered how blanks line
      let start :=
        if numbered then s.number n else List.replicate (s.width + s.separator.length) ' '
      s.lines how (if numbered then n + s.increment else n) blanks rest
        ('\n' :: line.reverse ++ start.reverse ++ reversed)

end NumberStyle

/-- Print lines with numbers. -/
def nl : Tool :=
  byOptions [.valued 'b' "body-numbering", .valued 'h' "header-numbering",
      .valued 'f' "footer-numbering", .valued 'v' "starting-line-number",
      .valued 'i' "line-increment", .valued 'l' "join-blank-lines",
      .valued 's' "number-separator", .valued 'w' "number-width", .valued 'n' "number-format",
      .valued 'd' "section-delimiter", .flag 'p' "no-renumber"] fun o m =>
    let numbering (key usual : String) : Option Numbering :=
      Numbering.read? ((o.value? key).getD usual)
    let integer (key what : String) (least most usual : Int) : Except String Int :=
      match o.value? key with
      | some text => Quantity.bounded ("invalid " ++ what) least most text (Quantity.integer? "" text)
      | none => .ok usual
    let numbers : Except String (Int × Int × Int × Int) := do
      let far := Numeral.greatest
      let first ← integer "v" "starting line number" (-far - 1) far 1
      let increment ← integer "i" "line number increment" (-far - 1) far 1
      let join ← integer "l" "line number of blank lines" 1 far 1
      let width ← integer "w" "line number field width" 1 2147483647 6
      return (first, increment, join, width)
    let refused (kind key : String) (m : Machine) : Machine :=
      misuse ("invalid " ++ kind ++ ": " ++ Quoting.plain ((o.value? key).getD "")) m
    let delimiter := match ((o.value? "d").getD "\\:").toList with
      | [c] => [c, ':']
      | chars => chars
    match numbering "h" "n", numbering "b" "t", numbering "f" "n" with
    | none, _, _ => refused "header numbering style" "h" m
    | _, none, _ => refused "body numbering style" "b" m
    | _, _, none => refused "footer numbering style" "f" m
    | some header, some body, some footer =>
      match numbers with
      | .error message => fail message m
      | .ok (first, increment, join, width) =>
        let format := (o.value? "n").getD "rn"
        if !(["ln", "rn", "rz"].contains format) then refused "line numbering format" "n" m
        else
          let style : NumberStyle :=
            { header, body, footer, first, increment, join := join.toNat
              separator := ((o.value? "s").getD "\t").toList, width := width.toNat, format
              delimiter, restarts := !o.has "p" }
          let (chars, m) := readInputs o.operands m
          m.printChars (style.lines body first 0 (Lines.read '\n' chars).lines [])

/-! ## Copies -/

/-- Print what is read from the standard input, and put it into files. -/
def tee : Tool :=
  byOptions [.flag 'a' "append", .flag 'i' "ignore-interrupts",
      ⟨"p", some 'p', none, .nothing⟩, .synonym "p" "output-error" (.perhapsWord ⟨"--output-error",
        [["warn"], ["warn-nopipe"], ["exit"], ["exit-nopipe"]]⟩)] fun o m =>
    let (read, m) := readInput "-" m
    let chars := match read with
      | .ok chars => chars
      | .error _ => []
    let m := o.operands.foldl (fun m name =>
      if name == "-" then m.printChars chars
      else
        match m.openToWrite (Machine.pathOf name) ⟨true, !o.has "a", false⟩ (o.has "a") false with
        | .error cause => failOn name cause m
        | .ok (place, m) =>
          match m.world.write place (Octets.bytesOf chars) with
          | .ok world => { m with world }
          | .error cause => failOn name cause m) m
    match read with
    | .ok _ => m.printChars chars
    | .error cause => fail ("read error: " ++ cause.reason) (m.printChars chars)

end Tool
end TaskScript
