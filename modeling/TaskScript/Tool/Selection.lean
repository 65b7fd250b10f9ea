import TaskScript.Regular.Reader
import TaskScript.Regular.Search
import TaskScript.Shell.Wildcard
import TaskScript.Tool.Catenation
import TaskScript.Tool.Excerpt
import TaskScript.Tool.Walk

/-!
# Selection — the lines that match patterns

- `Selecting`      : what lines are looked for
- `Selecting.find?` : the first match in a line from a position on
- `Selection`      : what is printed of the lines that were selected
- `grep`           : prints lines that match patterns
-/

namespace TaskScript

open Shell (Machine)

namespace Tool

/-- What lines are looked for. -/
structure Selecting where
  patterns : List Regular
  folds : Bool
  /-- Whether matches have to be whole words. -/
  inWords : Bool
  /-- Whether matches have to be whole lines. -/
  inLines : Bool
  /-- Whether lines that do not match are selected. -/
  isInverse : Bool

namespace Selecting

/-- The ends of all matches that start at a position, the last ones first. -/
def ends (g : Selecting) (s : Regular.Subject) (start : Nat) : List Nat :=
  let all := g.patterns.flatMap fun r =>
    (Regular.steps s r.looksBack r ⟨start, []⟩).map Regular.Way.position
  (all.mergeSort fun a b => decide (b ≤ a)).eraseDups

/-- Whether a match stands where it has to. -/
def allows (g : Selecting) (s : Regular.Subject) (start stop : Nat) : Bool :=
  (!g.inLines || (start = 0 && stop = s.text.size)) &&
    (!g.inWords || (!s.isAfterWord start && !s.isWord stop))

/-- The first match that starts at one of so many positions. -/
def findFrom? (g : Selecting) (s : Regular.Subject) : Nat → Nat → Option (Nat × Nat)
  | 0, _ => none
  | count + 1, start =>
    match (g.ends s start).find? fun stop => g.allows s start stop with
    | some stop => some (start, stop)
    | none => findFrom? g s count (start + 1)

/-- The first match in a line from a position on. -/
def find? (g : Selecting) (s : Regular.Subject) (start : Nat) : Option (Nat × Nat) :=
  g.findFrom? s (s.text.size + 1 - start) start

/-- A line in which matches are looked for. -/
def subject (g : Selecting) (line : List Char) : Regular.Subject := ⟨line.toArray, false, g.folds⟩

/-- Whether a line is selected. -/
def selects (g : Selecting) (line : List Char) : Bool :=
  (g.find? (g.subject line) 0).isSome != g.isInverse

/-- All matches in a line that are not empty; `steps` is more than its length. -/
def matchesFrom (g : Selecting) (s : Regular.Subject) : Nat → Nat → List (Nat × Nat)
  | 0, _ => []
  | steps + 1, start =>
    match g.find? s start with
    | none => []
    | some (first, last) =>
      if first = last then matchesFrom g s steps (last + 1)
      else (first, last) :: matchesFrom g s steps last

/-- Whether a text asks for a class of characters outside of a set. -/
def misplacesClass : List Char → Bool
  | '\\' :: _ :: rest => misplacesClass rest
  | '[' :: ':' :: rest =>
    let inner := rest.takeWhile (· != ']')
    (rest.length > inner.length && inner.getLast? == some ':' && 1 < inner.length &&
      !inner.contains '[' && !inner.contains '-') || misplacesClass rest
  | '[' :: _ :: rest => misplacesClass (rest.drop ((rest.takeWhile (· != ']')).length))
  | _ :: rest => misplacesClass rest
  | [] => false
termination_by text => text.length
decreasing_by all_goals simp; try omega

/-- The operators that have nothing to repeat in an extended expression; `isStart` tells whether a
branch starts, and `steps` is more than the length of the text. -/
def strays : Nat → Bool → List Char → List String
  | 0, _, _ => []
  | _, _, [] => []
  | steps + 1, _, '\\' :: _ :: rest => strays steps false rest
  | steps + 1, isStart, c :: rest =>
    match c with
    | '(' | '|' => strays steps true rest
    | '^' => strays steps isStart rest
    | '[' =>
      let inner := rest.drop (if rest.head? == some '^' then 2 else 1)
      strays steps false ((inner.dropWhile (· != ']')).drop 1)
    | '*' | '+' | '?' =>
      (if isStart then [String.singleton c ++ " at start of expression"] else []) ++
        strays steps isStart rest
    | '\x7b' =>
      let isInterval := rest.contains '\x7d' && rest.head?.any Char.isDigit
      (if isStart && isInterval then ["\x7b...\x7d at start of expression"] else []) ++
        strays steps (isStart && isInterval)
          (if isInterval then (rest.dropWhile (· != '\x7d')).drop 1 else rest)
    | _ => strays steps false rest

/-- The dialect of patterns. -/
def dialect (isExtended folds : Bool) : Regular.Dialect :=
  { isExtended, folds, stray := if isExtended then .skipped else .kept, isLenient := true
    hasWords := true, escapes := [], escapesInSets := false, repeatsPlaces := isExtended
    repeatsOnce := false }

/-- What one pattern asks for. -/
def readPattern (kind : Char) (folds : Bool) (pattern : List Char) : Except String Regular :=
  if kind == 'F' then
    .ok (pattern.foldl (fun r c =>
      .sequence r (.one (if folds then (Regular.Set.single c).fold else .single c))) .empty)
  else if misplacesClass pattern then
    .error "character class syntax is [[:space:]], not [:space:]"
  else
    match Regular.read (dialect (kind == 'E') folds) pattern with
    | .ok r => .ok r
    | .error fault => .error fault.message

end Selecting

/-- What is printed of the lines that were selected. -/
structure Selection where
  selecting : Selecting
  /-- What is printed: `c` counts, `l` and `L` names, `q` nothing, `o` matches, or lines. -/
  shows : Option Char
  most : Option Nat
  numbersLines : Bool
  tellsOffsets : Bool
  before : Nat
  after : Nat
  hasContext : Bool
  /-- Whether files that hold NUL are taken for text. -/
  takesAll : Bool
  isSilent : Bool

namespace Selection

/-- What has been found so far, and whether a group of lines has been printed. -/
structure Progress where
  isFound : Bool
  isFailed : Bool
  isPrinted : Bool
  machine : Machine

/-- What stands before a line: the name, the number and the position. -/
def heading (s : Selection) (name? : Option String) (mark : Char) (number offset : Nat) : String :=
  let mark := String.singleton mark
  (match name? with
    | some name => name ++ mark
    | none => "") ++
  (if s.numbersLines then toString number ++ mark else "") ++
  (if s.tellsOffsets then toString offset ++ mark else "")

/-- A line with its number, its position and whether it is selected. -/
structure Row where
  number : Nat
  offset : Nat
  text : List Char
  isSelected : Bool

/-- The lines of a text; after so many that are selected none is any more. -/
def rows (s : Selection) (text : List Char) : List Row :=
  let lines := (Lines.read '\n' text).lines
  let found := lines.foldl (fun (rows, number, offset, left) line =>
    let isSelected := left != some 0 && s.selecting.selects line
    let left := if isSelected then left.map (· - 1) else left
    (⟨number, offset, line, isSelected⟩ :: rows, number + 1, offset + line.length + 1, left))
    (([] : List Row), 1, 0, s.most)
  found.1.reverse

/-- The matches of a row. -/
def parts (s : Selection) (name? : Option String) (row : Row) : String :=
  if s.selecting.isInverse then ""
  else
    let subject := s.selecting.subject row.text
    String.join ((s.selecting.matchesFrom subject (row.text.length + 2) 0).map fun (first, last) =>
      s.heading name? ':' row.number (row.offset + first) ++
        String.ofList (subject.between first last) ++ "\n")

/-- Rows as they are printed, with those around them; `left` tells how many still follow a row that
was selected, `last?` which one was printed last, and `isPrinted` whether any was. -/
def printed (s : Selection) (name? : Option String) (rows : Array Row) :
    Nat → Nat → Nat → Option Nat → Bool → List String
  | 0, _, _, _, _ => []
  | steps + 1, index, left, last?, isPrinted =>
    match rows[index]? with
    | none => []
    | some row =>
      let line (mark : Char) (row : Row) : String :=
        s.heading name? mark row.number row.offset ++ String.ofList row.text ++ "\n"
      if row.isSelected then
        let from' := match last? with
          | some last => max (last + 1) (index - s.before)
          | none => index - s.before
        let isGap := match last? with
          | some last => last + 1 != from'
          | none => isPrinted
        let gap := if s.hasContext && isGap then ["--\n"] else []
        let isOnly := s.shows == some 'o'
        let context := ((rows.extract from' index).toList.map (line '-')).filter fun _ => !isOnly
        gap ++ context ++ [if isOnly then s.parts name? row else line ':' row] ++
          s.printed name? rows steps (index + 1) s.after (some index) true
      else
        match left with
        | left + 1 =>
          (if s.shows == some 'o' then [] else [line '-' row]) ++
            s.printed name? rows steps (index + 1) left (some index) true
        | 0 => s.printed name? rows steps (index + 1) 0 last? isPrinted

/-- Print what is to be printed of a text. -/
def text (s : Selection) (named : Bool) (name : String) (chars : List Char) (p : Progress) :
    Progress :=
  let isBinary := !s.takesAll && chars.contains '\x00'
  let rows := s.rows chars
  let count := rows.countP Row.isSelected
  let p := { p with isFound := p.isFound || count != 0 }
  let m := p.machine
  match s.shows with
  | some 'q' => p
  | some 'c' =>
    { p with machine := m.printLine ((if named then name ++ ":" else "") ++ toString count) }
  | some 'l' => { p with machine := if count = 0 then m else m.printLine name }
  | some 'L' => { p with machine := if count = 0 then m.printLine name else m }
  | _ =>
    if count = 0 then p
    else if isBinary then { p with machine := object (name ++ ": binary file matches") m }
    else
      let name? := if named then some name else none
      let lines := s.printed name? rows.toArray (rows.length + 1) 0 0 none p.isPrinted
      { p with isPrinted := true, machine := m.print (String.join lines) }

/-- Whether nothing more has to be looked at. -/
def isDone (s : Selection) (p : Progress) : Bool := s.shows == some 'q' && p.isFound

/-- How much of a text has been read once no more lines are to be selected; `endsAtOnce` tells
whether nobody sees more than the first.  Nothing is known if there may be more of them, or if only
names are printed. -/
def end? (s : Selection) (endsAtOnce : Bool) (text : List Char) : Option Nat :=
  match s.most with
  | none => none
  | some most =>
    let selected := (s.rows text).filter Row.isSelected
    let isShort := s.shows.any fun c => c == 'q' || c == 'l' || c == 'L'
    if selected.length < most || isShort || (endsAtOnce && most != 1) then none
    else some (selected.getLast?.elim 0 fun row => row.offset + row.text.length + 1)

/-- Leave what follows the last line to others, where it can be read again. -/
def leave (s : Selection) (before m : Machine) (text : List Char) : Machine :=
  let m := if (s.end? true text).isSome || (s.shows == some 'q' && (s.rows text).any Row.isSelected)
    then { m with world := { m.world with isShort := before.world.isShort } }
    else m
  let output? := (before.place? 1).bind fun place => before.world.files[place]?
  let isUnseen := output?.any fun
    | ⟨.device "null", _, _, _, _⟩ => true
    | _ => false
  match before.place? 0, s.end? isUnseen text with
  | some place, some size =>
    if Excerpt.isSeekable place before then
      { m with world := m.world.retreat place (text.length - size) }
    else m
  | _, _ => m

/-- Print what is to be printed of an input. -/
def input (s : Selection) (named : Bool) (name : String) (p : Progress) : Progress :=
  if s.isDone p then p
  else
    let shown := if name == "-" then "(standard input)" else name
    let failed (reason : String) (m : Machine) : Progress :=
      { p with
        isFailed := true
        machine := if s.isSilent then m else object (shown ++ ": " ++ reason) m }
    match readOther name p.machine with
    | (.ok chars, m) =>
      let m := if name == "-" then s.leave p.machine m chars else m
      s.text named shown chars { p with machine := m }
    | (.error reason, m) =>
      if reason == "input file is output file" then
        failed "input file is also the output" m
      else failed reason m

end Selection

/-! ## Options -/

namespace Selection

/-- The options of `grep`. -/
def choices : List Options.Choice :=
  [.flag 'G' "basic-regexp", .flag 'E' "extended-regexp", .flag 'F' "fixed-strings",
    .valued 'e' "regexp", .valued 'f' "file", .flag 'i' "ignore-case", .flag 'v' "invert-match",
    .flag 'w' "word-regexp", .flag 'x' "line-regexp", .flag 'c' "count",
    .flag 'l' "files-with-matches", .flag 'L' "files-without-match", .flag 'q' "quiet",
    .flag 'o' "only-matching", .flag 's' "no-messages", .flag 'n' "line-number",
    .flag 'b' "byte-offset", .flag 'H' "with-filename", .flag 'h' "no-filename",
    .valued 'm' "max-count", .valued 'A' "after-context", .valued 'B' "before-context",
    .valued 'C' "context", .flag 'a' "text", .flag 'r' "recursive"]

/-- What is said about a wrong call. -/
def misused (m : Machine) : Machine :=
  let m := shortNamed m
  ((m.complain ("Usage: " ++ m.name ++ " [OPTION]... PATTERNS [FILE]...")).complain
    (helpHint m)).withStatus 2

/-- The lines of patterns that options and files give. -/
def patternsOf (o : Options.Reading) (m : Machine) : Except Machine (List (List Char) × Machine) :=
  o.found.foldlM (fun (found, m) option =>
    if option.1 == "e" then .ok (found ++ Lines.parts '\n' option.2.toList, m)
    else if option.1 == "f" then
      match readInput option.2 m with
      | (.ok chars, m) => .ok (found ++ (Lines.read '\n' chars).lines, m)
      | (.error cause, m) => .error (failWith 2 (option.2 ++ ": " ++ cause.reason) m)
    else .ok (found, m)) (([] : List (List Char)), m)

/-- The number that an option asks for. -/
def lengthOf (o : Options.Reading) (keys : List String) : Except String (Option Nat) :=
  match o.last? keys with
  | none => .ok none
  | some key =>
    let text := (o.value? key).getD ""
    match Quantity.integer? "" text with
    | some (.ofNat n) => .ok (some n)
    | _ => .error text

/-- The files in a directory. -/
def filesBelow (m : Machine) : Nat → String → List String
  | 0, _ => []
  | depth + 1, path =>
    (Walk.names m path).flatMap fun name =>
      let inner := Walk.under path name
      match Walk.entry? m inner with
      | .ok (.directory _) => filesBelow m depth inner
      | .ok (.file _) => [inner]
      | _ => []

/-- Print what is to be printed of an operand; `isDeep` tells whether directories are looked into. -/
def operand (s : Selection) (isDeep named : Bool) (p : Progress) (name : String) : Progress :=
  if name != "-" && Walk.isDirectory p.machine name && isDeep then
    (filesBelow p.machine Walk.depthLimit name).foldl (fun p name => s.input named name p) p
  else s.input named name p

/-- What options ask for besides patterns. -/
def ofOptions (o : Options.Reading) (selecting : Selecting) : Except String Selection := do
  let bad (text : String) : String := text ++ ": invalid context length argument"
  let before ← (lengthOf o ["B", "C"]).mapError bad
  let after ← (lengthOf o ["A", "C"]).mapError bad
  let most ← match o.value? "m" with
    | none => .ok none
    | some text =>
      match Quantity.integer? "" text with
      | some n => .ok (if n < 0 then none else some n.toNat)
      | none => .error "invalid max count"
  let shows := if o.has "q" then some 'q'
    else match o.last? ["l", "L"] with
      | some "l" => some 'l'
      | some _ => some 'L'
      | none => if o.has "c" then some 'c' else if o.has "o" then some 'o' else none
  return {
    selecting, shows, most
    numbersLines := o.has "n", tellsOffsets := o.has "b"
    before := before.getD 0, after := after.getD 0
    hasContext := before.isSome || after.isSome
    takesAll := o.has "a"
    isSilent := o.has "s" }

end Selection

/-- Print lines that match patterns. -/
def grep : Tool := fun args m =>
  let o := Options.read Selection.choices (m.value? "POSIXLY_CORRECT").isSome args
  match o.fault? with
  | some fault => Selection.misused (object fault.message m)
  | none =>
    let kind := ((o.last? ["E", "F", "G"]).bind fun k => k.toList.head?).getD 'G'
    let isGiven := o.has "e" || o.has "f"
    let found : Except Machine (List (List Char) × List String × Machine) :=
      if isGiven then (Selection.patternsOf o m).map fun (lines, m) => (lines, o.operands, m)
      else
        match o.operands with
        | [] => .error (Selection.misused m)
        | first :: rest => .ok (Lines.parts '\n' first.toList, rest, m)
    match found with
    | .error m => m
    | .ok (lines, operands, m) =>
      let folds := o.has "i"
      match lines.mapM (Selecting.readPattern kind folds) with
      | .error message => failWith 2 message m
      | .ok patterns =>
        let selecting : Selecting :=
          { patterns, folds, inWords := o.has "w" && !o.has "x", inLines := o.has "x"
            isInverse := o.has "v" }
        match Selection.ofOptions o selecting with
        | .error message => failWith 2 message m
        | .ok s =>
          let isHopeless := s.most == some 0 ||
            (lines == [[]] && s.selecting.isInverse && !s.selecting.inWords &&
              !s.selecting.inLines)
          let m := if kind != 'E' then m
            else
              (lines.flatMap fun line =>
                Selecting.strays (line.length + 1) true line).foldl (fun m text =>
              object ("warning: " ++ text) m) m
          let isDeep := o.has "r"
          let inputs := if operands.isEmpty && isDeep then
              Selection.filesBelow m Walk.depthLimit "."
                |>.map fun path => String.ofList (path.toList.drop 2)
            else orStandard operands
          let named := match o.last? ["H", "h"] with
            | some "H" => true
            | some _ => false
            | none => 1 < operands.length ||
                (isDeep && (operands.isEmpty || operands.any (Walk.isDirectory m)))
          let inputs := if isHopeless && s.shows != some 'L' then [] else inputs
          let p := inputs.foldl (fun p name => if s.isDone p then p else s.operand isDeep named p name)
            ⟨false, false, false, m⟩
          let status := if p.isFailed && !s.isDone p then 2 else if p.isFound then 0 else 1
          p.machine.withStatus status

end Tool
end TaskScript
