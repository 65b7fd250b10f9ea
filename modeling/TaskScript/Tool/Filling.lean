import TaskScript.Tool.Input

/-!
# Filling — paragraphs whose lines are about equally long

A paragraph is a run of lines that begin in the same column.  Its words are put on lines so that
what all lines cost together is least: lines are to be nearly as long as asked for, and as long as
the next ones, and to end where a sentence ends.

- `Filling.Word`  : a word with what matters for the costs
- `Filling.plans` : where lines are best ended
- `fmt`           : the tool that fills the paragraphs of inputs
-/

namespace TaskScript

open Shell (Machine)

namespace Tool
namespace Filling

/-! ## Reading -/

/-- The columns from one tab stop to the next one. -/
def tabWidth : Nat := 8

/-- The column after blanks, what follows them, and whether there is a tab among them. -/
def passBlanks : Nat → Bool → List Char → Nat × Bool × List Char
  | column, hasTab, ' ' :: rest => passBlanks (column + 1) hasTab rest
  | column, _, '\t' :: rest => passBlanks ((column / tabWidth + 1) * tabWidth) true rest
  | column, hasTab, rest => (column, hasTab, rest)

/-- A line whose start has been read. -/
structure Front where
  column : Nat
  rest : List Char
  /-- Whether the input is over after this line. -/
  isLast : Bool
  hasTab : Bool

/-- Read the start of a line. -/
def Front.of (line : List Char) (isLast hasTab : Bool) : Front :=
  let (column, hasTab, rest) := passBlanks 0 hasTab line
  ⟨column, rest, isLast, hasTab⟩

/-- A word with what matters for the costs. -/
structure Word where
  text : List Char
  /-- How many blanks follow it. -/
  blanks : Nat
  isOpening : Bool
  endsSentence : Bool
  endsClause : Bool
  /-- Whether it is the last one of its sentence. -/
  isFinal : Bool

instance : Inhabited Word := ⟨⟨[], 0, false, false, false, false⟩⟩

/-- Whether a character stands for an end of a part of a sentence, or something like it. -/
def isPunctuation (c : Char) : Bool :=
  33 ≤ c.toNat && c.toNat ≤ 126 && !c.isAlphanum

/-- Whether a word ends a sentence, with closing marks after it perhaps. -/
def closesSentence (word : List Char) : Bool :=
  let isClosing (c : Char) : Bool := c == ')' || c == ']' || c == '\'' || c == '"'
  let rec go : List Char → Bool
    | [] => false
    | [c] => c == '.' || c == '?' || c == '!'
    | c :: rest => if isClosing c then go rest else c == '.' || c == '?' || c == '!'
  go word.reverse

/-- A word followed by so many blanks; `ends` tells whether its line ends there, and `isOver`
whether the input does. -/
def wordOf (text : List Char) (blanks : Nat) (ends isOver : Bool) : Word :=
  let closes := closesSentence text
  let isFinal := isOver || (closes && (ends || 1 < blanks))
  let isOpening := (text.head?).any fun c => "(['\x60\"".toList.contains c
  ⟨text, if ends then (if isFinal then 2 else 1) else blanks, isOpening, closes,
    (text.getLast?).any isPunctuation, isFinal⟩

/-- The words of a line from a column on, and whether there is a tab among the blanks; `steps` is
more than the number of characters. -/
def wordsOf (isLast : Bool) : Nat → Nat → Bool → List Char → List Word × Bool
  | 0, _, hasTab, _ => ([], hasTab)
  | _, _, hasTab, [] => ([], hasTab)
  | steps + 1, column, hasTab, c :: rest =>
    let text := c :: rest.takeWhile fun c => !Numeral.isSpace c
    let stop := column + text.length
    let (next, hasTab, rest) := passBlanks stop hasTab (rest.drop (text.length - 1))
    let ends := rest.isEmpty
    let word := wordOf text (next - stop) ends (ends && isLast)
    let (words, hasTab) := wordsOf isLast steps next hasTab rest
    (word :: words, hasTab)

/-! ## Costs -/

/-- What a line costs that is shorter or longer than it should be. -/
def shortCost (n : Int) : Int := (10 * n) * (10 * n)

/-- What a line costs that is not as long as the next one. -/
def raggedCost (n : Int) : Int := shortCost n / 2

/-- Where the line that begins with a word is best ended, how long it is, and what it and all that
follow cost. -/
structure Plan where
  next : Nat
  length : Nat
  cost : Int

instance : Inhabited Plan := ⟨⟨0, 0, 0⟩⟩

/-- What it costs to begin a line with a word, apart from its length. -/
def baseCost (words : Array Word) (start : Nat) : Int :=
  let word := words[start]!
  let before : Int :=
    if start = 0 then 0
    else
      let last := words[start - 1]!
      if last.endsSentence then (if last.isFinal then -2500 else 360000)
      else if last.endsClause then -1600
      else if 1 < start && words[start - 2]!.isFinal then 40000 / ((last.text.length : Int) + 2)
      else 0
  let own : Int :=
    if word.isOpening then -1600
    else if word.isFinal then 22500 / ((word.text.length : Int) + 2)
    else 0
  4900 + before + own

/-- How long lines are to be that may be so wide. -/
def goalOf (width : Nat) : Nat := width * 187 / 200

/-- What it costs to end a line of a length before a word. -/
def lineCost (width : Nat) (plans : Array Plan) (count next length : Nat) : Int :=
  if next = count then 0
  else
    let plan := plans[next]!
    shortCost ((goalOf width : Int) - length) +
      if plan.next = count then 0 else raggedCost ((length : Int) - plan.length)

/-- The best plan for a line, given its length up to a word that might begin the next one; `steps`
is more than the number of words. -/
def bestFrom (width : Nat) (words : Array Word) (plans : Array Plan) :
    Nat → Nat → Nat → Option Plan → Option Plan
  | 0, _, _, best? => best?
  | steps + 1, next, length, best? =>
    let count := words.size
    let after : Int := if next = count then 0 else plans[next]!.cost
    let cost := lineCost width plans count next length + after
    let best? := match best? with
      | some best => if cost < best.cost then some ⟨next, length, cost⟩ else some best
      | none => some ⟨next, length, cost⟩
    if next = count then best?
    else
      let length := length + words[next - 1]!.blanks + words[next]!.text.length
      if length < width then bestFrom width words plans steps (next + 1) length best? else best?

/-- The best plans for lines that begin with each of the words. -/
def plans (width : Nat) (words : Array Word) (indent : Nat) : Array Plan :=
  let count := words.size
  (List.range count).reverse.foldl (fun plans start =>
    let length := indent + words[start]!.text.length
    match bestFrom width words plans (count + 1) (start + 1) length none with
    | some best => plans.set! start { best with cost := best.cost + baseCost words start }
    | none => plans) (Array.replicate count default)

/-! ## Writing -/

/-- Blanks from one column to another one, with tabs where the input has some. -/
def blanks (hasTab : Bool) (column target : Nat) : List Char :=
  let stop := target / tabWidth * tabWidth
  if hasTab && column + 1 < stop then
    List.replicate (stop / tabWidth - column / tabWidth) '\t' ++
      List.replicate (target - stop) ' '
  else List.replicate (target - column) ' '

/-- Words with the blanks between them, from a column on. -/
def joined (hasTab : Bool) : Nat → List Word → List Char
  | _, [] => []
  | _, [word] => word.text
  | column, word :: rest =>
    let stop := column + word.text.length
    word.text ++ blanks hasTab stop (stop + word.blanks) ++ joined hasTab (stop + word.blanks) rest

/-- The lines of a paragraph; `steps` is more than their number. -/
def lines (hasTab : Bool) (words : Array Word) (plans : Array Plan) (indent : Nat) :
    Nat → Nat → List Char
  | 0, _ => []
  | steps + 1, start =>
    if words.size ≤ start then []
    else
      let next := plans[start]!.next
      blanks hasTab 0 indent ++ joined hasTab indent (words.extract start next).toList ++
        '\n' :: lines hasTab words plans indent steps next

/-- A line without words. -/
def copied (f : Front) : List Char := if f.isLast && f.column = 0 then [] else ['\n']

/-! ## Paragraphs -/

/-- The start of the next of some lines; the last one of all is over when there is none. -/
def nextFront (hasTab : Bool) : List (List Char) → Front × List (List Char)
  | [] => (⟨0, [], true, hasTab⟩, [])
  | line :: rest => (.of line rest.isEmpty hasTab, rest)

/-- The words of a line and of those after it that belong to its paragraph, and what comes then. -/
def gather (f : Front) : List (List Char) → List Word × Front × List (List Char)
  | [] =>
    let (words, hasTab) := wordsOf true (f.rest.length + 1) f.column f.hasTab f.rest
    (words, ⟨0, [], true, hasTab⟩, [])
  | line :: rest =>
    let (words, hasTab) := wordsOf f.isLast (f.rest.length + 1) f.column f.hasTab f.rest
    let next := Front.of line rest.isEmpty hasTab
    if !next.rest.isEmpty && next.column == f.column then
      let (more, after) := gather next rest
      (words ++ more, after)
    else (words, next, rest)

/-- Fill the paragraphs from a line on; `steps` is more than the number of lines. -/
def fill (width : Nat) : Nat → Front → List (List Char) → List Char
  | 0, _, _ => []
  | steps + 1, f, rest =>
    if f.rest.isEmpty then
      if f.isLast then copied f
      else
        let (next, rest) := nextFront f.hasTab rest
        copied f ++ fill width steps next rest
    else
      let (words, next, rest) := gather f rest
      let words := match words.getLast? with
        | some last => words.dropLast ++ [{ last with endsSentence := true, isFinal := true }]
        | none => words
      let words := words.toArray
      lines next.hasTab words (plans width words f.column) f.column (words.size + 1) 0 ++
        if f.isLast then [] else fill width steps next rest

/-- The whole text with its paragraphs filled. -/
def all (width : Nat) (text : List Char) : List Char :=
  let lines := Lines.parts '\n' text
  let (f, rest) := nextFront false lines
  fill width (lines.length + 1) f rest

/-! ## The tool -/

/-- The usual width. -/
def usualWidth : Nat := 75

end Filling

/-- Fill the paragraphs of inputs. -/
def fmt : Tool :=
  byOptions [.valued 'w' "width"] fun o m =>
    let width := match o.value? "w" with
      | none => Except.ok Filling.usualWidth
      | some text => Quantity.counted "invalid width" "" 0 2500 text
    match width with
    | .error message => fail message m
    | .ok width =>
      (orStandard o.operands).foldl (fun m name =>
        match readInput name m with
        | (.ok text, m) => m.printChars (Filling.all width text)
        | (.error .isDirectory, m) => fail "read error" m
        | (.error cause, m) =>
          fail ("cannot open " ++ Quoting.always name ++ " for reading: " ++ cause.reason) m) m

end Tool
end TaskScript
