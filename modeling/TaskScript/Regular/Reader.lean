import TaskScript.Number.Numeral
import TaskScript.Regular.Basic

/-!
# Reader — regular expressions as they are written

Basic expressions put a backslash before the operators that have no character of their own in them;
extended ones put it before characters that are no operators.

- `Regular.Dialect` : how expressions are written
- `Regular.Fault`   : why a text is no regular expression
- `Regular.read`    : the expression that a text spells

`Set.read` reads sets, which stand in brackets.
-/

namespace TaskScript
namespace Regular

/-- What is done with an operator that has nothing to repeat. -/
inductive Stray
  /-- It stands for itself. -/
  | kept
  /-- It is passed over. -/
  | skipped
  | refused
  deriving DecidableEq, Repr

/-- How expressions are written. -/
structure Dialect where
  isExtended : Bool
  /-- Whether the case of letters does not matter. -/
  folds : Bool
  stray : Stray
  /-- Whether braces and parentheses that make no sense stand for themselves. -/
  isLenient : Bool
  /-- Whether there are places and sets that are written with a backslash and a letter. -/
  hasWords : Bool
  /-- What letters stand for after a backslash. -/
  escapes : List (Char × Char)
  /-- Whether a backslash has a meaning within sets. -/
  escapesInSets : Bool
  /-- Whether places can be repeated. -/
  repeatsPlaces : Bool
  /-- Whether what is repeated must not be repeated again. -/
  repeatsOnce : Bool

/-- Why a text is no regular expression. -/
inductive Fault
  | openBracket
  | openGroup
  | closedGroup
  | openInterval
  | badInterval
  /-- More repetitions at least than at most. -/
  | badOrder
  | badRange
  | badRepetition
  | badReference
  | badClass
  | badElement
  | tooBig
  | openEscape
  deriving DecidableEq, Repr

namespace Fault

/-- The wording of a fault. -/
def message : Fault → String
  | openBracket => "Unmatched [, [^, [:, [., or [="
  | openGroup => "Unmatched ( or \\("
  | closedGroup => "Unmatched ) or \\)"
  | openInterval => "Unmatched \\\x7b"
  | badInterval | badOrder => "Invalid content of \\\x7b\\\x7d"
  | badRange => "Invalid range end"
  | badRepetition => "Invalid preceding regular expression"
  | badReference => "Invalid back reference"
  | badClass => "Invalid character class name"
  | badElement => "Invalid collation character"
  | tooBig => "Regular expression too big"
  | openEscape => "Trailing backslash"

/-- Whether an interval is none at all. -/
def isMalformed (fault : Fault) : Bool := fault == .openInterval || fault == .badInterval

end Fault

/-! ## Sets -/

/-- One element of a set: a character, or a class. -/
inductive Element
  | char (c : Char)
  | named (set : Set)

/-- The text before an end of two characters, and what follows. -/
def upToPair (a b : Char) : List Char → Option (List Char × List Char)
  | c :: d :: rest =>
    if c == a && d == b then some ([], rest)
    else (upToPair a b (d :: rest)).map fun found => (c :: found.1, found.2)
  | _ => none

/-- The element at the start of a text, and what follows. -/
def element (d : Dialect) : List Char → Except Fault (Element × List Char)
  | [] => .error .openBracket
  | '[' :: ':' :: rest =>
    match upToPair ':' ']' rest with
    | none => .ok (.char '[', ':' :: rest)
    | some (name, rest) =>
      let name := String.ofList name
      let name := if d.folds && (name == "upper" || name == "lower") then "alpha" else name
      match Set.classes.lookup name with
      | some ranges => .ok (.named ⟨false, ranges⟩, rest)
      | none => .error .badClass
  | '[' :: mark :: rest =>
    if mark == '=' || mark == '.' then
      match upToPair mark ']' rest with
      | none => .error .openBracket
      | some ([c], rest) => .ok (.char c, rest)
      | some _ => .error .badElement
    else .ok (.char '[', mark :: rest)
  | '\\' :: c :: rest =>
    if d.escapesInSets then
      match d.escapes.lookup c with
      | some found => .ok (.char found, rest)
      | none =>
        if c == '\\' || !d.hasWords then .ok (.char c, rest) else .ok (.char '\\', c :: rest)
    else .ok (.char '\\', c :: rest)
  | c :: rest => .ok (.char c, rest)

/-- The ranges of a set, and what follows it; `steps` is more than the length of the text. -/
def items (d : Dialect) : Nat → Bool → List Char → Except Fault (List (Char × Char) × List Char)
  | 0, _, _ => .error .openBracket
  | steps + 1, isFirst, text =>
    match text with
    | [] => .error .openBracket
    | ']' :: rest => if isFirst then fromElement steps isFirst (']' :: rest) else .ok ([], rest)
    | _ => fromElement steps isFirst text
where
  /-- The ranges from an element on. -/
  fromElement (steps : Nat) (isFirst : Bool) (text : List Char) :
      Except Fault (List (Char × Char) × List Char) := do
    let isHyphen := text.head? == some '-' && !isFirst
    if isHyphen && text.tail.head? != some ']' then throw .badRange
    let (first, rest) ← element d text
    match first, rest with
    | .named set, '-' :: c :: _ =>
      if c != ']' then throw .badRange
      let (more, rest) ← items d steps false rest
      return (set.ranges ++ more, rest)
    | .named set, _ =>
      let (more, rest) ← items d steps false rest
      return (set.ranges ++ more, rest)
    | .char a, '-' :: c :: after =>
      if c == ']' then
        let (more, rest) ← items d steps false rest
        return ((a, a) :: more, rest)
      else
        match ← element d (c :: after) with
        | (.char b, rest) =>
          if b < a then throw .badRange
          let (more, rest) ← items d steps false rest
          return ((a, b) :: more, rest)
        | _ => throw .badRange
    | .char a, _ =>
      let (more, rest) ← items d steps false rest
      return ((a, a) :: more, rest)

/-- The set after an opening bracket, and what follows it. -/
def Set.read (d : Dialect) (text : List Char) : Except Fault (Set × List Char) := do
  let (isNegated, text) := match text with
    | '^' :: rest => (true, rest)
    | _ => (false, text)
  let (ranges, rest) ← items d (text.length + 1) true text
  let set : Set := ⟨isNegated, ranges⟩
  return (if d.folds then set.fold else set, rest)

/-! ## Tokens -/

/-- What an expression is read from. -/
inductive Token
  | finish
  | unit (r : Regular)
  | place (place : Place)
  | star (least : Nat) (most : Option Nat)
  | brace
  | opening
  | closing
  | bar
  | again (number : Nat)
  deriving DecidableEq, Repr

/-- The expression of a character that stands for itself. -/
def literal (d : Dialect) (c : Char) : Regular :=
  one (if d.folds then (Set.single c).fold else .single c)

/-- What a letter stands for after a backslash. -/
def worded? : Char → Option Token
  | 'w' => some (.unit (one .word))
  | 'W' => some (.unit (one Set.word.others))
  | 's' => some (.unit (one (.ofClass "space")))
  | 'S' => some (.unit (one (Set.ofClass "space").others))
  | 'b' => some (.place .wordEdge)
  | 'B' => some (.place .noWordEdge)
  | '<' => some (.place .wordStart)
  | '>' => some (.place .wordEnd)
  | '\x60' => some (.place .start)
  | '\'' => some (.place .finish)
  | _ => none

/-- The operator that a character stands for, with a backslash or without one. -/
def operator? (c : Char) : Option Token :=
  match c with
  | '(' => some .opening
  | ')' => some .closing
  | '|' => some .bar
  | '\x7b' => some .brace
  | '+' => some (.star 1 none)
  | '?' => some (.star 0 (some 1))
  | _ => none

/-- Whether a dollar sign before a text is at an end. -/
def isEnd (d : Dialect) (rest : List Char) : Bool :=
  d.isExtended ||
    match rest with
    | [] => true
    | '\\' :: c :: _ => c == ')' || c == '|'
    | _ => false

/-- The token at the start of a text, and what follows.  `isStart` tells whether a branch starts
there. -/
def token (d : Dialect) (isStart : Bool) : List Char → Except Fault (Token × List Char)
  | [] => .ok (.finish, [])
  | ['\\'] => .error .openEscape
  | '\\' :: c :: rest =>
    match if d.isExtended then none else operator? c with
    | some found => .ok (found, rest)
    | none =>
      match d.escapes.lookup c with
      | some found => .ok (.unit (literal d found), rest)
      | none =>
        match if d.hasWords then worded? c else none with
        | some found => .ok (found, rest)
        | none =>
          if d.hasWords && '1' ≤ c && c ≤ '9' then .ok (.again (c.toNat - '0'.toNat), rest)
          else .ok (.unit (literal d c), rest)
  | '[' :: rest => (Set.read d rest).map fun (set, rest) => (.unit (one set), rest)
  | '.' :: rest => .ok (.unit (one .all), rest)
  | '*' :: rest => .ok (.star 0 none, rest)
  | '^' :: rest =>
    .ok (if d.isExtended || isStart then .place .lineStart else .unit (literal d '^'), rest)
  | '$' :: rest => .ok (if isEnd d rest then .place .lineEnd else .unit (literal d '$'), rest)
  | c :: rest =>
    match if d.isExtended then operator? c else none with
    | some found => .ok (found, rest)
    | none => .ok (.unit (literal d c), rest)

/-! ## Expressions -/

/-- How far a text has been read: what is left, how many groups were opened, and which of them have
been closed. -/
structure Progress where
  rest : List Char
  opened : Nat
  closed : List Nat

/-- The greatest number of repetitions. -/
def mostTimes : Nat := 32767

/-- Whether an interval ends somewhere in a text. -/
def isClosed (d : Dialect) : List Char → Bool
  | '\\' :: c :: rest => (!d.isExtended && c == '\x7d') || isClosed d rest
  | c :: rest => (d.isExtended && c == '\x7d') || isClosed d rest
  | [] => false

/-- The numbers of an interval after its brace, and what follows it. -/
def interval (d : Dialect) (text : List Char) :
    Except Fault (Nat × Option Nat × List Char) :=
  let (low, rest) := Numeral.digits 10 text
  let (high?, rest) := match rest with
    | ',' :: rest =>
      let (high, rest) := Numeral.digits 10 rest
      (some high, rest)
    | _ => (none, rest)
  let after? := match d.isExtended, rest with
    | true, '\x7d' :: rest => some rest
    | false, '\\' :: '\x7d' :: rest => some rest
    | _, _ => none
  let least := Numeral.ofDigits 10 low
  match after? with
  | none => .error (if isClosed d rest then .badInterval else .openInterval)
  | some rest =>
    let most := match high? with
      | none => some least
      | some high => if high.isEmpty then none else some (Numeral.ofDigits 10 high)
    if low.isEmpty && high?.isNone then .error .badInterval
    else if most.any (· < least) then .error .badOrder
    else if most.getD least > mostTimes then .error .tooBig
    else .ok (least, most, rest)

/-- Whether repetitions at the start of a text follow others where they must not. -/
def isDoubled (d : Dialect) (text : List Char) : Bool :=
  d.repeatsOnce &&
    match text with
    | '*' :: _ | '\\' :: '\x7b' :: _ => true
    | _ => false

/-- An expression with the repetitions that follow it. -/
def suffixes (d : Dialect) : Nat → Regular → Progress → Except Fault (Regular × Progress)
  | 0, r, p => .ok (r, p)
  | steps + 1, r, p =>
    match token d false p.rest with
    | .ok (.star least most, rest) =>
      if isDoubled d rest then .error .badRepetition
      else suffixes d steps (repeated least most r) { p with rest }
    | .ok (.brace, rest) =>
      match interval d rest with
      | .ok (least, most, rest) =>
        if isDoubled d rest then .error .badRepetition
        else suffixes d steps (repeated least most r) { p with rest }
      | .error fault =>
        if d.isLenient && d.isExtended && fault.isMalformed then .ok (r, p) else .error fault
    | _ => .ok (r, p)

mutual

/-- Branches up to the end of the text, or of a group that so many others stand around. -/
def branches (d : Dialect) : Nat → Nat → Progress → Except Fault (Regular × Progress)
  | 0, _, _ => .error .tooBig
  | steps + 1, depth, p => do
    let (first, p) ← branch d steps depth true empty p
    match token d true p.rest with
    | .ok (.bar, rest) =>
      let (others, p) ← branches d steps depth { p with rest }
      return (either first others, p)
    | _ => return (first, p)

/-- What follows an expression up to the end of a branch. -/
def branch (d : Dialect) : Nat → Nat → Bool → Regular → Progress →
    Except Fault (Regular × Progress)
  | 0, _, _, _, _ => .error .tooBig
  | steps + 1, depth, isStart, before, p => do
    let (found, rest) ← token d isStart p.rest
    let goOn (r : Regular) (p : Progress) : Except Fault (Regular × Progress) := do
      let (r, p) ← suffixes d steps r p
      branch d steps depth false (if before == empty then r else sequence before r) p
    let stray : Except Fault (Regular × Progress) :=
      match d.stray with
      | .kept =>
        let written := p.rest.take (p.rest.length - rest.length)
        goOn (literal d (written.getLast?.getD '*')) { p with rest }
      | .skipped => branch d steps depth isStart before { p with rest }
      | .refused => .error .badRepetition
    match found with
    | .finish => return (before, p)
    | .bar => return (before, p)
    | .closing =>
      if depth != 0 then return (before, p)
      else if d.isLenient && d.isExtended then goOn (literal d ')') { p with rest }
      else .error .closedGroup
    | .unit r => goOn r { p with rest }
    | .place place =>
      if place == .lineStart && !d.isExtended && before.endsInPlace then
        goOn (literal d '^') { p with rest }
      else if d.repeatsPlaces then
        let (r, p) ← suffixes d steps (.at place) { p with rest }
        branch d steps depth true (sequence before r) p
      else branch d steps depth true (sequence before (.at place)) { p with rest }
    | .star .. =>
      if isStart then stray else goOn empty p
    | .brace =>
      if d.isLenient && d.isExtended then
        match interval d rest with
        | .ok (_, _, after) =>
          if isStart then branch d steps depth isStart before { p with rest := after }
          else goOn (literal d '\x7b') { p with rest }
        | .error fault =>
          if fault.isMalformed then goOn (literal d '\x7b') { p with rest } else .error fault
      else .error .badRepetition
    | .again number =>
      if p.closed.contains number then goOn (again number) { p with rest }
      else .error .badReference
    | .opening =>
      let number := p.opened + 1
      let (inner, p) ← branches d steps (depth + 1) { p with rest, opened := number }
      match token d false p.rest with
      | .ok (.closing, rest) =>
        goOn (group number inner) { p with rest, closed := number :: p.closed }
      | _ => .error .openGroup

end

/-- The expression that a text spells, and how many groups there are. -/
def readCounting (d : Dialect) (chars : List Char) : Except Fault (Regular × Nat) := do
  let (r, p) ← branches d (4 * chars.length + 8) 0 ⟨chars, 0, []⟩
  return (r, p.opened)

/-- The expression that a text spells. -/
def read (d : Dialect) (chars : List Char) : Except Fault Regular :=
  (readCounting d chars).map Prod.fst

end Regular
end TaskScript
