import TaskScript.Editor.Script
import TaskScript.Regular.Reader

/-!
# Reader — scripts as they are written

A script is read from pieces of text, each of which is an argument or a file.  Complaints tell how
much of the piece has been read, or which line of the file.

- `Editor.Part`   : a piece of text and where it comes from
- `Editor.Reading` : a step of reading
- `Editor.read`   : the script that some pieces spell
-/

namespace TaskScript
namespace Editor

/-- Where a piece of text comes from. -/
inductive Origin
  /-- An argument, by its number. -/
  | argument (number : Nat)
  | file (name : String)
  deriving DecidableEq, Repr

/-- A piece of text and where it comes from. -/
structure Part where
  origin : Origin
  text : List Char
  deriving Repr

/-- Text that belongs to a command but has not come to its end. -/
structure Pending where
  letter : Char
  text : List Char
  from? : Option Address
  to? : Option Ending
  isNegated : Bool

/-- How far scripts have been read. -/
structure State where
  origin : Origin
  rest : List Char
  /-- How many characters of this piece have been read, and how many of them ended lines. -/
  position : Nat
  lines : Nat
  isExtended : Bool
  commands : Array Command
  /-- The commands that open blocks which have not been closed, the innermost first. -/
  blocks : List Nat
  labels : List (String × Nat)
  /-- Commands that go on at labels, with their labels. -/
  jumps : List (Nat × String)
  /-- Text that goes on in the next piece. -/
  pending? : Option Pending
  isSilent : Bool
  isFirst : Bool

/-- A step of reading. -/
abbrev Reading (α : Type) := StateT State (Except String) α

namespace State

/-- A complaint with the place it is about. -/
def complaint (s : State) (message : String) : String :=
  match s.origin with
  | .argument number =>
    "-e expression #" ++ toString number ++ ", char " ++ toString s.position ++ ": " ++ message
  | .file name => "file " ++ name ++ " line " ++ toString (s.lines + 1) ++ ": " ++ message

end State

/-- Complain. -/
def refuse {α : Type} (message : String) : Reading α := do
  throw ((← get).complaint message)

/-! ## Characters -/

/-- The next character, unless the piece has come to its end. -/
def next : Reading (Option Char) := do
  let s ← get
  match s.rest with
  | [] => return none
  | c :: rest =>
    set { s with
      rest, position := s.position + 1, lines := if c == '\n' then s.lines + 1 else s.lines }
    return some c

/-- Put back a character that was read. -/
def back (c? : Option Char) : Reading Unit :=
  match c? with
  | none => return ()
  | some c => modify fun s => { s with
      rest := c :: s.rest, position := s.position - 1
      lines := if c == '\n' then s.lines - 1 else s.lines }

/-- Whether a character is a blank. -/
def isBlank (c : Char) : Bool := c == ' ' || c == '\t'

/-- Whether a character is white space. -/
def isSpace (c : Char) : Bool := isBlank c || (10 ≤ c.toNat && c.toNat ≤ 13)

/-- Read characters as long as they pass a test. -/
def spanWhile (test : Char → Bool) : Reading (List Char) := do
  let s ← get
  let found := s.rest.takeWhile test
  set { s with
    rest := s.rest.drop found.length, position := s.position + found.length
    lines := s.lines + found.count '\n' }
  return found

/-- The next character that is no blank. -/
def nextSolid : Reading (Option Char) := do
  let _ ← spanWhile isBlank
  next

/-- The number that begins with a digit. -/
def number (first : Char) : Reading Nat := do
  let digits ← spanWhile Char.isDigit
  return Numeral.ofDigits 10 (first :: digits)

/-- The number that begins with a character; 0 if it is no digit. -/
def numberOr (c? : Option Char) : Reading Nat :=
  match c? with
  | some c => if c.isDigit then number c else do
      back c?
      return 0
  | none => return 0

/-- The end of a command. -/
def commandEnd : Reading Unit := do
  let c? ← nextSolid
  match c? with
  | none | some '\n' | some ';' => return ()
  | some '\x7d' | some '#' => back c?
  | _ => refuse "extra characters after command"

/-! ## Escapes -/

/-- The characters that letters stand for. -/
def controls : List (Char × Char) :=
  [('a', '\x07'), ('f', '\x0c'), ('n', '\n'), ('r', '\r'), ('t', '\t'), ('v', '\x0b')]

/-- The character that the text after a backslash spells with a number, and what follows. -/
def numbered? : List Char → Option (Char × List Char)
  | letter :: rest =>
    let read (base count : Nat) : Option (Char × List Char) :=
      let digits := (rest.take count).takeWhile (Numeral.isDigit base)
      if digits.isEmpty then none
      else some (Char.ofNat (Numeral.ofDigits base digits % 256), rest.drop digits.length)
    match letter with
    | 'd' => read 10 3
    | 'o' => read 8 3
    | 'x' => read 16 2
    | 'c' =>
      match rest with
      | c :: rest => some (Char.ofNat (Nat.xor c.toUpper.toNat 64 % 256), rest)
      | [] => none
    | _ => none
  | [] => none

/-- A character as a member of a set that it does not end. -/
def asMember (c : Char) : List Char :=
  if c == ']' || c == '^' || c == '-' || c == '[' || c == '\\' then "[.".toList ++ c :: ".]".toList
  else [c]

/-- An expression in which characters that are spelled with numbers stand for themselves; `inSet`
tells whether a set is open, and `steps` is more than the length of the text. -/
def resolveNumbers : Nat → Bool → List Char → List Char
  | 0, _, text => text
  | _, _, [] => []
  | steps + 1, inSet, '\\' :: rest =>
    match numbered? rest with
    | some (c, rest) => (if inSet then asMember c else [c]) ++ resolveNumbers steps inSet rest
    | none =>
      if inSet then '\\' :: resolveNumbers steps inSet rest
      else '\\' :: (rest.take 1 ++ resolveNumbers steps inSet (rest.drop 1))
  | steps + 1, false, '[' :: rest =>
    let start := match rest with
      | '^' :: ']' :: _ => 2
      | '^' :: _ | ']' :: _ => 1
      | _ => 0
    '[' :: (rest.take start ++ resolveNumbers steps true (rest.drop start))
  | steps + 1, true, '[' :: mark :: rest =>
    if mark == ':' || mark == '.' || mark == '=' then
      let inner := rest.takeWhile (· != ']')
      '[' :: mark :: (inner ++ ((rest.drop inner.length).take 1 ++
        resolveNumbers steps true (rest.drop (inner.length + 1))))
    else '[' :: resolveNumbers steps true (mark :: rest)
  | steps + 1, inSet, c :: rest => c :: resolveNumbers steps (inSet && c != ']') rest

/-! ## Delimited text -/

/-- The length of a set at the start of a text, after its opening bracket, with the closing one.
-/
def setLength? (text : List Char) : Option Nat :=
  let start := match text with
    | '^' :: ']' :: _ => 2
    | '^' :: _ | ']' :: _ => 1
    | _ => 0
  let rec go : Nat → Nat → List Char → Option Nat
    | 0, _, _ => none
    | _, _, [] => none
    | _, _, '\n' :: _ => none
    | _ + 1, length, ']' :: _ => some (length + 1)
    | steps + 1, length, '[' :: mark :: rest =>
      if mark == ':' || mark == '.' || mark == '=' then
        match Regular.upToPair mark ']' rest with
        | some (inner, rest) => go steps (length + inner.length + 4) rest
        | none => none
      else go steps (length + 1) (mark :: rest)
    | steps + 1, length, _ :: rest => go steps (length + 1) rest
  go (text.length + 1) start (text.drop start)

/-- The text up to a delimiter, which may stand in an expression within sets; none if it does not
come.  `steps` is more than the length of the text. -/
def delimited (delimiter : Char) (isExpression : Bool) : Nat → List Char →
    Reading (Option (List Char))
  | 0, _ => return none
  | steps + 1, reversed => do
    let c? ← next
    match c? with
    | none => return none
    | some '\n' =>
      back c?
      return none
    | some c =>
      if c == delimiter then return some reversed.reverse
      else if c == '\\' then
        let d? ← next
        match d? with
        | none => return none
        | some d =>
          if d == 'n' && isExpression && delimiter != 'n' then
            delimited delimiter isExpression steps ('\n' :: reversed)
          else if d == '\n' || (d == delimiter && (isExpression || d != '&')) then
            delimited delimiter isExpression steps (d :: reversed)
          else delimited delimiter isExpression steps (d :: '\\' :: reversed)
      else if c == '[' && isExpression then
        let s ← get
        match setLength? s.rest with
        | some length =>
          let inner := s.rest.take length
          set { s with rest := s.rest.drop length, position := s.position + length }
          delimited delimiter isExpression steps (inner.reverse ++ c :: reversed)
        | none =>
          let rest ← spanWhile (· != '\n')
          delimited delimiter isExpression steps (rest.reverse ++ c :: reversed)
      else delimited delimiter isExpression steps (c :: reversed)

/-- The text up to a delimiter, or a complaint. -/
def upTo (delimiter : Char) (isExpression : Bool) (complaint : String) :
    Reading (List Char) := do
  let s ← get
  match ← delimited delimiter isExpression (s.rest.length + 1) [] with
  | some text => return text
  | none => refuse complaint

/-! ## Expressions -/

/-- The dialect of expressions. -/
def dialect (isExtended folds : Bool) : Regular.Dialect :=
  { isExtended, folds, stray := if isExtended then .refused else .kept, isLenient := false
    hasWords := true, escapes := controls, escapesInSets := true, repeatsPlaces := false
    repeatsOnce := !isExtended }

/-- The pattern that a text spells; `groups` tells how many groups are needed. -/
def pattern (text : List Char) (folds hasLines : Bool) (groups : Nat) : Reading Pattern := do
  if text.isEmpty then
    if folds || hasLines then refuse "cannot specify modifiers on empty regexp"
    return ⟨none, hasLines, folds⟩
  let s ← get
  let resolved := resolveNumbers (text.length + 1) false text
  match Regular.readCounting (dialect s.isExtended folds) resolved with
  | .error fault => refuse fault.message
  | .ok (r, count) =>
    if count < groups then
      refuse ("invalid reference \\" ++ toString groups ++ " on \x60s' command's RHS")
    return ⟨some r, hasLines, folds⟩

/-- The letters after an expression in an address. -/
def modifiers : Nat → Bool → Bool → Reading (Bool × Bool)
  | 0, folds, hasLines => return (folds, hasLines)
  | steps + 1, folds, hasLines => do
    let c? ← nextSolid
    match c? with
    | some 'I' => modifiers steps true hasLines
    | some 'M' => modifiers steps folds true
    | _ =>
      back c?
      return (folds, hasLines)

/-! ## Addresses -/

/-- The expression of an address up to a delimiter. -/
def patternAddress (delimiter : Char) : Reading Address := do
  let text ← upTo delimiter true "unterminated address regex"
  let s ← get
  let (folds, hasLines) ← modifiers (s.rest.length + 1) false false
  return .pattern (← pattern text folds hasLines 0)

/-- The address that begins with a character, if one does. -/
def address (c? : Option Char) : Reading (Option Address) := do
  match c? with
  | some '/' => return some (← patternAddress '/')
  | some '\\' =>
    match ← next with
    | some delimiter => return some (← patternAddress delimiter)
    | none => refuse "unterminated address regex"
  | some '$' => return some .last
  | some c =>
    if !c.isDigit then return none
    let first ← number c
    let d? ← nextSolid
    if d? != some '~' then
      back d?
      return some (.line first)
    let step ← numberOr (← nextSolid)
    return some (if step = 0 then .line first else .every first step)
  | none => return none

/-- The end of a range that begins with a character. -/
def ending (c? : Option Char) : Reading Ending := do
  match c? with
  | some '+' => return .after (← numberOr (← nextSolid))
  | some '~' =>
    let step ← numberOr (← nextSolid)
    return if step = 0 then .after 0 else .multiple step
  | _ =>
    match ← address c? with
    | some a => return .address a
    | none => refuse "unexpected \x60,'"

/-- The addresses that begin with a character, and the next one. -/
def addresses (c? : Option Char) :
    Reading (Option Address × Option Ending × Option Char) := do
  if c? == some '+' || c? == some '~' then
    let _ ← numberOr (← nextSolid)
    refuse "invalid usage of +N or ~N as first address"
  match ← address c? with
  | none => return (none, none, c?)
  | some first =>
    let d? ← nextSolid
    let (to?, d?) ← if d? == some ',' then do
        let found ← ending (← nextSolid)
        pure (some found, ← nextSolid)
      else pure (none, d?)
    let isPattern := match to? with
      | some (.address (.pattern _)) => true
      | _ => false
    if first = .line 0 && !isPattern then refuse "invalid usage of line address 0"
    return (some first, to?, d?)

/-! ## Parts of commands -/

/-- A label. -/
def label : Reading String := do
  let _ ← spanWhile isBlank
  let text ← spanWhile fun c => !isSpace c && c != ';' && c != '\x7d'
  return String.ofList text

/-- The name of a file. -/
def fileName : Reading String := do
  let _ ← spanWhile isBlank
  let text ← spanWhile (· != '\n')
  let _ ← next
  if text.isEmpty then refuse "missing filename in r/R/w/W commands"
  return String.ofList text

/-- Text in which a backslash stands before characters that are not to end it; also whether it goes
on in the next piece.  `steps` is more than its length. -/
def textLines : Nat → List Char → Reading (List Char × Bool)
  | 0, reversed => return (reversed.reverse, false)
  | steps + 1, reversed => do
    match ← next with
    | none | some '\n' => return (('\n' :: reversed).reverse, false)
    | some '\\' =>
      let s ← get
      match numbered? s.rest with
      | some (c, rest) =>
        set { s with rest, position := s.position + (s.rest.length - rest.length) }
        textLines steps (c :: reversed)
      | none =>
        match ← next with
        | none => return (('\n' :: reversed).reverse, true)
        | some d => textLines steps ((controls.lookup d).getD d :: reversed)
    | some c => textLines steps (c :: reversed)

/-- The text of a command, and whether it goes on in the next piece. -/
def commandText : Reading (List Char × Bool) := do
  let c? ← nextSolid
  match c? with
  | none => refuse "expected \\ after \x60a', \x60c' or \x60i'"
  | some '\\' =>
    match ← next with
    | none => return ([], true)
    | some '\n' =>
      let s ← get
      textLines (s.rest.length + 1) []
    | some '\\' =>
      back (some '\\')
      let s ← get
      textLines (s.rest.length + 1) []
    | some c =>
      let s ← get
      textLines (s.rest.length + 1) [c]
  | _ =>
    back c?
    let s ← get
    textLines (s.rest.length + 1) []

/-! ## Substitution -/

/-- What is put in the place of a match; `steps` is more than the length of the text. -/
def pieces : Nat → List Char → List Char → List Piece
  | 0, _, reversed => [.text reversed.reverse]
  | _, [], reversed => if reversed.isEmpty then [] else [.text reversed.reverse]
  | steps + 1, '&' :: rest, reversed =>
    .text reversed.reverse :: .group 0 :: pieces steps rest []
  | steps + 1, '\\' :: c :: rest, reversed =>
    let special (piece : Piece) : List Piece :=
      .text reversed.reverse :: piece :: pieces steps rest []
    match c with
    | 'U' => special (.casing .upper)
    | 'L' => special (.casing .lower)
    | 'E' => special (.casing .plain)
    | 'u' => special (.casing .nextUpper)
    | 'l' => special (.casing .nextLower)
    | _ =>
      if c.isDigit then special (.group (c.toNat - '0'.toNat))
      else
        match numbered? (c :: rest) with
        | some (found, rest) => pieces steps rest (found :: reversed)
        | none => pieces steps rest ((controls.lookup c).getD c :: reversed)
  | steps + 1, c :: rest, reversed => pieces steps rest (c :: reversed)

/-- The greatest number of a group that pieces name. -/
def greatestGroup (pieces : List Piece) : Nat :=
  pieces.foldl (fun n piece =>
    match piece with
    | .group number => max n number
    | _ => n) 0

/-- What is said after a substitution. -/
structure Flags where
  folds : Bool
  hasLines : Bool
  prints : Bool
  isGlobal : Bool
  number? : Option Nat
  file? : Option String

/-- The letters after a substitution. -/
def flags : Nat → Flags → Reading Flags
  | 0, f => return f
  | steps + 1, f => do
    let c? ← next
    match c? with
    | none | some '\n' | some ';' => return f
    | some '\x7d' | some '#' =>
      back c?
      return f
    | some 'i' | some 'I' => flags steps { f with folds := true }
    | some 'm' | some 'M' => flags steps { f with hasLines := true }
    | some 'p' =>
      if f.prints then refuse "multiple \x60p' options to \x60s' command"
      flags steps { f with prints := true }
    | some 'g' =>
      if f.isGlobal then refuse "multiple \x60g' options to \x60s' command"
      flags steps { f with isGlobal := true }
    | some 'w' => return { f with file? := some (← fileName) }
    | some c =>
      if isBlank c then flags steps f
      else if c.isDigit then
        if f.number?.isSome then refuse "multiple number options to \x60s' command"
        let n ← number c
        if n = 0 then refuse "number option to \x60s' command may not be zero"
        flags steps { f with number? := some n }
      else refuse "unknown option to \x60s'"

/-- A substitution after its letter. -/
def substitution : Reading Action := do
  let complaint := "unterminated \x60s' command"
  match ← next with
  | none => refuse complaint
  | some delimiter =>
    let text ← upTo delimiter true complaint
    let replacement ← upTo delimiter false complaint
    let found := pieces (replacement.length + 1) replacement []
    let s ← get
    let f ← flags (s.rest.length + 1) ⟨false, false, false, false, none, none⟩
    let p ← pattern text f.folds f.hasLines (greatestGroup found)
    return .substitute ⟨p, found, f.isGlobal, f.number?.getD 1, f.prints, f.file?⟩

/-- The characters that a text of an exchange spells. -/
def exchanged : Nat → List Char → List Char
  | 0, _ => []
  | _, [] => []
  | steps + 1, '\\' :: rest =>
    match numbered? rest with
    | some (c, rest) => c :: exchanged steps rest
    | none =>
      match rest with
      | c :: rest => (controls.lookup c).getD c :: exchanged steps rest
      | [] => ['\\']
  | steps + 1, c :: rest => c :: exchanged steps rest

/-- An exchange of characters after its letter. -/
def exchange : Reading Action := do
  let complaint := "unterminated \x60y' command"
  match ← next with
  | none => refuse complaint
  | some delimiter =>
    let source ← upTo delimiter false complaint
    let goal ← upTo delimiter false complaint
    let source := exchanged (source.length + 1) source
    let goal := exchanged (goal.length + 1) goal
    if source.length != goal.length then
      refuse "strings for \x60y' command are different lengths"
    commandEnd
    return .exchange (source.zip goal)

/-! ## Commands -/

/-- The numbers of the commands that close blocks are told to those that open them. -/
def closeBlock : Reading Unit := do
  let s ← get
  match s.blocks with
  | [] => refuse "unexpected \x60\x7d'"
  | opening :: blocks =>
    let stop := s.commands.size
    set { s with
      blocks
      commands := s.commands.modify opening fun c => { c with action := .block stop } }

/-- A number after a command that may have one, and the end of the command. -/
def finalNumber : Reading (Option Nat) := do
  let c? ← nextSolid
  let found ← match c? with
    | some c => if c.isDigit then some <$> number c else do
        back c?
        pure none
    | none => pure none
  commandEnd
  return found

/-- The action that begins with a letter.  Commands with text or labels leave notes behind. -/
def action (letter : Char) (hasFrom hasTo : Bool) : Reading Action := do
  match letter with
  | '\x7b' =>
    modify fun s => { s with blocks := s.commands.size :: s.blocks }
    return .block 0
  | '\x7d' =>
    if (← get).blocks.isEmpty then refuse "unexpected \x60\x7d'"
    if hasFrom then refuse "\x60\x7d' doesn't want any addresses"
    commandEnd
    closeBlock
    return .blockEnd
  | ':' =>
    if hasFrom then refuse ": doesn't want any addresses"
    let name ← label
    if name.isEmpty then refuse "\":\" lacks a label"
    modify fun s => { s with labels := (name, s.commands.size) :: s.labels }
    return .label
  | 'b' | 't' | 'T' =>
    let name ← label
    modify fun s => { s with jumps := (s.commands.size, name) :: s.jumps }
    return .jump (if letter == 'b' then none else some (letter == 't')) 0
  | 'r' => return .readFile (← fileName)
  | 'R' => return .readLine (← fileName)
  | 'w' => return .write (← fileName)
  | 'W' => return .writeFirst (← fileName)
  | 's' => substitution
  | 'y' => exchange
  | 'q' | 'Q' =>
    if hasTo then refuse "command only uses one address"
    return .quit (letter == 'q') ((← finalNumber).getD 0)
  | 'l' => return .list (← finalNumber)
  | _ =>
    if "=dDFgGhHnNpPxz".toList.contains letter then
      commandEnd
      return .plain letter
    else refuse ("unknown command: \x60" ++ String.singleton letter ++ "'")

/-- Add a command. -/
def addCommand (c : Command) : Reading Unit :=
  modify fun s => { s with commands := s.commands.push c }

/-- The action of a command with text. -/
def textAction (letter : Char) (text : List Char) : Action :=
  match letter with
  | 'a' => .append text
  | 'i' => .insert text
  | _ => .change text

/-- A comment after its sign.  One that begins a script may say that lines are printed only on
demand. -/
def comment : Reading Unit := do
  let s ← get
  if s.isFirst && s.position = 1 && s.rest.head? == some 'n' then
    modify fun s => { s with isSilent := true }
  let _ ← spanWhile (· != '\n')

/-- The commands of a piece; `steps` is more than the length of the text. -/
def commands : Nat → Reading Unit
  | 0 => return ()
  | steps + 1 => do
    let _ ← spanWhile fun c => c == ';' || isSpace c
    let c? ← next
    match c? with
    | none => return ()
    | some _ =>
      let (from?, to?, c?) ← addresses c?
      let (isNegated, c?) ← if c? == some '!' then do
          let d? ← nextSolid
          if d? == some '!' then refuse "multiple \x60!'s"
          pure (true, d?)
        else pure (false, c?)
      match c? with
      | none => refuse "missing command"
      | some '#' =>
        if from?.isSome then refuse "comments don't accept any addresses"
        comment
        commands steps
      | some 'v' =>
        let version ← label
        let newest := [4, 9]
        let wanted := (version.splitOn ".").map fun t => (Numeral.natural? t).getD 0
        if decide (newest < wanted) then refuse "expected newer version of sed"
        commands steps
      | some letter =>
        if letter == 'a' || letter == 'i' || letter == 'c' then
          let (text, goesOn) ← commandText
          if goesOn then
            modify fun s => { s with pending? := some ⟨letter, text, from?, to?, isNegated⟩ }
          else addCommand ⟨from?, to?, isNegated, textAction letter text⟩
          commands steps
        else
          let found ← action letter from?.isSome to?.isSome
          addCommand ⟨from?, to?, isNegated, found⟩
          commands steps

/-- Go on with text that began in the piece before. -/
def goOn : Reading Unit := do
  let s ← get
  match s.pending? with
  | none => return ()
  | some p =>
    let (text, goesOn) ← textLines (s.rest.length + 1) []
    let text := p.text ++ text
    if goesOn then modify fun s => { s with pending? := some { p with text } }
    else
      modify fun s => { s with pending? := none }
      addCommand ⟨p.from?, p.to?, p.isNegated, textAction p.letter text⟩

/-- Read a piece. -/
def part (p : Part) : Reading Unit := do
  modify fun s => { s with origin := p.origin, rest := p.text, position := 0, lines := 0 }
  goOn
  commands (p.text.length + 2)
  modify fun s => { s with isFirst := false }

/-- Why pieces spell no script. -/
inductive Problem
  | malformed (complaint : String)
  /-- A command goes on at a label that is nowhere. -/
  | noLabel (name : String)
  deriving DecidableEq, Repr

/-- The wording of a problem. -/
def Problem.message : Problem → String
  | malformed complaint => complaint
  | noLabel name => "can't find label for jump to \x60" ++ name ++ "'"

/-- Let commands go on at their labels. -/
def resolveJumps (s : State) : Except Problem (Array Command) :=
  s.jumps.reverse.foldlM (fun commands (number, name) =>
    let goal : Except Problem Nat :=
      if name.isEmpty then .ok commands.size
      else
        match s.labels.lookup name with
        | some goal => .ok goal
        | none => .error (.noLabel name)
    goal.map fun goal => commands.modify number fun c =>
      match c.action with
      | .jump when? _ => { c with action := .jump when? goal }
      | _ => c) s.commands

/-- The script that some pieces spell. -/
def read (isExtended : Bool) (parts : List Part) : Except Problem Script := do
  let start : State :=
    { origin := .argument 1, rest := [], position := 0, lines := 0, isExtended, commands := #[]
      blocks := [], labels := [], jumps := [], pending? := none, isSilent := false
      isFirst := true }
  let (_, s) ← (StateT.run (parts.forM part) start).mapError Problem.malformed
  let s := match s.pending? with
    | some p => { s with
        commands := s.commands.push ⟨p.from?, p.to?, p.isNegated, textAction p.letter p.text⟩ }
    | none => s
  if !s.blocks.isEmpty then
    let place := match s.origin with
      | .argument number => "-e expression #" ++ toString number ++ ", char 0: "
      | .file name => "file " ++ name ++ " line " ++ toString (s.lines + 1) ++ ": "
    throw (.malformed (place ++ "unmatched \x60\x7b'"))
  return ⟨← resolveJumps s, s.isSilent⟩

end Editor
end TaskScript
