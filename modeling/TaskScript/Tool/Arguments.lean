import TaskScript.Tool.Wrapping

/-!
# Arguments — programs started with arguments that are read

Arguments are read as words, as lines or between separators.  They are collected, and handed on as
soon as a limit is reached: a number of arguments or lines, or the room that one command may take.

- `Arguments.events`   : what is found while arguments are read
- `Arguments.commands` : the commands that this comes to, and why there are no more
- `xargs`              : runs them

Reading and running are apart, as programs that are run never see what arguments are read from.
-/

namespace TaskScript

open Shell (Machine)

namespace Tool
namespace Arguments

/-! ## Reading -/

/-- What is found while arguments are read. -/
inductive Event
  | argument (chars : List Char)
  /-- The end of a line, which may not count as one. -/
  | line (counts : Bool)
  /-- Nothing more can be read. -/
  | fault (message : String)
  deriving DecidableEq, Repr

/-- Where the reader of words stands. -/
inductive Place
  | between
  | within
  | quoted (mark : Char)
  | escaped
  deriving DecidableEq, Repr

/-- How words are read. -/
structure Words where
  /-- Whether blanks belong to words, so that these are lines. -/
  areLines : Bool
  /-- How long a word may be. -/
  room : Nat
  /-- The word after which nothing is read. -/
  stop? : Option (List Char)

/-- How far words have been read: the word in reverse, the last character in this line, whether a
word in it is complete, and what has been found, the latest first. -/
structure Progress where
  place : Place
  word : List Char
  last? : Option Char
  isFirst : Bool
  isOver : Bool
  events : List Event

/-- Nothing more is read because of a fault. -/
def Progress.fail (p : Progress) (message : String) : Progress :=
  { p with isOver := true, events := .fault message :: p.events }

/-- The complaint about a quotation mark that stands alone. -/
def unmatched (mark : Char) : String :=
  "unmatched " ++ (if mark == '"' then "double" else "single") ++
    " quote; by default quotes are special to xargs unless you use the -0 option"

/-- The complaint about a word that is too long. -/
def tooLong : String := "argument line too long"

/-- Whether a character divides words. -/
def isBlank (c : Char) : Bool := c == ' ' || c == '\t'

/-- The word is complete. -/
def Progress.finish (w : Words) (p : Progress) : Progress :=
  let word := p.word.reverse
  if w.stop? == some word then { p with isOver := true }
  else { p with place := .between, word := [], isFirst := false, events := .argument word :: p.events }

/-- Read one more character of words. -/
def Progress.step (w : Words) (p : Progress) (c : Char) : Progress :=
  let add (p : Progress) : Progress :=
    if w.room ≤ p.word.length then p.fail tooLong
    else { p with place := .within, word := c :: p.word, last? := some c }
  let inside (p : Progress) : Progress :=
    if c == '\n' then
      let ended := p.finish w
      if ended.isOver then ended
      else
        { ended with
          last? := none, isFirst := true
          events := .line (!p.last?.any isBlank) :: ended.events }
    else if isBlank c && !w.areLines then { p.finish w with last? := some c }
    else if c == '\\' then { p with place := .escaped, last? := some c }
    else if c == '\'' || c == '"' then { p with place := .quoted c, last? := some c }
    else add p
  if p.isOver then p
  else
    match p.place with
    | .between => if Numeral.isSpace c then { p with last? := some c } else inside p
    | .within => inside p
    | .quoted mark =>
      if c == '\n' then p.fail (unmatched mark)
      else if c == mark then { p with place := .within, last? := some c }
      else { add p with place := .quoted mark }
    | .escaped => add p

/-- The end of all words; a word that has not got any character is none. -/
def Progress.close (w : Words) (p : Progress) : List Event :=
  let events := if p.isOver || p.word.isEmpty then p.events
    else
      match p.place with
      | .quoted mark => .fault (unmatched mark) :: p.events
      | _ =>
        if p.isFirst && w.stop? == some p.word.reverse then p.events
        else .argument p.word.reverse :: p.events
  events.reverse

/-- The words in a text. -/
def wordEvents (w : Words) (text : List Char) : List Event :=
  (text.foldl (Progress.step w) ⟨.between, [], none, true, false, []⟩).close w

/-- The pieces of a text between separators, of which each ends a line. -/
def pieceEvents (room : Nat) (separator : Char) (text : List Char) : List Event :=
  let all := Lines.read separator text
  let count := all.lines.length
  let events := all.lines.zipIdx.flatMap fun (piece, index) =>
    if room < piece.length then [.fault tooLong]
    else if all.isOpen && index + 1 = count then [.argument piece]
    else [.argument piece, .line true]
  let isFault : Event → Bool
    | .fault _ => true
    | _ => false
  events.takeWhile (!isFault ·) ++ (events.find? isFault).toList

/-! ## Collecting -/

/-- When arguments are handed on. -/
structure Limits where
  /-- The greatest number of bytes in a command. -/
  size : Nat
  /-- How many arguments, and how many lines, are handed on at once. -/
  most? : Option Nat
  lines? : Option Nat
  /-- Whether it is a fault that arguments do not fit. -/
  exits : Bool
  /-- Whether nothing is run if there are no arguments. -/
  skipsNone : Bool

/-- What has been collected: arguments, the latest first, their number, the bytes of the command, and
lines; the commands that are complete, the latest first; why there are no more. -/
structure Batch where
  arguments : List String
  count : Nat
  size : Nat
  lines : Nat
  commands : List (List String)
  fault? : Option String

/-- The room that words take in a command. -/
def sizeOf (words : List String) : Nat := words.foldl (fun n word => n + word.length + 1) 0

/-- Hand on what has been collected. -/
def Batch.flush (words : List String) (b : Batch) : Batch :=
  { b with
    arguments := [], count := 0, size := sizeOf words
    commands := (words ++ b.arguments.reverse) :: b.commands }

/-- An argument that does not fit even alone. -/
def unfitting : String := "cannot fit single argument within argument list size limit"

/-- More arguments than fit. -/
def tooMany : String := "argument list too long"

/-- Collect one more argument. -/
def Batch.add (l : Limits) (words : List String) (argument : String) (b : Batch) : Batch :=
  let size := argument.length + 1
  let push (b : Batch) : Batch :=
    let b := { b with
      arguments := argument :: b.arguments, count := b.count + 1, size := b.size + size }
    if l.most? == some b.count then b.flush words else b
  if b.size + size ≤ l.size then push b
  else if b.arguments.isEmpty then { b with fault? := some unfitting }
  else if l.exits && (l.most?.isSome || l.lines?.isSome) then { b with fault? := some tooMany }
  else push (b.flush words)

/-- Go on with what was found. -/
def Batch.take (l : Limits) (words : List String) (b : Batch) (event : Event) : Batch :=
  if b.fault?.isSome then b
  else
    match event with
    | .argument chars => b.add l words (String.ofList chars)
    | .line counts =>
      let lines := if counts then b.lines + 1 else b.lines
      if l.lines?.any (· ≤ lines) then { b.flush words with lines := 0 } else { b with lines }
    | .fault message =>
      { if b.arguments.isEmpty || l.exits then b else b.flush words with fault? := some message }

/-- The commands that arguments after some words come to, and why there are no more. -/
def commands (l : Limits) (words : List String) (events : List Event) :
    List (List String) × Option String :=
  let size := sizeOf words
  if l.size < size then ([], some unfitting)
  else
    let b := events.foldl (Batch.take l words) ⟨[], 0, size, 0, [], none⟩
    let isLeft := !b.arguments.isEmpty || (b.commands.isEmpty && !l.skipsNone)
    let b := if b.fault?.isNone && isLeft then b.flush words else b
    (b.commands.reverse, b.fault?)

/-- A text in which all places of another one are replaced. -/
def replaceAll (old new text : String) : String := new.intercalate (text.splitOn old)

/-- The command in which arguments take the place of a text, or why there is none. -/
def filled (size : Nat) (old : String) (words : List String) (argument : String) :
    Except String (List String) :=
  match words with
  | [] => .ok []
  | name :: rest =>
    let args := rest.map (replaceAll old argument)
    if args.any fun arg => size ≤ arg.length + 1 then .error "command too long"
    else if size < sizeOf (name :: args) then .error tooMany
    else .ok (name :: args)

/-- The commands in which arguments take the place of a text, and why there are no more. -/
def filledCommands (size : Nat) (old : String) (words : List String) (events : List Event) :
    List (List String) × Option String :=
  let (commands, fault?) := events.foldl (fun (commands, fault?) event =>
    if fault?.isSome then (commands, fault?)
    else
      match event with
      | .argument chars =>
        if size < sizeOf (words.take 1) then (commands, some unfitting)
        else
          match filled size old words (String.ofList chars) with
          | .ok command => (command :: commands, none)
          | .error fault => (commands, some fault)
      | .line _ => (commands, none)
      | .fault message => (commands, some message))
    (([] : List (List String)), (none : Option String))
  (commands.reverse, fault?)

/-! ## Options -/

/-- How arguments are read and handed on. -/
structure Style where
  /-- What arguments end with, if they are not words. -/
  separator? : Option Char
  /-- The word after which nothing is read. -/
  stop? : Option String
  /-- What is replaced by an argument. -/
  replaced? : Option String
  limits : Limits

/-- The room that a command may take unless told otherwise. -/
def usualSize : Nat := 131072

/-- The greatest room that a command may be given. -/
def greatestSize : Nat := 2094989

/-- The style unless told otherwise. -/
def Style.usual : Style := ⟨none, none, none, ⟨usualSize, none, none, false, false⟩⟩

/-- Complain about options that do not go together. -/
def warn (isThere : Bool) (dropped kept : String) (m : Machine) : Machine :=
  if isThere then
    object ("warning: options " ++ dropped ++ " and " ++ kept ++
      " are mutually exclusive, ignoring previous " ++ dropped ++ " value") m
  else m

/-- The number that an option is given, which must not be less than another one. -/
def number (letter : String) (least : Nat) (text : String) (m : Machine) : Except Machine Nat :=
  let named := " for -" ++ letter ++ " option"
  match Numeral.whole? (some 10) text with
  | none => .error (misuse ("invalid number \"" ++ text ++ "\"" ++ named) m)
  | some n =>
    if n < least then
      .error (misuse ("value " ++ toString n ++ named ++ " should be >= " ++ toString least) m)
    else .ok n.toNat

/-- The character that a text after a backslash stands for, or a complaint. -/
def escaped (text : String) : Except String Char :=
  let digits (base : Nat) (most : String) (chars : List Char) : Except String Char :=
    let (found, rest) := Numeral.digits base chars
    let n := Numeral.ofDigits base found
    let start := "Invalid escape sequence " ++ text ++ " in input delimiter specification; "
    if 255 < n then .error (start ++ "character values must not exceed " ++ most ++ ".")
    else if rest.isEmpty then .ok (Char.ofNat n)
    else
      .error (start ++ "trailing characters " ++ String.ofList rest ++ " not recognised.")
  match text.toList.drop 1 with
  | 'a' :: _ => .ok '\x07'
  | 'b' :: _ => .ok '\x08'
  | 'f' :: _ => .ok '\x0c'
  | 'n' :: _ => .ok '\n'
  | 'r' :: _ => .ok '\r'
  | 't' :: _ => .ok '\t'
  | 'v' :: _ => .ok '\x0b'
  | '\\' :: _ => .ok '\\'
  | 'x' :: rest => digits 16 "ff" rest
  | c :: rest =>
    if c.isDigit then digits 8 "377" (c :: rest)
    else .error ("Invalid escape sequence " ++ text ++ " in input delimiter specification.")
  | [] => .error ("Invalid escape sequence " ++ text ++ " in input delimiter specification.")

/-- The separator that a text stands for, or a complaint. -/
def separator (text : String) : Except String Char :=
  match text.toList with
  | [c] => .ok c
  | '\\' :: _ => escaped text
  | _ => .error ("Invalid input delimiter specification " ++ text ++
      ": the delimiter must be either a single character or an escape sequence starting with \\.")

/-- The style after one more option. -/
def Style.after (s : Style) (key value : String) (m : Machine) : Except Machine (Style × Machine) :=
  let l := s.limits
  let most := l.most?.isSome
  let lines := l.lines?.isSome
  match key with
  | "0" => .ok ({ s with separator? := some '\x00' }, m)
  | "d" =>
    match separator value with
    | .ok c => .ok ({ s with separator? := some c }, m)
    | .error complaint => .error (fail complaint m)
  | "E" | "e" => .ok ({ s with stop? := if value.isEmpty then none else some value }, m)
  | "I" | "i" =>
    let kept := "--replace/-I/-i"
    let m := warn most "--max-args" kept (warn lines "--max-lines" kept m)
    let text := if value.isEmpty && key == "i" then "\x7b\x7d" else value
    .ok ({ s with replaced? := some text, limits := { l with most? := none, lines? := none } }, m)
  | "L" | "l" =>
    let kept := if key == "L" then "-L" else "--max-lines/-l"
    let m := warn s.replaced?.isSome "--replace" kept (warn most "--max-args" kept m)
    let count := if key == "l" && value.isEmpty then .ok 1 else number key 1 value m
    count.map fun n =>
      ({ s with replaced? := none, limits := { l with most? := none, lines? := some n } }, m)
  | "n" =>
    let kept := "--max-args/-n"
    let m := warn lines "--max-lines" kept m
    (number key 1 value m).map fun n =>
      if n = 1 && s.replaced?.isSome then
        ({ s with limits := { l with lines? := none } }, m)
      else
        ({ s with replaced? := none, limits := { l with most? := some n, lines? := none } },
          warn s.replaced?.isSome "--replace" kept m)
  | "P" => (number key 0 value m).map fun _ => (s, m)
  | "s" =>
    let told (bound : String) (size : Nat) : Style × Machine :=
      ({ s with limits := { l with size } },
        object ("value " ++ value ++ " for -s option should be " ++ bound ++ toString size) m)
    match Numeral.whole? (some 10) value with
    | none => (number key 1 value m).map fun _ => (s, m)
    | some n =>
      .ok (if n < 1 then told ">= " 1
        else if greatestSize < n then told "<= " greatestSize
        else ({ s with limits := { l with size := n.toNat } }, m))
  | "r" => .ok ({ s with limits := { l with skipsNone := true } }, m)
  | "x" => .ok ({ s with limits := { l with exits := true } }, m)
  | _ => .ok (s, m)

/-- The style that options ask for. -/
def Style.ofOptions (o : Options.Reading) (m : Machine) : Except Machine (Style × Machine) := do
  let (s, m) ← o.found.foldlM (fun (s, m) (key, value) => Style.after s key value m)
    (Style.usual, m)
  let m := if s.stop?.isSome && s.separator?.isSome then
      object "warning: the -E option has no effect if -0 or -d is used.\n" m
    else m
  let exits := s.limits.exits || s.limits.lines?.isSome || s.replaced?.isSome
  return ({ s with limits := { s.limits with exits } }, m)

/-- What is found in a text. -/
def Style.events (s : Style) (words : List String) (text : List Char) : List Event :=
  let begun := if s.replaced?.isSome then 0 else sizeOf words
  let room := s.limits.size - begun - 1
  match s.separator? with
  | some c => pieceEvents room c text
  | none => wordEvents ⟨s.replaced?.isSome, room, s.stop?.map String.toList⟩ text

/-- The commands that a text comes to after some words, and why there are no more. -/
def Style.commands (s : Style) (words : List String) (text : List Char) :
    List (List String) × Option String :=
  let events := s.events words text
  match s.replaced? with
  | some old => filledCommands s.limits.size old words events
  | none => Arguments.commands s.limits words events

/-! ## Running -/

/-- Run one command, and tell whether more may be run. -/
def runOne (launch : Launch) (quiet : Machine → Machine) (command : List String) (m : Machine) :
    Bool × Machine :=
  let name := command.headD ""
  let handed := command.map fun word => String.ofList (word.toList.takeWhile (· != '\x00'))
  match launch handed (quiet m).fork with
  | .error cause =>
    (false, failWith (unstartedStatus cause) (name ++ ": " ++ cause.reason) m)
  | .ok child =>
    let after := m.rejoin child
    match child.signal? with
    | some signal =>
      (false, failWith 125 (name ++ ": terminated by signal " ++ toString signal) after)
    | none =>
      if child.settle = 255 then
        (false, failWith 124 (name ++ ": exited with status 255; aborting") after)
      else (true, if child.settle = 0 then after else after.withStatus 123)

end Arguments

/-- Run programs with arguments that are read. -/
def xargs (launch : Launch) : Tool :=
  byOptionsAt 1 true [.flag '0' "null", .valued 'a' "arg-file", .valued 'd' "delimiter",
      ⟨"E", some 'E', none, .value⟩, .optional 'e' "eof", ⟨"I", some 'I', none, .value⟩,
      .optional 'i' "replace", ⟨"L", some 'L', none, .value⟩, .optional 'l' "max-lines",
      .valued 'n' "max-args", .flag 'o' "open-tty", .flag 'r' "no-run-if-empty",
      .valued 's' "max-chars", .flag 't' "verbose", .valued 'P' "max-procs", .flag 'x' "exit",
      .flag 'p' "interactive", .namedValue "process-slot-var", .named "show-limits"] fun o m =>
    match Arguments.Style.ofOptions o m with
    | .error m => m
    | .ok (style, m) =>
      let words := if o.operands.isEmpty then ["echo"] else o.operands
      let given? := (o.value? "a").filter (· != "-")
      match openInput (given?.getD "-") m, given? with
      | .error cause, some path =>
        fail ("Cannot open input file " ++ aboutFile path cause) m
      | _, _ =>
        let (read, m) := readInput (given?.getD "-") m
        let text := read.toOption.getD []
        let m := if style.separator?.isNone && text.contains '\x00' then
            object ("WARNING: a NUL character occurred in the input.  It cannot be passed " ++
              "through in the argument list.  Did you mean to use the --null option?") m
          else m
        let (commands, fault?) := style.commands words text
        let quiet (m : Machine) : Machine :=
          let m := match o.value? "process-slot-var" with
            | some name => { m with vars := m.vars.set name ⟨some "0", true, false⟩ }
            | none => m
          if given?.isSome then m
          else
            match m.openToRead (.ofString "/dev/null") with
            | .ok (place, opened) => opened.linked 0 (some place)
            | .error _ => m
        let (goesOn, m) := commands.foldl (fun ((goesOn, m) : Bool × Machine) command =>
          if !goesOn then (false, m)
          else
            let told := " ".intercalate (command.map Quoting.needed)
            if o.has "p" then
              (false, fail "failed to open /dev/tty for reading: No such device or address"
                { m.emit 2 told with lost := m.lost })
            else
              Arguments.runOne launch quiet command (if o.has "t" then m.complain told else m))
          (true, m)
        match fault? with
        | some message => if goesOn then fail message m else m
        | none => m

end Tool
end TaskScript
