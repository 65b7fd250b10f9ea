import TaskScript.Editor.Replacement
import TaskScript.Tool.Input

/-!
# Evaluation — scripts applied to lines

A line is read, the commands of the script are carried out one after the other, and what has become
of the line is printed.  What is to be printed after the line waits in a queue.

- `Editing`        : the line being edited, the other one that is held, and all that is left
- `Editing.act`    : what a command does
- `Editing.cycles` : all lines, one after the other
-/

namespace TaskScript
namespace Editor

open Shell (Machine)
open Tool (openInput readPlace Lines)

/-- A line of an input. -/
structure Line where
  text : List Char
  /-- Whether it is ended. -/
  isEnded : Bool
  file : String
  /-- How far the standard input has been read once the line has. -/
  consumed : Nat

/-- Whether a command stands within a range of lines. -/
inductive Range
  | outside
  /-- Within a range, which may end at a line with a number. -/
  | inside (last? : Option Nat)
  | over
  deriving DecidableEq, Repr

/-- What is printed after a line. -/
inductive Queued
  | text (chars : List Char)
  | file (name : String)
  deriving DecidableEq, Repr

/-- The line being edited, the other one that is held, and all that is left. -/
structure Editing where
  machine : Machine
  commands : Array Command
  isSilent : Bool
  /-- What ends lines. -/
  stop : Char
  width : Nat
  rest : List Line
  pattern : List Char
  isEnded : Bool
  hold : List Char
  isHoldEnded : Bool
  number : Nat
  file : String
  consumed : Nat
  ranges : Array Range
  isReplaced : Bool
  lastPattern? : Option Pattern
  queue : List Queued
  /-- What is printed into a file instead, the latest part first. -/
  edited? : Option (List (List Char))
  /-- Whether the line that was printed last is open. -/
  isOpen : Bool
  /-- The files that are written: where they are, and whether their last line is open. -/
  sinks : List (String × Nat × Bool)
  /-- What is left of files that are read line by line. -/
  readers : List (String × List (List Char))
  /-- Why nothing more can be done. -/
  problem? : Option String

/-- What happens after a command. -/
inductive Next
  | goOn
  | goTo (number : Nat)
  /-- The line is done; it may be printed. -/
  | done (prints : Bool)
  /-- The commands are carried out again without another line. -/
  | again
  | quit (status : Nat)
  deriving DecidableEq, Repr

namespace Editing

/-! ## Printing -/

/-- Print characters. -/
def put (e : Editing) (chars : List Char) : Editing :=
  match e.edited? with
  | some found => { e with edited? := some (chars :: found) }
  | none => { e with machine := e.machine.printChars chars }

/-- End the line that was printed last. -/
def close (e : Editing) : Editing :=
  if e.isOpen then { e.put [e.stop] with isOpen := false } else e

/-- Print a line. -/
def print (e : Editing) (text : List Char) (isEnded : Bool) : Editing :=
  let e := e.close
  { e.put (text ++ if isEnded then [e.stop] else []) with isOpen := !isEnded }

/-- Print text that ends by itself. -/
def printText (e : Editing) (text : List Char) : Editing := e.close.put text

/-- Print the line being edited. -/
def printPattern (e : Editing) : Editing := e.print e.pattern e.isEnded

/-- Write a line to a file. -/
def writeTo (e : Editing) (name : String) (text : List Char) (isEnded : Bool) : Editing :=
  match e.sinks.lookup name with
  | none => e
  | some (place, isOpen) =>
    let chars := (if isOpen then [e.stop] else []) ++ text ++ if isEnded then [e.stop] else []
    let m := match e.machine.world.write place (Octets.bytesOf chars) with
      | .ok world => { e.machine with world }
      | .error _ => e.machine
    { e with
      machine := m
      sinks := e.sinks.map fun s =>
        if s.1 == name then (name, place, !isEnded) else s }

/-- Write a line to a file, or print it. -/
def write (e : Editing) (name : String) (text : List Char) (isEnded : Bool) : Editing :=
  if name == "/dev/stdout" then
    if e.edited?.isSome then
      { e with machine := e.machine.printChars (text ++ if isEnded then [e.stop] else []) }
    else e.print text isEnded
  else e.writeTo name text isEnded

/-- Print what waits in the queue. -/
def flush (e : Editing) : Editing :=
  let e := if e.queue.isEmpty then e else e.close
  let e := e.queue.reverse.foldl (fun e q =>
    match q with
    | .text chars => e.put chars
    | .file name =>
      let name := if name == "/dev/stdin" then "-" else name
      match openInput name e.machine with
      | .error _ => e
      | .ok (place, m) =>
        match readPlace place m with
        | (.ok chars, m) => { e with machine := m }.put chars
        | (.error _, m) => { e with machine := m }) e
  { e with queue := [] }

/-! ## Reading -/

/-- Read the next line, if there is one; it may follow what there is. -/
def readNext (e : Editing) (appends : Bool) : Option Editing :=
  match e.rest with
  | [] => none
  | line :: rest =>
    let e := e.flush
    some { e with
      rest, number := e.number + 1, isReplaced := false, isEnded := line.isEnded
      file := line.file, consumed := line.consumed
      pattern := if appends then e.pattern ++ e.stop :: line.text else line.text }

/-- The next line of a file that is read line by line, with its end. -/
def readLineOf (e : Editing) (name : String) : Option (List Char) × Editing :=
  let left? := match e.readers.lookup name with
    | some left => some left
    | none =>
      match (openInput name e.machine).toOption.map fun (place, m) => readPlace place m with
      | some (.ok chars, _) =>
        let all := Lines.read e.stop chars
        let ended := all.lines.map (· ++ [e.stop])
        some (if all.isOpen then all.lines.dropLast.map (· ++ [e.stop]) ++
          all.lines.getLast?.toList else ended)
      | _ => none
  let others := e.readers.filter fun r => r.1 != name
  match left? with
  | none => (none, { e with readers := (name, []) :: others })
  | some [] => (none, { e with readers := (name, []) :: others })
  | some (line :: left) => (some line, { e with readers := (name, left) :: others })

/-! ## Addresses -/

/-- The expression that a pattern means, which is the last one from now on. -/
def expression? (e : Editing) (p : Pattern) : Option (Regular × Pattern × Editing) :=
  match p.regular? with
  | some r => some (r, p, { e with lastPattern? := some p })
  | none => e.lastPattern?.bind fun last => last.regular?.map fun r => (r, last, e)

/-- Nothing more can be done, for lack of an expression. -/
def lacksExpression (e : Editing) : Editing :=
  { e with problem? := some "-e expression #1, char 0: no previous regular expression" }

/-- Whether the line being edited is one that an address means. -/
def meets (e : Editing) (a : Address) : Bool × Editing :=
  match a with
  | .line n => (e.number == n, e)
  | .every first step => (first ≤ e.number && (e.number - first) % step == 0, e)
  | .last => (e.rest.isEmpty, e)
  | .pattern p =>
    match e.expression? p with
    | none => (false, e.lacksExpression)
    | some (r, p, e) =>
      ((r.search? ⟨e.pattern.toArray, p.hasLines, p.folds⟩ 0).isSome, e)

/-- Note where a command stands in its range. -/
def withRange (e : Editing) (number : Nat) (range : Range) : Editing :=
  { e with ranges := e.ranges.setIfInBounds number range }

/-- Begin a range at this line. -/
def enterRange (e : Editing) (number : Nat) (ending : Ending) : Editing :=
  let upTo (last : Nat) : Editing :=
    e.withRange number (if last ≤ e.number then .over else .inside (some last))
  match ending with
  | .after count => upTo (e.number + count)
  | .multiple step => upTo ((e.number + step - 1) / step * step)
  | .address (.line n) => upTo n
  | .address _ => e.withRange number (.inside none)

/-- Whether a command is meant for the line being edited. -/
def applies (e : Editing) (number : Nat) (c : Command) : Bool × Editing :=
  match c.from? with
  | none => (true, e)
  | some from' =>
    match c.to?, (e.ranges[number]?).getD .outside with
    | none, _ => e.meets from'
    | some _, .inside (some last) =>
      (e.number ≤ last, if last ≤ e.number then e.withRange number .over else e)
    | some (.address a), .inside none =>
      let (ends, e) := e.meets a
      (true, if ends then e.withRange number .over else e)
    | some _, .inside none => (true, e)
    | some ending, _ =>
      let (begins, e) := e.meets from'
      if begins then (true, e.enterRange number ending) else (false, e)

/-! ## Commands -/

/-- The part of the line up to its first end, if there are several lines. -/
def firstLine? (e : Editing) : Option (List Char) :=
  if e.pattern.contains e.stop then some (e.pattern.takeWhile (· != e.stop)) else none

/-- The characters of a line as they can be seen. -/
def visible (c : Char) : List Char :=
  match c with
  | '\\' => "\\\\".toList
  | '\x07' => "\\a".toList
  | '\x08' => "\\b".toList
  | '\x0c' => "\\f".toList
  | '\n' => "\\n".toList
  | '\r' => "\\r".toList
  | '\t' => "\\t".toList
  | '\x0b' => "\\v".toList
  | c =>
    if Quoting.isVisible c then [c]
    else '\\' :: (Numeral.padded 3 '0' (Numeral.inBase 8 c.toNat)).toList

/-- A line in characters that can be seen, in parts of a width. -/
def listed (width : Nat) (text : List Char) : List Char :=
  let (reversed, _) := text.foldl (fun (reversed, column) c =>
    let shown := visible c
    if width != 0 && width - 1 < column + shown.length then
      (shown.reverse ++ '\n' :: '\\' :: reversed, shown.length)
    else (shown.reverse ++ reversed, column + shown.length)) (([] : List Char), 0)
  reversed.reverse ++ ['$', '\n']

/-- What a letter alone says. -/
def plain (e : Editing) (letter : Char) : Next × Editing :=
  match letter with
  | '=' => (.goOn, e.printText (toString e.number ++ "\n").toList)
  | 'd' => (.done false, e)
  | 'D' =>
    match e.firstLine? with
    | none => (.done false, e)
    | some first => (.again, { e with pattern := e.pattern.drop (first.length + 1) })
  | 'F' => (.goOn, e.printText (e.file ++ "\n").toList)
  | 'g' => (.goOn, { e with pattern := e.hold, isEnded := e.isHoldEnded })
  | 'G' => (.goOn, { e with pattern := e.pattern ++ e.stop :: e.hold, isEnded := e.isHoldEnded })
  | 'h' => (.goOn, { e with hold := e.pattern, isHoldEnded := e.isEnded })
  | 'H' => (.goOn, { e with hold := e.hold ++ e.stop :: e.pattern, isHoldEnded := e.isEnded })
  | 'n' =>
    let e := if e.isSilent then e else e.printPattern
    match e.readNext false with
    | some e => (.goOn, e)
    | none => (.done false, e)
  | 'N' =>
    match e.readNext true with
    | some e => (.goOn, e)
    | none => (.done true, e)
  | 'p' => (.goOn, e.printPattern)
  | 'P' =>
    match e.firstLine? with
    | some first => (.goOn, e.print first true)
    | none => (.goOn, e.printPattern)
  | 'x' =>
    (.goOn, { e with
      pattern := e.hold, hold := e.pattern, isEnded := e.isHoldEnded, isHoldEnded := e.isEnded })
  | 'z' => (.goOn, { e with pattern := [] })
  | _ => (.goOn, e)

/-- Carry out a substitution. -/
def substitute (e : Editing) (s : Substitution) : Editing :=
  match e.expression? s.pattern with
  | none => e.lacksExpression
  | some (r, p, e) =>
    match { s with pattern := p }.changed? r e.pattern with
    | none => e
    | some changed =>
      let e := { e with pattern := changed, isReplaced := true }
      let e := if s.prints then e.printPattern else e
      match s.file? with
      | some name => e.write name e.pattern e.isEnded
      | none => e

/-- What an action does. -/
def act (e : Editing) (number : Nat) (c : Command) : Next × Editing :=
  match c.action with
  | .block _ | .blockEnd | .label => (.goOn, e)
  | .jump none goal => (.goTo goal, e)
  | .jump (some wanted) goal =>
    (if e.isReplaced == wanted then .goTo goal else .goOn, { e with isReplaced := false })
  | .append text => (.goOn, { e with queue := .text text :: e.queue })
  | .insert text => (.goOn, e.printText text)
  | .change text =>
    let isWithin := match (e.ranges[number]?).getD .outside with
      | .inside _ => c.to?.isSome && !c.isNegated
      | _ => false
    (.done false, if isWithin then e else e.printText text)
  | .readFile name => (.goOn, { e with queue := .file name :: e.queue })
  | .readLine name =>
    match e.readLineOf name with
    | (some line, e) => (.goOn, { e with queue := .text line :: e.queue })
    | (none, e) => (.goOn, e)
  | .write name => (.goOn, e.write name e.pattern e.isEnded)
  | .writeFirst name =>
    match e.firstLine? with
    | some first => (.goOn, e.write name first true)
    | none => (.goOn, e.write name e.pattern e.isEnded)
  | .substitute s => (.goOn, e.substitute s)
  | .exchange pairs =>
    (.goOn, { e with pattern := e.pattern.map fun c => (pairs.lookup c).getD c })
  | .quit prints status =>
    (.quit status, (if prints && !e.isSilent then e.printPattern else e).flush)
  | .list width? => (.goOn, e.printText (listed (width?.getD e.width) e.pattern))
  | .plain letter => e.plain letter

/-- Carry out commands from the one with a number on, at most so many. -/
def execute : Nat → Nat → Editing → Next × Editing
  | 0, _, e => (.quit 0, { e with problem? := some "too many commands" })
  | steps + 1, number, e =>
    if e.problem?.isSome then (.quit 1, e)
    else
      match e.commands[number]? with
      | none => (.done true, e)
      | some c =>
        let (fits, e) := e.applies number c
        if fits == c.isNegated then
          match c.action with
          | .block stop => execute steps (stop + 1) e
          | _ => execute steps (number + 1) e
        else
          match e.act number c with
          | (.goOn, e) => execute steps (number + 1) e
          | (.goTo goal, e) => execute steps goal e
          | (other, e) => (other, e)

/-- How many commands are carried out for a line. -/
def patience : Nat := 200000

/-- Carry out the script for the line being edited and for those that follow, at most so many times;
also the status if the script ended all of it. -/
def cycles : Nat → Editing → Option Nat × Editing
  | 0, e => (some 0, e)
  | steps + 1, e =>
    let (next, e) := execute patience 0 e
    let onward (e : Editing) : Option Nat × Editing :=
      match e.readNext false with
      | some e => cycles steps e
      | none => (none, e.flush)
    match next with
    | .quit status => (some status, e)
    | .again => cycles steps e.flush
    | .done prints => onward (if prints && !e.isSilent then e.printPattern else e)
    | .goOn | .goTo _ => onward e

/-- Carry out the script for some lines. -/
def run (e : Editing) (lines : List Line) : Option Nat × Editing :=
  let ranges := e.commands.map fun c =>
    match c.from? with
    | some (.line 0) => Range.inside none
    | _ => .outside
  let e := { e with rest := lines, number := 0, ranges }
  match e.readNext false with
  | some e => cycles (200000 + 2 * lines.length) e
  | none => (none, e)

end Editing
end Editor
end TaskScript
