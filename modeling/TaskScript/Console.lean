import TaskScript.SystemError

/-!
# Console — where output and diagnostics go

A console has two sinks, for output and for errors.  A sink may be anything that can be written to: it
answers each piece by taking it or by refusing it, and the answer may depend on all that has been
written before.  It may take a part of what it refuses.

- `Piece`         : what is written at once
- `Level`         : the kinds of diagnostics, with their tags and colours
- `Verbosity`     : how many kinds of diagnostics are shown
- `Sink`          : what has been written, and what becomes of what is written next
- `Console.diagnose` : a diagnostic; that it cannot be written does not matter
- `Console.hear`  : the outputs of a child process, captured or not
-/

namespace TaskScript

/-! ## Diagnostics -/

/-- The kinds of diagnostics. -/
inductive Level
  | info
  | run
  | warn
  | error
  | debug
  deriving DecidableEq, Repr

/-- How much is shown. -/
inductive Verbosity
  | silent
  | quiet
  | normal
  | verbose
  deriving DecidableEq, Repr

/-- The place of a verbosity in their order. -/
def Verbosity.rank : Verbosity → Nat
  | silent => 0
  | quiet => 1
  | normal => 2
  | verbose => 3

namespace Level

/-- The least verbosity at which a kind is shown. -/
def threshold : Level → Verbosity
  | info => .normal
  | run => .normal
  | warn => .quiet
  | error => .quiet
  | debug => .verbose

/-- Whether a kind is shown at a verbosity. -/
def shownAt (level : Level) (verbosity : Verbosity) : Bool :=
  decide (level.threshold.rank ≤ verbosity.rank)

/-- The tag in front of the message. -/
def tag : Level → String
  | info => "[INFO]"
  | run => "[RUN]"
  | warn => "[WARN]"
  | error => "[ERROR]"
  | debug => "[DEBUG]"

/-- The number of the terminal style of the tag: four colours, and faint for debugging. -/
def styleCode : Level → Nat
  | info => 32
  | run => 36
  | warn => 33
  | error => 31
  | debug => 2

/-- The tag, between terminal sequences if it is styled. -/
def styledTag (level : Level) (styled : Bool) : String :=
  if styled then "\x1b[" ++ toString level.styleCode ++ "m" ++ level.tag ++ "\x1b[0m" else level.tag

end Level

/-! ## Sinks -/

/-- What is written at once. -/
inductive Piece
  /-- A text of the program itself. -/
  | text (content : String)
  /-- A diagnostic, on a line of its own. -/
  | diagnostic (level : Level) (styled : Bool) (message : String)
  /-- The output of a child process. -/
  | child (output : ByteArray)

/-- The bytes of a piece. -/
def Piece.bytes : Piece → ByteArray
  | text content => content.toUTF8
  | diagnostic level styled message => (level.styledTag styled ++ " " ++ message ++ "\n").toUTF8
  | child output => output

/-- Why a piece was not taken as a whole. -/
structure Refusal where
  /-- How many of its bytes had been taken by then. -/
  taken : Nat
  cause : SystemError
  deriving DecidableEq, Repr

/-- A piece that was to be written, and its refusal if it was refused. -/
structure Writing where
  piece : Piece
  refusal? : Option Refusal

/-- The bytes that were taken. -/
def Writing.bytes (writing : Writing) : ByteArray :=
  match writing.refusal? with
  | none => writing.piece.bytes
  | some refusal => writing.piece.bytes.extract 0 refusal.taken

/-- What was to be written so far, and what the sink answers to a piece that is to be written next. -/
structure Sink where
  log : List Writing
  answer : List Writing → Piece → Option Refusal

namespace Sink

/-- A sink that takes everything and has taken nothing yet. -/
def empty : Sink := ⟨[], fun _ _ => none⟩

/-- Note what has become of a piece. -/
def record (sink : Sink) (piece : Piece) (refusal? : Option Refusal) : Sink :=
  { sink with log := sink.log ++ [⟨piece, refusal?⟩] }

/-- Write a piece, and tell why that was refused if it was. -/
def write (sink : Sink) (piece : Piece) : Option SystemError × Sink :=
  let refusal? := sink.answer sink.log piece
  (refusal?.map Refusal.cause, sink.record piece refusal?)

/-- All bytes taken so far. -/
def bytes (sink : Sink) : ByteArray :=
  sink.log.foldl (fun all writing => all ++ writing.bytes) ByteArray.empty

end Sink

/-! ## Consoles -/

/-- The sinks for output and errors, and how they are used. -/
structure Console where
  out : Sink
  err : Sink
  /-- Whether the outputs of child processes are collected and passed on; otherwise children write to
  where the sinks lead themselves. -/
  captures : Bool
  /-- Whether tags are styled. -/
  styled : Bool

namespace Console

/-- A console over the streams of the program itself, which its children share. -/
def stdio (out err : Sink) (styled : Bool) : Console := ⟨out, err, false, styled⟩

/-- A console over sinks to which the outputs of children are passed on. -/
def capture (out err : Sink) (styled : Bool) : Console := ⟨out, err, true, styled⟩

/-- Write a piece to the output. -/
def print (console : Console) (piece : Piece) : Option SystemError × Console :=
  let written := console.out.write piece
  (written.1, { console with out := written.2 })

/-- Write a piece to the errors. -/
def complain (console : Console) (piece : Piece) : Option SystemError × Console :=
  let written := console.err.write piece
  (written.1, { console with err := written.2 })

/-- Write a diagnostic if its kind is shown. -/
def diagnose (console : Console) (verbosity : Verbosity) (level : Level) (message : String) :
    Console :=
  if level.shownAt verbosity then
    (console.complain (.diagnostic level console.styled message)).2
  else
    console

/-- Pass on the output of a child process, then its errors.  The first refusal ends it. -/
def forward (console : Console) (out err : ByteArray) : Option SystemError × Console :=
  match console.print (.child out) with
  | (some cause, console) => (some cause, console)
  | (none, console) => console.complain (.child err)

/-- The outputs of a child process are passed on if they have been captured.  Otherwise they have been
written without asking. -/
def hear (console : Console) (out err : ByteArray) : Option SystemError × Console :=
  if console.captures then
    console.forward out err
  else
    (none, { console with
      out := console.out.record (.child out) none
      err := console.err.record (.child err) none })

end Console
end TaskScript
