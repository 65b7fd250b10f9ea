import TaskScript.Number.Numeral

/-!
# Signal — what processes may be told by their number

- `Signal.ofText?`   : the signal that a text describes
- `Signal.name`      : the name of a signal
- `Signal.wording`   : how the end of a process by a signal is told
- `Signal.isHarmless`: whether a signal that nobody minds changes nothing
-/

namespace TaskScript
namespace Shell
namespace Signal

/-- The signals with names, and how an end by them is told. -/
def table : List (Nat × String × String) :=
  [(1, "HUP", "Hangup"), (2, "INT", "Interrupt"), (3, "QUIT", "Quit"),
    (4, "ILL", "Illegal instruction"), (5, "TRAP", "Trace/breakpoint trap"), (6, "ABRT", "Aborted"),
    (7, "BUS", "Bus error"), (8, "FPE", "Floating point exception"), (9, "KILL", "Killed"),
    (10, "USR1", "User defined signal 1"), (11, "SEGV", "Segmentation fault"),
    (12, "USR2", "User defined signal 2"), (13, "PIPE", "Broken pipe"), (14, "ALRM", "Alarm clock"),
    (15, "TERM", "Terminated"), (17, "CHLD", "Child exited"), (18, "CONT", "Continued"),
    (19, "STOP", "Stopped (signal)"), (20, "TSTP", "Stopped"), (21, "TTIN", "Stopped (tty input)"),
    (22, "TTOU", "Stopped (tty output)"), (23, "URG", "Urgent I/O condition"),
    (24, "XCPU", "CPU time limit exceeded"), (25, "XFSZ", "File size limit exceeded"),
    (26, "VTALRM", "Virtual timer expired"), (27, "PROF", "Profiling timer expired"),
    (28, "WINCH", "Window changed"), (29, "IO", "I/O possible"), (30, "PWR", "Power failure"),
    (31, "SYS", "Bad system call")]

/-- The greatest number of a signal. -/
def last : Nat := 64

/-- The number of the first signal that has no meaning of its own. -/
def firstFree : Nat := 34

/-- The name of a signal; the number if it has none.  Number 0 stands for the end of a shell. -/
def name (signal : Nat) : String :=
  match table.lookup signal with
  | some (name, _) => name
  | none =>
    if signal = 0 then "EXIT"
    else if signal = firstFree then "RTMIN"
    else if signal = last then "RTMAX"
    else if firstFree < signal && signal < 50 then "RTMIN+" ++ toString (signal - firstFree)
    else if 50 ≤ signal && signal < last then "RTMAX-" ++ toString (last - signal)
    else toString signal

/-- All signals, and 0. -/
def all : List Nat := List.range (last + 1)

/-- The signal that a text describes, by its number or its name in letters of either case. -/
def ofText? (text : String) : Option Nat :=
  match Numeral.natural? text with
  | some n => if n ≤ last then some n else none
  | none =>
    let wanted := text.toUpper
    all.find? fun n => name n == wanted

/-- How the end of a process by a signal is told. -/
def wording (signal : Nat) : String :=
  match table.lookup signal with
  | some (_, words) => words
  | none =>
    if firstFree ≤ signal && signal ≤ last then "Real-time signal " ++ toString (signal - firstFree)
    else "Unknown signal " ++ toString signal

/-- Whether a signal that nobody minds changes nothing. -/
def isHarmless (signal : Nat) : Bool := [0, 17, 18, 23, 28].contains signal

/-- Whether a signal can neither be minded nor passed over. -/
def isFinal (signal : Nat) : Bool := signal == 9 || signal == 19

/-- The numbers of the signals that a shell does not talk about. -/
def isSilent (signal : Nat) : Bool := signal == 2 || signal == 13

end Signal
end Shell
end TaskScript
