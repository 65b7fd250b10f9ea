import TaskScript.File.Store

/-!
# Child — what a run needs to know of child processes

A run starts children through a function `Spawn`: given the program, its arguments, the directory,
whether its streams are captured, and the file system, a child is refused, or ends with a status, its
outputs and the file system as it leaves it.  Nothing else is assumed of children.
-/

namespace TaskScript

/-- A child process to be started. -/
structure ChildRequest where
  program : String
  args : List String
  directory : Path
  /-- Whether there is nothing for it to read and its outputs are collected; otherwise it shares the
  streams of the program. -/
  captured : Bool
  deriving DecidableEq, Repr

/-- How a child process ended. -/
inductive ExitStatus
  | exited (code : Nat)
  | signalled (signal : Nat)
  deriving DecidableEq, Repr

namespace ExitStatus

/-- Whether a child process was successful. -/
def isSuccess : ExitStatus → Bool
  | exited code => code == 0
  | signalled _ => false

/-- The exit code, absent if a signal ended the child process. -/
def code? : ExitStatus → Option Int
  | exited code => some code
  | signalled _ => none

/-- The names of the signals by number, from 1 on. -/
def signalNames : List String :=
  ["SIGHUP", "SIGINT", "SIGQUIT", "SIGILL", "SIGTRAP", "SIGABRT", "SIGBUS", "SIGFPE", "SIGKILL",
    "SIGUSR1", "SIGSEGV", "SIGUSR2", "SIGPIPE", "SIGALRM", "SIGTERM", "SIGSTKFLT", "SIGCHLD",
    "SIGCONT", "SIGSTOP", "SIGTSTP", "SIGTTIN", "SIGTTOU", "SIGURG", "SIGXCPU", "SIGXFSZ",
    "SIGVTALRM", "SIGPROF", "SIGWINCH", "SIGIO", "SIGPWR", "SIGSYS"]

/-- The wording of a status. -/
def text : ExitStatus → String
  | exited code => "exit status: " ++ toString code
  | signalled signal =>
    "signal: " ++ toString signal ++
      match signalNames[signal - 1]? with
      | some name => " (" ++ name ++ ")"
      | none => ""

end ExitStatus

/-- What a child process leaves behind. -/
structure ChildReply where
  status : ExitStatus
  out : ByteArray
  err : ByteArray
  store : Store

/-- Start a child process on a file system and wait for its end. -/
abbrev Spawn := ChildRequest → Store → Except SystemError ChildReply

end TaskScript
