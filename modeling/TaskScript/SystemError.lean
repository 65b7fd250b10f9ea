/-!
# SystemError — why a file or a process could not be used

One constructor for each cause, and the wording of all of them in `text`.
-/

namespace TaskScript

/-- A refusal of the operating system, or of something that stands in its place. -/
inductive SystemError
  /-- Nobody may do this. -/
  | notPermitted
  /-- A component of the path does not exist. -/
  | notFound
  /-- No process has the number. -/
  | noProcess
  /-- An argument of a process is longer than the system allows. -/
  | argumentsTooLong
  /-- The file is no program. -/
  | notExecutable
  /-- There is no device behind a name. -/
  | noDevice
  /-- A descriptor leads nowhere, or not in the direction wanted. -/
  | badDescriptor
  /-- The file may not be executed. -/
  | permissionDenied
  /-- Something is there already. -/
  | alreadyThere
  /-- A component of the path other than the last is no directory. -/
  | notDirectory
  /-- The operation does not apply to directories. -/
  | isDirectory
  /-- The operation makes no sense for what it is asked of. -/
  | invalid
  /-- Nothing more can be written. -/
  | full
  /-- The directory to be removed holds something. -/
  | notEmpty
  /-- A component of the path, or the path, is longer than the system allows. -/
  | nameTooLong
  /-- Links lead to links again and again. -/
  | tooManyLinks
  /-- A path holds the character NUL. -/
  | nulInPath
  /-- An argument of a process holds the character NUL. -/
  | nulInArgument
  /-- The bytes of a file are not UTF-8. -/
  | invalidUtf8
  /-- Any other cause, in its own words. -/
  | other (words : String)
  deriving DecidableEq, Repr, Inhabited

namespace SystemError

/-- The number that the system gives to a cause. -/
def number? : SystemError → Option Nat
  | notPermitted => some 1
  | notFound => some 2
  | argumentsTooLong => some 7
  | notExecutable => some 8
  | noProcess => some 3
  | noDevice => some 6
  | badDescriptor => some 9
  | permissionDenied => some 13
  | alreadyThere => some 17
  | notDirectory => some 20
  | isDirectory => some 21
  | invalid => some 22
  | full => some 28
  | nameTooLong => some 36
  | notEmpty => some 39
  | tooManyLinks => some 40
  | nulInPath | nulInArgument | invalidUtf8 | other _ => none

/-- A cause in words. -/
def reason : SystemError → String
  | notPermitted => "Operation not permitted"
  | notFound => "No such file or directory"
  | notExecutable => "Exec format error"
  | noProcess => "No such process"
  | noDevice => "No such device or address"
  | badDescriptor => "Bad file descriptor"
  | invalid => "Invalid argument"
  | full => "No space left on device"
  | tooManyLinks => "Too many levels of symbolic links"
  | argumentsTooLong => "Argument list too long"
  | permissionDenied => "Permission denied"
  | alreadyThere => "File exists"
  | notDirectory => "Not a directory"
  | isDirectory => "Is a directory"
  | nameTooLong => "File name too long"
  | notEmpty => "Directory not empty"
  | nulInPath => "file name contained an unexpected NUL byte"
  | nulInArgument => "nul byte found in provided data"
  | invalidUtf8 => "stream did not contain valid UTF-8"
  | other words => words

/-- The wording of a cause: the words, and the number if there is one. -/
def text (cause : SystemError) : String :=
  match cause.number? with
  | some n => cause.reason ++ " (os error " ++ toString n ++ ")"
  | none => cause.reason

end SystemError
end TaskScript
