import TaskScript.Shell.Builtin.Output
import TaskScript.Tool.Options

/-!
# Printing — tools that print their arguments

- `echo`   : as they are
- `yes`    : again and again
- `printf` : as a format asks for
-/

namespace TaskScript

open Shell (Machine)

namespace Tool

/-- How characters are written in arguments. -/
def argumentEscapes : Escape.Style := ⟨true, true, true⟩

/-- Whether an argument holds options of `echo`. -/
def isEchoOption (arg : String) : Bool :=
  match arg.toList with
  | '-' :: c :: rest => (c :: rest).all ("neE".toList.contains ·)
  | _ => false

/-- Print the arguments with blanks between them. -/
def echo : Tool := fun args m =>
  let letters := (args.takeWhile isEchoOption).flatMap fun arg => arg.toList.drop 1
  let text := " ".intercalate (args.dropWhile isEchoOption)
  let isEscaped := (letters.reverse.find? fun c => c == 'e' || c == 'E') == some 'e'
  let (chars, goesOn) :=
    if isEscaped then Escape.resolve argumentEscapes (text.length + 1) text.toList
    else (text.toList, true)
  m.printChars (if goesOn && !letters.contains 'n' then chars ++ ['\n'] else chars)

/-- Print a line again and again until nobody reads it. -/
def yes : Tool :=
  byOptions [] fun o m =>
    let line := (if o.operands.isEmpty then "y" else " ".intercalate o.operands) ++ "\n"
    let times := m.world.horizon / line.length + 1
    let m := m.printChars (List.replicate times line.toList).flatten
    { m with flow := .killed 13, world := { m.world with isShort := true } }

/-- Print arguments as a format asks for, after all complaints. -/
def printf : Tool := fun args m =>
  match if args.head? == some "--" then args.tail else args with
  | [] => misuse "missing operand" m
  | format :: args =>
    let p := Shell.Builtin.printAll format.toList (args.length + 1) ⟨args, [], [], false, none⟩
    let complaints := p.complaints ++ p.failure?.toList
    ((complaints.foldl (fun m message => object message m) m).printChars p.reversed.reverse).withStatus
      (if complaints.isEmpty then 0 else 1)

end Tool
end TaskScript
